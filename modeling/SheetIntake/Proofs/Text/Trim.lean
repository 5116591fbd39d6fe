import Mathlib.Data.List.DropRight
import SheetIntake.Text.Blank

/-! # Trimmed texts

    A text is *clean* when trimming leaves it as it is and something is left of it.  This can be
    seen at its ends: it has some, and neither is blank (`clean_iff`).  So a text that is not
    blank becomes clean when it is trimmed, and one made of two parts is clean if it is so at
    the outer end of either. -/

namespace SheetIntake.Text

/-! ## Characters by their codes -/

/-- What has been checked code by code holds of every character with one of the codes. -/
theorem of_codes {P : Char → Prop} {codes : List Nat} (table : ∀ k ∈ codes, P (Char.ofNat k))
    {c : Char} (h : c.toNat ∈ codes) : P c := by
  have hc := table c.toNat h
  rwa [Char.ofNat_toNat] at hc

/-! ## Blank texts -/

theorem trimStart_eq_nil {cs : List Char} : trimStart cs = [] ↔ cs.all isBlankChar = true := by
  rw [trimStart, List.dropWhile_eq_nil_iff, List.all_eq_true]

theorem trimEnd_eq_nil {cs : List Char} : trimEnd cs = [] ↔ cs.all isBlankChar = true := by
  rw [trimEnd, List.reverse_eq_nil_iff, trimStart_eq_nil, List.all_reverse]

/-- Only blank texts have nothing left when they are trimmed. -/
theorem trimChars_eq_nil {cs : List Char} : trimChars cs = [] ↔ cs.all isBlankChar = true := by
  rw [trimChars, trimEnd_eq_nil]
  constructor
  · -- What is left at the front is not blank.
    intro h
    rw [← trimStart_eq_nil]
    by_contra hne
    have hfirst : isBlankChar ((trimStart cs).head hne) = false :=
      List.head_dropWhile_not isBlankChar hne
    have hblank : isBlankChar ((trimStart cs).head hne) = true :=
      List.all_eq_true.1 h _ (List.head_mem hne)
    simp [hfirst] at hblank
  · intro h
    rw [trimStart_eq_nil.2 h]
    rfl

theorem trim_ne_empty {s : String} (h : isBlank s = false) : trim s ≠ "" := by
  intro hempty
  have hnil : trimChars s.toList = [] := String.ofList_eq_empty_iff.1 hempty
  rw [trimChars_eq_nil] at hnil
  simp [isBlank, hnil] at h

theorem isBlank_append (s t : String) : isBlank (s ++ t) = (isBlank s && isBlank t) := by
  rw [isBlank, String.toList_append, List.all_append, isBlank, isBlank]

/-! ## The ends of a text -/

/-- Neither end is blank. -/
structure HasFullEnds (cs : List Char) : Prop where
  front : ∀ c ∈ cs.head?, isBlankChar c = false
  back : ∀ c ∈ cs.getLast?, isBlankChar c = false

theorem trimEnd_eq_rdropWhile (cs : List Char) : trimEnd cs = cs.rdropWhile isBlankChar := rfl

theorem hasFullEnds_trimChars (cs : List Char) : HasFullEnds (trimChars cs) := by
  rw [trimChars, trimEnd_eq_rdropWhile]
  constructor
  · -- Cutting at the back leaves the front as it is.
    intro c hc
    obtain ⟨ds, hds⟩ := List.head?_eq_some_iff.1 hc
    obtain ⟨rest, hrest⟩ := List.rdropWhile_prefix isBlankChar (l := trimStart cs)
    have hhead : (cs.dropWhile isBlankChar).head? = some c := by
      show (trimStart cs).head? = some c
      rw [← hrest, hds]
      rfl
    have hnot := List.head?_dropWhile_not isBlankChar cs
    simpa only [hhead] using hnot
  · intro c hc
    have hne : (trimStart cs).rdropWhile isBlankChar ≠ [] := by
      intro hnil
      simp [hnil] at hc
    have hlast := List.rdropWhile_last_not isBlankChar (trimStart cs) hne
    rw [List.getLast?_eq_some_getLast hne, Option.mem_some_iff] at hc
    rw [← hc]
    exact Bool.eq_false_iff.2 hlast

theorem trimChars_of_fullEnds {cs : List Char} (h : HasFullEnds cs) : trimChars cs = cs := by
  have hstart : trimStart cs = cs := by
    rw [trimStart, List.dropWhile_eq_self_iff]
    intro hpos
    rw [h.front cs[0] (by simp [List.head?_eq_getElem?])]
    simp
  rw [trimChars, hstart, trimEnd_eq_rdropWhile, List.rdropWhile_eq_self_iff]
  intro hne
  rw [h.back (cs.getLast hne) (by simp [List.getLast?_eq_some_getLast hne])]
  simp

/-- Trimming takes nothing but white space away. -/
theorem exists_blanks_around (cs : List Char) :
    ∃ before after, cs = before ++ trimChars cs ++ after ∧
      (∀ c ∈ before, isBlankChar c = true) ∧ (∀ c ∈ after, isBlankChar c = true) := by
  refine ⟨cs.takeWhile isBlankChar, (trimStart cs).rtakeWhile isBlankChar, ?_,
    fun c hc => List.mem_takeWhile_imp hc, fun c hc => List.mem_rtakeWhile_imp hc⟩
  rw [trimChars, trimEnd_eq_rdropWhile, List.append_assoc, List.rdropWhile_append_rtakeWhile,
    trimStart, List.takeWhile_append_dropWhile]

/-- To what is read off a text one character at a time trimming makes no difference, if white space
gives nothing. -/
theorem flatMap_trimChars {α : Type} {f : Char → List α}
    (h : ∀ c, isBlankChar c = true → f c = []) (cs : List Char) :
    (trimChars cs).flatMap f = cs.flatMap f := by
  obtain ⟨before, after, hcs, hbefore, hafter⟩ := exists_blanks_around cs
  have hfront : before.flatMap f = [] := List.flatMap_eq_nil_iff.2 fun c hc => h c (hbefore c hc)
  have hback : after.flatMap f = [] := List.flatMap_eq_nil_iff.2 fun c hc => h c (hafter c hc)
  conv_rhs => rw [hcs]
  rw [List.flatMap_append, List.flatMap_append, hfront, hback, List.nil_append, List.append_nil]

/-! ## Clean texts -/

/-- Trimming leaves the text as it is, and something is left of it. -/
structure Clean (s : String) : Prop where
  trimmed : trim s = s
  full : isBlank s = false

theorem clean_iff {s : String} : Clean s ↔ s.toList ≠ [] ∧ HasFullEnds s.toList := by
  constructor
  · rintro ⟨htrim, hfull⟩
    have hchars : trimChars s.toList = s.toList := by
      rw [← String.toList_ofList (l := trimChars s.toList)]
      exact congrArg String.toList htrim
    refine ⟨?_, hchars ▸ hasFullEnds_trimChars s.toList⟩
    intro hnil
    simp [isBlank, hnil] at hfull
  · rintro ⟨hne, hends⟩
    refine ⟨?_, ?_⟩
    · rw [trim, trimChars_of_fullEnds hends, String.ofList_toList]
    · rw [isBlank, List.all_eq_false]
      obtain ⟨c, cs, hcs⟩ := List.exists_cons_of_ne_nil hne
      refine ⟨c, by simp [hcs], ?_⟩
      rw [hends.front c (by simp [hcs])]
      simp

theorem clean_trim {s : String} (h : isBlank s = false) : Clean (trim s) := by
  refine clean_iff.2 ⟨?_, ?_⟩
  · rw [ne_eq, String.toList_eq_nil_iff]
    exact trim_ne_empty h
  · rw [trim, String.toList_ofList]
    exact hasFullEnds_trimChars s.toList

theorem clean_of_trimmed? {s t : String} (h : trimmed? s = some t) : Clean t := by
  unfold trimmed? at h
  split at h
  · cases h
  · rename_i hblank
    obtain rfl := Option.some.inj h
    exact clean_trim (by simpa using hblank)

theorem Clean.trimmed?_eq {s : String} (h : Clean s) : trimmed? s = some s := by
  rw [trimmed?, h.full, h.trimmed]
  rfl

theorem Clean.ne_empty {s : String} (h : Clean s) : s ≠ "" := by
  rw [ne_eq, ← String.toList_eq_nil_iff]
  exact (clean_iff.1 h).1

/-- A text in two parts is clean if it is so at its outer ends. -/
theorem clean_append {s t : String} (hs : s.toList ≠ []) (ht : t.toList ≠ [])
    (hfront : ∀ c ∈ s.toList.head?, isBlankChar c = false)
    (hback : ∀ c ∈ t.toList.getLast?, isBlankChar c = false) : Clean (s ++ t) := by
  refine clean_iff.2 ⟨by simp [hs], ⟨fun c hc => ?_, fun c hc => ?_⟩⟩
  · rw [String.toList_append, List.head?_append_of_ne_nil _ hs] at hc
    exact hfront c hc
  · rw [String.toList_append, List.getLast?_append_of_ne_nil _ ht] at hc
    exact hback c hc

/-! ## Texts without white space -/

/-- No character is blank. -/
def Solid (cs : List Char) : Prop := ∀ c ∈ cs, isBlankChar c = false

theorem Solid.nil : Solid [] := by
  intro c hc
  cases hc

theorem Solid.cons {c : Char} {cs : List Char} (hc : isBlankChar c = false) (hcs : Solid cs) :
    Solid (c :: cs) :=
  List.forall_mem_cons.2 ⟨hc, hcs⟩

theorem Solid.append {cs ds : List Char} (hcs : Solid cs) (hds : Solid ds) : Solid (cs ++ ds) :=
  List.forall_mem_append.2 ⟨hcs, hds⟩

theorem clean_of_solid {s : String} (hne : s.toList ≠ []) (h : Solid s.toList) : Clean s :=
  clean_iff.2 ⟨hne, fun c hc => h c (List.mem_of_head? hc),
    fun c hc => h c (List.mem_of_getLast? hc)⟩

/-! ## White space around a text -/

theorem trimStart_append {blanks cs : List Char} (h : ∀ c ∈ blanks, isBlankChar c = true)
    (hcs : ∀ c ∈ cs.head?, isBlankChar c = false) : trimStart (blanks ++ cs) = cs := by
  rw [trimStart, List.dropWhile_append_of_pos h]
  cases cs with
  | nil => rfl
  | cons c cs =>
    have hc : isBlankChar c = false := hcs c rfl
    rw [List.dropWhile_cons_of_neg (by simp [hc])]

theorem trimEnd_append {cs blanks : List Char} (h : ∀ c ∈ blanks, isBlankChar c = true)
    (hcs : ∀ c ∈ cs.getLast?, isBlankChar c = false) : trimEnd (cs ++ blanks) = cs := by
  have hreverse : trimStart (blanks.reverse ++ cs.reverse) = cs.reverse := by
    refine trimStart_append (fun c hc => h c (List.mem_reverse.1 hc)) fun c hc => hcs c ?_
    rwa [List.head?_reverse] at hc
  rw [trimEnd, List.reverse_append, hreverse, List.reverse_reverse]

/-- Trimming takes away the white space around a clean text. -/
theorem trimmed?_around {before s after : String} (hs : Clean s) (hbefore : isBlank before = true)
    (hafter : isBlank after = true) : trimmed? (before ++ s ++ after) = some s := by
  obtain ⟨hne, hends⟩ := clean_iff.1 hs
  obtain ⟨c, cs, hcs⟩ := List.exists_cons_of_ne_nil hne
  have hstart : trimStart (before.toList ++ s.toList ++ after.toList) =
      s.toList ++ after.toList := by
    rw [List.append_assoc]
    refine trimStart_append (List.all_eq_true.1 hbefore) fun b hb => hends.front b ?_
    rwa [List.head?_append_of_ne_nil _ hne] at hb
  have htrim : trim (before ++ s ++ after) = s := by
    rw [trim, trimChars, String.toList_append, String.toList_append, hstart,
      trimEnd_append (List.all_eq_true.1 hafter) hends.back, String.ofList_toList]
  have hfull : isBlank (before ++ s ++ after) = false := by
    have hc : isBlankChar c = false := hends.front c (by simp [hcs])
    rw [isBlank, List.all_eq_false]
    exact ⟨c, by simp [hcs], by simp [hc]⟩
  rw [trimmed?, hfull, htrim]
  rfl

theorem not_isBlankChar_of_isDigit {c : Char} (h : c.isDigit = true) : isBlankChar c = false := by
  simp only [Char.isDigit, Bool.and_eq_true, decide_eq_true_eq, ge_iff_le, UInt32.le_iff_toNat_le]
    at h
  have hlow : 48 ≤ c.toNat := h.1
  have hhigh : c.toNat ≤ 57 := h.2
  simp only [isBlankChar, Bool.or_eq_false_iff, Bool.and_eq_false_iff, decide_eq_false_iff_not,
    beq_eq_false_iff_ne]
  omega

/-- A text that ends in a number is clean if its front is. -/
theorem clean_append_repr {s : String} (hs : s.toList ≠ [])
    (hfront : ∀ c ∈ s.toList.head?, isBlankChar c = false) (n : Nat) : Clean (s ++ n.repr) := by
  refine clean_append hs ?_ hfront fun c hc => ?_
  · rw [Nat.toList_repr]
    exact Nat.toDigits_ne_nil
  · have hmem : c ∈ n.repr.toList := List.mem_of_getLast? hc
    rw [Nat.toList_repr] at hmem
    exact not_isBlankChar_of_isDigit (Nat.isDigit_of_mem_toDigits (by omega) (by omega) hmem)

end SheetIntake.Text
