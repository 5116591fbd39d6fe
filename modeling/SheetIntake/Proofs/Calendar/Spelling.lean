import SheetIntake.Calendar.Notation
import SheetIntake.Proofs.Number.Digits

/-! # Spellings of a notation

    A notation is read item by item, and each item takes as much as it can.  Here the texts of a
    notation are described without a reader: a text is a *spelling* if it can be cut into one
    piece for each item (`Spelled`).  In the accepted notations no piece can go on into the next
    one (`separated`), so the greedy reader takes a spelling apart in the one way there is, and
    `read?` gives a date exactly for the spellings of real readings (`read?_eq_some_iff`). -/

namespace SheetIntake.Notation

/-! ## Pieces -/

/-- White space and nothing else. -/
def Blank (cs : List Char) : Prop := ∀ c ∈ cs, Text.isBlankChar c = true

/-- The digits of a year: four at most, unless there is a sign in front of them. -/
inductive YearFigures : List Char → Int → Prop where
  | plain {ds : List Char} (h : Digits 1 4 ds) : YearFigures ds (digitsValue ds)
  | positive {ds : List Char} (h : Digits 1 ds.length ds) : YearFigures ('+' :: ds) (digitsValue ds)
  | negative {ds : List Char} (h : Digits 1 ds.length ds) :
      YearFigures ('-' :: ds) (-(digitsValue ds : Int))

/-- Universal time, or hours and minutes ahead of it or behind it. -/
inductive Offset : List Char → Prop where
  | universal {c : Char} (h : c = 'Z' ∨ c = 'z') : Offset [c]
  | clock {sign : Char} {hours minutes : List Char}
      (hsign : sign = '+' ∨ sign = '-' ∨ sign = '\u2212')
      (hhours : Digits 2 2 hours) (hminutes : Digits 2 2 minutes)
      (hreal : digitsValue hours ≤ 23 ∧ digitsValue minutes ≤ 59) :
      Offset (sign :: (hours ++ ':' :: minutes))

/-- A piece of text for one item, with the reading before and after it. -/
inductive Piece (r : Reading) : Item → List Char → Reading → Prop where
  | year {blanks figures : List Char} {n : Int} (hblanks : Blank blanks)
      (h : YearFigures figures n) :
      Piece r (.number .year) (blanks ++ figures) (r.set .year n)
  | number {p : Part} {blanks ds : List Char} (hp : p ≠ .year) (hblanks : Blank blanks)
      (h : Digits 1 2 ds) : Piece r (.number p) (blanks ++ ds) (r.set p (digitsValue ds))
  | digits {p : Part} {width : Nat} {ds : List Char} (h : Digits width width ds) :
      Piece r (.digits p width) ds (r.set p (digitsValue ds))
  | oneOf {allowed : List Char} {c : Char} (h : c ∈ allowed) : Piece r (.oneOf allowed) [c] r
  | noFraction : Piece r .fraction [] r
  | fraction {ds : List Char} (h : Digits 1 ds.length ds) : Piece r .fraction ('.' :: ds) r
  | offset {cs : List Char} (h : Offset cs) : Piece r .offset cs r

/-- A text for a whole notation, piece by piece. -/
inductive Spelled : Reading → Notation → List Char → Reading → Prop where
  | nil {r : Reading} : Spelled r [] [] r
  | cons {r r' r'' : Reading} {i : Item} {n : Notation} {cs cs' : List Char}
      (first : Piece r i cs r') (rest : Spelled r' n cs' r'') :
      Spelled r (i :: n) (cs ++ cs') r''

theorem Spelled.append {r r' r'' : Reading} {n n' : Notation} {cs cs' : List Char}
    (h : Spelled r n cs r') (h' : Spelled r' n' cs' r'') : Spelled r (n ++ n') (cs ++ cs') r'' := by
  induction h with
  | nil => exact h'
  | cons first _ ih =>
    rw [List.cons_append, List.append_assoc]
    exact .cons first (ih h')

/-- A character that has to stand there. -/
theorem Spelled.character {r r' : Reading} {n : Notation} {allowed cs : List Char} {c : Char}
    (h : c ∈ allowed) (rest : Spelled r n cs r') :
    Spelled r (.oneOf allowed :: n) (c :: cs) r' :=
  .cons (.oneOf h) rest

/-! ## Numbers -/

section
variable {width : Nat} {ds rest cs : List Char}

theorem takeNumber_digits (h : Digits 1 width ds) (hrest : NoDigitFirst rest) :
    takeNumber width (ds ++ rest) = some (digitsValue ds, rest) := by
  have htake : (ds ++ rest).take width = ds ++ rest.take (width - ds.length) := by
    rw [List.take_append, List.take_of_length_le h.notMore]
  have hstop : NoDigitFirst (rest.take (width - ds.length)) := by
    intro c hc
    refine hrest c ?_
    rw [List.head?_take] at hc
    split at hc
    · cases hc
    · exact hc
  obtain ⟨c, more, rfl, -⟩ := h.exists_cons Nat.one_pos
  simp only [takeNumber, htake, takeWhile_digits h.isDigit hstop, List.isEmpty_cons,
    Bool.false_eq_true, if_false, List.drop_left]

/-- Where there are more digits than a number takes, the others are left. -/
theorem takeNumber_of_long (hwidth : 0 < width) (h : ∀ c ∈ ds, c.isDigit = true)
    (hlong : width ≤ ds.length) :
    takeNumber width (ds ++ rest) = some (digitsValue (ds.take width), ds.drop width ++ rest) := by
  have htake : (ds ++ rest).take width = ds.take width := List.take_append_of_le_length hlong
  have hlength : (ds.take width).length = width := by
    rw [List.length_take]
    omega
  have hall : (ds.take width).takeWhile Char.isDigit = ds.take width := by
    rw [List.takeWhile_eq_self_iff]
    exact fun c hc => h c (List.mem_of_mem_take hc)
  have hne : (ds.take width).isEmpty = false := by
    rw [List.isEmpty_eq_false_iff, ← List.length_pos_iff]
    omega
  simp only [takeNumber, htake, hall, hne, Bool.false_eq_true, if_false, hlength,
    List.drop_append_of_le_length hlong]

theorem exists_digits_of_takeNumber {n : Nat} (h : takeNumber width cs = some (n, rest)) :
    ∃ ds, Digits 1 width ds ∧ cs = ds ++ rest ∧ n = digitsValue ds := by
  generalize hds : (cs.take width).takeWhile Char.isDigit = ds at h
  simp only [takeNumber, hds, List.isEmpty_iff, Option.ite_none_left_eq_some,
    Option.some.injEq, Prod.mk.injEq] at h
  obtain ⟨hne, rfl, rfl⟩ := h
  have hfront : ds <+: cs.take width := hds ▸ List.takeWhile_prefix _
  refine ⟨ds, ⟨?_, ?_, ?_⟩, ?_, rfl⟩
  · intro c hc
    rw [← hds] at hc
    exact List.mem_takeWhile_imp hc
  · exact List.length_pos_iff.2 hne
  · exact Nat.le_trans hfront.length_le (List.length_take_le ..)
  · exact (List.prefix_iff_eq_append.1 (hfront.trans (List.take_prefix ..))).symm

theorem takeDigits_digits (h : Digits width width ds) (rest : List Char) :
    takeDigits width (ds ++ rest) = some (digitsValue ds, rest) := by
  have hlength : ds.length = width := Nat.le_antisymm h.notMore h.enough
  have hall : ds.all Char.isDigit = true := List.all_eq_true.2 h.isDigit
  simp only [takeDigits, List.take_left' hlength, List.drop_left' hlength, hlength, hall,
    decide_true, Bool.and_self, if_true]

theorem exists_digits_of_takeDigits {n : Nat} (h : takeDigits width cs = some (n, rest)) :
    ∃ ds, Digits width width ds ∧ cs = ds ++ rest ∧ n = digitsValue ds := by
  simp only [takeDigits, Bool.and_eq_true, decide_eq_true_eq, List.all_eq_true,
    Option.ite_none_right_eq_some, Option.some.injEq, Prod.mk.injEq] at h
  obtain ⟨⟨hlength, hdigits⟩, rfl, rfl⟩ := h
  exact ⟨cs.take width, ⟨hdigits, hlength.ge, hlength.le⟩, (List.take_append_drop ..).symm, rfl⟩

/-- Digits are not cut off where a text has less than so many at its front. -/
theorem takeDigits_eq_none {c : Char} (h : ds.length < width) (hc : c.isDigit = false) :
    takeDigits width (ds ++ c :: rest) = none := by
  have hmem : c ∈ (ds ++ c :: rest).take width := by
    rw [List.take_append, List.mem_append]
    right
    obtain ⟨k, hk⟩ : ∃ k, width - ds.length = k + 1 := ⟨width - ds.length - 1, by omega⟩
    rw [hk, List.take_succ_cons]
    exact List.mem_cons_self ..
  have hall : ((ds ++ c :: rest).take width).all Char.isDigit = false := by
    rw [List.all_eq_false]
    exact ⟨c, hmem, by simp [hc]⟩
  simp only [takeDigits, hall, Bool.and_false, Bool.false_eq_true, if_false]

end

/-! ## White space in front -/

theorem exists_blank_of_trimStart (cs : List Char) :
    ∃ blanks, Blank blanks ∧ cs = blanks ++ Text.trimStart cs :=
  ⟨cs.takeWhile Text.isBlankChar, fun _ hc => List.mem_takeWhile_imp hc,
    List.takeWhile_append_dropWhile.symm⟩

/-! ## Years -/

section
variable {figures rest cs : List Char} {n : Int}

theorem YearFigures.exists_cons (h : YearFigures figures n) :
    ∃ c cs, figures = c :: cs ∧ Text.isBlankChar c = false := by
  cases h with
  | plain hds =>
    obtain ⟨c, cs, rfl, hc⟩ := hds.exists_cons Nat.one_pos
    exact ⟨c, cs, rfl, Text.not_isBlankChar_of_isDigit hc⟩
  | positive => exact ⟨'+', _, rfl, by decide⟩
  | negative => exact ⟨'-', _, rfl, by decide⟩

theorem takeYear_of_isDigit {c : Char} (hc : c.isDigit = true) (cs : List Char) :
    takeYear (c :: cs) = (takeNumber 4 (c :: cs)).map fun (n, rest) => ((n : Int), rest) := by
  have hminus : c ≠ '-' := ne_of_isDigit hc rfl
  have hplus : c ≠ '+' := ne_of_isDigit hc rfl
  unfold takeYear
  split
  · rename_i heq
    exact absurd (List.cons.inj heq).1 hminus
  · rename_i heq
    exact absurd (List.cons.inj heq).1 hplus
  · rfl

theorem takeYear_figures (h : YearFigures figures n) (hrest : NoDigitFirst rest) :
    takeYear (figures ++ rest) = some (n, rest) := by
  cases h with
  | plain hds =>
    obtain ⟨c, cs, rfl, hc⟩ := hds.exists_cons Nat.one_pos
    rw [List.cons_append, takeYear_of_isDigit hc, ← List.cons_append, takeNumber_digits hds hrest]
    rfl
  | @positive ds hds =>
    show (takeNumber (ds ++ rest).length (ds ++ rest)).map _ = _
    rw [takeNumber_digits (hds.within_append rest) hrest]
    rfl
  | @negative ds hds =>
    show (takeNumber (ds ++ rest).length (ds ++ rest)).map _ = _
    rw [takeNumber_digits (hds.within_append rest) hrest]
    rfl

theorem exists_figures_of_takeYear (h : takeYear cs = some (n, rest)) :
    ∃ figures, YearFigures figures n ∧ cs = figures ++ rest := by
  have hsigned : ∀ {width : Nat} {ds : List Char}, Digits 1 width ds → Digits 1 ds.length ds :=
    fun hds => ⟨hds.isDigit, hds.enough, Nat.le_refl _⟩
  unfold takeYear at h
  split at h <;>
    (obtain ⟨⟨value, _⟩, htake, heq⟩ := Option.map_eq_some_iff.1 h
     obtain ⟨rfl, rfl⟩ := Prod.mk.inj heq
     obtain ⟨ds, hds, rfl, rfl⟩ := exists_digits_of_takeNumber htake)
  · exact ⟨'-' :: ds, .negative (hsigned hds), rfl⟩
  · exact ⟨'+' :: ds, .positive (hsigned hds), rfl⟩
  · exact ⟨ds, .plain hds, rfl⟩

end

/-! ## Offsets -/

theorem dropOffset_append {cs : List Char} (h : Offset cs) (rest : List Char) :
    dropOffset (cs ++ rest) = some rest := by
  cases h with
  | universal hc => exact if_pos hc
  | @clock sign hours minutes hsign hhours hminutes hreal =>
    have hletter : ¬(sign = 'Z' ∨ sign = 'z') := by
      rcases hsign with rfl | rfl | rfl <;> decide
    simp only [List.cons_append, List.append_assoc, dropOffset, hletter, if_false, hsign, if_true,
      takeDigits_digits hhours, takeDigits_digits hminutes, hreal, and_self]

theorem exists_offset_of_dropOffset {cs rest : List Char} (h : dropOffset cs = some rest) :
    ∃ front, Offset front ∧ cs = front ++ rest := by
  cases cs with
  | nil => cases h
  | cons c cs =>
    rw [dropOffset] at h
    split at h
    · rename_i hletter
      obtain rfl := Option.some.inj h
      exact ⟨[c], .universal hletter, rfl⟩
    · split at h
      · rename_i hsign
        split at h
        · rename_i hours afterColon hhours
          obtain ⟨hs, hhs, rfl, rfl⟩ := exists_digits_of_takeDigits hhours
          split at h
          · rename_i minutes afterMinutes hminutes
            obtain ⟨ms, hms, rfl, rfl⟩ := exists_digits_of_takeDigits hminutes
            obtain ⟨hreal, heq⟩ := Option.ite_none_right_eq_some.1 h
            obtain rfl := Option.some.inj heq
            exact ⟨_, .clock hsign hhs hms hreal, by simp⟩
          · cases h
        · cases h
      · cases h

/-! ## Items -/

/-- The item takes nothing of what comes next. -/
def Halts : Item → List Char → Prop
  | .number _, rest => NoDigitFirst rest
  | .fraction, rest => NoDigitFirst rest ∧ rest.head? ≠ some '.'
  | _, _ => True

section
variable {r r' : Reading} {i : Item} {cs rest : List Char}

theorem step_number {p : Part} (hp : p ≠ .year) (r : Reading) (cs : List Char) :
    step r (.number p) cs =
      (takeNumber 2 (Text.trimStart cs)).map fun (n, rest) => (r.set p n, rest) := by
  cases p <;> first | rfl | exact absurd rfl hp

theorem step_fraction_of_no_point (r : Reading) (h : cs.head? ≠ some '.') :
    step r .fraction cs = some (r, cs) := by
  cases cs with
  | nil => rfl
  | cons c cs =>
    have hc : c ≠ '.' := by simpa using h
    unfold step
    simp [hc]

/-- A piece is taken if its item does not go on into the rest. -/
theorem step_piece (h : Piece r i cs r') (hrest : Halts i rest) :
    step r i (cs ++ rest) = some (r', rest) := by
  cases h with
  | @year blanks figures n hblanks hfigures =>
    have htrim : Text.trimStart (blanks ++ figures ++ rest) = figures ++ rest := by
      obtain ⟨c, cs, rfl, hc⟩ := hfigures.exists_cons
      rw [List.append_assoc]
      refine Text.trimStart_append hblanks ?_
      simpa using hc
    show (takeYear (Text.trimStart (blanks ++ figures ++ rest))).map _ = _
    rw [htrim, takeYear_figures hfigures hrest]
    rfl
  | @number p blanks ds hp hblanks hds =>
    have htrim : Text.trimStart (blanks ++ ds ++ rest) = ds ++ rest := by
      obtain ⟨c, cs, rfl, hc⟩ := hds.exists_cons Nat.one_pos
      rw [List.append_assoc]
      refine Text.trimStart_append hblanks ?_
      simpa using Text.not_isBlankChar_of_isDigit hc
    rw [step_number hp, htrim, takeNumber_digits hds hrest]
    rfl
  | digits hds =>
    show (takeDigits _ _).map _ = _
    rw [takeDigits_digits hds]
    rfl
  | oneOf hc => exact if_pos (List.contains_iff_mem.2 hc)
  | noFraction =>
    exact step_fraction_of_no_point r hrest.2
  | fraction hds =>
    obtain ⟨d, ds, rfl, hd⟩ := hds.exists_cons Nat.one_pos
    show (if d.isDigit = true then some (r, (d :: ds ++ rest).dropWhile Char.isDigit) else none) = _
    rw [if_pos hd, dropWhile_digits hds.isDigit hrest.1]
  | offset hoffset =>
    show (dropOffset (cs ++ rest)).map _ = _
    rw [dropOffset_append hoffset]
    rfl

/-- What is taken for an item is a piece of it. -/
theorem exists_piece_of_step (h : step r i cs = some (r', rest)) :
    ∃ front, Piece r i front r' ∧ cs = front ++ rest := by
  cases i with
  | number p =>
    obtain ⟨blanks, hblanks, hcs⟩ := exists_blank_of_trimStart cs
    by_cases hp : p = .year
    · subst hp
      obtain ⟨⟨n, _⟩, htake, heq⟩ := Option.map_eq_some_iff.1 h
      obtain ⟨rfl, rfl⟩ := Prod.mk.inj heq
      obtain ⟨figures, hfigures, htrim⟩ := exists_figures_of_takeYear htake
      rw [htrim, ← List.append_assoc] at hcs
      exact ⟨_, .year hblanks hfigures, hcs⟩
    · rw [step_number hp] at h
      obtain ⟨⟨n, _⟩, htake, heq⟩ := Option.map_eq_some_iff.1 h
      obtain ⟨rfl, rfl⟩ := Prod.mk.inj heq
      obtain ⟨ds, hds, htrim, rfl⟩ := exists_digits_of_takeNumber htake
      rw [htrim, ← List.append_assoc] at hcs
      exact ⟨_, .number hp hblanks hds, hcs⟩
  | digits p width =>
    obtain ⟨⟨n, _⟩, htake, heq⟩ := Option.map_eq_some_iff.1 h
    obtain ⟨rfl, rfl⟩ := Prod.mk.inj heq
    obtain ⟨ds, hds, rfl, rfl⟩ := exists_digits_of_takeDigits htake
    exact ⟨ds, .digits hds, rfl⟩
  | oneOf allowed =>
    cases cs with
    | nil => cases h
    | cons c cs =>
      obtain ⟨hc, heq⟩ := Option.ite_none_right_eq_some.1 h
      obtain ⟨rfl, rfl⟩ := Prod.mk.inj (Option.some.inj heq)
      exact ⟨[c], .oneOf (List.contains_iff_mem.1 hc), rfl⟩
  | fraction =>
    by_cases hpoint : cs.head? = some '.'
    · obtain ⟨ds, rfl⟩ := List.head?_eq_some_iff.1 hpoint
      cases ds with
      | nil => cases h
      | cons d ds =>
        obtain ⟨hd, heq⟩ := Option.ite_none_right_eq_some.1 h
        obtain ⟨rfl, rfl⟩ := Prod.mk.inj (Option.some.inj heq)
        have hpos : 0 < ((d :: ds).takeWhile Char.isDigit).length := by
          rw [List.takeWhile_cons_of_pos hd]
          exact Nat.succ_pos _
        have hdigits : Digits 1 ((d :: ds).takeWhile Char.isDigit).length
            ((d :: ds).takeWhile Char.isDigit) :=
          ⟨fun _ hc => List.mem_takeWhile_imp hc, hpos, Nat.le_refl _⟩
        refine ⟨_, .fraction hdigits, ?_⟩
        rw [List.cons_append, List.takeWhile_append_dropWhile]
    · rw [step_fraction_of_no_point r hpoint] at h
      obtain ⟨rfl, rfl⟩ := Prod.mk.inj (Option.some.inj h)
      exact ⟨[], .noFraction, rfl⟩
  | offset =>
    obtain ⟨_, hdrop, heq⟩ := Option.map_eq_some_iff.1 h
    obtain ⟨rfl, rfl⟩ := Prod.mk.inj heq
    obtain ⟨front, hfront, rfl⟩ := exists_offset_of_dropOffset hdrop
    exact ⟨front, .offset hfront, rfl⟩

end

/-! ## Whole notations -/

/-- No text of the notation starts with a digit. -/
def startsNoDigit : Notation → Bool
  | [] | .offset :: _ => true
  | .oneOf cs :: _ => cs.all fun c => !c.isDigit
  | .fraction :: n => startsNoDigit n
  | _ => false

/-- No text of the notation starts with a point. -/
def startsNoPoint : Notation → Bool
  | [] | .offset :: _ => true
  | .oneOf cs :: _ => cs.all (· != '.')
  | _ => false

/-- No item of the notation can go on into the next one. -/
def separated : Notation → Bool
  | [] => true
  | .number _ :: n => startsNoDigit n && separated n
  | .fraction :: n => startsNoDigit n && startsNoPoint n && separated n
  | _ :: n => separated n

theorem separated_of_mem_accepted {n : Notation} (h : n ∈ accepted) : separated n = true := by
  have hall : ∀ n ∈ accepted, separated n = true := by decide
  exact hall n h

/-- The text goes on with neither a digit nor a point, or ends. -/
def Stops (rest : List Char) : Prop := NoDigitFirst rest ∧ rest.head? ≠ some '.'

theorem stops_nil : Stops [] := ⟨noDigitFirst_nil, by simp⟩

theorem stops_cons {c : Char} {cs : List Char} (h : c.isDigit = false) (hpoint : c ≠ '.') :
    Stops (c :: cs) := by
  refine ⟨noDigitFirst_cons h, ?_⟩
  rw [List.head?_cons]
  exact fun heq => hpoint (Option.some.inj heq)

theorem Offset.exists_cons {cs : List Char} (h : Offset cs) :
    ∃ c rest, cs = c :: rest ∧ c.isDigit = false ∧ c ≠ '.' := by
  cases h with
  | universal hc => exact ⟨_, [], rfl, by rcases hc with rfl | rfl <;> decide⟩
  | clock hsign => exact ⟨_, _, rfl, by rcases hsign with rfl | rfl | rfl <;> decide⟩

section
variable {r r' : Reading} {n : Notation} {cs rest : List Char}

theorem Spelled.noDigitFirst (h : Spelled r n cs r') (hstarts : startsNoDigit n = true)
    (hrest : NoDigitFirst rest) : NoDigitFirst (cs ++ rest) := by
  induction h with
  | nil => exact hrest
  | cons first later ih =>
    cases first with
    | year | number | digits => cases hstarts
    | oneOf hc =>
      have hdigit := List.all_eq_true.1 hstarts _ hc
      exact noDigitFirst_cons (by simpa using hdigit)
    | noFraction => exact ih hstarts
    | fraction => exact noDigitFirst_cons rfl
    | offset hoffset =>
      obtain ⟨c, more, rfl, hc, -⟩ := hoffset.exists_cons
      exact noDigitFirst_cons hc

theorem Spelled.noPointFirst (h : Spelled r n cs r') (hstarts : startsNoPoint n = true)
    (hrest : rest.head? ≠ some '.') : (cs ++ rest).head? ≠ some '.' := by
  cases h with
  | nil => exact hrest
  | cons first later =>
    cases first with
    | year | number | digits | noFraction | fraction => cases hstarts
    | oneOf hc =>
      have hpoint := List.all_eq_true.1 hstarts _ hc
      simpa using hpoint
    | offset hoffset =>
      obtain ⟨c, more, rfl, -, hc⟩ := hoffset.exists_cons
      simpa using hc

/-- The reader takes a spelling apart, whatever follows it. -/
theorem run_spelled (h : Spelled r n cs r') (hn : separated n = true) (hrest : Stops rest) :
    run r n (cs ++ rest) = some (r', rest) := by
  induction h with
  | nil => rfl
  | @cons r r' r'' i n cs cs' first later ih =>
    have hhalts : Halts i (cs' ++ rest) ∧ separated n = true := by
      cases i with
      | number p =>
        obtain ⟨hstarts, hlater⟩ := Bool.and_eq_true_iff.1 hn
        exact ⟨later.noDigitFirst hstarts hrest.1, hlater⟩
      | fraction =>
        obtain ⟨hstarts, hlater⟩ := Bool.and_eq_true_iff.1 hn
        obtain ⟨hdigit, hpoint⟩ := Bool.and_eq_true_iff.1 hstarts
        exact ⟨⟨later.noDigitFirst hdigit hrest.1, later.noPointFirst hpoint hrest.2⟩, hlater⟩
      | digits | oneOf | offset => exact ⟨trivial, hn⟩
    rw [List.append_assoc, run, step_piece first hhalts.1, Option.bind_some]
    exact ih hhalts.2

/-- What the reader takes is a spelling. -/
theorem exists_spelled_of_run (h : run r n cs = some (r', rest)) :
    ∃ front, Spelled r n front r' ∧ cs = front ++ rest := by
  induction n generalizing r cs with
  | nil =>
    obtain ⟨rfl, rfl⟩ := Prod.mk.inj (Option.some.inj h)
    exact ⟨[], .nil, rfl⟩
  | cons i n ih =>
    obtain ⟨⟨middle, after⟩, hstep, hrun⟩ := Option.bind_eq_some_iff.1 h
    obtain ⟨piece, hpiece, rfl⟩ := exists_piece_of_step hstep
    obtain ⟨front, hfront, rfl⟩ := ih hrun
    exact ⟨piece ++ front, .cons hpiece hfront, (List.append_assoc ..).symm⟩

/-- The text spells the date in the notation. -/
def SpellsDate (n : Notation) (cs : List Char) (d : Date) : Prop :=
  ∃ r, Spelled .start n cs r ∧ r.IsReal ∧ r.date = d

theorem SpellsDate.exists {d : Date} (h : SpellsDate n cs d) : d.Exists := by
  obtain ⟨r, -, hreal, rfl⟩ := h
  exact hreal.1

/-- A date is read exactly from its spellings. -/
theorem read?_eq_some_iff {d : Date} (hn : separated n = true) :
    read? n cs = some d ↔ SpellsDate n cs d := by
  unfold read?
  constructor
  · intro h
    split at h
    · rename_i r hrun
      obtain ⟨hreal, heq⟩ := Option.ite_none_right_eq_some.1 h
      obtain ⟨front, hfront, hcs⟩ := exists_spelled_of_run hrun
      obtain rfl : cs = front := by simpa using hcs
      exact ⟨r, hfront, hreal, Option.some.inj heq⟩
    · cases h
  · rintro ⟨r, hspelled, hreal, rfl⟩
    have hrun := run_spelled hspelled hn stops_nil
    rw [List.append_nil] at hrun
    simp only [hrun, hreal, if_true]

/-- A notation is not the one of a text if something is left behind its spelling. -/
theorem read?_eq_none_of_left {c : Char} (h : run .start n cs = some (r, c :: rest)) :
    read? n cs = none := by
  simp only [read?, h]

theorem read?_eq_none_of_stuck (h : run .start n cs = none) : read? n cs = none := by
  simp only [read?, h]

end

end SheetIntake.Notation
