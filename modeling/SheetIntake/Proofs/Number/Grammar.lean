import SheetIntake.Number.Numeral
import SheetIntake.Proofs.Number.Digits

/-! # The grammar of numerals

    A numeral is a sign, digits with a point among them, and an exponent; only the digits have to be
    there (`Numeral.Spelled`).  The reader finds exactly the texts of this grammar and gives each
    its one reading (`NumberText.parse?_eq_numeral_iff`). -/

namespace SheetIntake

/-! ## Signs -/

/-- A sign or nothing, and whether it is a minus. -/
inductive SignPart : List Char → Bool → Prop where
  | absent : SignPart [] false
  | plus : SignPart ['+'] false
  | minus : SignPart ['-'] true

/-- The text does not start with a sign. -/
def NoSignFirst (cs : List Char) : Prop := ∀ c ∈ cs.head?, c ≠ '-' ∧ c ≠ '+'

theorem noSignFirst_cons {c : Char} {cs : List Char} (hminus : c ≠ '-') (hplus : c ≠ '+') :
    NoSignFirst (c :: cs) := by
  intro d hd
  obtain rfl : c = d := Option.some.inj hd
  exact ⟨hminus, hplus⟩

theorem noSignFirst_of_isDigit {c : Char} {cs : List Char} (h : c.isDigit = true) :
    NoSignFirst (c :: cs) :=
  noSignFirst_cons (ne_of_isDigit h rfl) (ne_of_isDigit h rfl)

theorem takeSign_of_noSignFirst {cs : List Char} (h : NoSignFirst cs) :
    takeSign cs = (false, cs) := by
  cases cs with
  | nil => rfl
  | cons c cs =>
    obtain ⟨hminus, hplus⟩ := h c rfl
    unfold takeSign
    split
    · next heq => exact absurd (List.cons.inj heq).1 hminus
    · next heq => exact absurd (List.cons.inj heq).1 hplus
    · rfl

theorem takeSign_append {sign cs : List Char} {negative : Bool} (hsign : SignPart sign negative)
    (h : NoSignFirst cs) : takeSign (sign ++ cs) = (negative, cs) := by
  cases hsign with
  | absent => exact takeSign_of_noSignFirst h
  | plus => rfl
  | minus => rfl

theorem exists_signPart {cs ds : List Char} {negative : Bool} (h : takeSign cs = (negative, ds)) :
    ∃ sign, SignPart sign negative ∧ cs = sign ++ ds := by
  unfold takeSign at h
  split at h
  · obtain ⟨rfl, rfl⟩ := Prod.mk.inj h
    exact ⟨_, .minus, rfl⟩
  · obtain ⟨rfl, rfl⟩ := Prod.mk.inj h
    exact ⟨_, .plus, rfl⟩
  · obtain ⟨rfl, rfl⟩ := Prod.mk.inj h
    exact ⟨_, .absent, rfl⟩

namespace Numeral

/-! ## Exponents -/

/-- Nothing, or a letter with a sign and digits. -/
inductive ExponentPart : List Char → Int → Prop where
  | absent : ExponentPart [] 0
  | present {letter : Char} {sign ds : List Char} {negative : Bool}
      (hletter : letter = 'e' ∨ letter = 'E') (hsign : SignPart sign negative)
      (hne : ds ≠ []) (hds : ∀ c ∈ ds, c.isDigit = true) :
      ExponentPart (letter :: (sign ++ ds))
        (if negative then -(digitsValue ds : Int) else digitsValue ds)

theorem exponentPart?_present {letter : Char} {sign ds : List Char} {negative : Bool}
    (hletter : letter = 'e' ∨ letter = 'E') (hsign : SignPart sign negative) (hne : ds ≠ [])
    (hds : ∀ c ∈ ds, c.isDigit = true) :
    exponentPart? (letter :: (sign ++ ds)) =
      some (if negative then -(digitsValue ds : Int) else digitsValue ds) := by
  have hfirst : NoSignFirst ds := by
    obtain ⟨c, cs, rfl⟩ := List.exists_cons_of_ne_nil hne
    exact noSignFirst_of_isDigit (hds c (List.mem_cons_self ..))
  have hall : (ds.isEmpty || !ds.all Char.isDigit) = false := by
    rw [List.isEmpty_eq_false_iff.2 hne, List.all_eq_true.2 hds]
    rfl
  unfold exponentPart?
  dsimp only
  rw [if_pos hletter, takeSign_append hsign hfirst]
  dsimp only
  rw [hall]
  rfl

theorem exponentPart_of_eq_some {cs : List Char} {e : Int} (h : exponentPart? cs = some e) :
    ExponentPart cs e := by
  cases cs with
  | nil =>
    obtain rfl := Option.some.inj h
    exact .absent
  | cons letter cs =>
    unfold exponentPart? at h
    dsimp only at h
    obtain ⟨⟨negative, ds⟩, htake⟩ : ∃ p, takeSign cs = p := ⟨_, rfl⟩
    obtain ⟨hletter, h⟩ := Option.ite_none_right_eq_some.1 h
    rw [htake] at h
    obtain ⟨hdigits, h⟩ := Option.ite_none_left_eq_some.1 h
    obtain rfl := Option.some.inj h
    rw [Bool.or_eq_true, not_or, Bool.not_eq_true, List.isEmpty_eq_false_iff,
      Bool.not_eq_true', Bool.not_eq_false, List.all_eq_true] at hdigits
    obtain ⟨sign, hsign, rfl⟩ := exists_signPart htake
    exact .present hletter hsign hdigits.1 hdigits.2

theorem exponentPart?_eq_some_iff {cs : List Char} {e : Int} :
    exponentPart? cs = some e ↔ ExponentPart cs e := by
  constructor
  · exact exponentPart_of_eq_some
  · intro h
    cases h with
    | absent => rfl
    | present hletter hsign hne hds => exact exponentPart?_present hletter hsign hne hds

/-! ## Numerals -/

/-- A point and digits, or nothing, and these digits. -/
inductive FractionPart : List Char → List Char → Prop where
  | absent : FractionPart [] []
  | present {ds : List Char} (hds : ∀ c ∈ ds, c.isDigit = true) : FractionPart ('.' :: ds) ds

/-- Digits with or without a point among them and an exponent. -/
inductive Unsigned (negative : Bool) : List Char → Numeral → Prop where
  | mk {whole point fraction exponent : List Char} {e : Int}
      (hwhole : ∀ c ∈ whole, c.isDigit = true) (hfraction : FractionPart point fraction)
      (hexponent : ExponentPart exponent e) (hne : whole ++ fraction ≠ []) :
      Unsigned negative (whole ++ (point ++ exponent))
        { negative, coefficient := digitsValue (whole ++ fraction),
          exponent := e - fraction.length }

/-- The text is a numeral, and this is what it says. -/
inductive Spelled : List Char → Numeral → Prop where
  | mk {sign cs : List Char} {a : Numeral} (hsign : SignPart sign a.negative)
      (hunsigned : Unsigned a.negative cs a) : Spelled (sign ++ cs) a

theorem ExponentPart.noDigitFirst {cs : List Char} {e : Int} (h : ExponentPart cs e) :
    NoDigitFirst cs := by
  cases h with
  | absent => exact noDigitFirst_nil
  | present hletter =>
    rcases hletter with rfl | rfl
    · exact noDigitFirst_cons rfl
    · exact noDigitFirst_cons rfl

theorem ExponentPart.ne_point {cs rest : List Char} {e : Int} (h : ExponentPart cs e) :
    cs ≠ '.' :: rest := by
  rintro rfl
  cases h with
  | present hletter => rcases hletter with hletter | hletter <;> cases hletter

/-- The point and the digits behind it, and what is left. -/
def splitFraction : List Char → List Char × List Char
  | '.' :: cs => (cs.takeWhile Char.isDigit, cs.dropWhile Char.isDigit)
  | cs => ([], cs)

theorem unsigned?_eq (negative : Bool) (cs : List Char) :
    unsigned? negative cs =
      let whole := cs.takeWhile Char.isDigit
      let (fraction, rest) := splitFraction (cs.dropWhile Char.isDigit)
      if whole.isEmpty && fraction.isEmpty then none
      else (exponentPart? rest).map fun e =>
        { negative, coefficient := digitsValue (whole ++ fraction),
          exponent := e - fraction.length } := rfl

theorem splitFraction_append {point fraction exponent : List Char} {e : Int}
    (hfraction : FractionPart point fraction) (hexponent : ExponentPart exponent e) :
    splitFraction (point ++ exponent) = (fraction, exponent) := by
  cases hfraction with
  | absent =>
    unfold splitFraction
    split
    · next heq => exact absurd heq hexponent.ne_point
    · rfl
  | present hds =>
    have hnext := hexponent.noDigitFirst
    show (List.takeWhile _ (fraction ++ exponent), List.dropWhile _ (fraction ++ exponent)) = _
    rw [takeWhile_digits hds hnext, dropWhile_digits hds hnext]

theorem exists_fractionPart {cs fraction rest : List Char}
    (h : splitFraction cs = (fraction, rest)) :
    ∃ point, FractionPart point fraction ∧ cs = point ++ rest := by
  unfold splitFraction at h
  split at h
  · obtain ⟨rfl, rfl⟩ := Prod.mk.inj h
    refine ⟨_, .present fun c hc => List.all_eq_true.1 List.all_takeWhile c hc, ?_⟩
    rw [List.cons_append, List.takeWhile_append_dropWhile]
  · obtain ⟨rfl, rfl⟩ := Prod.mk.inj h
    exact ⟨_, .absent, rfl⟩

theorem FractionPart.noDigitFirst {point fraction exponent : List Char} {e : Int}
    (hfraction : FractionPart point fraction) (hexponent : ExponentPart exponent e) :
    NoDigitFirst (point ++ exponent) := by
  cases hfraction with
  | absent => exact hexponent.noDigitFirst
  | present => exact noDigitFirst_cons rfl

theorem isEmpty_and_isEmpty (xs ys : List Char) :
    (xs.isEmpty && ys.isEmpty) = (xs ++ ys).isEmpty := by
  cases xs <;> rfl

theorem unsigned?_eq_some_iff {negative : Bool} {cs : List Char} {a : Numeral} :
    unsigned? negative cs = some a ↔ Unsigned negative cs a := by
  constructor
  · intro h
    rw [unsigned?_eq] at h
    obtain ⟨⟨fraction, rest⟩, hsplit⟩ : ∃ p, splitFraction (cs.dropWhile Char.isDigit) = p :=
      ⟨_, rfl⟩
    dsimp only at h
    rw [hsplit] at h
    obtain ⟨hdigits, h⟩ := Option.ite_none_left_eq_some.1 h
    obtain ⟨e, hexponent, rfl⟩ := Option.map_eq_some_iff.1 h
    obtain ⟨point, hfraction, hrest⟩ := exists_fractionPart hsplit
    -- one digit is enough, in front of the point or behind it
    rw [isEmpty_and_isEmpty, List.isEmpty_iff] at hdigits
    have hunsigned : Unsigned negative _ _ := .mk
      (fun c hc => List.all_eq_true.1 List.all_takeWhile c hc) hfraction
      (exponentPart?_eq_some_iff.1 hexponent) hdigits
    rwa [← hrest, List.takeWhile_append_dropWhile] at hunsigned
  · rintro ⟨hwhole, hfraction, hexponent, hne⟩
    have hnext := hfraction.noDigitFirst hexponent
    rw [unsigned?_eq, takeWhile_digits hwhole hnext, dropWhile_digits hwhole hnext,
      splitFraction_append hfraction hexponent]
    dsimp only
    rw [isEmpty_and_isEmpty, if_neg (by rwa [List.isEmpty_iff]),
      exponentPart?_eq_some_iff.2 hexponent]
    rfl

/-! ## Number text -/

/-- What an unsigned numeral starts with. -/
theorem Unsigned.exists_cons {negative : Bool} {cs : List Char} {a : Numeral}
    (h : Unsigned negative cs a) : ∃ c rest, cs = c :: rest ∧ (c.isDigit = true ∨ c = '.') := by
  obtain ⟨hwhole, hfraction, -, hne⟩ := h
  rename_i whole point fraction exponent e
  cases whole with
  | cons c cs => exact ⟨c, _, rfl, .inl (hwhole c (List.mem_cons_self ..))⟩
  | nil =>
    cases hfraction with
    | absent => exact absurd rfl hne
    | present => exact ⟨'.', _, rfl, .inr rfl⟩

theorem Unsigned.noSignFirst {negative : Bool} {cs : List Char} {a : Numeral}
    (h : Unsigned negative cs a) : NoSignFirst cs := by
  obtain ⟨c, rest, rfl, hc⟩ := h.exists_cons
  rcases hc with hdigit | rfl
  · exact noSignFirst_of_isDigit hdigit
  · exact noSignFirst_cons (by decide) (by decide)

theorem toLower_of_isDigit {c : Char} (h : c.isDigit = true) : c.toLower = c := by
  rw [Char.isDigit, Bool.and_eq_true, decide_eq_true_iff, decide_eq_true_iff] at h
  unfold Char.toLower
  rw [dif_neg]
  rintro ⟨hupper, -⟩
  exact absurd (UInt32.le_trans hupper h.2) (by decide)

/-- No name is a numeral. -/
theorem Unsigned.map_toLower_ne {negative : Bool} {cs : List Char} {a : Numeral}
    (h : Unsigned negative cs a) {c : Char} {rest : List Char} (hdigit : c.isDigit = false)
    (hpoint : c ≠ '.') : cs.map Char.toLower ≠ c :: rest := by
  obtain ⟨d, ds, rfl, hd⟩ := h.exists_cons
  intro heq
  obtain rfl : d.toLower = c := (List.cons.inj heq).1
  rcases hd with hd | rfl
  · rw [toLower_of_isDigit hd, hd] at hdigit
    cases hdigit
  · exact hpoint rfl

theorem Unsigned.negative_eq {negative : Bool} {cs : List Char} {a : Numeral}
    (h : Unsigned negative cs a) : a.negative = negative := by
  cases h
  rfl

end Numeral

open Numeral (Spelled Unsigned unsigned?_eq_some_iff)

/-- Number text is read as a numeral just when it is spelled as this one. -/
theorem NumberText.parse?_eq_numeral_iff {s : String} {a : Numeral} :
    parse? s = some (.numeral a) ↔ Spelled s.toList a := by
  unfold parse?
  obtain ⟨text, htext⟩ : ∃ text, s.toList = text := ⟨_, rfl⟩
  rw [htext]
  dsimp only
  constructor
  · intro h
    obtain ⟨⟨negative, cs⟩, htake⟩ : ∃ p, takeSign text = p := ⟨_, rfl⟩
    obtain ⟨sign, hsign, rfl⟩ := exists_signPart htake
    rw [htake] at h
    split at h
    · cases h
    · split at h
      · cases h
      · obtain ⟨b, hread, hb⟩ := Option.map_eq_some_iff.1 h
        obtain rfl := NumberText.numeral.inj hb
        have hunsigned := unsigned?_eq_some_iff.1 hread
        obtain rfl := hunsigned.negative_eq
        exact .mk hsign hunsigned
  · intro h
    obtain ⟨hsign, hunsigned⟩ := h
    rw [takeSign_append hsign hunsigned.noSignFirst]
    dsimp only
    -- the names are tried first, and no numeral is one
    rw [if_neg, if_neg, unsigned?_eq_some_iff.2 hunsigned]
    · rfl
    · exact hunsigned.map_toLower_ne rfl (by decide)
    · rintro (hinf | hinfinity)
      · exact hunsigned.map_toLower_ne rfl (by decide) hinf
      · exact hunsigned.map_toLower_ne rfl (by decide) hinfinity

end SheetIntake
