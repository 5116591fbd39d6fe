import SheetIntake.Proofs.Calendar.Spelling

/-! # The documented notations

    Dates are documented to be written year first or day first, with four digits for the year and
    one or two for month and day, or at the front of a timestamp (`Documented`).  Five notations
    are tried in turn, and the first one that fits wins.  So for each way of writing one has to
    see that no notation in front of its own fits: a date with the day first stops the reader that
    wants the year first at its separator or leaves it the last two digits of its year, and a
    timestamp leaves it the time of day (`date?_documented`).  The same reader reads back every
    date of the calendar that `isoChars` has written, signed years included (`date?_isoChars`). -/

namespace SheetIntake.Notation

/-! ## Running a part of a notation -/

section
variable {r r' : Reading} {i : Item} {n : Notation} {cs rest : List Char}

theorem run_append (r : Reading) (n n' : Notation) (cs : List Char) :
    run r (n ++ n') cs = (run r n cs).bind fun (r, rest) => run r n' rest := by
  induction n generalizing r cs with
  | nil => rfl
  | cons i n ih =>
    show (step r i cs).bind _ = ((step r i cs).bind _).bind _
    cases step r i cs with
    | none => rfl
    | some taken => exact ih taken.1 taken.2

theorem run_piece (h : Piece r i cs r') (hrest : Halts i rest) :
    run r (i :: n) (cs ++ rest) = run r' n rest := by
  rw [run, step_piece h hrest, Option.bind_some]

theorem run_oneOf_self (c : Char) (cs : List Char) :
    run r (.oneOf [c] :: n) (c :: cs) = run r n cs :=
  run_piece (r := r) (i := .oneOf [c]) (.oneOf (List.mem_singleton_self c)) trivial

theorem run_oneOf_ne {allowed : List Char} {c : Char} (h : c ∉ allowed) :
    run r (.oneOf allowed :: n) (c :: cs) = none := by
  have hstep : step r (.oneOf allowed) (c :: cs) = none :=
    if_neg fun hc => h (List.contains_iff_mem.1 hc)
  rw [run, hstep, Option.bind_none]

end

/-! ## Pieces without white space -/

section
variable {r : Reading}

theorem blank_nil : Blank [] := by
  intro c hc
  cases hc

theorem Piece.plainYear {figures : List Char} {n : Int} (h : YearFigures figures n) :
    Piece r (.number .year) figures (r.set .year n) := by
  rw [← List.nil_append figures]
  exact .year blank_nil h

theorem Piece.plainNumber {p : Part} {ds : List Char} (hp : p ≠ .year) (h : Digits 1 2 ds) :
    Piece r (.number p) ds (r.set p (digitsValue ds)) := by
  have hpiece := Piece.number (r := r) hp blank_nil h
  rwa [List.nil_append] at hpiece

theorem Spelled.item {i : Item} {r' : Reading} {cs : List Char} (h : Piece r i cs r') :
    Spelled r [i] cs r' := by
  have hspelled := Spelled.cons h .nil
  rwa [List.append_nil] at hspelled

variable {y m d : List Char} {n : Int}

theorem spelled_yearFirst (hy : YearFigures y n) (hm : Digits 1 2 m) (hd : Digits 1 2 d) :
    Spelled r yearFirst (y ++ '-' :: (m ++ '-' :: d))
      { r with date := ⟨n, digitsValue m, digitsValue d⟩ } :=
  .cons (.plainYear hy) <| .character (by simp) <|
    .cons (.plainNumber (by decide) hm) <| .character (by simp) <|
      .item (.plainNumber (by decide) hd)

theorem spelled_dayFirst (separator : Char) (hy : YearFigures y n) (hm : Digits 1 2 m)
    (hd : Digits 1 2 d) :
    Spelled r (dayFirst separator) (d ++ separator :: (m ++ separator :: y))
      { r with date := ⟨n, digitsValue m, digitsValue d⟩ } :=
  .cons (.plainNumber (by decide) hd) <| .character (by simp) <|
    .cons (.plainNumber (by decide) hm) <| .character (by simp) <|
      .item (.plainYear hy)

end

/-! ## Times of day -/

/-- An optional point with digits after it. -/
inductive Fraction : List Char → Prop where
  | absent : Fraction []
  | present {ds : List Char} (h : Digits 1 ds.length ds) : Fraction ('.' :: ds)

theorem Fraction.solid {cs : List Char} (h : Fraction cs) : Text.Solid cs := by
  cases h with
  | absent => exact .nil
  | present hds => exact .cons (by decide) hds.solid

theorem Fraction.piece {r : Reading} {cs : List Char} (h : Fraction cs) :
    Piece r .fraction cs r := by
  cases h with
  | absent => exact .noFraction
  | present hds => exact .fraction hds

/-- Hours, minutes and seconds that a clock can show, with two digits each. -/
inductive Clock : List Char → Prop where
  | shown {hour minute second : List Char} (hhour : Digits 2 2 hour) (hminute : Digits 2 2 minute)
      (hsecond : Digits 2 2 second)
      (hreal : digitsValue hour ≤ 23 ∧ digitsValue minute ≤ 59 ∧ digitsValue second ≤ 60) :
      Clock (hour ++ ':' :: (minute ++ ':' :: second))

theorem Clock.solid {cs : List Char} (h : Clock cs) : Text.Solid cs := by
  cases h with
  | shown hhour hminute hsecond =>
    exact hhour.solid.append
      (.cons (by decide) (hminute.solid.append (.cons (by decide) hsecond.solid)))

theorem Offset.solid {cs : List Char} (h : Offset cs) : Text.Solid cs := by
  cases h with
  | universal hc => exact .cons (by rcases hc with rfl | rfl <;> decide) .nil
  | clock hsign hhours hminutes =>
    exact .cons (by rcases hsign with rfl | rfl | rfl <;> decide)
      (hhours.solid.append (.cons (by decide) hminutes.solid))

/-- A timestamp up to its offset. -/
def stamp : Notation :=
  [.digits .year 4, .oneOf ['-'], .digits .month 2, .oneOf ['-'], .digits .day 2,
    .oneOf ['T', 't', ' '],
    .digits .hour 2, .oneOf [':'], .digits .minute 2, .oneOf [':'], .digits .second 2, .fraction]

theorem withOffset_eq : withOffset = stamp ++ [.offset] := rfl

/-- The time of day in a timestamp without offset. -/
def timeOfDay : Notation :=
  [.oneOf ['T'], .number .hour, .oneOf [':'], .number .minute, .oneOf [':'], .number .second,
    .fraction]

theorem withoutOffset_eq : withoutOffset = yearFirst ++ timeOfDay := rfl

section
variable {r : Reading} {y m d clock fraction : List Char}

/-- A reading of the date whose time a clock can show. -/
def Reading.Shows (r : Reading) (d : Date) : Prop :=
  r.date = d ∧ r.hour ≤ 23 ∧ r.minute ≤ 59 ∧ r.second ≤ 60

theorem Reading.Shows.isReal {d : Date} (h : r.Shows d) (hd : d.Exists) : r.IsReal := by
  obtain ⟨rfl, htime⟩ := h
  exact ⟨hd, htime⟩

theorem exists_spelled_stamp (hy : Digits 4 4 y) (hm : Digits 2 2 m) (hd : Digits 2 2 d)
    (hclock : Clock clock) (hfraction : Fraction fraction) :
    ∃ r', Spelled r stamp (y ++ '-' :: (m ++ '-' :: (d ++ 'T' :: (clock ++ fraction)))) r' ∧
      r'.Shows ⟨digitsValue y, digitsValue m, digitsValue d⟩ := by
  cases hclock with
  | @shown hour minute second hhour hminute hsecond hreal =>
    refine ⟨{ r with
      date := ⟨digitsValue y, digitsValue m, digitsValue d⟩
      hour := digitsValue hour
      minute := digitsValue minute
      second := digitsValue second }, ?_, rfl, hreal⟩
    rw [List.append_assoc, List.cons_append, List.append_assoc, List.cons_append]
    exact .cons (.digits hy) <| .character (by simp) <|
      .cons (.digits hm) <| .character (by simp) <|
      .cons (.digits hd) <| .character (by simp) <|
      .cons (.digits hhour) <| .character (by simp) <|
      .cons (.digits hminute) <| .character (by simp) <|
      .cons (.digits hsecond) <| .item hfraction.piece

theorem exists_spelled_timeOfDay (hclock : Clock clock) (hfraction : Fraction fraction) :
    ∃ r', Spelled r timeOfDay ('T' :: (clock ++ fraction)) r' ∧ r'.Shows r.date := by
  cases hclock with
  | @shown hour minute second hhour hminute hsecond hreal =>
    have hwiden : ∀ {ds : List Char}, Digits 2 2 ds → Digits 1 2 ds :=
      fun hds => hds.mono (by decide) (Nat.le_refl _)
    refine ⟨{ r with
      hour := digitsValue hour
      minute := digitsValue minute
      second := digitsValue second }, ?_, rfl, hreal⟩
    rw [List.append_assoc, List.cons_append, List.append_assoc, List.cons_append]
    exact .character (by simp) <|
      .cons (.plainNumber (by decide) (hwiden hhour)) <| .character (by simp) <|
      .cons (.plainNumber (by decide) (hwiden hminute)) <| .character (by simp) <|
      .cons (.plainNumber (by decide) (hwiden hsecond)) <| .item hfraction.piece

end

/-! ## Documented texts -/

/-- The documented ways to write a date. -/
inductive Documented : List Char → Date → Prop where
  | yearFirst {y m d : List Char} (hy : Digits 4 4 y) (hm : Digits 1 2 m) (hd : Digits 1 2 d) :
      Documented (y ++ '-' :: (m ++ '-' :: d)) ⟨digitsValue y, digitsValue m, digitsValue d⟩
  | dayFirst {separator : Char} {y m d : List Char} (hseparator : separator = '/' ∨ separator = '-')
      (hy : Digits 4 4 y) (hm : Digits 1 2 m) (hd : Digits 1 2 d) :
      Documented (d ++ separator :: (m ++ separator :: y))
        ⟨digitsValue y, digitsValue m, digitsValue d⟩
  | timestamp {y m d clock fraction offset : List Char} (hy : Digits 4 4 y) (hm : Digits 2 2 m)
      (hd : Digits 2 2 d) (hclock : Clock clock) (hfraction : Fraction fraction)
      (hoffset : offset = [] ∨ Offset offset) :
      Documented (y ++ '-' :: (m ++ '-' :: (d ++ 'T' :: (clock ++ fraction ++ offset))))
        ⟨digitsValue y, digitsValue m, digitsValue d⟩

/-- No documented text has white space in it. -/
theorem Documented.solid {cs : List Char} {d : Date} (h : Documented cs d) : Text.Solid cs := by
  cases h with
  | yearFirst hy hm hd =>
    exact hy.solid.append (.cons (by decide) (hm.solid.append (.cons (by decide) hd.solid)))
  | dayFirst hseparator hy hm hd =>
    rcases hseparator with rfl | rfl <;>
      exact hd.solid.append (.cons (by decide) (hm.solid.append (.cons (by decide) hy.solid)))
  | timestamp hy hm hd hclock hfraction hoffset =>
    refine hy.solid.append (.cons (by decide) (hm.solid.append (.cons (by decide) (hd.solid.append
      (.cons (by decide) ((hclock.solid.append hfraction.solid).append ?_))))))
    rcases hoffset with rfl | hoffset
    · exact .nil
    · exact hoffset.solid

theorem Documented.ne_nil {cs : List Char} {d : Date} (h : Documented cs d) : cs ≠ [] := by
  cases h <;> simp

theorem Documented.length_ge {cs : List Char} {d : Date} (h : Documented cs d) :
    8 ≤ cs.length := by
  cases h with
  | yearFirst hy hm hd | dayFirst _ hy hm hd | timestamp hy hm hd =>
    have hyear := hy.enough
    have hmonth := hm.enough
    have hday := hd.enough
    simp only [List.length_append, List.length_cons]
    omega

theorem Documented.clean {s : String} {d : Date} (h : Documented s.toList d) : Text.Clean s :=
  Text.clean_of_solid h.ne_nil h.solid

/-! ## The first notation that fits -/

section
variable {y m d rest : List Char}

/-- Where a separator follows on fewer than four digits, there is no timestamp with offset. -/
theorem read?_withOffset_of_short {c : Char} (hd : Digits 1 2 d) (hc : c.isDigit = false) :
    read? withOffset (d ++ c :: rest) = none := by
  refine read?_eq_none_of_stuck ?_
  have hlength : d.length < 4 := Nat.lt_of_le_of_lt hd.notMore (by decide)
  have hstep : step .start (.digits .year 4) (d ++ c :: rest) = none := by
    show (takeDigits 4 (d ++ c :: rest)).map _ = none
    rw [takeDigits_eq_none hlength hc]
    rfl
  rw [withOffset, run, hstep, Option.bind_none]

theorem run_yearFirst_slash (hd : Digits 1 2 d) :
    run .start yearFirst (d ++ '/' :: rest) = none := by
  have hfigures : YearFigures d (digitsValue d) := .plain (hd.mono (Nat.le_refl _) (by decide))
  rw [yearFirst, run_piece (.plainYear hfigures) (noDigitFirst_cons rfl)]
  exact run_oneOf_ne (by decide)

theorem run_dayFirst_hyphen (hd : Digits 1 2 d) :
    run .start (dayFirst '/') (d ++ '-' :: rest) = none := by
  rw [dayFirst, run_piece (.plainNumber (by decide) hd) (noDigitFirst_cons rfl)]
  exact run_oneOf_ne (by decide)

/-- With the day first, the last two digits of the year are left. -/
theorem exists_run_yearFirst_hyphen (hy : Digits 4 4 y) (hm : Digits 1 2 m) (hd : Digits 1 2 d) :
    ∃ r c cs, run .start yearFirst (d ++ '-' :: (m ++ '-' :: y)) = some (r, c :: cs) ∧
      c.isDigit = true := by
  have hfigures : YearFigures d (digitsValue d) := .plain (hd.mono (Nat.le_refl _) (by decide))
  have hlength : y.length = 4 := Nat.le_antisymm hy.notMore hy.enough
  obtain ⟨c, cs, hdrop, hc⟩ : ∃ c cs, y.drop 2 = c :: cs ∧ c.isDigit = true := by
    have hlast : Digits 2 2 (y.drop 2) :=
      ⟨fun c hc => hy.isDigit c (List.mem_of_mem_drop hc), by simp [hlength], by simp [hlength]⟩
    exact hlast.exists_cons (by decide)
  have htrim : Text.trimStart ([] ++ y) = y := by
    obtain ⟨b, bs, rfl, hb⟩ := hy.exists_cons (by decide)
    refine Text.trimStart_append blank_nil ?_
    simpa using Text.not_isBlankChar_of_isDigit hb
  have hday : ∀ r : Reading, step r (.number .day) y =
      some (r.set .day (digitsValue (y.take 2)), c :: cs) := by
    intro r
    have htake : takeNumber 2 (y ++ []) = some (digitsValue (y.take 2), y.drop 2 ++ []) :=
      takeNumber_of_long (by decide) hy.isDigit (by omega)
    rw [List.append_nil, List.append_nil, hdrop] at htake
    rw [step_number (by decide), ← List.nil_append y, htrim, htake]
    rfl
  rw [yearFirst, run_piece (.plainYear hfigures) (noDigitFirst_cons rfl), run_oneOf_self,
    run_piece (.plainNumber (by decide) hm) (noDigitFirst_cons rfl), run_oneOf_self, run, hday]
  exact ⟨_, c, cs, rfl, hc⟩

/-- The date at the front of a timestamp leaves the time of day. -/
theorem run_yearFirst_stamp (hy : Digits 4 4 y) (hm : Digits 2 2 m) (hd : Digits 2 2 d) :
    run .start yearFirst (y ++ '-' :: (m ++ '-' :: (d ++ 'T' :: rest))) =
      some ({ Reading.start with date := ⟨digitsValue y, digitsValue m, digitsValue d⟩ },
        'T' :: rest) := by
  have hspelled : Spelled .start yearFirst _ _ :=
    spelled_yearFirst (.plain (hy.mono (by decide) (Nat.le_refl _)))
      (hm.mono (by decide) (Nat.le_refl _)) (hd.mono (by decide) (Nat.le_refl _))
  have hstops : Stops ('T' :: rest) := stops_cons rfl (by decide)
  have hrun := run_spelled hspelled (by decide) hstops
  rwa [List.append_assoc, List.cons_append, List.append_assoc, List.cons_append] at hrun

end

section
variable {cs : List Char} {d : Date}

/-- The first notation that fits decides. -/
theorem date?_of_first (before : List Notation) {after : List Notation} {n : Notation}
    (haccepted : accepted = before ++ n :: after) (hbefore : ∀ b ∈ before, read? b cs = none)
    (h : read? n cs = some d) : date? cs = some d := by
  rw [date?, haccepted, List.findSome?_append, List.findSome?_eq_none_iff.2 hbefore,
    Option.none_or, List.findSome?_cons, h]

theorem date?_eq_none_iff : date? cs = none ↔ ∀ n ∈ accepted, ∀ d, ¬SpellsDate n cs d := by
  rw [date?, List.findSome?_eq_none_iff]
  refine forall₂_congr fun n hn => ?_
  rw [Option.eq_none_iff_forall_ne_some]
  exact forall_congr' fun d => not_congr (read?_eq_some_iff (separated_of_mem_accepted hn))

theorem exists_spells_of_date? (h : date? cs = some d) : ∃ n ∈ accepted, SpellsDate n cs d := by
  obtain ⟨n, hn, hread⟩ := List.exists_of_findSome?_eq_some h
  exact ⟨n, hn, (read?_eq_some_iff (separated_of_mem_accepted hn)).1 hread⟩

theorem date?_of_yearFirst (h : SpellsDate yearFirst cs d) : date? cs = some d :=
  date?_of_first [] rfl (by simp) ((read?_eq_some_iff (by decide)).2 h)

end

/-! ## Every documented text is read as its date -/

section
variable {y m d : List Char} {n : Int}

/-- A date without a time of day is read with that of midnight. -/
theorem Reading.isReal_midnight {d : Date} (hd : d.Exists) :
    Reading.IsReal { Reading.start with date := d } :=
  ⟨hd, Nat.zero_le _, Nat.zero_le _, Nat.zero_le _⟩

theorem spellsDate_yearFirst (hy : YearFigures y n) (hm : Digits 1 2 m) (hd : Digits 1 2 d)
    (hexists : Date.Exists ⟨n, digitsValue m, digitsValue d⟩) :
    SpellsDate yearFirst (y ++ '-' :: (m ++ '-' :: d)) ⟨n, digitsValue m, digitsValue d⟩ :=
  ⟨_, spelled_yearFirst hy hm hd, Reading.isReal_midnight hexists, rfl⟩

theorem spellsDate_dayFirst (separator : Char) (hy : YearFigures y n) (hm : Digits 1 2 m)
    (hd : Digits 1 2 d) (hexists : Date.Exists ⟨n, digitsValue m, digitsValue d⟩) :
    SpellsDate (dayFirst separator) (d ++ separator :: (m ++ separator :: y))
      ⟨n, digitsValue m, digitsValue d⟩ :=
  ⟨_, spelled_dayFirst separator hy hm hd, Reading.isReal_midnight hexists, rfl⟩

theorem date?_dayFirst_slash (hy : Digits 4 4 y) (hm : Digits 1 2 m) (hd : Digits 1 2 d)
    (hexists : Date.Exists ⟨digitsValue y, digitsValue m, digitsValue d⟩) :
    date? (d ++ '/' :: (m ++ '/' :: y)) = some ⟨digitsValue y, digitsValue m, digitsValue d⟩ := by
  have hyear : YearFigures y (digitsValue y) := .plain (hy.mono (by decide) (Nat.le_refl _))
  have hspells := spellsDate_dayFirst '/' hyear hm hd hexists
  refine date?_of_first [yearFirst, withOffset, withoutOffset] rfl ?_
    ((read?_eq_some_iff rfl).2 hspells)
  have hstuck : run .start yearFirst (d ++ '/' :: (m ++ '/' :: y)) = none :=
    run_yearFirst_slash hd
  simp only [List.forall_mem_cons, List.not_mem_nil, false_imp_iff, implies_true, and_true]
  refine ⟨read?_eq_none_of_stuck hstuck, read?_withOffset_of_short hd rfl, ?_⟩
  refine read?_eq_none_of_stuck ?_
  rw [withoutOffset_eq, run_append, hstuck, Option.bind_none]

theorem date?_dayFirst_hyphen (hy : Digits 4 4 y) (hm : Digits 1 2 m) (hd : Digits 1 2 d)
    (hexists : Date.Exists ⟨digitsValue y, digitsValue m, digitsValue d⟩) :
    date? (d ++ '-' :: (m ++ '-' :: y)) = some ⟨digitsValue y, digitsValue m, digitsValue d⟩ := by
  have hyear : YearFigures y (digitsValue y) := .plain (hy.mono (by decide) (Nat.le_refl _))
  have hspells := spellsDate_dayFirst '-' hyear hm hd hexists
  refine date?_of_first [yearFirst, withOffset, withoutOffset, dayFirst '/'] rfl ?_
    ((read?_eq_some_iff rfl).2 hspells)
  obtain ⟨r, c, cs, hleft, hc⟩ := exists_run_yearFirst_hyphen hy hm hd
  simp only [List.forall_mem_cons, List.not_mem_nil, false_imp_iff, implies_true, and_true]
  refine ⟨read?_eq_none_of_left hleft, read?_withOffset_of_short hd rfl, ?_,
    read?_eq_none_of_stuck (run_dayFirst_hyphen hd)⟩
  -- The time of day does not start with the digits that are left.
  refine read?_eq_none_of_stuck ?_
  rw [withoutOffset_eq, run_append, hleft, Option.bind_some]
  exact run_oneOf_ne (by simpa using ne_of_isDigit hc rfl)

variable {clock fraction offset : List Char}

theorem date?_withOffset (hy : Digits 4 4 y) (hm : Digits 2 2 m) (hd : Digits 2 2 d)
    (hclock : Clock clock) (hfraction : Fraction fraction) (hoffset : Offset offset)
    (hexists : Date.Exists ⟨digitsValue y, digitsValue m, digitsValue d⟩) :
    date? (y ++ '-' :: (m ++ '-' :: (d ++ 'T' :: (clock ++ fraction ++ offset)))) =
      some ⟨digitsValue y, digitsValue m, digitsValue d⟩ := by
  obtain ⟨r, hstamp, hshows⟩ := exists_spelled_stamp (r := .start) hy hm hd hclock hfraction
  have hspelled : Spelled .start withOffset
      (y ++ '-' :: (m ++ '-' :: (d ++ 'T' :: (clock ++ fraction ++ offset)))) r := by
    have happend := hstamp.append (.item (.offset hoffset))
    simpa only [withOffset_eq, List.append_assoc, List.cons_append] using happend
  have hspells : SpellsDate withOffset _ _ := ⟨r, hspelled, hshows.isReal hexists, hshows.1⟩
  refine date?_of_first [yearFirst] rfl ?_ ((read?_eq_some_iff rfl).2 hspells)
  simpa using read?_eq_none_of_left (run_yearFirst_stamp hy hm hd)

theorem date?_withoutOffset (hy : Digits 4 4 y) (hm : Digits 2 2 m) (hd : Digits 2 2 d)
    (hclock : Clock clock) (hfraction : Fraction fraction)
    (hexists : Date.Exists ⟨digitsValue y, digitsValue m, digitsValue d⟩) :
    date? (y ++ '-' :: (m ++ '-' :: (d ++ 'T' :: (clock ++ fraction)))) =
      some ⟨digitsValue y, digitsValue m, digitsValue d⟩ := by
  have hyear : YearFigures y (digitsValue y) := .plain (hy.mono (by decide) (Nat.le_refl _))
  have hspells : SpellsDate withoutOffset
      (y ++ '-' :: (m ++ '-' :: (d ++ 'T' :: (clock ++ fraction))))
      ⟨digitsValue y, digitsValue m, digitsValue d⟩ := by
    have hdate : Spelled .start yearFirst _ _ := spelled_yearFirst hyear
      (hm.mono (by decide) (Nat.le_refl _)) (hd.mono (by decide) (Nat.le_refl _))
    obtain ⟨r, htime, hshows⟩ := exists_spelled_timeOfDay
      (r := { Reading.start with date := ⟨digitsValue y, digitsValue m, digitsValue d⟩ })
      hclock hfraction
    refine ⟨r, ?_, hshows.isReal hexists, hshows.1⟩
    have happend := hdate.append htime
    simpa only [withoutOffset_eq, List.append_assoc, List.cons_append] using happend
  refine date?_of_first [yearFirst, withOffset] rfl ?_
    ((read?_eq_some_iff rfl).2 hspells)
  simp only [List.forall_mem_cons, List.not_mem_nil, false_imp_iff, implies_true, and_true]
  refine ⟨read?_eq_none_of_left (run_yearFirst_stamp hy hm hd), read?_eq_none_of_stuck ?_⟩
  -- The stamp takes the whole text, and then the offset is missing.
  obtain ⟨r, hstamp, -⟩ := exists_spelled_stamp (r := .start) hy hm hd hclock hfraction
  have hrun := run_spelled hstamp (by decide) stops_nil
  rw [List.append_nil] at hrun
  rw [withOffset_eq, run_append, hrun, Option.bind_some]
  rfl

end

theorem date?_documented {cs : List Char} {d : Date} (h : Documented cs d) (hexists : d.Exists) :
    date? cs = some d := by
  cases h with
  | yearFirst hy hm hd =>
    have hyear : YearFigures _ _ := .plain (hy.mono (by decide) (Nat.le_refl _))
    exact date?_of_yearFirst (spellsDate_yearFirst hyear hm hd hexists)
  | dayFirst hseparator hy hm hd =>
    rcases hseparator with rfl | rfl
    · exact date?_dayFirst_slash hy hm hd hexists
    · exact date?_dayFirst_hyphen hy hm hd hexists
  | timestamp hy hm hd hclock hfraction hoffset =>
    rcases hoffset with rfl | hoffset
    · rw [List.append_nil]
      exact date?_withoutOffset hy hm hd hclock hfraction hexists
    · exact date?_withOffset hy hm hd hclock hfraction hoffset hexists

end SheetIntake.Notation
