import SheetIntake.Proofs.Delimited.RoundTrip

/-! # Guessing the separator of a written file

    The separator is guessed from the first line with something in it, and it is the most frequent
    candidate of this line (`isMostFrequent_mostFrequent`).  If no header holds a candidate or a
    line feed, this line is the header record, and its own separator is the only candidate in it
    (`sniff_quoted`).  A file of one column has no separator anywhere; the comma is guessed then,
    and the file could just as well have been written with it (`bytes_quoted_of_narrow`).  Either way the records are those that have been written, whatever
    the rows hold (`recordsOf_guessed`), and the decoder needs no separator (`decode_guessed`). -/

namespace SheetIntake.Delimited

/-! ## Lines -/

theorem lines_append {l : List Char} (h : '\n' ∉ l) (rest : List Char) :
    lines (l ++ '\n' :: rest) = l :: lines rest := by
  induction l with
  | nil => simp [lines]
  | cons c cs ih =>
    have hc : c ≠ '\n' := fun heq => h (heq ▸ List.mem_cons_self ..)
    have hcs : '\n' ∉ cs := fun hmem => h (List.mem_cons_of_mem _ hmem)
    simp [lines, hc, ih hcs]

theorem firstFullLine_append {l : List Char} (h : '\n' ∉ l)
    (full : l.all Text.isBlankChar = false) (rest : List Char) :
    firstFullLine (l ++ '\n' :: rest) = l := by
  rw [firstFullLine, lines_append h, List.find?_cons_of_pos (by simp [full]), Option.getD_some]

/-! ## Counting candidates -/

/-- The better one of what has been found and a candidate, with its count. -/
def better (line : List Char) (best : Char × Nat) (c : Char) : Char × Nat :=
  if best.2 < line.count c then (c, line.count c) else best

theorem mostFrequent_eq (line : List Char) :
    mostFrequent line = (candidates.foldl (better line) (',', 0)).1 := rfl

/-- The first one of those candidates of which no other is more frequent in the line. -/
structure IsMostFrequent (among line : List Char) (d : Char) : Prop where
  mem : d ∈ among
  most : ∀ c ∈ among, line.count c ≤ line.count d
  first : ∀ c ∈ among.takeWhile (· != d), line.count c < line.count d

section
variable {among line : List Char} {d d' : Char}

/-- Of two candidates one comes first. -/
theorem mem_takeWhile_or {cs : List Char} (h : d ∈ cs) (h' : d' ∈ cs) (hne : d ≠ d') :
    d ∈ cs.takeWhile (· != d') ∨ d' ∈ cs.takeWhile (· != d) := by
  induction cs with
  | nil => cases h
  | cons c cs ih =>
    by_cases hd : c = d
    · subst hd; simp [hne]
    · by_cases hd' : c = d'
      · subst hd'; simp [hne.symm]
      · have hmem := (List.mem_cons.1 h).resolve_left (Ne.symm hd)
        have hmem' := (List.mem_cons.1 h').resolve_left (Ne.symm hd')
        simpa [hd, hd'] using (ih hmem hmem').imp .inr .inr

/-- There is only one such candidate. -/
theorem IsMostFrequent.unique (h : IsMostFrequent among line d)
    (h' : IsMostFrequent among line d') : d = d' := by
  by_contra hne
  rcases mem_takeWhile_or h.mem h'.mem hne with hfirst | hfirst
  · exact absurd (h'.first d hfirst) (Nat.not_lt.2 (h.most d' h'.mem))
  · exact absurd (h.first d' hfirst) (Nat.not_lt.2 (h'.most d h.mem))

/-- A less frequent candidate in front of the others makes no difference. -/
theorem IsMostFrequent.cons {c : Char} {cs : List Char} (h : IsMostFrequent cs line d)
    (less : line.count c < line.count d) : IsMostFrequent (c :: cs) line d where
  mem := List.mem_cons_of_mem _ h.mem
  most := List.forall_mem_cons.2 ⟨Nat.le_of_lt less, h.most⟩
  first := by
    have hne : c ≠ d := by
      rintro rfl
      exact Nat.lt_irrefl _ less
    have hfront : (c :: cs).takeWhile (· != d) = c :: cs.takeWhile (· != d) := by simp [hne]
    rw [hfront]
    exact List.forall_mem_cons.2 ⟨less, h.first⟩

/-- A candidate is either kept against all that follow or gives way to the most frequent of them. -/
theorem foldl_better_cases (line cs : List Char) (best : Char × Nat) :
    (cs.foldl (better line) best = best ∧ ∀ c ∈ cs, line.count c ≤ best.2) ∨
      (IsMostFrequent cs line (cs.foldl (better line) best).1 ∧
        best.2 < line.count (cs.foldl (better line) best).1) := by
  induction cs generalizing best with
  | nil => exact .inl ⟨rfl, by simp⟩
  | cons c cs ih =>
    rw [List.foldl_cons, better]
    split
    · rename_i hc
      rcases ih (c, line.count c) with ⟨hkept, hle⟩ | ⟨hmost, hlt⟩
      · rw [hkept]
        exact .inr ⟨⟨List.mem_cons_self .., by simpa using hle, by simp⟩, hc⟩
      · exact .inr ⟨hmost.cons hlt, Nat.lt_trans hc hlt⟩
    · rename_i hc
      rcases ih best with ⟨hkept, hle⟩ | ⟨hmost, hlt⟩
      · exact .inl ⟨hkept, List.forall_mem_cons.2 ⟨Nat.le_of_not_lt hc, hle⟩⟩
      · exact .inr ⟨hmost.cons (Nat.lt_of_le_of_lt (Nat.le_of_not_lt hc) hlt), hlt⟩

/-- What is taken of all candidates is the most frequent. -/
theorem isMostFrequent_mostFrequent (line : List Char) :
    IsMostFrequent candidates line (mostFrequent line) := by
  rw [mostFrequent_eq]
  rcases foldl_better_cases line candidates (',', 0) with ⟨hkept, hnone⟩ | ⟨hmost, -⟩
  · rw [hkept]
    exact ⟨by decide, fun c hc => Nat.le_trans (hnone c hc) (Nat.zero_le _), by simp [candidates]⟩
  · exact hmost

/-- A candidate that occurs more often than all others is taken. -/
theorem mostFrequent_of_dominates (hd : d ∈ candidates)
    (dominates : ∀ c ∈ candidates, c ≠ d → line.count c < line.count d) :
    mostFrequent line = d := by
  have hmost := isMostFrequent_mostFrequent line
  by_contra hother
  exact Nat.not_lt.2 (hmost.most d hd) (dominates _ hmost.mem hother)

/-- Without any candidate it is the comma. -/
theorem mostFrequent_of_none (h : ∀ c ∈ candidates, c ∉ line) : mostFrequent line = ',' := by
  have hnone : ∀ c ∈ candidates, line.count c = 0 := fun c hc =>
    List.count_eq_zero_of_not_mem (h c hc)
  have hcomma : IsMostFrequent candidates line ',' :=
    ⟨by decide, fun c hc => by rw [hnone c hc]; exact Nat.zero_le _, by simp [candidates]⟩
  exact (isMostFrequent_mostFrequent line).unique hcomma

end

theorem sniff_mem (cs : List Char) : sniff cs ∈ candidates := (isMostFrequent_mostFrequent _).mem

/-! ## The line of a record -/

theorem mem_doubled {x : Char} {cs : List Char} (h : x ∈ doubled cs) : x ∈ cs := by
  induction cs using doubled.induct with
  | case1 => exact h
  | case2 cs ih =>
    rw [doubled] at h
    rcases List.mem_cons.1 h with rfl | h
    · exact List.mem_cons_self ..
    · rcases List.mem_cons.1 h with rfl | h
      · exact List.mem_cons_self ..
      · exact List.mem_cons_of_mem _ (ih h)
  | case3 c cs hc ih =>
    rw [doubled.eq_3 _ _ hc] at h
    rcases List.mem_cons.1 h with rfl | h
    · exact List.mem_cons_self ..
    · exact List.mem_cons_of_mem _ (ih h)

theorem line_quoted_cons_cons (separator : Char) (cell next : String) (cells : List String) :
    (WrittenRecord.quoted (cell :: next :: cells)).line separator =
      WrittenCell.chars ⟨cell, true⟩ ++
        separator :: (WrittenRecord.quoted (next :: cells)).line separator := by
  simp [WrittenRecord.line, WrittenRecord.quoted, List.intercalate_cons_cons]

theorem line_quoted_singleton (separator : Char) (cell : String) :
    (WrittenRecord.quoted [cell]).line separator = WrittenCell.chars ⟨cell, true⟩ := by
  simp [WrittenRecord.line, WrittenRecord.quoted]

theorem mem_chars_quoted {x : Char} {cell : String} (h : x ∈ WrittenCell.chars ⟨cell, true⟩) :
    x = '"' ∨ x ∈ cell.toList := by
  simp only [WrittenCell.chars, if_true, List.cons_append, List.mem_cons, List.mem_append,
    List.not_mem_nil, or_false] at h
  rcases h with hquote | hmem | hquote
  · exact .inl hquote
  · exact .inr (mem_doubled hmem)
  · exact .inl hquote

/-- A line of quoted cells holds quotation marks, what its cells hold, and separators if it has
more than one cell. -/
theorem mem_line_quoted {separator x : Char} {cells : List String}
    (h : x ∈ (WrittenRecord.quoted cells).line separator) :
    x = '"' ∨ (∃ cell ∈ cells, x ∈ cell.toList) ∨ (x = separator ∧ 2 ≤ cells.length) := by
  induction cells with
  | nil => simp [WrittenRecord.line, WrittenRecord.quoted] at h
  | cons cell cells ih =>
    cases cells with
    | nil =>
      rw [line_quoted_singleton] at h
      rcases mem_chars_quoted h with hquote | hmem
      · exact .inl hquote
      · exact .inr (.inl ⟨cell, List.mem_cons_self .., hmem⟩)
    | cons next cells =>
      rw [line_quoted_cons_cons, List.mem_append, List.mem_cons] at h
      rcases h with h | h | h
      · rcases mem_chars_quoted h with hquote | hmem
        · exact .inl hquote
        · exact .inr (.inl ⟨cell, List.mem_cons_self .., hmem⟩)
      · exact .inr (.inr ⟨h, by simp⟩)
      · rcases ih h with hquote | ⟨other, hother, hmem⟩ | ⟨hx, -⟩
        · exact .inl hquote
        · exact .inr (.inl ⟨other, List.mem_cons_of_mem _ hother, hmem⟩)
        · exact .inr (.inr ⟨hx, by simp⟩)

/-! ## Files with plain headers -/

/-- A text without candidates and line feeds. -/
def IsPlainHeader (s : String) : Prop := ∀ x ∈ s.toList, x ∉ candidates ∧ x ≠ '\n'

section
variable {separator : Char} {headers : List String} {rows : List (List String)}

/-- The header record is the first line of its file. -/
theorem firstFullLine_quoted (hs : separator ∈ candidates) (hne : headers ≠ [])
    (plain : ∀ header ∈ headers, IsPlainHeader header) (rows : List (List String)) :
    firstFullLine ((WrittenFile.quoted (headers :: rows)).chars separator) =
      (WrittenRecord.quoted headers).line separator := by
  have hfile : (WrittenFile.quoted (headers :: rows)).chars separator =
      (WrittenRecord.quoted headers).line separator ++
        '\n' :: (WrittenFile.quoted rows).chars separator := by
    simp [WrittenFile.chars, WrittenFile.quoted, WrittenRecord.chars, WrittenRecord.line,
      WrittenRecord.quoted, LineBreak.chars]
  rw [hfile]
  refine firstFullLine_append (fun hbreak => ?_) ?_ _
  · rcases mem_line_quoted hbreak with hquote | ⟨header, hmem, hheader⟩ | ⟨hseparator, -⟩
    · exact absurd hquote (by decide)
    · exact (plain header hmem '\n' hheader).2 rfl
    · exact (IsSeparator.of_candidate hs).ne_lf hseparator.symm
  · obtain ⟨header, others, rfl⟩ := List.exists_cons_of_ne_nil hne
    obtain ⟨rest, hrest⟩ :=
      WrittenRecord.exists_line_eq separator (cells_quoted header others)
    have hquote : Text.isBlankChar '"' = false := by decide
    simp [hrest, WrittenCell.chars, hquote]

/-- With more than one column the separator is guessed. -/
theorem sniff_quoted (hs : separator ∈ candidates) (several : 2 ≤ headers.length)
    (plain : ∀ header ∈ headers, IsPlainHeader header) (rows : List (List String)) :
    sniff ((WrittenFile.quoted (headers :: rows)).chars separator) = separator := by
  have hne : headers ≠ [] := by
    rintro rfl
    simp at several
  rw [sniff, firstFullLine_quoted hs hne plain]
  have hmem : separator ∈ (WrittenRecord.quoted headers).line separator := by
    match headers, several with
    | _ :: _ :: _, _ =>
      rw [line_quoted_cons_cons]
      exact List.mem_append_right _ (List.mem_cons_self ..)
  refine mostFrequent_of_dominates hs fun c hc hother => ?_
  have hnone : c ∉ (WrittenRecord.quoted headers).line separator := by
    intro hmem
    rcases mem_line_quoted hmem with rfl | ⟨header, hheader, hin⟩ | ⟨hseparator, -⟩
    · exact absurd hc (by decide)
    · exact (plain header hheader c hin).1 hc
    · exact hother hseparator
  rw [List.count_eq_zero_of_not_mem hnone]
  exact List.count_pos_iff.2 hmem

/-- With one column the comma is guessed. -/
theorem sniff_quoted_single (hs : separator ∈ candidates) {header : String}
    (plain : IsPlainHeader header) (rows : List (List String)) :
    sniff ((WrittenFile.quoted ([header] :: rows)).chars separator) = ',' := by
  rw [sniff, firstFullLine_quoted hs (by simp) (by simpa using plain)]
  refine mostFrequent_of_none fun c hc hmem => ?_
  rcases mem_line_quoted hmem with rfl | ⟨cell, hcell, hin⟩ | ⟨-, hseveral⟩
  · exact absurd hc (by decide)
  · obtain rfl : cell = header := by simpa using hcell
    exact (plain c hin).1 hc
  · simp at hseveral

/-- No separator stands in a file of one column. -/
theorem bytes_quoted_of_narrow {records : List (List String)}
    (narrow : ∀ r ∈ records, r.length = 1) (separator other : Char) :
    (WrittenFile.quoted records).bytes separator = (WrittenFile.quoted records).bytes other := by
  have hchars : (WrittenFile.quoted records).chars separator =
      (WrittenFile.quoted records).chars other := by
    show (records.map WrittenRecord.quoted).flatMap _ = (records.map WrittenRecord.quoted).flatMap _
    rw [List.flatMap_map, List.flatMap_map]
    refine List.flatMap_congr fun r hr => ?_
    obtain ⟨cell, rfl⟩ := List.length_eq_one_iff.1 (narrow r hr)
    simp [WrittenRecord.chars, WrittenRecord.quoted]
  rw [WrittenFile.bytes, WrittenFile.bytes, hchars]

/-- Without a separator being given, a file of quoted cells under plain headers has its
records. -/
theorem recordsOf_guessed (hs : separator ∈ candidates) (hne : headers ≠ [])
    (plain : ∀ header ∈ headers, IsPlainHeader header)
    (width : ∀ r ∈ rows, r.length = headers.length) :
    recordsOf ((WrittenFile.quoted (headers :: rows)).bytes separator) none =
      .ok (headers :: rows) := by
  have hlength : ∀ r ∈ headers :: rows, r.length = headers.length :=
    List.forall_mem_cons.2 ⟨rfl, width⟩
  have hcells : ∀ r ∈ headers :: rows, r ≠ [] := by
    intro r hr
    rw [← List.length_pos_iff, hlength r hr, List.length_pos_iff]
    exact hne
  -- Once the guess is right, the file is read as if its separator had been given.
  have hguess : ∀ d : Char,
      sniff ((WrittenFile.quoted (headers :: rows)).chars d) = d → IsSeparator d →
        recordsOf ((WrittenFile.quoted (headers :: rows)).bytes d) none = .ok (headers :: rows) := by
    intro d hsniff hd
    have hread := recordsOf_quoted hd hcells
    show readRecords (asciiByte (sniff (decodeText _))) _ = _
    rw [decodeText_written (head?_quoted_ne_mark hcells), hsniff]
    rwa [recordsOf, decodeText_written (head?_quoted_ne_mark hcells)] at hread
  by_cases several : 2 ≤ headers.length
  · exact hguess separator (sniff_quoted hs several plain rows) (.of_candidate hs)
  · -- The only column needs no separator, so the file is the one with commas.
    obtain ⟨header, rfl⟩ : ∃ header, headers = [header] := by
      have := List.length_pos_iff.2 hne
      exact List.length_eq_one_iff.1 (by omega)
    have hcomma : ',' ∈ candidates := by decide
    rw [bytes_quoted_of_narrow hlength separator ',']
    exact hguess ',' (sniff_quoted_single hcomma (plain header (by simp)) rows)
      (.of_candidate hcomma)

/-- So the decoder gives back a table of quoted cells under plain headers. -/
theorem decode_guessed (hs : separator ∈ candidates) (hne : headers ≠ [])
    (plain : ∀ header ∈ headers, IsPlainHeader header)
    (clean : ∀ header ∈ headers, Text.Clean header) (distinct : headers.Nodup) (hrows : rows ≠ [])
    (shaped : ∀ r ∈ rows, r.length = headers.length ∧ ∃ cell ∈ r, Text.isBlank cell = false) :
    decode ((WrittenFile.quoted (headers :: rows)).bytes separator) none =
      .ok { headers, rows := rows.map fun cells => ⟨headers.zip cells⟩ } := by
  have width : ∀ r ∈ rows, r.length = headers.length := fun r hr => (shaped r hr).1
  have hfull : ∀ r ∈ rows, isBlankRecord r = false := fun r hr =>
    isBlankRecord_of_full (shaped r hr).2
  exact decode_eq_ok.2 ⟨_, recordsOf_guessed hs hne plain width,
    Table.ofRecords?_eq hne clean distinct hrows width hfull⟩

end

end SheetIntake.Delimited
