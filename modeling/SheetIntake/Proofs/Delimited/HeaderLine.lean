import SheetIntake.Proofs.Delimited.Totality

/-! # The separator and the header line

    Without quotation marks a file is read line by line, and a line is cut at every separator
    (`textCells_unquoted`).  The first line with a cell that is not blank, the *header line*, gives
    the headers (`headers_eq`).

    The separator is guessed before there are any lines: it is the most frequent candidate of the
    line that the guess is made from (`isMostFrequent_mostFrequent`).  For the guess a line ends at
    a line feed only, and it has something in it as soon as a separator stands in it.  For the
    reader a line ends at a carriage return too, and a line of separators is blank.  So the two
    lines can differ.  They have the same candidates if, of the parts that carriage returns cut the
    guessed line into, only one has any, and something else stands in that part (`HeaderAlone`).
    Then the separator is that of the header line, and no other line counts
    (`separator_follows_header`). -/

namespace SheetIntake.Delimited

/-! ## Lists cut at marks -/

section
variable {α : Type} {p : α → Bool}

/-- A list is one part without marks, or such a part with a mark and a list behind it. -/
@[elab_as_elim]
theorem cut_induction {motive : List α → Prop} (last : ∀ l, (∀ x ∈ l, p x = false) → motive l)
    (cut : ∀ l x xs, (∀ y ∈ l, p y = false) → p x = true → motive xs → motive (l ++ x :: xs))
    (xs : List α) : motive xs := by
  -- The part that has been read so far goes through the induction.
  have hread : ∀ xs l, (∀ x ∈ l, p x = false) → motive (l ++ xs) := by
    intro xs
    induction xs with
    | nil => exact fun l hl => (List.append_nil l).symm ▸ last l hl
    | cons x xs ih =>
      intro l hl
      cases hx : p x with
      | true => exact cut l x xs hl hx (ih [] (by simp))
      | false =>
        have hlonger : ∀ y ∈ l ++ [x], p y = false :=
          List.forall_mem_append.2 ⟨hl, List.forall_mem_singleton.2 hx⟩
        simpa using ih (l ++ [x]) hlonger
  exact hread xs [] (by simp)

theorem splitOnP_cut {l : List α} (h : ∀ x ∈ l, p x = false) {x : α} (hx : p x = true)
    (xs : List α) : (l ++ x :: xs).splitOnP p = l :: xs.splitOnP p := by
  rw [List.splitOnP_append_cons _ _ hx, List.splitOnP_eq_singleton h, List.singleton_append]

/-- What holds of all symbols but the marks holds in all parts. -/
theorem all_splitOnP (q : α → Bool) (xs : List α) :
    ((xs.splitOnP p).all fun l => l.all q) = xs.all fun x => p x || q x := by
  have hpart : ∀ l : List α, (∀ x ∈ l, p x = false) → l.all q = l.all fun x => p x || q x := by
    intro l hl
    rw [Bool.eq_iff_iff, List.all_eq_true, List.all_eq_true]
    exact forall₂_congr fun x hx => by simp [hl x hx]
  induction xs using cut_induction (p := p) with
  | last l hl =>
    rw [List.splitOnP_eq_singleton hl, ← hpart l hl, List.all_cons, List.all_nil, Bool.and_true]
  | cut l x xs hl hx ih =>
    rw [splitOnP_cut hl hx, List.all_cons, ih, hpart l hl, List.all_append, List.all_cons, hx,
      Bool.true_or, Bool.true_and]

/-- The parts between separators have no separator, and nothing that the line has not. -/
theorem of_mem_splitOn {separator : Char} {line l : List Char} (h : l ∈ line.splitOn separator) :
    ∀ x ∈ l, x ≠ separator ∧ x ∈ line := by
  have hline : (line.all fun x => x == separator || (x != separator && decide (x ∈ line))) =
      true := by simp +contextual [em]
  rw [← all_splitOnP, List.all_eq_true] at hline
  simpa using hline l h

end

/-! ## Lines -/

def isLineBreak (c : Char) : Bool := c == '\n' || c == '\r'

theorem isLineBreak_iff {c : Char} : isLineBreak c = true ↔ c = '\n' ∨ c = '\r' := by
  simp [isLineBreak]

/-- The lines of a text for the reader of records. -/
def recordLines (cs : List Char) : List (List Char) := cs.splitOnP isLineBreak

/-- The cells of a line without quotation marks. -/
def lineCells (separator : Char) (line : List Char) : List String :=
  (line.splitOn separator).map String.ofList

/-- The first line with a cell that is not blank, or the empty line. -/
def headerLine (separator : Char) (cs : List Char) : List Char :=
  ((recordLines cs).find? fun line => !isBlankRecord (lineCells separator line)).getD []

section
variable {separator : Char} {line cs : List Char}

/-- A record is blank if its line has only white space and separators. -/
theorem isBlankRecord_lineCells (separator : Char) (line : List Char) :
    isBlankRecord (lineCells separator line) =
      line.all fun c => c == separator || Text.isBlankChar c := by
  rw [← all_splitOnP]
  simp [isBlankRecord, lineCells, Text.isBlank, List.all_map, Function.comp_def, List.splitOn]

/-- A line without line breaks and quotation marks is cut at its separators. -/
theorem read_unquoted (hs : IsSeparator separator) (hne : line ≠ [])
    (hbreak : ∀ c ∈ line, isLineBreak c = false) (hquote : '"' ∉ line) {rest : List Char}
    (hrest : StartsWithBreak rest) :
    textCells separator (line ++ rest) = line.splitOn separator :: textCells separator rest := by
  let r : WrittenRecord :=
    { cells := (line.splitOn separator).map fun l => ⟨String.ofList l, false⟩, breaks := [] }
  have hline : r.line separator = line := by
    simp [r, WrittenRecord.line, WrittenCell.chars, Function.comp_def]
  have hfits : ∀ c ∈ r.cells, c.Fits separator := by
    intro c hc
    obtain ⟨l, hl, rfl⟩ := List.mem_map.1 hc
    refine .inr fun x hx => ?_
    rw [String.toList_ofList] at hx
    obtain ⟨hne, hmem⟩ := of_mem_splitOn hl x hx
    have hplain : ¬ (x = '\n' ∨ x = '\r') := by simp [← isLineBreak_iff, hbreak x hmem]
    exact ⟨hne, ne_of_mem_of_not_mem hmem hquote, not_or.1 hplain⟩
  have hread := read_record hs hfits (hline.symm ▸ hne) hrest
  rw [hline] at hread
  simpa [r, Function.comp_def] using hread

/-- A text without quotation marks is read line by line, but for the empty lines. -/
theorem textCells_unquoted (hs : IsSeparator separator) (h : '"' ∉ cs) :
    textCells separator cs =
      ((recordLines cs).filter (· ≠ [])).map fun line => line.splitOn separator := by
  induction cs using cut_induction (p := isLineBreak) with
  | last line hline =>
    rw [recordLines, List.splitOnP_eq_singleton hline]
    by_cases hne : line = []
    · subst hne; rfl
    · have hread := read_unquoted hs hne hline h startsWithBreak_nil
      rw [List.append_nil] at hread
      rw [hread]
      simp [hne, textCells]
  | cut line c rest hline hc ih =>
    obtain ⟨hquote, hrest⟩ : '"' ∉ line ∧ '"' ∉ rest := by
      simp only [List.mem_append, List.mem_cons, not_or] at h
      exact ⟨h.1, h.2.2⟩
    have hbreak : textCells separator (c :: rest) = textCells separator rest :=
      read_break (isLineBreak_iff.1 hc)
    rw [recordLines, splitOnP_cut hline hc]
    by_cases hne : line = []
    · subst hne
      exact hbreak.trans (ih hrest)
    · have hstarts : StartsWithBreak (c :: rest) := by
        simpa [StartsWithBreak] using isLineBreak_iff.1 hc
      rw [read_unquoted hs hne hline hquote hstarts, hbreak]
      simp only [ne_eq, hne, not_false_eq_true, decide_true, List.filter_cons_of_pos, List.map_cons]
      exact congrArg _ (ih hrest)

end

/-! ## The header line -/

section
variable {bytes : List UInt8} {t : Table}

/-- The header line of a file whose separator is guessed. -/
def headerOf (bytes : List UInt8) : List Char :=
  headerLine (separatorOf bytes none) (Text.Utf8.withoutMark (decodeText bytes))

theorem textRecords_unquoted (h : '"' ∉ decodeText bytes) :
    textRecords bytes none =
      ((recordLines (Text.Utf8.withoutMark (decodeText bytes))).filter (· ≠ [])).map
        (lineCells (separatorOf bytes none)) := by
  have hs : IsSeparator (separatorOf bytes none) := IsSeparator.of_candidate (sniff_mem _)
  have hquote : '"' ∉ Text.Utf8.withoutMark (decodeText bytes) := by
    unfold Text.Utf8.withoutMark
    split
    · exact fun hmem => h (List.mem_of_mem_tail hmem)
    · exact h
  rw [textRecords, textCells_unquoted hs hquote, List.map_map]
  rfl

theorem headers_eq (h : decode bytes none = .ok t) (unquoted : '"' ∉ decodeText bytes) :
    t.headers = Naming.name (lineCells (separatorOf bytes none) (headerOf bytes)) := by
  obtain ⟨records, hrecords, htable⟩ := decode_eq_ok.1 h
  rw [recordsOf_eq (by simp), Except.ok.injEq, textRecords_unquoted unquoted] at hrecords
  obtain ⟨first, hfirst, hheaders⟩ := Table.headers_of_ofRecords? htable
  rw [← hrecords, List.find?_map, List.find?_filter, Option.map_eq_some_iff] at hfirst
  obtain ⟨line, hline, rfl⟩ := hfirst
  -- An empty line has no record, but its record would be blank anyway.
  have hempty : ∀ l, decide (decide (l ≠ []) = true ∧ ((fun r => !isBlankRecord r) ∘
      lineCells (separatorOf bytes none)) l = true) =
        !isBlankRecord (lineCells (separatorOf bytes none) l) := by
    intro l
    cases l with
    | nil => simp [isBlankRecord_lineCells]
    | cons c cs => simp
  simp only [hempty] at hline
  rw [hheaders, headerOf, headerLine, hline, Option.getD_some]

end

/-! ## Candidates of two lines -/

section
variable {among line line' : List Char} {d d' : Char}

/-- Only the numbers of the candidates count. -/
theorem IsMostFrequent.of_count (h : IsMostFrequent among line d)
    (same : ∀ c ∈ among, line'.count c = line.count c) : IsMostFrequent among line' d where
  mem := h.mem
  most c hc := by rw [same c hc, same d h.mem]; exact h.most c hc
  first c hc := by
    rw [same c ((List.takeWhile_sublist _).subset hc), same d h.mem]
    exact h.first c hc

theorem not_isMostFrequent (hmem : d' ∈ among) (h : line.count d < line.count d') :
    ¬ IsMostFrequent among line d :=
  fun hmost => Nat.not_le.2 h (hmost.most d' hmem)

end

/-! ## The line that the guess is made from -/

/-- Nothing stands in front, or a line break does. -/
def EndsInBreak (front : List Char) : Prop := ∀ c ∈ front.getLast?, c = '\n' ∨ c = '\r'

theorem EndsInBreak.append {front back : List Char} (h : EndsInBreak front)
    (h' : EndsInBreak back) : EndsInBreak (front ++ back) := by
  unfold EndsInBreak at *
  rw [List.getLast?_append]
  cases hback : back.getLast? with
  | none => simpa using h
  | some c => simpa [hback] using h'

theorem StartsWithBreak.append {front back : List Char} (h : StartsWithBreak front)
    (h' : StartsWithBreak back) : StartsWithBreak (front ++ back) := by
  cases front with
  | nil => exact h'
  | cons c cs => exact h

section
variable {l cs : List Char}

theorem lines_of_not_mem (h : '\n' ∉ l) : lines l = [l] := by
  induction l with
  | nil => rfl
  | cons c cs ih =>
    rw [List.mem_cons, not_or] at h
    simp [lines, Ne.symm h.1, ih h.2]

theorem firstFullLine_append_blank (h : '\n' ∉ l) (blank : l.all Text.isBlankChar = true)
    (rest : List Char) : firstFullLine (l ++ '\n' :: rest) = firstFullLine rest := by
  rw [firstFullLine, lines_append h, List.find?_cons_of_neg (by simp [blank]), ← firstFullLine]

/-- White space stands in front of the first line with something in it. -/
theorem exists_firstFullLine (h : firstFullLine cs ≠ []) :
    ∃ before after, cs = before ++ firstFullLine cs ++ after ∧
      (∀ c ∈ before, Text.isBlankChar c = true) ∧ EndsInBreak before ∧ StartsWithBreak after := by
  induction cs using cut_induction (p := (· == '\n')) with
  | last l hl =>
    have hline : '\n' ∉ l := fun hmem => by simpa using hl _ hmem
    rw [firstFullLine, lines_of_not_mem hline] at h ⊢
    cases hfull : l.all Text.isBlankChar with
    | true => simp [hfull] at h
    | false => exact ⟨[], [], by simp [hfull], by simp, by simp [EndsInBreak], startsWithBreak_nil⟩
  | cut l x rest hl hx ih =>
    obtain rfl : x = '\n' := by simpa using hx
    have hline : '\n' ∉ l := fun hmem => by simpa using hl _ hmem
    cases hfull : l.all Text.isBlankChar with
    | true =>
      rw [firstFullLine_append_blank hline hfull] at h ⊢
      obtain ⟨before, after, hrest, hbefore, hends, hafter⟩ := ih h
      refine ⟨l ++ '\n' :: before, after, ?_, ?_, ?_, hafter⟩
      · rw [List.append_assoc, List.append_assoc, List.cons_append, ← List.append_assoc before,
          ← hrest]
      · have hblank : Text.isBlankChar '\n' = true := by decide
        exact List.forall_mem_append.2
          ⟨List.all_eq_true.1 hfull, List.forall_mem_cons.2 ⟨hblank, hbefore⟩⟩
      · cases before with
        | nil => simp [EndsInBreak]
        | cons c cs =>
          simpa [EndsInBreak, List.getLast?_append, List.getLast?_cons_cons] using hends
    | false =>
      rw [firstFullLine_append hline hfull]
      exact ⟨[], '\n' :: rest, by simp, by simp, by simp [EndsInBreak], by simp [StartsWithBreak]⟩

end

/-! ## Where both lines agree -/

/-- A part of a text stands on a line of its own, behind white space, and something stands in it
that is not a separator and cannot be taken for a byte order mark. -/
structure StandsAlone (separator : Char) (before header after : List Char) : Prop where
  blank : ∀ c ∈ before, Text.isBlankChar c = true
  ends : EndsInBreak before
  unbroken : ∀ c ∈ header, isLineBreak c = false
  full : ∃ c ∈ header, c ≠ separator ∧ Text.isBlankChar c = false ∧ c ≠ Text.Utf8.markChar
  starts : StartsWithBreak after

/-- Of the parts into which carriage returns cut a line only one has candidates, and something else
stands in it. -/
def HeaderAlone (separator : Char) (line : List Char) : Prop :=
  ∃ before header after, line = before ++ header ++ after ∧
    StandsAlone separator before header after ∧ ∀ c ∈ before ++ after, c ∉ candidates

section
variable {separator : Char} {before header after line : List Char}

theorem recordLines_of_starts (h : ∀ c ∈ header, isLineBreak c = false)
    (starts : StartsWithBreak after) : ∃ ls, recordLines (header ++ after) = header :: ls := by
  cases after with
  | nil => exact ⟨[], by rw [List.append_nil, recordLines, List.splitOnP_eq_singleton h]⟩
  | cons c rest => exact ⟨_, splitOnP_cut h (isLineBreak_iff.2 (starts c rfl)) rest⟩

/-- The guess is made from the header line alone if lines end in line feeds, be it behind carriage
returns, and the first line with something in it has more than separators. -/
theorem headerAlone_of_line {ending : List Char} (hending : ending = [] ∨ ending = ['\r'])
    (unbroken : ∀ c ∈ header, isLineBreak c = false)
    (full : ∃ c ∈ header, c ≠ separator ∧ Text.isBlankChar c = false ∧ c ≠ Text.Utf8.markChar) :
    HeaderAlone separator (header ++ ending) := by
  refine ⟨[], header, ending, rfl, ⟨by simp, by simp [EndsInBreak], unbroken, full, ?_⟩, ?_⟩
  · rcases hending with rfl | rfl <;> simp [StartsWithBreak]
  · rcases hending with rfl | rfl <;> simp [candidates]

/-- White space in front of it leaves the header line as it is. -/
theorem headerLine_append (ends : EndsInBreak before)
    (blank : ∀ c ∈ before, Text.isBlankChar c = true) (cs : List Char) :
    headerLine separator (before ++ cs) = headerLine separator cs := by
  rcases List.eq_nil_or_concat' before with rfl | ⟨front, c, rfl⟩
  · rw [List.nil_append]
  have hc : isLineBreak c = true := isLineBreak_iff.2 (ends c (by simp))
  have hfront : ∀ l ∈ recordLines front, isBlankRecord (lineCells separator l) = true := by
    intro l hl
    have hall : (front.all fun x => isLineBreak x || (x == separator || Text.isBlankChar x)) =
        true := List.all_eq_true.2 fun x hx => by simp [blank x (List.mem_append_left _ hx)]
    rw [← all_splitOnP, List.all_eq_true] at hall
    rw [isBlankRecord_lineCells]
    exact hall l hl
  have hnone : (recordLines front).find? (fun l => !isBlankRecord (lineCells separator l)) =
      none := List.find?_eq_none.2 fun l hl => by simp [hfront l hl]
  rw [headerLine, recordLines, List.append_assoc, List.singleton_append,
    List.splitOnP_append_cons _ _ hc, List.find?_append, ← recordLines, hnone, Option.none_or]
  rfl

/-- The header line is such a part if there is one. -/
theorem StandsAlone.headerLine_eq (h : StandsAlone separator before header after) :
    headerLine separator (before ++ header ++ after) = header := by
  obtain ⟨ls, hls⟩ := recordLines_of_starts h.unbroken h.starts
  obtain ⟨c, hc, hne, hfull, -⟩ := h.full
  have hheader : isBlankRecord (lineCells separator header) = false := by
    rw [isBlankRecord_lineCells]
    exact List.all_eq_false.2 ⟨c, hc, by simp [hne, hfull]⟩
  rw [List.append_assoc, headerLine_append h.ends h.blank, headerLine, hls,
    List.find?_cons_of_pos (by simp [hheader]), Option.getD_some]

/-- A byte order mark in front of the text is no part of the header line, and no candidate. -/
theorem StandsAlone.count_headerLine (h : StandsAlone separator before header after) {c : Char}
    (hc : c ∈ candidates) :
    (headerLine separator (Text.Utf8.withoutMark (before ++ header ++ after))).count c =
      header.count c := by
  unfold Text.Utf8.withoutMark
  split
  · rename_i hmark
    -- The mark is not white space, so the header line is the first one.
    obtain rfl : before = [] := by
      cases before with
      | nil => rfl
      | cons x xs =>
        obtain rfl : x = Text.Utf8.markChar := by simpa using hmark
        exact absurd (h.blank _ (List.mem_cons_self ..)) (by decide)
    obtain ⟨x, hx, hne, hfull, hplain⟩ := h.full
    obtain ⟨y, rest, rfl⟩ := List.exists_cons_of_ne_nil (List.ne_nil_of_mem hx)
    obtain rfl : y = Text.Utf8.markChar := by simpa using hmark
    have hrest : StandsAlone separator [] rest after :=
      { blank := h.blank
        ends := h.ends
        unbroken := fun z hz => h.unbroken z (List.mem_cons_of_mem _ hz)
        full := ⟨x, (List.mem_cons.1 hx).resolve_left hplain, hne, hfull, hplain⟩
        starts := h.starts }
    have hcount : c ≠ Text.Utf8.markChar := by
      rintro rfl
      exact absurd hc (by decide)
    have hline := hrest.headerLine_eq
    rw [List.nil_append] at hline
    rw [List.nil_append, List.cons_append, List.tail_cons, hline,
      List.count_cons_of_ne hcount.symm]
  · rw [h.headerLine_eq]

end

section
variable {bytes : List UInt8} {t : Table}

/-- The header line has the candidates of the line that the guess is made from. -/
theorem count_headerOf (h : HeaderAlone (separatorOf bytes none) (firstFullLine (decodeText bytes)))
    {c : Char} (hc : c ∈ candidates) :
    (headerOf bytes).count c = (firstFullLine (decodeText bytes)).count c := by
  obtain ⟨before, header, after, hline, halone, hplain⟩ := h
  have hfull : firstFullLine (decodeText bytes) ≠ [] := by
    obtain ⟨x, hx, -⟩ := halone.full
    rw [hline]
    exact List.ne_nil_of_mem (List.mem_append_left _ (List.mem_append_right _ hx))
  obtain ⟨front, back, htext, hblank, hends, hstarts⟩ := exists_firstFullLine hfull
  have hwhole : StandsAlone (separatorOf bytes none) (front ++ before) header (after ++ back) :=
    { blank := List.forall_mem_append.2 ⟨hblank, halone.blank⟩
      ends := hends.append halone.ends
      unbroken := halone.unbroken
      full := halone.full
      starts := halone.starts.append hstarts }
  have hsplit : decodeText bytes = front ++ before ++ header ++ (after ++ back) := by
    rw [htext, hline]
    simp
  have hbefore : before.count c = 0 :=
    List.count_eq_zero.2 fun hmem => hplain c (List.mem_append_left _ hmem) hc
  have hafter : after.count c = 0 :=
    List.count_eq_zero.2 fun hmem => hplain c (List.mem_append_right _ hmem) hc
  rw [headerOf, hsplit, hwhole.count_headerLine hc, ← hsplit, hline, List.count_append,
    List.count_append, hbefore, hafter, Nat.zero_add, Nat.add_zero]

/-- The separator that is guessed is that of the header line, and no other line counts. -/
theorem separator_follows_header (h : decode bytes none = .ok t) (unquoted : '"' ∉ decodeText bytes)
    (alone : HeaderAlone (separatorOf bytes none) (firstFullLine (decodeText bytes))) :
    recordsOf bytes none =
        .ok (((recordLines (Text.Utf8.withoutMark (decodeText bytes))).filter (· ≠ [])).map
          (lineCells (separatorOf bytes none))) ∧
      t.headers = Naming.name (lineCells (separatorOf bytes none) (headerOf bytes)) ∧
      IsMostFrequent candidates (headerOf bytes) (separatorOf bytes none) ∧
      ∀ other, HeaderAlone (separatorOf other none) (firstFullLine (decodeText other)) →
        headerOf other = headerOf bytes → separatorOf other none = separatorOf bytes none := by
  have hguess : ∀ bytes, HeaderAlone (separatorOf bytes none) (firstFullLine (decodeText bytes)) →
      IsMostFrequent candidates (headerOf bytes) (separatorOf bytes none) := fun bytes alone =>
    (isMostFrequent_mostFrequent _).of_count fun _ hc => count_headerOf alone hc
  refine ⟨?_, headers_eq h unquoted, hguess bytes alone, fun other halone hsame => ?_⟩
  · rw [recordsOf_eq (by simp), textRecords_unquoted unquoted]
  · exact (hsame ▸ hguess other halone).unique (hguess bytes alone)

end

/-- A line of white space with a tab in it, then headers, then a row with more commas than the
headers have semicolons. -/
def crlfBytes : List UInt8 := Text.Utf8.bytes " \t\r\nName;a|b;Year\r\n1,2,3,4;5;6\r\n"

theorem crlf_separator_of_header :
    HeaderAlone (separatorOf crlfBytes none) (firstFullLine (decodeText crlfBytes)) ∧
      (∃ t, decode crlfBytes none = .ok t ∧ t.headers = ["Name", "a|b", "Year"]) ∧
      headerOf crlfBytes = "Name;a|b;Year".toList ∧
      IsMostFrequent candidates "Name;a|b;Year".toList ';' ∧
      separatorOf (Text.Utf8.bytes "Name;a|b;Year") none = ';' := by
  have hline : firstFullLine (decodeText crlfBytes) = "Name;a|b;Year".toList ++ ['\r'] := by
    decide +kernel
  have hother : firstFullLine (decodeText (Text.Utf8.bytes "Name;a|b;Year")) =
      "Name;a|b;Year".toList ++ [] := by decide +kernel
  have halone : HeaderAlone (separatorOf crlfBytes none) (firstFullLine (decodeText crlfBytes)) :=
    hline ▸ headerAlone_of_line (.inr rfl) (by simp [isLineBreak]) ⟨'N', by decide +kernel⟩
  have halone' : HeaderAlone (separatorOf (Text.Utf8.bytes "Name;a|b;Year") none)
      (firstFullLine (decodeText (Text.Utf8.bytes "Name;a|b;Year"))) :=
    hother ▸ headerAlone_of_line (.inl rfl) (by simp [isLineBreak]) ⟨'N', by decide +kernel⟩
  have hdecoded : decode crlfBytes none =
      .ok ⟨["Name", "a|b", "Year"], [⟨[("Name", "1,2,3,4"), ("a|b", "5"), ("Year", "6")]⟩]⟩ := by
    rfl
  have hheader : headerOf crlfBytes = "Name;a|b;Year".toList := by decide +kernel
  obtain ⟨-, -, hmost, hsame⟩ :=
    separator_follows_header hdecoded (by decide +kernel) halone
  have hseparator : separatorOf crlfBytes none = ';' := by decide +kernel
  refine ⟨halone, ⟨_, hdecoded, rfl⟩, hheader, hheader ▸ hseparator ▸ hmost, ?_⟩
  rw [hsame _ halone' (by decide +kernel), hseparator]

/-- Headers on a line that ends in a carriage return. -/
def crBytes : List UInt8 := Text.Utf8.bytes "a;b\r1,2,3\r4,5,6\r"

/-- Headers behind a line of separators. -/
def separatorsFirst : List UInt8 := Text.Utf8.bytes ";;;\na,b\n1,2\n"

/-- Later lines count if they end in carriage returns, and so does an earlier line of separators. -/
theorem guess_misses_header :
    (decode crBytes none = .ok ⟨["a;b"], [⟨[("a;b", "1")]⟩, ⟨[("a;b", "4")]⟩]⟩ ∧
      '"' ∉ decodeText crBytes ∧ headerOf crBytes = "a;b".toList ∧
      ¬ IsMostFrequent candidates (headerOf crBytes) (separatorOf crBytes none)) ∧
    (decode separatorsFirst none = .ok ⟨["a,b"], [⟨[("a,b", "1,2")]⟩]⟩ ∧
      '"' ∉ decodeText separatorsFirst ∧ headerOf separatorsFirst = "a,b".toList ∧
      ¬ IsMostFrequent candidates (headerOf separatorsFirst)
        (separatorOf separatorsFirst none)) := by
  have hcr : headerOf crBytes = "a;b".toList ∧ separatorOf crBytes none = ',' := by decide +kernel
  have hfirst : headerOf separatorsFirst = "a,b".toList ∧
      separatorOf separatorsFirst none = ';' := by decide +kernel
  refine ⟨⟨by rfl, by decide +kernel, hcr.1, ?_⟩, by rfl, by decide +kernel, hfirst.1, ?_⟩
  · rw [hcr.1, hcr.2]
    exact not_isMostFrequent (show ';' ∈ candidates by decide) (by decide)
  · rw [hfirst.1, hfirst.2]
    exact not_isMostFrequent (show ',' ∈ candidates by decide) (by decide)

end SheetIntake.Delimited
