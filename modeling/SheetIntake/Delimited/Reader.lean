/-! # Records of delimited text

A reader that takes one symbol at a time.  A record ends at a line break, and
empty lines are no records.  A cell that starts with a quotation mark is quoted:
in it two quotation marks stand for one, and a single one ends the quoting, after
which the cell goes on as it stands.  A quotation mark elsewhere is an ordinary
symbol.  A quoted cell may hold separators and line breaks, and one that is never
closed runs to the end of the text.

The reader works on symbols of any type; only the marks that it looks for have to
be told apart. -/

namespace SheetIntake.Delimited

/-- The symbols that have a meaning. -/
structure Marks (σ : Type) where
  isSeparator : σ → Bool
  isQuote : σ → Bool
  isBreak : σ → Bool

/-- Where the reader stands. -/
inductive Phase where
  /-- Before a record, where line breaks are skipped. -/
  | recordStart
  | cellStart
  /-- In a cell that is not quoted, or behind the quoted part of one. -/
  | bare
  | quoted
  /-- After a quotation mark in a quoted cell. -/
  | quoteSeen
deriving DecidableEq

/-- What a symbol does. -/
inductive Action where
  | skip (next : Phase)
  /-- The symbol belongs to the cell. -/
  | add (next : Phase)
  | endCell
  | endRecord
deriving DecidableEq

variable {σ : Type}

/-- A symbol at the start of a cell. -/
def Marks.atCellStart (m : Marks σ) (c : σ) : Action :=
  if m.isQuote c then .skip .quoted
  else if m.isSeparator c then .endCell
  else if m.isBreak c then .endRecord
  else .add .bare

/-- A symbol in a given phase. -/
def Marks.act (m : Marks σ) (p : Phase) (c : σ) : Action :=
  match p with
  | .recordStart => if m.isBreak c then .skip .recordStart else m.atCellStart c
  | .cellStart => m.atCellStart c
  | .bare =>
    if m.isSeparator c then .endCell else if m.isBreak c then .endRecord else .add .bare
  | .quoted => if m.isQuote c then .skip .quoteSeen else .add .quoted
  | .quoteSeen =>
    if m.isQuote c then .add .quoted
    else if m.isSeparator c then .endCell
    else if m.isBreak c then .endRecord
    else .add .bare

/-- A record, and the offset at which its reading began: right behind the line break
symbol that ended the record before it. -/
structure Record (σ : Type) where
  offset : Nat
  cells : List (List σ)

/-- Reads on at offset `here` in a record that began at `start`.  The cells read so far and
the symbols of the current cell are given last one first. -/
def scan (m : Marks σ) (here start : Nat) (p : Phase) (cells : List (List σ)) (cell : List σ) :
    List σ → List (Record σ)
  | [] =>
    match p with
    | .recordStart => []
    | _ => [⟨start, (cell.reverse :: cells).reverse⟩]
  | c :: cs =>
    match m.act p c with
    | .skip next => scan m (here + 1) start next cells cell cs
    | .add next => scan m (here + 1) start next cells (c :: cell) cs
    | .endCell => scan m (here + 1) start .cellStart (cell.reverse :: cells) [] cs
    | .endRecord =>
      ⟨start, (cell.reverse :: cells).reverse⟩ ::
        scan m (here + 1) (here + 1) .recordStart [] [] cs

/-- The records of a text whose first symbol has the offset `first`. -/
def records (m : Marks σ) (first : Nat) (cs : List σ) : List (Record σ) :=
  scan m first 0 .recordStart [] [] cs

end SheetIntake.Delimited
