import SheetIntake.Text.Blank

/-! # Column names

Every column of a table gets a name of its own.  The header cell is trimmed, a
blank one becomes `Column` with the number of the column, and a name that an
earlier column has taken gets the first free one of the suffixes `_1`, `_2`, …. -/

namespace SheetIntake.Naming

/-- The name a column asks for; `position` counts from 0. -/
def wanted (position : Nat) (cell : String) : String :=
  (Text.trimmed? cell).getD s!"Column {position + 1}"

/-- A name with a suffix, which is empty for 0. -/
def suffixed (base : String) (k : Nat) : String := if k = 0 then base else s!"{base}_{k}"

/-- The first free one of a name and its suffixed forms.  Of more candidates than there are
taken names one is free. -/
def firstFree (taken : List String) (base : String) : String :=
  ((List.range (taken.length + 1)).findSome? fun k =>
    let name := suffixed base k
    if taken.contains name then none else some name).getD base

/-- The names of columns from `position` on; `taken` are the names before them. -/
def nameFrom (taken : List String) (position : Nat) : List String → List String
  | [] => []
  | cell :: cells =>
    let name := firstFree taken (wanted position cell)
    name :: nameFrom (name :: taken) (position + 1) cells

/-- The names of columns with the given header cells. -/
def name (cells : List String) : List String := nameFrom [] 0 cells

end SheetIntake.Naming
