import SheetIntake.Header
import SheetIntake.ImportError
import SheetIntake.Json.Shape

/-! # Column mappings

A mapping has one entry per column of the file, in file order.  An entry names
the field that the column goes to, or none when the column is skipped.  No field
is the target of two columns: a proposal gives a field to the first column that
matches it, an edit takes it away from other columns, and a list that names one
twice is refused. -/

namespace SheetIntake

/-- A column of the file and the field it goes to. -/
structure ColumnMapping where
  header : String
  target : Option String
deriving DecidableEq, Inhabited

namespace ColumnMapping

def toJson (c : ColumnMapping) : Json :=
  .obj [("source_header", .str c.header), ("target_field_key", .ofText? c.target)]

/-- How an entry is written. -/
def shape : Json.Shape ColumnMapping where
  called := "ColumnMapping"
  fields := [
    { name := "source_header", spellings := ["source_header"], required := true
      read := fun n c => n.readText.map fun header => { c with header } },
    { name := "target_field_key", spellings := ["target_field_key"], required := false
      read := fun n c => (n.readOption Json.Node.readText).map fun target => { c with target } }]

/-- Reads an entry. -/
def read (n : Json.Node) : Except Json.Fault ColumnMapping :=
  shape.read { header := "", target := none } n

end ColumnMapping

abbrev Mapping := List ColumnMapping

namespace Mapping

/-- The fields that columns go to, in column order. -/
def targets (m : Mapping) : List String := m.filterMap ColumnMapping.target

/-- The columns, in file order. -/
def headers (m : Mapping) : List String := m.map ColumnMapping.header

/-! ## Proposing -/

/-- The proposal for columns whose earlier neighbours have claimed some fields. -/
def proposeFrom (fields : List TargetField) (claimed : List String) : List String → Mapping
  | [] => []
  | h :: hs =>
    match Header.match? fields h with
    | some key =>
      if claimed.contains key then ⟨h, none⟩ :: proposeFrom fields claimed hs
      else ⟨h, some key⟩ :: proposeFrom fields (key :: claimed) hs
    | none => ⟨h, none⟩ :: proposeFrom fields claimed hs

/-- Every column with the field that its header matches, unless an earlier one has it. -/
def propose (fields : List TargetField) (headers : List String) : Mapping :=
  proposeFrom fields [] headers

/-! ## Editing -/

def unknownField (key : String) : ImportError := .invalid s!"Unknown target field '{key}'"

def unknownColumn (header : String) : ImportError := .invalid s!"Unknown source column '{header}'"

def repeatedField (key : String) : ImportError :=
  .invalid s!"Target field '{key}' is mapped more than once"

def otherColumns : ImportError := .invalid "Mappings must list every file column in file order"

def isField (fields : List TargetField) (key : String) : Bool := fields.any fun f => f.key == key

/-- Gives the column at an index a target, and takes the target away from all others. -/
def setTarget (m : Mapping) (index : Nat) (target : Option String) : Mapping :=
  m.mapIdx fun i c =>
    if i = index then { c with target }
    else if target.isSome && c.target == target then { c with target := none }
    else c

/-- Points a column at a field.  A blank or missing target skips the column. -/
def assign (fields : List TargetField) (m : Mapping) (header : String)
    (target : Option String) : Except ImportError Mapping :=
  let target := target.bind Text.trimmed?
  match target.filter fun key => !isField fields key with
  | some key => .error (unknownField key)
  | none =>
    match m.findIdx? fun c => c.header == header with
    | none => .error (unknownColumn header)
    | some index => .ok (m.setTarget index target)

/-- Trims targets and checks that each is a field that none of `seen` has named. -/
def checked (fields : List TargetField) (seen : List String) :
    Mapping → Except ImportError Mapping
  | [] => .ok []
  | c :: cs =>
    match c.target.bind Text.trimmed? with
    | none => (checked fields seen cs).map ({ c with target := none } :: ·)
    | some key =>
      if !isField fields key then .error (unknownField key)
      else if seen.contains key then .error (repeatedField key)
      else (checked fields (key :: seen) cs).map ({ c with target := some key } :: ·)

/-- A whole new mapping, which must list every column of the file in file order. -/
def replace (fields : List TargetField) (headers : List String) (incoming : Mapping) :
    Except ImportError Mapping :=
  if incoming.headers = headers then checked fields [] incoming else .error otherColumns

/-! ## Validation -/

/-- The required fields that no column goes to. -/
def missing (fields : List TargetField) (m : Mapping) : List TargetField :=
  fields.filter fun f => f.required && !m.targets.contains f.key

/-- One message per required field that no column goes to. -/
def problems (fields : List TargetField) (m : Mapping) : List String :=
  (missing fields m).map fun f => s!"Required field \"{f.label}\" is not mapped to any column"

end Mapping

end SheetIntake
