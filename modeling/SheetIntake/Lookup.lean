import SheetIntake.Json.Shape
import SheetIntake.Text.Blank
import SheetIntake.Text.Case

/-! # Looking up references

A column can refer to a record that already exists.  The text of a cell is
compared with the names in a lookup table first, then with the codes, both
without regard to case, and last with the ids as they stand; the first entry that
fits is taken. -/

namespace SheetIntake

/-- A record that a cell can refer to. -/
structure LookupEntry where
  id : String
  name : String
  code : Option String
  /-- The property that a unit belongs to. -/
  parent : Option String
deriving DecidableEq, Inhabited

namespace LookupEntry

/-- The form in which texts are compared without regard to case. -/
def folded (s : String) : String := Text.lower (Text.trim s)

def hasName (needle : String) (e : LookupEntry) : Bool := folded e.name == folded needle

def hasCode (needle : String) (e : LookupEntry) : Bool := e.code.map folded == some (folded needle)

def hasId (needle : String) (e : LookupEntry) : Bool := e.id == Text.trim needle

/-- The entry that a text refers to.  A blank text refers to none. -/
def resolve? (value : String) (table : List LookupEntry) : Option LookupEntry :=
  if Text.isBlank value then none
  else (table.find? (hasName value)).or <|
    (table.find? (hasCode value)).or (table.find? (hasId value))

/-! ## In JSON -/

def toJson (e : LookupEntry) : Json :=
  .obj [("id", .str e.id), ("name", .str e.name), ("code", .ofText? e.code),
    ("parent_id", .ofText? e.parent)]

/-- How an entry is written. -/
def shape : Json.Shape LookupEntry where
  called := "LookupEntry"
  fields := [
    { name := "id", spellings := ["id"], required := true
      read := fun n e => n.readText.map fun id => { e with id } },
    { name := "name", spellings := ["name"], required := true
      read := fun n e => n.readText.map fun name => { e with name } },
    { name := "code", spellings := ["code"], required := false
      read := fun n e => (n.readOption Json.Node.readText).map fun code => { e with code } },
    { name := "parent_id", spellings := ["parent_id", "property_id"], required := false
      read := fun n e => (n.readOption Json.Node.readText).map fun parent => { e with parent } }]

/-- Reads an entry. -/
def read (n : Json.Node) : Except Json.Fault LookupEntry :=
  shape.read { id := "", name := "", code := none, parent := none } n

end LookupEntry

end SheetIntake
