/-! # Maps from text to text

A finite map, its keys in the order in which they were first put.  Putting a key
again replaces what it stands for. -/

namespace SheetIntake

/-- A map from text to text. -/
structure TextMap where
  entries : List (String × String)
deriving DecidableEq

namespace TextMap

def empty : TextMap := ⟨[]⟩

instance : Inhabited TextMap := ⟨empty⟩

def keys (m : TextMap) : List String := m.entries.map Prod.fst

/-- What a key stands for. -/
def get? (m : TextMap) (key : String) : Option String := m.entries.lookup key

/-- What a key stands for, the empty text when it is not there. -/
def getText (m : TextMap) (key : String) : String := (m.get? key).getD ""

/-- Entries with `key` standing for `value`. -/
def putEntry (key value : String) : List (String × String) → List (String × String)
  | [] => [(key, value)]
  | e :: es => if e.1 = key then (key, value) :: es else e :: putEntry key value es

def put (m : TextMap) (key value : String) : TextMap := ⟨putEntry key value m.entries⟩

/-- The map that pairs make when they are put one after the other. -/
def ofPairs (pairs : List (String × String)) : TextMap :=
  pairs.foldl (fun m p => m.put p.1 p.2) empty

end TextMap

end SheetIntake
