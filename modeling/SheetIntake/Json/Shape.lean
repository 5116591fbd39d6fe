import SheetIntake.Json.Node

/-! # Reading values of a known shape

A structure is written as an object, whose unknown members are skipped, or as a
list of its fields in order.  Readers go through the text from front to back and
stop at the first fault, be it a break in the text or a wrong shape. -/

namespace SheetIntake.Json

/-- What stands where something else was expected. -/
inductive Found where
  | null
  | bool (b : Bool)
  | int (n : Int)
  | real (x : Binary64)
  | text (s : String)
  | list
  | object

/-- Why a value could not be read. -/
inductive Fault where
  /-- The text broke off or is no JSON. -/
  | malformed
  | wrongType (found : Found) (expected : String)
  | missing (field : String)
  | duplicate (field : String)
  /-- A list is too short for the structure it should be. -/
  | tooShort (length : Nat) (expected : String)
  /-- A list has more items than the structure has fields. -/
  | tooLong (length : Nat)

/-- Doubles in fault messages are positional throughout. -/
def Found.layout : Layout := { positional := none, keepsPoint := true, tie := .up }

/-- One character of a text that a message shows between quotation marks; a control
character stands as its code. -/
def Found.showChar (c : Char) : List Char :=
  if c = '"' ∨ c = '\\' then ['\\', c]
  else if c = '\n' then ['\\', 'n']
  else if c = '\r' then ['\\', 'r']
  else if c = '\t' then ['\\', 't']
  else if c.toNat = 0 then ['\\', '0']
  else if c.toNat < 0x20 ∨ (0x7F ≤ c.toNat ∧ c.toNat < 0xA0) then
    '\\' :: 'u' :: '\x7b' :: Nat.toDigits 16 c.toNat ++ ['\x7d']
  else [c]

def Found.describe : Found → String
  | null => "null"
  | bool b => if b then "boolean `true`" else "boolean `false`"
  | int n => s!"integer `{n}`"
  | real x => s!"floating point `{layout.write x}`"
  | text s => "string " ++ String.ofList ('"' :: s.toList.flatMap showChar ++ ['"'])
  | list => "sequence"
  | object => "map"

def Fault.message : Fault → String
  | malformed => "the text is no JSON"
  | wrongType found expected => s!"invalid type: {found.describe}, expected {expected}"
  | missing field => s!"missing field `{field}`"
  | duplicate field => s!"duplicate field `{field}`"
  | tooShort n expected => s!"invalid length {n}, expected {expected}"
  | tooLong n => s!"invalid length {n}, expected fewer elements in array"

/-- Whether a fault lies in the text rather than in the shape of what it says. -/
def Fault.isSyntactic : Fault → Bool
  | malformed | tooLong _ => true
  | _ => false

namespace Node

/-- The fault of a node that is not what was expected. -/
def mismatch (expected : String) : Node → Fault
  | null => .wrongType .null expected
  | bool b => .wrongType (.bool b) expected
  | number (.int n) => .wrongType (.int n) expected
  | number (.real x) => .wrongType (.real x) expected
  | number .tooLarge => .malformed
  | text (some s) => .wrongType (.text s) expected
  | text none => .malformed
  | list .. => .wrongType .list expected
  | object .. => .wrongType .object expected
  | broken => .malformed

mutual

/-- Whether a node is complete, so that a reader can skip it. -/
def isWhole : Node → Bool
  | list items closed => closed && itemsWhole items
  | object members closed => closed && membersWhole members
  | broken => false
  | _ => true

def itemsWhole : List Node → Bool
  | [] => true
  | n :: ns => isWhole n && itemsWhole ns

def membersWhole : List (Option String × Node) → Bool
  | [] => true
  | (_, n) :: ms => isWhole n && membersWhole ms

end

def readText : Node → Except Fault String
  | text (some s) => .ok s
  | n => .error (n.mismatch "a string")

/-- A number from 0 up to the largest that 64 bits hold, written as an integer. -/
def readWord (n : Node) : Except Fault Nat :=
  match n with
  | number (.int k) => if 0 ≤ k ∧ k ≤ maxWord then .ok k.toNat else .error (n.mismatch "an index")
  | _ => .error (n.mismatch "an index")

/-- Reads a value that may be null. -/
def readOption {α : Type} (read : Node → Except Fault α) : Node → Except Fault (Option α)
  | null => .ok none
  | n => (read n).map some

def readList {α : Type} (read : Node → Except Fault α) : Node → Except Fault (List α)
  | list items closed => do
    let xs ← items.mapM read
    if closed then .ok xs else .error .malformed
  | n => .error (n.mismatch "a sequence")

end Node

/-! ## Structures -/

/-- A field of a structure that is read into `α`. -/
structure Field (α : Type) where
  name : String
  /-- The keys under which the field may stand. -/
  spellings : List String
  required : Bool
  read : Node → α → Except Fault α

/-- A structure: what it is called in messages, and its fields in order. -/
structure Shape (α : Type) where
  called : String
  fields : List (Field α)

namespace Shape

variable {α : Type}

/-- Reads the members of an object in the order they stand in. -/
def readMembers (s : Shape α) (seen : List String) (a : α) :
    List (Option String × Node) → Except Fault (List String × α)
  | [] => .ok (seen, a)
  | (none, _) :: _ => .error .malformed
  | (some key, n) :: rest =>
    match s.fields.find? fun f => f.spellings.contains key with
    | none => if n.isWhole then s.readMembers seen a rest else .error .malformed
    | some f =>
      if seen.contains f.name then .error (.duplicate f.name)
      else do s.readMembers (f.name :: seen) (← f.read n a) rest

/-- Reads the fields of a structure from the items of a list. -/
def readItems (s : Shape α) (closed : Bool) (position : Nat) (a : α) :
    List (Field α) → List Node → Except Fault α
  | [], [] => if closed then .ok a else .error .malformed
  | [], _ :: rest => .error (.tooLong (position + rest.length + 1))
  | f :: fs, [] =>
    if !closed then .error .malformed
    else if f.required then
      .error (.tooShort position s!"struct {s.called} with {s.fields.length} elements")
    else s.readItems closed position a fs []
  | f :: fs, n :: ns => do s.readItems closed (position + 1) (← f.read n a) fs ns

/-- Reads a structure over the values `a` of fields that are left out. -/
def read (s : Shape α) (a : α) : Node → Except Fault α
  | .object members closed => do
    let (seen, a) ← s.readMembers [] a members
    if !closed then .error .malformed
    else match s.fields.find? fun f => f.required && !seen.contains f.name with
      | some f => .error (.missing f.name)
      | none => .ok a
  | .list items closed => s.readItems closed 0 a s.fields items
  | n => .error (n.mismatch s!"struct {s.called}")

end Shape

end SheetIntake.Json
