import SheetIntake.Number.Layout

/-! # JSON values

A number is an integer or a double, and an object is a list of members.  The
compact text of a value has no blanks; `sorted` gives objects their members in
the order of their keys, the last of equal keys being the one that counts. -/

namespace SheetIntake

/-- A JSON value. -/
inductive Json where
  | null
  | bool (b : Bool)
  | int (n : Int)
  | real (x : Binary64)
  | str (s : String)
  | arr (items : List Json)
  | obj (members : List (String × Json))

namespace Json

instance : Inhabited Json := ⟨null⟩

/-! ## Building and looking up -/

/-- A text, or null. -/
def ofText? : Option String → Json
  | some s => str s
  | none => null

/-- The member with a key: the last of several. -/
def member? (key : String) : Json → Option Json
  | obj members => (members.reverse.find? fun m => m.1 == key).map Prod.snd
  | _ => none

/-- Members without those that are absent. -/
def present (members : List (String × Option Json)) : List (String × Json) :=
  members.filterMap fun m => m.2.map fun v => (m.1, v)

/-- Puts a member in its place among members sorted by key, over one with the same key. -/
def insertMember (key : String) (value : Json) : List (String × Json) → List (String × Json)
  | [] => [(key, value)]
  | m :: ms =>
    if key < m.1 then (key, value) :: m :: ms
    else if key = m.1 then (key, value) :: ms
    else m :: insertMember key value ms

/-- Members sorted by key. -/
def sortMembers (members : List (String × Json)) : List (String × Json) :=
  members.foldl (fun sorted m => insertMember m.1 m.2 sorted) []

mutual

/-- A value with the members of every object sorted. -/
def sorted : Json → Json
  | arr items => arr (sortedItems items)
  | obj members => obj (sortMembers (sortedMembers members))
  | j => j

def sortedItems : List Json → List Json
  | [] => []
  | j :: js => sorted j :: sortedItems js

def sortedMembers : List (String × Json) → List (String × Json)
  | [] => []
  | (k, j) :: ms => (k, sorted j) :: sortedMembers ms

end

/-! ## Text -/

/-- Doubles in JSON are positional from `0.00001` up to sixteen digits before the point, and
always show that they are no integers. -/
def layout : Layout := { positional := some (-5, 15), keepsPoint := true, tie := .even }

/-- A control character by its code. -/
def hexEscape (c : Char) : List Char :=
  let n := c.toNat
  ['\\', 'u', '0', '0', Nat.digitChar (n / 16), Nat.digitChar (n % 16)]

/-- One character between quotation marks. -/
def quoteChar (c : Char) : List Char :=
  if c = '"' then ['\\', '"']
  else if c = '\\' then ['\\', '\\']
  else if c = '\n' then ['\\', 'n']
  else if c = '\r' then ['\\', 'r']
  else if c = '\t' then ['\\', 't']
  else if c.toNat = 8 then ['\\', 'b']
  else if c.toNat = 12 then ['\\', 'f']
  else if c.toNat < 0x20 then hexEscape c
  else [c]

/-- A text between quotation marks. -/
def quote (s : String) : String := String.ofList ('"' :: s.toList.flatMap quoteChar ++ ['"'])

mutual

/-- The compact text of a value, members in the order they stand in. -/
def render : Json → String
  | null => "null"
  | bool b => if b then "true" else "false"
  | int n => toString n
  | real x => if x.isFinite then layout.write x else "null"
  | str s => quote s
  | arr items => "[" ++ renderItems items ++ "]"
  | obj members => "\x7b" ++ renderMembers members ++ "\x7d"

def renderItems : List Json → String
  | [] => ""
  | [j] => render j
  | j :: js => render j ++ "," ++ renderItems js

def renderMembers : List (String × Json) → String
  | [] => ""
  | [(k, j)] => quote k ++ ":" ++ render j
  | (k, j) :: ms => quote k ++ ":" ++ render j ++ "," ++ renderMembers ms

end

/-- The compact text of a value with sorted members. -/
def text (j : Json) : String := render j.sorted

end Json

end SheetIntake
