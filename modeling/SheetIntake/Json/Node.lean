import SheetIntake.Json.Number
import SheetIntake.Json.Value

/-! # JSON text as far as it can be read

A reader of JSON text takes one character at a time and builds a tree of nodes.
When the text goes wrong it keeps the tree built so far and marks where it broke
off, because a reader that looks for a certain shape reports a wrong shape that
comes before the break, and the break otherwise.

Two kinds of fault stay inside one node: a number beyond the range of doubles,
and a text with a lone surrogate.  They count only when the node is used. -/

namespace SheetIntake.Json

/-- A JSON text, read as far as it goes. -/
inductive Node where
  | null
  | bool (b : Bool)
  | number (n : NumberValue)
  /-- A text; absent when an escape in it is a lone surrogate. -/
  | text (s : Option String)
  /-- The items up to the end of the list, or up to where the text broke off. -/
  | list (items : List Node) (closed : Bool)
  /-- The members up to the end of the object, or up to where the text broke off. -/
  | object (members : List (Option String × Node)) (closed : Bool)
  /-- The text broke off where a value should stand. -/
  | broken

namespace Node

instance : Inhabited Node := ⟨broken⟩

/-! ## The reader's state -/

/-- A container that is still open, last entry first. -/
inductive Frame where
  | list (items : List Node)
  | object (members : List (Option String × Node)) (key : Option (Option String))

/-- What may come next between two lexemes. -/
inductive Expect where
  | value
  | valueOrClose
  | commaOrClose
  | key
  | keyOrClose
  | colon
  | nothing
deriving DecidableEq

/-- Where the reader stands in a number. -/
inductive Place where
  | sign
  | zero
  | whole
  | point
  | fraction
  | mark
  | markSign
  | exponent
deriving DecidableEq

/-- Where the reader stands in a text.  `high` is a high surrogate that waits for its low
one. -/
inductive InText where
  | plain
  | afterHigh (high : Nat)
  | escape (high : Option Nat)
  | unicode (high : Option Nat) (count value : Nat)

/-- The lexeme the reader is in. -/
inductive Lexeme where
  | between
  | word (rest : List Char) (node : Node)
  /-- The digits of the three parts, last digit first. -/
  | number (place : Place) (negative : Bool) (whole fraction : List Char)
      (exponentNegative : Bool) (exponent : List Char)
  /-- The characters so far, last one first, and whether they are well-formed. -/
  | text (chars : List Char) (wellFormed : Bool) (place : InText)

structure Reader where
  lexeme : Lexeme
  expect : Expect
  stack : List Frame
  /-- The value of the whole text, once it is complete. -/
  root : Option Node
  /-- Whether the text has gone wrong, so that the rest of it does not count. -/
  failed : Bool

def Reader.start : Reader :=
  { lexeme := .between, expect := .value, stack := [], root := none, failed := false }

/-! ## Steps -/

namespace Reader

/-- Puts a complete value where it belongs. -/
def put (r : Reader) (node : Node) : Reader :=
  match r.stack with
  | [] => { r with lexeme := .between, expect := .nothing, root := some node }
  | .list items :: rest =>
    { r with lexeme := .between, expect := .commaOrClose, stack := .list (node :: items) :: rest }
  | .object members key :: rest =>
    { r with
      lexeme := .between
      expect := .commaOrClose
      stack := .object ((key.join, node) :: members) none :: rest }

/-- The frames as nodes, each broken off; `inner` stands where a value was under way. -/
def collapse (inner : Option Node) : List Frame → Node
  | [] => inner.getD .broken
  | .list items :: rest =>
    collapse (some (.list ((inner.toList ++ items).reverse) false)) rest
  | .object members key :: rest =>
    let last := match key with
      | some k => [(k, inner.getD .broken)]
      | none => []
    collapse (some (.object ((last ++ members).reverse) false)) rest

/-- Gives up: what follows does not count. -/
def fail (r : Reader) : Reader :=
  match r.root with
  | some _ => { r with failed := true }
  | none =>
    let inner := match r.expect with
      | .value | .valueOrClose => some Node.broken
      | _ => none
    { r with root := some (collapse inner r.stack), failed := true }

/-- Opens a container. -/
def openFrame (r : Reader) (frame : Frame) (expect : Expect) : Reader :=
  { r with expect, stack := frame :: r.stack }

/-- Closes the innermost container, which must be of the right kind. -/
def closeFrame (r : Reader) (bracket : Char) : Reader :=
  match r.stack with
  | .list items :: rest =>
    if bracket = ']' then put { r with stack := rest } (.list items.reverse true) else r.fail
  | .object members _ :: rest =>
    if bracket = '\x7d' then put { r with stack := rest } (.object members.reverse true)
    else r.fail
  | [] => r.fail

/-- What may follow a comma: another item or another member. -/
def afterComma (r : Reader) : Reader :=
  match r.stack with
  | .list _ :: _ => { r with expect := .value }
  | .object .. :: _ => { r with expect := .key }
  | [] => r.fail

def startNumber (r : Reader) (place : Place) (negative : Bool) (whole : List Char) : Reader :=
  { r with lexeme := .number place negative whole [] false [] }

/-- The first character of a value. -/
def beginValue (r : Reader) (c : Char) : Reader :=
  if c = '"' then { r with lexeme := .text [] true .plain }
  else if c = '[' then r.openFrame (.list []) .valueOrClose
  else if c = '\x7b' then r.openFrame (.object [] none) .keyOrClose
  else if c = '-' then r.startNumber .sign true []
  else if c = '0' then r.startNumber .zero false [c]
  else if c.isDigit then r.startNumber .whole false [c]
  else if c = 't' then { r with lexeme := .word ['r', 'u', 'e'] (.bool true) }
  else if c = 'f' then { r with lexeme := .word ['a', 'l', 's', 'e'] (.bool false) }
  else if c = 'n' then { r with lexeme := .word ['u', 'l', 'l'] .null }
  else r.fail

/-- A character between two lexemes. -/
def between (r : Reader) (c : Char) : Reader :=
  if c = ' ' ∨ c = '\n' ∨ c = '\t' ∨ c = '\r' then r
  else match r.expect with
    | .value => r.beginValue c
    | .valueOrClose => if c = ']' then r.closeFrame c else r.beginValue c
    | .commaOrClose => if c = ',' then r.afterComma else r.closeFrame c
    | .key => if c = '"' then { r with lexeme := .text [] true .plain } else r.fail
    | .keyOrClose =>
      if c = '"' then { r with lexeme := .text [] true .plain } else r.closeFrame c
    | .colon => if c = ':' then { r with expect := .value } else r.fail
    | .nothing => r.fail

/-- A complete text: a value, or the key of a member. -/
def putText (r : Reader) (s : Option String) : Reader :=
  match r.expect, r.stack with
  | .key, .object members _ :: rest | .keyOrClose, .object members _ :: rest =>
    { r with lexeme := .between, expect := .colon, stack := .object members (some s) :: rest }
  | _, _ => r.put (.text s)

/-- A complete number. -/
def putNumber (r : Reader) (place : Place) (negative : Bool) (whole fraction : List Char)
    (exponentNegative : Bool) (exponent : List Char) : Reader :=
  let written : WrittenNumber :=
    { negative
      whole := whole.reverse
      fraction := if fraction.isEmpty then none else some fraction.reverse
      exponent := if exponent.isEmpty then none else some (exponentNegative, exponent.reverse) }
  match place with
  | .zero | .whole | .fraction | .exponent => r.put (.number written.value)
  | _ => r.fail

/-- A character in a number, or the one that ends it. -/
def inNumber (r : Reader) (place : Place) (negative : Bool) (whole fraction : List Char)
    (exponentNegative : Bool) (exponent : List Char) (c : Char) : Reader :=
  let go (place : Place) (whole fraction : List Char) (sign : Bool) (exponent : List Char) :=
    { r with lexeme := .number place negative whole fraction sign exponent }
  let done :=
    let r := r.putNumber place negative whole fraction exponentNegative exponent
    if r.failed then r else r.between c
  let isMark : Bool := c == 'e' || c == 'E'
  match place with
  | .sign =>
    if c = '0' then go .zero [c] fraction exponentNegative exponent
    else if c.isDigit then go .whole [c] fraction exponentNegative exponent
    else r.fail
  | .zero =>
    if c = '.' then go .point whole fraction exponentNegative exponent
    else if isMark then go .mark whole fraction exponentNegative exponent
    else if c.isDigit then r.fail
    else done
  | .whole =>
    if c.isDigit then go .whole (c :: whole) fraction exponentNegative exponent
    else if c = '.' then go .point whole fraction exponentNegative exponent
    else if isMark then go .mark whole fraction exponentNegative exponent
    else done
  | .point =>
    if c.isDigit then go .fraction whole [c] exponentNegative exponent else r.fail
  | .fraction =>
    if c.isDigit then go .fraction whole (c :: fraction) exponentNegative exponent
    else if isMark then go .mark whole fraction exponentNegative exponent
    else done
  | .mark =>
    if c.isDigit then go .exponent whole fraction exponentNegative [c]
    else if c = '+' then go .markSign whole fraction false exponent
    else if c = '-' then go .markSign whole fraction true exponent
    else r.fail
  | .markSign =>
    if c.isDigit then go .exponent whole fraction exponentNegative [c] else r.fail
  | .exponent =>
    if c.isDigit then go .exponent whole fraction exponentNegative (c :: exponent) else done

/-- The value of a hexadecimal digit. -/
def hexValue? (c : Char) : Option Nat :=
  if c.isDigit then some (c.toNat - '0'.toNat)
  else if 'a' ≤ c ∧ c ≤ 'f' then some (c.toNat - 'a'.toNat + 10)
  else if 'A' ≤ c ∧ c ≤ 'F' then some (c.toNat - 'A'.toNat + 10)
  else none

/-- The character a short escape stands for. -/
def shortEscape? (c : Char) : Option Char :=
  if c = '"' ∨ c = '\\' ∨ c = '/' then some c
  else if c = 'b' then some '\x08'
  else if c = 'f' then some '\x0c'
  else if c = 'n' then some '\n'
  else if c = 'r' then some '\r'
  else if c = 't' then some '\t'
  else none

def isHighSurrogate (n : Nat) : Bool := 0xD800 ≤ n && n < 0xDC00

def isLowSurrogate (n : Nat) : Bool := 0xDC00 ≤ n && n < 0xE000

/-- A character in a text, outside escapes. -/
def inPlainText (r : Reader) (chars : List Char) (wellFormed : Bool) (c : Char) : Reader :=
  if c = '"' then r.putText (if wellFormed then some (String.ofList chars.reverse) else none)
  else if c = '\\' then { r with lexeme := .text chars wellFormed (.escape none) }
  else if c.toNat < 0x20 then r.fail
  else { r with lexeme := .text (c :: chars) wellFormed .plain }

/-- A complete escape by code. -/
def putCode (r : Reader) (chars : List Char) (wellFormed : Bool) (high : Option Nat)
    (code : Nat) : Reader :=
  match high with
  | some h =>
    if isLowSurrogate code then
      let c := Char.ofNat (0x10000 + (h - 0xD800) * 0x400 + (code - 0xDC00))
      { r with lexeme := .text (c :: chars) wellFormed .plain }
    else { r with lexeme := .text chars false .plain }
  | none =>
    if isHighSurrogate code then { r with lexeme := .text chars wellFormed (.afterHigh code) }
    else if isLowSurrogate code then { r with lexeme := .text chars false .plain }
    else { r with lexeme := .text (Char.ofNat code :: chars) wellFormed .plain }

/-- A character in a text. -/
def inText (r : Reader) (chars : List Char) (wellFormed : Bool) (place : InText) (c : Char) :
    Reader :=
  match place with
  | .plain => r.inPlainText chars wellFormed c
  | .afterHigh h =>
    if c = '\\' then { r with lexeme := .text chars wellFormed (.escape (some h)) }
    else r.inPlainText chars false c
  | .escape high =>
    if c = 'u' then { r with lexeme := .text chars wellFormed (.unicode high 0 0) }
    else match shortEscape? c with
      | some d => { r with lexeme := .text (d :: chars) (wellFormed && high.isNone) .plain }
      | none => r.fail
  | .unicode high count value =>
    match hexValue? c with
    | none => r.fail
    | some d =>
      let value := value * 16 + d
      if count = 3 then r.putCode chars wellFormed high value
      else { r with lexeme := .text chars wellFormed (.unicode high (count + 1) value) }

/-- One character of the text. -/
def feed (r : Reader) (c : Char) : Reader :=
  if r.failed then r
  else match r.lexeme with
    | .between => r.between c
    | .word (d :: rest) node =>
      if c ≠ d then r.fail
      else if rest.isEmpty then r.put node
      else { r with lexeme := .word rest node }
    | .word [] _ => r.fail
    | .number place negative whole fraction sign exponent =>
      r.inNumber place negative whole fraction sign exponent c
    | .text chars wellFormed place => r.inText chars wellFormed place c

/-- The end of the text. -/
def finish (r : Reader) : Reader :=
  if r.failed then r
  else
    let r := match r.lexeme with
      | .number place negative whole fraction sign exponent =>
        r.putNumber place negative whole fraction sign exponent
      | .between => r
      | _ => r.fail
    if r.failed || r.expect = .nothing then r else r.fail

end Reader

end Node

/-- A JSON text: its value as far as it can be read, and whether nothing but blanks follows
a complete value. -/
structure Document where
  root : Node
  clean : Bool

/-- Reads a JSON text. -/
def Document.read (cs : List Char) : Document :=
  let r := (cs.foldl Node.Reader.feed Node.Reader.start).finish
  { root := r.root.getD .broken, clean := !r.failed }

/-! ## From nodes to values and back -/

namespace Node

mutual

/-- The value of a node that is whole and nests at most `room` containers. -/
def toJson? (room : Nat) : Node → Option Json
  | null => some .null
  | bool b => some (.bool b)
  | number (.int n) => some (.int n)
  | number (.real x) => some (.real x)
  | number .tooLarge => none
  | text s => s.map .str
  | list items closed =>
    match room with
    | 0 => none
    | room + 1 => if closed then (itemsToJson? room items).map .arr else none
  | object members closed =>
    match room with
    | 0 => none
    | room + 1 =>
      if closed then (membersToJson? room members).map fun ms => .obj (sortMembers ms) else none
  | broken => none

def itemsToJson? (room : Nat) : List Node → Option (List Json)
  | [] => some []
  | n :: ns => do return (← toJson? room n) :: (← itemsToJson? room ns)

def membersToJson? (room : Nat) :
    List (Option String × Node) → Option (List (String × Json))
  | [] => some []
  | (k, n) :: ms => do return (← k, ← toJson? room n) :: (← membersToJson? room ms)

end

mutual

/-- The node of a value. -/
def ofJson : Json → Node
  | .null => null
  | .bool b => bool b
  | .int n => number (.int n)
  | .real x => number (.real x)
  | .str s => text (some s)
  | .arr items => list (ofItems items) true
  | .obj members => object (ofMembers members) true

def ofItems : List Json → List Node
  | [] => []
  | j :: js => ofJson j :: ofItems js

def ofMembers : List (String × Json) → List (Option String × Node)
  | [] => []
  | (k, j) :: ms => (some k, ofJson j) :: ofMembers ms

end

end Node

/-- The deepest nesting of containers that a value may have. -/
def maxDepth : Nat := 127

/-- The value of a JSON text. -/
def parse? (s : String) : Option Json :=
  let d := Document.read s.toList
  if d.clean then d.root.toJson? maxDepth else none

end SheetIntake.Json
