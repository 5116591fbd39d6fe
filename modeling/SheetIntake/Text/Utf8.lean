/-! # UTF-8

Bytes to characters and back.  The reader takes one byte at a time: it stands
either between two characters or inside one, and inside it knows how many bytes
are still missing and which values the next one may have.  Over-long forms,
surrogates and code points beyond U+10FFFF are refused at the first byte that
gives them away.

`decode` accepts well-formed text only and otherwise says where the first
ill-formed sequence begins; `decodeLossy` puts U+FFFD in place of each. -/

namespace SheetIntake.Text.Utf8

/-- The UTF-8 form of a list of characters. -/
def encode (cs : List Char) : List UInt8 := cs.flatMap String.utf8EncodeChar

/-- The UTF-8 bytes of a text. -/
def bytes (s : String) : List UInt8 := encode s.toList

/-- Where a reader stands. -/
inductive Place where
  /-- Between two characters. -/
  | between
  /-- Inside a character that lacks `missing + 1` bytes, the next of them from `low` to
  `high`; `value` is what the bytes so far amount to. -/
  | inside (missing : Nat) (low high : Nat) (value : Nat)

/-- What a byte does to a reader. -/
inductive Move where
  | emit (c : Char)
  | goTo (p : Place)
  | refuse

/-- The first byte of a character. -/
def lead (b : Nat) : Move :=
  if b < 0x80 then .emit (Char.ofNat b)
  else if b < 0xC2 then .refuse
  else if b < 0xE0 then .goTo (.inside 0 0x80 0xBF (b - 0xC0))
  else if b = 0xE0 then .goTo (.inside 1 0xA0 0xBF 0)
  else if b = 0xED then .goTo (.inside 1 0x80 0x9F 0xD)
  else if b < 0xF0 then .goTo (.inside 1 0x80 0xBF (b - 0xE0))
  else if b = 0xF0 then .goTo (.inside 2 0x90 0xBF 0)
  else if b < 0xF4 then .goTo (.inside 2 0x80 0xBF (b - 0xF0))
  else if b = 0xF4 then .goTo (.inside 2 0x80 0x8F 4)
  else .refuse

/-- A byte met at a place. -/
def move (p : Place) (b : Nat) : Move :=
  match p with
  | .between => lead b
  | .inside missing low high value =>
    if low ≤ b ∧ b ≤ high then
      let value := value * 64 + (b - 0x80)
      match missing with
      | 0 => .emit (Char.ofNat value)
      | m + 1 => .goTo (.inside m 0x80 0xBF value)
    else .refuse

/-- Reads on from place `p` at offset `offset`; the character being read began at `start`.
The error is the offset at which the first ill-formed sequence begins. -/
def decodeFrom (start offset : Nat) (p : Place) : List UInt8 → Except Nat (List Char)
  | [] => match p with
    | .between => .ok []
    | .inside .. => .error start
  | b :: bs => match move p b.toNat with
    | .emit c => (decodeFrom (offset + 1) (offset + 1) .between bs).map (c :: ·)
    | .goTo q => decodeFrom start (offset + 1) q bs
    | .refuse => .error start

/-- The characters of well-formed UTF-8; else the offset of the first ill-formed sequence. -/
def decode (bs : List UInt8) : Except Nat (List Char) := decodeFrom 0 0 .between bs

/-- The mark put in place of an ill-formed sequence. -/
def replacement : Char := '\uFFFD'

/-- Reads on from place `p`.  A sequence that breaks off is one mark, and the byte that
breaks it is read anew. -/
def decodeLossyFrom (p : Place) : List UInt8 → List Char
  | [] => match p with
    | .between => []
    | .inside .. => [replacement]
  | b :: bs => match move p b.toNat with
    | .emit c => c :: decodeLossyFrom .between bs
    | .goTo q => decodeLossyFrom q bs
    | .refuse => match p with
      | .between => replacement :: decodeLossyFrom .between bs
      | .inside .. => replacement :: match lead b.toNat with
        | .emit c => c :: decodeLossyFrom .between bs
        | .goTo q => decodeLossyFrom q bs
        | .refuse => replacement :: decodeLossyFrom .between bs

/-- The characters of any bytes, U+FFFD standing for what is ill-formed. -/
def decodeLossy (bs : List UInt8) : List Char := decodeLossyFrom .between bs

/-- The byte order mark. -/
def mark : List UInt8 := [0xEF, 0xBB, 0xBF]

/-- Bytes without one byte order mark at their front. -/
def stripMark : List UInt8 → List UInt8
  | 0xEF :: 0xBB :: 0xBF :: rest => rest
  | bs => bs

end SheetIntake.Text.Utf8
