import SheetIntake.Payload.Build

/-! # Payloads read off the registry

What a payload holds can be said field by field, without a shape for every mode: a field
that is no reference gives a member under its own key, with its cell coerced as its kind
says, and a reference gives the ids of what was found.  A member without a value is left
out unless the field has a value to fall back on. -/

namespace SheetIntake.Payload

/-- Currencies are sent in upper case and the status of a lease in lower case. -/
def spelled (key text : String) : String :=
  if key = "currency" then Text.upper text
  else if key = "lease_status" then Text.lower text
  else text

/-- The value that a cell gives a field, as the kind of the field says.  A reference has no
value of its own. -/
def fieldValue? (f : TargetField) (cell : String) : Option Json :=
  match f.kind with
  | .text => (Coercion.text? cell).map fun t => .str (spelled f.key t)
  | .number => (Coercion.number? cell).map .real
  | .integer => (Coercion.integer? cell).map .int
  | .boolean => (Coercion.boolean? cell).map .bool
  | .date => (Coercion.date? cell).map .str
  | .reference => none

/-- The value of a field whose cell gives none.  Required texts and dates are sent empty, so
that they are refused and not dropped, and a lease always has a currency. -/
def fallback? (mode : Mode) (f : TargetField) : Option Json :=
  if f.required && (f.kind = .text || f.kind = .date) then some (.str "")
  else if mode = .leases && f.key = "currency" then some (.str leaseCurrency)
  else none

/-- The members that a reference gives. -/
def referenceMembers (mode : Mode) (r : Reference) : List (String × Option Json) :=
  match mode with
  | .properties => []
  | .units => [("property_id", r.id?.map .str)]
  | .leases => [("unit_id", r.id?.map .str), ("property_id", r.parent?.map .str)]

/-- The members that a field gives. -/
def fieldMembers (mode : Mode) (cells : MappedCells) (table : List LookupEntry)
    (f : TargetField) : List (String × Option Json) :=
  match f.kind with
  | .reference => referenceMembers mode (Reference.ofCell cells table f.key)
  | _ => [(f.key, ((cells.get? f.key).bind (fieldValue? f)).or (fallback? mode f))]

/-- The members of all fields of a mode that are there. -/
def ofFields (mode : Mode) (cells : MappedCells) (table : List LookupEntry) :
    List (String × Json) :=
  Json.present (mode.fields.flatMap (fieldMembers mode cells table))

end SheetIntake.Payload
