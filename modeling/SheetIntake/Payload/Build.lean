import SheetIntake.Coercion
import SheetIntake.Lookup
import SheetIntake.Mapping
import SheetIntake.Payload.Basic
import SheetIntake.Table.Basic

/-! # From rows to payloads

The mapping picks the cells of a row for the fields of the mode; the cells are
then coerced to the values of a payload.  The table of existing records is the
one of properties for units, and the one of units for leases. -/

namespace SheetIntake

/-- The texts of the mapped cells, keyed by field. -/
abbrev MappedCells := TextMap

namespace Mapping

/-- The mapped cells of a row.  A column that the row lacks is empty, and of two columns
with one target the later one counts. -/
def apply (m : Mapping) (row : Row) : MappedCells :=
  TextMap.ofPairs (m.filterMap fun c => c.target.map fun key => (key, row.getText c.header))

end Mapping

namespace MappedCells

/-- The cell of a field, coerced. -/
def value? {α : Type} (cells : MappedCells) (coerce : String → Option α) (key : String) :
    Option α :=
  (cells.get? key).bind coerce

def text? (cells : MappedCells) (key : String) : Option String := cells.value? Coercion.text? key

def number? (cells : MappedCells) (key : String) : Option Binary64 :=
  cells.value? Coercion.number? key

def integer? (cells : MappedCells) (key : String) : Option Int := cells.value? Coercion.integer? key

def boolean? (cells : MappedCells) (key : String) : Option Bool :=
  cells.value? Coercion.boolean? key

def date? (cells : MappedCells) (key : String) : Option String := cells.value? Coercion.date? key

end MappedCells

/-- What the cell of a reference says. -/
inductive Reference where
  | blank
  | unknown
  | found (e : LookupEntry)
deriving DecidableEq

namespace Reference

def ofText (table : List LookupEntry) (value : String) : Reference :=
  if Text.isBlank value then blank
  else match LookupEntry.resolve? value table with
    | some e => found e
    | none => unknown

def ofCell (cells : MappedCells) (table : List LookupEntry) (key : String) : Reference :=
  match cells.get? key with
  | some value => ofText table value
  | none => blank

/-- The id that is sent.  The empty one makes sure that an unknown reference is refused and
not dropped. -/
def id? : Reference → Option String
  | blank => none
  | unknown => some ""
  | found e => some e.id

/-- The parent of the record that was found. -/
def parent? : Reference → Option String
  | found e => e.parent
  | _ => none

end Reference

namespace Payload

/-- The currency of a lease whose cell is blank. -/
def leaseCurrency : String := "PYG"

def ofProperty (cells : MappedCells) : PropertyPayload where
  name := (cells.text? "name").getD ""
  code := cells.text? "code"
  addressLine := cells.text? "address_line1"
  city := cells.text? "city"
  latitude := cells.number? "latitude"
  longitude := cells.number? "longitude"

def ofUnit (cells : MappedCells) (table : List LookupEntry) : UnitPayload where
  propertyId := (Reference.ofCell cells table "property_name").id?
  code := (cells.text? "code").getD ""
  name := (cells.text? "name").getD ""
  maxGuests := cells.integer? "max_guests"
  bedrooms := cells.integer? "bedrooms"
  bathrooms := cells.number? "bathrooms"
  squareMeters := cells.number? "square_meters"
  currency := (cells.text? "currency").map Text.upper
  isActive := cells.boolean? "is_active"

def ofLease (cells : MappedCells) (table : List LookupEntry) : LeasePayload where
  unitId := (Reference.ofCell cells table "unit_name").id?
  propertyId := (Reference.ofCell cells table "unit_name").parent?
  tenantFullName := (cells.text? "tenant_full_name").getD ""
  tenantEmail := cells.text? "tenant_email"
  tenantPhone := cells.text? "tenant_phone_e164"
  startsOn := (cells.date? "starts_on").getD ""
  endsOn := cells.date? "ends_on"
  monthlyRent := cells.number? "monthly_rent"
  securityDeposit := cells.number? "security_deposit"
  serviceFee := cells.number? "service_fee_flat"
  currency := ((cells.text? "currency").map Text.upper).getD leaseCurrency
  status := (cells.text? "lease_status").map Text.lower
  notes := cells.text? "notes"

/-- The payload of mapped cells. -/
def build (mode : Mode) (cells : MappedCells) (table : List LookupEntry) : Payload :=
  match mode with
  | .properties => .property (ofProperty cells)
  | .units => .unit (ofUnit cells table)
  | .leases => .lease (ofLease cells table)

/-- One payload for every row, in row order. -/
def ofRows (mode : Mode) (rows : List Row) (m : Mapping) (table : List LookupEntry) :
    List Payload :=
  rows.map fun row => build mode (m.apply row) table

end Payload

end SheetIntake
