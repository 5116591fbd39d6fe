import SheetIntake.Field
import SheetIntake.Json.Value

/-! # Payloads

What is sent to create one record: one shape for every mode.  A value that is
absent is left out of the written payload. -/

namespace SheetIntake

structure PropertyPayload where
  name : String
  code : Option String
  addressLine : Option String
  city : Option String
  latitude : Option Binary64
  longitude : Option Binary64
deriving DecidableEq

structure UnitPayload where
  /-- Empty when the cell refers to no known property. -/
  propertyId : Option String
  code : String
  name : String
  maxGuests : Option Int
  bedrooms : Option Int
  bathrooms : Option Binary64
  squareMeters : Option Binary64
  currency : Option String
  isActive : Option Bool
deriving DecidableEq

structure LeasePayload where
  /-- Empty when the cell refers to no known unit. -/
  unitId : Option String
  /-- The property of the unit. -/
  propertyId : Option String
  tenantFullName : String
  tenantEmail : Option String
  tenantPhone : Option String
  startsOn : String
  endsOn : Option String
  monthlyRent : Option Binary64
  securityDeposit : Option Binary64
  serviceFee : Option Binary64
  currency : String
  status : Option String
  notes : Option String
deriving DecidableEq

/-- What is sent to create a record. -/
inductive Payload where
  | property (p : PropertyPayload)
  | unit (u : UnitPayload)
  | lease (l : LeasePayload)
deriving DecidableEq

namespace Payload

/-- The mode that makes payloads of this shape. -/
def mode : Payload → Mode
  | property _ => .properties
  | unit _ => .units
  | lease _ => .leases

/-- Every member that a payload may have. -/
def members : Payload → List (String × Option Json)
  | property p => [
    ("name", some (.str p.name)),
    ("code", p.code.map .str),
    ("address_line1", p.addressLine.map .str),
    ("city", p.city.map .str),
    ("latitude", p.latitude.map .real),
    ("longitude", p.longitude.map .real)]
  | unit u => [
    ("property_id", u.propertyId.map .str),
    ("code", some (.str u.code)),
    ("name", some (.str u.name)),
    ("max_guests", u.maxGuests.map .int),
    ("bedrooms", u.bedrooms.map .int),
    ("bathrooms", u.bathrooms.map .real),
    ("square_meters", u.squareMeters.map .real),
    ("currency", u.currency.map .str),
    ("is_active", u.isActive.map .bool)]
  | lease l => [
    ("unit_id", l.unitId.map .str),
    ("property_id", l.propertyId.map .str),
    ("tenant_full_name", some (.str l.tenantFullName)),
    ("tenant_email", l.tenantEmail.map .str),
    ("tenant_phone_e164", l.tenantPhone.map .str),
    ("starts_on", some (.str l.startsOn)),
    ("ends_on", l.endsOn.map .str),
    ("monthly_rent", l.monthlyRent.map .real),
    ("security_deposit", l.securityDeposit.map .real),
    ("service_fee_flat", l.serviceFee.map .real),
    ("currency", some (.str l.currency)),
    ("lease_status", l.status.map .str),
    ("notes", l.notes.map .str)]

/-- The members that are there. -/
def object (p : Payload) : List (String × Json) := Json.present p.members

def toJson (p : Payload) : Json := .obj p.object

end Payload

end SheetIntake
