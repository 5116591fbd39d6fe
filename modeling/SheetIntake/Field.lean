import SheetIntake.Json.Value
import SheetIntake.Text.Blank
import SheetIntake.Text.Case

/-! # Import modes and their target fields

An import creates records of one kind, its mode.  Every mode has a registry of
the fields that a column of a spreadsheet can be mapped to. -/

namespace SheetIntake

/-- The kind of record that an import creates. -/
inductive Mode where
  | properties
  | units
  | leases
deriving DecidableEq, Inhabited

/-- How the text of a cell becomes the value of a field. -/
inductive FieldKind where
  | text
  | number
  | integer
  | boolean
  | date
  | reference
deriving DecidableEq

/-- A field of a record that a column can be mapped to. -/
structure TargetField where
  key : String
  /-- The name of the field for people, in two languages. -/
  label : String
  required : Bool
  kind : FieldKind
deriving DecidableEq

/-- A text that names no mode, trimmed and in lower case. -/
structure UnknownMode where
  given : String

namespace Mode

def name : Mode → String
  | properties => "properties"
  | units => "units"
  | leases => "leases"

def all : List Mode := [properties, units, leases]

/-- Reads the name of a mode, in any case and with blanks around it. -/
def parse (text : String) : Except UnknownMode Mode :=
  let given := Text.lower (Text.trim text)
  match all.find? fun m => m.name == given with
  | some m => .ok m
  | none => .error { given }

end Mode

def UnknownMode.message (e : UnknownMode) : String :=
  s!"Invalid import mode '{e.given}'. Must be one of: " ++
    ", ".intercalate (Mode.all.map Mode.name)

def FieldKind.name : FieldKind → String
  | text => "text"
  | number => "number"
  | integer => "integer"
  | boolean => "boolean"
  | date => "date"
  | reference => "reference"

def TargetField.toJson (f : TargetField) : Json :=
  .obj [("key", .str f.key), ("label", .str f.label), ("required", .bool f.required),
    ("kind", .str f.kind.name)]

/-! ## The registry -/

def propertyFields : List TargetField := [
  ⟨"name", "Nombre / Name", true, .text⟩,
  ⟨"code", "Código / Code", false, .text⟩,
  ⟨"address_line1", "Dirección / Address", false, .text⟩,
  ⟨"city", "Ciudad / City", false, .text⟩,
  ⟨"latitude", "Latitud / Latitude", false, .number⟩,
  ⟨"longitude", "Longitud / Longitude", false, .number⟩]

def unitFields : List TargetField := [
  ⟨"property_name", "Propiedad / Property", true, .reference⟩,
  ⟨"code", "Código / Code", true, .text⟩,
  ⟨"name", "Nombre / Name", true, .text⟩,
  ⟨"max_guests", "Huéspedes máx. / Max guests", false, .integer⟩,
  ⟨"bedrooms", "Dormitorios / Bedrooms", false, .integer⟩,
  ⟨"bathrooms", "Baños / Bathrooms", false, .number⟩,
  ⟨"square_meters", "Metros cuadrados / Square meters", false, .number⟩,
  ⟨"currency", "Moneda / Currency", false, .text⟩,
  ⟨"is_active", "Activo / Active", false, .boolean⟩]

def leaseFields : List TargetField := [
  ⟨"unit_name", "Unidad / Unit", false, .reference⟩,
  ⟨"tenant_full_name", "Inquilino / Tenant name", true, .text⟩,
  ⟨"tenant_email", "Email del inquilino / Tenant email", false, .text⟩,
  ⟨"tenant_phone_e164", "Teléfono / Phone", false, .text⟩,
  ⟨"starts_on", "Fecha de inicio / Start date", true, .date⟩,
  ⟨"ends_on", "Fecha de fin / End date", false, .date⟩,
  ⟨"monthly_rent", "Alquiler mensual / Monthly rent", true, .number⟩,
  ⟨"security_deposit", "Depósito / Security deposit", false, .number⟩,
  ⟨"service_fee_flat", "Tarifa de servicio / Service fee", false, .number⟩,
  ⟨"currency", "Moneda / Currency", false, .text⟩,
  ⟨"lease_status", "Estado / Status", false, .text⟩,
  ⟨"notes", "Notas / Notes", false, .text⟩]

/-- The fields of a mode, in the order in which they are offered. -/
def Mode.fields : Mode → List TargetField
  | properties => propertyFields
  | units => unitFields
  | leases => leaseFields

/-- The field of a mode with a given key. -/
def Mode.field? (m : Mode) (key : String) : Option TargetField :=
  m.fields.find? fun f => f.key == key

end SheetIntake
