import SheetIntake.Field
import SheetIntake.Text.Occurrence

/-! # Matching headers to fields

A header is seen through its normal form: trimmed, in lower case, and of that
only the letters `a` to `z` and the digits.  A header whose normal form is that
of the key or of the label of a field matches this field; otherwise the first
entry of the alias table decides that has an alias occurring in the normal form
and whose field belongs to the mode. -/

namespace SheetIntake.Header

/-- The characters that a normal form keeps. -/
def isPlain (c : Char) : Bool := c.isLower || c.isDigit

/-- The normal form of a header. -/
def normalForm (header : String) : String :=
  String.ofList ((Text.lower (Text.trim header)).toList.filter isPlain)

/-- Field keys with words by which people name them, in order of precedence. -/
def aliases : List (String × List String) := [
  ("property_name", ["propiedad", "property", "edificio", "building"]),
  ("unit_name", ["unidad", "unit", "departamento", "depto"]),
  ("tenant_email", ["email", "correo", "mail"]),
  ("tenant_phone_e164", ["telefono", "telfono", "phone", "celular", "whatsapp"]),
  ("tenant_full_name", ["inquilino", "tenant", "arrendatario", "fullname", "nombrecompleto"]),
  ("name", ["nombre", "name", "propiedad", "property"]),
  ("code", ["codigo", "cdigo", "code", "ref"]),
  ("address_line1", ["direcci", "address", "calle", "street"]),
  ("city", ["ciudad", "city", "localidad"]),
  ("latitude", ["latitud", "latitude", "lat"]),
  ("longitude", ["longitud", "longitude", "lng", "lon"]),
  ("max_guests", ["huespedes", "huspedes", "guests", "capacidad", "capacity"]),
  ("bedrooms", ["dormitorios", "habitaciones", "bedrooms", "cuartos"]),
  ("bathrooms", ["banos", "baos", "bathrooms", "bath"]),
  ("square_meters", ["m2", "metros", "superficie", "area", "sqm"]),
  ("is_active", ["activo", "active"]),
  ("starts_on", ["inicio", "start", "desde"]),
  ("ends_on", ["fin", "end", "hasta", "until"]),
  ("monthly_rent", ["alquiler", "renta", "rent", "mensual", "monthly"]),
  ("security_deposit", ["deposito", "depsito", "deposit", "garantia", "garanta"]),
  ("service_fee_flat", ["tarifa", "servicio", "fee"]),
  ("currency", ["moneda", "currency", "divisa"]),
  ("lease_status", ["estado", "status"]),
  ("notes", ["notas", "notes", "observaciones", "comentarios"])]

/-- The field whose key or label has a normal form. -/
def byName? (fields : List TargetField) (normal : String) : Option String :=
  (fields.find? fun f => normalForm f.key == normal || normalForm f.label == normal).map
    TargetField.key

/-- The field of the first alias that occurs in a normal form. -/
def byAlias? (fields : List TargetField) (normal : String) : Option String :=
  (aliases.find? fun (key, words) =>
    fields.any (fun f => f.key == key) &&
      words.any fun w => Text.contains normal w).map Prod.fst

/-- The key of the field that a header matches. -/
def match? (fields : List TargetField) (header : String) : Option String :=
  let normal := normalForm header
  if normal.isEmpty then none else (byName? fields normal).orElse fun _ => byAlias? fields normal

end SheetIntake.Header
