/-! # What can go wrong with an import

One constructor per cause.  The first six come from reading the uploaded file. -/

namespace SheetIntake

/-- Why an operation on an import was refused. -/
inductive ImportError where
  /-- The name of the file has no extension that can be read. -/
  | unsupportedFormat (detail : String)
  /-- The content of the file is not what its name promises. -/
  | unreadable (detail : String)
  | noRows
  | emptySheet (sheet : String)
  | passwordProtected
  | sheetOutOfRange (index count : Nat)
  /-- A mapping is wrong or not complete. -/
  | invalid (detail : String)
  /-- The state of the import does not allow the action. -/
  | wrongState (action state : String)
  | notFound (entity id : String)
  | cancelled
  /-- A value lies beyond what can be counted, and what was going on has broken off. -/
  | overflow (detail : String)
deriving DecidableEq

namespace ImportError

def message : ImportError → String
  | unsupportedFormat detail => "Unsupported file type: " ++ detail
  | unreadable detail => "The file could not be read: " ++ detail
  | noRows => "The file contains no data rows"
  | emptySheet sheet => s!"Sheet '{sheet}' contains no data rows"
  | passwordProtected =>
    "The workbook is password protected. Remove the password and upload it again"
  | sheetOutOfRange index count =>
    s!"Sheet {index} does not exist (the workbook has {count} sheets)"
  | invalid detail => "Validation failed: " ++ detail
  | wrongState action state => s!"Cannot {action} while the import is {state}"
  | notFound entity id => s!"Entity not found: {entity} with id {id}"
  | cancelled => "The import was cancelled"
  | overflow detail => detail

/-- Whether the error comes from reading the uploaded file. -/
def isDecodeError : ImportError → Bool
  | unsupportedFormat _ | unreadable _ | noRows | emptySheet _ | passwordProtected
  | sheetOutOfRange .. => true
  | _ => false

end ImportError

end SheetIntake
