import SheetIntake.ImportError
import SheetIntake.Text.Case

/-! # File formats

The extension of a file name, in any case, decides how the file is read. -/

namespace SheetIntake

/-- How a file is read. -/
inductive FileFormat where
  /-- As delimited text; the separator is a tab if `tabSeparated` holds, else it is guessed. -/
  | delimited (tabSeparated : Bool)
  | workbook
deriving DecidableEq

namespace FileFormat

def delimitedExtensions : List String := ["csv", "tsv", "txt"]

def workbookExtensions : List String := ["xlsx", "xlsm", "xls", "ods"]

/-- What follows the last point of a name, in lower case; nothing without a point. -/
def extension (name : String) : String :=
  let cs := name.toList
  if cs.contains '.' then Text.lower (String.ofList (cs.reverse.takeWhile (· ≠ '.')).reverse)
  else ""

/-- The format that the name of a file stands for. -/
def ofName (name : String) : Except ImportError FileFormat :=
  let ext := extension name
  if delimitedExtensions.contains ext then .ok (.delimited (ext == "tsv"))
  else if workbookExtensions.contains ext then .ok .workbook
  else
    .error (.unsupportedFormat
      (s!"'{name}'. Supported: " ++
        ", ".intercalate (delimitedExtensions ++ workbookExtensions)))

end FileFormat

end SheetIntake
