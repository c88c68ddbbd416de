import Reify.Json.Reader

/-!
# Source locations
-/

namespace Reify

/-- A place in a source file, its line and column counted from one. -/
@[ext]
structure Location where
  filename : String
  line : UInt32
  column : UInt32
deriving DecidableEq

namespace Location

/-- The location as file, line and column between colons. -/
def display (l : Location) : String :=
  l.filename ++ ":" ++ toString l.line ++ ":" ++ toString l.column

/-- Whether the location lies in the file of that name. -/
def isInFile (l : Location) (filename : String) : Bool := l.filename == filename

/-- The location as it stands in a dump. -/
def toJson (l : Location) : Json :=
  .record [("filename", .text l.filename), ("line", .nat l.line.toNat),
    ("column", .nat l.column.toNat)]

/-- The location that a value of a dump gives. -/
def ofJson? : Nat → Json → Option Location
  | _ + 1, j => do
    match ← Json.slots? ["filename", "line", "column"] j with
    | [filename, line, column] =>
      return ⟨← Json.text? (← filename), ← Json.uint32? (← line), ← Json.uint32? (← column)⟩
    | _ => none
  | 0, _ => none

end Location

end Reify
