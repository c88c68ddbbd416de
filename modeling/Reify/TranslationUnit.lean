import Reify.Decl.Equality
import Reify.Decl.Json
import Reify.Error
import Reify.Json.Printer
import Reify.Log

/-!
# Translation units

A unit is one source file with all that it includes, as the front end hands it over in a dump.
-/

namespace Reify

/-- One elaborated source file. -/
structure TranslationUnit where
  filename : String
  decls : List Decl

namespace TranslationUnit

instance : BEq TranslationUnit :=
  ⟨fun u v ↦ u.filename == v.filename && Decl.sameAll u.decls v.decls⟩

/-- A unit without declarations. -/
def empty (filename : String) : TranslationUnit := ⟨filename, []⟩

/-- The unit with one more declaration at its end. -/
def add (u : TranslationUnit) (d : Decl) : TranslationUnit := { u with decls := u.decls ++ [d] }

/-- The number of declarations, nested ones included. -/
def declCount (u : TranslationUnit) : Nat := Decl.countAll u.decls

/-- The unit as it stands in a dump. -/
def toJson (u : TranslationUnit) : Json :=
  .record [("filename", .text u.filename), ("decls", .array (Decl.toJsonAll u.decls))]

/-- The unit that a value of a dump gives. -/
def ofJson? : Nat → Json → Option TranslationUnit
  | n + 1, j => do
    match ← Json.slots? ["filename", "decls"] j with
    | [filename, decls] =>
      return ⟨← Json.text? (← filename), ← Json.orElse [] (Decl.listOfJson? n) decls⟩
    | _ => none
  | 0, _ => none

/-- The dump of a unit, one item to a line. -/
def dump (u : TranslationUnit) : String := u.toJson.pretty

/-- The unit that a dump gives, or the failure to read it. -/
def ofDump (source : String) : Except Error TranslationUnit :=
  match Json.read? ofJson? source with
  | some u => .ok u
  | none => .error (.invalidInput "not the dump of a translation unit")

/-- Reads a unit and reports its size. -/
def load (source : String) : Logged Error TranslationUnit := do
  let u ← Logged.ofExcept (ofDump source)
  Logged.record .debug ("Loaded translation unit '" ++ u.filename ++ "' with " ++
    toString u.declCount ++ " declarations")
  return u

end TranslationUnit

end Reify
