import Reify.Json.Reader

/-!
# References to declarations

Types name the declarations they use, and a translation names each of them by one global name.
-/

namespace Reify

/-- A named declaration as a type refers to it. -/
@[ext]
structure DeclRef where
  id : UInt32
  qualifiedName : String
  mangled : Option String
deriving DecidableEq

namespace DeclRef

/-- The global name: the mangled name, even an empty one, or else the qualified name. A declaration
with neither is nameless. -/
def globalName? (r : DeclRef) : Option String :=
  match r.mangled with
  | some name => some name
  | none => if r.qualifiedName.isEmpty then none else some r.qualifiedName

/-- The reference as it stands in a dump. -/
def toJson (r : DeclRef) : Json :=
  .record [("id", .nat r.id.toNat), ("qualified_name", .text r.qualifiedName),
    ("mangled", .nullable (r.mangled.map .text))]

/-- The reference that a value of a dump gives. -/
def ofJson? : Nat → Json → Option DeclRef
  | _ + 1, j => do
    match ← Json.slots? ["id", "qualified_name", "mangled"] j with
    | [id, qualifiedName, mangled] =>
      return ⟨← Json.uint32? (← id), ← Json.text? (← qualifiedName),
        ← Json.orElse none (Json.nullable? Json.text?) mangled⟩
    | _ => none
  | 0, _ => none

end DeclRef

end Reify
