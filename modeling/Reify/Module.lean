import Reify.Decl.Basic
import Reify.Log
import Reify.Text.Quoted

/-!
# Modules

A module holds the declarations of a unit in four sequences, and its assertions in a fifth. Each
keeps the order of insertion, and nothing is dropped for being there already.
-/

namespace Reify

/-- Where the walk stands: below the pattern of a template, or below a specialization. A flag that
is set stays set all the way down. -/
@[ext]
structure Flags where
  inTemplate : Bool
  inSpecialization : Bool
deriving DecidableEq, Repr

namespace Flags

/-- Outside of all templates. -/
def none : Flags := ⟨false, false⟩

/-- Below the pattern of a template. -/
def setTemplate (f : Flags) : Flags := { f with inTemplate := true }

/-- Below a specialization. -/
def setSpecialization (f : Flags) : Flags := { f with inSpecialization := true }

/-- Whether no flag is set. -/
def isNone (f : Flags) : Bool := !f.inTemplate && !f.inSpecialization

end Flags

/-- The four sequences of declarations. -/
inductive Bucket where
  | declaration
  | definition
  | templateDeclaration
  | templateDefinition
deriving DecidableEq, Repr

namespace Bucket

/-- The sequence for a declaration or definition. A specialization makes no difference. -/
def of (isDefinition : Bool) (flags : Flags) : Bucket :=
  match isDefinition, flags.inTemplate with
  | false, false => .declaration
  | true, false => .definition
  | false, true => .templateDeclaration
  | true, true => .templateDefinition

/-- The name of a sequence in messages. -/
def name : Bucket → String
  | .declaration => "declaration"
  | .definition => "definition"
  | .templateDeclaration => "template declaration"
  | .templateDefinition => "template definition"

end Bucket

/-- What a module takes in. -/
inductive Insertion where
  | decl (bucket : Bucket) (d : Decl) (flags : Flags)
  | assertion (a : StaticAssert)

namespace Insertion

/-- A declaration, put where its flags belong. -/
def ofDecl (isDefinition : Bool) (d : Decl) (flags : Flags) : Insertion :=
  .decl (.of isDefinition flags) d flags

/-- A truth value in a message. -/
def flagText (b : Bool) : String := if b then "true" else "false"

/-- The record that reports an insertion. -/
def record : Insertion → Record
  | .decl bucket d flags =>
    ⟨.trace, "[module] " ++ bucket.name ++ ": " ++ d.display ++ " (template=" ++
      flagText flags.inTemplate ++ ", specialization=" ++ flagText flags.inSpecialization ++ ")"⟩
  | .assertion a => ⟨.trace, "[module] static_assert " ++ Text.quotedOption a.message⟩

end Insertion

/-- The declarations and assertions of a unit. -/
structure Module where
  declarations : List Decl
  definitions : List Decl
  templateDeclarations : List Decl
  templateDefinitions : List Decl
  asserts : List StaticAssert

namespace Module

/-- A module that holds nothing. -/
def empty : Module := ⟨[], [], [], [], []⟩

/-- The sequence of a bucket. -/
def bucket (m : Module) : Bucket → List Decl
  | .declaration => m.declarations
  | .definition => m.definitions
  | .templateDeclaration => m.templateDeclarations
  | .templateDefinition => m.templateDefinitions

/-- The module with one more entry at the end of the sequence it belongs to. -/
def insert (m : Module) : Insertion → Module
  | .decl .declaration d _ => { m with declarations := m.declarations ++ [d] }
  | .decl .definition d _ => { m with definitions := m.definitions ++ [d] }
  | .decl .templateDeclaration d _ =>
    { m with templateDeclarations := m.templateDeclarations ++ [d] }
  | .decl .templateDefinition d _ => { m with templateDefinitions := m.templateDefinitions ++ [d] }
  | .assertion a => { m with asserts := m.asserts ++ [a] }

/-- The number of entries in all five sequences. -/
def size (m : Module) : Nat :=
  m.declarations.length + m.definitions.length + m.templateDeclarations.length +
    m.templateDefinitions.length + m.asserts.length

/-- Whether the module holds nothing. -/
def isEmpty (m : Module) : Bool := m.size == 0

/-- The declarations of the four sequences, in the order in which they are written. -/
def entries (m : Module) : List Decl :=
  m.declarations ++ m.definitions ++ m.templateDeclarations ++ m.templateDefinitions

/-- An insertion adds one entry. -/
@[simp] theorem size_insert (m : Module) (i : Insertion) : (m.insert i).size = m.size + 1 := by
  rcases i with ⟨_ | _ | _ | _, d, flags⟩ | a <;>
    simp only [insert, size, List.length_append, List.length_singleton] <;> omega

end Module

end Reify
