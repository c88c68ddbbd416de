import Reify.Lowering
import Reify.Module

/-!
# Writing a module

Each declaration becomes one term and each assertion another. All terms are made before the first
is written, so a fault anywhere leaves no text.
-/

namespace Reify

/-- The constructor of a record's declaration. -/
def Tag.ctor : Tag → String
  | .ofStruct => "Dstruct"
  | .ofClass => "Dclass"
  | .ofUnion => "Dunion"

/-- The constructor of a typed declaration. -/
def Entity.ctor : Entity → String
  | .enumeration _ => "Denum"
  | .typeDefinition => "Dtypedef"
  | .function _ => "Dfunction"
  | .object _ => "Dvariable"

/-- The failure for a declaration that no sequence of a module should hold. -/
def Decl.misplaced (d : Decl) : Error :=
  .unsupported "declaration" (d.display ++ " cannot appear in a module bucket")

/-- The term of a declaration: its name and, for all but records, its type. -/
def Decl.term (d : Decl) : Logged Error Term := do
  let name ← d.ref.lower.mapError Fault.error
  match d with
  | .record _ tag _ _ => return .ctor tag.ctor [name]
  | .typed _ entity type =>
    let t ← type.lower.mapError Fault.error
    return .ctor entity.ctor [name, t]
  | .group _ _ _ | .template _ _ _ _ | .staticAssert _ _ => .fail d.misplaced

/-- The term of an assertion: its message, or an empty one. -/
def StaticAssert.term (a : StaticAssert) : Term :=
  .ctor "Dstatic_assert" [.str (a.message.getD "")]

/-- The terms of some declarations, up to the first failure. -/
def Decl.terms : List Decl → Logged Error (List Term)
  | [] => pure []
  | d :: ds => do
    let t ← d.term
    let ts ← Decl.terms ds
    return t :: ts

/-- A named list of terms in the written form of a module. -/
structure Section where
  name : String
  terms : List Term

namespace Section

/-- One line for each term. -/
def lineCommands (terms : List Term) : List Printer.Command :=
  terms.flatMap fun t ↦ t.commands false ++ [.text " ::", .newline, .text "   "]

/-- The list of a section. -/
def listCommands (terms : List Term) : List Printer.Command :=
  .text "  " :: .beginList :: (lineCommands terms ++ [.endList])

/-- A section: a heading, the list, and a full stop. -/
def commands (s : Section) : List Printer.Command :=
  [.newline, .text ("Definition " ++ s.name ++ " : list Decl :="), .newline] ++
    listCommands s.terms ++ [.text ".", .newline]

end Section

namespace Module

/-- The sections of a module, its assertions last. -/
def sections (m : Module) : Logged Error (List Section) := do
  let declarations ← Decl.terms m.declarations
  let definitions ← Decl.terms m.definitions
  let templateDeclarations ← Decl.terms m.templateDeclarations
  let templateDefinitions ← Decl.terms m.templateDefinitions
  return [⟨"declarations", declarations⟩, ⟨"definitions", definitions⟩,
    ⟨"template_declarations", templateDeclarations⟩,
    ⟨"template_definitions", templateDefinitions⟩,
    ⟨"static_asserts", m.asserts.map StaticAssert.term⟩]

/-- The commands for the written form: the name of the unit in a comment, then the sections. -/
def commands (unit : String) (sections : List Section) : List Printer.Command :=
  .text ("(* cpp2v: " ++ unit ++ " *)") :: .newline :: sections.flatMap Section.commands

/-- The written form of a module. A bracket left open would be a failure of the translator. -/
def print (m : Module) (unit : String) : Logged Error String := do
  let sections ← m.sections
  let p := Printer.empty.performAll (commands unit sections)
  if p.depth = 0 then return p.text
  else .fail (.internal ("unbalanced module output (depth " ++ toString p.depth ++ ")"))

end Module

end Reify
