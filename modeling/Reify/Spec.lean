import Reify.Decl.Basic
import Reify.Text.Blank

/-!
# Specifications

The annotations of declarations are collected beside the translation, and shown in a file of their
own with the name of each declaration in a comment.
-/

namespace Reify

/-- A specification and the declaration it belongs to. -/
@[ext]
structure Spec where
  decl : UInt32
  name : String
  text : String
deriving DecidableEq, Repr

namespace Spec

/-- The specification that a declaration carries as its annotation. -/
def ofDecl? (d : Decl) : Option Spec :=
  d.head.annotation.map fun text ↦ ⟨d.head.id, d.head.qualifiedName, text⟩

/-- One specification: the name in a comment, then the text without the blanks around it. -/
def render (s : Spec) : String := "(* " ++ s.name ++ " *)\n" ++ Text.trim s.text ++ "\n\n"

/-- Specifications in the order they were collected. -/
def renderAll (specs : List Spec) : String := String.join (specs.map render)

end Spec

end Reify
