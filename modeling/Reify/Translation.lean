import Reify.Emission
import Reify.Walk

/-!
# Translating a unit
-/

namespace Reify

/-- The outcome of a translation. The specifications are there even where there is no text. -/
structure Translation where
  specs : List Spec
  output : Logged Error String

/-- Walks a unit and writes the module that comes of it, adding to the specifications collected
before. -/
def TranslationUnit.translate (u : TranslationUnit) (keep : Filter) (o : Options)
    (specs : List Spec) : Translation :=
  let b := u.build keep o { Build.empty with specs := specs }
  let b := b.report .info ("Module for '" ++ u.filename ++ "' has " ++ toString b.module.size ++
    " entries")
  let printed := b.module.print u.filename
  ⟨b.specs, ⟨b.log ++ printed.log, printed.result⟩⟩

end Reify
