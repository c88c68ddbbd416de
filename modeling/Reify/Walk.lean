import Reify.Filter
import Reify.Module
import Reify.Options
import Reify.Spec
import Reify.TranslationUnit

/-!
# The walk through a unit

The walk goes through the declarations in the order of the source, each before what it holds, and
its course is a list of steps. Module, specifications and log are all read off that list.
-/

namespace Reify

/-- One step of the walk. -/
inductive Step where
  /-- The filter rejected a declaration, and all below it. -/
  | skipped (d : Decl)
  /-- A declaration was met that carries a specification. -/
  | annotated (spec : Spec)
  /-- Something was met that belongs into the module. -/
  | insertion (i : Insertion)
  /-- The specializations of a template were passed over. -/
  | unelaborated (d : Decl) (specializations : Nat)

namespace Step

/-- What a step puts into the module. -/
def insertion? : Step → Option Insertion
  | .insertion i => some i
  | _ => none

/-- The specification that a step finds. -/
def spec? : Step → Option Spec
  | .annotated spec => some spec
  | _ => none

/-- What a step reports. Insertions are reported on demand only. -/
def record? (traceModule : Bool) : Step → Option Record
  | .skipped d => some ⟨.debug, "Skipping filtered " ++ d.display⟩
  | .annotated _ => none
  | .insertion i => if traceModule then some i.record else none
  | .unelaborated d n =>
    some ⟨.debug, "Not elaborating " ++ toString n ++ " specializations of " ++ d.display⟩

end Step

mutual

/-- The walk below a declaration that is met under `flags`. -/
def Decl.steps (keep : Filter) (o : Options) (flags : Flags) (d : Decl) : List Step :=
  if keep d then
    (Spec.ofDecl? d).toList.map .annotated ++
      match d with
      | .group _ _ decls => Decl.stepsAll keep o flags decls
      | .record _ _ isDefinition members =>
        .insertion (.ofDecl isDefinition d flags) :: Decl.stepsAll keep o flags members
      | .typed _ entity _ => [.insertion (.ofDecl entity.isDefinition d flags)]
      | .template _ _ pattern specializations =>
        (if o.templates then Decl.steps keep o flags.setTemplate pattern else []) ++
          if o.elaborate then Decl.stepsAll keep o flags.setSpecialization specializations
          else if specializations.isEmpty then []
          else [.unelaborated d specializations.length]
      | .staticAssert _ a => [.insertion (.assertion a)]
  else [.skipped d]

/-- The walk through some declarations in a row. -/
def Decl.stepsAll (keep : Filter) (o : Options) (flags : Flags) : List Decl → List Step
  | [] => []
  | d :: ds => Decl.steps keep o flags d ++ Decl.stepsAll keep o flags ds

end

/-- What a walk builds up: a module, the specifications met, and the log. -/
structure Build where
  module : Module
  specs : List Spec
  log : List Record

namespace Build

/-- Nothing built yet. -/
def empty : Build := ⟨.empty, [], []⟩

/-- The build after some steps. -/
def extend (b : Build) (o : Options) (steps : List Step) : Build where
  module := (steps.filterMap Step.insertion?).foldl Module.insert b.module
  specs := b.specs ++ steps.filterMap Step.spec?
  log := b.log ++ steps.filterMap (Step.record? o.traceModule)

/-- The build after one more record. -/
def report (b : Build) (level : Level) (message : String) : Build :=
  { b with log := b.log ++ [⟨level, message⟩] }

end Build

namespace TranslationUnit

/-- The walk through a unit. -/
def steps (u : TranslationUnit) (keep : Filter) (o : Options) : List Step :=
  Decl.stepsAll keep o .none u.decls

/-- Walks a unit on top of what was built before. -/
def build (u : TranslationUnit) (keep : Filter) (o : Options) (b : Build) : Build :=
  let b := b.extend o (u.steps keep o)
  b.report .debug ("Built module for '" ++ u.filename ++ "' with " ++ toString b.module.size ++
    " entries")

end TranslationUnit

end Reify
