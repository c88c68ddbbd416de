import Reify.Proofs.Filter
import Reify.Proofs.Module.Outcome

/-!
# A wider selection only inserts

What a walk visits under one choice of declarations and options, it visits under a wider one too, in
the same order and as many times (`Decl.visits_sublist`).  A module, and the specifications beside
it, list the visits of a walk by kind.  So each list that comes of the narrow walk is a sublist of
the one that comes of the wide walk, and what fails to be written after the narrow walk fails after
the wide one.
-/

namespace Reify

/-- What is walked under the first options is walked under the second. What is reported makes no
difference. -/
structure Options.Within (o o' : Options) : Prop where
  elaborate : o.elaborate → o'.elaborate
  templates : o.templates → o'.templates

/-- More may be walked under the stronger of two conditions if nothing is walked without it. -/
theorem Visit.sublist_of_imp {b b' : Bool} (h : b → b') {visits visits' : List Visit}
    (inner : visits.Sublist visits') :
    (if b then visits else []).Sublist (if b' then visits' else []) := by
  cases b with
  | false => exact List.nil_sublist _
  | true =>
    rw [if_pos rfl, if_pos (h rfl)]
    exact inner

section Walk

variable {keep keep' : Filter} {o o' : Options}

mutual

/-- A wider walk makes the visits of a narrow one, with others in between. -/
theorem Decl.visits_sublist (hk : keep.Within keep') (ho : o.Within o') (d : Decl)
    (path : List Turn) : (d.visits keep o path).Sublist (d.visits keep' o' path) := by
  rw [Decl.visits.eq_def, Decl.visits.eq_def]
  -- A walk that goes on here goes on under the wider selection too, and one that turns back here
  -- makes no visit that would have to be found again.
  by_cases hd : keep d
  · rw [if_pos hd, if_pos (hk d hd)]
    apply List.Sublist.cons_cons
    cases d with
    | group head kind decls => exact Decl.visitsAll_sublist hk ho decls _
    | record head tag isDefinition members => exact Decl.visitsAll_sublist hk ho members _
    | typed head entity type => exact List.Sublist.refl _
    | template head kind pattern specializations =>
      have patterns := Decl.visits_sublist hk ho pattern (.pattern :: path)
      have others := Decl.visitsAll_sublist hk ho specializations (.specialization :: path)
      exact (Visit.sublist_of_imp ho.templates patterns).append
        (Visit.sublist_of_imp ho.elaborate others)
    | staticAssert head a => exact List.Sublist.refl _
  · rw [if_neg hd]
    exact List.nil_sublist _

theorem Decl.visitsAll_sublist (hk : keep.Within keep') (ho : o.Within o') (ds : List Decl)
    (path : List Turn) :
    (Decl.visitsAll keep o path ds).Sublist (Decl.visitsAll keep' o' path ds) := by
  cases ds with
  | nil => exact List.Sublist.refl _
  | cons d ds =>
    rw [Decl.visitsAll, Decl.visitsAll]
    exact (Decl.visits_sublist hk ho d path).append (Decl.visitsAll_sublist hk ho ds path)

end

end Walk

/-! ## Modules that hold more -/

/-- Each of the five sequences of the first module is found in the second, in the same order and
with others in between. -/
structure Module.Within (m m' : Module) : Prop where
  declarations : m.declarations.Sublist m'.declarations
  definitions : m.definitions.Sublist m'.definitions
  templateDeclarations : m.templateDeclarations.Sublist m'.templateDeclarations
  templateDefinitions : m.templateDefinitions.Sublist m'.templateDefinitions
  asserts : m.asserts.Sublist m'.asserts

/-- If the larger of two modules can be written, so can the smaller one. -/
theorem Module.Within.exists_print {m m' : Module} (h : m.Within m') {unit unit' : String}
    (written : ∃ text, (m'.print unit').result = .ok text) :
    ∃ text, (m.print unit).result = .ok text := by
  have entries : m.entries.Sublist m'.entries :=
    ((h.declarations.append h.definitions).append h.templateDeclarations).append
      h.templateDefinitions
  rw [exists_print_iff] at written ⊢
  exact fun d hd ↦ written d (entries.subset hd)

namespace TranslationUnit

variable {keep keep' : Filter} {o o' : Options}

theorem visits_sublist (u : TranslationUnit) (hk : keep.Within keep') (ho : o.Within o') :
    (u.visits keep o).Sublist (u.visits keep' o') :=
  Decl.visitsAll_sublist hk ho u.decls []

theorem module_within (u : TranslationUnit) (hk : keep.Within keep') (ho : o.Within o')
    (b : Build) : (u.build keep o b).module.Within (u.build keep' o' b).module := by
  have visits := u.visits_sublist hk ho
  have sequence (isDefinition inTemplate : Bool) :
      ((u.build keep o b).module.bucket (.of isDefinition ⟨inTemplate, false⟩)).Sublist
        ((u.build keep' o' b).module.bucket (.of isDefinition ⟨inTemplate, false⟩)) := by
    rw [bucket_build, bucket_build]
    exact (List.Sublist.refl _).append ((visits.filter _).map _)
  constructor
  case declarations => exact sequence false false
  case definitions => exact sequence true false
  case templateDeclarations => exact sequence false true
  case templateDefinitions => exact sequence true true
  case asserts =>
    rw [asserts_build, asserts_build]
    exact (List.Sublist.refl _).append (visits.filterMap _)

/-- A wider selection only inserts.  If one filter keeps all that another keeps, and the patterns
and the specializations of templates are walked wherever they were, then nothing that was in the
module or among the specifications is lost, doubled or moved: each of the five sequences, and the
list of specifications, is a sublist of what it becomes.  So where the wider selection can be
translated, the narrower one can.  A filter by files is widened by more files, whatever their order
and number, and every filter by letting all declarations through. -/
theorem widening_only_inserts :
    (∀ (u : TranslationUnit) (keep keep' : Filter) (o o' : Options),
      keep.Within keep' → o.Within o' →
        (u.build keep o .empty).module.Within (u.build keep' o' .empty).module ∧
        (u.build keep o .empty).specs.Sublist (u.build keep' o' .empty).specs ∧
        ((∃ text, (u.translate keep' o' []).output.result = .ok text) →
          ∃ text, (u.translate keep o []).output.result = .ok text)) ∧
    (∀ files files' : List String, files ⊆ files' →
      (Filter.inFiles files).Within (.inFiles files')) ∧
    ∀ keep : Filter, keep.Within .all := by
  refine ⟨?_, fun _ _ ↦ Filter.inFiles_within, Filter.within_all⟩
  intro u keep keep' o o' hk ho
  have held := u.module_within hk ho .empty
  have specs : (u.build keep o .empty).specs.Sublist (u.build keep' o' .empty).specs := by
    rw [specs_build, specs_build]
    exact (List.Sublist.refl _).append ((u.visits_sublist hk ho).filterMap _)
  exact ⟨held, specs, held.exists_print⟩

/-- A class in one file, and a class template in another with a specialization that is annotated. -/
def classAndTemplate : TranslationUnit :=
  let special : Decl.Head := { Decl.Head.newIn "b.hpp" 4 "B<int>" with annotation := some "inv" }
  ⟨"b.cpp", [
    .record (.newIn "b.cpp" 1 "S") .ofStruct true [],
    .template (.newIn "b.hpp" 2 "B") .ofClass (.record (.newIn "b.hpp" 3 "B") .ofStruct true []) [
      .record special .ofStruct true []]]⟩

/-- One file more brings the class in front of the specialization, and the walk through patterns
brings the one of the template. The annotation stays where it was. -/
theorem widening_only_inserts_pattern :
    let u := classAndTemplate
    let narrow := u.build (.inFiles ["b.hpp"]) ⟨true, false, true⟩ .empty
    let wide := u.build (.inFiles ["b.cpp", "b.hpp", "b.cpp"]) ⟨true, true, false⟩ .empty
    (narrow.module.definitions.map (·.head.qualifiedName) = ["B<int>"] ∧
      narrow.module.templateDefinitions = [] ∧ narrow.specs = [⟨4, "B<int>", "inv"⟩]) ∧
    (wide.module.definitions.map (·.head.qualifiedName) = ["S", "B<int>"] ∧
      wide.module.templateDefinitions.map (·.head.qualifiedName) = ["B"] ∧
      wide.specs = [⟨4, "B<int>", "inv"⟩]) ∧
    narrow.module.Within wide.module ∧ narrow.specs.Sublist wide.specs ∧
    ∃ text, (u.translate (.inFiles ["b.hpp"]) ⟨true, false, true⟩ []).output.result = .ok text := by
  intro u narrow wide
  have widened : (Filter.inFiles ["b.hpp"]).Within (.inFiles ["b.cpp", "b.hpp", "b.cpp"]) :=
    widening_only_inserts.2.1 _ _ (by decide)
  have options : Options.Within ⟨true, false, true⟩ ⟨true, true, false⟩ :=
    ⟨fun _ ↦ rfl, fun _ ↦ rfl⟩
  obtain ⟨held, specs, translated⟩ := widening_only_inserts.1 u _ _ _ _ widened options
  exact ⟨⟨rfl, rfl, rfl⟩, ⟨rfl, rfl, rfl⟩, held, specs, translated ⟨_, rfl⟩⟩

end TranslationUnit

end Reify
