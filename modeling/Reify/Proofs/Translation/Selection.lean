import Reify.Proofs.Filter
import Reify.Proofs.Walk.Visits
import Reify.Translation

/-!
# What is not selected has no influence

A walk leaves out what the filter rejects, and with the options also the patterns or the
specializations of templates.  Two units that differ in such places only (`Decl.SameSelection`)
have the same specifications and the same text, or fail in the same way.

Their walks are not the same, for each reports what it leaves out.  So the steps of a walk are
compared by their effects: the specifications that they find, and the terms of what they insert.
Specifications and text depend on the effects alone.
-/

namespace Reify

/-! ## Units that differ in what is not selected -/

mutual

/-- Two declarations that differ at most in what a walk does not enter. -/
inductive Decl.SameSelection (keep : Filter) (o : Options) : Decl → Decl → Prop
  /-- What is rejected may be anything else that is rejected. -/
  | rejected {d d' : Decl} (hd : keep d = false) (hd' : keep d' = false) :
    Decl.SameSelection keep o d d'
  | group {head : Decl.Head} {kind : Group} {decls decls' : List Decl}
    (inner : Decl.SameSelections keep o decls decls') :
    Decl.SameSelection keep o (.group head kind decls) (.group head kind decls')
  | record {head : Decl.Head} {tag : Tag} {isDefinition : Bool} {members members' : List Decl}
    (inner : Decl.SameSelections keep o members members') :
    Decl.SameSelection keep o (.record head tag isDefinition members)
      (.record head tag isDefinition members')
  | typed {head : Decl.Head} {entity : Entity} {type : TypeRef} :
    Decl.SameSelection keep o (.typed head entity type) (.typed head entity type)
  /-- The pattern and the specializations matter only where the options ask for them. -/
  | template {head : Decl.Head} {kind : Template} {pattern pattern' : Decl}
    {specializations specializations' : List Decl}
    (patterns : o.templates = true → Decl.SameSelection keep o pattern pattern')
    (others : o.elaborate = true → Decl.SameSelections keep o specializations specializations') :
    Decl.SameSelection keep o (.template head kind pattern specializations)
      (.template head kind pattern' specializations')
  | staticAssert {head : Decl.Head} {a : StaticAssert} :
    Decl.SameSelection keep o (.staticAssert head a) (.staticAssert head a)

/-- Declarations in a row that differ, one by one, at most in what a walk does not enter. -/
inductive Decl.SameSelections (keep : Filter) (o : Options) : List Decl → List Decl → Prop
  | nil : Decl.SameSelections keep o [] []
  | cons {d d' : Decl} {ds ds' : List Decl} (first : Decl.SameSelection keep o d d')
    (others : Decl.SameSelections keep o ds ds') :
    Decl.SameSelections keep o (d :: ds) (d' :: ds')

end

/-! ## Effects -/

/-- What a step of the walk leaves behind: a specification, the term of a declaration in one of the
four sequences, or an assertion. -/
inductive Effect where
  | spec (found : Spec)
  | term (bucket : Bucket) (t : Logged Error Term)
  | assertion (a : StaticAssert)

/-- The effect of an insertion. -/
def Insertion.effect : Insertion → Effect
  | .decl bucket d _ => .term bucket d.term
  | .assertion a => .assertion a

/-- The effect of a step. What is left out has none, apart from the log. -/
def Step.effect? : Step → Option Effect
  | .annotated found => some (.spec found)
  | .insertion i => some i.effect
  | .skipped _ | .unelaborated _ _ => none

namespace Effect

/-- The specification that was found. -/
def spec? : Effect → Option Spec
  | .spec found => some found
  | .term _ _ | .assertion _ => none

/-- The term of a declaration in this sequence. -/
def term? (b : Bucket) : Effect → Option (Logged Error Term)
  | .term b' t => if b' = b then some t else none
  | .spec _ | .assertion _ => none

/-- The assertion that was met. -/
def assertion? : Effect → Option StaticAssert
  | .assertion a => some a
  | .spec _ | .term _ _ => none

theorem specs_effects (steps : List Step) :
    (steps.filterMap Step.effect?).filterMap spec? = steps.filterMap Step.spec? := by
  rw [List.filterMap_filterMap]
  congr 1
  funext s
  obtain d | found | (⟨b, d, flags⟩ | a) | ⟨d, n⟩ := s
  all_goals rfl

theorem terms_effects (steps : List Step) (b : Bucket) :
    (steps.filterMap Step.effect?).filterMap (term? b) =
      ((steps.filterMap Step.insertion?).filterMap (Insertion.decl? b)).map Decl.term := by
  rw [List.filterMap_filterMap, List.filterMap_filterMap, List.map_filterMap]
  congr 1
  funext s
  obtain d | found | (⟨b', d, flags⟩ | a) | ⟨d, n⟩ := s
  case insertion.decl =>
    change (if b' = b then some d.term else none) = (if b' = b then some d else none).map Decl.term
    split
    · rfl
    · rfl
  all_goals rfl

theorem assertions_effects (steps : List Step) :
    (steps.filterMap Step.effect?).filterMap assertion? =
      (steps.filterMap Step.insertion?).filterMap Insertion.assertion? := by
  rw [List.filterMap_filterMap, List.filterMap_filterMap]
  congr 1
  funext s
  obtain d | found | (⟨b, d, flags⟩ | a) | ⟨d, n⟩ := s
  all_goals rfl

end Effect

/-! ## The same selection has the same effects -/

/-- Whether a declaration is let through, and what annotation it carries, is seen by its head and
kind.  What it holds matters only through the effects that this has. -/
theorem Step.effects_congr {keep : Filter} {d d' : Decl} {inner inner' : List Step}
    (kept : keep d = keep d') (head : d.head = d'.head)
    (h : inner.filterMap effect? = inner'.filterMap effect?) :
    (if keep d then (Spec.ofDecl? d).toList.map annotated ++ inner
      else [skipped d]).filterMap effect? =
    (if keep d' then (Spec.ofDecl? d').toList.map annotated ++ inner'
      else [skipped d']).filterMap effect? := by
  have spec : Spec.ofDecl? d = Spec.ofDecl? d' := by rw [Spec.ofDecl?, Spec.ofDecl?, head]
  rw [kept, spec]
  split
  · rw [List.filterMap_append, List.filterMap_append, h]
  · rfl

/-- That specializations are passed over has no effect. -/
theorem Step.effects_specializations (elaborate : Bool) (inner : List Step) (d : Decl)
    (specializations : List Decl) :
    (if elaborate then inner
      else if specializations.isEmpty then []
      else [.unelaborated d specializations.length]).filterMap effect? =
    if elaborate then inner.filterMap effect? else [] := by
  split
  · rfl
  · split <;> rfl

section Steps

variable {only : Option (List String)} {o : Options}

mutual

/-- A filter by files looks no deeper than a declaration's head and kind, so the walk takes the same
way through both declarations wherever that has an effect. -/
theorem Decl.effects_steps {d d' : Decl} (h : SameSelection (.ofFiles? only) o d d')
    (flags : Flags) :
    (d.steps (.ofFiles? only) o flags).filterMap Step.effect? =
      (d'.steps (.ofFiles? only) o flags).filterMap Step.effect? := by
  cases h with
  | rejected hd hd' =>
    rw [Decl.steps.eq_def, Decl.steps.eq_def, hd, hd']
    rfl
  | group inner =>
    have inner := Decl.effects_stepsAll inner flags
    rw [Decl.steps.eq_def, Decl.steps.eq_def]
    exact Step.effects_congr (Filter.ofFiles?_congr only rfl rfl) rfl inner
  | record inner =>
    have inner := Decl.effects_stepsAll inner flags
    rw [Decl.steps.eq_def, Decl.steps.eq_def]
    refine Step.effects_congr (Filter.ofFiles?_congr only rfl rfl) rfl ?_
    -- The members of a record are no part of its term.
    exact congrArg (_ :: ·) inner
  | typed => rfl
  | template patterns others =>
    rw [Decl.steps.eq_def, Decl.steps.eq_def]
    refine Step.effects_congr (Filter.ofFiles?_congr only rfl rfl) rfl ?_
    rw [List.filterMap_append, List.filterMap_append, Step.effects_specializations,
      Step.effects_specializations]
    congr 1
    · split
      · rename_i templates
        exact Decl.effects_steps (patterns templates) flags.setTemplate
      · rfl
    · split
      · rename_i elaborate
        exact Decl.effects_stepsAll (others elaborate) flags.setSpecialization
      · rfl
  | staticAssert => rfl

theorem Decl.effects_stepsAll {ds ds' : List Decl} (h : SameSelections (.ofFiles? only) o ds ds')
    (flags : Flags) :
    (Decl.stepsAll (.ofFiles? only) o flags ds).filterMap Step.effect? =
      (Decl.stepsAll (.ofFiles? only) o flags ds').filterMap Step.effect? := by
  cases h with
  | nil => rfl
  | cons first others =>
    rw [Decl.stepsAll, Decl.stepsAll, List.filterMap_append, List.filterMap_append,
      Decl.effects_steps first flags, Decl.effects_stepsAll others flags]

end

end Steps

/-! ## Text and specifications depend on the effects -/

/-- Declarations are written through their terms alone. -/
theorem Decl.terms_congr {ds ds' : List Decl} (h : ds.map term = ds'.map term) :
    terms ds = terms ds' := by
  induction ds generalizing ds' with
  | nil =>
    rw [List.map_nil, eq_comm, List.map_eq_nil_iff] at h
    rw [h]
  | cons d ds ih =>
    cases ds' with
    | nil => cases h
    | cons d' ds' =>
      obtain ⟨first, others⟩ := List.cons.inj h
      rw [terms, terms, first, ih others]

/-- A module is written through the terms in its four sequences and its assertions. -/
theorem Module.print_congr {m m' : Module}
    (terms : ∀ b, (m.bucket b).map Decl.term = (m'.bucket b).map Decl.term)
    (asserts : m.asserts = m'.asserts) (unit : String) : m.print unit = m'.print unit := by
  have sequence (b : Bucket) : Decl.terms (m.bucket b) = Decl.terms (m'.bucket b) :=
    Decl.terms_congr (terms b)
  have sections : m.sections = m'.sections := by
    have declarations := sequence .declaration
    have definitions := sequence .definition
    have templateDeclarations := sequence .templateDeclaration
    have templateDefinitions := sequence .templateDefinition
    simp only [bucket] at declarations definitions templateDeclarations templateDefinitions
    rw [Module.sections, Module.sections, declarations, definitions, templateDeclarations,
      templateDefinitions, asserts]
  rw [print, print, sections]

/-- Two walks with the same effects build modules that are written alike. -/
theorem Build.print_extend_congr {steps steps' : List Step}
    (h : steps.filterMap Step.effect? = steps'.filterMap Step.effect?) (b : Build) (o : Options)
    (unit : String) :
    (b.extend o steps).module.print unit = (b.extend o steps').module.print unit := by
  refine Module.print_congr (fun bucket ↦ ?_) ?_ unit
  · simp only [extend]
    rw [Module.bucket_foldl_insert, Module.bucket_foldl_insert, List.map_append, List.map_append,
      ← Effect.terms_effects, ← Effect.terms_effects, h]
  · simp only [extend]
    rw [Module.asserts_foldl_insert, Module.asserts_foldl_insert, ← Effect.assertions_effects,
      ← Effect.assertions_effects, h]

/-- Two units of one name whose walks have the same effects are translated to the same text, or fail
alike, and leave the same specifications. -/
theorem TranslationUnit.translate_congr {keep : Filter} {o : Options} {u u' : TranslationUnit}
    (name : u.filename = u'.filename)
    (effects : (u.steps keep o).filterMap Step.effect? = (u'.steps keep o).filterMap Step.effect?)
    (specs : List Spec) :
    (u.translate keep o specs).output.result = (u'.translate keep o specs).output.result ∧
      (u.translate keep o specs).specs = (u'.translate keep o specs).specs := by
  constructor
  · let b : Build := { Build.empty with specs := specs }
    have printed := Build.print_extend_congr effects b o u'.filename
    change ((b.extend o (u.steps keep o)).module.print u.filename).result =
      ((b.extend o (u'.steps keep o)).module.print u'.filename).result
    rw [name, printed]
  · have found : (u.steps keep o).filterMap Step.spec? =
        (u'.steps keep o).filterMap Step.spec? := by
      rw [← Effect.specs_effects, ← Effect.specs_effects, effects]
    exact congrArg (specs ++ ·) found

/-- What is not selected has no influence.  Under a filter by files, or none, two units of one name
that differ only in what is rejected, and in the patterns and specializations that the options pass
over, have the same text or fail alike, and leave the same specifications. -/
theorem TranslationUnit.translate_eq_of_sameSelection (only : Option (List String)) (o : Options)
    {u u' : TranslationUnit} (name : u.filename = u'.filename)
    (h : Decl.SameSelections (.ofFiles? only) o u.decls u'.decls) (specs : List Spec) :
    (u.translate (.ofFiles? only) o specs).output.result =
        (u'.translate (.ofFiles? only) o specs).output.result ∧
      (u.translate (.ofFiles? only) o specs).specs =
        (u'.translate (.ofFiles? only) o specs).specs :=
  translate_congr name (Decl.effects_stepsAll h .none) specs

/-- A variable without a type does no harm in a file that was not asked for: it may as well be an
assertion there. -/
theorem TranslationUnit.translate_eq_of_sameSelection_null :
    Decl.SameSelections (.ofFiles? (some ["a.cpp"])) .standard
        [.group (.new 1 "ns") .named [.typed (.new 2 "ns::x") (.object true) (.null .none)]]
        [.group (.new 1 "ns") .named [.staticAssert (.new 3 "") ⟨none, none⟩]] ∧
      (translate ⟨"a.cpp",
          [.group (.new 1 "ns") .named [.typed (.new 2 "ns::x") (.object true) (.null .none)]]⟩
          (.ofFiles? (some ["a.cpp"])) .standard []).output.result =
        (translate ⟨"a.cpp", [.group (.new 1 "ns") .named [.staticAssert (.new 3 "") ⟨none, none⟩]]⟩
          (.ofFiles? (some ["a.cpp"])) .standard []).output.result := by
  have h : Decl.SameSelections (.ofFiles? (some ["a.cpp"])) .standard
      [.group (.new 1 "ns") .named [.typed (.new 2 "ns::x") (.object true) (.null .none)]]
      [.group (.new 1 "ns") .named [.staticAssert (.new 3 "") ⟨none, none⟩]] :=
    .cons (.group (.cons (.rejected rfl rfl) .nil)) .nil
  have same := @translate_eq_of_sameSelection (some ["a.cpp"]) .standard ⟨"a.cpp", _⟩
    ⟨"a.cpp", _⟩ (Eq.refl "a.cpp") h []
  exact ⟨h, same.1⟩

end Reify
