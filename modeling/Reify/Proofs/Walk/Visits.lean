import Mathlib.Data.List.Basic
import Reify.Walk

/-!
# What the walk visits, and where it goes

The visits of a walk are the declarations that it comes by, each with the way that leads to it from
the top level, in the order of the source.  Nothing else decides what a module holds: its sequences
are the entries among the visits, told apart by whether they are definitions and by whether their
way goes through the pattern of a template.

The walk itself hands flags down and lists steps.  `filter_steps` shows that the flags a declaration
is met under are those of its way, and so that the steps are those of the visits, apart from reports
of what is passed over: they insert what the visits say, and find the specifications that these
carry.
-/

namespace Reify

/-! ## Visits -/

/-- One turn on the way down to a declaration. -/
inductive Turn where
  /-- To what a container or record holds. -/
  | member
  | pattern
  | specialization
deriving DecidableEq, Repr

/-- A declaration that the walk comes by. -/
structure Visit where
  /-- The way from the top level, its last turn first. -/
  path : List Turn
  decl : Decl

mutual

/-- The visits from a declaration on, which `path` leads to. A rejected declaration is not visited,
nor is anything below it. -/
def Decl.visits (keep : Filter) (o : Options) (path : List Turn) (d : Decl) : List Visit :=
  if keep d then
    ⟨path, d⟩ :: match d with
      | .group _ _ decls => Decl.visitsAll keep o (.member :: path) decls
      | .record _ _ _ members => Decl.visitsAll keep o (.member :: path) members
      | .template _ _ pattern specializations =>
        (if o.templates then pattern.visits keep o (.pattern :: path) else []) ++
          if o.elaborate then Decl.visitsAll keep o (.specialization :: path) specializations
          else []
      | .typed _ _ _ | .staticAssert _ _ => []
  else []

/-- The visits from some declarations in a row. -/
def Decl.visitsAll (keep : Filter) (o : Options) (path : List Turn) : List Decl → List Visit
  | [] => []
  | d :: ds => d.visits keep o path ++ Decl.visitsAll keep o path ds

end

/-- The visits of a walk through a unit. -/
def TranslationUnit.visits (u : TranslationUnit) (keep : Filter) (o : Options) : List Visit :=
  Decl.visitsAll keep o [] u.decls

/-- Whether a declaration gets an entry in one of the four sequences: a record, or a declaration
that has a type. -/
def Decl.isEntry : Decl → Bool
  | .record _ _ _ _ | .typed _ _ _ => true
  | .group _ _ _ | .template _ _ _ _ | .staticAssert _ _ => false

/-- The assertion that a declaration makes. -/
def Decl.assertion? : Decl → Option StaticAssert
  | .staticAssert _ a => some a
  | _ => none

namespace Visit

/-- Whether the way goes through the pattern of a template. -/
def inTemplate (v : Visit) : Bool := v.path.contains .pattern

/-- Whether the way goes through a specialization. -/
def inSpecialization (v : Visit) : Bool := v.path.contains .specialization

/-- The entries among some visits that are definitions or not, inside of patterns or not. -/
def entries (isDefinition inTemplate : Bool) (visits : List Visit) : List Decl :=
  (visits.filter fun v ↦
    v.decl.isEntry && v.decl.isDefinition == isDefinition && v.inTemplate == inTemplate).map decl

/-- The flags that a visit is made under. -/
def flags (v : Visit) : Flags := ⟨v.inTemplate, v.inSpecialization⟩

/-- What a visit puts into the module. -/
def insertion? (v : Visit) : Option Insertion :=
  match v.decl with
  | .staticAssert _ a => some (.assertion a)
  | d => if d.isEntry then some (.ofDecl d.isDefinition d v.flags) else none

end Visit

/-! ## The steps are those of the visits -/

/-- The flags below some turns, the last one first. -/
def Flags.below (path : List Turn) : Flags :=
  ⟨path.contains .pattern, path.contains .specialization⟩

@[simp] theorem Flags.below_member (path : List Turn) : below (.member :: path) = below path := by
  simp [below]

@[simp] theorem Flags.below_pattern (path : List Turn) :
    below (.pattern :: path) = (below path).setTemplate := by
  simp [below, setTemplate]

@[simp] theorem Flags.below_specialization (path : List Turn) :
    below (.specialization :: path) = (below path).setSpecialization := by
  simp [below, setSpecialization]

namespace Step

/-- Whether a step is taken at a visit. The others say what is passed over. -/
def isOfVisit : Step → Bool
  | .annotated _ | .insertion _ => true
  | .skipped _ | .unelaborated _ _ => false

/-- What only the steps of visits show is not lost with the other steps. -/
theorem filterMap_filter_isOfVisit {α : Type} {f : Step → Option α}
    (h : ∀ s : Step, s.isOfVisit = false → f s = none) (steps : List Step) :
    (steps.filter isOfVisit).filterMap f = steps.filterMap f := by
  rw [List.filterMap_filter]
  congr 1
  funext s
  cases hs : s.isOfVisit with
  | true => rfl
  | false => exact (h s hs).symm

end Step

namespace Visit

/-- The specification that a visit finds. -/
def spec? (v : Visit) : Option Spec := Spec.ofDecl? v.decl

/-- The steps that are taken at a visit: its specification is noted, then the entry is inserted. -/
def steps (v : Visit) : List Step :=
  v.spec?.toList.map .annotated ++ v.insertion?.toList.map .insertion

variable {walk : List Step} {visits : List Visit}

/-- What the steps of some visits show is what each of the visits shows. -/
theorem filterMap_steps {α : Type} {f : Step → Option α} {g : Visit → Option α}
    (h : walk.filter Step.isOfVisit = visits.flatMap steps)
    (passed : ∀ s : Step, s.isOfVisit = false → f s = none)
    (here : ∀ v : Visit, v.steps.filterMap f = (g v).toList) :
    walk.filterMap f = visits.filterMap g := by
  rw [← Step.filterMap_filter_isOfVisit passed, h, List.filterMap_flatMap,
    List.filterMap_eq_flatMap_toList]
  simp only [here]

/-- Steps that are those of some visits insert what the visits say. -/
theorem filterMap_insertion? (h : walk.filter Step.isOfVisit = visits.flatMap steps) :
    walk.filterMap Step.insertion? = visits.filterMap insertion? := by
  refine filterMap_steps h
    (fun s ↦ by cases s <;> simp [Step.isOfVisit, Step.insertion?]) fun v ↦ ?_
  rw [steps, List.filterMap_append, List.filterMap_map, List.filterMap_map]
  cases v.spec? <;> cases v.insertion? <;> rfl

/-- Steps that are those of some visits find the specifications that the visits find. -/
theorem filterMap_spec? (h : walk.filter Step.isOfVisit = visits.flatMap steps) :
    walk.filterMap Step.spec? = visits.filterMap spec? := by
  refine filterMap_steps h (fun s ↦ by cases s <;> simp [Step.isOfVisit, Step.spec?]) fun v ↦ ?_
  rw [steps, List.filterMap_append, List.filterMap_map, List.filterMap_map]
  cases v.spec? <;> cases v.insertion? <;> rfl

end Visit

section Steps

variable (keep : Filter) (o : Options)

mutual

/-- The steps from a declaration on are those of its visits, and reports of what is passed over, if
it is met under the flags of the way that leads to it. -/
theorem Decl.filter_steps (d : Decl) (path : List Turn) :
    (d.steps keep o (.below path)).filter Step.isOfVisit =
      (d.visits keep o path).flatMap Visit.steps := by
  rw [Decl.steps.eq_def, Decl.visits.eq_def]
  by_cases hd : keep d
  · have noted : ((Spec.ofDecl? d).toList.map Step.annotated).filter Step.isOfVisit =
        (Spec.ofDecl? d).toList.map Step.annotated :=
      List.filter_eq_self.mpr fun _ hs ↦ by
        obtain ⟨_, _, rfl⟩ := List.mem_map.mp hs
        rfl
    rw [if_pos hd, if_pos hd, List.filter_append, noted, List.flatMap_cons, Visit.steps,
      List.append_assoc]
    congr 1
    cases d with
    | group head kind decls =>
      have inner := Decl.filter_stepsAll decls (.member :: path)
      rw [Flags.below_member] at inner
      exact inner
    | record head tag isDefinition members =>
      have inner := Decl.filter_stepsAll members (.member :: path)
      rw [Flags.below_member] at inner
      exact congrArg (_ :: ·) inner
    | typed head entity type => rfl
    | template head kind pattern specializations =>
      have inner := Decl.filter_steps pattern (.pattern :: path)
      have others := Decl.filter_stepsAll specializations (.specialization :: path)
      rw [Flags.below_pattern] at inner
      rw [Flags.below_specialization] at others
      have patterns :
          (if o.templates then pattern.steps keep o (Flags.below path).setTemplate
            else []).filter Step.isOfVisit =
          (if o.templates then pattern.visits keep o (.pattern :: path)
            else []).flatMap Visit.steps := by
        split
        · exact inner
        · rfl
      have elaborated :
          (if o.elaborate then
              Decl.stepsAll keep o (Flags.below path).setSpecialization specializations
            else if specializations.isEmpty then []
            else [.unelaborated (.template head kind pattern specializations)
              specializations.length]).filter Step.isOfVisit =
          (if o.elaborate then Decl.visitsAll keep o (.specialization :: path) specializations
            else []).flatMap Visit.steps := by
        split
        · exact others
        · split <;> rfl
      rw [List.filter_append, List.flatMap_append, patterns, elaborated]
      rfl
    | staticAssert head a => rfl
  · rw [if_neg hd, if_neg hd]
    rfl

/-- The steps from some declarations on are those of their visits, and reports of what is passed
over. -/
theorem Decl.filter_stepsAll (ds : List Decl) (path : List Turn) :
    (Decl.stepsAll keep o (.below path) ds).filter Step.isOfVisit =
      (Decl.visitsAll keep o path ds).flatMap Visit.steps := by
  cases ds with
  | nil => rfl
  | cons d ds =>
    rw [Decl.stepsAll, Decl.visitsAll, List.filter_append, List.flatMap_append,
      Decl.filter_steps d path, Decl.filter_stepsAll ds path]

end

/-- The steps from a declaration on insert what its visits say. -/
theorem Decl.insertions_steps (d : Decl) (path : List Turn) :
    (d.steps keep o (.below path)).filterMap Step.insertion? =
      (d.visits keep o path).filterMap Visit.insertion? :=
  Visit.filterMap_insertion? (d.filter_steps keep o path)

end Steps

/-! ## What a module holds after some insertions -/

namespace Insertion

/-- The declaration that is put into a sequence. -/
def decl? (b : Bucket) : Insertion → Option Decl
  | .decl b' d _ => if b' = b then some d else none
  | .assertion _ => none

/-- The assertion that is put into the module. -/
def assertion? : Insertion → Option StaticAssert
  | .decl _ _ _ => none
  | .assertion a => some a

end Insertion

namespace Module

theorem bucket_insert (m : Module) (i : Insertion) (b : Bucket) :
    (m.insert i).bucket b = m.bucket b ++ (i.decl? b).toList := by
  cases i with
  | decl b' d flags => cases b' <;> cases b <;> simp [insert, bucket, Insertion.decl?]
  | assertion a => cases b <;> simp [insert, bucket, Insertion.decl?]

theorem asserts_insert (m : Module) (i : Insertion) :
    (m.insert i).asserts = m.asserts ++ i.assertion?.toList := by
  cases i with
  | decl b d flags => cases b <;> simp [insert, Insertion.assertion?]
  | assertion a => rfl

/-- Insertions append to a sequence what they put into it. -/
theorem bucket_foldl_insert (m : Module) (is : List Insertion) (b : Bucket) :
    (is.foldl insert m).bucket b = m.bucket b ++ is.filterMap (Insertion.decl? b) := by
  induction is generalizing m with
  | nil => simp
  | cons i is ih =>
    rw [List.foldl_cons, ih, bucket_insert, List.append_assoc, List.filterMap_cons]
    cases i.decl? b with
    | none => rfl
    | some d => rfl

/-- Insertions append the assertions among them. -/
theorem asserts_foldl_insert (m : Module) (is : List Insertion) :
    (is.foldl insert m).asserts = m.asserts ++ is.filterMap Insertion.assertion? := by
  induction is generalizing m with
  | nil => simp
  | cons i is ih =>
    rw [List.foldl_cons, ih, asserts_insert, List.append_assoc, List.filterMap_cons]
    cases i.assertion? with
    | none => rfl
    | some a => rfl

end Module

namespace Visit

/-- A sequence is chosen by what is a definition and by the patterns above it, and by nothing
else. -/
theorem bucket_of_eq_iff (b b' : Bool) (f f' : Flags) :
    Bucket.of b f = Bucket.of b' f' ↔ b = b' ∧ f.inTemplate = f'.inTemplate := by
  obtain ⟨t, s⟩ := f
  obtain ⟨t', s'⟩ := f'
  cases b <;> cases b' <;> cases t <;> cases t' <;> simp [Bucket.of]

/-- What one visit puts into a sequence. -/
theorem decl?_insertion? (v : Visit) (isDefinition inTemplate : Bool) :
    v.insertion?.bind (Insertion.decl? (.of isDefinition ⟨inTemplate, false⟩)) =
      if v.decl.isEntry && v.decl.isDefinition == isDefinition && v.inTemplate == inTemplate
      then some v.decl else none := by
  have chosen (d : Decl) :
      (Insertion.ofDecl d.isDefinition d v.flags).decl? (.of isDefinition ⟨inTemplate, false⟩) =
        if d.isDefinition == isDefinition && v.inTemplate == inTemplate then some d else none := by
    simp [Insertion.ofDecl, Insertion.decl?, bucket_of_eq_iff, flags]
  obtain ⟨path, d⟩ := v
  cases d with
  | group head kind decls => rfl
  | record head tag b members => exact chosen (.record head tag b members)
  | typed head entity type => exact chosen (.typed head entity type)
  | template head kind pattern specializations => rfl
  | staticAssert head a => rfl

/-- The entries are what the visits put into the sequence for them. -/
theorem decls_insertions (visits : List Visit) (isDefinition inTemplate : Bool) :
    (visits.filterMap insertion?).filterMap
        (Insertion.decl? (.of isDefinition ⟨inTemplate, false⟩)) =
      entries isDefinition inTemplate visits := by
  rw [List.filterMap_filterMap, entries, ← List.filterMap_eq_map, List.filterMap_filter]
  congr 1
  funext v
  exact decl?_insertion? v isDefinition inTemplate

/-- The assertions among the visits are those put into the module. -/
theorem assertions_insertions (visits : List Visit) :
    (visits.filterMap insertion?).filterMap Insertion.assertion? =
      visits.filterMap (·.decl.assertion?) := by
  rw [List.filterMap_filterMap]
  congr 1
  funext v
  obtain ⟨path, d⟩ := v
  cases d <;> rfl

end Visit

/-! ## What the walk builds -/

/-- Walking a unit inserts what its visits say. -/
theorem TranslationUnit.module_build (u : TranslationUnit) (keep : Filter) (o : Options)
    (b : Build) :
    (u.build keep o b).module =
      ((u.visits keep o).filterMap Visit.insertion?).foldl Module.insert b.module :=
  congrArg (List.foldl Module.insert b.module)
    (Visit.filterMap_insertion? (Decl.filter_stepsAll keep o u.decls []))

/-- Walking a unit appends to a sequence the entries for it. -/
theorem TranslationUnit.bucket_build (u : TranslationUnit) (keep : Filter) (o : Options) (b : Build)
    (isDefinition inTemplate : Bool) :
    (u.build keep o b).module.bucket (.of isDefinition ⟨inTemplate, false⟩) =
      b.module.bucket (.of isDefinition ⟨inTemplate, false⟩) ++
        Visit.entries isDefinition inTemplate (u.visits keep o) := by
  rw [u.module_build, Module.bucket_foldl_insert, Visit.decls_insertions]

/-- Walking a unit appends the assertions of its visits. -/
theorem TranslationUnit.asserts_build (u : TranslationUnit) (keep : Filter) (o : Options)
    (b : Build) :
    (u.build keep o b).module.asserts =
      b.module.asserts ++ (u.visits keep o).filterMap (·.decl.assertion?) := by
  rw [u.module_build, Module.asserts_foldl_insert, Visit.assertions_insertions]

/-- Walking a unit finds the specifications of its visits. -/
theorem TranslationUnit.specs_build (u : TranslationUnit) (keep : Filter) (o : Options)
    (b : Build) :
    (u.build keep o b).specs = b.specs ++ (u.visits keep o).filterMap Visit.spec? :=
  congrArg (b.specs ++ ·) (Visit.filterMap_spec? (Decl.filter_stepsAll keep o u.decls []))

/-- Walking a unit appends to each of the four sequences the entries among the visits that belong
into it, and to the assertions those among the visits, all in the order of the walk. -/
theorem TranslationUnit.build_appends_visits (u : TranslationUnit) (keep : Filter) (o : Options)
    (b : Build) :
    (u.build keep o b).module.declarations =
        b.module.declarations ++ Visit.entries false false (u.visits keep o) ∧
      (u.build keep o b).module.definitions =
        b.module.definitions ++ Visit.entries true false (u.visits keep o) ∧
      (u.build keep o b).module.templateDeclarations =
        b.module.templateDeclarations ++ Visit.entries false true (u.visits keep o) ∧
      (u.build keep o b).module.templateDefinitions =
        b.module.templateDefinitions ++ Visit.entries true true (u.visits keep o) ∧
      (u.build keep o b).module.asserts =
        b.module.asserts ++ (u.visits keep o).filterMap (·.decl.assertion?) :=
  ⟨u.bucket_build keep o b false false, u.bucket_build keep o b true false,
    u.bucket_build keep o b false true, u.bucket_build keep o b true true,
    u.asserts_build keep o b⟩

end Reify
