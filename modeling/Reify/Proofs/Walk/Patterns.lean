import Reify.Proofs.Walk.Visits

/-!
# Patterns are kept apart

What lies below the pattern of a template gets into a module only where patterns are asked for, and
then only into the two sequences for templates, or among the assertions.  The two sequences for
everything else do not depend on the choice.

A visit below a pattern has the pattern on its way, and nothing further down takes it off again
(`Decl.liesIn_of_mem_visits`).  So the options decide about each visit by its way alone: a walk
makes those visits of one that goes everywhere whose turns are all allowed (`Decl.allowed_visits`).
A walk that leaves patterns out makes the visits of a walk that enters them, less those that lie
below a pattern.
-/

namespace Reify

/-- The same options with the patterns of templates walked or not. -/
def Options.withTemplates (o : Options) (templates : Bool) : Options :=
  { o with templates := templates }

namespace Options

/-- The options that let a walk go everywhere. -/
def everywhere : Options := ⟨true, true, false⟩

/-- Whether a walk may take a turn. -/
def allows (o : Options) : Turn → Bool
  | .member => true
  | .pattern => o.templates
  | .specialization => o.elaborate

/-- Where patterns may be entered, just the ways that go through none are left without them. -/
theorem all_allows_withTemplates (o : Options) (path : List Turn) :
    path.all (o.withTemplates false).allows =
      (!path.contains .pattern && path.all (o.withTemplates true).allows) := by
  induction path with
  | nil => rfl
  | cons turn path ih =>
    rw [List.all_cons, List.all_cons, List.contains_cons, ih]
    cases turn with
    | member => rfl
    | pattern => rfl
    | specialization =>
      change (o.elaborate && (!path.contains .pattern && _)) =
        (!path.contains .pattern && (o.elaborate && _))
      exact Bool.and_left_comm _ _ _

end Options

namespace Visit

/-- The visits that do not lie below a pattern. -/
def outside (visits : List Visit) : List Visit := visits.filter fun v ↦ !v.inTemplate

/-- The visits whose ways take no turn but what the options allow. -/
def allowed (o : Options) (visits : List Visit) : List Visit :=
  visits.filter (·.path.all o.allows)

/-- Visits whose ways all take a turn that is not allowed are not made. -/
theorem allowed_eq_nil {o : Options} {visits : List Visit} (turn : Turn)
    (stopped : o.allows turn = false) (h : ∀ v ∈ visits, turn ∈ v.path) :
    allowed o visits = [] := by
  refine List.filter_eq_nil_iff.mpr fun v hv all ↦ ?_
  rw [List.all_eq_true.mp all turn (h v hv)] at stopped
  cases stopped

/-- The entries for the ordinary sequences are all found outside of patterns. -/
theorem entries_outside (visits : List Visit) (isDefinition : Bool) :
    entries isDefinition false (outside visits) = entries isDefinition false visits := by
  rw [entries, entries, outside, List.filter_filter]
  congr 2
  funext v
  cases v.inTemplate <;> simp

/-- Outside of patterns there are no entries for the sequences of templates. -/
theorem entries_outside_template (visits : List Visit) (isDefinition : Bool) :
    entries isDefinition true (outside visits) = [] := by
  rw [entries, outside, List.filter_filter, List.map_eq_nil_iff, List.filter_eq_nil_iff]
  intro v _
  cases v.inTemplate <;> simp

end Visit

section Walk

variable (keep : Filter) (o : Options)

/-! ## Below a declaration -/

/-- A pattern that is to be walked is walked in one stretch. -/
theorem Decl.pattern_steps_infix {head : Decl.Head} {kind : Template} {pattern : Decl}
    {specializations : List Decl} (kept : keep (.template head kind pattern specializations))
    (templates : o.templates) (flags : Flags) :
    pattern.steps keep o flags.setTemplate <:+:
      (Decl.template head kind pattern specializations).steps keep o flags := by
  rw [Decl.steps.eq_def keep o flags (.template _ _ _ _), if_pos kept]
  dsimp only
  rw [if_pos templates]
  exact (List.prefix_append _ _).isInfix.trans (List.suffix_append _ _).isInfix

/-- Specializations that are to be walked are walked in one stretch. -/
theorem Decl.specializations_steps_infix {head : Decl.Head} {kind : Template} {pattern : Decl}
    {specializations : List Decl} (kept : keep (.template head kind pattern specializations))
    (elaborate : o.elaborate) (flags : Flags) :
    Decl.stepsAll keep o flags.setSpecialization specializations <:+:
      (Decl.template head kind pattern specializations).steps keep o flags := by
  rw [Decl.steps.eq_def keep o flags (.template _ _ _ _), if_pos kept]
  dsimp only
  rw [if_pos elaborate]
  exact (List.suffix_append _ _).isInfix.trans (List.suffix_append _ _).isInfix

/-- A visit to a declaration that is kept lies below a way, and what the walk does from it on is a
stretch of some steps. -/
structure Visit.LiesIn (v : Visit) (path : List Turn) (steps : List Step) : Prop where
  kept : keep v.decl
  way : path <:+ v.path
  stretch : v.decl.steps keep o (.below v.path) <:+: steps

theorem Visit.LiesIn.widen {v : Visit} {turn : Turn} {path : List Turn} {inner outer : List Step}
    (h : v.LiesIn keep o (turn :: path) inner) (within : inner <:+: outer) :
    v.LiesIn keep o path outer :=
  ⟨h.kept, (List.suffix_cons turn path).trans h.way, h.stretch.trans within⟩

mutual

/-- The way to a visit goes through the declaration that the walk started from, and the walk goes on
from the visit in one stretch. -/
theorem Decl.liesIn_of_mem_visits (d : Decl) (path : List Turn) :
    ∀ v ∈ d.visits keep o path, v.LiesIn keep o path (d.steps keep o (.below path)) := by
  intro v hv
  rw [Decl.visits.eq_def] at hv
  by_cases hd : keep d
  · rw [if_pos hd] at hv
    rcases List.mem_cons.mp hv with rfl | hv
    · exact ⟨hd, List.suffix_refl path, List.infix_refl _⟩
    · cases d with
      | group head kind decls =>
        have inner := Decl.liesIn_of_mem_visitsAll decls _ v hv
        rw [Flags.below_member] at inner
        refine inner.widen keep o ?_
        rw [Decl.steps.eq_def, if_pos hd]
        exact (List.suffix_append _ _).isInfix
      | record head tag isDefinition members =>
        have inner := Decl.liesIn_of_mem_visitsAll members _ v hv
        rw [Flags.below_member] at inner
        refine inner.widen keep o ?_
        rw [Decl.steps.eq_def, if_pos hd]
        exact (List.suffix_cons _ _).isInfix.trans (List.suffix_append _ _).isInfix
      | typed head entity type => cases hv
      | template head kind pattern specializations =>
        rcases List.mem_append.mp hv with hv | hv
        · split at hv
          · rename_i templates
            have inner := Decl.liesIn_of_mem_visits pattern _ v hv
            rw [Flags.below_pattern] at inner
            exact inner.widen keep o (Decl.pattern_steps_infix keep o hd templates _)
          · cases hv
        · split at hv
          · rename_i elaborate
            have inner := Decl.liesIn_of_mem_visitsAll specializations _ v hv
            rw [Flags.below_specialization] at inner
            exact inner.widen keep o (Decl.specializations_steps_infix keep o hd elaborate _)
          · cases hv
      | staticAssert head a => cases hv
  · rw [if_neg hd] at hv
    cases hv

theorem Decl.liesIn_of_mem_visitsAll (ds : List Decl) (path : List Turn) :
    ∀ v ∈ Decl.visitsAll keep o path ds,
      v.LiesIn keep o path (Decl.stepsAll keep o (.below path) ds) := by
  intro v hv
  cases ds with
  | nil => cases hv
  | cons d ds =>
    rw [Decl.visitsAll] at hv
    rw [Decl.stepsAll]
    rcases List.mem_append.mp hv with hv | hv
    · obtain ⟨kept, way, stretch⟩ := Decl.liesIn_of_mem_visits d path v hv
      exact ⟨kept, way, stretch.trans (List.prefix_append _ _).isInfix⟩
    · obtain ⟨kept, way, stretch⟩ := Decl.liesIn_of_mem_visitsAll ds path v hv
      exact ⟨kept, way, stretch.trans (List.suffix_append _ _).isInfix⟩

end

/-- A turn that has been taken is on every way that goes on from there. -/
theorem Decl.turn_mem_of_mem_visits (d : Decl) {turn : Turn} {path : List Turn} (h : turn ∈ path) :
    ∀ v ∈ d.visits keep o path, turn ∈ v.path :=
  fun v hv ↦ (Decl.liesIn_of_mem_visits keep o d path v hv).way.mem h

/-! ## What the options leave of a walk -/

mutual

/-- A walk makes those visits of one that goes everywhere whose turns it may take, from any place on
that it may get to itself. -/
theorem Decl.allowed_visits (d : Decl) {path : List Turn} (h : path.all o.allows) :
    Visit.allowed o (d.visits keep .everywhere path) = d.visits keep o path := by
  rw [Decl.visits.eq_def, Decl.visits.eq_def]
  by_cases hd : keep d
  · have here (below : List Visit) :
        Visit.allowed o (⟨path, d⟩ :: below) = ⟨path, d⟩ :: Visit.allowed o below :=
      List.filter_cons_of_pos h
    rw [if_pos hd, if_pos hd, here]
    congr 1
    cases d with
    | group head kind decls => exact Decl.allowed_visitsAll decls h
    | record head tag isDefinition members => exact Decl.allowed_visitsAll members h
    | typed head entity type => rfl
    | template head kind pattern specializations =>
      refine (List.filter_append _ _).trans (congrArg₂ (· ++ ·) ?_ ?_)
      · -- Without patterns, every way below this one takes a turn that is not allowed.
        cases templates : o.templates with
        | true =>
          have further : (Turn.pattern :: path).all o.allows :=
            Bool.and_eq_true_iff.mpr ⟨templates, h⟩
          exact Decl.allowed_visits pattern further
        | false =>
          exact Visit.allowed_eq_nil .pattern templates
            (pattern.turn_mem_of_mem_visits keep .everywhere List.mem_cons_self)
      · cases elaborate : o.elaborate with
        | true =>
          have further : (Turn.specialization :: path).all o.allows :=
            Bool.and_eq_true_iff.mpr ⟨elaborate, h⟩
          exact Decl.allowed_visitsAll specializations further
        | false =>
          refine Visit.allowed_eq_nil .specialization elaborate fun v hv ↦ ?_
          exact (Decl.liesIn_of_mem_visitsAll keep .everywhere specializations _ v hv).way.mem
            List.mem_cons_self
    | staticAssert head a => rfl
  · rw [if_neg hd, if_neg hd]
    rfl

theorem Decl.allowed_visitsAll (ds : List Decl) {path : List Turn} (h : path.all o.allows) :
    Visit.allowed o (Decl.visitsAll keep .everywhere path ds) = Decl.visitsAll keep o path ds := by
  cases ds with
  | nil => rfl
  | cons d ds =>
    rw [Decl.visitsAll, Decl.visitsAll, ← Decl.allowed_visits d h, ← Decl.allowed_visitsAll ds h]
    exact List.filter_append _ _

end

/-! ## What is inserted below a pattern -/

/-- The insertions that go into the two sequences for templates, or among the assertions. -/
inductive Insertion.IsApart : Insertion → Prop where
  | declaration (d : Decl) (flags : Flags) : IsApart (.decl .templateDeclaration d flags)
  | definition (d : Decl) (flags : Flags) : IsApart (.decl .templateDefinition d flags)
  | assertion (a : StaticAssert) : IsApart (.assertion a)

/-- The sequences for everything else are left as they are. -/
theorem Insertion.IsApart.insert {i : Insertion} (h : i.IsApart) (m : Module) :
    (m.insert i).declarations = m.declarations ∧ (m.insert i).definitions = m.definitions := by
  cases h with
  | declaration d flags => exact ⟨rfl, rfl⟩
  | definition d flags => exact ⟨rfl, rfl⟩
  | assertion a => exact ⟨rfl, rfl⟩

/-- Below a pattern, a declaration goes into one of the sequences for templates. -/
theorem Insertion.isApart_ofDecl (isDefinition : Bool) (d : Decl) {flags : Flags}
    (inside : flags.inTemplate = true) : (Insertion.ofDecl isDefinition d flags).IsApart := by
  obtain ⟨inTemplate, inSpecialization⟩ := flags
  cases inside
  cases isDefinition with
  | false => exact .declaration d _
  | true => exact .definition d _

/-- A visit that lies below a pattern inserts nothing but what is kept apart. -/
theorem Visit.isApart_of_insertion? {v : Visit} {i : Insertion} (inside : v.inTemplate = true)
    (inserted : v.insertion? = some i) : i.IsApart := by
  obtain ⟨path, d⟩ := v
  cases d with
  | group head kind decls => cases inserted
  | record head tag isDefinition members =>
    cases inserted
    exact Insertion.isApart_ofDecl _ _ inside
  | typed head entity type =>
    cases inserted
    exact Insertion.isApart_ofDecl _ _ inside
  | template head kind pattern specializations => cases inserted
  | staticAssert head a =>
    cases inserted
    exact .assertion a

/-- Everything that is inserted below a pattern is kept apart, however far below. -/
theorem Decl.isApart_of_pattern (d : Decl) {path : List Turn} (h : .pattern ∈ path) :
    ∀ i ∈ (d.steps keep o (.below path)).filterMap Step.insertion?, i.IsApart := by
  intro i hi
  rw [Decl.insertions_steps] at hi
  obtain ⟨v, hv, inserted⟩ := List.mem_filterMap.mp hi
  have inside : v.inTemplate = true :=
    List.contains_iff_mem.mpr (d.turn_mem_of_mem_visits keep o h v hv)
  exact v.isApart_of_insertion? inside inserted

end Walk

namespace TranslationUnit

/-- A unit is walked from the top level, where no turn has been taken yet. -/
theorem allowed_visits (u : TranslationUnit) (keep : Filter) (o : Options) :
    Visit.allowed o (u.visits keep .everywhere) = u.visits keep o :=
  Decl.allowed_visitsAll keep o u.decls rfl

theorem outside_visits (u : TranslationUnit) (keep : Filter) (o : Options) :
    Visit.outside (u.visits keep (o.withTemplates true)) =
      u.visits keep (o.withTemplates false) := by
  rw [← u.allowed_visits keep (o.withTemplates true),
    ← u.allowed_visits keep (o.withTemplates false), Visit.outside, Visit.allowed, Visit.allowed,
    List.filter_filter]
  exact List.filter_congr fun v _ ↦ (o.all_allows_withTemplates v.path).symm

/-- Patterns are kept apart.  Whether they are walked or not, the sequences of declarations and of
definitions are the same; where they are not, the two sequences for templates stay as they were.
Where they are, the walk of each pattern that is come by is one stretch of the whole walk, and all
that this stretch inserts goes into the sequences for templates or among the assertions, so that it
leaves declarations and definitions as they are. -/
theorem build_isolates_patterns (u : TranslationUnit) (keep : Filter) (o : Options) (b : Build) :
    (u.build keep (o.withTemplates true) b).module.declarations =
        (u.build keep (o.withTemplates false) b).module.declarations ∧
      (u.build keep (o.withTemplates true) b).module.definitions =
        (u.build keep (o.withTemplates false) b).module.definitions ∧
      (u.build keep (o.withTemplates false) b).module.templateDeclarations =
        b.module.templateDeclarations ∧
      (u.build keep (o.withTemplates false) b).module.templateDefinitions =
        b.module.templateDefinitions ∧
      ∀ path head kind pattern specializations,
        ⟨path, .template head kind pattern specializations⟩ ∈
          u.visits keep (o.withTemplates true) →
        pattern.steps keep (o.withTemplates true) (.below (.pattern :: path)) <:+:
          u.steps keep (o.withTemplates true) ∧
        ∀ i ∈ (pattern.steps keep (o.withTemplates true)
            (.below (.pattern :: path))).filterMap Step.insertion?,
          i.IsApart ∧ ∀ m : Module, (m.insert i).declarations = m.declarations ∧
            (m.insert i).definitions = m.definitions := by
  have ordinary (isDefinition : Bool) :
      (u.build keep (o.withTemplates true) b).module.bucket (.of isDefinition .none) =
        (u.build keep (o.withTemplates false) b).module.bucket (.of isDefinition .none) := by
    rw [Flags.none, bucket_build, bucket_build, ← outside_visits, Visit.entries_outside]
  have templates (isDefinition : Bool) :
      (u.build keep (o.withTemplates false) b).module.bucket (.of isDefinition ⟨true, false⟩) =
        b.module.bucket (.of isDefinition ⟨true, false⟩) := by
    rw [bucket_build, ← outside_visits, Visit.entries_outside_template, List.append_nil]
  refine ⟨ordinary false, ordinary true, templates false, templates true, ?_⟩
  intro path head kind pattern specializations met
  obtain ⟨kept, -, stretch⟩ := Decl.liesIn_of_mem_visitsAll keep _ u.decls [] _ met
  have inner := Decl.pattern_steps_infix keep (o.withTemplates true) kept rfl (.below path)
  rw [← Flags.below_pattern] at inner
  refine ⟨inner.trans stretch, fun i hi ↦ ?_⟩
  have apart := pattern.isApart_of_pattern keep _ List.mem_cons_self i hi
  exact ⟨apart, apart.insert⟩

/-- A class template whose pattern holds another one, with a specialization. -/
def nestedTemplates : TranslationUnit :=
  let inner : Decl := .template (.new 3 "C::D") .ofClass (.record (.new 4 "C::D") .ofClass true [])
    [.record (.new 5 "C::D<int>") .ofClass true []]
  ⟨"a.cpp", [.template (.new 1 "C") .ofClass (.record (.new 2 "C") .ofStruct true [inner]) []]⟩

/-- The specialization of the inner template is a definition, but not one of the ordinary ones. -/
theorem build_isolates_patterns_nested :
    .ofDecl true (.record (.new 5 "C::D<int>") .ofClass true []) ⟨true, true⟩ ∈
        (nestedTemplates.steps .all (Options.standard.withTemplates true)).filterMap
          Step.insertion? ∧
      (Module.empty.insert (.ofDecl true (.record (.new 5 "C::D<int>") .ofClass true [])
        ⟨true, true⟩)).definitions = [] := by
  obtain ⟨-, -, -, -, below⟩ := build_isolates_patterns nestedTemplates .all .standard .empty
  obtain ⟨stretch, kept⟩ := below _ _ _ _ _ (.head _)
  refine ⟨(stretch.filterMap _).mem ?_, ((kept _ ?_).2 .empty).2⟩
  -- Before it come the pattern of the outer template and that of the inner one.
  all_goals exact .tail _ (.tail _ (.head _))

end TranslationUnit

end Reify
