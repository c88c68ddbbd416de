import Reify.Proofs.Translation.Selection

/-!
# Containers only group

Containers and templates have no entries of their own.  One without an annotation may as well be
replaced by the declarations that a walk finds in it, in place, and so at every depth
(`Decl.ungroupAll`).  The walk through what is left reports less and meets specializations under
other flags.  Its effects are the same, for they do not tell a specialization from anything else.

This is about walks that do not enter patterns.  What a pattern holds goes to other sequences, so it
could not stand in the place of its template.
-/

namespace Reify

/-! ## Ungrouping -/

/-- Whether a declaration does no more than to hold others: a container without an annotation, or
such a template if the filter lets it through. -/
def Decl.onlyGroups (keep : Filter) (d : Decl) : Bool :=
  d.head.annotation.isNone && match d with
    | .group _ _ _ => true
    | .template _ _ _ _ => keep d
    | .record _ _ _ _ | .typed _ _ _ | .staticAssert _ _ => false

/-- What may stand in the place of a container or template. Where specializations are not walked,
nothing may stand in the place of a template. -/
def Decl.contents (o : Options) : Decl → List Decl
  | .group _ _ decls => decls
  | .template _ _ _ specializations => if o.elaborate then specializations else []
  | .record _ _ _ _ | .typed _ _ _ | .staticAssert _ _ => []

mutual

/-- A declaration with the lists in it ungrouped. -/
def Decl.ungrouped (keep : Filter) (o : Options) : Decl → Decl
  | .group head kind decls => .group head kind (Decl.ungroupAll keep o decls)
  | .record head tag isDefinition members =>
    .record head tag isDefinition (Decl.ungroupAll keep o members)
  | .typed head entity type => .typed head entity type
  | .template head kind pattern specializations =>
    .template head kind (pattern.ungrouped keep o) (Decl.ungroupAll keep o specializations)
  | .staticAssert head a => .staticAssert head a

/-- Declarations in a row, where those that only group others have given way to these. -/
def Decl.ungroupAll (keep : Filter) (o : Options) : List Decl → List Decl
  | [] => []
  | d :: ds =>
    (if d.onlyGroups keep then (d.ungrouped keep o).contents o else [d.ungrouped keep o]) ++
      Decl.ungroupAll keep o ds

end

/-- The unit with its declarations ungrouped. -/
def TranslationUnit.ungrouped (keep : Filter) (o : Options) (u : TranslationUnit) :
    TranslationUnit :=
  { u with decls := Decl.ungroupAll keep o u.decls }

mutual

/-- Nothing in the lists of a declaration only groups others, at any depth. -/
def Decl.HoldsUngrouped (keep : Filter) : Decl → Prop
  | .group _ _ decls => Decl.AllUngrouped keep decls
  | .record _ _ _ members => Decl.AllUngrouped keep members
  | .typed _ _ _ | .staticAssert _ _ => True
  | .template _ _ pattern specializations =>
    pattern.HoldsUngrouped keep ∧ Decl.AllUngrouped keep specializations

/-- None of the declarations only groups others, nor does any in their lists. -/
def Decl.AllUngrouped (keep : Filter) : List Decl → Prop
  | [] => True
  | d :: ds => d.onlyGroups keep = false ∧ d.HoldsUngrouped keep ∧ Decl.AllUngrouped keep ds

end

theorem Decl.allUngrouped_append {keep : Filter} {ds ds' : List Decl}
    (h : Decl.AllUngrouped keep ds) (h' : Decl.AllUngrouped keep ds') :
    Decl.AllUngrouped keep (ds ++ ds') := by
  induction ds with
  | nil => exact h'
  | cons d ds ih => exact ⟨h.1, h.2.1, ih h.2.2⟩

/-- What may stand in the place of a declaration comes from its lists. -/
theorem Decl.HoldsUngrouped.contents {keep : Filter} {d : Decl} (h : d.HoldsUngrouped keep)
    (o : Options) : Decl.AllUngrouped keep (d.contents o) := by
  cases d with
  | group head kind decls => exact h
  | template head kind pattern specializations =>
    rw [Decl.contents]
    split
    · exact h.2
    · trivial
  | record | typed | staticAssert => trivial

section Ungrouped

variable (only : Option (List String)) (o : Options)

/-- Ungrouping the lists of a declaration does not turn it into one that only groups others, nor
the other way round. -/
theorem Decl.onlyGroups_ungrouped (d : Decl) :
    (d.ungrouped (.ofFiles? only) o).onlyGroups (.ofFiles? only) =
      d.onlyGroups (.ofFiles? only) := by
  cases d with
  | template head kind pattern specializations =>
    exact congrArg (head.annotation.isNone && ·) (Filter.ofFiles?_congr only rfl rfl)
  | group | record | typed | staticAssert => rfl

mutual

theorem Decl.holdsUngrouped_ungrouped (d : Decl) :
    (d.ungrouped (.ofFiles? only) o).HoldsUngrouped (.ofFiles? only) := by
  cases d with
  | group head kind decls => exact Decl.allUngrouped_ungroupAll decls
  | record head tag isDefinition members => exact Decl.allUngrouped_ungroupAll members
  | template head kind pattern specializations =>
    exact ⟨Decl.holdsUngrouped_ungrouped pattern, Decl.allUngrouped_ungroupAll specializations⟩
  | typed | staticAssert => trivial

theorem Decl.allUngrouped_ungroupAll (ds : List Decl) :
    Decl.AllUngrouped (.ofFiles? only) (Decl.ungroupAll (.ofFiles? only) o ds) := by
  cases ds with
  | nil => trivial
  | cons d ds =>
    have inner := Decl.holdsUngrouped_ungrouped d
    rw [Decl.ungroupAll]
    refine Decl.allUngrouped_append ?_ (Decl.allUngrouped_ungroupAll ds)
    split
    · exact inner.contents o
    · rename_i keeps
      refine ⟨?_, inner, trivial⟩
      rw [Decl.onlyGroups_ungrouped]
      exact Bool.eq_false_iff.mpr keeps

end

end Ungrouped

/-! ## Ungrouping has no effect -/

/-- The effect of an insertion does not show whether it comes of a specialization. -/
theorem Insertion.effect_ofDecl_congr (isDefinition : Bool) (d d' : Decl) {flags flags' : Flags}
    (below : flags.inTemplate = flags'.inTemplate) (term : d.term = d'.term) :
    (ofDecl isDefinition d flags).effect = (ofDecl isDefinition d' flags').effect := by
  have bucket : Bucket.of isDefinition flags = Bucket.of isDefinition flags' :=
    (Visit.bucket_of_eq_iff _ _ _ _).mpr ⟨rfl, below⟩
  rw [ofDecl, ofDecl, effect, effect, bucket, term]

theorem Decl.stepsAll_append (keep : Filter) (o : Options) (flags : Flags) (ds ds' : List Decl) :
    Decl.stepsAll keep o flags (ds ++ ds') =
      Decl.stepsAll keep o flags ds ++ Decl.stepsAll keep o flags ds' := by
  induction ds with
  | nil => rfl
  | cons d ds ih =>
    rw [List.cons_append, Decl.stepsAll, Decl.stepsAll, ih, List.append_assoc]

theorem Decl.ofDecl?_of_onlyGroups {keep : Filter} {d : Decl} (h : d.onlyGroups keep) :
    Spec.ofDecl? d = none := by
  rw [onlyGroups.eq_def, Bool.and_eq_true, Option.isNone_iff_eq_none] at h
  rw [Spec.ofDecl?, h.1, Option.map_none]

/-- A filter by files lets all containers through, and so all that only groups others. -/
theorem Decl.kept_of_onlyGroups {only : Option (List String)} {d : Decl}
    (h : d.onlyGroups (.ofFiles? only)) : Filter.ofFiles? only d := by
  rw [onlyGroups.eq_def, Bool.and_eq_true] at h
  cases d with
  | group => cases only <;> rfl
  | template => exact h.2
  | record | typed | staticAssert => cases h.2

section Effects

variable {only : Option (List String)} {o : Options}

mutual

/-- The walk through a declaration has the same effects with its lists ungrouped, even if it is met
below a specialization in one case and not in the other. -/
theorem Decl.effects_ungrouped (templates : o.templates = false) (d : Decl) (flags flags' : Flags)
    (below : flags'.inTemplate = flags.inTemplate) :
    ((d.ungrouped (.ofFiles? only) o).steps (.ofFiles? only) o flags').filterMap Step.effect? =
      (d.steps (.ofFiles? only) o flags).filterMap Step.effect? := by
  rw [Decl.steps.eq_def, Decl.steps.eq_def]
  cases d with
  | group head kind decls =>
    have inner := Decl.effects_ungroupAll templates decls flags flags' below
    exact Step.effects_congr (Filter.ofFiles?_congr only rfl rfl) rfl inner
  | record head tag isDefinition members =>
    have entry := Insertion.effect_ofDecl_congr isDefinition
      (.record head tag isDefinition (Decl.ungroupAll (.ofFiles? only) o members))
      (.record head tag isDefinition members) below rfl
    have inner := Decl.effects_ungroupAll templates members flags flags' below
    refine Step.effects_congr (Filter.ofFiles?_congr only rfl rfl) rfl ?_
    exact congrArg₂ List.cons entry inner
  | typed head entity type =>
    have entry := Insertion.effect_ofDecl_congr entity.isDefinition (.typed head entity type)
      (.typed head entity type) below rfl
    refine Step.effects_congr rfl rfl ?_
    exact congrArg (List.cons · []) entry
  | template head kind pattern specializations =>
    have inner := Decl.effects_ungroupAll templates specializations flags.setSpecialization
      flags'.setSpecialization below
    refine Step.effects_congr (Filter.ofFiles?_congr only rfl rfl) rfl ?_
    dsimp only [Decl.ungrouped]
    rw [templates, List.filterMap_append, List.filterMap_append, Step.effects_specializations,
      Step.effects_specializations, inner]
    rfl
  | staticAssert head a => rfl

/-- What stands in the place of a declaration that only groups others has the same effects. -/
theorem Decl.effects_contents (templates : o.templates = false) (d : Decl)
    (h : d.onlyGroups (.ofFiles? only)) (flags flags' : Flags)
    (below : flags'.inTemplate = flags.inTemplate) :
    (Decl.stepsAll (.ofFiles? only) o flags'
        ((d.ungrouped (.ofFiles? only) o).contents o)).filterMap Step.effect? =
      (d.steps (.ofFiles? only) o flags).filterMap Step.effect? := by
  rw [Decl.steps.eq_def, if_pos (Decl.kept_of_onlyGroups h), Decl.ofDecl?_of_onlyGroups h]
  cases d with
  | group head kind decls => exact Decl.effects_ungroupAll templates decls flags flags' below
  | template head kind pattern specializations =>
    -- The specializations are met as such below the template, and as they are in its place.
    have inner := Decl.effects_ungroupAll templates specializations flags.setSpecialization flags'
      below
    dsimp only [Decl.ungrouped, Decl.contents]
    rw [templates, List.filterMap_append, List.filterMap_append, Step.effects_specializations,
      ← inner]
    split <;> rfl
  | record | typed | staticAssert =>
    rw [Decl.onlyGroups, Bool.and_false] at h
    cases h

theorem Decl.effects_ungroupAll (templates : o.templates = false) (ds : List Decl)
    (flags flags' : Flags) (below : flags'.inTemplate = flags.inTemplate) :
    (Decl.stepsAll (.ofFiles? only) o flags'
        (Decl.ungroupAll (.ofFiles? only) o ds)).filterMap Step.effect? =
      (Decl.stepsAll (.ofFiles? only) o flags ds).filterMap Step.effect? := by
  cases ds with
  | nil => rfl
  | cons d ds =>
    rw [Decl.ungroupAll, Decl.stepsAll_append, Decl.stepsAll, List.filterMap_append,
      List.filterMap_append, Decl.effects_ungroupAll templates ds flags flags' below]
    congr 1
    split
    · rename_i h
      exact Decl.effects_contents templates d h flags flags' below
    · rw [Decl.stepsAll, Decl.stepsAll, List.append_nil]
      exact Decl.effects_ungrouped templates d flags flags' below

end

end Effects

namespace TranslationUnit

/-- Containers are pure grouping.  Under a filter by files, or none, and with patterns not walked,
a unit may be ungrouped: nothing is left in its lists that only groups others, and it is translated
to the same text, or fails alike, and leaves the same specifications. -/
theorem translate_ungrouped (only : Option (List String)) (o : Options)
    (templates : o.templates = false) (u : TranslationUnit) (specs : List Spec) :
    let u' := u.ungrouped (.ofFiles? only) o
    Decl.AllUngrouped (.ofFiles? only) u'.decls ∧
      (u'.translate (.ofFiles? only) o specs).output.result =
        (u.translate (.ofFiles? only) o specs).output.result ∧
      (u'.translate (.ofFiles? only) o specs).specs =
        (u.translate (.ofFiles? only) o specs).specs := by
  intro u'
  have name : u'.filename = u.filename := rfl
  have effects : (u'.steps (.ofFiles? only) o).filterMap Step.effect? =
      (u.steps (.ofFiles? only) o).filterMap Step.effect? :=
    Decl.effects_ungroupAll templates u.decls .none .none rfl
  exact ⟨Decl.allUngrouped_ungroupAll only o u.decls, translate_congr name effects specs⟩

/-- A namespace that holds an annotated one and a class template, whose specialization has a linkage
specification among its members. -/
def groupsInGroups : TranslationUnit :=
  let noted : Decl.Head := { Decl.Head.newIn "a.cpp" 3 "ns::in" with annotation := some "inv" }
  let special : Decl := .record (.newIn "a.cpp" 6 "S<int>") .ofStruct true [
    .group (.newIn "a.cpp" 7 "") .linkage [.record (.newIn "a.cpp" 8 "T") .ofUnion false []]]
  ⟨"a.cpp", [
    .group (.newIn "a.cpp" 1 "ns") .named [
      .group noted .named [.group (.newIn "a.cpp" 4 "") .linkage [
        .typed (.newIn "a.cpp" 5 "x") (.object true) (.node .none (.builtin .bool))]],
      .template (.newIn "a.cpp" 2 "S") .ofClass (.record (.newIn "a.cpp" 2 "S") .ofStruct true [])
        [special]]]⟩

/-- The annotated namespace stays and holds the variable itself. The specialization stands beside
it, and holds the union itself. -/
theorem translate_ungrouped_nested :
    let u := groupsInGroups
    let u' := u.ungrouped (.inFiles ["a.cpp"]) .standard
    Options.standard.templates = false ∧
      (u'.decls.map (·.head.qualifiedName) = ["ns::in", "S<int>"] ∧
        u'.declCount = 4 ∧ u.declCount = 9) ∧
      (u'.translate (.inFiles ["a.cpp"]) .standard []).output.result =
        (u.translate (.inFiles ["a.cpp"]) .standard []).output.result ∧
      (∃ text, (u.translate (.inFiles ["a.cpp"]) .standard []).output.result = .ok text) ∧
      (u'.translate (.inFiles ["a.cpp"]) .standard []).specs = [⟨3, "ns::in", "inv"⟩] := by
  intro u u'
  obtain ⟨-, text, specs⟩ := translate_ungrouped (some ["a.cpp"]) .standard rfl u []
  exact ⟨rfl, ⟨rfl, rfl, rfl⟩, text, ⟨_, rfl⟩, specs⟩

end TranslationUnit

end Reify
