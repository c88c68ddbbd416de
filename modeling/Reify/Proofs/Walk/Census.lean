import Reify.Proofs.Walk.Widening

/-!
# Counting and walking agree

The declarations of a unit are counted by a recursion of its own, which goes down into everything.
Containers and templates are counted like the rest, but a walk inserts nothing for them.  So a walk
that goes everywhere inserts as much as is counted, less the number of containers and templates.
Every other walk inserts less, or as much.
-/

namespace Reify

/-! ## Sizes -/

namespace Module

theorem size_foldl_insert (m : Module) (is : List Insertion) :
    (is.foldl insert m).size = m.size + is.length := by
  induction is generalizing m with
  | nil => rfl
  | cons i is ih =>
    rw [List.foldl_cons, ih, size_insert, List.length_cons]
    omega

theorem Within.size_le {m m' : Module} (h : m.Within m') : m.size ≤ m'.size := by
  have declarations := h.declarations.length_le
  have definitions := h.definitions.length_le
  have templateDeclarations := h.templateDeclarations.length_le
  have templateDefinitions := h.templateDefinitions.length_le
  have asserts := h.asserts.length_le
  rw [size, size]
  omega

end Module

/-! ## What is counted and not inserted -/

mutual

/-- The number of containers and templates in a declaration, itself included. -/
def Decl.holders : Decl → Nat
  | .group _ _ decls => 1 + Decl.holdersAll decls
  | .record _ _ _ members => Decl.holdersAll members
  | .typed _ _ _ | .staticAssert _ _ => 0
  | .template _ _ pattern specializations =>
    1 + pattern.holders + Decl.holdersAll specializations

/-- The number of containers and templates in some declarations. -/
def Decl.holdersAll : List Decl → Nat
  | [] => 0
  | d :: ds => d.holders + Decl.holdersAll ds

end

/-- The number of containers and templates in a unit, at any depth. -/
def TranslationUnit.holders (u : TranslationUnit) : Nat := Decl.holdersAll u.decls

/-- The number of insertions that come of some visits. -/
def Visit.inserted (visits : List Visit) : Nat := (visits.filterMap insertion?).length

theorem Visit.inserted_append (visits visits' : List Visit) :
    inserted (visits ++ visits') = inserted visits + inserted visits' := by
  rw [inserted, List.filterMap_append, List.length_append, inserted, inserted]

section Everywhere

variable {o : Options}

mutual

/-- Of a declaration and all that it holds, the containers and templates alone are visited without
an insertion. -/
theorem Decl.inserted_visits (elaborate : o.elaborate) (templates : o.templates) (d : Decl)
    (path : List Turn) :
    Visit.inserted (d.visits .all o path) + d.holders = d.count := by
  have kept : Filter.all d := rfl
  rw [Decl.visits.eq_def, if_pos kept]
  cases d with
  | group head kind decls =>
    have inner := Decl.inserted_visitsAll elaborate templates decls (.member :: path)
    change Visit.inserted (Decl.visitsAll .all o (.member :: path) decls) +
      (1 + Decl.holdersAll decls) = 1 + Decl.countAll decls
    omega
  | record head tag isDefinition members =>
    have inner := Decl.inserted_visitsAll elaborate templates members (.member :: path)
    change Visit.inserted (Decl.visitsAll .all o (.member :: path) members) + 1 +
      Decl.holdersAll members = 1 + Decl.countAll members
    omega
  | typed head entity type => rfl
  | template head kind pattern specializations =>
    have inner := Decl.inserted_visits elaborate templates pattern (.pattern :: path)
    have others := Decl.inserted_visitsAll elaborate templates specializations
      (.specialization :: path)
    dsimp only
    rw [if_pos templates, if_pos elaborate]
    change Visit.inserted (pattern.visits .all o (.pattern :: path) ++
        Decl.visitsAll .all o (.specialization :: path) specializations) +
      (1 + pattern.holders + Decl.holdersAll specializations) =
      1 + pattern.count + Decl.countAll specializations
    rw [Visit.inserted_append]
    omega
  | staticAssert head a => rfl

theorem Decl.inserted_visitsAll (elaborate : o.elaborate) (templates : o.templates)
    (ds : List Decl) (path : List Turn) :
    Visit.inserted (Decl.visitsAll .all o path ds) + Decl.holdersAll ds = Decl.countAll ds := by
  cases ds with
  | nil => rfl
  | cons d ds =>
    have first := Decl.inserted_visits elaborate templates d path
    have others := Decl.inserted_visitsAll elaborate templates ds path
    rw [Decl.visitsAll, Visit.inserted_append, Decl.holdersAll, Decl.countAll]
    omega

end

end Everywhere

namespace TranslationUnit

variable (u : TranslationUnit)

theorem size_build (keep : Filter) (o : Options) (b : Build) :
    (u.build keep o b).module.size = b.module.size + Visit.inserted (u.visits keep o) := by
  rw [u.module_build, Module.size_foldl_insert, Visit.inserted]

/-- The count of declarations and the walk agree.  A module that a walk through everything has built
from nothing has as many entries as there are declarations in the unit, containers and templates
left out.  No filter and no options make it larger. -/
theorem size_build_add_holders :
    (∀ traceModule : Bool,
      (u.build .all ⟨true, true, traceModule⟩ .empty).module.size + u.holders = u.declCount) ∧
    ∀ (keep : Filter) (o : Options),
      (u.build keep o .empty).module.size + u.holders ≤ u.declCount := by
  have whole (traceModule : Bool) :
      (u.build .all ⟨true, true, traceModule⟩ .empty).module.size + u.holders = u.declCount := by
    let o : Options := ⟨true, true, traceModule⟩
    have elaborate : o.elaborate := rfl
    have inserted : Visit.inserted (u.visits .all o) + u.holders = u.declCount :=
      Decl.inserted_visitsAll elaborate rfl u.decls []
    have nothing : Build.empty.module.size = 0 := rfl
    rw [u.size_build, nothing, Nat.zero_add, inserted]
  refine ⟨whole, fun keep o ↦ ?_⟩
  have within : o.Within ⟨true, true, o.traceModule⟩ := ⟨fun _ ↦ rfl, fun _ ↦ rfl⟩
  calc (u.build keep o .empty).module.size + u.holders
      ≤ (u.build .all ⟨true, true, o.traceModule⟩ .empty).module.size + u.holders :=
        Nat.add_le_add_right (u.module_within keep.within_all within .empty).size_le _
    _ = u.declCount := whole o.traceModule

/-- A template in the members of a pattern, whose specialization holds a variable: three entries,
and two templates. -/
example :
    let inner : Decl := .template (.new 3 "g") .ofFunction (.staticAssert (.new 4 "") ⟨none, none⟩)
      [.typed (.new 5 "g<int>") (.object true) (.null .none)]
    let u : TranslationUnit :=
      ⟨"a.cpp", [.template (.new 1 "S") .ofClass (.record (.new 2 "S") .ofStruct true [inner]) []]⟩
    u.declCount = 5 ∧ u.holders = 2 ∧
      (u.build .all ⟨true, true, false⟩ .empty).module.size = 3 ∧
      (u.build .all .standard .empty).module.size = 0 :=
  ⟨rfl, rfl, rfl, rfl⟩

end TranslationUnit

end Reify
