import Reify.Proofs.Filter
import Reify.Proofs.Walk.Visits

/-!
# What encloses a declaration

A filter is asked about a declaration only after everything around it was let through.  So what a
filter leaves of a walk is decided site by site, once it is known what encloses each site: just
those sites are visited that are kept themselves and lie in nothing that is rejected
(`Decl.visits_eq_sites`).

A filter by files lets all containers through, but no other declaration that lies elsewhere.  Hence
a declaration in one of the files is lost exactly if a record or a template around it lies in none
of them.
-/

namespace Reify

/-- A declaration of a unit, with the way to it and what it lies in. -/
structure Site extends Visit where
  /-- The declarations around it, the innermost first. -/
  enclosing : List Decl

namespace Site

/-- Whether a filter keeps what is at the site and all that it lies in. -/
def isKept (keep : Filter) (p : Site) : Bool := keep p.decl && p.enclosing.all keep

/-- Whether what is at the site belongs among the entries that are definitions or not, inside of
patterns or not. -/
def isEntry (isDefinition inTemplate : Bool) (p : Site) : Bool :=
  p.decl.isEntry && p.decl.isDefinition == isDefinition && p.inTemplate == inTemplate

/-- Whether what is at the site lies in one of the files, and with it all records and templates
around it. Where containers lie is of no account. -/
def liesIn (files : List String) (p : Site) : Bool :=
  p.decl.liesIn files && p.enclosing.all fun d ↦ d.isGroup || d.liesIn files

end Site

mutual

/-- The sites from a declaration on, which `path` leads to through `outer`. -/
def Decl.sites (o : Options) (path : List Turn) (outer : List Decl) (d : Decl) : List Site :=
  ⟨⟨path, d⟩, outer⟩ :: match d with
    | .group _ _ decls => Decl.sitesAll o (.member :: path) (d :: outer) decls
    | .record _ _ _ members => Decl.sitesAll o (.member :: path) (d :: outer) members
    | .template _ _ pattern specializations =>
      (if o.templates then pattern.sites o (.pattern :: path) (d :: outer) else []) ++
        if o.elaborate then
          Decl.sitesAll o (.specialization :: path) (d :: outer) specializations
        else []
    | .typed _ _ _ | .staticAssert _ _ => []

/-- The sites from some declarations in a row. -/
def Decl.sitesAll (o : Options) (path : List Turn) (outer : List Decl) : List Decl → List Site
  | [] => []
  | d :: ds => d.sites o path outer ++ Decl.sitesAll o path outer ds

end

/-- The sites of a unit that the options let a walk go to. -/
def TranslationUnit.sites (u : TranslationUnit) (o : Options) : List Site :=
  Decl.sitesAll o [] [] u.decls

section Walk

variable (o : Options)

/-! ## Sites lie in what the way to them goes through -/

mutual

/-- From a declaration on, every site but its own lies in it, and in all that it lies in. -/
theorem Decl.eq_or_suffix_of_mem_sites (d : Decl) (path : List Turn) (outer : List Decl) :
    ∀ p ∈ d.sites o path outer, p = ⟨⟨path, d⟩, outer⟩ ∨ d :: outer <:+ p.enclosing := by
  intro p hp
  rw [Decl.sites.eq_def] at hp
  refine (List.mem_cons.mp hp).imp_right fun hp ↦ ?_
  cases d with
  | group head kind decls => exact Decl.suffix_of_mem_sitesAll decls _ _ p hp
  | record head tag isDefinition members => exact Decl.suffix_of_mem_sitesAll members _ _ p hp
  | typed head entity type => cases hp
  | template head kind pattern specializations =>
    rcases List.mem_append.mp hp with hp | hp
    · split at hp
      · rcases Decl.eq_or_suffix_of_mem_sites pattern _ _ p hp with rfl | inner
        · exact List.suffix_refl _
        · exact (List.suffix_cons _ _).trans inner
      · cases hp
    · split at hp
      · exact Decl.suffix_of_mem_sitesAll specializations _ _ p hp
      · cases hp
  | staticAssert head a => cases hp

theorem Decl.suffix_of_mem_sitesAll (ds : List Decl) (path : List Turn) (outer : List Decl) :
    ∀ p ∈ Decl.sitesAll o path outer ds, outer <:+ p.enclosing := by
  intro p hp
  cases ds with
  | nil => cases hp
  | cons d ds =>
    rw [Decl.sitesAll] at hp
    rcases List.mem_append.mp hp with hp | hp
    · rcases Decl.eq_or_suffix_of_mem_sites d path outer p hp with rfl | inner
      · exact List.suffix_refl _
      · exact (List.suffix_cons _ _).trans inner
    · exact Decl.suffix_of_mem_sitesAll ds path outer p hp

end

/-! ## What a filter leaves of a walk -/

variable {keep : Filter}

/-- From a declaration on that is rejected, nothing is kept. -/
theorem Decl.filter_sites_of_rejected {d : Decl} (hd : keep d = false) (path : List Turn)
    (outer : List Decl) : (d.sites o path outer).filter (·.isKept keep) = [] := by
  refine List.filter_eq_nil_iff.mpr fun p hp ↦ ?_
  rcases d.eq_or_suffix_of_mem_sites o path outer p hp with rfl | inner
  · simp [Site.isKept, hd]
  · have around : d ∈ p.enclosing := inner.mem List.mem_cons_self
    rw [Site.isKept, Bool.and_eq_true, List.all_eq_true]
    rintro ⟨-, kept⟩
    rw [kept d around] at hd
    cases hd

mutual

/-- A walk visits the sites that are kept, from any declaration on that lies in nothing rejected. -/
theorem Decl.visits_eq_sites (d : Decl) (path : List Turn) {outer : List Decl}
    (h : ∀ e ∈ outer, keep e) :
    d.visits keep o path =
      ((d.sites o path outer).filter (·.isKept keep)).map Site.toVisit := by
  -- If the declaration is kept, what is around it is kept for its members too; if not, neither side
  -- goes on.
  by_cases hd : keep d
  · have inside : ∀ e ∈ d :: outer, keep e := List.forall_mem_cons.mpr ⟨hd, h⟩
    have here : Site.isKept keep ⟨⟨path, d⟩, outer⟩ = true :=
      Bool.and_eq_true_iff.mpr ⟨hd, List.all_eq_true.mpr h⟩
    rw [Decl.visits.eq_def, Decl.sites.eq_def, if_pos hd, List.filter_cons_of_pos here,
      List.map_cons]
    congr 1
    cases d with
    | group head kind decls => exact Decl.visitsAll_eq_sites decls _ inside
    | record head tag isDefinition members => exact Decl.visitsAll_eq_sites members _ inside
    | typed head entity type => rfl
    | template head kind pattern specializations =>
      have inner := Decl.visits_eq_sites pattern (.pattern :: path) inside
      have others := Decl.visitsAll_eq_sites specializations (.specialization :: path) inside
      dsimp only
      rw [List.filter_append, List.map_append]
      congr 1
      · split
        · exact inner
        · rfl
      · split
        · exact others
        · rfl
    | staticAssert head a => rfl
  · rw [Decl.filter_sites_of_rejected o (Bool.eq_false_iff.mpr hd), Decl.visits.eq_def, if_neg hd]
    rfl

theorem Decl.visitsAll_eq_sites (ds : List Decl) (path : List Turn) {outer : List Decl}
    (h : ∀ e ∈ outer, keep e) :
    Decl.visitsAll keep o path ds =
      ((Decl.sitesAll o path outer ds).filter (·.isKept keep)).map Site.toVisit := by
  cases ds with
  | nil => rfl
  | cons d ds =>
    rw [Decl.visitsAll, Decl.sitesAll, List.filter_append, List.map_append,
      Decl.visits_eq_sites d path h, Decl.visitsAll_eq_sites ds path h]

end

end Walk

namespace TranslationUnit

/-- A walk visits those sites of a unit that are kept together with all around them. -/
theorem visits_eq_sites (u : TranslationUnit) (keep : Filter) (o : Options) :
    u.visits keep o = ((u.sites o).filter (·.isKept keep)).map Site.toVisit :=
  Decl.visitsAll_eq_sites o u.decls [] fun _ none ↦ absurd none List.not_mem_nil

/-- What a walk puts into a sequence are the entries among the sites that are kept. -/
theorem bucket_build_sites (u : TranslationUnit) (keep : Filter) (o : Options)
    (isDefinition inTemplate : Bool) :
    (u.build keep o .empty).module.bucket (.of isDefinition ⟨inTemplate, false⟩) =
      (((u.sites o).filter (·.isEntry isDefinition inTemplate)).filter (·.isKept keep)).map
        (·.decl) := by
  have none_before : Build.empty.module.bucket (.of isDefinition ⟨inTemplate, false⟩) = [] := by
    cases isDefinition <;> cases inTemplate <;> rfl
  have chosen : ((fun v : Visit ↦ v.decl.isEntry && v.decl.isDefinition == isDefinition &&
      v.inTemplate == inTemplate) ∘ Site.toVisit) = Site.isEntry isDefinition inTemplate := rfl
  rw [bucket_build, none_before, List.nil_append, visits_eq_sites, Visit.entries, List.filter_map,
    List.map_map, chosen, List.filter_filter, List.filter_filter]
  exact congrArg _ (List.filter_congr fun p _ ↦ Bool.and_comm _ _)

end TranslationUnit

/-- Entries are no containers, so where they lie decides whether a filter by files keeps them. -/
theorem Site.isKept_inFiles {p : Site} {isDefinition inTemplate : Bool}
    (h : p.isEntry isDefinition inTemplate) (files : List String) :
    p.isKept (.inFiles files) = p.liesIn files := by
  have entry : p.decl.isEntry := by
    rw [Site.isEntry, Bool.and_eq_true, Bool.and_eq_true] at h
    exact h.1.1
  have no_group : p.decl.isGroup = false := by
    cases hd : p.decl with
    | group head kind decls => simp [hd, Decl.isEntry] at entry
    | record | typed | template | staticAssert => rfl
  rw [Site.isKept, Site.liesIn, Filter.inFiles_eq, no_group, Bool.false_or]
  rw [funext (Filter.inFiles_eq files)]

namespace TranslationUnit

/-- What a filter by files leaves of a module.  Each of the four sequences is the sublist of the one
without a filter that consists of the declarations that lie in one of the files, together with every
record and every template around them.  Namespaces and linkage specifications may lie anywhere. -/
theorem build_inFiles (u : TranslationUnit) (files : List String) (o : Options)
    (isDefinition inTemplate : Bool) :
    let placed := (u.sites o).filter (·.isEntry isDefinition inTemplate)
    (u.build .all o .empty).module.bucket (.of isDefinition ⟨inTemplate, false⟩) =
        placed.map (·.decl) ∧
      (u.build (.inFiles files) o .empty).module.bucket (.of isDefinition ⟨inTemplate, false⟩) =
        (placed.filter (·.liesIn files)).map (·.decl) := by
  intro placed
  constructor
  · have all_kept : ∀ p ∈ placed, p.isKept .all := fun p _ ↦
      Bool.and_eq_true_iff.mpr ⟨rfl, List.all_eq_true.mpr fun _ _ ↦ rfl⟩
    rw [bucket_build_sites, List.filter_eq_self.mpr all_kept]
  · rw [bucket_build_sites]
    congr 1
    refine List.filter_congr fun p hp ↦ ?_
    exact p.isKept_inFiles (List.mem_filter.mp hp).2 files

/-- A class in a header with a method defined in the file that includes it, and a class template in
a header with a specialization in that file. -/
def splitOverFiles : TranslationUnit :=
  let int : TypeRef := .node .none (.builtin ⟨.integer .signed, 32, "int"⟩)
  ⟨"a.cpp", [
    .record (.newIn "a.hpp" 1 "S") .ofStruct true [
      .typed (.newIn "a.cpp" 2 "S::f") (.function true) int],
    .template (.newIn "a.hpp" 3 "B") .ofClass (.record (.newIn "a.hpp" 4 "B") .ofStruct true []) [
      .record (.newIn "a.cpp" 5 "B<int>") .ofStruct true []]]⟩

/-- Two declarations lie in `a.cpp`, and a filter for this file loses both, because of what is
around them. -/
theorem inFiles_loses_split :
    (((splitOverFiles.build .all .standard .empty).module.definitions.filter
        (·.liesIn ["a.cpp"])).map (·.head.qualifiedName) = ["S::f", "B<int>"]) ∧
      (splitOverFiles.build (.inFiles ["a.cpp"]) .standard .empty).module.definitions = [] :=
  ⟨rfl, rfl⟩

end TranslationUnit

end Reify
