import Reify.Proofs.Walk.Enclosing
import Reify.Proofs.Walk.Patterns
import Reify.Translation

/-!
# Which specifications are collected

A translation collects the annotations of all declarations that its walk comes by, in the order of
the source, be they entries of the module or not.  Where the walk comes by is decided for each site
of the unit on its own: nothing there or around it may be rejected, and the way to it may take no
turn but what the options allow (`TranslationUnit.visits_eq_allSites`).

Whether the declarations have terms is of no account.  With other types and other mangled names,
which the terms depend on, the walk takes the same ways and finds the same specifications, although
one unit may be translated and the other not.
-/

namespace Reify

/-! ## Sites that a walk comes by -/

/-- Whether a walk comes by a site. -/
def Site.isVisited (keep : Filter) (o : Options) (p : Site) : Bool :=
  p.isKept keep && p.path.all o.allows

namespace TranslationUnit

/-- Every declaration of a unit, at whatever depth, each before what it holds, and the pattern of a
template before its specializations. -/
def allSites (u : TranslationUnit) : List Site := u.sites .everywhere

/-- A walk visits the sites that the filter and the options let it come by. -/
theorem visits_eq_allSites (u : TranslationUnit) (keep : Filter) (o : Options) :
    u.visits keep o = (u.allSites.filter (·.isVisited keep o)).map Site.toVisit := by
  have swap (p : Site) : p.isVisited keep o = (p.path.all o.allows && p.isKept keep) :=
    Bool.and_comm _ _
  rw [← allowed_visits, visits_eq_sites, Visit.allowed, List.filter_map, List.filter_filter,
    allSites, funext swap]
  rfl

end TranslationUnit

/-! ## Other types, and other mangled names -/

section Recast

variable (name : Option String → Option String) (type : TypeRef → TypeRef)

mutual

/-- The same declaration, with other mangled names and other types all through it. -/
def Decl.recast : Decl → Decl
  | .group h kind decls => .group { h with mangled := name h.mangled } kind (Decl.recastAll decls)
  | .record h tag isDefinition members =>
    .record { h with mangled := name h.mangled } tag isDefinition (Decl.recastAll members)
  | .typed h entity t => .typed { h with mangled := name h.mangled } entity (type t)
  | .template h kind pattern specializations =>
    .template { h with mangled := name h.mangled } kind pattern.recast
      (Decl.recastAll specializations)
  | .staticAssert h a => .staticAssert { h with mangled := name h.mangled } a

/-- The same declarations in a row, with other mangled names and other types. -/
def Decl.recastAll : List Decl → List Decl
  | [] => []
  | d :: ds => d.recast :: Decl.recastAll ds

end

/-- The same unit, with other mangled names and other types. -/
def TranslationUnit.recast (u : TranslationUnit) : TranslationUnit :=
  { u with decls := Decl.recastAll name type u.decls }

theorem Decl.ofDecl?_recast (d : Decl) : Spec.ofDecl? (d.recast name type) = Spec.ofDecl? d := by
  cases d <;> rfl

/-- A filter by files, or none, looks neither at names nor at types. -/
theorem Filter.ofFiles?_recast (only : Option (List String)) (d : Decl) :
    ofFiles? only (d.recast name type) = ofFiles? only d := by
  cases only <;> cases d <;> rfl

variable {keep : Filter} (o : Options)

mutual

/-- A walk takes the same ways through recast declarations, if the filter judges them alike. -/
theorem Decl.visits_recast (h : ∀ d : Decl, keep (d.recast name type) = keep d) (d : Decl)
    (path : List Turn) :
    (d.recast name type).visits keep o path =
      (d.visits keep o path).map fun v ↦ ⟨v.path, v.decl.recast name type⟩ := by
  rw [Decl.visits.eq_def, Decl.visits.eq_def keep o path d, h]
  split
  · rw [List.map_cons]
    congr 1
    cases d with
    | group head kind decls => exact Decl.visitsAll_recast h decls _
    | record head tag isDefinition members => exact Decl.visitsAll_recast h members _
    | typed head entity t => rfl
    | template head kind pattern specializations =>
      have inner := Decl.visits_recast h pattern (.pattern :: path)
      have others := Decl.visitsAll_recast h specializations (.specialization :: path)
      refine .trans (congrArg₂ (· ++ ·) ?_ ?_) List.map_append.symm
      · split
        · exact inner
        · rfl
      · split
        · exact others
        · rfl
    | staticAssert head a => rfl
  · rfl

theorem Decl.visitsAll_recast (h : ∀ d : Decl, keep (d.recast name type) = keep d)
    (ds : List Decl) (path : List Turn) :
    Decl.visitsAll keep o path (Decl.recastAll name type ds) =
      (Decl.visitsAll keep o path ds).map fun v ↦ ⟨v.path, v.decl.recast name type⟩ := by
  cases ds with
  | nil => rfl
  | cons d ds =>
    rw [Decl.recastAll, Decl.visitsAll, Decl.visitsAll, List.map_append,
      Decl.visits_recast h d path, Decl.visitsAll_recast h ds path]

end

end Recast

namespace TranslationUnit

/-- A recast unit has the same specifications where a walk visits it. -/
theorem specs_visits_recast {name : Option String → Option String} {type : TypeRef → TypeRef}
    {keep : Filter} (h : ∀ d : Decl, keep (d.recast name type) = keep d) (u : TranslationUnit)
    (o : Options) :
    ((u.recast name type).visits keep o).filterMap Visit.spec? =
      (u.visits keep o).filterMap Visit.spec? := by
  have walked : (u.recast name type).visits keep o = _ :=
    Decl.visitsAll_recast name type o h u.decls []
  rw [walked, List.filterMap_map]
  exact congrArg (List.filterMap · _) (funext fun v ↦ v.decl.ofDecl?_recast name type)

/-- Specifications are collected completely, whatever comes of the translation.  The declarations
that a walk visits are those of the unit where nothing at the site or around it is rejected and
whose way takes only turns that the options allow.  To the specifications collected before, a
translation adds one for each of them that carries an annotation, of whatever kind it is, in the
order of the source: its number, its qualified name, and the annotation as it stands.  Other types
and other mangled names make no difference, if the filter does not look at them, and none of the
filters by files does. -/
theorem translate_collects_visited (u : TranslationUnit) (keep : Filter) (o : Options)
    (specs : List Spec) :
    let visited := u.allSites.filter (·.isVisited keep o)
    u.visits keep o = visited.map Site.toVisit ∧
      (u.translate keep o specs).specs = specs ++ visited.filterMap (fun p ↦
        p.decl.head.annotation.map fun text ↦
          ⟨p.decl.head.id, p.decl.head.qualifiedName, text⟩) ∧
      ∀ (name : Option String → Option String) (type : TypeRef → TypeRef),
        ((∀ d : Decl, keep (d.recast name type) = keep d) →
          ((u.recast name type).translate keep o specs).specs =
            (u.translate keep o specs).specs) ∧
        ∀ (only : Option (List String)) (d : Decl),
          Filter.ofFiles? only (d.recast name type) = Filter.ofFiles? only d := by
  intro visited
  have collected (u : TranslationUnit) :
      (u.translate keep o specs).specs = specs ++ (u.visits keep o).filterMap Visit.spec? :=
    u.specs_build keep o { Build.empty with specs := specs }
  refine ⟨u.visits_eq_allSites keep o, ?_, fun name type ↦ ⟨fun h ↦ ?_, ?_⟩⟩
  · rw [collected, visits_eq_allSites, List.filterMap_map]
    rfl
  · rw [collected, collected, u.specs_visits_recast h]
  · exact Filter.ofFiles?_recast name type

/-- A namespace with a template and a variable of unknown type, all of them annotated. -/
def annotatedUnknown : TranslationUnit :=
  let head (id : UInt32) (name text : String) : Decl.Head :=
    { Decl.Head.new id name with annotation := some text }
  ⟨"a.cpp", [.group (head 1 "ns" "pure") .named [
    .template (head 2 "ns::S" "inv") .ofClass (.record (head 3 "ns::S" "none") .ofStruct true [])
      [.record (head 4 "ns::S<int>" "some") .ofStruct true []],
    .typed (head 5 "ns::x" " x > 0 ") (.object true) (.null .none)]]⟩

/-- The pattern is not walked, and so its annotation is not collected. With the type of the variable
known, the unit can be translated, and the same annotations are collected. -/
theorem translate_collects_visited_unknown :
    let known := annotatedUnknown.recast id fun _ ↦ .node .none (.builtin .bool)
    (∀ d : Decl, Filter.all (d.recast id fun _ ↦ .node .none (.builtin .bool)) = Filter.all d) ∧
      (∃ e, (annotatedUnknown.translate .all .standard []).output.result = .error e) ∧
      (∃ text, (known.translate .all .standard []).output.result = .ok text) ∧
      (known.translate .all .standard []).specs =
        (annotatedUnknown.translate .all .standard []).specs ∧
      (annotatedUnknown.translate .all .standard []).specs =
        [⟨1, "ns", "pure"⟩, ⟨2, "ns::S", "inv"⟩, ⟨4, "ns::S<int>", "some"⟩,
          ⟨5, "ns::x", " x > 0 "⟩] := by
  intro known
  obtain ⟨-, collected, recast⟩ := annotatedUnknown.translate_collects_visited .all .standard []
  obtain ⟨same, blind⟩ := recast id fun _ ↦ .node .none (.builtin .bool)
  exact ⟨blind none, ⟨_, rfl⟩, ⟨_, rfl⟩, same (blind none), collected⟩

end TranslationUnit

end Reify
