import Reify.Proofs.Module.Outcome
import Reify.Proofs.TypeRef.Elements

/-!
# The names in a translation

Some constructors of the term language take the name of a declaration as their first argument.  The
names that a translation writes there are the global names of the declarations that it looks at: of
each entry, and of each declaration that the type of an entry refers to, at any depth.

A global name is not empty, unless it is a mangled name that is.  A declaration without a mangled
name falls back on its qualified name, and is refused if that is empty; a mangled name is taken as
it stands.  So empty mangled names are the only source of empty names in a translation.
-/

namespace Reify

/-! ## Names in terms -/

namespace Term

/-- The constructors whose first argument is the name of a declaration. -/
def naming : List String :=
  ["Dstruct", "Dclass", "Dunion", "Denum", "Dtypedef", "Dfunction", "Dvariable",
    "Tnamed", "@Talias", "Tmember_pointer"]

mutual

/-- The first arguments of the constructors that take the name of a declaration, at any depth of a
term. A constructor that lacks its arguments counts with `none`. -/
def identifiers : Term → List (Option Term)
  | .ctor name args => (if name ∈ naming then [args.head?] else []) ++ identifiersAll args
  | .list items => identifiersAll items
  | .record fields => identifiersFields fields
  | .str _ | .int _ | .bool _ | .token _ => []

/-- The first arguments of these constructors in a list of terms. -/
def identifiersAll : List Term → List (Option Term)
  | [] => []
  | t :: ts => t.identifiers ++ identifiersAll ts

/-- The first arguments of these constructors in the fields of a record. -/
def identifiersFields : List (String × Term) → List (Option Term)
  | [] => []
  | (_, t) :: fields => t.identifiers ++ identifiersFields fields

end

theorem identifiersAll_eq_flatMap (ts : List Term) :
    identifiersAll ts = ts.flatMap identifiers := by
  induction ts with
  | nil => rfl
  | cons t ts ih => rw [identifiersAll, ih, List.flatMap_cons]

/-- A constructor that takes no name has those in its arguments. -/
theorem identifiers_ctor {name : String} (h : name ∉ naming) (args : List Term) :
    (ctor name args).identifiers = args.flatMap identifiers := by
  rw [identifiers, if_neg h, List.nil_append, identifiersAll_eq_flatMap]

/-- A constructor that takes a name has that, and those in its other arguments. -/
theorem identifiers_naming {name : String} (h : name ∈ naming) (s : String) (args : List Term) :
    (ctor name (.str s :: args)).identifiers = some (.str s) :: args.flatMap identifiers := by
  rw [identifiers, if_pos h, identifiersAll, identifiers, identifiersAll_eq_flatMap]
  rfl

end Term

/-! ## Declarations that are named -/

/-- What a reference is named by, where it stands in a term. -/
def DeclRef.identifier (r : DeclRef) : Option Term := r.globalName?.map .str

/-- The only empty global name is an empty mangled name. -/
theorem DeclRef.identifier_eq_empty_iff (r : DeclRef) :
    r.identifier = some (.str "") ↔ r.mangled = some "" := by
  rw [identifier, globalName?]
  cases r.mangled with
  | some name => simp
  | none =>
    -- An empty qualified name is no name, and any other is not empty.
    by_cases h : r.qualifiedName = "" <;> simp [h]

theorem DeclRef.exists_identifier {r : DeclRef} (h : r.faults = []) :
    ∃ name, r.identifier = some (.str name) := by
  rw [identifier, globalName?]
  cases hm : r.mangled with
  | some name => exact ⟨name, rfl⟩
  | none =>
    have named : r.qualifiedName ≠ "" := fun empty ↦ by simp [faults, hm, empty] at h
    exact ⟨r.qualifiedName, by simp [named]⟩

namespace Element

/-- The declaration that an element refers to. -/
def declaration? : Element → Option DeclRef
  | .declaration r => some r
  | .null | .node _ | .convention _ => none

/-- What the declarations among some elements are named by. -/
def identifiers (es : List Element) : List (Option Term) :=
  (es.filterMap declaration?).map DeclRef.identifier

@[simp] theorem identifiers_nil : identifiers [] = [] := rfl

@[simp] theorem identifiers_append (es es' : List Element) :
    identifiers (es ++ es') = identifiers es ++ identifiers es' := by
  rw [identifiers, List.filterMap_append, List.map_append]
  rfl

@[simp] theorem identifiers_node (type : TypeNode) (es : List Element) :
    identifiers (.node type :: es) = identifiers es := rfl

@[simp] theorem identifiers_convention (cc : CallingConv) (es : List Element) :
    identifiers (.convention cc :: es) = identifiers es := rfl

@[simp] theorem identifiers_declaration (r : DeclRef) (es : List Element) :
    identifiers (.declaration r :: es) = r.identifier :: identifiers es := rfl

end Element

/-! ## The names that lowering writes -/

/-- A term names the declarations among some elements, each as often as it occurs there. -/
def Term.Names (es : List Element) (t : Term) : Prop := t.identifiers.Perm (Element.identifiers es)

theorem DeclRef.lower_yields_identifier (r : DeclRef) :
    r.lower.Yields fun t ↦ ∃ name, t = .str name ∧ r.identifier = some (.str name) := by
  rw [lower, identifier]
  cases r.globalName? with
  | some name => exact .pure ⟨name, rfl, rfl⟩
  | none => exact .fail _ _

theorem CallingConv.lower_yields_nameless (cc : CallingConv) :
    cc.lower.Yields fun t ↦ t.identifiers = [] := by
  rw [lower]
  cases cc.token? with
  | some token => exact .pure rfl
  | none => exact .fail _ _

theorem Builtin.lower_yields_nameless (b : Builtin) :
    b.lower.Yields fun t ↦ t.identifiers = [] := by
  have integer (sign : Signedness) : (integerTerm b.bits sign).identifiers = [] := by
    rw [integerTerm]
    split
    · rfl
    · rw [Term.identifiers_ctor (by decide)]
      rfl
  rw [lower]
  cases b.kind with
  | void | bool | nullPtr => exact .pure rfl
  | integer sign => exact .pure (integer sign)
  | character sign => exact .pure (Term.identifiers_ctor (by decide) _)
  | floating => exact .pure (Term.identifiers_ctor (by decide) _)
  | sizeless => exact .pure (Term.identifiers_ctor (by decide) _)
  | placeholder kind => exact .fail _ _

/-- A constructor around one term, and no name, names what that term names. -/
theorem Term.Names.ctor {name : String} (h : name ∉ naming) {es : List Element} {t : Term}
    (ht : t.Names es) : (Term.ctor name [t]).Names es := by
  rw [Names, identifiers_ctor h, List.flatMap_singleton]
  exact ht

/-- A constructor with a name and one more term names that and what the term names. -/
theorem Term.Names.naming {name : String} (h : name ∈ naming) {r : DeclRef} {s : String}
    (hr : r.identifier = some (.str s)) {es : List Element} {t : Term} (ht : t.Names es) :
    (Term.ctor name [.str s, t]).Names (.declaration r :: es) := by
  rw [Names, identifiers_naming h, List.flatMap_singleton, Element.identifiers_declaration, hr]
  exact ht.cons _

/-- A constructor with a name alone names just that. -/
theorem Term.names_naming {name : String} (h : name ∈ naming) {r : DeclRef} {s : String}
    (hr : r.identifier = some (.str s)) : (Term.ctor name [.str s]).Names [.declaration r] := by
  rw [Names, identifiers_naming h, Element.identifiers_declaration, hr]
  exact .refl _

theorem Qualifiers.names_wrap (q : Qualifiers) {es : List Element} {t : Term} (ht : t.Names es) :
    (q.wrap t).Names es := by
  obtain ⟨isConst, isVolatile⟩ := q
  cases isConst with
  | false =>
    cases isVolatile with
    | false => exact ht
    | true => exact ht.ctor (by decide)
  | true => cases isVolatile <;> exact ht.ctor (by decide)

theorem names_constPointer {es : List Element} {t : Term} (ht : t.Names es) :
    (constPointer t).Names es :=
  (ht.ctor (by decide)).ctor (by decide)

mutual

/-- The term of a reference names the declarations that lowering looks at. -/
theorem TypeRef.lower_yields_names (type : TypeRef) :
    type.lower.Yields (Term.Names type.elements) := by
  cases type with
  | null q => exact .fail _ _
  | node q type => exact type.lower_yields_names.bind fun t ht ↦ .pure (q.names_wrap ht)

/-- The term of a node names the declarations that lowering looks at. -/
theorem TypeNode.lower_yields_names (type : TypeNode) :
    type.lower.Yields (Term.Names type.elements) := by
  cases type with
  | builtin b =>
    intro t result
    have nameless : t.identifiers = [] := b.lower_yields_nameless t result
    rw [Term.Names, nameless]
    exact .refl _
  | indirect kind pointee =>
    have name : kind.ctor ∉ Term.naming := by cases kind <;> decide
    exact pointee.lower_yields_names.bind fun t ht ↦ .pure (ht.ctor name)
  | memberPointer owner pointee =>
    refine owner.lower_yields_identifier.bind ?_
    rintro _ ⟨name, rfl, hr⟩
    exact pointee.lower_yields_names.bind fun t ht ↦ .pure (ht.naming (by decide) hr)
  | record decl =>
    refine decl.lower_yields_identifier.bind ?_
    rintro _ ⟨name, rfl, hr⟩
    exact .pure (Term.names_naming (by decide) hr)
  | «alias» kind decl target =>
    refine decl.lower_yields_identifier.bind ?_
    rintro _ ⟨name, rfl, hr⟩
    exact target.lower_yields_names.bind fun t ht ↦ .pure (ht.naming (by decide) hr)
  | injectedClassName decl specialization =>
    cases decl with
    | some decl =>
      refine decl.lower_yields_identifier.bind ?_
      rintro _ ⟨name, rfl, hr⟩
      exact .pure (Term.names_naming (by decide) hr)
    | none => exact (Logged.Yields.record _ _).bind fun _ _ ↦ specialization.lower_yields_names
  | sugar kind inner => exact inner.lower_yields_names
  | deduced type =>
    cases type with
    | null q => exact .fail _ _
    | node q node => exact TypeRef.lower_yields_names (.node q node)
  | constantArray element size =>
    refine element.lower_yields_names.bind fun t ht ↦ .pure ?_
    have array : (Term.ctor "Tarray" [t, .int (arrayLength size)]).identifiers = t.identifiers := by
      rw [Term.identifiers_ctor (by decide)]
      exact List.append_nil _
    rw [Term.Names, array]
    exact ht
  | incompleteArray element =>
    exact element.lower_yields_names.bind fun t ht ↦ .pure (names_constPointer ht)
  | decayed original pointee =>
    exact pointee.lower_yields_names.bind fun t ht ↦ .pure (names_constPointer ht)
  | function cc result params =>
    refine cc.lower_yields_nameless.bind fun token hc ↦ ?_
    refine (TypeRef.lowerAll_yields_names params).bind fun ts hts ↦ ?_
    refine result.lower_yields_names.bind fun t ht ↦ .pure ?_
    have parts : (Term.ctor "@Tfunction" [token, t, .list ts]).identifiers =
        t.identifiers ++ ts.flatMap Term.identifiers := by
      rw [Term.identifiers_ctor (by decide), List.flatMap_cons, hc, List.nil_append,
        List.flatMap_cons, List.flatMap_singleton, Term.identifiers, Term.identifiersAll_eq_flatMap]
    -- The result is written before the parameters, and looked at behind them.
    show (Term.identifiers _).Perm (Element.identifiers (_ ++ _))
    rw [parts, Element.identifiers_append]
    exact List.perm_append_comm.trans (hts.append ht)
  | templateParam name => exact .pure (.refl _)
  | opaqueSpecialization template => exact .fail _ _
  | aliasSpecialization template target => exact target.lower_yields_names
  | unsupported className => exact .fail _ _

/-- The terms of some references name the declarations that lowering looks at. -/
theorem TypeRef.lowerAll_yields_names (types : List TypeRef) :
    (TypeRef.lowerAll types).Yields fun ts ↦
      (ts.flatMap Term.identifiers).Perm (Element.identifiers (TypeRef.elementsAll types)) := by
  cases types with
  | nil => exact .pure (.refl _)
  | cons type types =>
    refine type.lower_yields_names.bind fun t ht ↦ ?_
    refine (TypeRef.lowerAll_yields_names types).bind fun ts hts ↦ .pure ?_
    rw [List.flatMap_cons, TypeRef.elementsAll, Element.identifiers_append]
    exact ht.append hts

end

/-! ## The names in a module -/

/-- The declarations that the term of an entry names: itself, and those that its type refers to. -/
def Decl.references (d : Decl) : List DeclRef :=
  d.ref :: (d.type?.toList.flatMap TypeRef.elements).filterMap Element.declaration?

theorem Decl.term_yields_names (d : Decl) :
    d.term.Yields fun t ↦ t.identifiers.Perm (d.references.map DeclRef.identifier) := by
  refine (d.ref.lower_yields_identifier.mapError Fault.error).bind ?_
  rintro _ ⟨name, rfl, hr⟩
  cases d with
  | record head tag isDefinition members =>
    have ctor : tag.ctor ∈ Term.naming := by cases tag <;> decide
    exact .pure (Term.names_naming ctor hr)
  | typed head entity type =>
    have ctor : entity.ctor ∈ Term.naming := by
      cases entity with
      | _ =>
        rw [Entity.ctor]
        decide
    refine (type.lower_yields_names.mapError Fault.error).bind fun t ht ↦ .pure ?_
    rw [references, type?, Option.toList_some, List.flatMap_singleton]
    exact ht.naming ctor hr
  | group head kind decls => exact .fail _ _
  | template head kind pattern specializations => exact .fail _ _
  | staticAssert head a => exact .fail _ _

theorem Decl.terms_yields_names (ds : List Decl) :
    (Decl.terms ds).Yields fun ts ↦
      (ts.flatMap Term.identifiers).Perm ((ds.flatMap references).map DeclRef.identifier) := by
  induction ds with
  | nil => exact .pure (.refl _)
  | cons d ds ih =>
    refine d.term_yields_names.bind fun t ht ↦ ih.bind fun ts hts ↦ .pure ?_
    rw [List.flatMap_cons, List.flatMap_cons, List.map_append]
    exact ht.append hts

/-- Everything that a declaration with a term refers to has a name. -/
theorem Decl.exists_identifier_of_mem_references {d : Decl} {t : Term}
    (h : d.term.result = .ok t) {r : DeclRef} (hr : r ∈ d.references) :
    ∃ name, r.identifier = some (.str name) := by
  have failures : d.failures = [] := d.stopsAt_failures.exists_ok_iff.mp ⟨t, h⟩
  have faults : d.faults = [] := List.map_eq_nil_iff.mp (List.append_eq_nil_iff.mp failures).1
  obtain ⟨name, types⟩ := List.append_eq_nil_iff.mp faults
  rcases List.mem_cons.mp hr with rfl | hr
  · exact DeclRef.exists_identifier name
  · obtain ⟨e, he, found⟩ := List.mem_filterMap.mp hr
    obtain ⟨type, htype, he⟩ := List.mem_flatMap.mp he
    obtain ⟨t, lowered⟩ := type.faults_eq_nil_iff.mp (List.flatMap_eq_nil_iff.mp types type htype)
    have clean : e.faults = [] := type.follows_lower.clean lowered e he
    cases e with
    | declaration r' =>
      cases found
      exact DeclRef.exists_identifier clean
    | null | node type | convention cc => cases found

namespace Module

/-- The names in the sections of a module are those of the declarations that its entries refer
to. -/
theorem identifiers_sections {m : Module} {sections : List Section}
    (h : m.sections.result = .ok sections) :
    (sections.flatMap fun s ↦ s.terms.flatMap Term.identifiers).Perm
      ((m.entries.flatMap Decl.references).map DeclRef.identifier) := by
  obtain ⟨ds, es, tds, tes, hd, he, htd, hte, rfl⟩ := sections_eq_ok_iff.mp h
  have asserts : (m.asserts.map StaticAssert.term).flatMap Term.identifiers = [] :=
    List.flatMap_eq_nil_iff.mpr fun _ ht ↦ by
      obtain ⟨a, -, rfl⟩ := List.mem_map.mp ht
      exact Term.identifiers_ctor (by decide) _
  have declarations := Decl.terms_yields_names m.declarations ds hd
  have definitions := Decl.terms_yields_names m.definitions es he
  have templateDeclarations := Decl.terms_yields_names m.templateDeclarations tds htd
  have templateDefinitions := Decl.terms_yields_names m.templateDefinitions tes hte
  simp only [List.flatMap_cons, List.flatMap_nil, asserts, List.append_nil, entries,
    List.flatMap_append, List.map_append, List.append_assoc]
  exact declarations.append (definitions.append (templateDeclarations.append templateDefinitions))

end Module

namespace TranslationUnit

/-- The names in a translation are those of the declarations that the visited entries refer to. -/
theorem mem_identifiers_iff (u : TranslationUnit) (keep : Filter) (o : Options)
    {sections : List Section} (h : (u.build keep o .empty).module.sections.result = .ok sections)
    (n : Option Term) :
    (∃ s ∈ sections, ∃ t ∈ s.terms, n ∈ t.identifiers) ↔
      ∃ v ∈ u.visits keep o, v.decl.isEntry ∧ ∃ r ∈ v.decl.references, r.identifier = n := by
  have same := (Module.identifiers_sections h).mem_iff (a := n)
  simp only [List.mem_flatMap, List.mem_map, u.mem_entries_build] at same
  rw [same]
  constructor
  · rintro ⟨r, ⟨d, none | ⟨v, hv, entry, rfl⟩, hr⟩, named⟩
    · exact absurd none List.not_mem_nil
    · exact ⟨v, hv, entry, r, hr, named⟩
  · rintro ⟨v, hv, entry, r, hr, named⟩
    exact ⟨r, ⟨v.decl, .inr ⟨v, hv, entry, rfl⟩, hr⟩, named⟩

/-- Which translations write an empty name.  All that stands in the place of a name is a string.  It
is never empty exactly if none of the declarations referred to has a mangled name that is empty, be
it a record, enumeration, type definition, function or variable that the walk visits, or something
that the type of one of these refers to, at any depth. -/
theorem translate_names_all_iff (u : TranslationUnit) (keep : Filter) (o : Options)
    (specs : List Spec) {text : String} (h : (u.translate keep o specs).output.result = .ok text) :
    ∃ sections, (u.build keep o .empty).module.sections.result = .ok sections ∧
      text = Module.heading u.filename ++ String.join (sections.map Section.text) ∧
      (∀ s ∈ sections, ∀ t ∈ s.terms, ∀ n ∈ t.identifiers, ∃ name, n = some (.str name)) ∧
      ((∀ s ∈ sections, ∀ t ∈ s.terms, ∀ n ∈ t.identifiers, n ≠ some (.str "")) ↔
        ∀ v ∈ u.visits keep o, v.decl.isEntry →
          ∀ r ∈ v.decl.references, r.mangled ≠ some "") := by
  obtain ⟨sections, hs, written⟩ := Module.print_eq_ok_iff.mp h
  have found (n : Option Term) := u.mem_identifiers_iff keep o hs n
  have terms := (Module.exists_print_iff _ u.filename).mp ⟨text, h⟩
  refine ⟨sections, hs, written, fun s hs t ht n hn ↦ ?_, ?_⟩
  · obtain ⟨v, hv, entry, r, hr, rfl⟩ := (found n).mp ⟨s, hs, t, ht, hn⟩
    have added := (u.mem_entries_build keep o .empty v.decl).mpr (.inr ⟨v, hv, entry, rfl⟩)
    obtain ⟨t, lowered⟩ := terms v.decl added
    exact Decl.exists_identifier_of_mem_references lowered hr
  · constructor
    · intro named v hv entry r hr empty
      obtain ⟨s, hs, t, ht, hn⟩ :=
        (found (some (.str ""))).mpr ⟨v, hv, entry, r, hr, r.identifier_eq_empty_iff.mpr empty⟩
      exact named s hs t ht _ hn rfl
    · rintro mangled s hs t ht _ hn rfl
      obtain ⟨v, hv, entry, r, hr, empty⟩ := (found (some (.str ""))).mp ⟨s, hs, t, ht, hn⟩
      exact mangled v hv entry r hr (r.identifier_eq_empty_iff.mp empty)

/-- A function that takes a pointer to a record, and returns what a member pointer points to. -/
def recordInPointer : TranslationUnit :=
  let record : DeclRef := ⟨1, "ns::S", none⟩
  ⟨"a.cpp", [.group (.new 2 "ns") .named [
    .record (.new 1 "ns::S") .ofStruct true [],
    .typed { Decl.Head.new 3 "ns::f" with mangled := some "_ZN2ns1fEPNS_1SE" } (.function true)
      (.of (.function .c
        (.of (.memberPointer record (.of (.builtin ⟨.bool, 8, "bool"⟩))))
        [.of (.indirect .pointer (.of (.record record)))]))]]⟩

/-- No mangled name is empty here, and so none of the four names is. -/
theorem translate_names_all_iff_pointer :
    ∃ text sections, (recordInPointer.translate .all .standard []).output.result = .ok text ∧
      (recordInPointer.build .all .standard .empty).module.sections.result = .ok sections ∧
      (sections.flatMap fun s ↦ s.terms.flatMap Term.identifiers) =
        ["ns::S", "_ZN2ns1fEPNS_1SE", "ns::S", "ns::S"].map (some ∘ .str) ∧
      ∀ s ∈ sections, ∀ t ∈ s.terms, ∀ n ∈ t.identifiers, n ≠ some (.str "") := by
  obtain ⟨sections, hs, -, -, named⟩ :=
    recordInPointer.translate_names_all_iff .all .standard [] rfl
  refine ⟨_, sections, rfl, hs, ?_, named.mpr ?_⟩
  · cases hs
    rfl
  · decide

/-- A record without any name, whose mangled name is empty, is not refused but written with an empty
name. -/
theorem translate_writes_empty_name :
    let u : TranslationUnit :=
      ⟨"a.cpp", [.record { Decl.Head.new 1 "" with mangled := some "" } .ofStruct true []]⟩
    ∃ text sections, (u.translate .all .standard []).output.result = .ok text ∧
      (u.build .all .standard .empty).module.sections.result = .ok sections ∧
      ∃ s ∈ sections, ∃ t ∈ s.terms, some (.str "") ∈ t.identifiers := by
  intro u
  refine ⟨_, _, rfl, rfl, ⟨"definitions", [.ctor "Dstruct" [.str ""]]⟩, ?_, _, .head [], ?_⟩
  · exact .tail _ (.head _)
  · rw [Term.identifiers_naming (by decide)]
    exact .head _

end TranslationUnit

end Reify
