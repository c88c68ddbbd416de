import Reify.Proofs.Printer.Balance
import Reify.Proofs.TypeRef.Faults
import Reify.Proofs.Walk.Visits
import Reify.Translation

/-!
# When a translation succeeds

The faults of an entry are those of its name and of its type.  A module made of entries is written
exactly if none of them is at fault, and otherwise fails with the first fault in the order of
writing.  The walk puts nothing but entries into the four sequences, and just those that it visits;
so the visits decide whether a translation succeeds, and neither the guard against misplaced
declarations nor that against open brackets is ever needed.
-/

namespace Reify

namespace Logged

variable {ε α : Type}

/-- Failures stay in their places when they are described in other terms. -/
theorem StopsAt.mapError {δ : Type} {x : Logged ε α} {es : List ε} (hx : x.StopsAt es)
    (g : ε → δ) : (x.mapError g).StopsAt (es.map g) := by
  cases es with
  | nil =>
    obtain ⟨a, ha⟩ := hx
    refine ⟨a, ?_⟩
    rw [Logged.mapError, ha]
    rfl
  | cons e es =>
    show (x.mapError g).result = .error (g e)
    rw [Logged.mapError, show x.result = .error e from hx]
    rfl

/-- Where a run stops is a matter of its result alone. -/
theorem StopsAt.of_result_eq {x y : Logged ε α} {es : List ε} (hx : x.StopsAt es)
    (h : x.result = y.result) : y.StopsAt es := by
  cases es with
  | nil =>
    obtain ⟨a, ha⟩ := hx
    exact ⟨a, h ▸ ha⟩
  | cons e es => exact h.symm.trans hx

theorem StopsAt.exists_ok_iff {x : Logged ε α} {es : List ε} (hx : x.StopsAt es) :
    (∃ a, x.result = .ok a) ↔ es = [] := by
  cases es with
  | nil => exact ⟨fun _ ↦ rfl, fun _ ↦ hx⟩
  | cons e es =>
    have failed : x.result = .error e := hx
    simp [failed]

theorem StopsAt.mem_of_error {x : Logged ε α} {es : List ε} (hx : x.StopsAt es) {e : ε}
    (h : x.result = .error e) : e ∈ es := by
  cases es with
  | nil =>
    obtain ⟨a, ha⟩ := hx
    rw [ha] at h
    cases h
  | cons e' es =>
    have failed : x.result = .error e' := hx
    rw [failed] at h
    cases h
    exact List.mem_cons_self

end Logged

/-! ## The faults of an entry -/

/-- The type of a declaration that has one. -/
def Decl.type? : Decl → Option TypeRef
  | .typed _ _ type => some type
  | .group _ _ _ | .record _ _ _ _ | .template _ _ _ _ | .staticAssert _ _ => none

/-- The faults of a declaration, that of its name before those of its type. -/
def Decl.faults (d : Decl) : List Fault := d.ref.faults ++ d.type?.toList.flatMap TypeRef.faults

/-- A declaration has a name to go by: a mangled one, or else a qualified name that is not empty. -/
def Decl.IsNamed (d : Decl) : Prop := d.head.mangled ≠ none ∨ d.head.qualifiedName ≠ ""

theorem Decl.faults_ref_eq_nil_iff (d : Decl) : d.ref.faults = [] ↔ d.IsNamed := by
  rw [DeclRef.faults, IsNamed, ite_eq_right_iff]
  show (d.head.mangled = none ∧ d.head.qualifiedName = "" → [Fault.nameless d.ref.id] = []) ↔ _
  simp only [List.cons_ne_nil, imp_false, Classical.not_and_iff_not_or_not, ne_eq]

theorem TypeRef.faults_eq_nil_iff (type : TypeRef) :
    type.faults = [] ↔ ∃ t, type.lower.result = .ok t :=
  type.stopsAt_lower.exists_ok_iff.symm

/-- A declaration is without fault exactly if it has a name, and a type with a term if it has a type
at all. -/
theorem Decl.faults_eq_nil_iff (d : Decl) :
    d.faults = [] ↔ d.IsNamed ∧ ∀ type ∈ d.type?, ∃ t, type.lower.result = .ok t := by
  rw [faults, List.append_eq_nil_iff, d.faults_ref_eq_nil_iff, List.flatMap_eq_nil_iff]
  simp only [Option.mem_toList, Option.mem_def, TypeRef.faults_eq_nil_iff]

/-! ## Entries are written up to the first fault -/

/-- The term of an entry stops at its first fault. -/
theorem Decl.stopsAt_term {d : Decl} (h : d.isEntry) :
    d.term.StopsAt (d.faults.map Fault.error) := by
  have name := d.ref.stopsAt_lower.mapError Fault.error
  cases d with
  | record head tag isDefinition members =>
    rw [faults, type?, Option.toList_none, List.flatMap_nil, List.append_nil]
    exact name.bind_pure _
  | typed head entity type =>
    rw [faults, type?, Option.toList_some, List.flatMap_singleton, List.map_append]
    exact name.bind fun _ _ ↦ (type.stopsAt_lower.mapError Fault.error).bind_pure _
  | group head kind decls => cases h
  | template head kind pattern specializations => cases h
  | staticAssert head a => cases h

/-- Declarations in a row stop at the first failure of all of them. -/
theorem Decl.stopsAt_terms {failures : Decl → List Error} {ds : List Decl}
    (h : ∀ d ∈ ds, d.term.StopsAt (failures d)) :
    (Decl.terms ds).StopsAt (ds.flatMap failures) := by
  induction ds with
  | nil => exact Logged.stopsAt_pure []
  | cons d ds ih =>
    obtain ⟨first, others⟩ := List.forall_mem_cons.mp h
    rw [List.flatMap_cons]
    exact first.bind fun _ _ ↦ (ih others).bind_pure _

namespace Module

theorem mem_entries {m : Module} {d : Decl} : d ∈ m.entries ↔ ∃ b, d ∈ m.bucket b := by
  rw [entries]
  simp only [List.mem_append]
  constructor
  · rintro (((h | h) | h) | h)
    · exact ⟨.declaration, h⟩
    · exact ⟨.definition, h⟩
    · exact ⟨.templateDeclaration, h⟩
    · exact ⟨.templateDefinition, h⟩
  · rintro ⟨b, h⟩
    cases b with
    | declaration => exact .inl (.inl (.inl h))
    | definition => exact .inl (.inl (.inr h))
    | templateDeclaration => exact .inl (.inr h)
    | templateDefinition => exact .inr h

/-- A module is written up to the first failure in the order of writing. -/
theorem stopsAt_print_of_terms {m : Module} {failures : Decl → List Error}
    (h : ∀ d ∈ m.entries, d.term.StopsAt (failures d)) (unit : String) :
    (m.print unit).StopsAt (m.entries.flatMap failures) := by
  have sequence (b : Bucket) : (Decl.terms (m.bucket b)).StopsAt ((m.bucket b).flatMap failures) :=
    Decl.stopsAt_terms fun d hd ↦ h d (mem_entries.mpr ⟨b, hd⟩)
  have sections : m.sections.StopsAt (m.entries.flatMap failures) := by
    rw [entries]
    simp only [List.flatMap_append, List.append_assoc]
    refine (sequence .declaration).bind fun _ _ ↦ ?_
    refine (sequence .definition).bind fun _ _ ↦ ?_
    refine (sequence .templateDeclaration).bind fun _ _ ↦ ?_
    exact (sequence .templateDefinition).bind_pure _
  rw [print_eq_bind]
  exact sections.bind_pure _

/-- A module of entries is written up to the first fault in the order of writing. -/
theorem stopsAt_print {m : Module} (h : ∀ d ∈ m.entries, d.isEntry) (unit : String) :
    (m.print unit).StopsAt ((m.entries.flatMap Decl.faults).map Fault.error) := by
  rw [List.map_flatMap]
  exact stopsAt_print_of_terms (fun d hd ↦ Decl.stopsAt_term (h d hd)) unit

end Module

/-! ## The walk inserts the entries that it visits -/

theorem Visit.exists_decl?_insertion?_iff (v : Visit) (d : Decl) :
    (∃ b, v.insertion?.bind (Insertion.decl? b) = some d) ↔ v.decl.isEntry ∧ v.decl = d := by
  have placed (entry : Decl) :
      (∃ b, (Insertion.ofDecl entry.isDefinition entry v.flags).decl? b = some d) ↔ entry = d := by
    simp only [Insertion.ofDecl, Insertion.decl?]
    constructor
    · rintro ⟨b, hb⟩
      split at hb
      · exact Option.some.inj hb
      · cases hb
    · rintro rfl
      exact ⟨_, if_pos rfl⟩
  obtain ⟨path, entry⟩ := v
  cases entry with
  | record head tag isDefinition members =>
    exact (placed _).trans ⟨fun same ↦ ⟨rfl, same⟩, And.right⟩
  | typed head entity type => exact (placed _).trans ⟨fun same ↦ ⟨rfl, same⟩, And.right⟩
  | group head kind decls => simp [insertion?, Decl.isEntry]
  | template head kind pattern specializations => simp [insertion?, Decl.isEntry]
  | staticAssert head a => simp [insertion?, Decl.isEntry, Insertion.decl?]

/-- What is written after a walk is what was there before and the entries among the visits. -/
theorem TranslationUnit.mem_entries_build (u : TranslationUnit) (keep : Filter) (o : Options)
    (b : Build) (d : Decl) :
    d ∈ (u.build keep o b).module.entries ↔
      d ∈ b.module.entries ∨ ∃ v ∈ u.visits keep o, v.decl.isEntry ∧ v.decl = d := by
  simp only [Module.mem_entries, u.module_build, Module.bucket_foldl_insert,
    List.filterMap_filterMap, List.mem_append, List.mem_filterMap, exists_or,
    ← Visit.exists_decl?_insertion?_iff]
  constructor
  · rintro (h | ⟨b, v, hv, h⟩)
    · exact .inl h
    · exact .inr ⟨v, hv, b, h⟩
  · rintro (h | ⟨v, hv, b, h⟩)
    · exact .inl h
    · exact .inr ⟨b, v, hv, h⟩

/-! ## Failures that never arise -/

/-- No fault reads like a declaration that is out of place. -/
theorem Fault.error_ne_misplaced (fault : Fault) (d : Decl) : fault.error ≠ d.misplaced := by
  intro h
  cases fault with
  | nameless id =>
    injection h with _ message
    have last := congrArg (fun s ↦ s.toList.getLast?) message
    simp [List.getLast?_cons, List.getLast?_append] at last
  | _ => injection h with construct _; simp at construct

/-- What decides whether a translation succeeds.  It has a text exactly if every record,
enumeration, type definition, function and variable that the walk visits has a name and, but for
records, a type with a term; nothing else that is visited can make it fail.  Every failure is that
of a construct that is not supported, and never that of a declaration out of place. -/
theorem TranslationUnit.translate_succeeds_iff (u : TranslationUnit) (keep : Filter) (o : Options)
    (specs : List Spec) :
    ((∃ text, (u.translate keep o specs).output.result = .ok text) ↔
      ∀ v ∈ u.visits keep o, v.decl.isEntry →
        v.decl.IsNamed ∧ ∀ type ∈ v.decl.type?, ∃ t, type.lower.result = .ok t) ∧
    ∀ e, (u.translate keep o specs).output.result = .error e →
      e.isUnsupported ∧ ∀ d : Decl, e ≠ d.misplaced := by
  have entries (d : Decl) :
      d ∈ (u.build keep o { Build.empty with specs := specs }).module.entries ↔
        ∃ v ∈ u.visits keep o, v.decl.isEntry ∧ v.decl = d := by
    rw [u.mem_entries_build]
    exact or_iff_right List.not_mem_nil
  have stops : (u.translate keep o specs).output.StopsAt
      (((u.build keep o { Build.empty with specs := specs }).module.entries.flatMap
        Decl.faults).map Fault.error) := by
    have printed := Module.stopsAt_print
      (m := (u.build keep o { Build.empty with specs := specs }).module) ?_ u.filename
    · exact printed.of_result_eq rfl
    · intro d hd
      obtain ⟨v, _, entry, rfl⟩ := (entries d).mp hd
      exact entry
  constructor
  · rw [stops.exists_ok_iff, List.map_eq_nil_iff, List.flatMap_eq_nil_iff]
    constructor
    · intro h v hv entry
      apply v.decl.faults_eq_nil_iff.mp
      exact h v.decl ((entries v.decl).mpr ⟨v, hv, entry, rfl⟩)
    · intro h d hd
      obtain ⟨v, hv, entry, rfl⟩ := (entries d).mp hd
      exact v.decl.faults_eq_nil_iff.mpr (h v hv entry)
  · intro e he
    obtain ⟨fault, _, rfl⟩ := List.mem_map.mp (stops.mem_of_error he)
    exact ⟨fault.isUnsupported_error, fault.error_ne_misplaced⟩

end Reify
