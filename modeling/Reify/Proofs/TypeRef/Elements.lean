import Reify.Proofs.TypeRef.Faults

/-!
# What lowering looks at, and what it reports

Lowering goes through the elements of a type one after the other: nodes, references to declarations,
calling conventions, and null references where a type is needed.  It leaves aside an array as it was
written before it became a parameter, and the specialization behind a name that has a declaration.

One kind of node is worth a warning, the name of a template inside itself without a declaration of
its own.  A warning is given on the way, and so its place among the elements decides whether it is
given at all: lowering warns of all such nodes up to the first element at fault, and of none behind
it (`Logged.Follows`).
-/

namespace Reify

/-! ## Elements -/

/-- Something that lowering looks at. -/
inductive Element where
  /-- A reference that should name a type, and names none. -/
  | null
  | node (type : TypeNode)
  | declaration (r : DeclRef)
  | convention (cc : CallingConv)

namespace Element

/-- The faults of an element itself. What it is made of are elements of their own. -/
def faults : Element → List Fault
  | .null => [.nullReference]
  | .node (.builtin b) => b.faults
  | .node (.deduced (.null _)) => [.notDeduced]
  | .node (.opaqueSpecialization template) => [.noTerm (.opaqueSpecialization template)]
  | .node (.unsupported className) => [.noTerm (.unsupported className)]
  | .node _ => []
  | .declaration r => r.faults
  | .convention cc => cc.faults

/-- The specialization that an element stands for without a declaration. -/
def undeclared? : Element → Option TypeRef
  | .node (.injectedClassName none specialization) => some specialization
  | _ => none

/-- The warning for a specialization without a declaration. -/
def warning (specialization : TypeRef) : Record :=
  ⟨.warn, "no underlying declaration for injected class name " ++ specialization.display⟩

/-- The warnings that some elements call for. -/
def warnings (es : List Element) : List Record := (es.filterMap undeclared?).map warning

theorem warnings_append (es es' : List Element) :
    warnings (es ++ es') = warnings es ++ warnings es' := by
  rw [warnings, List.filterMap_append, List.map_append]
  rfl

theorem level_of_mem_warnings {es : List Element} {r : Record} (h : r ∈ warnings es) :
    r.level = .warn := by
  obtain ⟨specialization, -, rfl⟩ := List.mem_map.mp h
  rfl

end Element

mutual

/-- The elements of a reference. -/
def TypeRef.elements : TypeRef → List Element
  | .null _ => [.null]
  | .node _ type => type.elements

/-- The elements of a node: itself, then those of its parts, one part after the other. -/
def TypeNode.elements (type : TypeNode) : List Element :=
  .node type :: match type with
    | .builtin _ => []
    | .indirect _ pointee => pointee.elements
    | .memberPointer owner pointee => .declaration owner :: pointee.elements
    | .record decl => [.declaration decl]
    | .alias _ decl target => .declaration decl :: target.elements
    | .injectedClassName (some decl) _ => [.declaration decl]
    | .injectedClassName none specialization => specialization.elements
    | .sugar _ inner => inner.elements
    -- What was not deduced is at fault itself.
    | .deduced (.null _) => []
    | .deduced type => type.elements
    | .constantArray element _ => element.elements
    | .incompleteArray element => element.elements
    | .decayed _ pointee => pointee.elements
    | .function cc result params =>
      .convention cc :: (TypeRef.elementsAll params ++ result.elements)
    | .templateParam _ => []
    | .opaqueSpecialization _ => []
    | .aliasSpecialization _ target => target.elements
    | .unsupported _ => []

/-- The elements of some references, from left to right. -/
def TypeRef.elementsAll : List TypeRef → List Element
  | [] => []
  | type :: types => type.elements ++ TypeRef.elementsAll types

end

/-! ## Runs that follow a list of elements -/

namespace Logged

variable {α β : Type}

/-- A run follows some elements.  If none of them is at fault, it gets through, and warns of all
that call for it.  Otherwise it stops at the first that is, and warns of those before. -/
inductive Follows (x : Lowered α) (es : List Element) : Prop where
  | through (clean : ∀ e ∈ es, e.faults = []) (a : α) (result : x.result = .ok a)
      (log : x.log = Element.warnings es)
  | stopped (before : List Element) (e : Element) (after : List Element)
      (elements : es = before ++ e :: after) (clean : ∀ e' ∈ before, e'.faults = [])
      (fault : Fault) (first : e.faults.head? = some fault) (result : x.result = .error fault)
      (log : x.log = Element.warnings before)

theorem follows_pure (a : α) : (pure a : Lowered α).Follows [] :=
  .through (List.forall_mem_nil _) a rfl rfl

/-- A failure follows the element that is at fault. -/
theorem follows_fail {e : Element} {fault : Fault} (first : e.faults.head? = some fault) :
    (fail fault : Lowered α).Follows [e] :=
  .stopped [] e [] rfl (List.forall_mem_nil _) fault first rfl rfl

/-- The elements of a second stage come after those of the first. -/
theorem Follows.bind {x : Lowered α} {f : α → Lowered β} {es es' : List Element}
    (hx : x.Follows es) (hf : ∀ a, x.result = .ok a → (f a).Follows es') :
    (x >>= f).Follows (es ++ es') := by
  cases hx with
  | through clean a result log =>
    rw [bind_of_ok result]
    cases hf a result with
    | through clean' b result' log' =>
      refine .through (List.forall_mem_append.mpr ⟨clean, clean'⟩) b result' ?_
      rw [log, log', Element.warnings_append]
    | stopped before e after elements clean' fault first result' log' =>
      refine .stopped (es ++ before) e after ?_ (List.forall_mem_append.mpr ⟨clean, clean'⟩) fault
        first result' ?_
      · rw [elements, List.append_assoc]
      · rw [log, log', Element.warnings_append]
  | stopped before e after elements clean fault first result log =>
    rw [bind_of_error result]
    refine .stopped before e (after ++ es') ?_ clean fault first rfl log
    rw [elements, List.append_assoc, List.cons_append]

/-- A stage that only builds something from a result looks at nothing more. -/
theorem Follows.bind_pure {x : Lowered α} {es : List Element} (hx : x.Follows es) (f : α → β) :
    (x >>= fun a ↦ pure (f a)).Follows es := by
  have built := hx.bind fun a _ ↦ follows_pure (f a)
  rwa [List.append_nil] at built

/-- An element that is not at fault and calls for no warning makes no difference. -/
theorem Follows.cons {x : Lowered α} {es : List Element} (hx : x.Follows es) {e : Element}
    (clean : e.faults = []) (declared : e.undeclared? = none) : x.Follows (e :: es) := by
  have silent (es : List Element) : Element.warnings (e :: es) = Element.warnings es := by
    rw [Element.warnings, List.filterMap_cons_none declared]
    rfl
  cases hx with
  | through clean' a result log =>
    exact .through (List.forall_mem_cons.mpr ⟨clean, clean'⟩) a result (log.trans (silent es).symm)
  | stopped before e' after elements clean' fault first result log =>
    exact .stopped (e :: before) e' after (congrArg (e :: ·) elements)
      (List.forall_mem_cons.mpr ⟨clean, clean'⟩) fault first result (log.trans (silent before).symm)

/-- A run gets through only where nothing is at fault. -/
theorem Follows.clean {x : Lowered α} {es : List Element} (hx : x.Follows es) {a : α}
    (h : x.result = .ok a) : ∀ e ∈ es, e.faults = [] := by
  cases hx with
  | through clean _ _ _ => exact clean
  | stopped _ _ _ _ _ _ _ result _ =>
    rw [result] at h
    cases h

/-- A run that follows some elements gives nothing but warnings. -/
theorem Follows.level {x : Lowered α} {es : List Element} (hx : x.Follows es) {r : Record}
    (h : r ∈ x.log) : r.level = .warn := by
  cases hx with
  | through _ _ _ log => exact Element.level_of_mem_warnings (log ▸ h)
  | stopped _ _ _ _ _ _ _ _ log => exact Element.level_of_mem_warnings (log ▸ h)

end Logged

/-! ## Lowering follows the elements of a type -/

theorem DeclRef.follows_lower (r : DeclRef) : r.lower.Follows [.declaration r] := by
  have stops := r.stopsAt_lower
  have silent : r.lower.log = [] := by
    rw [lower]
    split <;> rfl
  cases h : r.faults with
  | nil =>
    rw [h] at stops
    obtain ⟨t, result⟩ := stops
    exact .through (List.forall_mem_singleton.mpr h) t result silent
  | cons fault faults =>
    rw [h] at stops
    exact .stopped [] _ [] rfl (List.forall_mem_nil _) fault (congrArg List.head? h) stops silent

theorem CallingConv.follows_lower (cc : CallingConv) : cc.lower.Follows [.convention cc] := by
  cases cc with
  | c | win64 | x86RegCall => exact .through (List.forall_mem_singleton.mpr rfl) _ rfl rfl
  | _ => exact Logged.follows_fail rfl

theorem Builtin.follows_lower (b : Builtin) : b.lower.Follows (TypeNode.builtin b).elements := by
  have clean (h : b.faults = []) : ∀ e ∈ (TypeNode.builtin b).elements, e.faults = [] :=
    List.forall_mem_singleton.mpr h
  rw [lower]
  rw [faults] at clean
  cases h : b.kind with
  | placeholder kind =>
    refine Logged.follows_fail ?_
    rw [Element.faults, faults, h]
    rfl
  | _ =>
    rw [h] at clean
    exact .through (clean rfl) _ rfl rfl

mutual

/-- Lowering a reference follows its elements. -/
theorem TypeRef.follows_lower (type : TypeRef) : type.lower.Follows type.elements := by
  cases type with
  | null q => exact Logged.follows_fail rfl
  | node q type => exact type.follows_lower.bind_pure q.wrap

/-- Lowering a node follows its elements, and looks at the node first. -/
theorem TypeNode.follows_lower (type : TypeNode) : type.lower.Follows type.elements := by
  cases type with
  | builtin b => exact b.follows_lower
  | indirect kind pointee => exact (pointee.follows_lower.bind_pure _).cons rfl rfl
  | memberPointer owner pointee =>
    have parts := owner.follows_lower.bind fun name _ ↦
      pointee.follows_lower.bind_pure fun t ↦ Term.ctor "Tmember_pointer" [name, t]
    exact parts.cons rfl rfl
  | record decl => exact (decl.follows_lower.bind_pure _).cons rfl rfl
  | «alias» kind decl target =>
    have parts := decl.follows_lower.bind fun name _ ↦
      target.follows_lower.bind_pure fun t ↦ Term.ctor "@Talias" [name, t]
    exact parts.cons rfl rfl
  | injectedClassName decl specialization =>
    cases decl with
    | some decl => exact (decl.follows_lower.bind_pure _).cons rfl rfl
    | none =>
      -- The warning comes before everything inside the specialization.
      have warned : (Logged.record .warn ("no underlying declaration for injected class name " ++
          specialization.display) : Lowered Unit).Follows
            [.node (.injectedClassName none specialization)] :=
        .through (List.forall_mem_singleton.mpr rfl) () rfl rfl
      exact warned.bind fun _ _ ↦ specialization.follows_lower
  | sugar kind inner => exact inner.follows_lower.cons rfl rfl
  | deduced type =>
    cases type with
    | null q => exact Logged.follows_fail rfl
    | node q node => exact (TypeRef.follows_lower (.node q node)).cons rfl rfl
  | constantArray element size => exact (element.follows_lower.bind_pure _).cons rfl rfl
  | incompleteArray element => exact (element.follows_lower.bind_pure constPointer).cons rfl rfl
  | decayed original pointee => exact (pointee.follows_lower.bind_pure constPointer).cons rfl rfl
  | function cc result params =>
    have parts := cc.follows_lower.bind fun token _ ↦
      (TypeRef.follows_lowerAll params).bind fun ts _ ↦
        result.follows_lower.bind_pure fun t ↦ Term.ctor "@Tfunction" [token, t, .list ts]
    exact parts.cons rfl rfl
  | templateParam name => exact (Logged.follows_pure _).cons rfl rfl
  | opaqueSpecialization template => exact Logged.follows_fail rfl
  | aliasSpecialization template target => exact target.follows_lower.cons rfl rfl
  | unsupported className => exact Logged.follows_fail rfl

/-- Lowering some references follows the elements of one after the other. -/
theorem TypeRef.follows_lowerAll (types : List TypeRef) :
    (TypeRef.lowerAll types).Follows (TypeRef.elementsAll types) := by
  cases types with
  | nil => exact Logged.follows_pure []
  | cons type types =>
    exact type.follows_lower.bind fun _ _ ↦ (TypeRef.follows_lowerAll types).bind_pure _

end

/-- What lowering reports.  Nothing but warnings, and one for each specialization that has no
declaration, in the order in which lowering comes by: for all of them if the type has a term, and
otherwise for those before the first element at fault, which is the one that lowering fails with. -/
theorem TypeRef.lower_warns_of_undeclared (type : TypeRef) :
    (∀ r ∈ type.lower.log, r.level = .warn) ∧
    (∀ t, type.lower.result = .ok t →
      (∀ e ∈ type.elements, e.faults = []) ∧ type.lower.log = Element.warnings type.elements) ∧
    ∀ fault, type.lower.result = .error fault →
      ∃ before e after, type.elements = before ++ e :: after ∧
        (∀ e' ∈ before, e'.faults = []) ∧ e.faults.head? = some fault ∧
        type.lower.log = Element.warnings before := by
  have follows := type.follows_lower
  refine ⟨fun r hr ↦ follows.level hr, ?_⟩
  cases follows with
  | through clean t result log =>
    refine ⟨fun _ _ ↦ ⟨clean, log⟩, fun fault failed ↦ ?_⟩
    rw [result] at failed
    cases failed
  | stopped before e after elements clean fault first result log =>
    refine ⟨fun t succeeded ↦ ?_, fun fault' failed ↦ ?_⟩
    · rw [result] at succeeded
      cases succeeded
    · rw [result] at failed
      cases failed
      exact ⟨before, e, after, elements, clean, first, log⟩

/-- The parameter comes before the result, and stops lowering before the warning for that. -/
example :
    let undeclared := TypeNode.injectedClassName none (.of (.builtin .bool))
    (TypeRef.of (.function .c (.of undeclared) [.of undeclared, .null .none])).lower.log.length =
      1 :=
  rfl

end Reify
