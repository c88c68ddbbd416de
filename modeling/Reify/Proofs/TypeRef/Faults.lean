import Reify.Lowering

/-!
# The faults of a type

A type may be at fault in many places, while lowering reports one of them.  `faults` lists all of
them, in the order in which they are come by: a name before what it names, the parameters of a
function before its result.  What is not looked at adds none: an array as it was written before it
became a parameter, and the specialization behind a name that has a declaration.

Lowering is then described by one relation between a run and a list, `Logged.StopsAt`: the run has a
result if the list is empty, and fails with the first entry otherwise.
-/

namespace Reify

/-! ## All faults of a type -/

/-- A declaration is at fault if it has neither a mangled nor a qualified name. -/
def DeclRef.faults (r : DeclRef) : List Fault :=
  if r.mangled = none ∧ r.qualifiedName = "" then [.nameless r.id] else []

/-- All but three conventions are at fault. -/
def CallingConv.faults (cc : CallingConv) : List Fault :=
  if cc ∈ [.c, .win64, .x86RegCall] then [] else [.callingConv cc]

/-- A builtin type is at fault if it is a placeholder. -/
def Builtin.faults (b : Builtin) : List Fault :=
  match b.kind with
  | .placeholder kind => [.placeholder kind b.spelling]
  | .void | .bool | .nullPtr | .integer _ | .character _ | .floating | .sizeless => []

mutual

/-- The faults of a reference. -/
def TypeRef.faults : TypeRef → List Fault
  | .null _ => [.nullReference]
  | .node _ type => type.faults

/-- The faults of a node, those of its parts one part after the other. -/
def TypeNode.faults : TypeNode → List Fault
  | .builtin b => b.faults
  | .indirect _ pointee => pointee.faults
  | .memberPointer owner pointee => owner.faults ++ pointee.faults
  | .record decl => decl.faults
  | .alias _ decl target => decl.faults ++ target.faults
  | .injectedClassName (some decl) _ => decl.faults
  | .injectedClassName none specialization => specialization.faults
  | .sugar _ inner => inner.faults
  -- What was not deduced is one fault, and not that of a null reference as well.
  | .deduced (.null _) => [.notDeduced]
  | .deduced type => type.faults
  | .constantArray element _ => element.faults
  | .incompleteArray element => element.faults
  | .decayed _ pointee => pointee.faults
  | .function cc result params => cc.faults ++ (TypeRef.faultsAll params ++ result.faults)
  | .templateParam _ => []
  | .opaqueSpecialization template => [.noTerm (.opaqueSpecialization template)]
  | .aliasSpecialization _ target => target.faults
  | .unsupported className => [.noTerm (.unsupported className)]

/-- The faults of some references, from left to right. -/
def TypeRef.faultsAll : List TypeRef → List Fault
  | [] => []
  | type :: types => type.faults ++ TypeRef.faultsAll types

end

/-! ## Runs that stop at the first fault -/

namespace Logged

variable {ε α β : Type}

/-- A run stops at the first of some failures, and has a result if there are none. -/
def StopsAt (x : Logged ε α) : List ε → Prop
  | [] => ∃ a, x.result = .ok a
  | e :: _ => x.result = .error e

theorem stopsAt_pure (a : α) : (pure a : Logged ε α).StopsAt [] := ⟨a, rfl⟩

theorem stopsAt_record (level : Level) (message : String) :
    (record level message : Logged ε Unit).StopsAt [] := ⟨(), rfl⟩

theorem stopsAt_fail (e : ε) : (fail e : Logged ε α).StopsAt [e] := rfl

/-- The failures of a second stage count after those of the first. -/
theorem StopsAt.bind {x : Logged ε α} {f : α → Logged ε β} {es es' : List ε} (hx : x.StopsAt es)
    (hf : ∀ a, x.result = .ok a → (f a).StopsAt es') : (x >>= f).StopsAt (es ++ es') := by
  cases es with
  | nil =>
    obtain ⟨a, ha⟩ := hx
    have second := hf a ha
    rw [bind_of_ok ha]
    cases es' with
    | nil => exact second
    | cons e es' => exact second
  | cons e es =>
    rw [List.cons_append, bind_of_error hx]
    rfl

/-- A stage that only builds something from a result adds no failure. -/
theorem StopsAt.bind_pure {x : Logged ε α} {es : List ε} (hx : x.StopsAt es) (f : α → β) :
    (x >>= fun a ↦ pure (f a)).StopsAt es := by
  have built := hx.bind fun a _ ↦ stopsAt_pure (ε := ε) (f a)
  rwa [List.append_nil] at built

end Logged

/-! ## Lowering stops at the first fault -/

theorem DeclRef.stopsAt_lower (r : DeclRef) : r.lower.StopsAt r.faults := by
  rw [lower, faults, globalName?]
  cases r.mangled with
  | some name => exact Logged.stopsAt_pure (Term.str name)
  | none =>
    by_cases h : r.qualifiedName = ""
    · simp only [h, true_and, if_true]
      exact Logged.stopsAt_fail (Fault.nameless r.id)
    · simp only [h, String.isEmpty_iff, and_false, if_false]
      exact Logged.stopsAt_pure (Term.str r.qualifiedName)

theorem CallingConv.stopsAt_lower (cc : CallingConv) : cc.lower.StopsAt cc.faults := by
  cases cc with
  | c | win64 | x86RegCall => exact Logged.stopsAt_pure _
  | _ => exact Logged.stopsAt_fail _

theorem Builtin.stopsAt_lower (b : Builtin) : b.lower.StopsAt b.faults := by
  rw [lower, faults]
  cases b.kind with
  | placeholder kind => exact Logged.stopsAt_fail (Fault.placeholder kind b.spelling)
  | _ => exact Logged.stopsAt_pure _

mutual

/-- Lowering a reference stops at its first fault. -/
theorem TypeRef.stopsAt_lower (type : TypeRef) : type.lower.StopsAt type.faults := by
  cases type with
  | null q => exact Logged.stopsAt_fail Fault.nullReference
  | node q type => exact type.stopsAt_lower.bind_pure q.wrap

/-- Lowering a node stops at its first fault. -/
theorem TypeNode.stopsAt_lower (type : TypeNode) : type.lower.StopsAt type.faults := by
  cases type with
  | builtin b => exact b.stopsAt_lower
  | indirect kind pointee => exact pointee.stopsAt_lower.bind_pure _
  | memberPointer owner pointee =>
    exact owner.stopsAt_lower.bind fun _ _ ↦ pointee.stopsAt_lower.bind_pure _
  | record decl => exact decl.stopsAt_lower.bind_pure _
  | «alias» kind decl target =>
    exact decl.stopsAt_lower.bind fun _ _ ↦ target.stopsAt_lower.bind_pure _
  | injectedClassName decl specialization =>
    cases decl with
    | some decl => exact decl.stopsAt_lower.bind_pure _
    | none =>
      -- The warning is a stage of its own, and never fails.
      exact (Logged.stopsAt_record _ _).bind fun _ _ ↦ specialization.stopsAt_lower
  | sugar kind inner => exact inner.stopsAt_lower
  | deduced type =>
    cases type with
    | null q => exact Logged.stopsAt_fail Fault.notDeduced
    | node q node => exact TypeRef.stopsAt_lower (.node q node)
  | constantArray element size => exact element.stopsAt_lower.bind_pure _
  | incompleteArray element => exact element.stopsAt_lower.bind_pure constPointer
  | decayed original pointee => exact pointee.stopsAt_lower.bind_pure constPointer
  | function cc result params =>
    refine cc.stopsAt_lower.bind fun _ _ ↦ ?_
    refine (TypeRef.stopsAt_lowerAll params).bind fun _ _ ↦ ?_
    exact result.stopsAt_lower.bind_pure _
  | templateParam name => exact Logged.stopsAt_pure _
  | opaqueSpecialization template => exact Logged.stopsAt_fail _
  | aliasSpecialization template target => exact target.stopsAt_lower
  | unsupported className => exact Logged.stopsAt_fail _

/-- Lowering some references stops at the first fault among theirs. -/
theorem TypeRef.stopsAt_lowerAll (types : List TypeRef) :
    (TypeRef.lowerAll types).StopsAt (TypeRef.faultsAll types) := by
  cases types with
  | nil => exact Logged.stopsAt_pure []
  | cons type types =>
    exact type.stopsAt_lower.bind fun _ _ ↦ (TypeRef.stopsAt_lowerAll types).bind_pure _

end

/-- Every fault is reported as a construct without a term. -/
theorem Fault.isUnsupported_error (fault : Fault) : fault.error.isUnsupported := by
  cases fault <;> rfl

/-- The parameters of a function count before its result, although they are printed after it. -/
example :
    (TypeRef.of (.function .win64 (.null .none) [.of (.unsupported "Vector")])).faults =
      [.noTerm (.unsupported "Vector"), .nullReference] :=
  rfl

end Reify
