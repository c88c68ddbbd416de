import Reify.Lowering

/-!
# Sugar leaves no trace in a term

Erasing takes an unqualified reference to sugar as a reference to what the sugar wraps, wherever it
stands in a type.  It stops at what is not there: sugar around a null reference is kept, for it
fails in its own way, and a placeholder that was not deduced is such a case.  Where the reference to
the sugar has qualifiers of its own it is kept as well, for they count.

Erased types are lowered to the same terms and fail in the same way.  Their logs differ, because an
injected class name without a declaration is warned about and then erased like other sugar; so the
runs are compared by their results.
-/

namespace Reify

/-! ## Erasing -/

/-- What a node of sugar wraps. -/
def TypeNode.wrapped? : TypeNode → Option TypeRef
  | .sugar _ inner => some inner
  | .deduced type => some type
  | .aliasSpecialization _ target => some target
  | .injectedClassName none specialization => some specialization
  | .injectedClassName (some _) _ => none
  | .builtin _ | .indirect _ _ | .memberPointer _ _ | .record _ | .alias _ _ _
  | .constantArray _ _ | .incompleteArray _ | .decayed _ _ | .function _ _ _ | .templateParam _
  | .opaqueSpecialization _ | .unsupported _ => none

/-- A reference to a node, or what the node wraps if it is sugar around a type and the reference has
no qualifiers. -/
def TypeRef.unwrap (q : Qualifiers) (type : TypeNode) : TypeRef :=
  match q.isNone, type.wrapped? with
  | true, some (.node q' type') => .node q' type'
  | _, _ => .node q type

mutual

/-- A reference with its sugar erased. -/
def TypeRef.erase : TypeRef → TypeRef
  | .null q => .null q
  | .node q type => .unwrap q type.erase

/-- A node with the sugar in its parts erased. -/
def TypeNode.erase : TypeNode → TypeNode
  | .builtin b => .builtin b
  | .indirect kind pointee => .indirect kind pointee.erase
  | .memberPointer owner pointee => .memberPointer owner pointee.erase
  | .record decl => .record decl
  | .alias kind decl target => .alias kind decl target.erase
  | .injectedClassName decl specialization => .injectedClassName decl specialization.erase
  | .sugar kind inner => .sugar kind inner.erase
  | .deduced type => .deduced type.erase
  | .constantArray element size => .constantArray element.erase size
  | .incompleteArray element => .incompleteArray element.erase
  | .decayed original pointee => .decayed original.erase pointee.erase
  | .function cc result params => .function cc result.erase (TypeRef.eraseAll params)
  | .templateParam name => .templateParam name
  | .opaqueSpecialization template => .opaqueSpecialization template
  | .aliasSpecialization template target => .aliasSpecialization template target.erase
  | .unsupported className => .unsupported className

/-- References with their sugar erased, one by one. -/
def TypeRef.eraseAll : List TypeRef → List TypeRef
  | [] => []
  | type :: types => type.erase :: TypeRef.eraseAll types

end

/-- What a node wraps is erased along with it. -/
theorem TypeNode.wrapped?_erase (type : TypeNode) :
    type.erase.wrapped? = type.wrapped?.map TypeRef.erase := by
  cases type with
  | injectedClassName decl specialization => cases decl <;> rfl
  | _ => rfl

/-- Erasing leaves a type where there was one, and none where there was none. -/
theorem TypeRef.isNull_erase (type : TypeRef) : type.erase.isNull = type.isNull := by
  cases type with
  | null q => rfl
  | node q type =>
    rw [erase, unwrap]
    split <;> rfl

/-- An unqualified reference to sugar around a type is erased to that type, erased itself. -/
theorem TypeRef.erase_of_wrapped {type : TypeNode} {inner : TypeRef}
    (sugar : type.wrapped? = some inner) (present : inner.isNull = false) :
    (of type).erase = inner.erase := by
  have wrapped : type.erase.wrapped? = some inner.erase := by
    rw [type.wrapped?_erase, sugar, Option.map_some]
  rw [← inner.isNull_erase] at present
  rw [of, erase, unwrap, wrapped]
  cases h : inner.erase with
  | null q =>
    rw [h] at present
    cases present
  | node q type' => rfl

/-! ## What is left -/

mutual

/-- No reference without qualifiers leads to sugar around a type, at any depth. -/
def TypeRef.IsBare : TypeRef → Prop
  | .null _ => True
  | .node q type => (q.isNone → ∀ inner ∈ type.wrapped?, inner.isNull) ∧ type.PartsBare

/-- The references in a node are bare. -/
def TypeNode.PartsBare : TypeNode → Prop
  | .builtin _ | .record _ | .templateParam _ | .opaqueSpecialization _ | .unsupported _ => True
  | .indirect _ pointee => pointee.IsBare
  | .memberPointer _ pointee => pointee.IsBare
  | .alias _ _ target => target.IsBare
  | .injectedClassName _ specialization => specialization.IsBare
  | .sugar _ inner => inner.IsBare
  | .deduced type => type.IsBare
  | .constantArray element _ => element.IsBare
  | .incompleteArray element => element.IsBare
  | .decayed original pointee => original.IsBare ∧ pointee.IsBare
  | .function _ result params => result.IsBare ∧ TypeRef.AllBare params
  | .aliasSpecialization _ target => target.IsBare

/-- References are bare, one by one. -/
def TypeRef.AllBare : List TypeRef → Prop
  | [] => True
  | type :: types => type.IsBare ∧ TypeRef.AllBare types

end

/-- What sugar wraps is one of its parts. -/
theorem TypeNode.isBare_of_wrapped {type : TypeNode} {inner : TypeRef} (bare : type.PartsBare)
    (sugar : type.wrapped? = some inner) : inner.IsBare := by
  cases type with
  | sugar kind t | deduced t | aliasSpecialization template t =>
    cases sugar
    exact bare
  | injectedClassName decl t =>
    cases decl <;> cases sugar
    exact bare
  | _ => cases sugar

theorem TypeRef.isBare_unwrap (q : Qualifiers) {type : TypeNode} (bare : type.PartsBare) :
    (unwrap q type).IsBare := by
  rw [unwrap]
  split
  · rename_i q' type' _ sugar
    exact TypeNode.isBare_of_wrapped bare sugar
  · rename_i other
    refine ⟨fun none inner sugar ↦ ?_, bare⟩
    cases inner with
    | null q' => rfl
    | node q' type' => exact absurd sugar (other q' type' none)

mutual

theorem TypeRef.isBare_erase (type : TypeRef) : type.erase.IsBare := by
  cases type with
  | null q => trivial
  | node q type => exact TypeRef.isBare_unwrap q (TypeNode.partsBare_erase type)

theorem TypeNode.partsBare_erase (type : TypeNode) : type.erase.PartsBare := by
  cases type with
  | builtin _ | record _ | templateParam _ | opaqueSpecialization _ | unsupported _ => trivial
  | indirect kind t => exact TypeRef.isBare_erase t
  | memberPointer owner t => exact TypeRef.isBare_erase t
  | «alias» kind decl t => exact TypeRef.isBare_erase t
  | injectedClassName decl t => exact TypeRef.isBare_erase t
  | sugar kind t => exact TypeRef.isBare_erase t
  | deduced t => exact TypeRef.isBare_erase t
  | constantArray t size => exact TypeRef.isBare_erase t
  | incompleteArray t => exact TypeRef.isBare_erase t
  | decayed original pointee =>
    exact ⟨TypeRef.isBare_erase original, TypeRef.isBare_erase pointee⟩
  | function cc result params =>
    exact ⟨TypeRef.isBare_erase result, TypeRef.allBare_eraseAll params⟩
  | aliasSpecialization template t => exact TypeRef.isBare_erase t

theorem TypeRef.allBare_eraseAll (types : List TypeRef) :
    TypeRef.AllBare (TypeRef.eraseAll types) := by
  cases types with
  | nil => trivial
  | cons type types => exact ⟨TypeRef.isBare_erase type, TypeRef.allBare_eraseAll types⟩

end

/-! ## Lowering what was erased -/

/-- A placeholder whose type was deduced is lowered as that type. -/
theorem TypeNode.lower_deduced {type : TypeRef} (present : type.isNull = false) :
    (deduced type).lower = type.lower := by
  cases type with
  | null q => cases present
  | node q type => rfl

/-- Sugar around a type is lowered to the same result as the type. -/
theorem TypeNode.result_lower_of_wrapped {type : TypeNode} {inner : TypeRef}
    (sugar : type.wrapped? = some inner) (present : inner.isNull = false) :
    type.lower.result = inner.lower.result := by
  cases type with
  | sugar kind t =>
    cases sugar
    rfl
  | deduced t =>
    cases sugar
    rw [TypeNode.lower_deduced present]
  | aliasSpecialization template t =>
    cases sugar
    rfl
  | injectedClassName decl t =>
    cases decl with
    | some decl => cases sugar
    | none =>
      cases sugar
      -- The warning comes first and cannot fail.
      rw [TypeNode.lower, Logged.result_bind]
      rfl
  | _ => cases sugar

/-- Whether a reference is unwrapped makes no difference to its result. -/
theorem TypeRef.result_lower_unwrap (q : Qualifiers) (type : TypeNode) :
    (unwrap q type).lower.result = (node q type).lower.result := by
  rw [unwrap]
  split
  · rename_i q' type' bare sugar
    have none : q = .none := by
      obtain ⟨c, v⟩ := q
      cases c <;> cases v <;> first | rfl | cases bare
    rw [← TypeNode.result_lower_of_wrapped sugar rfl, none, TypeRef.lower, Logged.result_bind]
    cases type.lower.result with
    | ok t => rfl
    | error fault => rfl
  · rfl

mutual

/-- Erasing the sugar of a reference makes no difference to its term, nor to its first fault. -/
theorem TypeRef.result_lower_erase (type : TypeRef) :
    type.erase.lower.result = type.lower.result := by
  cases type with
  | null q => rfl
  | node q type =>
    have ih := TypeNode.result_lower_erase type
    rw [TypeRef.erase, TypeRef.result_lower_unwrap, TypeRef.lower, TypeRef.lower,
      Logged.result_bind, Logged.result_bind, ih]

/-- A node is lowered through the results of its parts alone. -/
theorem TypeNode.result_lower_erase (type : TypeNode) :
    type.erase.lower.result = type.lower.result := by
  cases type with
  | builtin b => rfl
  | indirect kind pointee | incompleteArray pointee | constantArray pointee size =>
    have ih := TypeRef.result_lower_erase pointee
    simp only [TypeNode.erase, TypeNode.lower, Logged.result_bind, ih]
  | memberPointer owner pointee =>
    have ih := TypeRef.result_lower_erase pointee
    simp only [TypeNode.erase, TypeNode.lower, Logged.result_bind, ih]
  | record decl => rfl
  | «alias» kind decl target =>
    have ih := TypeRef.result_lower_erase target
    simp only [TypeNode.erase, TypeNode.lower, Logged.result_bind, ih]
  | injectedClassName decl specialization =>
    cases decl with
    | some decl => rfl
    | none =>
      have ih := TypeRef.result_lower_erase specialization
      simp only [TypeNode.erase, TypeNode.lower, Logged.result_bind, ih]
      rfl
  | sugar kind inner => exact TypeRef.result_lower_erase inner
  | deduced type =>
    have ih := TypeRef.result_lower_erase type
    have kept := type.isNull_erase
    cases h : type.isNull with
    | true =>
      cases type with
      | null q => rfl
      | node q type => cases h
    | false =>
      rw [h] at kept
      rw [TypeNode.erase, TypeNode.lower_deduced kept, TypeNode.lower_deduced h, ih]
  | decayed original pointee =>
    have ih := TypeRef.result_lower_erase pointee
    simp only [TypeNode.erase, TypeNode.lower, Logged.result_bind, ih]
  | function cc result params =>
    have ih := TypeRef.result_lower_erase result
    have others := TypeRef.result_lowerAll_eraseAll params
    simp only [TypeNode.erase, TypeNode.lower, Logged.result_bind, ih, others]
  | templateParam name => rfl
  | opaqueSpecialization template => rfl
  | aliasSpecialization template target => exact TypeRef.result_lower_erase target
  | unsupported className => rfl

/-- References are lowered one by one. -/
theorem TypeRef.result_lowerAll_eraseAll (types : List TypeRef) :
    (TypeRef.lowerAll (TypeRef.eraseAll types)).result = (TypeRef.lowerAll types).result := by
  cases types with
  | nil => rfl
  | cons type types =>
    have ih := TypeRef.result_lower_erase type
    have others := TypeRef.result_lowerAll_eraseAll types
    simp only [TypeRef.eraseAll, TypeRef.lowerAll, Logged.result_bind, ih, others]

end

/-- Sugar is transparent everywhere.  Erasing leaves no sugar around a type that is referred to
without qualifiers, and a type and its erasure are lowered to the same term, or fail with the same
error. -/
theorem TypeRef.lower_erase (type : TypeRef) :
    type.erase.IsBare ∧
      (type.erase.lower.mapError Fault.error).result = (type.lower.mapError Fault.error).result :=
  ⟨type.isBare_erase, congrArg (Except.mapError Fault.error) type.result_lower_erase⟩

/-- Qualifiers on what is wrapped stay, and so does sugar that has qualifiers of its own. -/
example :
    (TypeRef.of (.sugar .paren (.node ⟨true, false⟩ (.sugar .elaborated (.of (.sugar .decltype
        (.of (.builtin ⟨.bool, 8, "bool"⟩)))))))).erase =
      .node ⟨true, false⟩ (.sugar .elaborated (.of (.builtin ⟨.bool, 8, "bool"⟩))) :=
  rfl

end Reify
