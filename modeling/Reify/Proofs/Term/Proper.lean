import Reify.Emission
import Reify.Proofs.Term.Reader

/-!
# The terms that are written

The terms that types and declarations are lowered to are proper: their names are names, whatever the
unit calls its own things, because these only ever get into string literals; and their constructors
have arguments, so none of them is mistaken for a token.  Proper terms are what the reader of terms
gives back unchanged.
-/

namespace Reify

/-! ## Proper terms -/

/-- A term that is read back from its text as it is. -/
structure Term.Proper (t : Term) : Prop where
  wellNamed : t.WellNamed
  /-- No constructor stands alone. -/
  canonical : t.canonical = t

namespace Term

theorem namesAll_wellNamed {ts : List Term} (h : ∀ t ∈ ts, t.Proper) :
    ∀ name ∈ namesAll ts, IsName name := by
  induction ts with
  | nil => exact nofun
  | cons t ts ih =>
    obtain ⟨first, others⟩ := List.forall_mem_cons.mp h
    rw [namesAll, List.forall_mem_append]
    exact ⟨first.wellNamed, ih others⟩

theorem canonicalAll_eq_self {ts : List Term} (h : ∀ t ∈ ts, t.Proper) : canonicalAll ts = ts := by
  induction ts with
  | nil => rfl
  | cons t ts ih =>
    obtain ⟨first, others⟩ := List.forall_mem_cons.mp h
    rw [canonicalAll, first.canonical, ih others]

namespace Proper

theorem str (s : String) : (Term.str s).Proper := ⟨nofun, rfl⟩

theorem int (n : UInt64) : (Term.int n).Proper := ⟨nofun, rfl⟩

theorem token {name : String} (h : IsName name) : (Term.token name).Proper :=
  ⟨List.forall_mem_singleton.mpr h, rfl⟩

theorem list {ts : List Term} (h : ∀ t ∈ ts, t.Proper) : (Term.list ts).Proper where
  wellNamed := namesAll_wellNamed h
  canonical := by rw [Term.canonical, canonicalAll_eq_self h]

theorem ctor {name : String} (hn : IsName name) {t : Term} {ts : List Term}
    (h : ∀ u ∈ t :: ts, u.Proper) : (Term.ctor name (t :: ts)).Proper where
  wellNamed := List.forall_mem_cons.mpr ⟨hn, namesAll_wellNamed h⟩
  canonical := by rw [Term.canonical, canonicalAll_eq_self h, List.isEmpty_cons]; rfl

/-- A constructor with one argument. -/
theorem ctor₁ {name : String} (hn : IsName name) {t : Term} (h : t.Proper) :
    (Term.ctor name [t]).Proper :=
  ctor hn (List.forall_mem_singleton.mpr h)

/-- A constructor with two arguments. -/
theorem ctor₂ {name : String} (hn : IsName name) {t u : Term} (ht : t.Proper) (hu : u.Proper) :
    (Term.ctor name [t, u]).Proper :=
  ctor hn (List.forall_mem_cons.mpr ⟨ht, List.forall_mem_singleton.mpr hu⟩)

end Proper

end Term

/-! ## Results with a property -/

namespace Logged

variable {ε α β : Type}

/-- Whatever a run yields has a property. -/
def Yields (x : Logged ε α) (P : α → Prop) : Prop := ∀ a, x.result = .ok a → P a

theorem Yields.pure {P : α → Prop} {a : α} (h : P a) : (Pure.pure a : Logged ε α).Yields P := by
  intro b hb
  cases hb
  exact h

theorem Yields.record (level : Level) (message : String) :
    (Logged.record level message : Logged ε Unit).Yields fun _ ↦ True := fun _ _ ↦ trivial

theorem Yields.fail (e : ε) (P : α → Prop) : (Logged.fail e : Logged ε α).Yields P := nofun

theorem Yields.bind {P : α → Prop} {Q : β → Prop} {x : Logged ε α} {f : α → Logged ε β}
    (hx : x.Yields P) (hf : ∀ a, P a → (f a).Yields Q) : (x >>= f).Yields Q := by
  intro b hb
  obtain ⟨a, ha, hb⟩ := result_bind_eq_ok_iff.mp hb
  exact hf a (hx a ha) b hb

/-- How a failure is described has nothing to do with results. -/
theorem Yields.mapError {δ : Type} {P : α → Prop} {x : Logged ε α} (hx : x.Yields P) (g : ε → δ) :
    (x.mapError g).Yields P := by
  intro a ha
  refine hx a ?_
  rw [Logged.mapError] at ha
  cases h : x.result with
  | ok b =>
    rw [h] at ha
    cases ha
    rfl
  | error e =>
    rw [h] at ha
    cases ha

end Logged

/-! ## Lowering yields proper terms -/

theorem Width.isName_integerToken (w : Width) (sign : Signedness) :
    IsName (w.integerToken sign) := by
  cases w with
  | _ => cases sign <;> decide

theorem Signedness.isName_name (sign : Signedness) : IsName sign.name := by
  cases sign <;> decide

theorem isName_bitsize (bits : UInt32) : IsName (bitsize bits) := by
  rw [bitsize]
  split
  · rename_i w _
    cases w <;> decide
  · decide

theorem proper_integerTerm (bits : UInt32) (sign : Signedness) :
    (integerTerm bits sign).Proper := by
  rw [integerTerm]
  split
  · rename_i w _
    exact .token (w.isName_integerToken sign)
  · exact .ctor₂ (by decide) (.token (isName_bitsize bits)) (.token sign.isName_name)

theorem DeclRef.proper_lower (r : DeclRef) : r.lower.Yields Term.Proper := by
  rw [lower]
  split
  · exact .pure (.str _)
  · exact .fail _ _

theorem CallingConv.proper_lower (cc : CallingConv) : cc.lower.Yields Term.Proper := by
  have names : ∀ token ∈ cc.token?, IsName token := by cases cc <;> decide
  rw [lower]
  split
  · rename_i token h
    exact .pure (.token (names token h))
  · exact .fail _ _

theorem Builtin.proper_lower (b : Builtin) : b.lower.Yields Term.Proper := by
  rw [lower]
  split
  case h_1 | h_2 | h_3 => exact .pure (.token (by decide))
  case h_4 sign _ => exact .pure (proper_integerTerm b.bits sign)
  case h_5 sign _ =>
    exact .pure (.ctor₂ (by decide) (.token (isName_bitsize b.bits)) (.token sign.isName_name))
  case h_6 => exact .pure (.ctor₁ (by decide) (.token (isName_bitsize b.bits)))
  case h_7 => exact .pure (.ctor₂ (by decide) (.token (by decide)) (.str b.spelling))
  case h_8 => exact .fail _ _

theorem Qualifiers.proper_wrap (q : Qualifiers) {t : Term} (h : t.Proper) : (q.wrap t).Proper := by
  obtain ⟨isConst, isVolatile⟩ := q
  cases isConst with
  | false =>
    cases isVolatile with
    | false => exact h
    | true => exact .ctor₁ (by decide) h
  | true => cases isVolatile <;> exact .ctor₁ (by decide) h

theorem proper_constPointer {t : Term} (h : t.Proper) : (constPointer t).Proper :=
  .ctor₁ (by decide) (.ctor₁ (by decide) h)

mutual

theorem TypeRef.proper_lower (type : TypeRef) : type.lower.Yields Term.Proper := by
  cases type with
  | null q => exact .fail _ _
  | node q type => exact type.proper_lower.bind fun t ht ↦ .pure (q.proper_wrap ht)

theorem TypeNode.proper_lower (type : TypeNode) : type.lower.Yields Term.Proper := by
  cases type with
  | builtin b => exact b.proper_lower
  | indirect kind pointee =>
    have name : IsName kind.ctor := by cases kind <;> decide
    exact pointee.proper_lower.bind fun t ht ↦ .pure (.ctor₁ name ht)
  | memberPointer owner pointee =>
    refine owner.proper_lower.bind fun name hn ↦ ?_
    exact pointee.proper_lower.bind fun t ht ↦ .pure (.ctor₂ (by decide) hn ht)
  | record decl =>
    exact decl.proper_lower.bind fun name hn ↦ .pure (.ctor₁ (by decide) hn)
  | «alias» kind decl target =>
    refine decl.proper_lower.bind fun name hn ↦ ?_
    exact target.proper_lower.bind fun t ht ↦ .pure (.ctor₂ (by decide) hn ht)
  | injectedClassName decl specialization =>
    cases decl with
    | some decl =>
      exact decl.proper_lower.bind fun name hn ↦ .pure (.ctor₁ (by decide) hn)
    | none =>
      exact (Logged.Yields.record _ _).bind fun _ _ ↦ specialization.proper_lower
  | sugar kind inner => exact inner.proper_lower
  | deduced type =>
    cases type with
    | null q => exact .fail _ _
    | node q node => exact TypeRef.proper_lower (.node q node)
  | constantArray element size =>
    exact element.proper_lower.bind fun t ht ↦ .pure (.ctor₂ (by decide) ht (.int _))
  | incompleteArray element =>
    exact element.proper_lower.bind fun t ht ↦ .pure (proper_constPointer ht)
  | decayed original pointee =>
    exact pointee.proper_lower.bind fun t ht ↦ .pure (proper_constPointer ht)
  | function cc result params =>
    have name : IsName "@Tfunction" := by decide
    refine cc.proper_lower.bind fun token hc ↦ ?_
    refine (TypeRef.proper_lowerAll params).bind fun ts hts ↦ ?_
    refine result.proper_lower.bind fun t ht ↦ .pure (.ctor name ?_)
    simp only [List.forall_mem_cons]
    exact ⟨hc, ht, .list hts, nofun⟩
  | templateParam name => exact .pure (.ctor₁ (by decide) (.str name))
  | opaqueSpecialization template => exact .fail _ _
  | aliasSpecialization template target => exact target.proper_lower
  | unsupported className => exact .fail _ _

theorem TypeRef.proper_lowerAll (types : List TypeRef) :
    (TypeRef.lowerAll types).Yields fun ts ↦ ∀ t ∈ ts, t.Proper := by
  cases types with
  | nil => exact .pure nofun
  | cons type types =>
    refine type.proper_lower.bind fun t ht ↦ ?_
    exact (TypeRef.proper_lowerAll types).bind fun ts hts ↦
      .pure (List.forall_mem_cons.mpr ⟨ht, hts⟩)

end

/-! ## Declarations and assertions have proper terms -/

theorem Decl.proper_term (d : Decl) : d.term.Yields Term.Proper := by
  refine (d.ref.proper_lower.mapError Fault.error).bind fun name hn ↦ ?_
  cases d with
  | record head tag isDefinition members =>
    have ctor : IsName tag.ctor := by cases tag <;> decide
    exact .pure (.ctor₁ ctor hn)
  | typed head entity type =>
    have ctor : IsName entity.ctor := by
      cases entity with
      | _ =>
        rw [Entity.ctor]
        decide
    exact (type.proper_lower.mapError Fault.error).bind fun t ht ↦ .pure (.ctor₂ ctor hn ht)
  | group head kind decls => exact .fail _ _
  | template head kind pattern specializations => exact .fail _ _
  | staticAssert head a => exact .fail _ _

theorem Decl.proper_terms (ds : List Decl) :
    (Decl.terms ds).Yields fun ts ↦ ∀ t ∈ ts, t.Proper := by
  induction ds with
  | nil => exact .pure nofun
  | cons d ds ih =>
    refine d.proper_term.bind fun t ht ↦ ?_
    exact ih.bind fun ts hts ↦ .pure (List.forall_mem_cons.mpr ⟨ht, hts⟩)

theorem StaticAssert.proper_term (a : StaticAssert) : a.term.Proper :=
  .ctor₁ (by decide) (.str (a.message.getD ""))

end Reify
