import Mathlib.Data.Option.Basic
import Reify.Lowering

/-!
# What lowering tells apart

Two references that have terms have the same one exactly if they read alike.  To read a reference is
to pass through the nodes that only say how a type was written, collect the qualifiers met on the
way, and then look at the first other node: at the global name of a declaration and not at the
declaration, at a number of bits only as far as it is a width, and at the size of an array only up
to the largest length that a term can hold.

`Reading` is defined on types alone.  That it says exactly what a term says is shown by a term for
each reading (`Reading.term?`) and a way back (`Term.reading?`).
-/

namespace Reify

/-! ## Readings -/

/-- The qualifiers of a reference that has some. -/
inductive Qualification where
  | const
  | volatile
  | constVolatile
deriving DecidableEq, Repr

/-- What a reference contributes to a reading: nothing if it has no qualifiers. -/
def Qualifiers.qualification : Qualifiers → List Qualification
  | ⟨false, false⟩ => []
  | ⟨true, false⟩ => [.const]
  | ⟨false, true⟩ => [.volatile]
  | ⟨true, true⟩ => [.constVolatile]

/-- What counts of a builtin type. Only a type known to the target alone is known by its spelling,
and a number of bits that is no width is like any other such number. -/
inductive Builtin.Reading where
  | void
  | bool
  | nullPtr
  | integer (width : Option Width) (sign : Signedness)
  | character (width : Option Width) (sign : Signedness)
  | floating (width : Option Width)
  | sizeless (spelling : String)
  | placeholder (kind : Placeholder)
deriving DecidableEq, Repr

/-- What counts of a builtin type. -/
def Builtin.reading (b : Builtin) : Builtin.Reading :=
  match b.kind with
  | .void => .void
  | .bool => .bool
  | .nullPtr => .nullPtr
  | .integer sign => .integer (Width.ofBits? b.bits) sign
  | .character sign => .character (Width.ofBits? b.bits) sign
  | .floating => .floating (Width.ofBits? b.bits)
  | .sizeless => .sizeless b.spelling
  | .placeholder kind => .placeholder kind

mutual

/-- A reference as it is read: the qualifiers met from the outside in, then the first node that is
more than a way to write another. -/
inductive Reading where
  | mk (qualifications : List Qualification) (head : Head)

/-- The first node that is more than a way to write another. Declarations are global names, of which
a nameless one has none. -/
inductive Head where
  | null
  | builtin (b : Builtin.Reading)
  | indirect (kind : Indirection) (pointee : Reading)
  | memberPointer (owner : Option String) (pointee : Reading)
  /-- A record, or a name injected into one. -/
  | named (name : Option String)
  /-- An enumeration or a type definition. -/
  | alias (name : Option String) (target : Reading)
  | notDeduced
  | array (element : Reading) (length : UInt64)
  | function (cc : CallingConv) (result : Reading) (params : List Reading)
  | templateParam (name : String)
  | opaqueSpecialization (template : String)
  | unsupported (className : String)

end

/-- The same reading under further qualifiers. -/
def Reading.qualify (q : Qualifiers) : Reading → Reading
  | .mk qualifications head => .mk (q.qualification ++ qualifications) head

mutual

/-- A reference is read as its node under its qualifiers. -/
def TypeRef.reading : TypeRef → Reading
  | .null q => .mk q.qualification .null
  | .node q type => type.reading.qualify q

/-- The reading of a node. An array without a bound, and an array passed as a parameter, is read as
a constant pointer. -/
def TypeNode.reading : TypeNode → Reading
  | .builtin b => .mk [] (.builtin b.reading)
  | .indirect kind pointee => .mk [] (.indirect kind pointee.reading)
  | .memberPointer owner pointee => .mk [] (.memberPointer owner.globalName? pointee.reading)
  | .record decl => .mk [] (.named decl.globalName?)
  | .alias _ decl target => .mk [] (.alias decl.globalName? target.reading)
  | .injectedClassName (some decl) _ => .mk [] (.named decl.globalName?)
  | .injectedClassName none specialization => specialization.reading
  | .sugar _ inner => inner.reading
  | .deduced (.null _) => .mk [] .notDeduced
  | .deduced type => type.reading
  | .constantArray element size =>
    .mk [] (.array element.reading (UInt64.ofNat (min size.toNat (UInt64.size - 1))))
  | .incompleteArray element => .mk [.const] (.indirect .pointer element.reading)
  | .decayed _ pointee => .mk [.const] (.indirect .pointer pointee.reading)
  | .function cc result params => .mk [] (.function cc result.reading (TypeRef.readings params))
  | .templateParam name => .mk [] (.templateParam name)
  | .opaqueSpecialization template => .mk [] (.opaqueSpecialization template)
  | .aliasSpecialization _ target => target.reading
  | .unsupported className => .mk [] (.unsupported className)

/-- The readings of some references, one by one. -/
def TypeRef.readings : List TypeRef → List Reading
  | [] => []
  | type :: types => type.reading :: TypeRef.readings types

end

/-! ## The term of a reading -/

/-- A term under the qualifiers of one reference. -/
def Qualification.wrap (t : Term) : Qualification → Term
  | .const => .ctor "Qconst" [t]
  | .volatile => .ctor "Qmut_volatile" [t]
  | .constVolatile => .ctor "Qconst_volatile" [t]

/-- The token of a width, or the one that says that there is none. -/
def Width.optionToken : Option Width → String
  | some w => w.token
  | none => "unknown_bit_size"

/-- The term of a builtin type, if it has one. -/
def Builtin.Reading.term? : Builtin.Reading → Option Term
  | .void => some (.token "Tvoid")
  | .bool => some (.token "Tbool")
  | .nullPtr => some (.token "Tnullptr")
  | .integer (some w) sign => some (.token (w.integerToken sign))
  | .integer none sign => some (.ctor "Tint" [.token (Width.optionToken none), .token sign.name])
  | .character w sign => some (.ctor "Tchar" [.token (Width.optionToken w), .token sign.name])
  | .floating w => some (.ctor "Tfloat" [.token (Width.optionToken w)])
  | .sizeless spelling => some (.ctor "Tarch" [.token "None", .str spelling])
  | .placeholder _ => none

mutual

/-- The term of a reading, if it has one. -/
def Reading.term? : Reading → Option Term
  | .mk qualifications head => do
    let t ← head.term?
    return qualifications.foldr (fun q t ↦ q.wrap t) t

/-- The term of a head, if it has one. -/
def Head.term? : Head → Option Term
  | .builtin b => b.term?
  | .indirect kind pointee => do
    let t ← pointee.term?
    return .ctor kind.ctor [t]
  | .memberPointer owner pointee => do
    let name ← owner
    let t ← pointee.term?
    return .ctor "Tmember_pointer" [.str name, t]
  | .named name => do
    let name ← name
    return .ctor "Tnamed" [.str name]
  | .alias name target => do
    let name ← name
    let t ← target.term?
    return .ctor "@Talias" [.str name, t]
  | .array element length => do
    let t ← element.term?
    return .ctor "Tarray" [t, .int length]
  | .function cc result params => do
    let token ← cc.token?
    let ts ← Reading.terms? params
    let t ← result.term?
    return .ctor "@Tfunction" [.token token, t, .list ts]
  | .templateParam name => some (.ctor "Ttemplate" [.str name])
  | .null | .notDeduced | .opaqueSpecialization _ | .unsupported _ => none

/-- The terms of some readings, if each has one. -/
def Reading.terms? : List Reading → Option (List Term)
  | [] => some []
  | r :: rs => do
    let t ← r.term?
    let ts ← Reading.terms? rs
    return t :: ts

end

/-! ## Lowering writes the reading -/

theorem bitsize_eq_optionToken (bits : UInt32) :
    bitsize bits = Width.optionToken (Width.ofBits? bits) := by
  rw [bitsize]
  cases Width.ofBits? bits with
  | none => rfl
  | some w => rfl

theorem Builtin.value?_lower (b : Builtin) : b.lower.value? = b.reading.term? := by
  unfold lower reading
  cases b.kind with
  | integer sign =>
    simp only [integerTerm]
    cases h : Width.ofBits? b.bits with
    | none => simp [Reading.term?, bitsize_eq_optionToken, h]
    | some w => rfl
  | character sign => simp [Reading.term?, bitsize_eq_optionToken]
  | floating => simp [Reading.term?, bitsize_eq_optionToken]
  | void | bool | nullPtr | sizeless | placeholder kind => rfl

theorem DeclRef.value?_lower (r : DeclRef) : r.lower.value? = r.globalName?.map .str := by
  rw [lower]
  cases r.globalName? with
  | none => rfl
  | some name => rfl

theorem CallingConv.value?_lower (cc : CallingConv) : cc.lower.value? = cc.token?.map .token := by
  rw [lower]
  cases cc.token? with
  | none => rfl
  | some token => rfl

/-- Sizes beyond the largest length all count as that length. -/
theorem arrayLength_eq (size : BitVec 128) :
    arrayLength size = UInt64.ofNat (min size.toNat (UInt64.size - 1)) := by
  rw [arrayLength]
  split
  · rw [Nat.min_eq_left (by omega)]
  · rw [Nat.min_eq_right (by omega)]

theorem Qualifiers.wrap_eq_foldr (q : Qualifiers) (t : Term) :
    q.wrap t = q.qualification.foldr (fun q t ↦ q.wrap t) t := by
  obtain ⟨isConst, isVolatile⟩ := q
  cases isConst with
  | false => cases isVolatile <;> rfl
  | true => cases isVolatile <;> rfl

theorem Reading.term?_qualify (q : Qualifiers) (r : Reading) :
    (r.qualify q).term? = r.term?.map q.wrap := by
  obtain ⟨qualifications, head⟩ := r
  rw [qualify, term?, term?]
  cases head.term? with
  | none => rfl
  | some t => simp [Qualifiers.wrap_eq_foldr]

/-- Reading a constant pointer. -/
theorem Reading.term?_constPointer (r : Reading) :
    term? (.mk [.const] (.indirect .pointer r)) = r.term?.map constPointer := by
  rw [term?, Head.term?]
  cases r.term? with
  | none => rfl
  | some t => rfl

mutual

/-- The term of a reference is that of its reading. -/
theorem TypeRef.value?_lower (type : TypeRef) : type.lower.value? = type.reading.term? := by
  cases type with
  | null q => rfl
  | node q node =>
    rw [TypeRef.reading, Reading.term?_qualify, ← node.value?_lower, TypeRef.lower,
      Logged.value?_bind, Option.map_eq_bind]
    rfl

/-- The term of a node is that of its reading. -/
theorem TypeNode.value?_lower (type : TypeNode) : type.lower.value? = type.reading.term? := by
  cases type with
  | builtin b =>
    have builtin := b.value?_lower
    simp [TypeNode.lower, TypeNode.reading, Reading.term?, Head.term?, builtin]
  | indirect kind pointee =>
    have pointee := pointee.value?_lower
    simp [TypeNode.lower, TypeNode.reading, Reading.term?, Head.term?, pointee]
  | memberPointer owner pointee =>
    have name := owner.value?_lower
    have pointee := pointee.value?_lower
    simp [TypeNode.lower, TypeNode.reading, Reading.term?, Head.term?, name, pointee,
      Option.bind_map]
  | record decl =>
    have name := decl.value?_lower
    simp [TypeNode.lower, TypeNode.reading, Reading.term?, Head.term?, name, Option.bind_map]
  | «alias» kind decl target =>
    have name := decl.value?_lower
    have target := target.value?_lower
    simp [TypeNode.lower, TypeNode.reading, Reading.term?, Head.term?, name, target,
      Option.bind_map]
  | injectedClassName decl specialization =>
    cases decl with
    | none =>
      have specialization := specialization.value?_lower
      simp [TypeNode.lower, TypeNode.reading, specialization]
    | some decl =>
      have name := decl.value?_lower
      simp [TypeNode.lower, TypeNode.reading, Reading.term?, Head.term?, name, Option.bind_map]
  | sugar kind inner => exact inner.value?_lower
  | deduced type =>
    have inner := type.value?_lower
    cases type with
    | null q => rfl
    | node q node => exact inner
  | constantArray element size =>
    have element := element.value?_lower
    simp [TypeNode.lower, TypeNode.reading, Reading.term?, Head.term?, element, arrayLength_eq]
  | incompleteArray element =>
    have element := element.value?_lower
    simp [TypeNode.lower, TypeNode.reading, Reading.term?_constPointer, element,
      Option.map_eq_bind]
  | decayed original pointee =>
    have pointee := pointee.value?_lower
    simp [TypeNode.lower, TypeNode.reading, Reading.term?_constPointer, pointee,
      Option.map_eq_bind]
  | function cc result params =>
    have token := cc.value?_lower
    have params := TypeRef.value?_lowerAll params
    have result := result.value?_lower
    simp [TypeNode.lower, TypeNode.reading, Reading.term?, Head.term?, token, params, result,
      Option.bind_map]
  | templateParam name => rfl
  | opaqueSpecialization template => rfl
  | aliasSpecialization template target => exact target.value?_lower
  | unsupported className => rfl

/-- The terms of some references are those of their readings. -/
theorem TypeRef.value?_lowerAll (types : List TypeRef) :
    (TypeRef.lowerAll types).value? = Reading.terms? (TypeRef.readings types) := by
  cases types with
  | nil => rfl
  | cons type types =>
    have first := type.value?_lower
    have others := TypeRef.value?_lowerAll types
    simp [TypeRef.lowerAll, TypeRef.readings, Reading.terms?, first, others]

end

/-! ## The reading of a term

The way back. It undoes `Reading.term?`, so two readings with one term are the same. -/

/-- The width that a token stands for, or that it stands for none. -/
def Width.ofToken? (token : String) : Option (Option Width) :=
  [none, some w8, some w16, some w32, some w64, some w128].find? (optionToken · == token)

/-- The signedness of that name. -/
def Signedness.ofName? (name : String) : Option Signedness :=
  [signed, unsigned].find? (·.name == name)

/-- The convention of that token. -/
def CallingConv.ofToken? (token : String) : Option CallingConv :=
  all.find? (·.token? == some token)

/-- The builtin types that are one token. -/
def Builtin.Reading.tokens : List (String × Builtin.Reading) :=
  ("Tvoid", .void) :: ("Tbool", .bool) :: ("Tnullptr", .nullPtr) ::
    [Width.w8, .w16, .w32, .w64, .w128].flatMap fun w ↦
      [.signed, .unsigned].map fun sign ↦ (w.integerToken sign, .integer (some w) sign)

/-- The builtin type that a term writes. -/
def Term.builtin? : Term → Option Builtin.Reading
  | .token word => Builtin.Reading.tokens.lookup word
  | .ctor "Tint" [_, .token sign] => .integer none <$> Signedness.ofName? sign
  | .ctor "Tchar" [.token w, .token sign] =>
    (Width.ofToken? w).bind fun w ↦ .character w <$> Signedness.ofName? sign
  | .ctor "Tfloat" [.token w] => .floating <$> Width.ofToken? w
  | .ctor "Tarch" [_, .str spelling] => some (.sizeless spelling)
  | _ => none

/-- The same reading with one more qualification in front. -/
def Reading.cons (q : Qualification) : Reading → Reading
  | .mk qualifications head => .mk (q :: qualifications) head

mutual

/-- The reading that a term writes. -/
def Term.reading? : Term → Option Reading
  | .ctor "Qconst" [t] => Reading.cons .const <$> t.reading?
  | .ctor "Qmut_volatile" [t] => Reading.cons .volatile <$> t.reading?
  | .ctor "Qconst_volatile" [t] => Reading.cons .constVolatile <$> t.reading?
  | .ctor "Tptr" [t] => (fun r ↦ .mk [] (.indirect .pointer r)) <$> t.reading?
  | .ctor "Tref" [t] => (fun r ↦ .mk [] (.indirect .lvalueReference r)) <$> t.reading?
  | .ctor "Trv_ref" [t] => (fun r ↦ .mk [] (.indirect .rvalueReference r)) <$> t.reading?
  | .ctor "Tmember_pointer" [.str name, t] =>
    (fun r ↦ .mk [] (.memberPointer (some name) r)) <$> t.reading?
  | .ctor "Tnamed" [.str name] => some (.mk [] (.named (some name)))
  | .ctor "@Talias" [.str name, t] => (fun r ↦ .mk [] (.alias (some name) r)) <$> t.reading?
  | .ctor "Tarray" [t, .int length] => (fun r ↦ .mk [] (.array r length)) <$> t.reading?
  | .ctor "@Tfunction" [.token word, t, .list ts] => do
    let cc ← CallingConv.ofToken? word
    let params ← Term.readings? ts
    let result ← t.reading?
    return .mk [] (.function cc result params)
  | .ctor "Ttemplate" [.str name] => some (.mk [] (.templateParam name))
  | t => (fun b ↦ .mk [] (.builtin b)) <$> t.builtin?

/-- The readings that some terms write. -/
def Term.readings? : List Term → Option (List Reading)
  | [] => some []
  | t :: ts => do
    let r ← t.reading?
    let rs ← Term.readings? ts
    return r :: rs

end

@[simp] theorem Width.ofToken?_optionToken (w : Option Width) :
    ofToken? (optionToken w) = some w := by
  cases w with
  | none => rfl
  | some w => cases w <;> rfl

@[simp] theorem Signedness.ofName?_name (sign : Signedness) : ofName? sign.name = some sign := by
  cases sign <;> rfl

/-- No two conventions have the same token. -/
theorem CallingConv.ofToken?_of_token? {cc : CallingConv} {token : String}
    (h : cc.token? = some token) : ofToken? token = some cc := by
  cases cc <;> cases h <;> rfl

theorem Builtin.Reading.reading?_term {b : Builtin.Reading} {t : Term} (h : b.term? = some t) :
    t.reading? = some (.mk [] (.builtin b)) := by
  cases b with
  | void => cases h; rfl
  | bool => cases h; rfl
  | nullPtr => cases h; rfl
  | integer w sign =>
    cases w with
    | none => cases h; simp [Term.reading?, Term.builtin?]
    | some w => cases h; cases w <;> cases sign <;> rfl
  | character w sign => cases h; simp [Term.reading?, Term.builtin?]
  | floating w => cases h; simp [Term.reading?, Term.builtin?]
  | sizeless spelling => cases h; simp [Term.reading?, Term.builtin?]
  | placeholder kind => cases h

theorem Qualification.reading?_wrap (q : Qualification) (t : Term) :
    (q.wrap t).reading? = t.reading?.map (Reading.cons q) := by
  cases q <;> simp [wrap, Term.reading?]

/-- Qualifiers are read back one by one. -/
theorem Reading.reading?_wrap {head : Head} {t : Term} (h : t.reading? = some (.mk [] head))
    (qualifications : List Qualification) :
    (qualifications.foldr (fun q t ↦ q.wrap t) t).reading? = some (.mk qualifications head) := by
  induction qualifications with
  | nil => exact h
  | cons q qualifications ih =>
    rw [List.foldr_cons, Qualification.reading?_wrap, ih]
    rfl

mutual

/-- The term of a reading is read as that reading. -/
theorem Reading.reading?_term {r : Reading} {t : Term} (h : r.term? = some t) :
    t.reading? = some r := by
  obtain ⟨qualifications, head⟩ := r
  obtain ⟨inner, hi, ht⟩ := Option.bind_eq_some_iff.mp h
  cases ht
  exact Reading.reading?_wrap (Head.reading?_term hi) qualifications

theorem Head.reading?_term {head : Head} {t : Term} (h : head.term? = some t) :
    t.reading? = some (.mk [] head) := by
  cases head with
  | null => cases h
  | builtin b => exact Builtin.Reading.reading?_term h
  | indirect kind pointee =>
    obtain ⟨inner, hi, ht⟩ := Option.bind_eq_some_iff.mp h
    cases ht
    have pointee := Reading.reading?_term hi
    cases kind <;> simp [Indirection.ctor, Term.reading?, pointee]
  | memberPointer owner pointee =>
    obtain ⟨name, rfl, h⟩ := Option.bind_eq_some_iff.mp h
    obtain ⟨inner, hi, ht⟩ := Option.bind_eq_some_iff.mp h
    cases ht
    have pointee := Reading.reading?_term hi
    simp [Term.reading?, pointee]
  | named name =>
    obtain ⟨name, rfl, ht⟩ := Option.bind_eq_some_iff.mp h
    cases ht
    simp [Term.reading?]
  | «alias» name target =>
    obtain ⟨name, rfl, h⟩ := Option.bind_eq_some_iff.mp h
    obtain ⟨inner, hi, ht⟩ := Option.bind_eq_some_iff.mp h
    cases ht
    have target := Reading.reading?_term hi
    simp [Term.reading?, target]
  | notDeduced => cases h
  | array element length =>
    obtain ⟨inner, hi, ht⟩ := Option.bind_eq_some_iff.mp h
    cases ht
    have element := Reading.reading?_term hi
    simp [Term.reading?, element]
  | function cc result params =>
    obtain ⟨token, hcc, h⟩ := Option.bind_eq_some_iff.mp h
    obtain ⟨ts, hp, h⟩ := Option.bind_eq_some_iff.mp h
    obtain ⟨inner, hr, ht⟩ := Option.bind_eq_some_iff.mp h
    cases ht
    have params := Reading.readings?_terms hp
    have result := Reading.reading?_term hr
    simp [Term.reading?, CallingConv.ofToken?_of_token? hcc, params, result]
  | templateParam name =>
    cases h
    simp [Term.reading?]
  | opaqueSpecialization template => cases h
  | unsupported className => cases h

theorem Reading.readings?_terms {rs : List Reading} {ts : List Term}
    (h : Reading.terms? rs = some ts) : Term.readings? ts = some rs := by
  cases rs with
  | nil =>
    cases h
    rfl
  | cons r rs =>
    obtain ⟨t, ht, h⟩ := Option.bind_eq_some_iff.mp h
    obtain ⟨us, hu, h⟩ := Option.bind_eq_some_iff.mp h
    cases h
    have first := Reading.reading?_term ht
    have others := Reading.readings?_terms hu
    simp [Term.readings?, first, others]

end

/-- Two references that have terms have the same one exactly if they read alike. -/
theorem TypeRef.lower_eq_iff_reading_eq {r s : TypeRef} {t u : Term} (hr : r.lower.result = .ok t)
    (hs : s.lower.result = .ok u) : t = u ↔ r.reading = s.reading := by
  have tr : r.reading.term? = some t := by
    rw [← r.value?_lower]
    exact Logged.value?_eq_some_iff.mpr hr
  have us : s.reading.term? = some u := by
    rw [← s.value?_lower]
    exact Logged.value?_eq_some_iff.mpr hs
  constructor
  · rintro rfl
    have same := (Reading.reading?_term tr).symm.trans (Reading.reading?_term us)
    exact Option.some.inj same
  · intro h
    rw [h, us] at tr
    exact (Option.some.inj tr).symm

/-- An array without a bound and a decayed one, whatever it was written as, have the same term. -/
theorem TypeRef.lower_eq_iff_reading_eq_arrays :
    (of (.incompleteArray (of (.builtin .bool)))).lower.result =
        .ok (constPointer (.token "Tbool")) ∧
      (of (.decayed (.null .none) (of (.builtin .bool)))).lower.result =
        .ok (constPointer (.token "Tbool")) ∧
      (constPointer (.token "Tbool") = constPointer (.token "Tbool") ↔
        (of (.incompleteArray (of (.builtin .bool)))).reading =
          (of (.decayed (.null .none) (of (.builtin .bool)))).reading) :=
  ⟨rfl, rfl, lower_eq_iff_reading_eq rfl rfl⟩

end Reify
