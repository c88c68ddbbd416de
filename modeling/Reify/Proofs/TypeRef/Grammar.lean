import Reify.Proofs.Term.Proper

/-!
# The grammar of types

`Term.IsType` is the grammar of types in the term language, production by production and in the very
words of a text.  Lowering reaches this grammar and nothing else.  What it yields is derivable, by
induction on the type; and each production is met by a type, which is found by induction on the
derivation.

Beside the grammar stands a checker, `Term.hasRole`, that knows each word and each constructor with
the roles of its arguments.  Derivable terms pass it, so a constructor never stands without its
arguments or with others, and records and truth values are nowhere in a type.
-/

namespace Reify

namespace Term

/-! ## The grammar -/

/-- The integer types that are one word. -/
def integerWords : List String :=
  ["T_int8", "T_int16", "T_int32", "T_int64", "T_int128",
    "T_uint8", "T_uint16", "T_uint32", "T_uint64", "T_uint128"]

/-- The words for a number of bits. -/
def widthWords : List String := ["W8", "W16", "W32", "W64", "W128", "unknown_bit_size"]

/-- The words for having a sign or none. -/
def signWords : List String := ["Signed", "Unsigned"]

/-- The words for calling conventions. -/
def conventionWords : List String := ["CC_C", "CC_MsAbi", "CC_RegCall"]

/-- The terms that are types. -/
inductive IsType : Term → Prop
  | bool : IsType (.token "Tbool")
  | void : IsType (.token "Tvoid")
  | nullPtr : IsType (.token "Tnullptr")
  | integer {word : String} (hw : word ∈ integerWords) : IsType (.token word)
  /-- The general form of an integer is left for the numbers of bits that are no width. -/
  | oddInteger {sign : String} (hs : sign ∈ signWords) :
    IsType (.ctor "Tint" [.token "unknown_bit_size", .token sign])
  | character {width sign : String} (hw : width ∈ widthWords) (hs : sign ∈ signWords) :
    IsType (.ctor "Tchar" [.token width, .token sign])
  | floating {width : String} (hw : width ∈ widthWords) : IsType (.ctor "Tfloat" [.token width])
  | sizeless (spelling : String) : IsType (.ctor "Tarch" [.token "None", .str spelling])
  | pointer {t : Term} (ht : IsType t) : IsType (.ctor "Tptr" [t])
  | lvalueReference {t : Term} (ht : IsType t) : IsType (.ctor "Tref" [t])
  | rvalueReference {t : Term} (ht : IsType t) : IsType (.ctor "Trv_ref" [t])
  | memberPointer (owner : String) {t : Term} (ht : IsType t) :
    IsType (.ctor "Tmember_pointer" [.str owner, t])
  | named (name : String) : IsType (.ctor "Tnamed" [.str name])
  | alias (name : String) {t : Term} (ht : IsType t) : IsType (.ctor "@Talias" [.str name, t])
  | array {t : Term} (ht : IsType t) (length : UInt64) : IsType (.ctor "Tarray" [t, .int length])
  | function {convention : String} (hc : convention ∈ conventionWords) {t : Term} (ht : IsType t)
    {params : List Term} (hp : ∀ p ∈ params, IsType p) :
    IsType (.ctor "@Tfunction" [.token convention, t, .list params])
  | templateParam (name : String) : IsType (.ctor "Ttemplate" [.str name])
  | const {t : Term} (ht : IsType t) : IsType (.ctor "Qconst" [t])
  | constVolatile {t : Term} (ht : IsType t) : IsType (.ctor "Qconst_volatile" [t])
  | volatile {t : Term} (ht : IsType t) : IsType (.ctor "Qmut_volatile" [t])

/-! ## Roles -/

/-- What a term is for at the place where it stands. -/
inductive Role where
  | type
  /-- The parameters of a function. -/
  | types
  | text
  | length
  | width
  | sign
  | convention
  /-- The part of a target's type that has no term. -/
  | target
deriving DecidableEq, Repr

/-- The words that a role can be filled with. -/
def Role.words : Role → List String
  | .type => "Tbool" :: "Tvoid" :: "Tnullptr" :: integerWords
  | .width => widthWords
  | .sign => signWords
  | .convention => conventionWords
  | .target => ["None"]
  | .types | .text | .length => []

/-- Every constructor of a type, with the roles of its arguments. -/
def typeConstructors : List (String × List Role) :=
  [("Tint", [.width, .sign]), ("Tchar", [.width, .sign]), ("Tfloat", [.width]),
    ("Tarch", [.target, .text]), ("Tptr", [.type]), ("Tref", [.type]), ("Trv_ref", [.type]),
    ("Tmember_pointer", [.text, .type]), ("Tnamed", [.text]), ("@Talias", [.text, .type]),
    ("Tarray", [.type, .length]), ("@Tfunction", [.convention, .type, .types]),
    ("Ttemplate", [.text]), ("Qconst", [.type]), ("Qconst_volatile", [.type]),
    ("Qmut_volatile", [.type])]

mutual

/-- Whether a term can fill a role, and so can all of its parts theirs. -/
def hasRole (role : Role) : Term → Bool
  | .token word => role.words.contains word
  | .str _ => role == .text
  | .int _ => role == .length
  | .list items => role == .types && areTypes items
  | .ctor name args =>
    role == .type && match typeConstructors.lookup name with
      | some roles => haveRoles roles args
      | none => false
  | .record _ | .bool _ => false

/-- Whether all of some terms are types. -/
def areTypes : List Term → Bool
  | [] => true
  | t :: ts => t.hasRole .type && areTypes ts

/-- Whether arguments fill these roles, one each. -/
def haveRoles : List Role → List Term → Bool
  | [], [] => true
  | role :: roles, t :: ts => t.hasRole role && haveRoles roles ts
  | _, _ => false

end

theorem areTypes_of_forall {ts : List Term} (h : ∀ t ∈ ts, t.hasRole .type) : areTypes ts := by
  induction ts with
  | nil => rfl
  | cons t ts ih =>
    obtain ⟨first, others⟩ := List.forall_mem_cons.mp h
    rw [areTypes, first, ih others]
    rfl

/-- A constructor whose arguments fill its roles is a type. -/
theorem hasRole_ctor {name : String} {roles : List Role} {args : List Term}
    (known : typeConstructors.lookup name = some roles) (fill : haveRoles roles args) :
    (Term.ctor name args).hasRole .type := by
  rw [hasRole, known]
  exact fill

/-- Derivable terms are built from the known words and constructors alone. -/
theorem IsType.hasRole {t : Term} (h : t.IsType) : t.hasRole .type := by
  induction h with
  | bool | void | nullPtr => rfl
  | integer hw =>
    have word := List.mem_cons_of_mem "Tbool" (List.mem_cons_of_mem "Tvoid"
      (List.mem_cons_of_mem "Tnullptr" hw))
    exact List.contains_iff_mem.mpr word
  | oddInteger hs =>
    apply hasRole_ctor rfl
    simpa [haveRoles, Term.hasRole, Role.words, widthWords] using hs
  | character hw hs =>
    apply hasRole_ctor rfl
    simpa [haveRoles, Term.hasRole, Role.words] using And.intro hw hs
  | floating hw =>
    apply hasRole_ctor rfl
    simpa [haveRoles, Term.hasRole, Role.words] using hw
  | sizeless spelling | named name | templateParam name => rfl
  | pointer ht ih | lvalueReference ht ih | rvalueReference ht ih | memberPointer owner ht ih
  | «alias» name ht ih | array ht length ih | const ht ih | constVolatile ht ih | volatile ht ih =>
    apply hasRole_ctor rfl
    simpa [haveRoles, Term.hasRole] using ih
  | function hc ht hp ih params =>
    apply hasRole_ctor rfl
    have types := areTypes_of_forall params
    simpa [haveRoles, Term.hasRole, Role.words, ih, types] using hc

end Term

/-! ## What lowering yields is a type -/

theorem Width.token_mem_widthWords (w : Width) : w.token ∈ Term.widthWords := by
  cases w <;> simp [token, Term.widthWords]

theorem Width.integerToken_mem_integerWords (w : Width) (sign : Signedness) :
    w.integerToken sign ∈ Term.integerWords := by
  cases w <;> cases sign <;> simp [integerToken, Term.integerWords]

theorem Signedness.name_mem_signWords (sign : Signedness) : sign.name ∈ Term.signWords := by
  cases sign <;> simp [name, Term.signWords]

theorem CallingConv.mem_conventionWords {cc : CallingConv} {token : String}
    (h : cc.token? = some token) : token ∈ Term.conventionWords := by
  cases cc <;> cases h <;> simp [Term.conventionWords]

theorem bitsize_mem_widthWords (bits : UInt32) : bitsize bits ∈ Term.widthWords := by
  rw [bitsize]
  split
  · rename_i w _
    exact w.token_mem_widthWords
  · simp [Term.widthWords]

theorem isType_integerTerm (bits : UInt32) (sign : Signedness) :
    (integerTerm bits sign).IsType := by
  rw [integerTerm, bitsize]
  cases Width.ofBits? bits with
  | some w => exact .integer (w.integerToken_mem_integerWords sign)
  | none => exact .oddInteger sign.name_mem_signWords

theorem isType_constPointer {t : Term} (h : t.IsType) : (constPointer t).IsType :=
  .const (.pointer h)

theorem Indirection.isType_ctor (kind : Indirection) {t : Term} (h : t.IsType) :
    (Term.ctor kind.ctor [t]).IsType := by
  cases kind with
  | pointer => exact .pointer h
  | lvalueReference => exact .lvalueReference h
  | rvalueReference => exact .rvalueReference h

theorem Qualifiers.isType_wrap (q : Qualifiers) {t : Term} (h : t.IsType) :
    (q.wrap t).IsType := by
  obtain ⟨isConst, isVolatile⟩ := q
  cases isConst with
  | false =>
    cases isVolatile with
    | false => exact h
    | true => exact .volatile h
  | true =>
    cases isVolatile with
    | false => exact .const h
    | true => exact .constVolatile h

/-- The name of a declaration is lowered to a string literal. -/
theorem DeclRef.lower_yields_str (r : DeclRef) : r.lower.Yields fun t ↦ ∃ name, t = .str name := by
  rw [lower]
  split
  · rename_i name _
    exact .pure ⟨name, rfl⟩
  · exact .fail _ _

theorem CallingConv.lower_yields_token (cc : CallingConv) :
    cc.lower.Yields fun t ↦ ∃ word ∈ Term.conventionWords, t = .token word := by
  rw [lower]
  split
  · rename_i word h
    exact .pure ⟨word, mem_conventionWords h, rfl⟩
  · exact .fail _ _

theorem Builtin.lower_yields_type (b : Builtin) : b.lower.Yields Term.IsType := by
  rw [lower]
  split
  case h_1 => exact .pure .void
  case h_2 => exact .pure .bool
  case h_3 => exact .pure .nullPtr
  case h_4 sign _ => exact .pure (isType_integerTerm b.bits sign)
  case h_5 sign _ =>
    exact .pure (.character (bitsize_mem_widthWords b.bits) sign.name_mem_signWords)
  case h_6 => exact .pure (.floating (bitsize_mem_widthWords b.bits))
  case h_7 => exact .pure (.sizeless b.spelling)
  case h_8 => exact .fail _ _

mutual

/-- The term of a reference is a type. -/
theorem TypeRef.lower_yields_type (type : TypeRef) : type.lower.Yields Term.IsType := by
  cases type with
  | null q => exact .fail _ _
  | node q type =>
    refine type.lower_yields_type.bind fun t ht ↦ ?_
    exact .pure (q.isType_wrap ht)

/-- The term of a node is a type. -/
theorem TypeNode.lower_yields_type (type : TypeNode) : type.lower.Yields Term.IsType := by
  cases type with
  | builtin b => exact b.lower_yields_type
  | indirect kind pointee =>
    refine pointee.lower_yields_type.bind fun t ht ↦ ?_
    exact .pure (kind.isType_ctor ht)
  | memberPointer owner pointee =>
    refine owner.lower_yields_str.bind ?_
    rintro _ ⟨name, rfl⟩
    refine pointee.lower_yields_type.bind fun t ht ↦ ?_
    exact .pure (.memberPointer name ht)
  | record decl =>
    refine decl.lower_yields_str.bind ?_
    rintro _ ⟨name, rfl⟩
    exact .pure (.named name)
  | «alias» kind decl target =>
    refine decl.lower_yields_str.bind ?_
    rintro _ ⟨name, rfl⟩
    refine target.lower_yields_type.bind fun t ht ↦ ?_
    exact .pure (.alias name ht)
  | injectedClassName decl specialization =>
    cases decl with
    | some decl =>
      refine decl.lower_yields_str.bind ?_
      rintro _ ⟨name, rfl⟩
      exact .pure (.named name)
    | none =>
      refine (Logged.Yields.record _ _).bind fun _ _ ↦ ?_
      exact specialization.lower_yields_type
  | sugar kind inner => exact inner.lower_yields_type
  | deduced type =>
    cases type with
    | null q => exact .fail _ _
    | node q node => exact TypeRef.lower_yields_type (.node q node)
  | constantArray element size =>
    refine element.lower_yields_type.bind fun t ht ↦ ?_
    exact .pure (.array ht _)
  | incompleteArray element =>
    refine element.lower_yields_type.bind fun t ht ↦ ?_
    exact .pure (isType_constPointer ht)
  | decayed original pointee =>
    refine pointee.lower_yields_type.bind fun t ht ↦ ?_
    exact .pure (isType_constPointer ht)
  | function cc result params =>
    refine cc.lower_yields_token.bind ?_
    rintro _ ⟨word, hw, rfl⟩
    refine (TypeRef.lowerAll_yields_types params).bind fun ts hts ↦ ?_
    refine result.lower_yields_type.bind fun t ht ↦ ?_
    exact .pure (.function hw ht hts)
  | templateParam name => exact .pure (.templateParam name)
  | opaqueSpecialization template => exact .fail _ _
  | aliasSpecialization template target => exact target.lower_yields_type
  | unsupported className => exact .fail _ _

/-- The terms of some references are types. -/
theorem TypeRef.lowerAll_yields_types (types : List TypeRef) :
    (TypeRef.lowerAll types).Yields fun ts ↦ ∀ t ∈ ts, t.IsType := by
  cases types with
  | nil => exact .pure nofun
  | cons type types =>
    refine type.lower_yields_type.bind fun t ht ↦ ?_
    refine (TypeRef.lowerAll_yields_types types).bind fun ts hts ↦ ?_
    exact .pure (List.forall_mem_cons.mpr ⟨ht, hts⟩)

end

/-! ## Every type is lowered to -/

theorem Signedness.exists_name {word : String} (h : word ∈ Term.signWords) :
    ∃ sign : Signedness, sign.name = word := by
  simp only [Term.signWords, List.mem_cons, List.not_mem_nil, or_false] at h
  rcases h with rfl | rfl
  · exact ⟨.signed, rfl⟩
  · exact ⟨.unsigned, rfl⟩

theorem CallingConv.exists_token? {word : String} (h : word ∈ Term.conventionWords) :
    ∃ cc : CallingConv, cc.token? = some word := by
  simp only [Term.conventionWords, List.mem_cons, List.not_mem_nil, or_false] at h
  rcases h with rfl | rfl | rfl
  · exact ⟨.c, rfl⟩
  · exact ⟨.win64, rfl⟩
  · exact ⟨.x86RegCall, rfl⟩

/-- Each word for a width is that of a number of bits, the last one that of none at all. -/
theorem exists_bitsize {word : String} (h : word ∈ Term.widthWords) :
    ∃ bits, bitsize bits = word := by
  simp only [Term.widthWords, List.mem_cons, List.not_mem_nil, or_false] at h
  rcases h with rfl | rfl | rfl | rfl | rfl | rfl
  · exact ⟨8, rfl⟩
  · exact ⟨16, rfl⟩
  · exact ⟨32, rfl⟩
  · exact ⟨64, rfl⟩
  · exact ⟨128, rfl⟩
  · exact ⟨0, rfl⟩

theorem exists_integerTerm {word : String} (h : word ∈ Term.integerWords) :
    ∃ bits sign, integerTerm bits sign = .token word := by
  simp only [Term.integerWords, List.mem_cons, List.not_mem_nil, or_false] at h
  rcases h with rfl | rfl | rfl | rfl | rfl | rfl | rfl | rfl | rfl | rfl
  · exact ⟨8, .signed, rfl⟩
  · exact ⟨16, .signed, rfl⟩
  · exact ⟨32, .signed, rfl⟩
  · exact ⟨64, .signed, rfl⟩
  · exact ⟨128, .signed, rfl⟩
  · exact ⟨8, .unsigned, rfl⟩
  · exact ⟨16, .unsigned, rfl⟩
  · exact ⟨32, .unsigned, rfl⟩
  · exact ⟨64, .unsigned, rfl⟩
  · exact ⟨128, .unsigned, rfl⟩

/-- Every length is that of an array of this size. -/
theorem arrayLength_ofNat (length : UInt64) :
    arrayLength (BitVec.ofNat 128 length.toNat) = length := by
  have small : length.toNat < UInt64.size := length.toNat_lt_size
  have wide : length.toNat < 2 ^ 128 := Nat.lt_trans small (by decide)
  have size : (BitVec.ofNat 128 length.toNat).toNat = length.toNat := by
    rw [BitVec.toNat_ofNat, Nat.mod_eq_of_lt wide]
  rw [arrayLength, size, if_pos small, UInt64.ofNat_toNat]

/-- A declaration of that name: the mangled name is taken as it is, even an empty one. -/
def DeclRef.ofName (name : String) : DeclRef := ⟨0, name, some name⟩

@[simp] theorem DeclRef.value?_lower_ofName (name : String) :
    (ofName name).lower.value? = some (.str name) := rfl

@[simp] theorem TypeRef.value?_lower_of (type : TypeNode) :
    (TypeRef.of type).lower.value? = type.lower.value? := by
  rw [TypeRef.of, TypeRef.lower, Logged.value?_bind]
  cases type.lower.value? with
  | none => rfl
  | some t => rfl

theorem Indirection.exists_lower (kind : Indirection) {t : Term}
    (h : ∃ r : TypeRef, r.lower.value? = some t) :
    ∃ r : TypeRef, r.lower.value? = some (.ctor kind.ctor [t]) := by
  obtain ⟨r, hr⟩ := h
  refine ⟨.of (.indirect kind r), ?_⟩
  simp [TypeNode.lower, hr]

/-- Qualifiers are put around a type by a reference to a parenthesized one, which adds nothing of
its own. -/
theorem Qualifiers.exists_lower (q : Qualifiers) {t : Term}
    (h : ∃ r : TypeRef, r.lower.value? = some t) :
    ∃ r : TypeRef, r.lower.value? = some (q.wrap t) := by
  obtain ⟨r, hr⟩ := h
  refine ⟨.node q (.sugar .paren r), ?_⟩
  simp [TypeRef.lower, TypeNode.lower, hr]

/-- Terms that are each reached from a type are reached from the types together. -/
theorem TypeRef.exists_lowerAll {ts : List Term}
    (h : ∀ t ∈ ts, ∃ r : TypeRef, r.lower.value? = some t) :
    ∃ rs : List TypeRef, (TypeRef.lowerAll rs).value? = some ts := by
  induction ts with
  | nil => exact ⟨[], rfl⟩
  | cons t ts ih =>
    obtain ⟨⟨r, hr⟩, others⟩ := List.forall_mem_cons.mp h
    obtain ⟨rs, hrs⟩ := ih others
    refine ⟨r :: rs, ?_⟩
    simp [TypeRef.lowerAll, hr, hrs]

/-- Each production of the grammar is met by a type. -/
theorem Term.IsType.exists_lower {t : Term} (h : t.IsType) :
    ∃ r : TypeRef, r.lower.value? = some t := by
  induction h with
  | bool => exact ⟨.of (.builtin .bool), rfl⟩
  | void => exact ⟨.of (.builtin .void), rfl⟩
  | nullPtr => exact ⟨.of (.builtin .nullPtr), rfl⟩
  | integer hw =>
    obtain ⟨bits, sign, hi⟩ := exists_integerTerm hw
    refine ⟨.of (.builtin (.integer bits sign)), ?_⟩
    rw [← hi]
    rfl
  | oddInteger hs =>
    obtain ⟨sign, rfl⟩ := Signedness.exists_name hs
    exact ⟨.of (.builtin (.integer 0 sign)), rfl⟩
  | character hw hs =>
    obtain ⟨bits, rfl⟩ := exists_bitsize hw
    obtain ⟨sign, rfl⟩ := Signedness.exists_name hs
    exact ⟨.of (.builtin (.character bits sign)), rfl⟩
  | floating hw =>
    obtain ⟨bits, rfl⟩ := exists_bitsize hw
    exact ⟨.of (.builtin (.floating bits)), rfl⟩
  | sizeless spelling => exact ⟨.of (.builtin ⟨.sizeless, 0, spelling⟩), rfl⟩
  | pointer ht ih => exact Indirection.pointer.exists_lower ih
  | lvalueReference ht ih => exact Indirection.lvalueReference.exists_lower ih
  | rvalueReference ht ih => exact Indirection.rvalueReference.exists_lower ih
  | memberPointer owner ht ih =>
    obtain ⟨r, hr⟩ := ih
    refine ⟨.of (.memberPointer (.ofName owner) r), ?_⟩
    simp [TypeNode.lower, hr]
  | named name => exact ⟨.of (.record (.ofName name)), rfl⟩
  | «alias» name ht ih =>
    obtain ⟨r, hr⟩ := ih
    refine ⟨.of (.alias .definition (.ofName name) r), ?_⟩
    simp [TypeNode.lower, hr]
  | array ht length ih =>
    obtain ⟨r, hr⟩ := ih
    refine ⟨.of (.constantArray r (.ofNat 128 length.toNat)), ?_⟩
    simp [TypeNode.lower, hr, arrayLength_ofNat]
  | function hc ht hp ih params =>
    obtain ⟨cc, hcc⟩ := CallingConv.exists_token? hc
    obtain ⟨r, hr⟩ := ih
    obtain ⟨rs, hrs⟩ := TypeRef.exists_lowerAll params
    refine ⟨.of (.function cc r rs), ?_⟩
    simp [TypeNode.lower, CallingConv.lower, hcc, hr, hrs]
  | templateParam name => exact ⟨.of (.templateParam name), rfl⟩
  | const ht ih => exact Qualifiers.exists_lower ⟨true, false⟩ ih
  | constVolatile ht ih => exact Qualifiers.exists_lower ⟨true, true⟩ ih
  | volatile ht ih => exact Qualifiers.exists_lower ⟨false, true⟩ ih

/-- The image of lowering is the grammar of types: a term is that of a type exactly if it is
derivable, and then all of its words and constructors are those of the grammar, each with the
arguments that it takes. -/
theorem TypeRef.exists_lower_iff_isType (t : Term) :
    ((∃ r : TypeRef, r.lower.result = .ok t) ↔ t.IsType) ∧ (t.IsType → t.hasRole .type) := by
  refine ⟨?_, Term.IsType.hasRole⟩
  constructor
  · rintro ⟨r, hr⟩
    exact r.lower_yields_type t hr
  · intro h
    obtain ⟨r, hr⟩ := h.exists_lower
    exact ⟨r, Logged.value?_eq_some_iff.mp hr⟩

end Reify
