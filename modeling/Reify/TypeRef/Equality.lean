import Reify.TypeRef.Basic

/-!
# Equality of types
-/

namespace Reify

mutual

/-- Whether two references agree. -/
def TypeRef.same : TypeRef → TypeRef → Bool
  | .null q, .null q' => q == q'
  | .node q t, .node q' t' => q == q' && TypeNode.same t t'
  | _, _ => false

/-- Whether two nodes agree. -/
def TypeNode.same : TypeNode → TypeNode → Bool
  | .builtin b, .builtin b' => b == b'
  | .indirect k t, .indirect k' t' => k == k' && TypeRef.same t t'
  | .memberPointer d t, .memberPointer d' t' => d == d' && TypeRef.same t t'
  | .record d, .record d' => d == d'
  | .alias k d t, .alias k' d' t' => k == k' && d == d' && TypeRef.same t t'
  | .injectedClassName d t, .injectedClassName d' t' => d == d' && TypeRef.same t t'
  | .sugar k t, .sugar k' t' => k == k' && TypeRef.same t t'
  | .deduced t, .deduced t' => TypeRef.same t t'
  | .constantArray t n, .constantArray t' n' => TypeRef.same t t' && n == n'
  | .incompleteArray t, .incompleteArray t' => TypeRef.same t t'
  | .decayed t u, .decayed t' u' => TypeRef.same t t' && TypeRef.same u u'
  | .function cc t ts, .function cc' t' ts' =>
    cc == cc' && TypeRef.same t t' && TypeRef.sameAll ts ts'
  | .templateParam s, .templateParam s' => s == s'
  | .opaqueSpecialization s, .opaqueSpecialization s' => s == s'
  | .aliasSpecialization s t, .aliasSpecialization s' t' => s == s' && TypeRef.same t t'
  | .unsupported s, .unsupported s' => s == s'
  | _, _ => false

/-- Whether two lists of references agree. -/
def TypeRef.sameAll : List TypeRef → List TypeRef → Bool
  | [], [] => true
  | t :: ts, t' :: ts' => TypeRef.same t t' && TypeRef.sameAll ts ts'
  | _, _ => false

end

instance : BEq TypeRef := ⟨TypeRef.same⟩

instance : BEq TypeNode := ⟨TypeNode.same⟩

end Reify
