import Reify.Decl.Basic
import Reify.TypeRef.Equality

/-!
# Equality of declarations
-/

namespace Reify

mutual

/-- Whether two declarations agree. -/
def Decl.same : Decl → Decl → Bool
  | .group h k ds, .group h' k' ds' => h == h' && k == k' && Decl.sameAll ds ds'
  | .record h t b ds, .record h' t' b' ds' => h == h' && t == t' && b == b' && Decl.sameAll ds ds'
  | .typed h e t, .typed h' e' t' => h == h' && e == e' && t == t'
  | .template h k d ds, .template h' k' d' ds' =>
    h == h' && k == k' && Decl.same d d' && Decl.sameAll ds ds'
  | .staticAssert h a, .staticAssert h' a' => h == h' && a == a'
  | _, _ => false

/-- Whether two lists of declarations agree. -/
def Decl.sameAll : List Decl → List Decl → Bool
  | [], [] => true
  | d :: ds, d' :: ds' => Decl.same d d' && Decl.sameAll ds ds'
  | _, _ => false

end

instance : BEq Decl := ⟨Decl.same⟩

end Reify
