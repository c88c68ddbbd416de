import Reify.TypeRef.Basic

/-!
# Types as messages show them
-/

namespace Reify

mutual

/-- A reference as messages show it: its qualifiers, then its node. -/
def TypeRef.display : TypeRef → String
  | .null q => q.display ++ "<null>"
  | .node q type => q.display ++ type.display

/-- A node as messages show it. -/
def TypeNode.display : TypeNode → String
  | .builtin b => b.spelling
  | .indirect kind pointee => pointee.display ++ kind.mark
  | .memberPointer owner pointee => pointee.display ++ " " ++ owner.qualifiedName ++ "::*"
  | .record decl => decl.qualifiedName
  | .alias .enumeration decl _ => "enum " ++ decl.qualifiedName
  | .alias .definition decl _ => decl.qualifiedName
  | .injectedClassName (some decl) _ => decl.qualifiedName
  | .injectedClassName none specialization => specialization.display
  | .sugar kind inner => kind.display inner.display
  | .deduced (.null _) => "auto"
  | .deduced type => type.display
  | .constantArray element size => element.display ++ "[" ++ toString size.toNat ++ "]"
  | .incompleteArray element => element.display ++ "[]"
  | .decayed original _ => original.display ++ " (decayed)"
  | .function _ result params =>
    result.display ++ " (" ++ ", ".intercalate (TypeRef.displayAll params) ++ ")"
  | .templateParam name => name
  | .opaqueSpecialization template => template ++ "<...>"
  | .aliasSpecialization template _ => template ++ "<...>"
  | .unsupported className => "<" ++ className ++ ">"

/-- References as messages show them, one by one. -/
def TypeRef.displayAll : List TypeRef → List String
  | [] => []
  | t :: ts => t.display :: TypeRef.displayAll ts

end

end Reify
