import Reify.Json.Printer
import Reify.Json.Reader

/-!
# Options of a translation
-/

namespace Reify

/-- What a translation walks, and what it reports. -/
@[ext]
structure Options where
  /-- Walk the specializations of templates. -/
  elaborate : Bool
  /-- Walk the patterns of templates. -/
  templates : Bool
  /-- Report every insertion into the module. -/
  traceModule : Bool
deriving DecidableEq, Repr

namespace Options

/-- Specializations are walked, patterns are not, and insertions are not reported. -/
def standard : Options := ⟨true, false, false⟩

/-- The options in JSON. -/
def toJson (o : Options) : Json :=
  .record [("elaborate", .bool o.elaborate), ("templates", .bool o.templates),
    ("trace_module_builder", .bool o.traceModule)]

/-- The options that a value gives. No field may be left out. -/
def ofJson? : Nat → Json → Option Options
  | _ + 1, j => do
    match ← Json.slots? ["elaborate", "templates", "trace_module_builder"] j with
    | [elaborate, templates, traceModule] =>
      return ⟨← Json.bool? (← elaborate), ← Json.bool? (← templates),
        ← Json.bool? (← traceModule)⟩
    | _ => none
  | 0, _ => none

end Options

end Reify
