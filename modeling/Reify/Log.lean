import Reify.Text.ControlSequence

/-!
# Log records

Every step of a translation may leave records. A computation that fails keeps the records it made
before the failure, so a `Logged` value carries its records beside its result, not inside it.
-/

namespace Reify

/-- How much a record matters, least first. -/
inductive Level where
  | trace
  | debug
  | info
  | warn
deriving DecidableEq, Repr

namespace Level

/-- The name shown in front of a message. -/
def name : Level → String
  | .trace => "TRACE"
  | .debug => "DEBUG"
  | .info => "INFO"
  | .warn => "WARN"

/-- The position in the order of importance. -/
def rank : Level → Nat
  | .trace => 0
  | .debug => 1
  | .info => 2
  | .warn => 3

end Level

/-- One log record. -/
@[ext]
structure Record where
  level : Level
  message : String
deriving DecidableEq, Repr

/-- A record as it is shown: its level and message, further lines of the message indented, and
nothing in it that steers a terminal. The end of the line is part of it, so that a sequence left
open may swallow it. -/
def Record.line (r : Record) : String :=
  let message := r.message.toList.flatMap fun c ↦ if c = '\n' then "\n    ".toList else [c]
  Text.withoutSequences (r.level.name ++ " " ++ String.ofList message ++ "\n")

/-- A record is shown when its level reaches the threshold. -/
def Record.reaches (threshold : Level) (r : Record) : Bool :=
  threshold.rank ≤ r.level.rank

/-- A result or a failure of kind `ε`, with everything logged on the way to it. -/
@[ext]
structure Logged (ε α : Type) where
  log : List Record
  result : Except ε α

namespace Logged

variable {ε α β : Type}

/-- A bind runs its second stage only after a result, and keeps both logs in order. -/
instance instMonad : Monad (Logged ε) where
  pure a := ⟨[], .ok a⟩
  bind x f := match x.result with
    | .ok a => ⟨x.log ++ (f a).log, (f a).result⟩
    | .error e => ⟨x.log, .error e⟩

/-- A failure that logs nothing. -/
def fail (e : ε) : Logged ε α := ⟨[], .error e⟩

/-- One record and nothing else. -/
def record (level : Level) (message : String) : Logged ε Unit := ⟨[⟨level, message⟩], .ok ()⟩

/-- A result or failure that logs nothing. -/
def ofExcept (x : Except ε α) : Logged ε α := ⟨[], x⟩

/-- The same run with its failure described in other terms. -/
def mapError {δ : Type} (f : ε → δ) (x : Logged ε α) : Logged δ α := ⟨x.log, x.result.mapError f⟩

@[simp] theorem log_pure (a : α) : (pure a : Logged ε α).log = [] := rfl
@[simp] theorem result_pure (a : α) : (pure a : Logged ε α).result = .ok a := rfl
@[simp] theorem log_fail (e : ε) : (fail e : Logged ε α).log = [] := rfl
@[simp] theorem result_fail (e : ε) : (fail e : Logged ε α).result = .error e := rfl

/-- A bind after a result continues with it. -/
theorem bind_of_ok {x : Logged ε α} {a : α} (h : x.result = .ok a) (f : α → Logged ε β) :
    x >>= f = ⟨x.log ++ (f a).log, (f a).result⟩ := by
  simp only [bind, h]

/-- A bind after a failure stops there. -/
theorem bind_of_error {x : Logged ε α} {e : ε} (h : x.result = .error e) (f : α → Logged ε β) :
    x >>= f = ⟨x.log, .error e⟩ := by
  simp only [bind, h]

/-- The result of a bind is that of its second stage, unless the first one failed. -/
theorem result_bind (x : Logged ε α) (f : α → Logged ε β) :
    (x >>= f).result = x.result.bind fun a ↦ (f a).result := by
  cases h : x.result with
  | ok a => rw [bind_of_ok h]; rfl
  | error e => rw [bind_of_error h]; rfl

/-- A bind has a result exactly if both stages have one. -/
theorem result_bind_eq_ok_iff {x : Logged ε α} {f : α → Logged ε β} {b : β} :
    (x >>= f).result = .ok b ↔ ∃ a, x.result = .ok a ∧ (f a).result = .ok b := by
  rw [result_bind]
  cases x.result with
  | ok a => simp [Except.bind]
  | error e => simp [Except.bind]

/-- What a run yields, if it does not fail. -/
def value? (x : Logged ε α) : Option α := x.result.toOption

@[simp] theorem value?_pure (a : α) : (pure a : Logged ε α).value? = some a := rfl
@[simp] theorem value?_fail (e : ε) : (fail e : Logged ε α).value? = none := rfl
@[simp] theorem value?_record (level : Level) (message : String) :
    (record level message : Logged ε Unit).value? = some () := rfl

@[simp] theorem value?_bind (x : Logged ε α) (f : α → Logged ε β) :
    (x >>= f).value? = x.value?.bind fun a ↦ (f a).value? := by
  rw [value?, value?, result_bind]
  cases x.result with
  | ok a => rfl
  | error e => rfl

theorem value?_eq_some_iff {x : Logged ε α} {a : α} : x.value? = some a ↔ x.result = .ok a := by
  rw [value?]
  cases x.result with
  | ok b => simp [Except.toOption]
  | error e => simp [Except.toOption]

end Logged

end Reify
