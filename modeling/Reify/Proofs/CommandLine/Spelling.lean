import Mathlib.Data.List.Basic
import Mathlib.Data.List.Count
import Reify.Program

/-!
# How a command line is spelled

What is asked for can be said in many ways: the options and the input in any order, each value
behind an equals sign or as an argument of its own, the input in the open or behind two dashes.
`Spells` is the grammar of what is said, and `Config.SaidBy` what it amounts to, which does not
depend on the order but for the files of `--only`.

The command line is read from left to right, and a value that stands apart is checked late.  So the
state does not show directly what has been read; but it settles as what has been said so far
(`State.Reads`), and every further item keeps it that way.
-/

namespace Reify

namespace CommandLine

/-! ## What is said, and how -/

/-- One thing that a command line says. -/
inductive Item where
  /-- A value is given: the input, or that of an option. -/
  | value (slot : Slot) (text : String)
  | flag (f : Flag)
deriving DecidableEq, Repr

namespace Item

/-- The value that an item gives to a slot. -/
def text? (slot : Slot) : Item → Option String
  | .value slot' text => if slot' = slot then some text else none
  | .flag _ => none

end Item

/-- The values that some items give to a slot, in order. -/
def values (slot : Slot) (items : List Item) : List String := items.filterMap (Item.text? slot)

/-- The words that an option goes by. -/
def Choice.names : Choice → List String
  | .slot .input => []
  | .slot .output => ["--output", "-o"]
  | .slot .spec => ["--spec"]
  | .slot .only => ["--only"]
  | .flag .noElaborate => ["--no-elaborate"]
  | .flag .templates => ["--templates"]
  | .flag .verbose => ["--verbose", "-v"]
  | .flag .traceModule => ["--trace-module"]
  | .flag .help => ["--help", "-h"]
  | .flag .version => ["--version", "-V"]

/-- A text that can stand by itself as a value: a lone dash, or anything that begins otherwise. -/
def IsPlain (text : String) : Prop := text = "-" ∨ text.toList.head? ≠ some '-'

instance (text : String) : Decidable (IsPlain text) := inferInstanceAs (Decidable (_ ∨ _))

/-- Some arguments spell some items, in the same order. -/
inductive Spells : List Item → List String → Prop where
  | done : Spells [] []
  /-- An option with its value behind an equals sign. -/
  | attached {slot : Slot} {name text : String} {items : List Item} {args : List String}
      (named : name ∈ (Choice.slot slot).names) (rest : Spells items args) :
      Spells (.value slot text :: items) ((name ++ "=" ++ text) :: args)
  /-- An option, and its value as the next argument. -/
  | apart {slot : Slot} {name text : String} {items : List Item} {args : List String}
      (named : name ∈ (Choice.slot slot).names) (plain : IsPlain text)
      (rest : Spells items args) : Spells (.value slot text :: items) (name :: text :: args)
  | flag {f : Flag} {name : String} {items : List Item} {args : List String}
      (named : name ∈ (Choice.flag f).names) (rest : Spells items args) :
      Spells (.flag f :: items) (name :: args)
  | input {text : String} {items : List Item} {args : List String} (plain : IsPlain text)
      (rest : Spells items args) : Spells (.value .input text :: items) (text :: args)
  /-- Two dashes, and then the input, whatever it begins with. -/
  | last (text : String) : Spells [.value .input text] ["--", text]

end CommandLine

namespace Config

open CommandLine

/-- Whether a flag is set. Help and version are no part of a configuration. -/
def flag (c : Config) : Flag → Bool
  | .noElaborate => c.noElaborate
  | .templates => c.templates
  | .verbose => c.verbose
  | .traceModule => c.traceModule
  | .help | .version => false

/-- Some items say what a configuration holds: the input, and each path if there is one, once, the
files of `--only` in order, and each flag that is set once. -/
structure SaidBy (c : Config) (items : List Item) : Prop where
  input : values .input items = [c.input]
  output : values .output items = c.output.toList
  spec : values .spec items = c.spec.toList
  only : values .only items = c.only
  flags : ∀ f, items.count (.flag f) = (c.flag f).toNat

/-- Some arguments spell a configuration: they spell items that say what it holds. -/
def SpelledBy (c : Config) (args : List String) : Prop :=
  ∃ items, c.SaidBy items ∧ Spells items args

/-- No path of a configuration is empty. -/
structure IsProper (c : Config) : Prop where
  input : c.input ≠ ""
  output : c.output ≠ some ""
  spec : c.spec ≠ some ""

end Config

namespace CommandLine

/-! ## Single arguments -/

namespace State

variable {s : State}

/-- Reads the rest of a command line. -/
def read (s : State) (args : List String) : Except UsageError Config :=
  args.foldlM step s >>= finish

theorem read_cons {s' : State} {arg : String} (h : s.step arg = .ok s') (args : List String) :
    s.read (arg :: args) = s'.read args := by
  rw [read, List.foldlM_cons, h]
  rfl

theorem step_long (options : s.isTrailing = false) {arg : String} {c : Char} {cs : List Char}
    (h : arg.toList = '-' :: '-' :: c :: cs) : s.step arg = s.long (c :: cs) := by
  rw [step, options, h]
  rfl

theorem step_short (options : s.isTrailing = false) {arg : String} {c : Char} {cs : List Char}
    (h : arg.toList = '-' :: c :: cs) (hc : c ≠ '-') : s.step arg = s.short (c :: cs) := by
  rw [step, options, h, if_neg Bool.false_ne_true]
  split
  case h_1 same | h_2 same =>
    cases same
    exact absurd rfl hc
  case h_3 same => cases same
  case h_4 same =>
    cases same
    rfl
  case h_5 other => exact absurd rfl (other _)

/-- A text that can stand by itself is taken as a value. -/
theorem step_plain (options : s.isTrailing = false) {arg : String} (h : IsPlain arg) :
    s.step arg = s.value arg := by
  rw [step, options, if_neg Bool.false_ne_true]
  rcases h with rfl | h
  · rfl
  · split
    case h_1 same | h_2 same | h_4 same =>
      rw [same] at h
      exact absurd rfl h
    case h_3 | h_5 => rfl

/-- Where options are over, every argument is the input. -/
theorem step_trailing (trailing : s.isTrailing = true) (arg : String) :
    s.step arg = s.positional arg :=
  if_pos trailing

/-- An option by itself: one that takes a value awaits it. -/
theorem step_name (options : s.isTrailing = false) {choice : Choice} {name : String}
    (h : name ∈ choice.names) :
    s.step name = match choice with
      | .slot slot => s.awaiting slot
      | .flag f => s.flag f := by
  -- A flag behind one dash is the first of a group, which has no more letters.
  have group (f : Flag) : (do let s ← s.flag f; short s []) = s.flag f := by
    cases s.flag f <;> rfl
  cases choice with
  | slot slot =>
    cases slot with
    | input => cases h
    | output =>
      rcases List.mem_pair.mp h with rfl | rfl <;> rw [step, options] <;> rfl
    | spec | only =>
      cases List.mem_singleton.mp h
      rw [step, options]
      rfl
  | flag f =>
    cases f with
    | noElaborate | templates | traceModule =>
      cases List.mem_singleton.mp h
      rw [step, options]
      rfl
    | verbose | help | version =>
      rcases List.mem_pair.mp h with rfl | rfl <;> rw [step, options]
      · rfl
      · exact group _

/-- The first equals sign of a long option ends its name. -/
theorem long_attached {slot : Slot} {name : List Char}
    (known : Choice.ofLong? name = some (.slot slot)) (h : name.all (· != '=') = true)
    (text : String) :
    s.long (name ++ '=' :: text.toList) = s.attached slot text := by
  have h := List.all_eq_true.mp h
  have taken : (name ++ '=' :: text.toList).takeWhile (· != '=') = name := by
    rw [List.takeWhile_append_of_pos h]
    exact List.append_nil name
  have left : (name ++ '=' :: text.toList).dropWhile (· != '=') = '=' :: text.toList := by
    rw [List.dropWhile_append_of_pos h]
    rfl
  rw [long, taken, left, known]
  exact congrArg (s.attached slot) String.ofList_toList

/-- An option with its value attached. -/
theorem step_attached (options : s.isTrailing = false) {slot : Slot} {name : String}
    (h : name ∈ (Choice.slot slot).names) (text : String) :
    s.step (name ++ "=" ++ text) = s.attached slot text := by
  have behind (name : String) :
      (name ++ "=" ++ text).toList = name.toList ++ '=' :: text.toList := by
    rw [String.toList_append, String.toList_append, List.append_assoc]
    rfl
  have output : Choice.ofLong? "output".toList = some (.slot .output) := rfl
  have spec : Choice.ofLong? "spec".toList = some (.slot .spec) := rfl
  have only : Choice.ofLong? "only".toList = some (.slot .only) := rfl
  cases slot with
  | input => cases h
  | output =>
    rcases List.mem_pair.mp h with rfl | rfl
    · exact (step_long options (behind _)).trans (long_attached output rfl text)
    · refine (step_short options (behind _) (by decide)).trans ?_
      exact congrArg (s.attached .output) String.ofList_toList
  | spec =>
    cases List.mem_singleton.mp h
    exact (step_long options (behind _)).trans (long_attached spec rfl text)
  | only =>
    cases List.mem_singleton.mp h
    exact (step_long options (behind _)).trans (long_attached only rfl text)

end State

/-! ## What has been said so far -/

theorem values_append (slot : Slot) (items items' : List Item) :
    values slot (items ++ items') = values slot items ++ values slot items' :=
  List.filterMap_append

@[simp]
theorem values_flag (slot : Slot) (f : Flag) : values slot [.flag f] = [] := rfl

/-- The configuration that some items amount to, if they say nothing twice. -/
def configOf (items : List Item) : Config where
  input := (values .input items).headD ""
  output := (values .output items).head?
  spec := (values .spec items).head?
  only := values .only items
  noElaborate := items.contains (.flag .noElaborate)
  templates := items.contains (.flag .templates)
  verbose := items.contains (.flag .verbose)
  traceModule := items.contains (.flag .traceModule)

/-- An item may follow others if it says nothing for a second time, and gives no empty path. -/
def MayFollow (items : List Item) : Item → Prop
  | .value .only _ => True
  | .value slot text => values slot items = [] ∧ text ≠ ""
  | .flag f => .flag f ∉ items ∧ f ≠ .help ∧ f ≠ .version

namespace State

/-- The state in which some items have been read, and all of them have been checked. -/
def settled (items : List Item) (isTrailing : Bool) : State :=
  ⟨configOf items, !(values .input items).isEmpty, none, isTrailing⟩

/-- A state that has read some items: it settles as they say. -/
structure Reads (s : State) (items : List Item) : Prop where
  settles : s.settle = .ok (settled items s.isTrailing)
  input : s.sawInput = !(values .input items).isEmpty

variable {s : State} {items : List Item} {slot : Slot} {text : String} {f : Flag}
  {isTrailing : Bool}

theorem reads_start : start.Reads [] := ⟨rfl, rfl⟩

theorem reads_settled (items : List Item) (isTrailing : Bool) :
    (settled items isTrailing).Reads items :=
  ⟨rfl, Bool.or_false _⟩

theorem assign_settled (h : MayFollow items (.value slot text)) :
    (settled items isTrailing).assign slot text =
      .ok (settled (items ++ [.value slot text]) isTrailing) := by
  cases slot with
  | only => simp [assign, settled, configOf, values, Item.text?]
  | input | output | spec =>
    obtain ⟨fresh, proper⟩ := h
    rw [values] at fresh
    simp [assign, settled, configOf, values, Item.text?, fresh, proper]

theorem raise_settled (h : MayFollow items (.flag f)) :
    (settled items isTrailing).raise f = .ok (settled (items ++ [.flag f]) isTrailing) := by
  obtain ⟨fresh, help, version⟩ := h
  cases f with
  | help => exact absurd rfl help
  | version => exact absurd rfl version
  | noElaborate | templates | verbose | traceModule =>
    simp [raise, settled, configOf, values_append, fresh]

/-- A value that is not checked yet counts as read. -/
theorem reads_pending (h : MayFollow items (.value slot text)) :
    ({ settled items isTrailing with pending := some (slot, some text) } : State).Reads
      (items ++ [.value slot text]) where
  settles := assign_settled h
  input := by
    rw [values_append, sawInput, settled]
    cases slot <;> cases values .input items <;> rfl

/-- Whether options are over makes no difference to a value. -/
theorem assign_trailing {s' : State} (h : s.assign slot text = .ok s') :
    ({ s with isTrailing := true } : State).assign slot text =
      .ok { s' with isTrailing := true } := by
  cases slot <;> simp only [assign] at h ⊢ <;> grind

namespace Reads

theorem flag (hs : s.Reads items) (h : MayFollow items (.flag f)) :
    s.flag f = .ok (settled (items ++ [.flag f]) s.isTrailing) := by
  rw [State.flag, hs.settles]
  exact raise_settled h

theorem attached (hs : s.Reads items) (h : MayFollow items (.value slot text)) :
    s.attached slot text = .ok (settled (items ++ [.value slot text]) s.isTrailing) := by
  rw [State.attached, hs.settles]
  exact assign_settled h

theorem awaiting (hs : s.Reads items) (slot : Slot) :
    s.awaiting slot = .ok { settled items s.isTrailing with pending := some (slot, none) } := by
  rw [State.awaiting, hs.settles]
  rfl

theorem positional (hs : s.Reads items) (h : MayFollow items (.value .input text)) :
    s.positional text =
      .ok { settled items s.isTrailing with pending := some (.input, some text) } := by
  rw [State.positional, hs.input, h.1, hs.settles]
  rfl

/-- Where no value is awaited, a value is the input. -/
theorem value (hs : s.Reads items) (text : String) : s.value text = s.positional text := by
  have settles := hs.settles
  rw [settle] at settles
  rw [State.value]
  split
  · rename_i awaited
    rw [awaited] at settles
    cases settles
  · rfl

/-- Two dashes say nothing themselves. -/
theorem trailing (hs : s.Reads items) : ({ s with isTrailing := true } : State).Reads items := by
  obtain ⟨config, hasInput, pending, isTrailing⟩ := s
  obtain ⟨settles, input⟩ := hs
  refine ⟨?_, input⟩
  cases pending with
  | none =>
    cases settles
    rfl
  | some awaited =>
    obtain ⟨slot, _ | text⟩ := awaited
    · cases settles
    · exact assign_trailing settles

end Reads

end State

end CommandLine

namespace Config.SaidBy

open CommandLine

variable {c : Config} {items before after : List Item} {i : Item}

theorem contains_flag (h : c.SaidBy items) (f : Flag) : items.contains (.flag f) = c.flag f := by
  have count := h.flags f
  cases set : c.flag f with
  | false =>
    rw [set] at count
    simpa using List.count_eq_zero.mp count
  | true =>
    rw [set] at count
    simpa using List.count_pos_iff.mp (count ▸ Nat.one_pos)

/-- What some items say is what they amount to. -/
theorem configOf_eq (h : c.SaidBy items) : configOf items = c := by
  ext1
  case input => rw [configOf, h.input]; rfl
  case output => rw [configOf, h.output, Option.head?_toList]
  case spec => rw [configOf, h.spec, Option.head?_toList]
  case only => exact h.only
  case noElaborate => exact h.contains_flag .noElaborate
  case templates => exact h.contains_flag .templates
  case verbose => exact h.contains_flag .verbose
  case traceModule => exact h.contains_flag .traceModule

/-- Every item that says what a proper configuration holds may follow those before it. -/
theorem mayFollow (proper : c.IsProper) (h : c.SaidBy (before ++ i :: after)) :
    MayFollow before i := by
  cases i with
  | value slot text =>
    have path {o : Option String} (ho : o ≠ some "")
        (said : values slot (before ++ .value slot text :: after) = o.toList) :
        values slot before = [] ∧ text ≠ "" := by
      have split : values slot before ++ text :: values slot after = o.toList := by
        rw [← said, values_append]
        simp [values, Item.text?]
      have given : o = some text := by
        rw [← Option.mem_toList, ← split]
        exact List.mem_append_right _ List.mem_cons_self
      subst given
      rcases List.append_eq_singleton_iff.mp split with ⟨fresh, -⟩ | ⟨-, empty⟩
      · exact ⟨fresh, fun empty ↦ ho (congrArg some empty)⟩
      · cases empty
    cases slot with
    | input => exact path (o := some c.input) (by simpa using proper.input) h.input
    | output => exact path proper.output h.output
    | spec => exact path proper.spec h.spec
    | only => trivial
  | flag f =>
    have count := h.flags f
    rw [List.count_append, List.count_cons_self] at count
    have set : c.flag f = true := by
      cases set : c.flag f with
      | true => rfl
      | false => rw [set] at count; cases count
    rw [set] at count
    refine ⟨List.count_eq_zero.mp ?_, ?_, ?_⟩
    · change _ = 1 at count
      omega
    · rintro rfl
      cases set
    · rintro rfl
      cases set

end Config.SaidBy

namespace CommandLine

namespace State.Reads

variable {s : State} {items : List Item} {c : Config}

theorem finish (hs : s.Reads items) (said : c.SaidBy items) : s.finish = .ok c := by
  rw [State.finish, hs.settles, settled, said.input, said.configOf_eq]
  rfl

end State.Reads

open State in
/-- A command line that goes on to say what a proper configuration holds is understood so. -/
theorem Spells.read {items : List Item} {args : List String} (h : Spells items args) {c : Config}
    (proper : c.IsProper) {s : State} {before : List Item} (hs : s.Reads before)
    (options : s.isTrailing = false) (said : c.SaidBy (before ++ items)) :
    s.read args = .ok c := by
  induction h generalizing s before with
  | done => exact hs.finish (by simpa using said)
  | attached named rest ih =>
    have step := (step_attached options named _).trans (hs.attached (said.mayFollow proper))
    rw [read_cons step]
    exact ih (reads_settled _ _) options (by simpa using said)
  | @apart slot _ text _ _ named plain rest ih =>
    have step := (step_name options named).trans (hs.awaiting slot)
    -- The state awaits a value, and the next argument can only be that.
    let awaiting : State := { settled before s.isTrailing with pending := some (slot, none) }
    have step' := step_plain (s := awaiting) options plain
    rw [read_cons step, read_cons step']
    exact ih (reads_pending (said.mayFollow proper)) options (by simpa using said)
  | flag named rest ih =>
    have step := (step_name options named).trans (hs.flag (said.mayFollow proper))
    rw [read_cons step]
    exact ih (reads_settled _ _) options (by simpa using said)
  | input plain rest ih =>
    have step := (step_plain options plain).trans
      ((hs.value _).trans (hs.positional (said.mayFollow proper)))
    rw [read_cons step]
    exact ih (reads_pending (said.mayFollow proper)) options (by simpa using said)
  | last text =>
    have dashes : s.step "--" = .ok { s with isTrailing := true } := by
      rw [State.step, options]
      rfl
    have step := (step_trailing rfl text).trans
      (hs.trailing.positional (said.mayFollow proper))
    rw [read_cons dashes, read_cons step]
    exact (reads_pending (said.mayFollow proper)).finish said

/-! ## Every configuration can be said -/

theorem Choice.exists_name {choice : Choice} (h : choice ≠ .slot .input) :
    ∃ name, name ∈ choice.names := by
  apply List.exists_mem_of_ne_nil
  cases choice with
  | slot slot =>
    cases slot with
    | input => exact absurd rfl h
    | output | spec | only => exact List.cons_ne_nil _ _
  | flag f => cases f <;> exact List.cons_ne_nil _ _

/-- Options in any order can be spelled, whatever their values begin with, if the input is last. -/
theorem exists_spells {items : List Item} (options : values .input items = []) (text : String) :
    ∃ args, Spells (items ++ [.value .input text]) args := by
  induction items with
  | nil => exact ⟨_, .last text⟩
  | cons i items ih =>
    have fresh := List.append_eq_nil_iff.mp ((values_append .input [i] items).symm.trans options)
    obtain ⟨args, rest⟩ := ih fresh.2
    cases i with
    | value slot text =>
      have other : Choice.slot slot ≠ .slot .input := by
        rintro ⟨⟩
        cases fresh.1
      obtain ⟨name, named⟩ := Choice.exists_name other
      exact ⟨_, .attached named rest⟩
    | flag f =>
      have other : Choice.flag f ≠ .slot .input := nofun
      obtain ⟨name, named⟩ := Choice.exists_name other
      exact ⟨_, .flag named rest⟩

theorem values_map_value (slot slot' : Slot) (texts : List String) :
    values slot (texts.map (.value slot')) = if slot' = slot then texts else [] := by
  rw [values, List.filterMap_map]
  split
  case isTrue same => simp [Item.text?, same]
  case isFalse other => simp [Function.comp_def, Item.text?, other]

theorem values_map_flag (slot : Slot) (fs : List Flag) : values slot (fs.map .flag) = [] := by
  simp [values, Item.text?]

theorem count_flag_map_value (f : Flag) (slot : Slot) (texts : List String) :
    (texts.map (.value slot)).count (Item.flag f) = 0 := by
  simp [List.count_eq_zero]

theorem count_flag_map_flag (f : Flag) (fs : List Flag) :
    (fs.map .flag).count (Item.flag f) = fs.count f :=
  List.count_map_of_injective fs Item.flag (fun _ _ ↦ Item.flag.inj) f

end CommandLine

namespace Config

open CommandLine

/-- What a configuration holds without its input: the paths, the files of `--only`, the flags. -/
def optionItems (c : Config) : List Item :=
  c.output.toList.map (.value .output) ++ c.spec.toList.map (.value .spec) ++
    c.only.map (.value .only) ++
    ([.noElaborate, .templates, .verbose, .traceModule].filter c.flag).map .flag

theorem values_optionItems (c : Config) (slot : Slot) :
    values slot c.optionItems = match slot with
      | .input => []
      | .output => c.output.toList
      | .spec => c.spec.toList
      | .only => c.only := by
  cases slot <;> simp [optionItems, values_append, values_map_value, values_map_flag]

theorem count_optionItems (c : Config) (f : Flag) :
    c.optionItems.count (.flag f) =
      ([.noElaborate, .templates, .verbose, .traceModule].filter c.flag).count f := by
  simp [optionItems, count_flag_map_value, count_flag_map_flag]

theorem saidBy_items (c : Config) : c.SaidBy (c.optionItems ++ [.value .input c.input]) where
  input := by rw [values_append, values_optionItems]; rfl
  output := by rw [values_append, values_optionItems]; exact List.append_nil _
  spec := by rw [values_append, values_optionItems]; exact List.append_nil _
  only := by rw [values_append, values_optionItems]; exact List.append_nil _
  flags f := by
    rw [List.count_append, count_optionItems]
    change List.count f _ = _
    cases set : c.flag f with
    | false => simp [List.count_eq_zero, set]
    | true =>
      rw [List.count_filter set]
      cases f with
      | help | version => cases set
      | noElaborate | templates | verbose | traceModule => rfl

/-- Every configuration can be said on a command line. -/
theorem exists_spelledBy (c : Config) : ∃ args, c.SpelledBy args :=
  have ⟨args, spells⟩ := exists_spells (c.values_optionItems .input) c.input
  ⟨args, _, c.saidBy_items, spells⟩

/-! ## Main result -/

/-- Every proper configuration can be said on a command line, and it is understood however it is
said: in any order, and in any spelling.  So neither what is translated nor what is logged depends
on the order of the arguments. -/
theorem parse_spelled (c : Config) (proper : c.IsProper) :
    (∃ args, c.SpelledBy args) ∧
      ∀ args, c.SpelledBy args →
        CommandLine.parse args = .ok c ∧
          (CommandLine.parse args).map options = .ok c.options ∧
          Program.threshold args = c.threshold := by
  refine ⟨c.exists_spelledBy, ?_⟩
  rintro args ⟨items, said, spells⟩
  have parsed : CommandLine.parse args = .ok c := spells.read proper State.reads_start rfl said
  refine ⟨parsed, congrArg (Except.map options) parsed, ?_⟩
  rw [Program.threshold, parsed]

/-- A value that begins like an option or could be the input is taken for nothing else, and another
order makes no difference. -/
theorem parse_spelled_in_two_orders :
    let c : Config := ⟨"-", some "-", none, ["-a.h", "b.h"], true, false, true, false⟩
    let args := ["--only=-a.h", "-v", "--output", "-", "--only", "b.h", "-", "--no-elaborate"]
    let args' :=
      ["--no-elaborate", "--output=-", "--only=-a.h", "--verbose", "--only=b.h", "--", "-"]
    c.IsProper ∧ c.SpelledBy args ∧ c.SpelledBy args' ∧
      CommandLine.parse args = .ok c ∧ CommandLine.parse args' = .ok c := by
  intro c args args'
  have proper : c.IsProper := ⟨by decide, by decide, by decide⟩
  have output : "--output=-" = "--output" ++ "=" ++ "-" := by decide
  have only : "--only=-a.h" = "--only" ++ "=" ++ "-a.h" := by decide
  have only' : "--only=b.h" = "--only" ++ "=" ++ "b.h" := by decide
  have spelled : c.SpelledBy args := by
    refine ⟨[.value .only "-a.h", .flag .verbose, .value .output "-", .value .only "b.h",
      .value .input "-", .flag .noElaborate], ⟨rfl, rfl, rfl, rfl, ?_⟩, ?_⟩
    · rintro ⟨⟩ <;> rfl
    · simp only [args, only]
      exact .attached (by decide) <| .flag (by decide) <| .apart (by decide) (by decide) <|
        .apart (by decide) (by decide) <| .input (by decide) <| .flag (by decide) .done
  have spelled' : c.SpelledBy args' := by
    refine ⟨[.flag .noElaborate, .value .output "-", .value .only "-a.h", .flag .verbose,
      .value .only "b.h", .value .input "-"], ⟨rfl, rfl, rfl, rfl, ?_⟩, ?_⟩
    · rintro ⟨⟩ <;> rfl
    · simp only [args', output, only, only']
      exact .flag (by decide) <| .attached (by decide) <| .attached (by decide) <|
        .flag (by decide) <| .attached (by decide) <| .last "-"
  have ⟨_, understood⟩ := parse_spelled c proper
  exact ⟨proper, spelled, spelled', (understood args spelled).1, (understood args' spelled').1⟩

end Config

end Reify
