import Reify.Proofs.Printer.Lexeme

/-!
# Lexemes of terms

A term whose names are names is read as its commands are, one by one, whatever text follows, as
long as that text starts by ending a word.  This holds of every way to read texts that is right for
single commands (`Term.read_commands`), and so of lexemes: a term is written as those of its
commands.
-/

namespace Reify

namespace Term

mutual

/-- The names of the constructors, tokens and fields in a term. -/
def names : Term → List String
  | .ctor name args => name :: namesAll args
  | .list items => namesAll items
  | .record fields => namesFields fields
  | .token name => [name]
  | .str _ | .int _ | .bool _ => []

/-- The names in a list of terms. -/
def namesAll : List Term → List String
  | [] => []
  | t :: ts => t.names ++ namesAll ts

/-- The names in the fields of a record. -/
def namesFields : List (String × Term) → List String
  | [] => []
  | (name, t) :: fields => name :: (t.names ++ namesFields fields)

end

/-- Every name in a term is one. String literals may hold anything. -/
def WellNamed (t : Term) : Prop := ∀ name ∈ t.names, IsName name

instance (t : Term) : Decidable t.WellNamed := inferInstanceAs (Decidable (∀ _ ∈ t.names, _))

open Lexeme Printer

section Reading

variable {β : Type} {read : List Char → List β} {meaning : Command → List β}
variable (reads : Command.Reads read meaning)
include reads

mutual

/-- A term is read as its commands are, whatever follows. -/
theorem read_commands (t : Term) (isArg : Bool) (h : ∀ name ∈ t.names, IsName name)
    {rest : List Char} (hr : EndsWord rest) :
    read (chars (t.commands isArg) ++ rest) =
      (t.commands isArg).flatMap meaning ++ read rest := by
  cases t with
  | ctor name args =>
    obtain ⟨hn, ha⟩ : IsName name ∧ ∀ n ∈ namesAll args, IsName n := by simpa [names] using h
    cases args with
    | nil => simpa [commands] using reads (.text name) hn fun _ ↦ hr
    | cons t ts =>
      -- The closing bracket of an argument belongs to what follows the arguments.
      have close : EndsWord (chars (if isArg then [.endCtor] else []) ++ rest) := by
        cases isArg with
        | false => exact hr
        | true => exact .cons (by decide) rest
      have closed : read (chars (if isArg then [.endCtor] else []) ++ rest) =
          (if isArg then [Command.endCtor] else []).flatMap meaning ++ read rest := by
        cases isArg with
        | false => rfl
        | true => simpa using reads .endCtor trivial nofun
      obtain ⟨ends, args⟩ := read_argCommands (t :: ts) ha close
      simp only [commands, List.isEmpty_cons, Bool.false_eq_true, if_false, chars_cons,
        chars_append, List.append_assoc, List.flatMap_cons, List.flatMap_append]
      rw [reads (.ctor name isArg) hn fun _ ↦ ends, args, closed]
  | list items =>
    have hi : ∀ n ∈ namesAll items, IsName n := by simpa [names] using h
    simp only [commands, chars_cons, chars_append, chars_nil, List.append_nil, List.append_assoc,
      List.flatMap_cons, List.flatMap_append, List.flatMap_nil]
    rw [reads .beginList trivial nofun, read_itemCommands items hi, reads .endList trivial nofun]
  | record fields =>
    have hf : ∀ n ∈ namesFields fields, IsName n := by simpa [names] using h
    have close : EndsWord (Command.endRecord.output.toList ++ rest) := .cons (by decide) _
    simp only [commands, chars_cons, chars_append, chars_nil, List.append_nil, List.append_assoc,
      List.flatMap_cons, List.flatMap_append, List.flatMap_nil]
    rw [reads .beginRecord trivial nofun, (read_fieldCommands fields true hf close).2,
      reads .endRecord trivial fun _ ↦ hr]
  | str s => simpa [commands] using reads (.str s) trivial fun _ ↦ hr
  | int n => simpa [commands] using reads (.int n) trivial fun _ ↦ hr
  | bool b => simpa [commands] using reads (.bool b) trivial fun _ ↦ hr
  | token name =>
    have hn : IsName name := h name (by simp [names])
    simpa [commands] using reads (.text name) hn fun _ ↦ hr

/-- Arguments start with a blank, so they end the name in front of them. -/
theorem read_argCommands (ts : List Term) (h : ∀ name ∈ namesAll ts, IsName name)
    {rest : List Char} (hr : EndsWord rest) :
    EndsWord (chars (argCommands ts) ++ rest) ∧
      read (chars (argCommands ts) ++ rest) = (argCommands ts).flatMap meaning ++ read rest := by
  cases ts with
  | nil => exact ⟨hr, rfl⟩
  | cons t ts =>
    obtain ⟨ht, hts⟩ := List.forall_mem_append.mp h
    obtain ⟨ends, args⟩ := read_argCommands ts hts hr
    refine ⟨.cons (by decide) _, ?_⟩
    simp only [argCommands, chars_cons, chars_append, List.append_assoc, List.flatMap_cons,
      List.flatMap_append]
    rw [reads .space trivial nofun, read_commands t true ht ends, args]

theorem read_itemCommands (ts : List Term) (h : ∀ name ∈ namesAll ts, IsName name)
    (rest : List Char) :
    read (chars (itemCommands ts) ++ rest) = (itemCommands ts).flatMap meaning ++ read rest := by
  cases ts with
  | nil => rfl
  | cons t ts =>
    obtain ⟨ht, hts⟩ := List.forall_mem_append.mp h
    have ends : EndsWord (Command.cons.output.toList ++ (chars (itemCommands ts) ++ rest)) :=
      .cons (by decide) _
    simp only [itemCommands, chars_cons, chars_append, List.append_assoc, List.flatMap_cons,
      List.flatMap_append]
    rw [read_commands t false ht ends, reads .cons trivial nofun, read_itemCommands ts hts]

/-- Fields behind the first start with a separator, so they end the value in front of them. -/
theorem read_fieldCommands (fields : List (String × Term)) (isFirst : Bool)
    (h : ∀ name ∈ namesFields fields, IsName name) {rest : List Char} (hr : EndsWord rest) :
    (isFirst = false → EndsWord (chars (fieldCommands isFirst fields) ++ rest)) ∧
      read (chars (fieldCommands isFirst fields) ++ rest) =
        (fieldCommands isFirst fields).flatMap meaning ++ read rest := by
  match fields with
  | [] => exact ⟨fun _ ↦ hr, rfl⟩
  | (name, t) :: fields =>
    obtain ⟨hn, h⟩ := List.forall_mem_cons.mp h
    obtain ⟨ht, hf⟩ := List.forall_mem_append.mp h
    obtain ⟨ends, fields⟩ := read_fieldCommands fields false hf hr
    have field (cs : List Char) :
        read ((Command.field name).output.toList ++ cs) = meaning (.field name) ++ read cs :=
      reads (.field name) hn nofun
    cases isFirst with
    | true =>
      refine ⟨nofun, ?_⟩
      simp only [fieldCommands, if_true, List.nil_append, chars_cons, chars_append,
        List.append_assoc, List.flatMap_cons, List.flatMap_append]
      rw [field, read_commands t false ht (ends rfl), fields]
    | false =>
      refine ⟨fun _ ↦ .cons (by decide) _, ?_⟩
      simp only [fieldCommands, Bool.false_eq_true, if_false, List.cons_append, List.nil_append,
        chars_cons, chars_append, List.append_assoc, List.flatMap_cons, List.flatMap_append]
      rw [reads .separator trivial nofun, field, read_commands t false ht (ends rfl), fields]

end

end Reading

/-- A term is written as the lexemes of its commands, whatever follows. -/
theorem lexemes_commands (t : Term) (isArg : Bool) (h : ∀ name ∈ t.names, IsName name)
    {rest : List Char} (hr : EndsWord rest) :
    Lexeme.lexemes (chars (t.commands isArg) ++ rest) =
      (t.commands isArg).flatMap Command.lexemes ++ Lexeme.lexemes rest :=
  read_commands Command.lexemes_output t isArg h hr

end Term

end Reify
