import Reify.Proofs.Decl.Nesting
import Reify.Proofs.TranslationUnit.Presentation

/-!
# Loading a unit again

A unit that was loaded is written with every field, also those that its text left out.  So the dump
may nest deeper than the text, by one level and no more, and where the text is at the limit already,
the dump is over it and is refused.  A text that stays one level below the limit always gives a unit
whose dump can be loaded.
-/

namespace Reify

open Json (Presentation)

namespace TranslationUnit

theorem bounds_toJson (u : TranslationUnit) : u.presentation.Bounds u.toJson := by
  refine .record <| .cons (Presentation.Field.bounds_of_depth_eq_zero rfl) <| .cons ?_ .nil
  rw [← Decl.presentations_eq_map]
  refine .optional (.list (Decl.bounds_toJsonAll u.decls)) _ ?_
  intro empty
  rw [empty]
  exact Nat.le_refl 1

/-- A dump is the text of a value, in one line for each item. -/
theorem result_load_dump (u : TranslationUnit) :
    (load u.dump).result =
      if u.toJson.depth ≤ 127 then .ok u
      else .error (.invalidInput "not the dump of a translation unit") :=
  result_load_of_parse? (Json.parse?_pretty u.valid_toJson)

end TranslationUnit

/-! ## Units at the limit -/

namespace Decl

/-- The head of a declaration with a short name, and no more to say. -/
def Head.short : Head := ⟨1, "t", "", none, none, none⟩

/-- A declaration that leaves out all it may leave out of its head. -/
def short (body : Json) : Json := .record [("id", .nat 1), ("name", .text "t"), ("kind", body)]

/-- Class templates, each the pattern of the one around it, and in the end an empty namespace. -/
def patterns : Nat → Decl
  | 0 => .group .short .named []
  | k + 1 => .template .short .ofClass (patterns k) []

/-- The same declaration without its empty lists. -/
def shortPatterns : Nat → Json
  | 0 => short (.tagged "Namespace" (.record []))
  | k + 1 => short (.tagged "ClassTemplate" (.record [("pattern", shortPatterns k)]))

theorem ofJson?_short (n : Nat) (body : Json) :
    ofJson? (n + 1) (short body) = ofBody? .short n body := by
  have slots : Json.slots? ["id", "name", "qualified_name", "mangled", "location", "annotation",
      "kind"] (short body) =
        some [some (.nat 1), some (.text "t"), none, none, none, none, some body] := by
    rw [short, Json.record, Json.slots?, Json.members?_record]
    rfl
  rw [ofJson?, slots]
  rfl

/-- A class template may do without its list of specializations. -/
theorem ofBody?_pattern {h : Head} {n : Nat} {pattern : Json} {d : Decl}
    (read : ofJson? n pattern = some d) :
    ofBody? h (n + 2) (.tagged "ClassTemplate" (.record [("pattern", pattern)])) =
      some (.template h .ofClass d []) := by
  have slots : Json.slots? ["pattern", "specializations"] (.record [("pattern", pattern)]) =
      some [some pattern, none] := by
    rw [Json.record, Json.slots?, Json.members?_record]
    rfl
  rw [Json.tagged_eq, ofBody?]
  simp [slots, read, Json.orElse]

theorem ofJson?_shortPatterns (k n : Nat) :
    ofJson? (n + 3 * k + 3) (shortPatterns k) = some (patterns k) := by
  induction k with
  | zero =>
    rw [shortPatterns, ofJson?_short]
    rfl
  | succ k ih =>
    rw [shortPatterns, ofJson?_short]
    exact ofBody?_pattern ih

end Decl

namespace TranslationUnit

/-- Some class templates in two namespaces. -/
def templates (k : Nat) : TranslationUnit :=
  ⟨"a.cpp", [.group .short .named [.group .short .named [.patterns k]]]⟩

/-- The same unit without the empty lists in it. -/
def shortTemplates (k : Nat) : Json :=
  let inside (j : Json) : Json :=
    Decl.short (.tagged "Namespace" (.record [("decls", .array [j])]))
  .record [("filename", .text "a.cpp"),
    ("decls", .array [inside (inside (Decl.shortPatterns k))])]

theorem ofJson?_shortTemplates (k n : Nat) :
    ofJson? (n + 3 * k + 13) (shortTemplates k) = some (templates k) := by
  have inner := Decl.ofJson?_shortPatterns k n
  rw [ofJson?]
  simp [shortTemplates, templates, Decl.listOfJson?, Decl.ofJson?_short, Decl.ofBody?, inner]

theorem valid_shortTemplates (k : Nat) : (shortTemplates k).Valid := by
  have inner : (Decl.shortPatterns k).Valid := by
    induction k with
    | zero => simp [Decl.shortPatterns, Decl.short]
    | succ k ih => simp [Decl.shortPatterns, Decl.short, ih]
  simp [shortTemplates, Decl.short, inner]

/-- The short text is loaded as long as its innermost namespace is within the limit. -/
theorem result_load_shortTemplates {k : Nat} (h : k ≤ 38) :
    (load (shortTemplates k).compact).result = .ok (templates k) := by
  obtain ⟨n, limit⟩ : ∃ n, n + 3 * k + 13 = Json.nestingLimit :=
    ⟨114 - 3 * k, by rw [Json.nestingLimit]; omega⟩
  have read : Json.read? ofJson? (shortTemplates k).compact = some (templates k) := by
    rw [Json.read?, Json.parse?_compact (valid_shortTemplates k), ← limit]
    exact ofJson?_shortTemplates k n
  rw [result_load, ofDump, read]

/-! ## Loading, dumping, and loading again -/

/-- A unit that was loaded can be loaded again from its dump exactly if the dump is within the
limit, and is refused otherwise.  The dump goes over the limit by one level at most, and it never
does so if the text that was loaded stays one level below. -/
theorem reload_of_load {source : String} {u : TranslationUnit}
    (loaded : (load source).result = .ok u) :
    u.toJson.depth ≤ 128 ∧
      (load u.dump).result = (if u.toJson.depth ≤ 127 then .ok u
        else .error (.invalidInput "not the dump of a translation unit")) ∧
      ∀ j, Json.Spells source j → u.presentation 126 j → (load u.dump).result = .ok u := by
  rw [result_load] at loaded
  obtain ⟨j, -, presents⟩ := ofDump_eq_ok_iff.mp loaded
  refine ⟨u.bounds_toJson 127 j presents, u.result_load_dump, fun j _ below ↦ ?_⟩
  rw [u.result_load_dump, if_pos (u.bounds_toJson 126 j below)]

/-- With nothing in them, namespaces do well without their lists. -/
theorem reload_of_load_short : (load (shortTemplates 0).compact).result = .ok (templates 0) ∧
    (load (templates 0).dump).result = .ok (templates 0) := by
  have loaded := result_load_shortTemplates (Nat.zero_le 38)
  have again := (reload_of_load loaded).2.1
  exact ⟨loaded, again.trans (if_pos (by decide))⟩

/-- A text at the limit gives a unit whose dump is refused: its innermost namespace has an empty
list of declarations, and no bracket may be opened for that. -/
theorem refuses_dump_of_loaded : (load (shortTemplates 38).compact).result = .ok (templates 38) ∧
    (load (templates 38).dump).result =
      .error (.invalidInput "not the dump of a translation unit") := by
  have deep : ¬(templates 38).toJson.depth ≤ 127 := by decide +kernel
  exact ⟨result_load_shortTemplates (Nat.le_refl 38), (result_load_dump _).trans (if_neg deep)⟩

end TranslationUnit

end Reify
