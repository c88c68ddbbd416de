import Reify.Proofs.Decl.Json
import Reify.Proofs.Json.Spelling
import Reify.TranslationUnit

/-!
# Units read back from their dumps

A dump is read in two stages.  Its text gives the value that was written, in either layout and at
any depth; the value gives the unit, as long as it nests no deeper than a reader may go.
-/

namespace Reify.TranslationUnit

theorem ofJson?_toJson (u : TranslationUnit) (n : Nat) :
    ofJson? n u.toJson = if u.toJson.depth ≤ n then some u else none := by
  cases n with
  | zero => simp [ofJson?, toJson]
  | succ n =>
    have decls := Decl.listOfJson?_toJsonAll u.decls n
    simp [ofJson?, toJson, decls]

theorem valid_toJson (u : TranslationUnit) : u.toJson.Valid := by
  have decls := Decl.valid_of_mem_toJsonAll u.decls
  simpa [toJson] using decls

/-- Loading fails or not as reading the dump does: the record of the size comes after it. -/
theorem result_load (source : String) : (load source).result = ofDump source := by
  rw [load, Logged.result_bind, Logged.ofExcept]
  cases ofDump source with
  | ok u => rfl
  | error e => rfl

/-- A text that writes a unit as JSON gives the unit, or is refused for nesting too deep. -/
theorem result_load_of_parse? {source : String} {u : TranslationUnit}
    (h : Json.parse? source = some u.toJson) :
    (load source).result =
      if u.toJson.depth ≤ 127 then .ok u
      else .error (.invalidInput "not the dump of a translation unit") := by
  have read : Json.read? ofJson? source = if u.toJson.depth ≤ 127 then some u else none := by
    rw [Json.read?, h]
    exact ofJson?_toJson u Json.nestingLimit
  rw [result_load, ofDump, read]
  by_cases fits : u.toJson.depth ≤ 127
  · rw [if_pos fits, if_pos fits]
  · rw [if_neg fits, if_neg fits]

/-- Loading undoes dumping, exactly up to a hundred and twenty-seven levels of nesting.  Both the
indented and the compact text of a unit write its value; where that nests no deeper, loading either
of them gives back the unit, and where it nests deeper, both are invalid input. -/
theorem load_dump (u : TranslationUnit) :
    (Json.parse? u.dump = some u.toJson ∧ Json.parse? u.toJson.compact = some u.toJson) ∧
    (load u.dump).result =
      (if u.toJson.depth ≤ 127 then .ok u
      else .error (.invalidInput "not the dump of a translation unit")) ∧
    (load u.toJson.compact).result =
      (if u.toJson.depth ≤ 127 then .ok u
      else .error (.invalidInput "not the dump of a translation unit")) := by
  have pretty : Json.parse? u.dump = some u.toJson := Json.parse?_pretty u.valid_toJson
  have compact : Json.parse? u.toJson.compact = some u.toJson := Json.parse?_compact u.valid_toJson
  exact ⟨⟨pretty, compact⟩, result_load_of_parse? pretty, result_load_of_parse? compact⟩

end Reify.TranslationUnit
