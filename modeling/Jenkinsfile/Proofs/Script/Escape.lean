import Jenkinsfile.Proofs.Text.Separator
import Jenkinsfile.Proofs.Value.Text
import Jenkinsfile.Script.Literal

/-! The text of a value for a place between double quotes, character by character: the two
replacements that escape it come to one pass over the text. -/

namespace Jenkinsfile

/-- Whether a value has a text inside a script: its whole numbers are short, and JSON has a form for
all parts of a list or map. -/
def Value.HasScriptText (v : Value) : Prop := v.Short ∧ (v.IsJson ∨ ∃ o, v = .other o)

/-- The text of a value inside a script is there unless a number is too long or, for a list or a map,
JSON has no form for a part of it. -/
theorem Value.tells_scriptText (v : Value) : Tells v.scriptText v.HasScriptText
    (JsonFault fun p => IsPart p v) := by
  cases v with
  | null | bool | float | str => exact ⟨IsPlain.short trivial, .inl (IsPlain.isJson trivial)⟩
  | int n =>
    have hjson : IsJson (.int n) := by rintro o ⟨⟩
    refine (tells_intText_part n).of_iff ?_
    rw [HasScriptText, short_int_iff, and_iff_left (.inl hjson)]
  | list items => exact (tells_write (.list items)).of_iff (by simp [HasScriptText])
  | map entries => exact (tells_write (.map entries)).of_iff (by simp [HasScriptText])
  | other o => exact ⟨short_other o, .inr ⟨o, rfl⟩⟩

namespace Script

/-- A character between double quotes: the backslash and the quote are escaped. -/
def escapeLiteral (c : Char) : List Char := if c = '\\' ∨ c = '"' then ['\\', c] else [c]

/-- A character inside a literal is escaped or neither a backslash nor the mark. -/
theorem escapeLiteral_cases (c : Char) :
    escapeLiteral c = ['\\', c] ∧ (c = '\\' ∨ c = '"') ∨
      escapeLiteral c = [c] ∧ c ≠ '\\' ∧ c ≠ '"' := by
  by_cases h : c = '\\' ∨ c = '"'
  · exact .inl ⟨by simp [escapeLiteral, h], h⟩
  · exact .inr ⟨by simp [escapeLiteral, h], not_or.mp h⟩

/-- Backslashes are escaped before quotes, so none is escaped twice. -/
theorem toList_escape (s : String) : (escape s).toList = s.toList.flatMap escapeLiteral := by
  rw [escape, String.toList_ofList, Text.replaceAll_singleton, Text.replaceAll_singleton,
    List.flatMap_assoc]
  refine List.flatMap_congr fun c _ => ?_
  by_cases hb : c = '\\'
  · subst hb
    rfl
  · by_cases hq : c = '"'
    · subst hq
      rfl
    · simp [escapeLiteral, hb, hq]

theorem literalText_eq_ok_iff {v : Value} {q : String} :
    literalText v = .ok q ↔ ∃ text, v.scriptText = .ok text ∧ q = escape text := by
  rw [literalText]
  cases v.scriptText with
  | error f => simp [bind, Except.bind]
  | ok text => simp [bind, Except.bind, pure, Except.pure, eq_comm]

end Script

end Jenkinsfile
