import Jenkinsfile.Proofs.Expression.Grammar
import Jenkinsfile.Proofs.Placeholder.Written

/-! Expressions with closing braces in quotes.  The end of a placeholder is looked for without regard
to quotes: `interpolate_write` says that an expression is evaluated as it was written unless it holds
closing braces, and that otherwise the text before them is left with an open quote. -/

namespace Jenkinsfile.Placeholder

open Expression (evaluate IsExpression parts? quoteStep)

variable {cs before after : List Char} {context : Table Value}

/-- The failure over a quote that stays open. -/
def openQuote (cs : List Char) : Failure :=
  .error (.render ("unterminated string in expression: " ++ .ofList cs))

theorem evaluate_eq_openQuote (h : parts? cs = none) :
    evaluate (.ofList cs) context = .error (openQuote cs) := by
  rw [evaluate, String.toList_ofList, h]
  rfl

/-- Before closing braces a quote is open, with or without the blanks right before them. -/
theorem parts?_before_closing (h : IsExpression (before ++ (closing ++ after))) :
    parts? (Text.dropEnd Text.isBlank before) = none := by
  obtain ⟨blanks, hbefore, hblanks⟩ := Text.dropEnd_append_eq Text.isBlank before
  have hopen : (before.foldl quoteStep none).isSome = true :=
    h.covered.braces before ('\x7d' :: after) rfl
  rw [Expression.parts?_eq_none_iff]
  cases hstate : (Text.dropEnd Text.isBlank before).foldl quoteStep none with
  | some state => rfl
  | none =>
    rw [hbefore, List.foldl_append, hstate, (Expression.covered_of_blank hblanks).closed] at hopen
    cases hopen

/-- Of an expression with closing braces only what comes before them is evaluated. -/
theorem interpolate_write_of_closing {expr : String} (h : IsExpression expr.toList)
    (hexpr : expr.toList = before ++ (closing ++ after))
    (hfirst : ¬ closing <:+: before ++ ['\x7d']) :
    interpolate (write expr) context =
      .error (openQuote (Text.dropEnd Text.isBlank before)) := by
  have hwhole : IsExpression (before ++ (closing ++ after)) := hexpr ▸ h
  have hparts := parts?_before_closing hwhole
  obtain ⟨hne, hhead, -⟩ := h.firm
  have hstart : before ≠ [] := by
    rintro rfl
    have hopen := h.covered.braces [] ('\x7d' :: after) hexpr
    cases hopen
  rw [hexpr, List.head?_append_of_ne_nil _ hstart] at hhead
  have hinside := inside?_closing hstart hhead hfirst (after ++ ' ' :: closing)
  have hbody : (write expr).toList =
      opening ++ ' ' :: (before ++ (closing ++ (after ++ ' ' :: closing))) := by
    rw [toList_write, hexpr]
    simp
  rw [interpolate, hbody, pieces_opening hinside, fillAll_expression, valueText,
    evaluate_eq_openQuote hparts]
  rfl

/-- A placeholder has the text of its expression's value if the expression holds no closing braces.
If it does, which can only be in quotes, the placeholder ends at the first of them, and what it then
has for an expression is refused for its open quote. -/
theorem interpolate_write {expr : String} (h : IsExpression expr.toList) (context : Table Value) :
    (¬ closing <:+: expr.toList →
      interpolate (write expr) context =
        (evaluate expr context).bind fun v => Failure.ofText v.scriptText) ∧
    (closing <:+: expr.toList → ∃ before after,
      expr.toList = before ++ (closing ++ after) ∧ ¬ closing <:+: before ++ ['\x7d'] ∧
        interpolate (write expr) context =
          .error (openQuote (Text.dropEnd Text.isBlank before))) := by
  constructor
  · intro hclosing
    have hpieces := pieces_write h.firm hclosing []
    rw [List.append_nil, ← toList_write, pieces] at hpieces
    rw [interpolate, hpieces, fillAll_expression, String.ofList_toList]
    show _ = valueText context expr
    cases valueText context expr with
    | error f => rfl
    | ok text => exact congrArg Except.ok (by simp)
  · intro hclosing
    obtain ⟨before, after, hexpr, hfirst⟩ := exists_first_closing hclosing
    exact ⟨before, after, hexpr, hfirst, interpolate_write_of_closing h hexpr hfirst⟩

/-- A name that may be missing, with a text to fall back to. -/
def tagOr (fallback : String) : String :=
  Expression.write ["tag".toList] [⟨.fallback, [.text .double fallback]⟩]

theorem isExpression_tagOr (fallback : String) : IsExpression (tagOr fallback).toList :=
  Expression.isExpression_write (by decide) (by decide) _

/-- One brace in quotes does no harm, and two do. -/
theorem interpolate_write_tagOr :
    tagOr "a\x7d" = "tag | default(\"a\x7d\")" ∧ ¬ closing <:+: (tagOr "a\x7d").toList ∧
      interpolate (write (tagOr "a\x7d")) [] = .ok "a\x7d" ∧
      closing <:+: (tagOr "a \x7d\x7d").toList ∧ ∃ before after,
        (tagOr "a \x7d\x7d").toList = before ++ (closing ++ after) ∧
          ¬ closing <:+: before ++ ['\x7d'] ∧
          interpolate (write (tagOr "a \x7d\x7d")) [] =
            .error (openQuote (Text.dropEnd Text.isBlank before)) := by
  have hone : ¬ closing <:+: (tagOr "a\x7d").toList := by decide +kernel
  have htwo : closing <:+: (tagOr "a \x7d\x7d").toList := by decide +kernel
  have hvalue : evaluate (tagOr "a\x7d") [] = .ok (.str "a\x7d") := by with_unfolding_all rfl
  refine ⟨by decide, hone, ?_, htwo, (interpolate_write (isExpression_tagOr _) []).2 htwo⟩
  rw [(interpolate_write (isExpression_tagOr _) []).1 hone, hvalue]
  rfl

/-- The expression has a value and its placeholder has none. -/
theorem interpolate_closing_in_quotes :
    IsExpression (tagOr "\x7d\x7d").toList ∧
      write (tagOr "\x7d\x7d") = "$\x7b\x7b tag | default(\"\x7d\x7d\") \x7d\x7d" ∧
      evaluate (tagOr "\x7d\x7d") [] = .ok (.str "\x7d\x7d") ∧
      interpolate (write (tagOr "\x7d\x7d")) [] =
        .error (openQuote "tag | default(\"".toList) ∧
      interpolate (write (tagOr "\x7d\x7d")) [] ≠
        (evaluate (tagOr "\x7d\x7d") []).bind fun v => Failure.ofText v.scriptText := by
  have hvalue : evaluate (tagOr "\x7d\x7d") [] = .ok (.str "\x7d\x7d") := by with_unfolding_all rfl
  have hexpr : (tagOr "\x7d\x7d").toList =
      "tag | default(\"".toList ++ (closing ++ "\")".toList) := by decide
  have hfirst : ¬ closing <:+: "tag | default(\"".toList ++ ['\x7d'] := by decide +kernel
  have hblanks : Text.dropEnd Text.isBlank "tag | default(\"".toList =
      "tag | default(\"".toList := by decide
  have hfails : interpolate (write (tagOr "\x7d\x7d")) [] =
      .error (openQuote "tag | default(\"".toList) := by
    rw [interpolate_write_of_closing (isExpression_tagOr _) hexpr hfirst, hblanks]
  refine ⟨isExpression_tagOr _, by decide, hvalue, hfails, ?_⟩
  rw [hfails, hvalue]
  rintro ⟨⟩

end Jenkinsfile.Placeholder
