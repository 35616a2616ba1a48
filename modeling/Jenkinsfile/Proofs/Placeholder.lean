import Jenkinsfile.Placeholder
import Jenkinsfile.Proofs.Expression.Parts
import Jenkinsfile.Proofs.Script.Escape

/-! How bodies with placeholders fail.  A body fails as the first of its expressions does whose value
has no text; `failsOnly_expected_iff` says of expressions and bodies what they may end in. -/

namespace Jenkinsfile

open Failure
open Expression (Expected evaluate)

namespace Placeholder

variable {cs : List Char} {body : String} {context : Table Value}

/-! ### Expressions in a body -/

theorem suffix_of_closing {rest : List Char} (h : closing? cs = some rest) : rest <:+ cs := by
  have hblank : cs.dropWhile Text.isBlank <:+ cs := List.dropWhile_suffix _
  rw [closing?] at h
  split at h
  · rename_i after hc
    cases h
    rw [hc] at hblank
    exact ((List.suffix_cons _ _).trans (List.suffix_cons _ _)).trans hblank
  · cases h

theorem infix_of_upToClosing {expr rest : List Char} (h : upToClosing? cs = some (expr, rest)) :
    expr <+: cs ∧ rest <:+ cs := by
  induction cs generalizing expr with
  | nil => cases h
  | cons c cs ih =>
    rw [upToClosing?] at h
    split at h
    · rename_i after hclosing
      cases h
      exact ⟨List.prefix_append [c] cs, (suffix_of_closing hclosing).trans (List.suffix_cons c cs)⟩
    · obtain ⟨r, hr, h⟩ := Option.map_eq_some_iff.mp h
      cases h
      obtain ⟨hexpr, hrest⟩ := ih hr
      exact ⟨List.cons_prefix_cons.mpr ⟨rfl, hexpr⟩, hrest.trans (List.suffix_cons c cs)⟩

theorem infix_of_inside {expr rest : List Char} (h : inside? cs = some (expr, rest)) :
    expr <:+: cs ∧ rest <:+ cs := by
  have hblank : cs.dropWhile Text.isBlank <:+ cs := List.dropWhile_suffix _
  simp only [inside?] at h
  split at h
  · rename_i hr
    cases h
    obtain ⟨hexpr, hrest⟩ := infix_of_upToClosing hr
    exact ⟨hexpr.isInfix.trans hblank.isInfix, hrest.trans hblank⟩
  · split at h
    · rename_i blank after hlast hclosing
      cases h
      obtain ⟨init, hinit⟩ := List.getLast?_eq_some_iff.mp hlast
      have hend : [blank] <:+ cs.takeWhile Text.isBlank := ⟨init, hinit.symm⟩
      refine ⟨hend.isInfix.trans (List.takeWhile_prefix _).isInfix, ?_⟩
      exact (suffix_of_closing hclosing).trans hblank
    · cases h

theorem suffix_of_afterOpening {rest : List Char} (h : afterOpening? cs = some rest) :
    rest <:+ cs := by
  unfold afterOpening? at h
  split at h
  · cases h
    exact ⟨['$', '\x7b', '\x7b'], rfl⟩
  · cases h

/-- Every expression of a body stands in it. -/
theorem infix_of_mem_pieces {expr : List Char} (h : .expression expr ∈ pieces cs) :
    expr <:+: cs := by
  fun_induction pieces cs with
  | case1 => cases h
  | case2 c cs _ ih =>
    have hrest : .expression expr ∈ pieces cs := by simpa using h
    exact (ih hrest).trans (List.suffix_cons c cs).isInfix
  | case3 c cs body _ _ ih =>
    have hrest : .expression expr ∈ pieces cs := by simpa using h
    exact (ih hrest).trans (List.suffix_cons c cs).isInfix
  | case4 c cs body hopening expr' rest hinside _ _ ih =>
    have hbody := suffix_of_afterOpening hopening
    obtain ⟨hexpr, hrest⟩ := infix_of_inside hinside
    rcases List.mem_cons.mp h with heq | hmem
    · obtain rfl : expr = expr' := Piece.expression.inj heq
      exact hexpr.trans hbody.isInfix
    · exact (ih hmem).trans (hrest.trans hbody).isInfix

/-! ### Filling in -/

theorem fill_eq_error_iff {p : Piece} {f : Failure} :
    p.fill context = .error f ↔
      ∃ expr, p = .expression expr ∧ valueText context (.ofList expr) = .error f := by
  cases p with
  | literal c => simp [Piece.fill]
  | expression expr =>
    rw [Piece.fill]
    cases h : valueText context (.ofList expr) <;> simp [h]

/-- Pieces fail as the first one does that has no text. -/
theorem fillAll_eq_error_iff {ps : List Piece} {f : Failure} :
    fillAll context ps = .error f ↔
      ∃ before expr after text, ps = before ++ .expression expr :: after ∧
        fillAll context before = .ok text ∧ valueText context (.ofList expr) = .error f := by
  induction ps with
  | nil => simp [fillAll]
  | cons p ps ih =>
    rw [fillAll, bind_eq_error]
    constructor
    · rintro (hfill | ⟨text, htext, hrest⟩)
      · obtain ⟨expr, rfl, hexpr⟩ := fill_eq_error_iff.mp hfill
        exact ⟨[], expr, ps, [], rfl, rfl, hexpr⟩
      · obtain ⟨before, expr, after, text', rfl, hbefore, hexpr⟩ :=
          ih.mp (bind_pure_eq_error.mp hrest)
        refine ⟨p :: before, expr, after, text ++ text', rfl, ?_, hexpr⟩
        rw [fillAll, htext, hbefore]
        rfl
    · rintro ⟨before, expr, after, text, hps, hbefore, hexpr⟩
      cases before with
      | nil =>
        obtain ⟨rfl, rfl⟩ := List.cons.inj hps
        exact .inl (fill_eq_error_iff.mpr ⟨expr, rfl, hexpr⟩)
      | cons p' before =>
        obtain ⟨rfl, rfl⟩ := List.cons.inj hps
        obtain ⟨head, hhead, hrest⟩ := bind_eq_ok.mp hbefore
        obtain ⟨tail, htail, -⟩ := bind_eq_ok.mp hrest
        have hps := ih.mpr ⟨before, expr, after, tail, rfl, htail, hexpr⟩
        exact .inr ⟨head, hhead, bind_pure_eq_error.mpr hps⟩

theorem interpolate_eq_error_iff {f : Failure} :
    interpolate body context = .error f ↔ fillAll context (pieces body.toList) = .error f :=
  bind_pure_eq_error

/-- The failures that may come of a body among named values: those of its expressions, and the fault
over a named value without a text, for a number in it that is too long or a part that JSON has no
form for. -/
inductive BodyFailure (cs : List Char) (context : Table Value) : Failure → Prop where
  | expected {f : Failure} (h : Expected cs f) : BodyFailure cs context f
  | wordless {f : TextFault} (h : Value.JsonFault (fun p => p.IsPart (.map context)) f) :
    BodyFailure cs context (.fault (.text f))

theorem not_bodyFailure_joinsWithInteger : ¬ BodyFailure cs context (.fault .joinsWithInteger) := by
  rintro ⟨⟨⟩⟩

/-- An expression has no text as expected, for a wordless value, or because it joins a list with a
number. -/
theorem valueText_eq_error {expr : String} {f : Failure} (h : valueText context expr = .error f) :
    BodyFailure expr.toList context f ∨
      f = .fault .joinsWithInteger ∧ Expression.JoinsNumber expr context := by
  rcases bind_eq_error.mp h with hexpr | ⟨v, hv, htext⟩
  · exact (Expression.evaluate_eq_error hexpr).imp_left .expected
  · obtain ⟨g, hg, rfl⟩ := ofText_eq_error_iff.mp htext
    refine .inl (.wordless ?_)
    have hdraws := Expression.drawsOn_evaluate hv
    cases v.tells_scriptText.of_error hg with
    | long hn hlong => exact .long (hdraws _ hlong hn) hlong
    | foreign ho => exact .foreign (hdraws _ trivial ho)

/-- Whether a body comes to join a list with a number. -/
def JoinsNumber (body : String) (context : Table Value) : Prop :=
  ∃ before expr after text, pieces body.toList = before ++ .expression expr :: after ∧
    fillAll context before = .ok text ∧ Expression.JoinsNumber (.ofList expr) context

theorem interpolate_of_joinsNumber (h : JoinsNumber body context) :
    interpolate body context = .error (.fault .joinsWithInteger) := by
  obtain ⟨before, expr, after, text, hps, hbefore, hjoins⟩ := h
  rw [interpolate_eq_error_iff, fillAll_eq_error_iff]
  refine ⟨before, expr, after, text, hps, hbefore, bind_eq_error.mpr (.inl ?_)⟩
  exact Expression.evaluate_of_joinsNumber hjoins

/-- A body ends as may be expected or joins a list with a number. -/
theorem interpolate_eq_error {f : Failure} (h : interpolate body context = .error f) :
    BodyFailure body.toList context f ∨ f = .fault .joinsWithInteger ∧ JoinsNumber body context := by
  rw [interpolate_eq_error_iff, fillAll_eq_error_iff] at h
  obtain ⟨before, expr, after, text, hps, hbefore, hexpr⟩ := h
  rcases valueText_eq_error hexpr with hexpected | ⟨rfl, hjoins⟩
  · rw [String.toList_ofList] at hexpected
    refine .inl ?_
    cases hexpected with
    | expected h => exact .expected (h.of_infix (infix_of_mem_pieces (by simp [hps])))
    | wordless h => exact .wordless h
  · exact .inr ⟨rfl, before, expr, after, text, hps, hbefore, hjoins⟩

/-- A body fails as may be expected unless it joins a list with a number. -/
theorem failsOnly_interpolate_iff :
    FailsOnly (BodyFailure body.toList context) (interpolate body context) ↔
      ¬ JoinsNumber body context :=
  Expression.failsOnly_iff_not_joins not_bodyFailure_joinsWithInteger
    (fun _ => interpolate_eq_error) interpolate_of_joinsNumber

/-- Among given values expressions and bodies fail as may be expected, save for one misuse: a list
that is joined with a number. -/
theorem failsOnly_expected_iff (context : Table Value) :
    (∀ expr, FailsOnly (Expected expr.toList) (evaluate expr context) ↔
      ¬ Expression.JoinsNumber expr context) ∧
      ∀ body, FailsOnly (BodyFailure body.toList context) (interpolate body context) ↔
        ¬ JoinsNumber body context :=
  ⟨fun _ => Expression.failsOnly_evaluate_iff, fun _ => failsOnly_interpolate_iff⟩

/-- The misuse is not told as the others are. -/
theorem not_failsOnly_list_joined :
    evaluate "xs | join(1)" [("xs", .list [.str "a"])] = .error (.fault .joinsWithInteger) ∧
      ¬ FailsOnly (Expected "xs | join(1)".toList)
        (evaluate "xs | join(1)" [("xs", .list [.str "a"])]) := by
  have hjoined : evaluate "xs | join(1)" [("xs", .list [.str "a"])] =
      .error (.fault .joinsWithInteger) := by
    with_unfolding_all rfl
  exact ⟨hjoined, fun h => Expression.not_expected_joinsWithInteger (h _ hjoined)⟩

end Placeholder

end Jenkinsfile
