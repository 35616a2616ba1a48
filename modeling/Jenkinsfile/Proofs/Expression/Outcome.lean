import Jenkinsfile.Placeholder
import Jenkinsfile.Proofs.Failure
import Jenkinsfile.Proofs.Text.Separator
import Jenkinsfile.Proofs.Text.Trim

/-! What goes wrong in expressions.  They end in an error of rendering, or in a fault over a number
that is written with too many digits; `failsOnly_evaluate_iff` says that there is one way to anything
else, which is to join a list with a number. -/

namespace Jenkinsfile

open Failure

namespace Expression

variable {expr : String} {cs ds : List Char}

/-- The failures that may come of a text: errors in rendering, and the fault over a number in the
text that has too many digits. -/
inductive Expected (cs : List Char) : Failure → Prop where
  | render (message : String) (data : Table Detail) :
    Expected cs (.error (.render message data))
  | digits {ds : List Char} (hds : ds <:+: cs) (hdigits : ds.all Text.isDigit = true)
      (hlong : Decimal.maxDigits < ds.length) :
    Expected cs (.fault (.tooManyDigits ds.length))

theorem Expected.of_infix {f : Failure} (h : Expected cs f) (hcs : cs <:+: ds) : Expected ds f := by
  cases h with
  | render => exact .render _ _
  | digits hin hdigits hlong => exact .digits (hin.trans hcs) hdigits hlong

theorem not_expected_joinsWithInteger : ¬ Expected cs (.fault .joinsWithInteger) := by
  rintro ⟨⟩

/-- What fails as it may or over a join does so as it may just if it comes to no join. -/
theorem failsOnly_iff_not_joins {α : Type} {x : Except Failure α} {P : Failure → Prop}
    {joins : Prop} (hP : ¬ P (.fault .joinsWithInteger))
    (hfails : ∀ f, x = .error f → P f ∨ f = .fault .joinsWithInteger ∧ joins)
    (hjoins : joins → x = .error (.fault .joinsWithInteger)) : FailsOnly P x ↔ ¬ joins := by
  constructor
  · intro h hj
    exact hP (h _ (hjoins hj))
  · intro h f hf
    exact (hfails f hf).resolve_right fun hj => h hj.2

/-! ### Reading -/

theorem failsOnly_errorIn {α : Type} (message : String) :
    FailsOnly (Expected cs) (errorIn message expr : Except Failure α) := by
  rw [errorIn, failsOnly_error_iff]
  exact .render _ _

theorem infix_of_mem_partsFrom {quote : Option Char} {escaped : Bool} {part : List Char}
    {parts : List (List Char)} (h : partsFrom quote escaped part cs = some parts) :
    ∀ p ∈ parts, p <:+: part.reverse ++ cs := by
  induction cs generalizing quote escaped part parts with
  | nil =>
    rw [partsFrom] at h
    split at h
    · cases h
    · cases h
      simp
  | cons c cs ih =>
    -- Either `c` becomes part of the part, or it is the bar after it.
    have hnext {quote : Option Char} {escaped : Bool}
        (h : partsFrom quote escaped (c :: part) cs = some parts) :
        ∀ p ∈ parts, p <:+: part.reverse ++ c :: cs := by
      simpa using ih h
    cases quote with
    | some q =>
      simp only [partsFrom] at h
      split_ifs at h
      all_goals exact hnext h
    | none =>
      simp only [partsFrom] at h
      split_ifs at h
      · exact hnext h
      · obtain ⟨others, hothers, rfl⟩ := Option.map_eq_some_iff.mp h
        intro p hp
        rcases List.mem_cons.mp hp with rfl | hp
        · exact (List.prefix_append ..).isInfix
        · have hin : p <:+: cs := ih hothers p hp
          exact hin.trans (List.suffix_append_of_suffix (List.suffix_cons c cs)).isInfix
      · exact hnext h

/-- Every part of an expression stands in it. -/
theorem infix_of_mem_parts {parts : List (List Char)} (h : parts? cs = some parts) :
    ∀ p ∈ parts, p <:+: cs :=
  infix_of_mem_partsFrom h

theorem failsOnly_readPath : FailsOnly (Expected ds) (readPath expr cs) := by
  simp only [readPath]
  split
  · exact failsOnly_errorIn _
  · exact failsOnly_ok _

theorem infix_of_readPath {segments : List (List Char)} (h : readPath expr cs = .ok segments) :
    ∀ s ∈ segments, s <:+: cs := by
  simp only [readPath] at h
  split at h
  · cases h
  · cases h
    intro s hs
    exact (Text.infix_of_mem_splitOn s hs).trans (Text.infix_dropAround _ cs)

theorem expected_of_step {v : Value} {segment : List Char} {g : Fault} (hs : segment <:+: cs)
    (h : step v segment = .error g) : Expected cs (.fault g) := by
  cases v with
  | list items =>
    simp only [step] at h
    split_ifs at h with hdigits hlong
    cases h
    exact .digits hs hdigits hlong
  | null | bool | int | float | str | map | other => cases h

theorem expected_of_follow {v : Value} {segments : List (List Char)} {g : Fault}
    (hs : ∀ s ∈ segments, s <:+: cs) (h : follow v segments = .error g) :
    Expected cs (.fault g) := by
  induction segments generalizing v with
  | nil => cases h
  | cons s segments ih =>
    rw [List.forall_mem_cons] at hs
    rcases bind_eq_error.mp h with hstep | ⟨w, -, hrest⟩
    · exact expected_of_step hs.1 hstep
    · cases w with
      | none => cases hrest
      | some w => exact ih hs.2 hrest

theorem suffix_of_closeQuote {q : Char} {text rest : List Char}
    (h : closeQuote? q cs = some (text, rest)) : rest <:+ cs := by
  fun_induction closeQuote? q cs generalizing text with
  | case1 => cases h
  | case2 c cs ih =>
    obtain ⟨r, hr, h⟩ := Option.map_eq_some_iff.mp h
    cases h
    exact ((ih hr).trans (List.suffix_cons c cs)).trans (List.suffix_cons _ _)
  | case3 cs =>
    cases h
    exact List.suffix_cons _ _
  | case4 => cases h
  | case5 c cs _ _ _ ih =>
    obtain ⟨r, hr, h⟩ := Option.map_eq_some_iff.mp h
    cases h
    exact (ih hr).trans (List.suffix_cons c cs)

theorem failsOnly_readInt (negative : Bool) (hds : ds <:+: cs)
    (hdigits : ds.all Text.isDigit = true) : FailsOnly (Expected cs) (readInt negative ds) := by
  rw [readInt]
  split
  · rename_i hlong
    rw [failsOnly_error_iff]
    exact .digits hds hdigits hlong
  · exact failsOnly_ok _

theorem failsOnly_of_argument {rest : List Char} {arg : Except Failure Literal}
    (h : argument? cs = some (arg, rest)) : FailsOnly (Expected cs) arg ∧ rest <:+ cs := by
  have hblank : cs.dropWhile Text.isBlank <:+ cs := List.dropWhile_suffix _
  rw [argument?] at h
  split at h
  · cases h
  · rename_i c after hc
    rw [hc] at hblank
    split at h
    · obtain ⟨r, hr, h⟩ := Option.map_eq_some_iff.mp h
      cases h
      have hafter : after <:+ cs := (List.suffix_cons c after).trans hblank
      exact ⟨failsOnly_ok _, (suffix_of_closeQuote hr).trans hafter⟩
    · have hnumber : (if c = '-' then after else c :: after) <:+ cs := by
        split
        · exact (List.suffix_cons c after).trans hblank
        · exact hblank
      simp only at h
      generalize (if c = '-' then after else c :: after) = number at h hnumber
      split at h
      · cases h
      · cases h
        refine ⟨failsOnly_readInt _ ?_ List.all_takeWhile, ?_⟩
        · exact (List.takeWhile_prefix _).isInfix.trans hnumber.isInfix
        · exact (List.dropWhile_suffix _).trans hnumber

theorem suffix_of_afterArgument {rest : List Char} (h : afterArgument? cs = some rest) :
    rest <:+ cs := by
  have hblank : cs.dropWhile Text.isBlank <:+ cs := List.dropWhile_suffix _
  rw [afterArgument?] at h
  split at h
  · cases h
    exact List.nil_suffix
  · rename_i after hc
    cases h
    rw [hc] at hblank
    exact (List.suffix_cons _ _).trans hblank
  · cases h

theorem failsOnly_readArgumentsFrom {fuel : Nat} (hcs : cs <:+: ds) :
    FailsOnly (Expected ds) (readArgumentsFrom expr fuel cs) := by
  induction fuel generalizing cs with
  | zero =>
    cases cs with
    | nil => exact failsOnly_ok _
    | cons => exact failsOnly_errorIn _
  | succ fuel ih =>
    cases cs with
    | nil => exact failsOnly_ok _
    | cons c cs =>
      simp only [readArgumentsFrom]
      split
      · exact failsOnly_errorIn _
      · rename_i arg rest harg
        obtain ⟨hfails, hrest⟩ := failsOnly_of_argument harg
        split
        · exact failsOnly_errorIn _
        · rename_i rest' hafter
          have hrest' : rest' <:+: ds :=
            ((suffix_of_afterArgument hafter).trans hrest).isInfix.trans hcs
          refine (hfails.mono fun f hf => hf.of_infix hcs).bind fun a _ => ?_
          exact (ih hrest').bind fun _ _ => failsOnly_pure _

theorem infix_of_betweenParens {inside : List Char} (h : betweenParens? cs = some inside) :
    inside <:+: cs := by
  have htrim : Text.dropAround Text.isBlank cs <:+: cs := Text.infix_dropAround _ _
  rw [betweenParens?] at h
  split at h
  · cases h
    exact List.nil_infix
  · rename_i open' hopen
    split at h
    · rename_i back hback
      cases h
      have hinside : back.reverse <+: open' := ⟨[')'], by rw [← List.reverse_inj, hback]; simp⟩
      rw [hopen] at htrim
      exact (hinside.isInfix.trans (List.suffix_cons _ _).isInfix).trans htrim
    · cases h
  · cases h

theorem infix_of_callParts {name inside : List Char} (h : callParts? cs = some (name, inside)) :
    inside <:+: cs := by
  simp only [callParts?] at h
  split at h
  · cases h
  · obtain ⟨inside', hinside, h⟩ := Option.map_eq_some_iff.mp h
    cases h
    refine (infix_of_betweenParens hinside).trans (List.IsSuffix.isInfix ?_)
    exact (List.dropWhile_suffix _).trans (List.dropWhile_suffix _)

theorem failsOnly_readCall (hcs : cs <:+: ds) : FailsOnly (Expected ds) (readCall expr cs) := by
  rw [readCall]
  split
  · exact failsOnly_errorIn _
  · rename_i name inside hparts
    split
    · exact failsOnly_errorIn _
    · refine FailsOnly.map (failsOnly_readArgumentsFrom ?_) _
      exact (Text.infix_dropAround _ _).trans ((infix_of_callParts hparts).trans hcs)

/-! ### Calls -/

/-- Whether a call ends in no fault. -/
def Answers {α : Type} (x : Except CallError α) : Prop := ∀ g, x ≠ .error (.fault g)

section Answers

variable {α β : Type} {x : Except CallError α}

theorem answers_ok (a : α) : Answers (.ok a) := by
  simp [Answers]

theorem answers_misuse (message : String) : Answers (.error (.misuse message) : Except _ α) := by
  simp [Answers]

theorem answers_unanswered (message : String) :
    Answers (.error (.unanswered message) : Except _ α) := by
  simp [Answers]

theorem Answers.bind {f : α → Except CallError β} (h : Answers x) (hf : ∀ a, Answers (f a)) :
    Answers (x >>= f) := by
  intro g hg
  rcases bind_eq_error.mp hg with hx | ⟨a, -, ha⟩
  · exact h g hx
  · exact hf a g ha

theorem Answers.map (h : Answers x) (f : α → β) : Answers (f <$> x) := by
  cases x with
  | ok a => exact answers_ok (f a)
  | error e =>
    intro g hg
    exact h g (by rw [Except.error.inj hg])

theorem answers_ofText (x : Except TextFault α) : Answers (CallError.ofText x) := by
  cases x <;> simp [Answers, CallError.ofText]

end Answers

theorem answers_operand (v : Value) : Answers (operand v) := by
  rw [operand.eq_def]
  split
  · exact answers_ok _
  · exact answers_ofText _

theorem answers_operands (items : List Value) : Answers (operands items) := by
  induction items with
  | nil => exact answers_ok []
  | cons v items ih => exact (answers_operand v).bind fun _ => ih.bind fun _ => answers_ok _

theorem answers_apply {f : Function} (hf : f ≠ .join) (v : Value) (args : List Literal) :
    Answers (f.apply v args) := by
  cases f with
  | join => exact absurd rfl hf
  | split =>
    simp only [Function.apply, Function.applySplit]
    split
    · exact (answers_operand v).bind fun _ => answers_ok _
    · refine (answers_operand v).bind fun text => ?_
      split
      · exact answers_misuse _
      · exact answers_ok _
    · exact (answers_operand v).bind fun _ => answers_misuse _
    · exact answers_misuse _
  | replace =>
    simp only [Function.apply, Function.applyReplace]
    split
    · exact answers_misuse _
    · exact answers_misuse _
    · exact (answers_operand v).bind fun _ => answers_ok _
    · exact (answers_operand v).bind fun _ => answers_misuse _
    · exact (answers_operand v).bind fun _ => answers_misuse _
    · exact answers_misuse _
  | index =>
    simp only [Function.apply, Function.applyIndex]
    split
    · exact answers_misuse _
    · split
      · split
        · exact answers_ok _
        · split
          · exact answers_unanswered _
          · exact answers_misuse _
      · split
        · exact answers_ok _
        · split
          · exact answers_unanswered _
          · exact answers_misuse _
      · exact answers_misuse _
      · exact answers_misuse _
      · exact answers_unanswered _
    · exact answers_misuse _
  | fallback =>
    simp only [Function.apply, Function.applyFallback]
    split
    · exact answers_ok _
    · exact answers_ok _
    · exact answers_misuse _
  | upper | lower | trim =>
    simp only [Function.apply, Function.applyPlain]
    split
    · exact ((answers_operand v).map _).map _
    · exact answers_misuse _
  | json =>
    simp only [Function.apply, Function.applyPlain]
    split
    · exact (answers_ofText _).map _
    · exact answers_misuse _

theorem answers_joined (sep : String) (v : Value) : Answers (Function.joined sep v) := by
  cases v with
  | list items => exact (answers_operands _).bind fun _ => answers_ok _
  | null | bool | int | float | str | map | other => exact (answers_operand _).map _

/-- The functions have one fault: a list joined with a number. -/
theorem apply_eq_fault {f : Function} {v : Value} {args : List Literal} {g : Fault}
    (h : f.apply v args = .error (.fault g)) :
    g = .joinsWithInteger ∧ ∃ items n, v = .list items ∧ f = .join ∧ args = [.int n] := by
  by_cases hf : f = .join
  · subst hf
    simp only [Function.apply, Function.applyJoin] at h
    split at h
    · exact absurd h (answers_joined _ _ g)
    · exact absurd h (answers_joined _ _ g)
    · split at h
      · cases h
        exact ⟨rfl, _, _, rfl, rfl, rfl⟩
      · exact absurd h ((answers_operand _).map _ g)
    · exact absurd h (answers_misuse _ g)
  · exact absurd h (answers_apply hf v args g)

theorem applyFallback_none_ne_fault (args : List Literal) (g : Fault) :
    Function.applyFallback none args ≠ .error (.fault g) := by
  intro h
  simp only [Function.applyFallback] at h
  split at h <;> cases h

/-- A call ends in an error of rendering, or joins a list with a number. -/
theorem run_eq_error {c : Call} {v : Option Value} {f : Failure} (h : c.run expr v = .error f) :
    Expected cs f ∨ f = .fault .joinsWithInteger ∧
      ∃ items n, v = some (.list items) ∧ c = ⟨.join, [.int n]⟩ := by
  simp only [Call.run] at h
  split at h
  · cases h
  · cases h
    exact .inl (.render _ _)
  · cases h
    exact .inl (.render _ _)
  · rename_i g hg
    cases h
    cases v with
    | none => exact absurd hg (applyFallback_none_ne_fault c.args g)
    | some v =>
      obtain ⟨rfl, items, n, rfl, hf, hargs⟩ := apply_eq_fault hg
      obtain ⟨function, args⟩ := c
      obtain rfl : function = .join := hf
      obtain rfl : args = [.int n] := hargs
      exact .inr ⟨rfl, items, n, rfl, rfl⟩

theorem runCalls_append {v w : Option Value} {calls : List (Except Failure Call)}
    (h : runCalls expr v calls = .ok w) (hw : w.isSome = true) (more : List (Except Failure Call)) :
    runCalls expr v (calls ++ more) = runCalls expr w more := by
  induction calls generalizing v with
  | nil =>
    cases h
    rfl
  | cons call calls ih =>
    rw [runCalls] at h
    obtain ⟨c, hc, h⟩ := bind_eq_ok.mp h
    rw [List.cons_append, runCalls, hc]
    simp only [bind, Except.bind]
    split at h
    · cases h
      cases hw
    · rename_i hsome
      obtain ⟨u, hu, h⟩ := bind_eq_ok.mp h
      rw [if_neg hsome, hu]
      exact ih h

/-- Whether calls come to join a list with a number. -/
def RunsIntoJoin (expr : String) (v : Option Value) (calls : List (Except Failure Call)) : Prop :=
  ∃ before n after items, calls = before ++ .ok ⟨.join, [.int n]⟩ :: after ∧
    runCalls expr v before = .ok (some (.list items))

theorem RunsIntoJoin.cons {c : Call} {v : Option Value} {w : Value}
    {calls : List (Except Failure Call)} (hc : runCalls expr v [.ok c] = .ok (some w))
    (h : RunsIntoJoin expr (some w) calls) : RunsIntoJoin expr v (.ok c :: calls) := by
  obtain ⟨before, n, after, items, rfl, hbefore⟩ := h
  refine ⟨.ok c :: before, n, after, items, rfl, ?_⟩
  rw [← hbefore]
  exact runCalls_append hc rfl before

theorem runCalls_of_runsIntoJoin {v : Option Value} {calls : List (Except Failure Call)}
    (h : RunsIntoJoin expr v calls) :
    runCalls expr v calls = .error (.fault .joinsWithInteger) := by
  obtain ⟨before, n, after, items, rfl, hbefore⟩ := h
  rw [runCalls_append hbefore rfl]
  rfl

/-- Calls end as expected or run into a join. -/
theorem runCalls_eq_error {calls : List (Except Failure Call)}
    (hcalls : ∀ call ∈ calls, FailsOnly (Expected cs) call) {v : Option Value} {f : Failure}
    (h : runCalls expr v calls = .error f) :
    Expected cs f ∨ f = .fault .joinsWithInteger ∧ RunsIntoJoin expr v calls := by
  induction calls generalizing v with
  | nil => cases h
  | cons call calls ih =>
    rw [List.forall_mem_cons] at hcalls
    rw [runCalls] at h
    rcases bind_eq_error.mp h with hcall | ⟨c, rfl, hgoes⟩
    · exact .inl (hcalls.1 f hcall)
    split at hgoes
    · cases hgoes
    rename_i hsome
    rcases bind_eq_error.mp hgoes with hrun | ⟨w, hw, hrest⟩
    · refine (run_eq_error hrun).imp_right ?_
      rintro ⟨rfl, items, n, rfl, rfl⟩
      exact ⟨rfl, [], n, calls, items, rfl, rfl⟩
    · refine (ih hcalls.2 hrest).imp_right (And.imp_right (RunsIntoJoin.cons ?_))
      simp [runCalls, bind, Except.bind, hsome, hw]

/-! ### Expressions -/

/-- Whether an expression comes to join a list with a number. -/
def JoinsNumber (expr : String) (context : Table Value) : Prop :=
  ∃ path calls segments v, parts? expr.toList = some (path :: calls) ∧
    readPath expr path = .ok segments ∧ follow (.map context) segments = .ok v ∧
    RunsIntoJoin expr v (calls.map (readCall expr))

theorem evaluate_of_joinsNumber {context : Table Value} (h : JoinsNumber expr context) :
    evaluate expr context = .error (.fault .joinsWithInteger) := by
  obtain ⟨path, calls, segments, v, hparts, hpath, hv, hcalls⟩ := h
  simp [evaluate, hparts, hpath, hv, Failure.ofFault, runCalls_of_runsIntoJoin hcalls, bind,
    Except.bind]

/-- An expression ends as expected or joins a list with a number. -/
theorem evaluate_eq_error {context : Table Value} {f : Failure}
    (h : evaluate expr context = .error f) :
    Expected expr.toList f ∨ f = .fault .joinsWithInteger ∧ JoinsNumber expr context := by
  rw [evaluate] at h
  split at h
  · cases h
    exact .inl (.render _ _)
  · cases h
  · rename_i path calls hparts
    have hin := List.forall_mem_cons.mp (infix_of_mem_parts hparts)
    have hcalls : ∀ call ∈ calls.map (readCall expr), FailsOnly (Expected expr.toList) call := by
      intro call hc
      obtain ⟨part, hpart, rfl⟩ := List.mem_map.mp hc
      exact failsOnly_readCall (hin.2 part hpart)
    rcases bind_eq_error.mp h with hpath | ⟨segments, hpath, h⟩
    · exact .inl (failsOnly_readPath f hpath)
    rcases bind_eq_error.mp h with hv | ⟨v, hv, h⟩
    · obtain ⟨g, hg, rfl⟩ := ofFault_eq_error_iff.mp hv
      refine .inl (expected_of_follow (fun s hs => ?_) hg)
      exact (infix_of_readPath hpath s hs).trans hin.1
    rw [ofFault_eq_ok_iff] at hv
    rcases bind_eq_error.mp h with hrun | ⟨w, -, h⟩
    · refine (runCalls_eq_error hcalls hrun).imp_right (And.imp_right fun hjoin => ?_)
      exact ⟨path, calls, segments, v, hparts, hpath, hv, hjoin⟩
    · cases w with
      | some w => cases h
      | none =>
        cases h
        exact .inl (.render _ _)

/-- An expression fails as expected unless it joins a list with a number. -/
theorem failsOnly_evaluate_iff {context : Table Value} :
    FailsOnly (Expected expr.toList) (evaluate expr context) ↔ ¬ JoinsNumber expr context :=
  failsOnly_iff_not_joins not_expected_joinsWithInteger (fun _ => evaluate_eq_error)
    evaluate_of_joinsNumber

end Expression

end Jenkinsfile
