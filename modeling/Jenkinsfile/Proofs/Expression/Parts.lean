import Jenkinsfile.Proofs.Expression.Meaning
import Jenkinsfile.Proofs.Expression.Outcome
import Jenkinsfile.Proofs.Table
import Jenkinsfile.Proofs.Text.Digit
import Jenkinsfile.Proofs.Value.Text

/-! What the values of expressions are made of.  The functions make texts, take items out of lists
and hand over their arguments, so whatever has no text in the value of an expression comes from the
named values. -/

namespace Jenkinsfile

open Failure

namespace Value

/-- A whole number that is too long to be written, or a value that JSON has no form for. -/
def Wordless : Value → Prop
  | .int n => isShort n = false
  | .other _ => True
  | _ => False

/-- Whether all wordless parts of `v` are parts of `w`. -/
def DrawsOn (w v : Value) : Prop := ∀ p, p.Wordless → IsPart p v → IsPart p w

variable {p v w : Value}

theorem IsPart.trans {u : Value} (hp : IsPart p v) (hv : IsPart v u) : IsPart p u := by
  induction hv with
  | whole => exact hp
  | item hmem _ ih => exact .item hmem ih
  | entry hmem _ ih => exact .entry hmem ih

theorem drawsOn_of_isPart (h : IsPart v w) : DrawsOn w v := fun _ _ hp => hp.trans h

theorem DrawsOn.trans {u : Value} (h : DrawsOn w v) (hu : DrawsOn v u) : DrawsOn w u :=
  fun p hp hpart => h p hp (hu p hp hpart)

@[simp] theorem drawsOn_null (w : Value) : DrawsOn w .null := by
  rintro p hp ⟨⟩
  cases hp

@[simp] theorem drawsOn_str (w : Value) (s : String) : DrawsOn w (.str s) := by
  rintro p hp ⟨⟩
  cases hp

theorem drawsOn_int {n : Int} (h : isShort n = true) (w : Value) : DrawsOn w (.int n) := by
  rintro p hp ⟨⟩
  rw [Wordless, h] at hp
  cases hp

theorem drawsOn_texts {α : Type} (w : Value) (f : α → String) (texts : List α) :
    DrawsOn w (.list (texts.map fun t => .str (f t))) := by
  intro p hp hpart
  rcases isPart_list_iff.mp hpart with rfl | ⟨v, hv, hpart⟩
  · cases hp
  · obtain ⟨t, -, rfl⟩ := List.mem_map.mp hv
    exact drawsOn_str w (f t) p hp hpart

end Value

namespace Expression

open Value

variable {expr : String} {cs : List Char}

/-! ### Arguments -/

/-- Whether an argument can be written. -/
def Literal.Short : Literal → Prop
  | .text _ => True
  | .int n => isShort n = true

theorem Literal.Short.drawsOn {a : Literal} (h : a.Short) (w : Value) : DrawsOn w a.toValue := by
  cases a with
  | text s => exact drawsOn_str w s
  | int n => exact drawsOn_int h w

theorem readInt_short {negative : Bool} {digits : List Char} {a : Literal}
    (h : readInt negative digits = .ok a) : a.Short := by
  rw [readInt] at h
  split at h
  · cases h
  · rename_i hlong
    cases h
    rw [Literal.Short, isShort_iff, Decimal.natAbs_signed]
    exact (Text.ofDigits_lt digits).trans_le
      (Nat.pow_le_pow_right (by decide) (Nat.not_lt.mp hlong))

theorem argument?_short {arg : Except Failure Literal} {rest : List Char} {a : Literal}
    (h : argument? cs = some (arg, rest)) (ha : arg = .ok a) : a.Short := by
  rw [argument?] at h
  split at h
  · cases h
  · rename_i c after _
    split at h
    · obtain ⟨r, -, h⟩ := Option.map_eq_some_iff.mp h
      cases h
      cases ha
      trivial
    · simp only at h
      generalize (if c = '-' then after else c :: after) = number at h
      split at h
      · cases h
      · cases h
        exact readInt_short ha

theorem readArgumentsFrom_short {fuel : Nat} {args : List Literal}
    (h : readArgumentsFrom expr fuel cs = .ok args) : ∀ a ∈ args, a.Short := by
  induction fuel generalizing cs args with
  | zero =>
    cases cs with
    | nil =>
      cases h
      simp
    | cons => cases h
  | succ fuel ih =>
    cases cs with
    | nil =>
      cases h
      simp
    | cons c cs =>
      simp only [readArgumentsFrom] at h
      split at h
      · cases h
      · rename_i harg
        split at h
        · cases h
        · obtain ⟨a, ha, h⟩ := bind_eq_ok.mp h
          obtain ⟨args', hargs, h⟩ := bind_eq_ok.mp h
          cases h
          rw [List.forall_mem_cons]
          exact ⟨argument?_short harg ha, ih hargs⟩

theorem readCall_short {c : Call} (h : readCall expr cs = .ok c) : ∀ a ∈ c.args, a.Short := by
  rw [readCall] at h
  split at h
  · cases h
  · split at h
    · cases h
    · rename_i f _
      cases hargs : readArguments expr _ with
      | error e =>
        rw [hargs] at h
        cases h
      | ok args =>
        rw [hargs] at h
        cases h
        exact readArgumentsFrom_short hargs

/-! ### Calls -/

theorem isPart_of_itemAt {items : List Value} {i : Int} {w : Value}
    (h : Function.itemAt? items i = some w) : IsPart w (.list items) := by
  have hmem : w ∈ items := by
    cases i with
    | ofNat i => exact List.mem_of_getElem? h
    | negSucc i =>
      simp only [Function.itemAt?] at h
      split at h
      · exact List.mem_of_getElem? h
      · cases h
  exact .item hmem .whole

theorem drawsOn_applyPlain {f : Function} {result : Except CallError String}
    {args : List Literal} {v w : Value} (h : f.applyPlain result args = .ok w) : DrawsOn v w := by
  cases args with
  | nil =>
    cases result with
    | error e => cases h
    | ok s =>
      cases h
      exact drawsOn_str v s
  | cons => cases h

section Apply

variable {v w : Value} {args : List Literal}

theorem drawsOn_applySplit (h : Function.applySplit v args = .ok w) : DrawsOn v w := by
  rw [Function.applySplit.eq_def] at h
  split at h
  · obtain ⟨text, -, h⟩ := bind_eq_ok.mp h
    cases h
    exact drawsOn_texts v id _
  · obtain ⟨text, -, h⟩ := bind_eq_ok.mp h
    split at h
    · cases h
    · cases h
      exact drawsOn_texts v .ofList _
  · obtain ⟨text, -, h⟩ := bind_eq_ok.mp h
    cases h
  · cases h

theorem drawsOn_applyReplace (h : Function.applyReplace v args = .ok w) : DrawsOn v w := by
  rw [Function.applyReplace.eq_def] at h
  split at h
  · cases h
  · cases h
  · obtain ⟨text, -, h⟩ := bind_eq_ok.mp h
    cases h
    exact drawsOn_str v _
  · obtain ⟨text, -, h⟩ := bind_eq_ok.mp h
    cases h
  · obtain ⟨text, -, h⟩ := bind_eq_ok.mp h
    cases h
  · cases h

theorem drawsOn_map_str {x : Except CallError String} (h : Value.str <$> x = .ok w) :
    DrawsOn v w := by
  cases x with
  | error e => cases h
  | ok s =>
    cases h
    exact drawsOn_str v s

theorem drawsOn_joined {sep : String} (h : Function.joined sep v = .ok w) : DrawsOn v w := by
  cases v with
  | list items =>
    obtain ⟨texts, -, h⟩ := bind_eq_ok.mp h
    cases h
    exact drawsOn_str _ _
  | null | bool | int | float | str | map | other => exact drawsOn_map_str h

theorem drawsOn_applyJoin (h : Function.applyJoin v args = .ok w) : DrawsOn v w := by
  simp only [Function.applyJoin] at h
  split at h
  · exact drawsOn_joined h
  · exact drawsOn_joined h
  · split at h
    · cases h
    · exact drawsOn_map_str h
  · cases h

theorem drawsOn_applyIndex (h : Function.applyIndex v args = .ok w) : DrawsOn v w := by
  simp only [Function.applyIndex] at h
  split at h
  · cases h
  · split at h
    · split at h
      · rename_i hitem
        cases h
        exact drawsOn_of_isPart (isPart_of_itemAt hitem)
      · cases h
    · split at h
      · cases h
        exact drawsOn_str _ _
      · cases h
    · cases h
    · cases h
    · cases h
  · cases h

theorem drawsOn_applyFallback (hargs : ∀ a ∈ args, a.Short)
    (h : Function.applyFallback (some v) args = .ok w) : DrawsOn v w := by
  have horElse {other : Value} (ho : DrawsOn v other) :
      DrawsOn v (if Function.givesWay (some v) then other else v) := by
    split
    · exact ho
    · exact drawsOn_of_isPart .whole
  simp only [Function.applyFallback] at h
  split at h
  · cases h
    exact horElse (drawsOn_str v "")
  · cases h
    exact horElse ((hargs _ List.mem_cons_self).drawsOn v)
  · cases h

/-- A function gives texts, a part of its value, or one of its arguments. -/
theorem drawsOn_apply {f : Function} (hargs : ∀ a ∈ args, a.Short) (h : f.apply v args = .ok w) :
    DrawsOn v w := by
  cases f with
  | split => exact drawsOn_applySplit h
  | replace => exact drawsOn_applyReplace h
  | join => exact drawsOn_applyJoin h
  | index => exact drawsOn_applyIndex h
  | fallback => exact drawsOn_applyFallback hargs h
  | upper | lower | trim | json => exact drawsOn_applyPlain h

end Apply

theorem run_eq_ok {c : Call} {v : Option Value} {w : Value} (h : c.run expr v = .ok w) :
    (∃ u, v = some u ∧ c.function.apply u c.args = .ok w) ∨
      v = none ∧ Function.applyFallback (some .null) c.args = .ok w := by
  cases v with
  | none =>
    refine .inr ⟨rfl, ?_⟩
    have hnull : Function.applyFallback none c.args = Function.applyFallback (some .null) c.args :=
      rfl
    simp only [Call.run, hnull] at h
    split at h
    · rename_i hok
      cases h
      exact hok
    · cases h
    · cases h
    · cases h
  | some u =>
    refine .inl ⟨u, rfl, ?_⟩
    simp only [Call.run] at h
    split at h
    · rename_i hok
      cases h
      exact hok
    · cases h
    · cases h
    · cases h

theorem drawsOn_runCalls {calls : List (Except Failure Call)} {v : Option Value} {w base : Value}
    (hcalls : ∀ call ∈ calls, ∀ c, call = .ok c → ∀ a ∈ c.args, a.Short)
    (hv : ∀ u, v = some u → DrawsOn base u) (h : runCalls expr v calls = .ok (some w)) :
    DrawsOn base w := by
  induction calls generalizing v with
  | nil => exact hv w (Except.ok.inj h)
  | cons call calls ih =>
    rw [List.forall_mem_cons] at hcalls
    rw [runCalls] at h
    obtain ⟨c, hc, h⟩ := bind_eq_ok.mp h
    split at h
    · cases h
    · obtain ⟨u, hu, h⟩ := bind_eq_ok.mp h
      refine ih hcalls.2 (fun u' hu' => ?_) h
      obtain rfl := Option.some.inj hu'
      rcases run_eq_ok hu with ⟨t, rfl, happly⟩ | ⟨rfl, happly⟩
      · exact (hv t rfl).trans (drawsOn_apply (hcalls.1 c hc) happly)
      · exact (drawsOn_null base).trans (drawsOn_applyFallback (hcalls.1 c hc) happly)

/-! ### Expressions -/

theorem Leads.isPart {v w : Value} {path : List (List Char)} (h : Leads v path w) :
    IsPart w v := by
  induction h with
  | here => exact .whole
  | further hs _ ih =>
    refine ih.trans ?_
    cases hs with
    | entry hv => exact .entry (Table.mem_of_get? hv) .whole
    | item _ _ hv => exact .item (List.mem_of_getElem? hv) .whole

/-- The value of an expression draws on the named values. -/
theorem drawsOn_evaluate {context : Table Value} {v : Value} (h : evaluate expr context = .ok v) :
    DrawsOn (.map context) v := by
  rw [evaluate] at h
  split at h
  · cases h
  · cases h
    exact drawsOn_null _
  · rename_i path calls _
    obtain ⟨segments, -, h⟩ := bind_eq_ok.mp h
    obtain ⟨u, hu, h⟩ := bind_eq_ok.mp h
    obtain ⟨w, hw, h⟩ := bind_eq_ok.mp h
    cases w with
    | none => cases h
    | some w =>
      cases h
      refine drawsOn_runCalls (fun call hcall c hc => ?_) (fun u' hu' => ?_) hw
      · obtain ⟨part, -, rfl⟩ := List.mem_map.mp hcall
        exact readCall_short hc
      · subst hu'
        exact drawsOn_of_isPart (follow_eq_some_iff.mp (ofFault_eq_ok_iff.mp hu)).isPart

end Expression

end Jenkinsfile
