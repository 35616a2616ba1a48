import Jenkinsfile.Proofs.Expression.RoundTrip

/-! What a written expression means, apart from how it is read and evaluated: `Leads` says which
value is found at a path, `Yields` what calls make of a value, and `Means` puts them together.  An
expression evaluates to just what it means (`evaluate_write`). -/

namespace Jenkinsfile.Expression

/-- One segment of a path leads from a value to one inside it: the segment is the name of an entry
of a map or, written in digits, a position in a list. -/
inductive Enters : Value → List Char → Value → Prop where
  | entry {entries : Table Value} {s : List Char} {v : Value}
      (hv : Table.get? entries (.ofList s) = some v) : Enters (.map entries) s v
  | item {items : List Value} {s : List Char} {v : Value} (hdigits : s.all Text.isDigit = true)
      (hshort : s.length ≤ Decimal.maxDigits) (hv : items[Text.ofDigits s]? = some v) :
      Enters (.list items) s v

/-- A value is found at the end of a path. -/
inductive Leads : Value → List (List Char) → Value → Prop where
  | here (v : Value) : Leads v [] v
  | further {u v w : Value} {s : List Char} {path : List (List Char)} (hs : Enters v s u)
      (h : Leads u path w) : Leads v (s :: path) w

/-- A path comes to a list with a segment of `n` digits, which are too many to be read. -/
inductive Overruns (n : Nat) : Value → List (List Char) → Prop where
  | here {items : List Value} {s : List Char} {path : List (List Char)}
      (hdigits : s.all Text.isDigit = true) (hlong : Decimal.maxDigits < s.length)
      (hn : s.length = n) : Overruns n (.list items) (s :: path)
  | further {u v : Value} {s : List Char} {path : List (List Char)} (hs : Enters v s u)
      (h : Overruns n u path) : Overruns n v (s :: path)

/-- No value is found at the end of a path, which can be read to its end. -/
def LeadsNowhere (v : Value) (path : List (List Char)) : Prop :=
  (∀ w, ¬ Leads v path w) ∧ ∀ n, ¬ Overruns n v path

/-- What calls make of a value, each given what the one before made; the first that fails ends
them.  A misuse is told with the name of the function and the expression. -/
inductive Yields (expr : String) : Value → List Call → Except Failure Value → Prop where
  | done (v : Value) : Yields expr v [] (.ok v)
  | call {v w : Value} {c : Call} {calls : List Call} {r : Except Failure Value}
      (hc : c.function.apply v c.args = .ok w) (h : Yields expr w calls r) :
      Yields expr v (c :: calls) r
  | misuse {v : Value} {c : Call} {calls : List Call} {message : String}
      (hc : c.function.apply v c.args = .error (.misuse message)) :
      Yields expr v (c :: calls) (.error (.error (.render
        (c.function.name ++ "() failed in expression `" ++ expr ++ "`: " ++ message))))
  | unanswered {v : Value} {c : Call} {calls : List Call} {message : String}
      (hc : c.function.apply v c.args = .error (.unanswered message)) :
      Yields expr v (c :: calls) (.error (.error (.render message)))
  | fault {v : Value} {c : Call} {calls : List Call} {f : Fault}
      (hc : c.function.apply v c.args = .error (.fault f)) :
      Yields expr v (c :: calls) (.error (.fault f))

/-- What an expression means among named values: what its calls make of the value at its path.  If
the path leads nowhere, a fallback as the first call starts from null, and without one the expression
is undefined. -/
inductive Means (expr : String) (path : List (List Char)) (calls : List Call)
    (context : Table Value) : Except Failure Value → Prop where
  | found {v : Value} {r : Except Failure Value} (hv : Leads (.map context) path v)
      (h : Yields expr v calls r) : Means expr path calls context r
  | saved {c : Call} {r : Except Failure Value} (hv : LeadsNowhere (.map context) path)
      (hc : calls.head? = some c) (hf : c.function = .fallback) (h : Yields expr .null calls r) :
      Means expr path calls context r
  | missing (hv : LeadsNowhere (.map context) path)
      (hf : ∀ c, calls.head? = some c → c.function ≠ .fallback) :
      Means expr path calls context (undefined expr path)
  | overlong {n : Nat} (h : Overruns n (.map context) path) :
      Means expr path calls context (.error (.fault (.tooManyDigits n)))

/-! ### Paths -/

theorem step_eq_some_iff {v u : Value} {s : List Char} :
    step v s = .ok (some u) ↔ Enters v s u := by
  constructor
  · intro h
    cases v with
    | map entries => exact .entry (Except.ok.inj h)
    | list items =>
      simp only [step] at h
      split_ifs at h with hdigits hlong
      · exact .item hdigits (Nat.not_lt.mp hlong) (Except.ok.inj h)
      · cases h
    | null | bool | int | float | str | other => cases h
  · rintro (hv | ⟨hdigits, hshort, hv⟩)
    · simp [step, hv]
    · simp [step, hdigits, Nat.not_lt.mpr hshort, hv]

theorem step_eq_error_iff {v : Value} {s : List Char} {f : Fault} :
    step v s = .error f ↔ ∃ items, v = .list items ∧ s.all Text.isDigit = true ∧
      Decimal.maxDigits < s.length ∧ f = .tooManyDigits s.length := by
  constructor
  · intro h
    cases v with
    | list items =>
      simp only [step] at h
      split_ifs at h with hdigits hlong
      cases h
      exact ⟨items, rfl, hdigits, hlong, rfl⟩
    | null | bool | int | float | str | map | other => cases h
  · rintro ⟨items, rfl, hdigits, hlong, rfl⟩
    simp [step, hdigits, hlong]

theorem follow_eq_some_iff {v w : Value} {path : List (List Char)} :
    follow v path = .ok (some w) ↔ Leads v path w := by
  constructor
  · intro h
    induction path generalizing v with
    | nil =>
      cases h
      exact .here _
    | cons s path ih =>
      obtain ⟨u, hu, hrest⟩ := bind_eq_ok.mp h
      cases u with
      | none => cases hrest
      | some u => exact .further (step_eq_some_iff.mp hu) (ih hrest)
  · intro h
    induction h with
    | here => rfl
    | further hs _ ih => simp [follow, step_eq_some_iff.mpr hs, bind, Except.bind, ih]

theorem follow_eq_error_iff {v : Value} {path : List (List Char)} {f : Fault} :
    follow v path = .error f ↔ ∃ n, f = .tooManyDigits n ∧ Overruns n v path := by
  constructor
  · intro h
    induction path generalizing v with
    | nil => cases h
    | cons s path ih =>
      rcases bind_eq_error.mp h with hu | ⟨u, hu, hrest⟩
      · obtain ⟨items, rfl, hdigits, hlong, rfl⟩ := step_eq_error_iff.mp hu
        exact ⟨_, rfl, .here hdigits hlong rfl⟩
      · cases u with
        | none => cases hrest
        | some u =>
          obtain ⟨n, rfl, hn⟩ := ih hrest
          exact ⟨n, rfl, .further (step_eq_some_iff.mp hu) hn⟩
  · rintro ⟨n, rfl, h⟩
    induction h with
    | @here items s path hdigits hlong hn =>
      have hstep := step_eq_error_iff.mpr ⟨items, rfl, hdigits, hlong, rfl⟩
      simp only [follow, hstep, bind, Except.bind, hn]
    | further hs _ ih => simp [follow, step_eq_some_iff.mpr hs, bind, Except.bind, ih]

theorem follow_eq_none_iff {v : Value} {path : List (List Char)} :
    follow v path = .ok none ↔ LeadsNowhere v path := by
  simp only [LeadsNowhere, ← follow_eq_some_iff]
  constructor
  · intro h
    refine ⟨fun w hw => ?_, fun n hn => ?_⟩
    · rw [h] at hw
      cases hw
    · have hn := follow_eq_error_iff.mpr ⟨n, rfl, hn⟩
      rw [h] at hn
      cases hn
  · rintro ⟨hsome, hlong⟩
    cases h : follow v path with
    | error f =>
      obtain ⟨n, -, hn⟩ := follow_eq_error_iff.mp h
      exact absurd hn (hlong n)
    | ok u =>
      cases u with
      | none => rfl
      | some w => exact absurd h (hsome w)

/-! ### Calls -/

theorem Yields.runCalls_eq {expr : String} {v : Value} {calls : List Call}
    {r : Except Failure Value} (h : Yields expr v calls r) :
    runCalls expr (some v) (calls.map .ok) = r.map some := by
  induction h with
  | done => rfl
  | call hc _ ih => simpa [runCalls, Call.run, hc, bind, Except.bind] using ih
  | misuse hc | unanswered hc | fault hc =>
    simp [runCalls, Call.run, hc, bind, Except.bind, Except.map]

theorem exists_yields (expr : String) (v : Value) (calls : List Call) :
    ∃ r, Yields expr v calls r := by
  induction calls generalizing v with
  | nil => exact ⟨_, .done v⟩
  | cons c calls ih =>
    cases hc : c.function.apply v c.args with
    | ok w =>
      obtain ⟨r, hr⟩ := ih w
      exact ⟨r, .call hc hr⟩
    | error e =>
      cases e with
      | misuse message => exact ⟨_, .misuse hc⟩
      | unanswered message => exact ⟨_, .unanswered hc⟩
      | fault f => exact ⟨_, .fault hc⟩

/-- A fallback makes the same of nothing as of null. -/
theorem runCalls_none {expr : String} {c : Call} (hf : c.function = .fallback)
    (calls : List Call) :
    runCalls expr none ((c :: calls).map .ok) =
      runCalls expr (some .null) ((c :: calls).map .ok) := by
  have hrun : c.run expr none = c.run expr (some .null) := by
    simp only [Call.run, hf]
    rfl
  simp [runCalls, hf, hrun, bind, Except.bind]

theorem runCalls_none_eq_none {expr : String} {calls : List Call}
    (hf : ∀ c, calls.head? = some c → c.function ≠ .fallback) :
    runCalls expr none (calls.map .ok) = .ok none := by
  cases calls with
  | nil => rfl
  | cons c calls => simp [runCalls, hf c rfl, bind, Except.bind, pure, Except.pure]

/-! ### Expressions -/

theorem exists_means (expr : String) (path : List (List Char)) (calls : List Call)
    (context : Table Value) : ∃ r, Means expr path calls context r := by
  cases hv : follow (.map context) path with
  | error f =>
    obtain ⟨n, -, hn⟩ := follow_eq_error_iff.mp hv
    exact ⟨_, .overlong hn⟩
  | ok u =>
    cases u with
    | some v =>
      obtain ⟨r, hr⟩ := exists_yields expr v calls
      exact ⟨r, .found (follow_eq_some_iff.mp hv) hr⟩
    | none =>
      rw [follow_eq_none_iff] at hv
      by_cases hf : ∃ c, calls.head? = some c ∧ c.function = .fallback
      · obtain ⟨c, hc, hf⟩ := hf
        obtain ⟨r, hr⟩ := exists_yields expr .null calls
        exact ⟨r, .saved hv hc hf hr⟩
      · simp only [not_exists, not_and] at hf
        exact ⟨_, .missing hv hf⟩

/-- A written expression evaluates to just what it means, with the very path, calls and arguments
that were written. -/
theorem evaluate_write {path : List (List Char)} {calls : List WrittenCall} (hne : path ≠ [])
    (hp : ∀ s ∈ path, isSegment s = true) (hcalls : ∀ c ∈ calls, ∀ a ∈ c.args, a.Short)
    (context : Table Value) (r : Except Failure Value) :
    evaluate (write path calls) context = r ↔
      Means (write path calls) path (calls.map WrittenCall.call) context r := by
  have hmeans {r : Except Failure Value}
      (h : Means (write path calls) path (calls.map WrittenCall.call) context r) :
      evaluate (write path calls) context = r := by
    rw [evaluate_cut hne hp hcalls context]
    -- The expression is only named in messages from here on.
    generalize write path calls = expr at h
    generalize calls.map WrittenCall.call = calls at h
    cases h with
    | found hv h =>
      rw [follow_eq_some_iff.mpr hv]
      simp only [Failure.ofFault, bind, Except.bind, h.runCalls_eq]
      cases r <;> rfl
    | @saved c r hv hc hf h =>
      obtain ⟨rest, rfl⟩ : ∃ rest, calls = c :: rest := List.head?_eq_some_iff.mp hc
      rw [follow_eq_none_iff.mpr hv]
      simp only [Failure.ofFault, bind, Except.bind, runCalls_none hf, h.runCalls_eq]
      cases r <;> rfl
    | missing hv hf =>
      rw [follow_eq_none_iff.mpr hv]
      simp only [Failure.ofFault, bind, Except.bind, runCalls_none_eq_none hf]
    | overlong h =>
      rw [follow_eq_error_iff.mpr ⟨_, rfl, h⟩]
      rfl
  refine ⟨?_, hmeans⟩
  rintro rfl
  obtain ⟨r, hr⟩ := exists_means (write path calls) path (calls.map WrittenCall.call) context
  rwa [hmeans hr]

/-- A fallback that is full of separators, and the last character but one of it. -/
def separatorCalls : List WrittenCall :=
  [⟨.fallback, [.text .double "x|y), \"\\'"]⟩, ⟨.index, [.int (-2)]⟩]

/-- Two images, of which the second has a tag. -/
def imagesContext : Table Value :=
  [("images", .list [.map [("name", .str "app")], .map [("tag", .str "v1|rc")]])]

/-- The tag of the second image is found at its path and the first one's is not, whose fallback is
read again as it was written. -/
theorem evaluate_write_imagesContext :
    write ["images".toList, "0".toList, "tag".toList] separatorCalls =
      "images.0.tag | default(\"x|y), \\\"\\\\'\") | index(-2)" ∧
    evaluate (write ["images".toList, "0".toList, "tag".toList] separatorCalls) imagesContext =
      .ok (.str "\\") ∧
    evaluate (write ["images".toList, "1".toList, "tag".toList] separatorCalls) imagesContext =
      .ok (.str "r") := by
  have hcalls : ∀ c ∈ separatorCalls, ∀ a ∈ c.args, a.Short := by
    simp [separatorCalls, WrittenLiteral.Short]
    decide
  refine ⟨by decide, ?_, ?_⟩
  · have hnowhere : LeadsNowhere (.map imagesContext) ["images".toList, "0".toList, "tag".toList] :=
      follow_eq_none_iff.mp rfl
    exact (evaluate_write (by decide) (by decide) hcalls _ _).mpr
      (.saved hnowhere rfl rfl (.call rfl (.call rfl (.done _))))
  · have htag : Leads (.map imagesContext) ["images".toList, "1".toList, "tag".toList]
        (.str "v1|rc") :=
      .further (.entry rfl) (.further (.item rfl (by decide) rfl) (.further (.entry rfl) (.here _)))
    exact (evaluate_write (by decide) (by decide) hcalls _ _).mpr
      (.found htag (.call rfl (.call rfl (.done _))))

end Jenkinsfile.Expression
