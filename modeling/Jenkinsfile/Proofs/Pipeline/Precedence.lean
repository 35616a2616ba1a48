import Jenkinsfile.Proofs.Pipeline.Resolved

/-! Which value wins in a task.  The constants of a task and what is bound to it are layers over its
own fields: each sets some of them and leaves the others to what is below.
`resolveTask_precedence` says what the layers come to. -/

namespace Jenkinsfile.Resolution

/-! ### Layers -/

/-- What one source of values sets. -/
structure Layer where
  timeout : Option Int
  approvalTimeout : Option Int
  message : Option String

namespace Layer

/-- The fields with what a layer sets; an approval is made if the layer sets some part of it. -/
def onto (l : Layer) (f : TaskFields) : TaskFields where
  options := (l.timeout.or (f.options.map Options.timeout)).map Options.mk
  approval :=
    if l.approvalTimeout.isSome || l.message.isSome then
      some ⟨l.approvalTimeout.getD (f.approval.getD ⟨0, ""⟩).timeout,
        l.message.getD (f.approval.getD ⟨0, ""⟩).message⟩
    else f.approval

/-- One layer where it sets something, and the other one elsewhere. -/
def or (top l : Layer) : Layer :=
  ⟨top.timeout.or l.timeout, top.approvalTimeout.or l.approvalTimeout, top.message.or l.message⟩

@[simp] theorem map_mk_timeout (o : Option Options) : o.map (Options.mk ∘ Options.timeout) = o :=
  congrFun Option.map_id o

theorem onto_none (f : TaskFields) : onto ⟨none, none, none⟩ f = f := by
  obtain ⟨options, approval⟩ := f
  cases options <;> rfl

theorem onto_onto (top l : Layer) (f : TaskFields) : top.onto (l.onto f) = (top.or l).onto f := by
  obtain ⟨topTimeout, topApproval, topMessage⟩ := top
  obtain ⟨timeout, approvalTimeout, message⟩ := l
  have hmap (o : Option Int) : (o.map Options.mk).map Options.timeout = o := by cases o <;> rfl
  simp only [onto, or, hmap, Option.or_assoc, Option.getD_or, Option.isSome_or]
  congr 1
  cases topApproval <;> cases topMessage <;> cases approvalTimeout <;> cases message <;> rfl

theorem map_timeout_onto (l : Layer) (f : TaskFields) :
    (l.onto f).options.map Options.timeout = l.timeout.or (f.options.map Options.timeout) := by
  rw [onto, Option.map_map]
  exact congrFun Option.map_id _

theorem isSome_approval_onto (l : Layer) (f : TaskFields) :
    (l.onto f).approval.isSome =
      (l.approvalTimeout.isSome || l.message.isSome || f.approval.isSome) := by
  rw [onto]
  dsimp only
  split
  · rename_i h
    rw [h]
    rfl
  · rename_i h
    rw [Bool.not_eq_true] at h
    rw [h, Bool.false_or]

theorem approval_onto {l : Layer} {f : TaskFields} {a : Approval}
    (h : (l.onto f).approval = some a) :
    a.timeout = (l.approvalTimeout.or (f.approval.map Approval.timeout)).getD 0 ∧
      a.message = (l.message.or (f.approval.map Approval.message)).getD "" := by
  rw [onto] at h
  dsimp only at h
  split at h
  · obtain rfl := Option.some.inj h
    rw [Option.getD_or, Option.getD_or]
    cases f.approval <;> exact ⟨rfl, rfl⟩
  · rename_i hnone
    simp only [Bool.or_eq_true, not_or, Option.not_isSome_iff_eq_none] at hnone
    rw [hnone.1, hnone.2, h]
    exact ⟨rfl, rfl⟩

end Layer

/-! ### Constants and bound values as layers -/

/-- The value that is bound to a path, if it is not null; should there be several, the last one. -/
def bound? (fields : Table Value) (path : String) : Option Value :=
  (Table.ofEntries (fields.filter fun e => !e.2.isNull)).get? path

/-- The whole number that a value is, 0 for any other value. -/
def wholeNumber : Value → Int
  | .int n => n
  | _ => 0

/-- The text of a value, empty for one without. -/
def plainText (v : Value) : String := v.text.toOption.getD ""

namespace Layer

/-- What the constants of a task set: a message only if it is not empty. -/
def ofConstants (c : Option TaskConstants) : Layer where
  timeout := (c.bind TaskConstants.options).map Options.timeout
  approvalTimeout := (c.bind TaskConstants.approval).map Approval.timeout
  message := ((c.bind TaskConstants.approval).map Approval.message).filter fun m => !m.isEmpty

/-- What values bound to fields set. -/
def ofFields (fields : Table Value) : Layer where
  timeout := (bound? fields "options.timeout").map wholeNumber
  approvalTimeout := (bound? fields "approve.timeout").map wholeNumber
  message := (bound? fields "approve.message").map plainText

end Layer

section Fields

variable {t : Task} {f f' : TaskFields} {path : String} {v : Value} {fields : Table Value}

theorem constantFields_eq (t : Task) (c : Option TaskConstants) :
    constantFields t c = (Layer.ofConstants c).onto ⟨t.options, t.approval⟩ := by
  cases c with
  | none => exact (Layer.onto_none _).symm
  | some c =>
    obtain ⟨_, options, approval⟩ := c
    rw [constantFields, Layer.onto]
    congr 1
    · cases options with
      | none => cases t.options <;> rfl
      | some o => rfl
    · cases approval with
      | none => rfl
      | some a =>
        simp only [Layer.ofConstants, overApproval]
        cases hempty : a.message.isEmpty with
        | true => simp [hempty, Option.filter, withApprovalTimeout]
        | false => simp [hempty, Option.filter, withApprovalTimeout, withMessage]

theorem bound?_null (hv : v.isNull = true) (other : String) : bound? [(path, v)] other = none := by
  simp [bound?, hv, Table.ofEntries, Table.overlay]

theorem bound?_singleton (hv : v.isNull = false) (other : String) :
    bound? [(path, v)] other = if path = other then some v else none := by
  simp [bound?, hv, Table.ofEntries, Table.overlay, Table.insert, Table.get?]

theorem bound?_cons (e : String × Value) (fields : Table Value) (path : String) :
    bound? (e :: fields) path = (bound? fields path).or (bound? [e] path) := by
  rw [bound?, bound?, bound?]
  cases hnull : e.2.isNull with
  | true =>
    rw [List.filter_cons_of_neg (by simp [hnull]), List.filter_cons_of_neg (by simp [hnull])]
    exact (Option.or_none ..).symm
  | false =>
    rw [List.filter_cons_of_pos (by simp [hnull]), List.filter_cons_of_pos (by simp [hnull])]
    exact Table.get?_overlay (Table.ofEntries [e]) _ path

theorem ofFields_cons (e : String × Value) (fields : Table Value) :
    Layer.ofFields (e :: fields) = (Layer.ofFields fields).or (Layer.ofFields [e]) := by
  simp only [Layer.ofFields, Layer.or, bound?_cons e fields, Option.map_or]

theorem timeoutOf_eq_ok {n : Int} (h : timeoutOf t path v = .ok n) : v = .int n := by
  cases v with
  | int m => rw [Except.ok.inj h]
  | _ => cases h

/-- A bound value is a layer of its own. -/
theorem onto_of_setField (h : setField t f path v = .ok f') :
    f' = (Layer.ofFields [(path, v)]).onto f := by
  rw [setField] at h
  cases hnull : v.isNull with
  | true =>
    rw [hnull, if_pos rfl] at h
    obtain rfl := Except.ok.inj h
    simp only [Layer.ofFields, bound?_null hnull, Option.map_none, Layer.onto_none]
  | false =>
    rw [hnull, if_neg Bool.false_ne_true] at h
    simp only [Layer.ofFields, bound?_singleton hnull]
    by_cases ho : path = "options.timeout"
    · rw [if_pos ho] at h
      obtain ⟨n, hn, h⟩ := bind_eq_ok.mp h
      obtain rfl := Except.ok.inj h
      obtain rfl := timeoutOf_eq_ok hn
      simp [ho, Layer.onto, withTimeout, wholeNumber]
    · by_cases ha : path = "approve.timeout"
      · rw [if_neg ho, if_pos ha] at h
        obtain ⟨n, hn, h⟩ := bind_eq_ok.mp h
        obtain rfl := Except.ok.inj h
        obtain rfl := timeoutOf_eq_ok hn
        simp [ha, Layer.onto, withApprovalTimeout, wholeNumber]
      · rw [if_neg ho, if_neg ha] at h
        by_cases hm : path = "approve.message"
        · rw [if_pos hm] at h
          obtain ⟨s, hs, h⟩ := bind_eq_ok.mp h
          obtain rfl := Except.ok.inj h
          have htext : plainText v = s := by
            rw [plainText, Failure.ofText_eq_ok_iff.mp hs]
            rfl
          simp [hm, Layer.onto, withMessage, htext]
        · rw [if_neg hm] at h
          obtain rfl := Except.ok.inj h
          simp [ho, ha, hm, Layer.onto_none]

theorem onto_of_setFields (h : setFields t f fields = .ok f') :
    f' = (Layer.ofFields fields).onto f := by
  induction fields generalizing f with
  | nil =>
    obtain rfl := Except.ok.inj h
    exact (Layer.onto_none f).symm
  | cons e fields ih =>
    obtain ⟨f₁, hstep, hrest⟩ := bind_eq_ok.mp h
    rw [ih hrest, onto_of_setField hstep, Layer.onto_onto, ← ofFields_cons]

end Fields

/-! ### What is resolved -/

/-- The paths to the fields that bindings replace. -/
def settable : List String := ["options.timeout", "approve.timeout", "approve.message"]

/-- Whether a bound value sets something. -/
def Sets (e : String × Value) : Prop := e.1 ∈ settable ∧ e.2.isNull = false

instance (e : String × Value) : Decidable (Sets e) := inferInstanceAs (Decidable (_ ∧ _))

section Resolved

variable {t : Task} {template : TaskTemplate} {b : TaskBinding} {c : Option TaskConstants}
  {values : Table Value} {f : TaskFields} {path : String} {v : Value}

theorem setField_of_not_sets (h : ¬ Sets (path, v)) : setField t f path v = .ok f := by
  rw [setField]
  cases hnull : v.isNull with
  | true => rfl
  | false =>
    have hpath : path ∉ settable := fun hpath => h ⟨hpath, hnull⟩
    simp only [settable, List.mem_cons, List.not_mem_nil, or_false, not_or] at hpath
    obtain ⟨ho, ha, hm⟩ := hpath
    rw [if_neg Bool.false_ne_true, if_neg ho, if_neg ha, if_neg hm]

theorem setFields_filter (t : Task) (f : TaskFields) (fields : Table Value) :
    setFields t f (fields.filter fun e => Sets e) = setFields t f fields := by
  induction fields generalizing f with
  | nil => rfl
  | cons e fields ih =>
    by_cases hsets : Sets e
    · rw [List.filter_cons_of_pos (by simpa using hsets)]
      obtain ⟨path, v⟩ := e
      simp only [setFields, ih]
    · rw [List.filter_cons_of_neg (by simpa using hsets), ih]
      obtain ⟨path, v⟩ := e
      rw [setFields, setField_of_not_sets hsets]
      rfl

theorem fieldFailure?_eq_none_iff : Supply.fieldFailure? t path v = none ↔
    (path = "options.timeout" ∨ path = "approve.timeout" → v = .null ∨ ∃ n, v = .int n) ∧
      (path = "approve.message" → v.Short) := by
  have hnull : v.isNull = true ↔ v = .null := by cases v <;> simp [Value.isNull]
  have htimeout : Supply.timeoutFailure? t path v = none ↔ ∃ n, v = .int n := by
    cases v <;> simp [Supply.timeoutFailure?]
  have hmessage : Failure.of? (Failure.ofText v.text) = none ↔ v.Short := by
    simp only [Failure.of?_eq_none_iff, Failure.ofText_eq_ok_iff, v.tells_text.exists_iff]
  rw [Supply.fieldFailure?]
  by_cases hv : v.isNull = true
  · obtain rfl := hnull.mp hv
    have hshort : Value.Short .null := Value.IsPlain.short trivial
    simp [if_pos hv, hshort]
  · rw [if_neg hv]
    have hv : v ≠ .null := mt hnull.mpr hv
    by_cases htime : path = "options.timeout" ∨ path = "approve.timeout"
    · have hother : path ≠ "approve.message" := by
        obtain rfl | rfl := htime <;> decide
      simp [htime, htimeout, hv, hother]
    · rw [if_neg htime]
      by_cases hm : path = "approve.message" <;> simp [hm, hmessage, htime]

theorem fieldsFailure?_eq_none_iff {fields : Table Value} :
    Supply.fieldsFailure? t fields = none ↔ ∀ path v, (path, v) ∈ fields →
      (path = "options.timeout" ∨ path = "approve.timeout" → v = .null ∨ ∃ n, v = .int n) ∧
        (path = "approve.message" → v.Short) := by
  rw [Supply.fieldsFailure?, List.findSome?_eq_none_iff, Prod.forall]
  exact forall₃_congr fun path v _ => fieldFailure?_eq_none_iff

theorem mem_of_bound? {fields : Table Value} (h : bound? fields path = some v) :
    (path, v) ∈ fields ∧ v ≠ .null := by
  obtain ⟨hmem, hnull⟩ := List.mem_filter.mp (Table.mem_of_get?_ofEntries h)
  refine ⟨hmem, ?_⟩
  rintro rfl
  cases hnull

/-- Where a task's values come from.  Of its arguments the constants go before what is bound; of its
fields, what is bound goes before the constants, and these before the task's own. -/
structure Precedence (t : Task) (b : TaskBinding) (c : Option TaskConstants) (r : ResolvedTask) :
    Prop where
  task : r.task = t
  arguments : ∀ key, r.arguments.get? key =
    ((Table.ofEntries ((c.map TaskConstants.arguments).getD [])).get? key).or (b.arguments.get? key)
  timeout : r.options.map (fun o => Value.int o.timeout) =
    ((bound? b.fields "options.timeout").or
      ((c.bind TaskConstants.options).map fun o => .int o.timeout)).or
      (t.options.map fun o => .int o.timeout)
  isSome_approval : r.approval.isSome = true ↔
    (bound? b.fields "approve.timeout").isSome = true ∨
      (bound? b.fields "approve.message").isSome = true ∨
      (c.bind TaskConstants.approval).isSome = true ∨ t.approval.isSome = true
  approvalTimeout : ∀ a, r.approval = some a → Value.int a.timeout =
    (((bound? b.fields "approve.timeout").or
      ((c.bind TaskConstants.approval).map fun a => .int a.timeout)).or
      (t.approval.map fun a => .int a.timeout)).getD (.int 0)
  message : ∀ a, r.approval = some a → (.ok a.message : Except TextFault String) =
    ((((bound? b.fields "approve.message").map Value.text).or
      ((((c.bind TaskConstants.approval).map Approval.message).filter
        fun m => !m.isEmpty).map .ok)).or
      (t.approval.map fun a => .ok a.message)).getD (.ok "")

/-- The fields of a task with its constants over them, and over those what is bound to it. -/
def layered (t : Task) (b : TaskBinding) (c : Option TaskConstants) : TaskFields :=
  ((Layer.ofFields b.fields).or (Layer.ofConstants c)).onto ⟨t.options, t.approval⟩

theorem resolveTask_eq_ok_iff {r : ResolvedTask} :
    resolveTask t template b c values = .ok r ↔
      ∃ shown, t.visible values = .ok shown ∧ Supply.fieldsFailure? t b.fields = none ∧
        r = ⟨t, template, b.arguments.overlay ((c.map TaskConstants.arguments).getD []),
          (layered t b c).options, (layered t b c).approval, shown⟩ := by
  have hspec := Supply.resolveTask_spec t template b c values
  cases hfields : Supply.fieldsFailure? t b.fields with
  | some f =>
    simp only [hfields] at hspec
    simp [hspec]
  | none =>
    simp only [hfields] at hspec
    obtain ⟨f, hf, hr⟩ := hspec
    rw [onto_of_setFields hf, constantFields_eq, Layer.onto_onto] at hr
    rw [hr]
    cases t.visible values with
    | error e => simp [Except.map]
    | ok shown => simp [Except.map, layered, eq_comm]

/-- A timeout that is bound to a task that is resolved is a whole number. -/
theorem int_wholeNumber {fields : Table Value} (h : Supply.fieldsFailure? t fields = none)
    (hpath : path = "options.timeout" ∨ path = "approve.timeout") :
    ((bound? fields path).map wholeNumber).map Value.int = bound? fields path := by
  cases hv : bound? fields path with
  | none => rfl
  | some v =>
    obtain ⟨hmem, hne⟩ := mem_of_bound? hv
    obtain rfl | ⟨n, rfl⟩ := (fieldsFailure?_eq_none_iff.mp h path v hmem).1 hpath
    · exact absurd rfl hne
    · rfl

/-- A message that is bound to a task that is resolved has a text. -/
theorem ok_plainText {fields : Table Value} (h : Supply.fieldsFailure? t fields = none) :
    ((bound? fields "approve.message").map plainText).map (.ok : String → Except TextFault String) =
      (bound? fields "approve.message").map Value.text := by
  cases hv : bound? fields "approve.message" with
  | none => rfl
  | some v =>
    obtain ⟨s, hs⟩ := v.tells_text.exists_iff.mpr
      ((fieldsFailure?_eq_none_iff.mp h _ v (mem_of_bound? hv).1).2 rfl)
    simp [plainText, hs, Except.toOption]

theorem precedence_of_resolveTask {r : ResolvedTask}
    (h : resolveTask t template b c values = .ok r) : Precedence t b c r := by
  obtain ⟨shown, -, hfields, rfl⟩ := resolveTask_eq_ok_iff.mp h
  have hoptions : ((bound? b.fields "options.timeout").map wholeNumber).map Value.int = _ :=
    int_wholeNumber hfields (.inl rfl)
  have happroval : ((bound? b.fields "approve.timeout").map wholeNumber).map Value.int = _ :=
    int_wholeNumber hfields (.inr rfl)
  refine ⟨rfl, fun key => Table.get?_overlay .., ?_, ?_, fun a ha => ?_, fun a ha => ?_⟩
  · show (layered t b c).options.map (Value.int ∘ Options.timeout) = _
    rw [← Option.map_map, layered, Layer.map_timeout_onto, Option.map_or, Layer.or, Option.map_or,
      Layer.ofFields, hoptions, Layer.ofConstants, Option.map_map, Option.map_map]
    rfl
  · rw [layered, Layer.isSome_approval_onto]
    simp only [Layer.or, Layer.ofFields, Layer.ofConstants, Option.isSome_or, Option.isSome_map]
    cases c.bind TaskConstants.approval with
    | none => simp [or_assoc]
    | some a => simp
  · rw [(Layer.approval_onto ha).1]
    refine (Option.getD_map Value.int 0 _).symm.trans ?_
    rw [Option.map_or, Layer.or, Option.map_or,
      Layer.ofFields, happroval, Layer.ofConstants, Option.map_map, Option.map_map]
    rfl
  · rw [(Layer.approval_onto ha).2]
    refine (Option.getD_map Except.ok "" _).symm.trans ?_
    rw [Option.map_or, Layer.or, Option.map_or, Layer.ofFields, ok_plainText hfields,
      Layer.ofConstants, Option.map_map]
    rfl

/-- Null and what is bound to any other path changes nothing.  A task is resolved just if its relation
decides, no other value than null and whole numbers is bound to its timeouts, and what is bound to its
message has a text; its values then come from where they should, and the task itself is as it was. -/
theorem resolveTask_precedence (t : Task) (template : TaskTemplate) (b : TaskBinding)
    (c : Option TaskConstants) (values : Table Value) :
    resolveTask t template b c values =
        resolveTask t template { b with fields := b.fields.filter fun e => Sets e } c values ∧
      ((∃ r, resolveTask t template b c values = .ok r) ↔
        (∃ shown, t.visible values = .ok shown) ∧ ∀ path v, (path, v) ∈ b.fields →
          (path = "options.timeout" ∨ path = "approve.timeout" → v = .null ∨ ∃ n, v = .int n) ∧
            (path = "approve.message" → v.Short)) ∧
      ∀ r, resolveTask t template b c values = .ok r → Precedence t b c r := by
  refine ⟨?_, ?_, fun r => precedence_of_resolveTask⟩
  · rw [resolveTask, resolveTask, setFields_filter]
  · rw [← fieldsFailure?_eq_none_iff]
    constructor
    · rintro ⟨r, hr⟩
      obtain ⟨shown, hshown, hfields, -⟩ := resolveTask_eq_ok_iff.mp hr
      exact ⟨⟨shown, hshown⟩, hfields⟩
    · rintro ⟨⟨shown, hshown⟩, hfields⟩
      exact ⟨_, resolveTask_eq_ok_iff.mpr ⟨shown, hshown, hfields, rfl⟩⟩

end Resolved

/-- A task with nothing of its own. -/
def plainTask : Task := ⟨"build", "shell", .null, none, none, none, [], none⟩

/-- Constants for it. -/
def plainConstants : TaskConstants := ⟨[("cmd", .str "make")], some ⟨60⟩, some ⟨30, "go?"⟩⟩

/-- Values that are bound to it; two of the three fields count for nothing. -/
def plainBinding : TaskBinding :=
  ⟨[("cmd", .str "test")],
    [("options.timeout", .null), ("agent", .int 1), ("approve.message", .str "sure?")]⟩

/-- The template of its script. -/
def plainTemplate : TaskTemplate := ⟨"", .null, "make", []⟩

theorem resolveTask_precedence_plain :
    ∃ r, resolveTask plainTask plainTemplate plainBinding (some plainConstants) [] = .ok r ∧
      r.arguments.get? "cmd" = some (.str "make") ∧
      r.options.map (fun o => Value.int o.timeout) = some (.int 60) ∧
      ∃ a, r.approval = some a ∧ Value.int a.timeout = .int 30 ∧ a.message = "sure?" := by
  obtain ⟨-, hok, hresolved⟩ :=
    resolveTask_precedence plainTask plainTemplate plainBinding (some plainConstants) []
  have hfields : ∀ path v, (path, v) ∈ plainBinding.fields →
      (path = "options.timeout" ∨ path = "approve.timeout" → v = .null ∨ ∃ n, v = .int n) ∧
        (path = "approve.message" → v.Short) := by
    intro path v hmem
    simp only [plainBinding, List.mem_cons, Prod.mk.injEq, List.not_mem_nil, or_false] at hmem
    rcases hmem with ⟨rfl, rfl⟩ | ⟨rfl, rfl⟩ | ⟨rfl, rfl⟩
    · exact ⟨fun _ => .inl rfl, fun h => absurd h (by decide)⟩
    · exact ⟨fun _ => .inr ⟨1, rfl⟩, fun h => absurd h (by decide)⟩
    · exact ⟨fun h => absurd h (by decide), fun _ => Value.IsPlain.short trivial⟩
  obtain ⟨r, hr⟩ := hok.mpr ⟨⟨true, rfl⟩, hfields⟩
  have hprecedence := hresolved r hr
  have happroval : r.approval.isSome = true :=
    hprecedence.isSome_approval.mpr (.inr (.inr (.inl rfl)))
  obtain ⟨a, ha⟩ := Option.isSome_iff_exists.mp happroval
  exact ⟨r, hr, hprecedence.arguments "cmd", hprecedence.timeout, a, ha,
    hprecedence.approvalTimeout a ha, Except.ok.inj (hprecedence.message a ha)⟩

end Jenkinsfile.Resolution
