import Jenkinsfile.Failure

/-! Checks in sequence and checks collected.  A collection of checks passes when all of them do,
and otherwise tells the errors of those that fail, in order, or their first fault. -/

namespace Jenkinsfile

theorem bind_eq_ok {ε α β : Type} {x : Except ε α} {f : α → Except ε β} {b : β} :
    (x >>= f) = .ok b ↔ ∃ a, x = .ok a ∧ f a = .ok b := by
  cases x with
  | error => simp [bind, Except.bind]
  | ok a => simp [bind, Except.bind]

theorem bind_eq_error {ε α β : Type} {x : Except ε α} {f : α → Except ε β} {e : ε} :
    (x >>= f) = .error e ↔ x = .error e ∨ ∃ a, x = .ok a ∧ f a = .error e := by
  cases x with
  | error => simp [bind, Except.bind]
  | ok a => simp [bind, Except.bind]

theorem bind_pure_eq_error {ε α β : Type} {x : Except ε α} {f : α → β} {e : ε} :
    (x >>= fun a => pure (f a)) = .error e ↔ x = .error e := by
  cases x <;> simp [bind, Except.bind, pure, Except.pure]

namespace Error

theorem raise_eq_ok_iff {errors : List Error} : raise errors = .ok () ↔ errors = [] := by
  cases errors <;> simp [raise]

theorem collect_eq_nil_iff {checks : List (Except Error Unit)} :
    collect checks = [] ↔ ∀ c ∈ checks, c = .ok () := by
  induction checks with
  | nil => simp [collect]
  | cons c checks ih =>
    match c with
    | .ok () => simp [collect, ih]
    | .error e => simp [collect]

theorem raise_collect_eq_ok_iff {checks : List (Except Error Unit)} :
    raise (collect checks) = .ok () ↔ ∀ c ∈ checks, c = .ok () := by
  rw [raise_eq_ok_iff, collect_eq_nil_iff]

theorem mem_collect_iff {checks : List (Except Error Unit)} {e : Error} :
    e ∈ collect checks ↔ .error e ∈ checks := by
  induction checks with
  | nil => simp [collect]
  | cons c checks ih =>
    match c with
    | .ok () => simp [collect, ih]
    | .error e' => simp [collect, ih]

@[simp] theorem isDefinition_definition (message : String) (data : Table Detail) :
    (definition message data).isDefinition = true := rfl

@[simp] theorem isDefinition_value (message : String) (data : Table Detail) :
    (value message data).isDefinition = false := rfl

@[simp] theorem isDefinition_render (message : String) (data : Table Detail) :
    (render message data).isDefinition = false := rfl

theorem mem_leavesOf {r : Report} {errors : List Error} :
    r ∈ leavesOf errors ↔ ∃ e ∈ errors, r ∈ e.leaves := by
  induction errors with
  | nil => simp [leavesOf]
  | cons e errors ih => simp [leavesOf, ih]

end Error

namespace Failure

theorem ofError_eq_ok_iff {α : Type} {x : Except Error α} {a : α} :
    ofError x = .ok a ↔ x = .ok a := by
  cases x <;> simp [ofError]

theorem ofError_inj {α : Type} {x y : Except Error α} : ofError x = ofError y ↔ x = y := by
  cases x <;> cases y <;> simp [ofError]

theorem ofFault_eq_ok_iff {α : Type} {x : Except Fault α} {a : α} :
    ofFault x = .ok a ↔ x = .ok a := by
  cases x <;> simp [ofFault]

theorem ofFault_eq_error_iff {α : Type} {x : Except Fault α} {f : Failure} :
    ofFault x = .error f ↔ ∃ g, x = .error g ∧ f = .fault g := by
  cases x <;> simp [ofFault, eq_comm]

theorem ofText_eq_ok_iff {α : Type} {x : Except TextFault α} {a : α} :
    ofText x = .ok a ↔ x = .ok a := by
  cases x <;> simp [ofText]

theorem ofText_eq_error_iff {α : Type} {x : Except TextFault α} {f : Failure} :
    ofText x = .error f ↔ ∃ g, x = .error g ∧ f = .fault (.text g) := by
  cases x <;> simp [ofText, eq_comm]

theorem collect_eq_nil_iff {checks : List (Except Failure Unit)} :
    collect checks = .ok [] ↔ ∀ c ∈ checks, c = .ok () := by
  induction checks with
  | nil => simp [collect]
  | cons c checks ih =>
    match c with
    | .ok () => simp [collect, ih]
    | .error (.error e) => cases h : collect checks <;> simp [collect, h, Except.map]
    | .error (.fault f) => simp [collect]

theorem raise_eq_ok_iff {checks : List (Except Failure Unit)} :
    raise checks = .ok () ↔ ∀ c ∈ checks, c = .ok () := by
  rw [raise, ← collect_eq_nil_iff]
  cases h : collect checks with
  | error f => simp
  | ok errors => simp [ofError_eq_ok_iff, Error.raise_eq_ok_iff]

theorem collect_append (checks more : List (Except Failure Unit)) :
    collect (checks ++ more) =
      (collect checks).bind fun errors => (collect more).map (errors ++ ·) := by
  induction checks with
  | nil =>
    rw [List.nil_append]
    cases collect more <;> rfl
  | cons c checks ih =>
    match c with
    | .ok () => exact ih
    | .error (.error e) =>
      simp only [List.cons_append, collect, ih]
      cases collect checks with
      | error f => rfl
      | ok errors => cases collect more <;> rfl
    | .error (.fault f) => rfl

/-- Whether a check ends in no fault. -/
def Faultless {α : Type} (x : Except Failure α) : Prop := ∀ f, x ≠ .error (.fault f)

theorem faultless_ofError {α : Type} (x : Except Error α) : Faultless (ofError x) := by
  cases x <;> simp [Faultless, ofError]

theorem Faultless.bind {α β : Type} {x : Except Failure α} {f : α → Except Failure β}
    (hx : Faultless x) (hf : ∀ a, x = .ok a → Faultless (f a)) : Faultless (x >>= f) := by
  cases x with
  | error e =>
    intro g hg
    exact hx g (by rw [Except.error.inj hg])
  | ok a => exact hf a rfl

theorem exists_collect {checks : List (Except Failure Unit)} (h : ∀ c ∈ checks, Faultless c) :
    ∃ errors, collect checks = .ok errors := by
  induction checks with
  | nil => exact ⟨[], rfl⟩
  | cons c checks ih =>
    obtain ⟨errors, he⟩ := ih fun d hd => h d (List.mem_cons_of_mem _ hd)
    match c, h c List.mem_cons_self with
    | .ok (), _ => exact ⟨errors, he⟩
    | .error (.error e), _ => exact ⟨e :: errors, by rw [collect, he]; rfl⟩
    | .error (.fault f), hc => exact absurd rfl (hc f)

/-- Checks without faults fail with their errors as a group. -/
theorem raise_eq_error {checks : List (Except Failure Unit)} (h : ∀ c ∈ checks, Faultless c)
    {f : Failure} (hf : raise checks = .error f) :
    ∃ e errors, f = .error (.group (e :: errors) []) := by
  obtain ⟨errors, he⟩ := exists_collect h
  rw [raise, he] at hf
  cases errors with
  | nil => cases hf
  | cons e errors => exact ⟨e, errors, (Except.error.inj hf).symm⟩

/-- What is collected are the errors of the checks that fail. -/
theorem mem_of_collect {checks : List (Except Failure Unit)} {errors : List Error}
    (h : collect checks = .ok errors) {e : Error} :
    e ∈ errors ↔ .error (.error e) ∈ checks := by
  induction checks generalizing errors with
  | nil =>
    cases h
    simp
  | cons c checks ih =>
    match c, h with
    | .ok (), h => simp [ih h]
    | .error (.error e'), h =>
      cases hrest : collect checks with
      | error f =>
        rw [collect, hrest] at h
        cases h
      | ok others =>
        rw [collect, hrest] at h
        cases h
        simp [ih hrest]
    | .error (.fault f), h => cases h

/-- The fault of a collection is the first one. -/
theorem collect_eq_error_iff {checks : List (Except Failure Unit)} {f : Fault} :
    collect checks = .error f ↔ ∃ before after, checks = before ++ .error (.fault f) :: after ∧
      ∀ c ∈ before, Faultless c := by
  constructor
  · intro h
    induction checks with
    | nil => cases h
    | cons c checks ih =>
      match c, h with
      | .ok (), h =>
        obtain ⟨before, after, rfl, hbefore⟩ := ih h
        exact ⟨.ok () :: before, after, rfl,
          List.forall_mem_cons.mpr ⟨by simp [Faultless], hbefore⟩⟩
      | .error (.error e), h =>
        have hrest : collect checks = .error f := by
          cases hc : collect checks <;> simp_all [collect, Except.map]
        obtain ⟨before, after, rfl, hbefore⟩ := ih hrest
        exact ⟨.error (.error e) :: before, after, rfl,
          List.forall_mem_cons.mpr ⟨by simp [Faultless], hbefore⟩⟩
      | .error (.fault g), h =>
        cases h
        exact ⟨[], checks, rfl, by simp⟩
  · rintro ⟨before, after, rfl, hbefore⟩
    obtain ⟨errors, he⟩ := exists_collect hbefore
    rw [collect_append, he]
    rfl

theorem raise_eq_fault_iff {checks : List (Except Failure Unit)} {f : Fault} :
    raise checks = .error (.fault f) ↔ ∃ before after,
      checks = before ++ .error (.fault f) :: after ∧ ∀ c ∈ before, Faultless c := by
  rw [← collect_eq_error_iff, raise]
  cases collect checks with
  | error g => simp
  | ok errors =>
    cases errors <;> simp [ofError, Error.raise]

theorem raise_concat_eq_fault_iff {checks : List (Except Failure Unit)}
    (h : ∀ c ∈ checks, Faultless c) {last : Except Failure Unit} {f : Fault} :
    raise (checks ++ [last]) = .error (.fault f) ↔ last = .error (.fault f) := by
  constructor
  · intro hraise
    obtain ⟨before, after, hsplit, -⟩ := raise_eq_fault_iff.mp hraise
    have hmem : .error (.fault f) ∈ before ++ .error (.fault f) :: after :=
      List.mem_append_right _ List.mem_cons_self
    rw [← hsplit, List.mem_append, List.mem_singleton] at hmem
    obtain hmem | rfl := hmem
    · exact absurd rfl (h _ hmem f)
    · rfl
  · rintro rfl
    exact raise_eq_fault_iff.mpr ⟨checks, [], rfl, h⟩

/-- The failure in which a check ends, if it does. -/
def of? {α : Type} (x : Except Failure α) : Option Failure :=
  match x with
  | .ok _ => none
  | .error f => some f

section Of

variable {α β : Type} {x : Except Failure α} {f : Failure}

@[simp] theorem of?_ok (a : α) : of? (.ok a) = none := rfl

@[simp] theorem of?_error : of? (.error f : Except Failure α) = some f := rfl

theorem of?_eq_none_iff : of? x = none ↔ ∃ a, x = .ok a := by
  cases x <;> simp

@[simp] theorem of?_bind_pure (f : α → β) : of? (x >>= fun a => pure (f a)) = of? x := by
  cases x <;> rfl

end Of

/-! ### Expected failures -/

/-- Whether a check ends in no failure but those of `P`. -/
def FailsOnly {α : Type} (P : Failure → Prop) (x : Except Failure α) : Prop :=
  ∀ f, x = .error f → P f

section FailsOnly

variable {α β : Type} {P Q : Failure → Prop} {x : Except Failure α}

@[simp] theorem failsOnly_ok (a : α) : FailsOnly P (.ok a) := by
  simp [FailsOnly]

@[simp] theorem failsOnly_pure (a : α) : FailsOnly P (pure a) := failsOnly_ok a

@[simp] theorem failsOnly_error_iff {f : Failure} :
    FailsOnly P (.error f : Except Failure α) ↔ P f := by
  simp [FailsOnly]

theorem FailsOnly.mono (h : FailsOnly P x) (hPQ : ∀ f, P f → Q f) : FailsOnly Q x :=
  fun f hf => hPQ f (h f hf)

theorem FailsOnly.bind {f : α → Except Failure β} (hx : FailsOnly P x)
    (hf : ∀ a, x = .ok a → FailsOnly P (f a)) : FailsOnly P (x >>= f) := by
  intro g hg
  rcases bind_eq_error.mp hg with hg | ⟨a, ha, hg⟩
  · exact hx g hg
  · exact hf a ha g hg

theorem FailsOnly.map (h : FailsOnly P x) (f : α → β) : FailsOnly P (x.map f) := by
  cases x with
  | error g => simpa [Except.map] using h
  | ok a => simp [Except.map]

end FailsOnly

/-! ### Errors of the template -/

/-- Whether a check ends in an error that is, or has in it, an error of the template. -/
def Blames {α : Type} (x : Except Failure α) : Prop := ∃ f, x = .error f ∧ f.isDefinition = true

section Blames

variable {α β : Type}

@[simp] theorem not_blames_ok (a : α) : ¬ Blames (.ok a : Except Failure α) := by
  simp [Blames]

@[simp] theorem not_blames_pure (a : α) : ¬ Blames (pure a : Except Failure α) := not_blames_ok a

@[simp] theorem blames_error_iff {e : Error} :
    Blames (.error (.error e) : Except Failure α) ↔ e.isDefinition = true := by
  simp [Blames, isDefinition]

@[simp] theorem not_blames_ofError_ok (a : α) : ¬ Blames (ofError (.ok a)) := not_blames_ok a

@[simp] theorem blames_ofError_error_iff {e : Error} :
    Blames (ofError (.error e : Except Error α)) ↔ e.isDefinition = true := blames_error_iff

theorem ofError_bind (x : Except Error α) (f : α → Except Error β) :
    ofError (x >>= f) = ofError x >>= fun a => ofError (f a) := by
  cases x <;> rfl

end Blames

end Failure

end Jenkinsfile
