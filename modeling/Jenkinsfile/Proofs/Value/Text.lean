import Jenkinsfile.Proofs.Failure
import Jenkinsfile.Value.Comparison
import Jenkinsfile.Value.ScriptText
import Mathlib.Tactic.NormNum

/-! Which values have texts.  Every text of a value is there unless a whole number in the value is too
long to be written, or, for a JSON text, unless JSON has no form for a part of the value. -/

namespace Jenkinsfile

/-! ### Whole numbers -/

theorem hasDigitsUpTo_iff {count n : Nat} : hasDigitsUpTo count n = true ↔ n < 10 ^ count := by
  induction count generalizing n with
  | zero => simp [hasDigitsUpTo]
  | succ count ih =>
    rw [hasDigitsUpTo]
    split
    · rename_i hzero
      rw [hzero]
      exact iff_of_true rfl (Nat.pow_pos (by decide))
    · rw [ih, pow_succ, Nat.div_lt_iff_lt_mul (by decide)]

theorem isShort_iff {n : Int} : isShort n = true ↔ n.natAbs < 10 ^ Decimal.maxDigits :=
  hasDigitsUpTo_iff

/-- The least whole number that is too long to be written. -/
def leastLong : Int := 10 ^ Decimal.maxDigits

theorem isShort_leastLong : isShort leastLong = false := by
  have hsize (count : Nat) : ((10 : Int) ^ count).natAbs = 10 ^ count := Int.natAbs_pow 10 count
  rw [← Bool.not_eq_true, isShort_iff, leastLong, hsize]
  exact lt_irrefl _

namespace Decimal

theorem natAbs_signed (negative : Bool) (n : Nat) :
    (if negative then -Int.ofNat n else Int.ofNat n).natAbs = n := by
  cases negative <;> simp

theorem Binary.natAbs_toInt?_le {b : Binary} {n : Int} (h : b.toInt? = some n) :
    n.natAbs ≤ b.mantissa * 2 ^ b.exponent.toNat := by
  simp only [toInt?] at h
  split at h
  · rename_i e he
    rw [← Option.some.inj h, natAbs_signed, he]
    exact le_rfl
  · rename_i e he
    split at h
    · rw [← Option.some.inj h, natAbs_signed]
      exact (Nat.div_le_self _ _).trans (Nat.le_mul_of_pos_right _ (Nat.two_pow_pos _))
    · cases h

theorem mul_two_pow_lt {m e count : Nat} (hm : m < 2 ^ 53) (he : 53 + e ≤ count) :
    m * 2 ^ e < 10 ^ count :=
  calc m * 2 ^ e < 2 ^ 53 * 2 ^ e := Nat.mul_lt_mul_of_pos_right hm (Nat.two_pow_pos e)
    _ = 2 ^ (53 + e) := (pow_add 2 53 e).symm
    _ ≤ 10 ^ (53 + e) := Nat.pow_le_pow_left (by decide) _
    _ ≤ 10 ^ count := Nat.pow_le_pow_right (by decide) he

/-- Floating-point numbers have at most 1024 binary digits before their point. -/
theorem wholeNumber?_isShort {x : Float} {n : Int} (h : wholeNumber? x = some n) :
    isShort n = true := by
  rw [wholeNumber?] at h
  split at h
  · rename_i b hb
    have hsize : b.mantissa < 2 ^ 53 ∧ 53 + b.exponent.toNat ≤ 1024 := by
      rw [Reading.of, Reading.ofBits] at hb
      have hbiased := Nat.mod_lt (x.toBits.toNat / 2 ^ 52) (Nat.two_pow_pos 11)
      have hfraction := Nat.mod_lt x.toBits.toNat (Nat.two_pow_pos 52)
      simp only [Nat.pow_eq] at hb
      split at hb
      · split at hb <;> cases hb
      · rename_i hfinite
        simp only [beq_iff_eq] at hfinite
        split at hb <;> cases hb <;> constructor <;> simp only [Int.ofNat_eq_natCast] <;> omega
    rw [isShort_iff]
    calc n.natAbs ≤ b.mantissa * 2 ^ b.exponent.toNat := b.natAbs_toInt?_le h
      _ < 10 ^ maxDigits := mul_two_pow_lt hsize.1 (hsize.2.trans (by decide))
  · cases h

end Decimal

/-! ### Parts of values -/

namespace Value

/-- Whether a value is `v`, an item or entry in it, or one in these, at whatever depth. -/
inductive IsPart (p : Value) : Value → Prop
  | whole : IsPart p p
  | item {v : Value} {items : List Value} : v ∈ items → IsPart p v → IsPart p (.list items)
  | entry {key : String} {v : Value} {entries : List (String × Value)} :
      (key, v) ∈ entries → IsPart p v → IsPart p (.map entries)

/-- Whether no whole number in a value is too long to be written. -/
def Short (v : Value) : Prop := ∀ n : Int, IsPart (.int n) v → n.natAbs < 10 ^ Decimal.maxDigits

/-- Whether JSON has a form for all parts of a value. -/
def IsJson (v : Value) : Prop := ∀ o : Foreign, ¬ IsPart (.other o) v

variable {v p : Value} {items : List Value} {entries : List (String × Value)}

theorem isPart_list_iff :
    IsPart p (.list items) ↔ p = .list items ∨ ∃ v ∈ items, IsPart p v := by
  constructor
  · rintro (_ | ⟨hv, hp⟩)
    · exact .inl rfl
    · exact .inr ⟨_, hv, hp⟩
  · rintro (rfl | ⟨v, hv, hp⟩)
    · exact .whole
    · exact .item hv hp

theorem isPart_map_iff :
    IsPart p (.map entries) ↔ p = .map entries ∨ ∃ e ∈ entries, IsPart p e.2 := by
  constructor
  · rintro (_ | _ | ⟨hv, hp⟩)
    · exact .inl rfl
    · exact .inr ⟨_, hv, hp⟩
  · rintro (rfl | ⟨e, he, hp⟩)
    · exact .whole
    · exact .entry he hp

@[simp] theorem short_list_iff : Short (.list items) ↔ ∀ v ∈ items, v.Short := by
  simp only [Short, isPart_list_iff, reduceCtorEq, false_or]
  exact ⟨fun h v hv n hn => h n ⟨v, hv, hn⟩, fun h n ⟨v, hv, hn⟩ => h v hv n hn⟩

@[simp] theorem short_map_iff : Short (.map entries) ↔ ∀ e ∈ entries, e.2.Short := by
  simp only [Short, isPart_map_iff, reduceCtorEq, false_or]
  exact ⟨fun h e he n hn => h n ⟨e, he, hn⟩, fun h n ⟨e, he, hn⟩ => h e he n hn⟩

@[simp] theorem short_int_iff {n : Int} : Short (.int n) ↔ isShort n = true := by
  rw [isShort_iff]
  refine ⟨fun h => h n .whole, fun h m hm => ?_⟩
  cases hm
  exact h

@[simp] theorem isJson_list_iff : IsJson (.list items) ↔ ∀ v ∈ items, v.IsJson := by
  simp only [IsJson, isPart_list_iff, reduceCtorEq, false_or]
  exact ⟨fun h v hv o ho => h o ⟨v, hv, ho⟩, fun h o ⟨v, hv, ho⟩ => h v hv o ho⟩

@[simp] theorem isJson_map_iff : IsJson (.map entries) ↔ ∀ e ∈ entries, e.2.IsJson := by
  simp only [IsJson, isPart_map_iff, reduceCtorEq, false_or]
  exact ⟨fun h e he o ho => h o ⟨e, he, ho⟩, fun h o ⟨e, he, ho⟩ => h e he o ho⟩

@[simp] theorem not_isJson_other (o : Foreign) : ¬ IsJson (.other o) := fun h => h o .whole

/-- A value without parts of its own, other than a whole number or one that JSON has no form for. -/
def IsPlain : Value → Prop
  | .null | .bool _ | .float _ | .str _ => True
  | _ => False

theorem IsPlain.short (h : v.IsPlain) : v.Short := by
  intro n hn
  cases hn <;> cases h

theorem IsPlain.isJson (h : v.IsPlain) : v.IsJson := by
  intro o ho
  cases ho <;> cases h

@[simp] theorem short_other (o : Foreign) : Short (.other o) := by
  rintro n ⟨⟩

end Value

/-! ### Texts -/

/-- Whether a text is there exactly if `P` holds, and what is wrong where it is not is in `F`. -/
def Tells {ε α : Type} (x : Except ε α) (P : Prop) (F : ε → Prop) : Prop :=
  match x with
  | .ok _ => P
  | .error f => F f ∧ ¬ P

namespace Tells

variable {ε α β : Type} {x : Except ε α} {P Q : Prop} {F G : ε → Prop}

theorem ok {a : α} (h : P) : Tells (.ok a : Except ε α) P F := h

theorem exists_iff (h : Tells x P F) : (∃ a, x = .ok a) ↔ P := by
  cases x with
  | ok a => exact iff_of_true ⟨a, rfl⟩ h
  | error f => exact iff_of_false (by simp) h.2

theorem of_error (h : Tells x P F) {f : ε} (hf : x = .error f) : F f := by
  subst hf
  exact h.1

theorem bind {f : α → Except ε β} (h : Tells x P F)
    (hf : ∀ a, x = .ok a → Tells (f a) Q F) : Tells (x >>= f) (P ∧ Q) F := by
  cases x with
  | error e => exact ⟨h.1, fun hPQ => h.2 hPQ.1⟩
  | ok a =>
    have ha := hf a rfl
    show Tells (f a) (P ∧ Q) F
    cases hfa : f a with
    | ok b =>
      rw [hfa] at ha
      exact ⟨h, ha⟩
    | error e =>
      rw [hfa] at ha
      exact ⟨ha.1, fun hPQ => ha.2 hPQ.2⟩

theorem map (h : Tells x P F) (f : α → β) : Tells (x >>= fun a => pure (f a)) P F := by
  cases x with
  | error e => exact h
  | ok a => exact h

theorem mono (h : Tells x P F) (hFG : ∀ f, ¬ P → F f → G f) : Tells x P G := by
  cases x with
  | error e => exact ⟨hFG e h.2 h.1, h.2⟩
  | ok a => exact h

theorem of_iff (h : Tells x P F) (hPQ : P ↔ Q) : Tells x Q F := by
  rwa [← hPQ]

end Tells

/-- Whether a fault is that of a whole number that is too long. -/
def TextFault.IsLong (f : TextFault) : Prop := f = .tooManyDigits

/-- The failure of a text with a whole number that is too long in it. -/
def Failure.longNumber : Failure := .fault (.text .tooManyDigits)

/-- Whether a failure is that of a value without a text. -/
def Failure.IsText (f : Failure) : Prop := ∃ g, f = .fault (.text g)

theorem Tells.ofText {α : Type} {x : Except TextFault α} {P : Prop} {F : TextFault → Prop}
    (h : Tells x P F) : Tells (Failure.ofText x) P Failure.IsText := by
  cases x with
  | ok a => exact h
  | error g => exact ⟨⟨g, rfl⟩, h.2⟩

theorem Failure.ofText_of_tells {α : Type} {x : Except TextFault α} {P : Prop}
    (h : Tells x P TextFault.IsLong) :
    (∃ a, x = .ok a ∧ ofText x = .ok a) ∧ P ∨ ofText x = .error longNumber ∧ ¬ P := by
  cases x with
  | ok a => exact .inl ⟨⟨a, rfl, rfl⟩, h⟩
  | error f =>
    obtain ⟨rfl, hP⟩ := h
    exact .inr ⟨rfl, hP⟩

theorem eq_of_intText {n : Int} {s : String} (h : intText n = .ok s) : s = toString n := by
  rw [intText] at h
  split at h
  · exact (Except.ok.inj h).symm
  · cases h

theorem tells_intText (n : Int) : Tells (intText n) (isShort n = true) TextFault.IsLong := by
  rw [intText]
  split
  · assumption
  · exact ⟨rfl, ‹_›⟩

namespace Value

mutual

theorem tells_inspect (v : Value) : Tells v.inspect v.Short TextFault.IsLong := by
  cases v with
  | null | bool | float | str => exact IsPlain.short trivial
  | int n => exact (tells_intText n).of_iff short_int_iff.symm
  | list items => exact ((tells_inspectItems items).map _).of_iff short_list_iff.symm
  | map entries => exact ((tells_inspectEntries entries).map _).of_iff short_map_iff.symm
  | other o => exact short_other o

theorem tells_inspectItems (items : List Value) :
    Tells (inspectItems items) (∀ v ∈ items, v.Short) TextFault.IsLong := by
  cases items with
  | nil => exact .ok (by simp)
  | cons v items =>
    exact ((tells_inspect v).bind fun _ _ => (tells_inspectItems items).map _).of_iff
      List.forall_mem_cons.symm

theorem tells_inspectEntries (entries : List (String × Value)) :
    Tells (inspectEntries entries) (∀ e ∈ entries, e.2.Short) TextFault.IsLong := by
  match entries with
  | [] => exact .ok (by simp)
  | (key, v) :: entries =>
    exact ((tells_inspect v).bind fun _ _ => (tells_inspectEntries entries).map _).of_iff
      (by simp only [List.forall_mem_cons])

end

theorem tells_text (v : Value) : Tells v.text v.Short TextFault.IsLong := by
  cases v with
  | str => exact IsPlain.short trivial
  | other o => exact short_other o
  | null | bool | float | int | list | map => exact tells_inspect _

mutual

theorem tells_comparisonText (v : Value) : Tells v.comparisonText v.Short TextFault.IsLong := by
  cases v with
  | null | bool | str => exact IsPlain.short trivial
  | float x =>
    have hshort : Short (.float x) := IsPlain.short trivial
    rw [comparisonText]
    split
    · rename_i n hn
      exact (tells_intText n).of_iff (iff_of_true (Decimal.wholeNumber?_isShort hn) hshort)
    · exact hshort
  | int n => exact (tells_intText n).of_iff short_int_iff.symm
  | list items =>
    exact ((tells_comparisonTexts items).map _).of_iff short_list_iff.symm
  | map entries => exact tells_inspect _
  | other o => exact short_other o

theorem tells_comparisonTexts (items : List Value) :
    Tells (comparisonTexts items) (∀ v ∈ items, v.Short) TextFault.IsLong := by
  cases items with
  | nil => exact .ok (by simp)
  | cons v items =>
    exact ((tells_comparisonText v).bind fun _ _ => (tells_comparisonTexts items).map _).of_iff
      List.forall_mem_cons.symm

end

/-- What may be wrong with a JSON text of some parts: one is a whole number that is too long, or JSON
has no form for one. -/
inductive JsonFault (parts : Value → Prop) : TextFault → Prop where
  | long {n : Int} (hn : parts (.int n)) (hlong : isShort n = false) :
    JsonFault parts .tooManyDigits
  | foreign {o : Foreign} (ho : parts (.other o)) : JsonFault parts (.noJson o.typeName)

theorem JsonFault.mono {P Q : Value → Prop} (h : ∀ p, P p → Q p) {f : TextFault}
    (hf : JsonFault P f) : JsonFault Q f := by
  cases hf with
  | long hn hlong => exact .long (h _ hn) hlong
  | foreign ho => exact .foreign (h _ ho)

theorem tells_intText_part (n : Int) :
    Tells (intText n) (isShort n = true) (JsonFault fun p => IsPart p (.int n)) :=
  (tells_intText n).mono fun f hlong hf => by
    rw [hf]
    exact .long .whole (Bool.not_eq_true _ ▸ hlong)

variable {style : Json.Style}

mutual

theorem tells_write (v : Value) :
    Tells (Json.write style v) (v.Short ∧ v.IsJson) (JsonFault fun p => IsPart p v) := by
  cases v with
  | null | bool | float | str => exact ⟨IsPlain.short trivial, IsPlain.isJson trivial⟩
  | int n =>
    refine (tells_intText_part n).of_iff ?_
    have hjson : IsJson (.int n) := by rintro o ⟨⟩
    rw [short_int_iff, and_iff_left hjson]
  | list items =>
    refine (((tells_writeItems items).map _).mono fun f _ hf => hf.mono fun p hp => ?_).of_iff ?_
    · exact isPart_list_iff.mpr (.inr hp)
    · rw [short_list_iff, isJson_list_iff, forall₂_and]
  | map entries =>
    refine (((tells_writeEntries entries).map _).mono fun f _ hf => hf.mono fun p hp => ?_).of_iff
      ?_
    · exact isPart_map_iff.mpr (.inr hp)
    · rw [short_map_iff, isJson_map_iff, forall₂_and]
  | other o => exact ⟨.foreign .whole, fun h => not_isJson_other o h.2⟩

theorem tells_writeItems (items : List Value) :
    Tells (Json.writeItems style items) (∀ v ∈ items, v.Short ∧ v.IsJson)
      (JsonFault fun p => ∃ v ∈ items, IsPart p v) := by
  cases items with
  | nil => exact .ok (by simp)
  | cons v items =>
    refine (Tells.bind ((tells_write v).mono fun f _ hf => hf.mono fun p hp => ?_) fun _ _ =>
      ((tells_writeItems items).mono fun f _ hf => hf.mono fun p hp => ?_).map _).of_iff
        (by simp only [List.forall_mem_cons])
    · exact ⟨v, List.mem_cons_self, hp⟩
    · obtain ⟨w, hw, hp⟩ := hp
      exact ⟨w, List.mem_cons_of_mem v hw, hp⟩

theorem tells_writeEntries (entries : List (String × Value)) :
    Tells (Json.writeEntries style entries) (∀ e ∈ entries, e.2.Short ∧ e.2.IsJson)
      (JsonFault fun p => ∃ e ∈ entries, IsPart p e.2) := by
  match entries with
  | [] => exact .ok (by simp)
  | (key, v) :: entries =>
    refine (Tells.bind ((tells_write v).mono fun f _ hf => hf.mono fun p hp => ?_) fun _ _ =>
      ((tells_writeEntries entries).mono fun f _ hf => hf.mono fun p hp => ?_).map _).of_iff
        (by simp only [List.forall_mem_cons])
    · exact ⟨(key, v), List.mem_cons_self, hp⟩
    · obtain ⟨e, he, hp⟩ := hp
      exact ⟨e, List.mem_cons_of_mem _ he, hp⟩

end

end Value

end Jenkinsfile
