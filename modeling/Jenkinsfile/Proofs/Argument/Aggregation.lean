import Jenkinsfile.Proofs.Argument.Normal
import Jenkinsfile.Proofs.Table
import Mathlib

/-! Lists item by item.  The check of a list goes through all of its items and reports each one that
it rejects, with its position; `Aggregates` says so of any check of items.  Beside its errors the
check of an item has faults, and the first item with one ends the check of the list: `Chokes` says
which items these are. -/

namespace Jenkinsfile

open Failure
open Pattern (CharacterNames)

/-- A report that tells the position of an item after all else. -/
def Report.placed (r : Report) (i : Nat) : Report :=
  { r with data := r.data ++ [("index", .value (.int i))] }

/-- A failure that is a fault, or a single report that tells no position. -/
inductive Failure.Unplaced : Failure → Prop
  | fault (f : Fault) : Unplaced (.fault f)
  | report {r : Report} : r.data.has "index" = false → Unplaced (.error (.report r))

/-- The fault that stops the reading of a pattern, if it is no error in it. -/
def Pattern.Stop.fault? : Pattern.Stop → Option Fault
  | .error _ => none
  | .countTooLarge => some .tooManyRepeats
  | .tooManyDigits n => some (.tooManyDigits n)
  | .flagsClash => some .flagsClash

namespace Argument

/-- What a check tells of the value at a position, if it rejects it. -/
def rejection? (check : Value → Except Failure Unit) (item : Value × Nat) : Option Error :=
  match check item.1 with
  | .error (.error (.report r)) => some (.report (r.placed item.2))
  | _ => none

/-- What a check tells of those items of a list that it rejects, in order. -/
def rejections (check : Value → Except Failure Unit) (items : List Value) : List Error :=
  items.zipIdx.filterMap (rejection? check)

/-- An outcome for a list that is made of the outcomes for its items: it passes if all items pass,
tells the errors of all items that do not, and ends in the first item's fault. -/
structure Aggregates (check : Value → Except Failure Unit) (items : List Value)
    (outcome : Except Failure Unit) : Prop where
  passes : outcome = .ok () ↔ ∀ v ∈ items, check v = .ok ()
  rejects : (∀ v ∈ items, Faultless (check v)) → outcome ≠ .ok () →
    outcome = .error (.error (.group (rejections check items) []))
  ends : ∀ f, outcome = .error (.fault f) ↔ ∃ before v after, items = before ++ v :: after ∧
    (∀ w ∈ before, Faultless (check w)) ∧ check v = .error (.fault f)

section Items

variable {check : Value → Except Failure Unit} {items : List Value} {i : Nat}
  {x : Except Failure Unit} {f : Fault}

theorem atIndex_eq_ok_iff : atIndex i x = .ok () ↔ x = .ok () := by
  match x with
  | .ok () | .error (.error e) | .error (.fault f) => simp [atIndex]

theorem atIndex_eq_fault_iff : atIndex i x = .error (.fault f) ↔ x = .error (.fault f) := by
  match x with
  | .ok () | .error (.error e) | .error (.fault f) => simp [atIndex]

theorem faultless_atIndex_iff : Faultless (atIndex i x) ↔ Faultless x := by
  simp only [Faultless, ne_eq, atIndex_eq_fault_iff]

theorem itemChecks_eq_map :
    itemChecks check i items = (items.zipIdx i).map fun e => atIndex e.2 (check e.1) := by
  induction items generalizing i with
  | nil => rfl
  | cons v items ih => rw [itemChecks, ih, List.zipIdx_cons, List.map_cons]

/-- The errors of the items' checks are those of the rejected items, with their positions. -/
theorem collect_itemChecks (h : ∀ v ∈ items, FailsOnly Unplaced (check v) ∧ Faultless (check v)) :
    collect (itemChecks check i items) = .ok ((items.zipIdx i).filterMap (rejection? check)) := by
  induction items generalizing i with
  | nil => rfl
  | cons v items ih =>
    obtain ⟨⟨honly, hfault⟩, hrest⟩ := List.forall_mem_cons.mp h
    rw [itemChecks, List.zipIdx_cons, List.filterMap_cons, rejection?]
    cases hv : check v with
    | ok => exact ih hrest
    | error failure =>
      cases honly failure hv with
      | fault f => exact absurd hv (hfault f)
      | report hnone =>
        simp only [atIndex, collect, ih hrest, Except.map, Error.noting, Report.placed,
          Table.insertNew_of_not_has hnone]

/-- Checks of items that tell single reports without a position are aggregated. -/
theorem aggregates_raise (h : ∀ v ∈ items, FailsOnly Unplaced (check v)) :
    Aggregates check items (raise (itemChecks check 0 items)) where
  passes := by
    rw [raise_eq_ok_iff, itemChecks_eq_map, List.forall_mem_map]
    simp only [atIndex_eq_ok_iff, Prod.forall, List.mk_mem_zipIdx_iff_getElem?]
    constructor
    · intro hall v hv
      obtain ⟨i, hi⟩ := List.mem_iff_getElem?.mp hv
      exact hall v i hi
    · intro hall v i hi
      exact hall v (List.mem_of_getElem? hi)
  rejects := by
    intro hfaultless hfails
    have hcollect := collect_itemChecks (i := 0) fun v hv => ⟨h v hv, hfaultless v hv⟩
    rw [raise, hcollect] at hfails ⊢
    change ofError (Error.raise (rejections check items)) ≠ .ok () at hfails
    change ofError (Error.raise (rejections check items)) = _
    cases hr : rejections check items with
    | nil =>
      rw [hr] at hfails
      exact absurd rfl hfails
    | cons e errors => rfl
  ends := by
    intro f
    rw [raise_eq_fault_iff, itemChecks_eq_map]
    constructor
    · rintro ⟨before, after, hsplit, hbefore⟩
      obtain ⟨first, rest, hitems, rfl, hrest⟩ := List.map_eq_append_iff.mp hsplit
      obtain ⟨item, last, rfl, hitem, -⟩ := List.map_eq_cons_iff.mp hrest
      refine ⟨first.map Prod.fst, item.1, last.map Prod.fst, ?_, ?_, atIndex_eq_fault_iff.mp hitem⟩
      · rw [← List.zipIdx_map_fst 0 items, hitems, List.map_append, List.map_cons]
      · rw [List.forall_mem_map] at hbefore ⊢
        exact fun e he => faultless_atIndex_iff.mp (hbefore e he)
    · rintro ⟨before, v, after, rfl, hbefore, hv⟩
      rw [List.zipIdx_append, List.zipIdx_cons, List.map_append, List.map_cons,
        atIndex_eq_fault_iff.mpr hv]
      refine ⟨_, _, rfl, ?_⟩
      rw [List.forall_mem_map]
      rintro ⟨w, i⟩ hw
      refine faultless_atIndex_iff.mpr (hbefore w ?_)
      exact List.mem_of_getElem? (List.mk_mem_zipIdx_iff_getElem?.mp hw)

end Items

section Single

variable {a : Argument} {v : Value}

/-! ### What the check of an item tells -/

theorem TellsMessage.failsOnly {x : Except Failure Unit} (h : TellsMessage x) :
    FailsOnly Unplaced x := by
  refine h.mono ?_
  rintro f (⟨message, rfl⟩ | ⟨g, rfl⟩)
  · exact .report rfl
  · exact .fault _

theorem failsOnly_decode : FailsOnly Unplaced (a.decode v) := by
  cases v with
  | str s =>
    rw [decode]
    split
    · exact failsOnly_ok _
    · exact failsOnly_error_iff.mpr (.fault _)
    · exact failsOnly_error_iff.mpr (.report rfl)
  | null | bool | int | float | list | map | other => exact failsOnly_ok _

theorem failsOnly_checkLength {limits : Validation} {s : String} :
    FailsOnly Unplaced (ofError (a.checkLength limits s)) := by
  rw [checkLength]
  split
  · exact failsOnly_error_iff.mpr (.report rfl)
  · exact failsOnly_ok _

theorem failsOnly_checkPattern [CharacterNames] {limits : Validation} {s : String} :
    FailsOnly Unplaced (a.checkPattern limits s) := by
  rw [checkPattern]
  split
  · exact failsOnly_ok _
  · split
    · exact failsOnly_error_iff.mpr (.fault _)
    · exact failsOnly_error_iff.mpr (.fault _)
    · exact failsOnly_error_iff.mpr (.fault _)
    · exact failsOnly_error_iff.mpr (.report rfl)
    · split
      · exact failsOnly_ok _
      · exact failsOnly_error_iff.mpr (.report rfl)

theorem failsOnly_checkText [CharacterNames] : FailsOnly Unplaced (a.checkText v) := by
  cases v with
  | str s =>
    rw [checkText]
    split
    · exact failsOnly_ok _
    · exact failsOnly_checkLength.bind fun _ _ => failsOnly_checkPattern
  | null | bool | int | float | list | map | other => exact failsOnly_error_iff.mpr (.report rfl)

theorem failsOnly_checkBool : FailsOnly Unplaced (ofError (a.checkBool v)) := by
  rw [checkBool.eq_def]
  split
  · exact failsOnly_ok _
  · split
    · exact failsOnly_ok _
    · exact failsOnly_error_iff.mpr (.report rfl)

/-- The check of a value other than a list tells a single report, which has no position. -/
theorem failsOnly_checkSingle [CharacterNames] {k : ArgumentKind} :
    FailsOnly Unplaced (a.checkSingle k v) := by
  cases k with
  | string => exact failsOnly_checkText
  | boolean => exact failsOnly_checkBool
  | int | object | array => exact failsOnly_ok _
  | record k => exact failsOnly_decode.bind fun _ _ => tellsMessage_checkRecord.failsOnly
  | environment => exact failsOnly_decode.bind fun _ _ => tellsMessage_checkEnvironment.failsOnly

/-! ### Faults of an item -/

/-- Whether a decoded value is refused with a message that shows `told`: what is no record or no list
of variables, a record without a required field or a field of it that is no text, and most of the
ways in which the first bad variable of a list can be wrong. -/
inductive Refuses (a : Argument) : ArgumentKind → Value → Value → Prop
  | noRecord {k : RecordKind} {w : Value} : w ≠ .null → (∀ entries, w ≠ .map entries) →
      Refuses a (.record k) w w
  | missing {k : RecordKind} {entries : Table Value} {before after : List String}
      {field : String} : k.requiredFields = before ++ field :: after →
      (∀ b ∈ before, ∃ s, entries.get? b = some (.str s)) → entries.get? field = none →
      Refuses a (.record k) (.map entries) (.map entries)
  | mistyped {k : RecordKind} {entries : Table Value} {before after : List String}
      {field : String} {v : Value} : k.requiredFields = before ++ field :: after →
      (∀ b ∈ before, ∃ s, entries.get? b = some (.str s)) → entries.get? field = some v →
      (∀ s, v ≠ .str s) → Refuses a (.record k) (.map entries) v
  | noList {w : Value} : w ≠ .null → (∀ entries, w ≠ .list entries) → Refuses a .environment w w
  | badEntry {before after : List Value} {entry : Value} {reason : String} :
      (∀ b ∈ before, IsVariable b) →
      a.checkVariable entry = .error (a.badVariable entry reason) →
      Refuses a .environment (.list (before ++ entry :: after)) entry

/-- The faults in the check of a value: a pattern that cannot be read to its end, when a text is held
against it, a number with too many digits in a JSON text, and one in a value that a message shows. -/
inductive Chokes [CharacterNames] (a : Argument) : ArgumentKind → Value → Fault → Prop
  | pattern {limits : Validation} {s : String} {stop : Pattern.Stop} {f : Fault} :
      a.validation = some limits → limits.pattern.isEmpty = false →
      Pattern.read limits.pattern = .error stop → stop.fault? = some f →
      a.checkLength limits s = .ok () → Chokes a .string (.str s) f
  | digits {k : ArgumentKind} {s : String} {n : Nat} : k.composite = true →
      Json.read s = .error (.tooManyDigits n) → Chokes a k (.str s) (.tooManyDigits n)
  | shown {k : ArgumentKind} {v w told : Value} : a.decode v = .ok w → a.Refuses k w told →
      ¬ told.Short → Chokes a k v (.text .tooManyDigits)

variable {f : Fault}

theorem telling_eq_fault_iff {e : String → Error} :
    Failure.telling v.inspect e = .fault f ↔ ¬ v.Short ∧ f = .text .tooManyDigits := by
  have htells := v.tells_inspect
  cases hv : v.inspect with
  | ok s =>
    rw [hv] at htells
    exact iff_of_false (by rintro ⟨⟩) (fun h => h.1 htells)
  | error g =>
    rw [hv] at htells
    obtain ⟨rfl, hlong⟩ := htells
    simp [Failure.telling, hlong, eq_comm]

theorem decode_eq_fault_iff : a.decode v = .error (.fault f) ↔
    ∃ s n, v = .str s ∧ Json.read s = .error (.tooManyDigits n) ∧ f = .tooManyDigits n := by
  cases v with
  | str s =>
    rw [decode]
    split
    · rename_i hread
      simp [hread]
    · rename_i n hread
      simp [hread, eq_comm]
    · rename_i e hne hread
      simpa [hread] using fun n he => absurd he (hne n)
  | null | bool | int | float | list | map | other => simp [decode]

/-! ### Composite values -/

theorem checkFields_append {entries : Table Value} {before : List String}
    (h : ∀ b ∈ before, ∃ s, entries.get? b = some (.str s)) (fields : List String) :
    a.checkFields entries (before ++ fields) = a.checkFields entries fields := by
  induction before with
  | nil => rfl
  | cons b before ih =>
    obtain ⟨⟨s, hs⟩, hbefore⟩ := List.forall_mem_cons.mp h
    rw [List.cons_append, checkFields, hs]
    exact ih hbefore

theorem checkFields_cases {entries : Table Value} {fields : List String}
    (h : a.checkFields entries fields = .error (.fault f)) :
    f = .text .tooManyDigits ∧ ∃ before field after, fields = before ++ field :: after ∧
      (∀ b ∈ before, ∃ s, entries.get? b = some (.str s)) ∧
      (entries.get? field = none ∧ ¬ (Value.map entries).Short ∨
        ∃ v, entries.get? field = some v ∧ (∀ s, v ≠ .str s) ∧ ¬ v.Short) := by
  induction fields with
  | nil => cases h
  | cons field fields ih =>
    rw [checkFields] at h
    split at h
    · rename_i hnone
      obtain ⟨hlong, rfl⟩ := telling_eq_fault_iff.mp (Except.error.inj h)
      exact ⟨rfl, [], field, fields, rfl, by simp, .inl ⟨hnone, hlong⟩⟩
    · rename_i s hs
      obtain ⟨rfl, before, field', after, rfl, hbefore, hfield⟩ := ih h
      exact ⟨rfl, field :: before, field', after, rfl, List.forall_mem_cons.mpr ⟨⟨s, hs⟩, hbefore⟩,
        hfield⟩
    · rename_i v hv hsome
      obtain ⟨hlong, rfl⟩ := telling_eq_fault_iff.mp (Except.error.inj h)
      exact ⟨rfl, [], field, fields, rfl, by simp, .inr ⟨v, hsome, hv, hlong⟩⟩

theorem checkRecord_eq_fault_iff {k : RecordKind} :
    a.checkRecord k v = .error (.fault f) ↔
      f = .text .tooManyDigits ∧ ∃ told, a.Refuses (.record k) v told ∧ ¬ told.Short := by
  constructor
  · intro h
    cases v with
    | null => cases h
    | map entries =>
      obtain ⟨rfl, before, field, after, hfields, hbefore, ⟨hnone, hlong⟩ | ⟨v, hv, hstr, hlong⟩⟩ :=
        checkFields_cases h
      · exact ⟨rfl, _, .missing hfields hbefore hnone, hlong⟩
      · exact ⟨rfl, v, .mistyped hfields hbefore hv hstr, hlong⟩
    | bool | int | float | str | list | other =>
      obtain ⟨hlong, rfl⟩ := telling_eq_fault_iff.mp (Except.error.inj h)
      exact ⟨rfl, _, .noRecord (by simp) (by simp), hlong⟩
  · rintro ⟨rfl, told, hrefuses, hlong⟩
    have htold {e : String → Error} :
        Failure.telling told.inspect e = .fault (.text .tooManyDigits) :=
      telling_eq_fault_iff.mpr ⟨hlong, rfl⟩
    cases hrefuses with
    | noRecord hnull hmap =>
      cases v with
      | null => exact absurd rfl hnull
      | map entries => exact absurd rfl (hmap entries)
      | bool | int | float | str | list | other => exact congrArg Except.error htold
    | missing hfields hbefore hnone =>
      rw [checkRecord, hfields, checkFields_append hbefore, checkFields, hnone]
      exact congrArg Except.error htold
    | mistyped hfields hbefore hv hstr =>
      rw [checkRecord, hfields, checkFields_append hbefore, checkFields, hv]
      cases told with
      | str s => exact absurd rfl (hstr s)
      | null | bool | int | float | list | map | other => exact congrArg Except.error htold

theorem checkVariable_cases (entry : Value) : a.checkVariable entry = .ok () ∨
    (∃ message, a.checkVariable entry = .error (.error (.value message))) ∨
      ∃ reason, a.checkVariable entry = .error (a.badVariable entry reason) := by
  have hsource (source : Value) : a.checkSource entry source = .ok () ∨
      ∃ reason, a.checkSource entry source = .error (a.badVariable entry reason) := by
    rw [checkSource.eq_def]
    split
    · split
      · exact .inr ⟨_, rfl⟩
      · split
        · exact .inl rfl
        · exact .inr ⟨_, rfl⟩
      · exact .inr ⟨_, rfl⟩
    · exact .inr ⟨_, rfl⟩
  rw [checkVariable.eq_def]
  split
  · split
    · exact .inr (.inl ⟨_, rfl⟩)
    · split
      · exact .inr (.inl ⟨_, rfl⟩)
      · split
        · split
          · exact .inr (.inl ⟨_, rfl⟩)
          · exact .inl rfl
        · exact (hsource _).imp_right .inr
        · exact .inr (.inr ⟨_, rfl⟩)
  · exact .inr (.inr ⟨_, rfl⟩)

theorem checkVariable_eq_fault_iff {entry : Value} :
    a.checkVariable entry = .error (.fault f) ↔ f = .text .tooManyDigits ∧ ¬ entry.Short ∧
      ∃ reason, a.checkVariable entry = .error (a.badVariable entry reason) := by
  constructor
  · intro h
    rcases a.checkVariable_cases entry with hok | ⟨message, hmessage⟩ | ⟨reason, hreason⟩
    · rw [hok] at h
      cases h
    · rw [hmessage] at h
      cases h
    · have hbad := Except.error.inj (hreason.symm.trans h)
      obtain ⟨hlong, rfl⟩ := telling_eq_fault_iff.mp hbad
      exact ⟨rfl, hlong, reason, hreason⟩
  · rintro ⟨rfl, hlong, reason, hreason⟩
    rw [hreason]
    exact congrArg Except.error (telling_eq_fault_iff.mpr ⟨hlong, rfl⟩)

theorem checkVariables_append {before : List Value} (h : ∀ b ∈ before, IsVariable b)
    (entries : List Value) :
    a.checkVariables (before ++ entries) = a.checkVariables entries := by
  induction before with
  | nil => rfl
  | cons b before ih =>
    obtain ⟨hb, hbefore⟩ := List.forall_mem_cons.mp h
    rw [List.cons_append, checkVariables, checkVariable_eq_ok_iff.mpr hb]
    exact ih hbefore

theorem checkEnvironment_eq_fault_iff :
    a.checkEnvironment v = .error (.fault f) ↔
      f = .text .tooManyDigits ∧ ∃ told, a.Refuses .environment v told ∧ ¬ told.Short := by
  constructor
  · intro h
    cases v with
    | null => cases h
    | list entries =>
      have hvariables {entries : List Value} (h : a.checkVariables entries = .error (.fault f)) :
          ∃ before entry after, entries = before ++ entry :: after ∧
            (∀ b ∈ before, IsVariable b) ∧ a.checkVariable entry = .error (.fault f) := by
        induction entries with
        | nil => cases h
        | cons entry entries ih =>
          rcases bind_eq_error.mp h with hentry | ⟨⟨⟩, hentry, hrest⟩
          · exact ⟨[], entry, entries, rfl, by simp, hentry⟩
          · obtain ⟨before, bad, after, rfl, hbefore, hbad⟩ := ih hrest
            refine ⟨entry :: before, bad, after, rfl, List.forall_mem_cons.mpr ⟨?_, hbefore⟩, hbad⟩
            exact checkVariable_eq_ok_iff.mp hentry
      obtain ⟨before, entry, after, rfl, hbefore, hentry⟩ := hvariables h
      obtain ⟨rfl, hlong, reason, hreason⟩ := checkVariable_eq_fault_iff.mp hentry
      exact ⟨rfl, entry, .badEntry hbefore hreason, hlong⟩
    | bool | int | float | str | map | other =>
      obtain ⟨hlong, rfl⟩ := telling_eq_fault_iff.mp (Except.error.inj h)
      exact ⟨rfl, _, .noList (by simp) (by simp), hlong⟩
  · rintro ⟨rfl, told, hrefuses, hlong⟩
    cases hrefuses with
    | noList hnull hlist =>
      cases v with
      | null => exact absurd rfl hnull
      | list entries => exact absurd rfl (hlist entries)
      | bool | int | float | str | map | other =>
        exact congrArg Except.error (telling_eq_fault_iff.mpr ⟨hlong, rfl⟩)
    | badEntry hbefore hentry =>
      rw [checkEnvironment, checkVariables_append hbefore, checkVariables, hentry]
      exact congrArg Except.error (telling_eq_fault_iff.mpr ⟨hlong, rfl⟩)

section Patterns

variable [CharacterNames]

theorem checkPattern_eq_fault_iff {limits : Validation} {s : String} :
    a.checkPattern limits s = .error (.fault f) ↔ limits.pattern.isEmpty = false ∧
      ∃ stop, Pattern.read limits.pattern = .error stop ∧ stop.fault? = some f := by
  rw [checkPattern]
  cases limits.pattern.isEmpty with
  | true => simp
  | false =>
    cases Pattern.read limits.pattern with
    | ok p => by_cases hp : p.search s <;> simp [hp]
    | error stop => cases stop <;> simp [Pattern.Stop.fault?]

theorem checkText_eq_fault_iff :
    a.checkText v = .error (.fault f) ↔ a.Chokes .string v f := by
  constructor
  · intro h
    cases v with
    | str s =>
      rw [checkText] at h
      split at h
      · cases h
      · rename_i limits hlimits
        obtain h | ⟨⟨⟩, hlength, h⟩ := bind_eq_error.mp h
        · exact absurd h (faultless_ofError _ f)
        · obtain ⟨hpattern, stop, hread, hstop⟩ := checkPattern_eq_fault_iff.mp h
          exact .pattern hlimits hpattern hread hstop (ofError_eq_ok_iff.mp hlength)
    | null | bool | int | float | list | map | other => cases h
  · intro h
    cases h with
    | pattern hlimits hpattern hread hstop hlength =>
      simp only [checkText, hlimits, hlength]
      exact checkPattern_eq_fault_iff.mpr ⟨hpattern, _, hread, hstop⟩
    | digits hk => cases hk
    | shown _ hrefuses => cases hrefuses

/-- The check of a composite value has the faults of reading a JSON text, and those of the check of
what it is decoded to. -/
theorem decode_bind_eq_fault_iff {k : ArgumentKind} (hk : k.composite = true)
    {check : Value → Except Failure Unit}
    (hcheck : ∀ w f, check w = .error (.fault f) ↔
      f = .text .tooManyDigits ∧ ∃ told, a.Refuses k w told ∧ ¬ told.Short) :
    (a.decode v >>= check) = .error (.fault f) ↔ a.Chokes k v f := by
  rw [bind_eq_error, decode_eq_fault_iff]
  constructor
  · rintro (⟨s, n, rfl, hread, rfl⟩ | ⟨w, hw, h⟩)
    · exact .digits hk hread
    · obtain ⟨rfl, told, hrefuses, hlong⟩ := (hcheck w f).mp h
      exact .shown hw hrefuses hlong
  · intro h
    cases h with
    | pattern => cases hk
    | digits _ hread => exact .inl ⟨_, _, rfl, hread, rfl⟩
    | shown hw hrefuses hlong => exact .inr ⟨_, hw, (hcheck _ _).mpr ⟨rfl, _, hrefuses, hlong⟩⟩

theorem checkSingle_eq_fault_iff {k : ArgumentKind} :
    a.checkSingle k v = .error (.fault f) ↔ a.Chokes k v f := by
  cases k with
  | string => exact checkText_eq_fault_iff
  | boolean =>
    refine iff_of_false (faultless_ofError _ f) ?_
    rintro (_ | ⟨⟨⟩, -⟩ | ⟨-, ⟨⟩, -⟩)
  | int | object | array =>
    refine iff_of_false (fun h => nomatch h) ?_
    rintro (_ | ⟨⟨⟩, -⟩ | ⟨-, ⟨⟩, -⟩)
  | record k => exact decode_bind_eq_fault_iff rfl fun _ _ => checkRecord_eq_fault_iff
  | environment => exact decode_bind_eq_fault_iff rfl fun _ _ => checkEnvironment_eq_fault_iff

end Patterns

end Single

/-! ### Lists -/

section Lists

variable [CharacterNames] {reg : Registry} {a : Argument} {k : ArgumentKind}

theorem checkValue_of_items (hlist : a.kind reg = .ok .array) (hk : a.itemKind reg = .ok k)
    (hne : k ≠ .array) (items : List Value) :
    a.checkValue reg (.list items) = raise (itemChecks (a.checkOfKind reg k) 0 items) := by
  have hcheck : a.checkOfKind reg k = a.checkSingle k := funext fun v => checkOfKind_of_ne hne reg
  rw [checkValue_eq hlist (by simp), checkOfKind, checkList, hk, hcheck]
  cases k with
  | array => exact absurd rfl hne
  | string | boolean | int | object | record | environment => rfl

theorem checkValue_of_notList (hlist : a.kind reg = .ok .array) {v : Value} (hv : v ≠ .null)
    (hitems : ∀ items, v ≠ .list items) :
    a.checkValue reg v = .error (notList a v) := by
  rw [checkValue_eq hlist hv]
  cases v with
  | list items => exact absurd rfl (hitems items)
  | null | bool | int | float | str | map | other => rfl

/-- With a declaration that passes its check, the check of a list is made of those of its items
under the declared kind of items, and of the other values that there are each is refused with one
message.  What the check of an item tells is one report without a position, or it is a fault, which no
pass over items collects. -/
theorem checkValue_aggregates (hlist : a.kind reg = .ok .array) (h : a.check reg = .ok ()) :
    ∃ k, a.itemKind reg = .ok k ∧ k ≠ .array ∧
      (∀ items, Aggregates (a.checkOfKind reg k) items (a.checkValue reg (.list items))) ∧
      (∀ v e, a.checkOfKind reg k v = .error (.error e) →
        ∃ r, e = .report r ∧ r.data.has "index" = false) ∧
      (∀ v f, a.checkOfKind reg k v = .error (.fault f) ↔ a.Chokes k v f) ∧
      ∀ v, v ≠ .null → (∀ items, v ≠ .list items) →
        ∃ message, a.checkValue reg v = .error (.error (.value message)) := by
  obtain ⟨k, hk, hne⟩ := itemKind_of_check h hlist
  have hcheck (v : Value) : a.checkOfKind reg k v = a.checkSingle k v := checkOfKind_of_ne hne reg
  refine ⟨k, hk, hne, fun items => ?_, fun v e he => ?_, fun v f => ?_, fun v hv hitems => ?_⟩
  · rw [checkValue_of_items hlist hk hne]
    refine aggregates_raise fun v _ => ?_
    rw [hcheck]
    exact failsOnly_checkSingle
  · rw [hcheck] at he
    cases failsOnly_checkSingle _ he with
    | @report r hnone => exact ⟨r, rfl, hnone⟩
  · rw [hcheck]
    exact checkSingle_eq_fault_iff
  · exact ⟨_, checkValue_of_notList hlist hv hitems⟩

end Lists

/-- A list of texts under limits. -/
def textsArgument (limits : Option Validation) : Argument where
  name := "xs"
  bindings := []
  schema := some ⟨"array", some "string"⟩
  required := false
  default := .null
  validation := limits
  display := some ⟨"array", ⟨"名称", "Name"⟩, [], none⟩
  relation := none

theorem check_textsArgument (limits : Option Validation) :
    (textsArgument limits).check Registry.standard = .ok () := by
  have hparts : (textsArgument limits).checkParts Registry.standard = .ok .array := by cbv
  have hkind : (textsArgument limits).checkKindDefinition Registry.standard .array = .ok () := by
    rfl
  rw [check, hparts]
  change raise [(textsArgument limits).checkKindDefinition Registry.standard .array] = .ok ()
  rw [hkind]
  rfl

section Unnamed

attribute [local instance] CharacterNames.unnamed

theorem checkValue_mixedTexts :
    (textsArgument none).kind Registry.standard = .ok .array ∧
      (textsArgument none).check Registry.standard = .ok () ∧
      (textsArgument none).checkValue Registry.standard (.list [.str "a", .int 1, .str "b", .null]) =
        .error (.error (.group
          [.report ⟨.value, "xs should be string",
            received (.int 1) ++ [("index", .value (.int 1))]⟩,
          .report ⟨.value, "xs should be string",
            received .null ++ [("index", .value (.int 3))]⟩] [])) := by
  have hkind : (textsArgument none).kind Registry.standard = .ok .array := rfl
  have hcheck := check_textsArgument none
  refine ⟨hkind, hcheck, ?_⟩
  obtain ⟨k, hk, -, hitems, -⟩ := checkValue_aggregates hkind hcheck
  obtain rfl : k = .string := Except.ok.inj (hk.symm.trans rfl)
  rw [(hitems _).rejects ?faultless ?fails]
  case faultless => simp [checkOfKind, checkSingle, checkText, textsArgument, Faultless]
  case fails =>
    rw [ne_eq, (hitems _).passes]
    simp [checkOfKind, checkSingle, checkText, textsArgument]
  rfl

/-- A pattern with a repetition that is too large is a fault of the first text of a list. -/
theorem checkValue_hugeRepetition :
    (textsArgument (some ⟨"a{99999999999}", 0⟩)).kind Registry.standard = .ok .array ∧
      (textsArgument (some ⟨"a{99999999999}", 0⟩)).check Registry.standard = .ok () ∧
      (textsArgument (some ⟨"a{99999999999}", 0⟩)).checkValue Registry.standard
        (.list [.str "a"]) = .error (.fault .tooManyRepeats) := by
  refine ⟨rfl, check_textsArgument _, ?_⟩
  cbv

end Unnamed

end Argument

end Jenkinsfile
