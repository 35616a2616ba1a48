import Jenkinsfile.Proofs.Argument.Pattern
import Jenkinsfile.Proofs.Text.Trim
import Jenkinsfile.Proofs.Value.Text

/-! Normal forms of values.  The check of a value and its normal form decode a composite value each
for itself; `normal_of_checkValue` says that a value that passes has a normal form, which is of the
form of its kind unless the value is a JSON text of null.  `normal_null_eq_iff` says which declared
defaults are in normal form, so that leaving the value out is the same as supplying the default. -/

namespace Jenkinsfile

/-- The source of a value: a key in a configuration map, both of them named. -/
inductive IsSource : Value → Prop
  | mk {source ref : Table Value} {name key : Value} :
      source.get? "configMapKeyRef" = some (.map ref) → ref.get? "name" = some name →
      name.truthy = true → ref.get? "key" = some key → key.truthy = true → IsSource (.map source)

/-- An environment variable: it has a name, and either a value or the source of one. -/
inductive IsVariable : Value → Prop
  | ofValue {fields : Table Value} {name v : Value} :
      fields.get? "name" = some name → name.truthy = true → fields.get? "valueFrom" = none →
      fields.get? "value" = some v → v ≠ .null → v ≠ .str "" → IsVariable (.map fields)
  | ofSource {fields : Table Value} {name source : Value} :
      fields.get? "name" = some name → name.truthy = true → fields.get? "value" = none →
      fields.get? "valueFrom" = some source → IsSource source → IsVariable (.map fields)

namespace ArgumentKind

/-- The form that values of a kind have in scripts; numbers and objects may have any. -/
inductive HasForm : ArgumentKind → Value → Prop
  | string (s : String) : HasForm .string (.str s)
  | boolean (b : Bool) : HasForm .boolean (.bool b)
  | int (v : Value) : HasForm .int v
  | object (v : Value) : HasForm .object v
  | array (items : List Value) : HasForm .array (.list items)
  | record {k : RecordKind} {entries : Table Value} :
      (∀ field ∈ k.requiredFields, ∃ s, entries.get? field = some (.str s)) →
      HasForm (.record k) (.map entries)
  | environment {entries : List Value} :
      (∀ entry ∈ entries, IsVariable entry) → HasForm .environment (.list entries)

/-- Whether values of the kind may be given as JSON texts. -/
def composite : ArgumentKind → Bool
  | .record _ | .environment => true
  | .string | .boolean | .int | .object | .array => false

/-- Whether a value is in normal form: a text without blanks around it if texts are asked for, and
no text if one would stand for something else. -/
def IsPlain : ArgumentKind → Value → Prop
  | .string, v => ∀ s, v = .str s → (∀ c ∈ s.toList.head?, Text.isBlank c = false) ∧
    ∀ c ∈ s.toList.getLast?, Text.isBlank c = false
  | .boolean, v | .record _, v | .environment, v => ∀ s, v ≠ .str s
  | .int, _ | .object, _ | .array, _ => True

end ArgumentKind

namespace Argument

open Pattern (CharacterNames)

variable {a : Argument} {v : Value}

/-! ### What passes a check -/

theorem checkFields_eq_ok_iff {entries : Table Value} {fields : List String} :
    a.checkFields entries fields = .ok () ↔
      ∀ field ∈ fields, ∃ s, entries.get? field = some (.str s) := by
  induction fields with
  | nil => simp [checkFields]
  | cons field fields ih =>
    rw [checkFields, List.forall_mem_cons, ← ih]
    split
    · rename_i hnone
      simp [hnone]
    · rename_i s hs
      simp [hs]
    · rename_i w hw hsome
      simp only [reduceCtorEq, false_iff, not_and]
      rintro ⟨s, hs⟩
      rw [hsome] at hs
      exact absurd (Option.some.inj hs) (hw s)

theorem checkRecord_eq_ok_iff {k : RecordKind} :
    a.checkRecord k v = .ok () ↔ v = .null ∨ (ArgumentKind.record k).HasForm v := by
  cases v with
  | null => simp [checkRecord]
  | map entries =>
    rw [checkRecord, checkFields_eq_ok_iff]
    constructor
    · exact fun h => .inr (.record h)
    · rintro (h | h)
      · cases h
      · cases h with
        | record h => exact h
  | bool | int | float | str | list | other =>
    simp only [checkRecord, reduceCtorEq, false_or, false_iff]
    rintro ⟨⟩

theorem hasTruthy_iff {entries : Table Value} {key : String} :
    hasTruthy entries key = true ↔ ∃ w, entries.get? key = some w ∧ w.truthy = true := by
  rw [hasTruthy, Option.any_eq_true]

theorem checkSource_eq_ok_iff {entry source : Value} :
    a.checkSource entry source = .ok () ↔ IsSource source := by
  cases source with
  | map source =>
    rw [checkSource]
    constructor
    · intro h
      split at h
      · cases h
      · rename_i ref href
        have hsome : Table.get? source "configMapKeyRef" = some (.map ref) := by
          cases hget : Table.get? source "configMapKeyRef" with
          | none => simp [hget] at href
          | some w => rw [← href, hget, Option.getD_some]
        split at h
        · rename_i htruthy
          rw [Bool.and_eq_true, hasTruthy_iff, hasTruthy_iff] at htruthy
          obtain ⟨⟨name, hname, hn⟩, key, hkey, hk⟩ := htruthy
          exact .mk hsome hname hn hkey hk
        · cases h
      · cases h
    · rintro ⟨href, hname, hn, hkey, hk⟩
      have htruthy := hasTruthy_iff.mpr ⟨_, hname, hn⟩
      rw [href, Option.getD_some]
      simp [htruthy, hasTruthy_iff.mpr ⟨_, hkey, hk⟩]
  | null | bool | int | float | str | list | other =>
    simp only [checkSource, reduceCtorEq, false_iff]
    rintro ⟨⟩

theorem isVoid_iff : isVoid v = true ↔ v = .null ∨ v = .str "" := by
  cases v <;> simp [isVoid]

theorem checkVariable_eq_ok_iff : a.checkVariable v = .ok () ↔ IsVariable v := by
  cases v with
  | map fields =>
    rw [checkVariable]
    constructor
    · intro h
      split at h
      · cases h
      · rename_i name hname
        split at h
        · cases h
        · rename_i hn
          have hn : name.truthy = true := by simpa using hn
          split at h
          · rename_i w hvalue hsource
            split at h
            · cases h
            · rename_i hvoid
              rw [isVoid_iff, not_or] at hvoid
              exact .ofValue hname hn hsource hvalue hvoid.1 hvoid.2
          · rename_i source hvalue hsource
            exact .ofSource hname hn hvalue hsource (checkSource_eq_ok_iff.mp h)
          · cases h
    · intro h
      cases h with
      | @ofValue _ _ w hname hn hsource hvalue hnull hempty =>
        have hvoid : isVoid w = false := by
          rw [← Bool.not_eq_true, isVoid_iff, not_or]
          exact ⟨hnull, hempty⟩
        simp [hname, hn, hsource, hvalue, hvoid]
      | ofSource hname hn hvalue hsource hmap =>
        simp [hname, hn, hsource, hvalue, checkSource_eq_ok_iff.mpr hmap]
  | null | bool | int | float | str | list | other =>
    simp only [checkVariable, reduceCtorEq, false_iff]
    rintro ⟨⟩

theorem checkVariables_eq_ok_iff {entries : List Value} :
    a.checkVariables entries = .ok () ↔ ∀ entry ∈ entries, IsVariable entry := by
  induction entries with
  | nil => simp [checkVariables]
  | cons entry entries ih =>
    rw [checkVariables, bind_eq_ok, List.forall_mem_cons, ← ih,
      ← checkVariable_eq_ok_iff (a := a)]
    constructor
    · rintro ⟨⟨⟩, hentry, hentries⟩
      exact ⟨hentry, hentries⟩
    · rintro ⟨hentry, hentries⟩
      exact ⟨(), hentry, hentries⟩

theorem checkEnvironment_eq_ok_iff :
    a.checkEnvironment v = .ok () ↔ v = .null ∨ ArgumentKind.environment.HasForm v := by
  cases v with
  | null => simp [checkEnvironment]
  | list entries =>
    rw [checkEnvironment, checkVariables_eq_ok_iff]
    constructor
    · exact fun h => .inr (.environment h)
    · rintro (h | h)
      · cases h
      · cases h with
        | environment h => exact h
  | bool | int | float | str | map | other =>
    simp only [checkEnvironment, reduceCtorEq, false_or, false_iff]
    rintro ⟨⟩

/-- A value of a composite kind passes if it can be decoded to null or to a value of the form. -/
theorem checkOfKind_eq_ok_iff [CharacterNames] {reg : Registry} {k : ArgumentKind}
    (hk : k.composite = true) :
    a.checkOfKind reg k v = .ok () ↔ ∃ w, a.decode v = .ok w ∧ (w = .null ∨ k.HasForm w) := by
  cases k with
  | record k =>
    simp only [checkOfKind, checkSingle, bind_eq_ok, checkRecord_eq_ok_iff]
  | environment =>
    simp only [checkOfKind, checkSingle, bind_eq_ok, checkEnvironment_eq_ok_iff]
  | string | boolean | int | object | array => cases hk

/-! ### Normal forms -/

theorem decode_eq_null_iff (hv : v ≠ .null) :
    a.decode v = .ok .null ↔ ∃ s, v = .str s ∧ Json.read s = .ok .null := by
  cases v with
  | str s =>
    rw [decode]
    split <;> simp_all
  | null => exact absurd rfl hv
  | bool | int | float | list | map | other => simp [decode]

theorem normalOfKind_composite {k : ArgumentKind} (hk : k.composite = true) (hv : v ≠ .null) :
    a.normalOfKind k v = a.decode v := by
  cases k with
  | record | environment =>
    cases v with
    | null => exact absurd rfl hv
    | bool | int | float | str | list | map | other => rfl
  | string | boolean | int | object | array => cases hk

/-- A value passes for a truth value if its normal form is one. -/
theorem checkBool_eq_ok_iff (hv : v ≠ .null) :
    a.checkBool v = .ok () ↔ ∃ b, a.normalOfKind .boolean v = .ok (.bool b) := by
  cases v with
  | null => exact absurd rfl hv
  | bool b => simp [checkBool, normalOfKind, boolOf?]
  | int | float | list | map | other => simp [checkBool, normalOfKind, boolOf?]
  | str s => cases hb : boolOfText? s <;> simp [checkBool, normalOfKind, boolOf?, hb]

theorem normal_eq {reg : Registry} {k : ArgumentKind} (hk : a.kind reg = .ok k) (v : Value) :
    a.normal reg v = a.normalOfKind k v := by
  rw [normal, hk]
  rfl

theorem checkValue_eq [CharacterNames] {reg : Registry} {k : ArgumentKind} (hk : a.kind reg = .ok k)
    (hv : v ≠ .null) : a.checkValue reg v = a.checkOfKind reg k v := by
  cases v with
  | null => exact absurd rfl hv
  | bool | int | float | str | list | map | other =>
    rw [checkValue, hk]
    · rfl
    · simp

/-- Whether the value has no normal form: it is asked to be a text and holds a number that is too
long, or it stands for another value as a JSON text and is none. -/
def Garbled (reg : Registry) (a : Argument) (v : Value) : Prop :=
  a.kind reg = .ok .string ∧ ¬ v.Short ∨
    ∃ k s e, a.kind reg = .ok k ∧ k.composite = true ∧ v = .str s ∧ Json.read s = .error e

theorem exists_decode_iff :
    (∃ w, a.decode v = .ok w) ↔ ∀ s e, v = .str s → Json.read s ≠ .error e := by
  cases v with
  | str s =>
    cases hread : Json.read s with
    | ok w =>
      refine iff_of_true ⟨w, by simp only [decode, hread]⟩ ?_
      rintro _ e ⟨⟩ he
      rw [hread] at he
      cases he
    | error e => cases e <;> simp [decode, hread]
  | null | bool | int | float | list | map | other => simp [decode]

theorem normalOfKind_string (v : Value) (hv : v ≠ .null) :
    a.normalOfKind .string v = (Failure.ofText v.text).map fun s => .str (Text.strip s) := by
  have hbind (x : Except Failure String) :
      (do pure (Value.str (Text.strip (← x)))) = x.map fun s => .str (Text.strip s) := by
    cases x <;> rfl
  cases v with
  | null => exact absurd rfl hv
  | bool | int | float | str | list | map | other => exact hbind _

/-- Of a value that need not be decoded only a text can be missing. -/
theorem exists_normalOfKind_iff {k : ArgumentKind} (h : k.composite = false ∨ v = .null) :
    (∃ w, a.normalOfKind k v = .ok w) ↔ (k = .string → v.Short) := by
  cases k with
  | record | environment =>
    obtain rfl := h.resolve_left (by simp [ArgumentKind.composite])
    exact iff_of_true ⟨_, rfl⟩ (by simp)
  | int | object | array => exact iff_of_true ⟨_, rfl⟩ (by simp)
  | string =>
    rw [imp_iff_right rfl]
    by_cases hv : v = .null
    · subst hv
      exact iff_of_true ⟨_, rfl⟩ (Value.IsPlain.short trivial)
    · rw [normalOfKind_string v hv, ← v.tells_text.exists_iff]
      cases v.text <;> simp [Failure.ofText, Except.map]
  | boolean =>
    refine iff_of_true ?_ (by simp)
    cases v with
    | str s => cases hb : boolOfText? s <;> simp [normalOfKind, boolOf?, hb]
    | null | bool | int | float | list | map | other => exact ⟨_, rfl⟩

/-- A value has a normal form unless it cannot be written or decoded as its kind asks for. -/
theorem exists_normal_iff {reg : Registry} {k : ArgumentKind} (hk : a.kind reg = .ok k) :
    (∃ w, a.normal reg v = .ok w) ↔ ¬ a.Garbled reg v := by
  rw [normal_eq hk, Garbled, hk, not_or, not_and_not_right, Except.ok.injEq]
  by_cases h : k.composite = false ∨ v = .null
  · rw [exists_normalOfKind_iff h, and_iff_left]
    rintro ⟨k', s, e, hk', hc, rfl, -⟩
    obtain rfl := Except.ok.inj hk'
    simp [hc] at h
  · rw [not_or, Bool.not_eq_false] at h
    rw [normalOfKind_composite h.1 h.2, exists_decode_iff, and_iff_right]
    · constructor
      · rintro hread ⟨_, s, e, -, -, hs, he⟩
        exact hread s e hs he
      · intro hgarbled s e hs he
        exact hgarbled ⟨k, s, e, rfl, h.1, hs, he⟩
    · rintro rfl
      cases h.1

/-- A value without a normal form fails over a number in it that is too long, if a text is asked for,
and else as it does when it is decoded. -/
theorem normal_eq_error {reg : Registry} {f : Failure} {k : ArgumentKind}
    (hk : a.kind reg = .ok k) (hf : a.normal reg v = .error f) :
    a.decode v = .error f ∨ a.kind reg = .ok .string ∧ ¬ v.Short ∧ f = Failure.longNumber := by
  rw [normal_eq hk] at hf
  by_cases h : k.composite = false ∨ v = .null
  · refine .inr ?_
    have hnone : ¬ ∃ w, a.normalOfKind k v = .ok w := by simp [hf]
    rw [exists_normalOfKind_iff h, Classical.not_imp] at hnone
    obtain ⟨rfl, hlong⟩ := hnone
    have hv : v ≠ .null := by
      rintro rfl
      exact hlong (Value.IsPlain.short trivial)
    rw [normalOfKind_string v hv] at hf
    cases htext : v.text with
    | ok s =>
      rw [htext] at hf
      cases hf
    | error g =>
      rw [htext] at hf
      cases hf
      exact ⟨hk, hlong, by rw [v.tells_text.of_error htext]; rfl⟩
  · rw [not_or, Bool.not_eq_false] at h
    rw [normalOfKind_composite h.1 h.2] at hf
    exact .inl hf

theorem not_garbled_of_checkValue [CharacterNames] {reg : Registry}
    (h : a.checkValue reg v = .ok ()) : ¬ a.Garbled reg v := by
  rintro (⟨hk, hlong⟩ | ⟨k, s, e, hk, hc, rfl, hread⟩)
  · cases v with
    | null | str => exact hlong (Value.IsPlain.short trivial)
    | bool | int | float | list | map | other =>
      rw [checkValue_eq hk (by simp)] at h
      cases h
  · rw [checkValue_eq hk (by simp), checkOfKind_eq_ok_iff hc] at h
    obtain ⟨w, hw, -⟩ := h
    exact exists_decode_iff.mp ⟨w, hw⟩ s e rfl hread

theorem exists_kind_of_checkValue [CharacterNames] {reg : Registry} (h : a.checkValue reg v = .ok ())
    (hv : v ≠ .null) : ∃ k, a.kind reg = .ok k := by
  cases hk : a.kind reg with
  | ok k => exact ⟨k, rfl⟩
  | error e =>
    cases v with
    | null => exact absurd rfl hv
    | bool | int | float | str | list | map | other =>
      rw [checkValue, hk] at h
      · cases h
      · simp

/-- A value that passes its check has a normal form of the form of its kind, unless it is a JSON text
of null: that is null in normal form. -/
theorem normal_of_checkValue [CharacterNames] {reg : Registry} (h : a.checkValue reg v = .ok ())
    (hv : v ≠ .null) : ∃ k w, a.kind reg = .ok k ∧ a.normal reg v = .ok w ∧
      (k.HasForm w ∨
        k.composite = true ∧ w = .null ∧ ∃ s, v = .str s ∧ Json.read s = .ok .null) := by
  obtain ⟨k, hk⟩ := exists_kind_of_checkValue h hv
  rw [checkValue_eq hk hv] at h
  refine ⟨k, ?_⟩
  rw [normal_eq hk]
  by_cases hc : k.composite = true
  · rw [checkOfKind_eq_ok_iff hc] at h
    rw [normalOfKind_composite hc hv]
    obtain ⟨w, hw, rfl | hform⟩ := h
    · exact ⟨.null, hk, hw, .inr ⟨hc, rfl, (decode_eq_null_iff hv).mp hw⟩⟩
    · exact ⟨w, hk, hw, .inl hform⟩
  · cases k with
    | string =>
      cases v with
      | str s => exact ⟨_, hk, rfl, .inl (.string _)⟩
      | null => exact absurd rfl hv
      | bool | int | float | list | map | other => cases h
    | boolean =>
      obtain ⟨b, hb⟩ := (checkBool_eq_ok_iff hv).mp (Failure.ofError_eq_ok_iff.mp h)
      exact ⟨.bool b, hk, hb, .inl (.boolean b)⟩
    | int => exact ⟨_, hk, rfl, .inl (.int _)⟩
    | object => exact ⟨_, hk, rfl, .inl (.object _)⟩
    | array =>
      cases v with
      | list items => exact ⟨_, hk, rfl, .inl (.array items)⟩
      | null => exact absurd rfl hv
      | bool | int | float | str | map | other => cases h
    | record | environment => exact absurd rfl hc

section Unnamed

attribute [local instance] CharacterNames.unnamed

/-- A build tool as a JSON text. -/
def toolText : String := "\x7b\"name\": \"m\"\x7d"

/-- Whether a value is a map that holds one text. -/
def holdsText (key s : String) : Value → Bool
  | .map [(k, .str t)] => k == key && t == s
  | _ => false

theorem eq_of_holdsText {key s : String} (h : holdsText key s v = true) :
    v = .map [(key, .str s)] := by
  unfold holdsText at h
  split at h
  · simp only [Bool.and_eq_true, beq_iff_eq] at h
    rw [h.1, h.2]
  · cases h

theorem read_toolText : Json.read toolText = .ok (.map [("name", .str "m")]) := by
  have h : (Json.read toolText).toOption.any (holdsText "name" "m") = true := by decide +kernel
  cases hread : Json.read toolText with
  | error e =>
    rw [hread] at h
    cases h
  | ok v =>
    rw [hread] at h
    rw [eq_of_holdsText h]

/-- An argument for a build tool, with a default. -/
def toolArgument : Argument where
  name := "tool"
  bindings := []
  schema := some ⟨"pipegen.io/toolbinding", none⟩
  required := false
  default := .str toolText
  validation := none
  display := some ⟨"pipegen.io/toolbinding", ⟨"工具", "Tool"⟩, [], none⟩
  relation := none

theorem checkValue_toolText :
    toolArgument.checkValue Registry.standard (.str toolText) = .ok () := by
  have hkind : toolArgument.kind Registry.standard = .ok (.record .toolBinding) := rfl
  have hdecode : toolArgument.decode (.str toolText) = .ok (.map [("name", .str "m")]) := by
    simp only [decode, read_toolText]
  have hform : (ArgumentKind.record .toolBinding).HasForm (.map [("name", .str "m")]) :=
    .record (by simp [RecordKind.requiredFields, Table.get?])
  rw [checkValue_eq hkind (by simp), checkOfKind_eq_ok_iff rfl]
  exact ⟨_, hdecode, .inr hform⟩

theorem normal_of_checkValue_tool :
    toolArgument.checkValue Registry.standard (.str toolText) = .ok () ∧
      Value.str toolText ≠ .null ∧
      ∃ w, toolArgument.normal Registry.standard (.str toolText) = .ok w ∧
        (ArgumentKind.record .toolBinding).HasForm w := by
  have hne : Value.str toolText ≠ .null := by simp
  refine ⟨checkValue_toolText, hne, ?_⟩
  obtain ⟨k, w, hk, hw, hform | ⟨-, -, s, hs, hnull⟩⟩ := normal_of_checkValue checkValue_toolText hne
  · obtain rfl : k = .record .toolBinding := Except.ok.inj (hk.symm.trans rfl)
    exact ⟨w, hw, hform⟩
  · rw [← Value.str.inj hs, read_toolText] at hnull
    cases hnull

/-- The text `null` passes for a build tool, and is none in normal form. -/
theorem normal_nullText :
    toolArgument.checkValue Registry.standard (.str "null") = .ok () ∧
      toolArgument.normal Registry.standard (.str "null") = .ok .null ∧
      ¬ (ArgumentKind.record .toolBinding).HasForm .null := by
  refine ⟨rfl, rfl, ?_⟩
  rintro ⟨⟩

end Unnamed

/-! ### Defaults -/

theorem strip_eq_self_iff {s : String} :
    Text.strip s = s ↔ (∀ c ∈ s.toList.head?, Text.isBlank c = false) ∧
      ∀ c ∈ s.toList.getLast?, Text.isBlank c = false := by
  rw [← Text.dropAround_eq_self_iff, ← String.toList_inj, Text.strip, String.toList_ofList]

theorem orElse_of_ne {w fallback : Value} (hw : w ≠ .null) : w.orElse fallback = w := by
  cases w with
  | null => exact absurd rfl hw
  | bool | int | float | str | list | map | other => rfl

/-- Without a value the default is taken as it is. -/
theorem normalOfKind_null (k : ArgumentKind) (hd : a.default ≠ .null) :
    a.normalOfKind k .null = .ok a.default := by
  cases k with
  | string | boolean => exact congrArg Except.ok (orElse_of_ne hd)
  | int | object => exact congrArg Except.ok (orElse_of_ne hd)
  | array | record | environment => rfl

/-- A value that passes is in normal form just if its normal form is the value itself. -/
theorem normalOfKind_eq_self_iff [CharacterNames] {reg : Registry} {k : ArgumentKind}
    (h : a.checkOfKind reg k v = .ok ()) (hv : v ≠ .null) :
    a.normalOfKind k v = .ok v ↔ k.IsPlain v := by
  cases k with
  | string =>
    cases v with
    | str s =>
      rw [normalOfKind_string _ hv]
      simp [Value.text, Failure.ofText, Except.map, strip_eq_self_iff, ArgumentKind.IsPlain]
    | null => exact absurd rfl hv
    | bool | int | float | list | map | other => cases h
  | boolean =>
    obtain ⟨b, hb⟩ := (checkBool_eq_ok_iff hv).mp (Failure.ofError_eq_ok_iff.mp h)
    rw [hb]
    cases v with
    | bool => exact iff_of_true hb.symm (by simp [ArgumentKind.IsPlain])
    | str s => simp [ArgumentKind.IsPlain]
    | null => exact absurd rfl hv
    | int | float | list | map | other => cases hb
  | int | object | array => exact iff_of_true (congrArg Except.ok (orElse_of_ne hv)) trivial
  | record | environment =>
    rw [normalOfKind_composite rfl hv]
    cases v with
    | str s =>
      -- The decoded value has the form of its kind or is null, so it is no text.
      obtain ⟨w, hw, hform⟩ := (checkOfKind_eq_ok_iff rfl).mp h
      refine iff_of_false (fun hself => ?_) (fun hplain => hplain s rfl)
      obtain rfl := Except.ok.inj (hw.symm.trans hself)
      cases hform with
      | inl hnull => cases hnull
      | inr hform => cases hform
    | null => exact absurd rfl hv
    | bool | int | float | list | map | other =>
      exact iff_of_true rfl (by simp [ArgumentKind.IsPlain])

/-- Without a value the default is taken as it was declared.  That is what a supplied default leads
to just if the default is in normal form. -/
theorem normal_null_eq_iff [CharacterNames] {reg : Registry} (h : a.checkValue reg a.default = .ok ())
    (hd : a.default ≠ .null) :
    ∃ k, a.kind reg = .ok k ∧ a.normal reg .null = .ok a.default ∧
      (a.normal reg .null = a.normal reg a.default ↔ k.IsPlain a.default) := by
  obtain ⟨k, hk⟩ := exists_kind_of_checkValue h hd
  rw [checkValue_eq hk hd] at h
  rw [normal_eq hk, normal_eq hk, normalOfKind_null k hd]
  exact ⟨k, hk, rfl, eq_comm.trans (normalOfKind_eq_self_iff h hd)⟩

section Unnamed

attribute [local instance] CharacterNames.unnamed

theorem normal_null_eq_iff_tool :
    toolArgument.checkValue Registry.standard toolArgument.default = .ok () ∧
      toolArgument.default ≠ .null ∧
      toolArgument.normal Registry.standard .null ≠
        toolArgument.normal Registry.standard toolArgument.default := by
  have hne : toolArgument.default ≠ .null := by simp [toolArgument]
  obtain ⟨k, hk, -, hiff⟩ := normal_null_eq_iff checkValue_toolText hne
  obtain rfl : k = .record .toolBinding := Except.ok.inj (hk.symm.trans rfl)
  exact ⟨checkValue_toolText, hne, fun heq => hiff.mp heq toolText rfl⟩

/-- An argument for a truth value that is spelled out by default. -/
def flagArgument : Argument :=
  { toolArgument with
    name := "flag"
    schema := some ⟨"boolean", none⟩
    default := .str "T"
    display := some ⟨"boolean", ⟨"开关", "Flag"⟩, [], none⟩ }

/-- The spelling is no truth value unless it is supplied. -/
theorem normal_flag_null :
    flagArgument.checkValue Registry.standard flagArgument.default = .ok () ∧
      flagArgument.normal Registry.standard .null = .ok (.str "T") ∧
      flagArgument.normal Registry.standard flagArgument.default = .ok (.bool true) :=
  ⟨rfl, rfl, rfl⟩

end Unnamed

end Argument

end Jenkinsfile
