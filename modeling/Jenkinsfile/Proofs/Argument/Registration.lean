import Jenkinsfile.Argument.Definition
import Jenkinsfile.Proofs.Failure
import Jenkinsfile.Proofs.Table

/-! Kinds under further names.  The check of a list's declaration goes on to the kind of its items,
with the same declaration, and it is by the name of their type that lists of lists are refused.
`Checked` gives the check as rules, under which lists of lists by another name have no outcome:
those are the only declarations whose check does not end, and there are some just if lists are
registered under a further name. -/

namespace Jenkinsfile

open Failure

/-- The registry after registrations, one after the other. -/
def Registry.after (registrations : List (String × ArgumentKind)) : Registry :=
  Registry.standard.overlay registrations

/-- Whether lists go by no other name than their own. -/
def Registry.ListsOnce (reg : Registry) : Prop :=
  ∀ name, reg.get? name = some .array → name = ArgumentKind.array.typeId

namespace Registry

theorem eq_of_get?_standard {name : String} {k : ArgumentKind}
    (h : Registry.standard.get? name = some k) : name = k.typeId := by
  obtain ⟨k', -, he⟩ := List.mem_map.mp (Table.mem_of_get? h)
  rw [Prod.mk.injEq] at he
  rw [← he.1, he.2]

theorem listsOnce_standard : Registry.standard.ListsOnce := fun _ h => eq_of_get?_standard h

/-- A registration leaves lists with one name if it is not one of lists under another. -/
theorem ListsOnce.insert {reg : Registry} (h : reg.ListsOnce) {name : String} {k : ArgumentKind}
    (hk : k = .array → name = ArgumentKind.array.typeId) :
    Registry.ListsOnce (Table.insert reg name k) := by
  intro other hother
  rw [Table.get?_insert] at hother
  split at hother
  · rename_i heq
    rw [heq]
    exact hk (Option.some.inj hother)
  · exact h other hother

theorem ListsOnce.overlay {registrations : List (String × ArgumentKind)}
    (hr : ∀ r ∈ registrations, r.2 = .array → r.1 = ArgumentKind.array.typeId) {reg : Registry}
    (h : reg.ListsOnce) : Registry.ListsOnce (Table.overlay reg registrations) := by
  induction registrations generalizing reg with
  | nil => exact h
  | cons r registrations ih =>
    obtain ⟨hfirst, hrest⟩ := List.forall_mem_cons.mp hr
    exact ih hrest (h.insert hfirst)

end Registry

namespace Argument

variable {reg : Registry} {a : Argument} {k : ArgumentKind}

/-- Whether the check of a list's declaration goes on to the kind `k` of its items. -/
def GoesOn (reg : Registry) (a : Argument) (k : ArgumentKind) : Prop :=
  ∃ items, a.itemTypeName? = some items ∧ items ≠ ArgumentKind.array.typeId ∧ a.itemKind reg = .ok k

/-- The outcomes of the check of a declaration under a kind. -/
inductive Checked (reg : Registry) (a : Argument) : ArgumentKind → Except Error Unit → Prop
  | single {k : ArgumentKind} : k ≠ .array → Checked reg a k (a.checkSingleDefinition k)
  | noItems : a.itemTypeName? = none →
      Checked reg a .array (.error (.definition (a.name ++ ".schema.items should not be nil")))
  | lists : a.itemTypeName? = some ArgumentKind.array.typeId →
      Checked reg a .array (.error (.definition (a.name ++ ".schema.items.type=" ++
        ArgumentKind.array.typeId ++ " is not support, nested arrays are not allowed")))
  | unknown {items : String} {e : Error} : a.itemTypeName? = some items →
      items ≠ ArgumentKind.array.typeId → a.itemKind reg = .error e →
      Checked reg a .array (.error e)
  | items {k : ArgumentKind} {r : Except Error Unit} : a.GoesOn reg k → Checked reg a k r →
      Checked reg a .array r

theorem checkKindDefinition_of_ne (h : k ≠ .array) :
    a.checkKindDefinition reg k = ofError (a.checkSingleDefinition k) := by
  cases k with
  | array => exact absurd rfl h
  | string | boolean | int | object | record | environment => rfl

/-- The check of a list whose items have a kind is that of the items' kind, unless this is lists
again. -/
theorem checkListDefinition_of_goesOn (h : a.GoesOn reg k) :
    a.checkListDefinition reg =
      if k = .array then .error (.fault .endlessItems) else a.checkKindDefinition reg k := by
  obtain ⟨items, hitems, hne, hk⟩ := h
  simp only [checkListDefinition, hitems, if_neg hne, hk]
  cases k with
  | array => rfl
  | string | boolean | int | object | record | environment => rfl

/-- The check of a list's declaration fails at once or goes on to its items. -/
theorem checkListDefinition_cases (reg : Registry) (a : Argument) :
    (∃ e, Checked reg a .array (.error e) ∧ a.checkListDefinition reg = .error (.error e)) ∨
      ∃ k, a.GoesOn reg k := by
  cases hitems : a.itemTypeName? with
  | none => exact .inl ⟨_, .noItems hitems, by simp only [checkListDefinition, hitems]⟩
  | some items =>
    by_cases hlists : items = ArgumentKind.array.typeId
    · subst hlists
      exact .inl ⟨_, .lists hitems, by simp only [checkListDefinition, hitems, if_pos]⟩
    · cases hk : a.itemKind reg with
      | error e =>
        refine .inl ⟨e, .unknown hitems hlists hk, ?_⟩
        simp only [checkListDefinition, hitems, if_neg hlists, hk]
      | ok k => exact .inr ⟨k, items, hitems, hlists, hk⟩

theorem checkKindDefinition_eq_fault_iff {f : Fault} :
    a.checkKindDefinition reg k = .error (.fault f) ↔
      f = .endlessItems ∧ k = .array ∧ a.GoesOn reg .array := by
  by_cases hlist : k = .array
  · subst hlist
    rw [checkKindDefinition]
    constructor
    · intro h
      obtain ⟨e, -, he⟩ | ⟨k, hgo⟩ := checkListDefinition_cases reg a
      · rw [he] at h
        cases h
      · rw [checkListDefinition_of_goesOn hgo] at h
        split at h
        · rename_i hk
          rw [hk] at hgo
          cases h
          exact ⟨rfl, rfl, hgo⟩
        · rename_i hk
          rw [checkKindDefinition_of_ne hk] at h
          exact absurd h (faultless_ofError _ f)
    · rintro ⟨rfl, -, hgo⟩
      rw [checkListDefinition_of_goesOn hgo, if_pos rfl]
  · rw [checkKindDefinition_of_ne hlist]
    exact iff_of_false (faultless_ofError _ f) fun h => hlist h.2.1

/-- The rules derive what the check gives unless it ends in a fault. -/
theorem checked_iff {r : Except Error Unit} :
    Checked reg a k r ↔ a.checkKindDefinition reg k = ofError r := by
  constructor
  · intro h
    induction h with
    | single hk => exact checkKindDefinition_of_ne hk
    | noItems hitems => simp only [checkKindDefinition, checkListDefinition, hitems, ofError]
    | lists hitems => simp only [checkKindDefinition, checkListDefinition, hitems, if_pos, ofError]
    | unknown hitems hne hk =>
      simp only [checkKindDefinition, checkListDefinition, hitems, if_neg hne, hk, ofError]
    | @items k r hgo _ ih =>
      rw [checkKindDefinition, checkListDefinition_of_goesOn hgo, ← ih, if_neg]
      rintro rfl
      rw [checkKindDefinition_eq_fault_iff.mpr ⟨rfl, rfl, hgo⟩] at ih
      exact faultless_ofError r _ ih.symm
  · intro h
    by_cases hlist : k = .array
    · subst hlist
      obtain ⟨e, hchecked, he⟩ | ⟨k, hgo⟩ := checkListDefinition_cases reg a
      · obtain rfl : .error e = r := ofError_inj.mp (he.symm.trans h)
        exact hchecked
      · rw [checkKindDefinition, checkListDefinition_of_goesOn hgo] at h
        split at h
        · exact absurd h.symm (faultless_ofError r _)
        · rename_i hk
          rw [checkKindDefinition_of_ne hk, ofError_inj] at h
          exact .items hgo (h ▸ .single hk)
    · rw [checkKindDefinition_of_ne hlist, ofError_inj] at h
      exact h ▸ .single hlist

/-- Whether the check of a declaration comes to its kind and has no outcome there. -/
def Endless (reg : Registry) (a : Argument) : Prop :=
  ∃ k, a.checkParts reg = .ok k ∧ ∀ r, ¬ Checked reg a k r

theorem endless_iff :
    a.Endless reg ↔ a.checkParts reg = .ok .array ∧ a.GoesOn reg .array := by
  constructor
  · rintro ⟨k, hparts, hnone⟩
    match h : a.checkKindDefinition reg k with
    | .ok () => exact absurd (checked_iff.mpr h) (hnone (.ok ()))
    | .error (.error e) => exact absurd (checked_iff.mpr h) (hnone (.error e))
    | .error (.fault f) =>
      obtain ⟨-, rfl, hgo⟩ := checkKindDefinition_eq_fault_iff.mp h
      exact ⟨hparts, hgo⟩
  · rintro ⟨hparts, hgo⟩
    refine ⟨.array, hparts, fun r hr => ?_⟩
    rw [checked_iff, checkKindDefinition_eq_fault_iff.mpr ⟨rfl, rfl, hgo⟩] at hr
    exact faultless_ofError r _ hr.symm

/-- The checks of bindings and relation have errors only. -/
theorem faultless_commonChecks :
    ∀ c ∈ (a.bindings.map fun path => ofError (checkBinding a.name path)) ++
      a.relation.toList.map fun r => ofError r.check, Faultless c := by
  intro c hc
  obtain hc | hc := List.mem_append.mp hc
  · obtain ⟨path, -, rfl⟩ := List.mem_map.mp hc
    exact faultless_ofError _
  · obtain ⟨r, -, rfl⟩ := List.mem_map.mp hc
    exact faultless_ofError _

/-- The check of a declaration ends in a fault just if that of its kind does. -/
theorem check_eq_fault_iff {f : Fault} :
    a.check reg = .error (.fault f) ↔
      ∃ k, a.checkParts reg = .ok k ∧ a.checkKindDefinition reg k = .error (.fault f) := by
  constructor
  · intro h
    obtain h | ⟨k, hparts, h⟩ := bind_eq_error.mp h
    · exact absurd h (faultless_ofError _ f)
    · exact ⟨k, ofError_eq_ok_iff.mp hparts,
        (raise_concat_eq_fault_iff faultless_commonChecks).mp h⟩
  · rintro ⟨k, hparts, hkind⟩
    exact bind_eq_error.mpr (.inr ⟨k, ofError_eq_ok_iff.mpr hparts,
      (raise_concat_eq_fault_iff faultless_commonChecks).mpr hkind⟩)

theorem check_eq_fault_iff_endless {f : Fault} :
    a.check reg = .error (.fault f) ↔ f = .endlessItems ∧ a.Endless reg := by
  rw [check_eq_fault_iff, endless_iff]
  constructor
  · rintro ⟨k, hparts, hkind⟩
    obtain ⟨rfl, rfl, hgo⟩ := checkKindDefinition_eq_fault_iff.mp hkind
    exact ⟨rfl, hparts, hgo⟩
  · rintro ⟨rfl, hparts, hgo⟩
    exact ⟨.array, hparts, checkKindDefinition_eq_fault_iff.mpr ⟨rfl, rfl, hgo⟩⟩

theorem faultless_check_iff : Faultless (a.check reg) ↔ ¬ a.Endless reg := by
  simp only [Faultless, ne_eq, check_eq_fault_iff_endless]
  exact ⟨fun h hend => h _ ⟨rfl, hend⟩, fun h _ hend => h hend.2⟩

theorem ne_array_of_goesOn (h : reg.ListsOnce) (hgo : a.GoesOn reg k) : k ≠ .array := by
  rintro rfl
  obtain ⟨items, hitems, hne, hk⟩ := hgo
  rw [itemKind, kindOf, hitems, Option.getD_some] at hk
  split at hk
  · rename_i hget
    rw [Except.ok.inj hk] at hget
    exact hne (h items hget)
  · cases hk

theorem not_endless_of_listsOnce (h : reg.ListsOnce) (a : Argument) : ¬ a.Endless reg :=
  fun hend => ne_array_of_goesOn h (endless_iff.mp hend).2 rfl

/-- A declaration with nothing to refuse but its types. -/
def ofTypes (type items : String) : Argument where
  name := "xs"
  bindings := []
  schema := some ⟨type, some items⟩
  required := false
  default := .null
  validation := none
  display := some ⟨"array", ⟨"名称", "Name"⟩, [], none⟩
  relation := none

theorem checkParts_ofTypes {type items : String} (h : reg.get? type = some k) :
    (ofTypes type items).checkParts reg = .ok k := by
  have hkind : (ofTypes type items).kind reg = .ok k := by
    simp only [kind, kindOf, typeName, ofTypes, Option.map_some, Option.getD_some, h]
  have hname : ¬ Text.isAllBlank (ofTypes type items).name = true := by
    change ¬ Text.isAllBlank "xs" = true
    decide
  rw [checkParts, if_neg hname, if_neg (by simp [ofTypes]), hkind]
  rfl

theorem goesOn_ofTypes {type items : String} (h : reg.get? items = some k)
    (hne : items ≠ ArgumentKind.array.typeId) : (ofTypes type items).GoesOn reg k := by
  refine ⟨items, rfl, hne, ?_⟩
  simp only [itemKind, kindOf, itemTypeName?, ofTypes, Option.bind_some, Option.getD_some, h]

/-- Whatever was registered, the check of a declaration has no outcome just if it is of a list and
goes on to lists as the items.  There is no such declaration as long as lists go by their own name
alone, which a registration of lists under a further name may change and no other does. -/
theorem check_ends_iff (registrations : List (String × ArgumentKind)) :
    (∀ a : Argument, Faultless (a.check (.after registrations)) ↔
        ¬ a.Endless (.after registrations)) ∧
      (∀ a : Argument, a.Endless (.after registrations) ↔
        a.checkParts (.after registrations) = .ok .array ∧
          a.GoesOn (.after registrations) .array) ∧
      ((∀ a : Argument, Faultless (a.check (.after registrations))) ↔
        (Registry.after registrations).ListsOnce) ∧
      ((∀ (a : Argument) k, a.GoesOn (.after registrations) k → k ≠ .array) ↔
        (Registry.after registrations).ListsOnce) ∧
      ((∀ r ∈ registrations, r.2 = .array → r.1 = ArgumentKind.array.typeId) →
        (Registry.after registrations).ListsOnce) := by
  have honce (h : ∀ a : Argument, ¬ a.Endless (.after registrations)) :
      (Registry.after registrations).ListsOnce := by
    intro name hget
    by_cases hname : name = ArgumentKind.array.typeId
    · exact hname
    · exact absurd (endless_iff.mpr ⟨checkParts_ofTypes hget, goesOn_ofTypes hget hname⟩)
        (h (ofTypes name name))
  refine ⟨fun a => faultless_check_iff, fun a => endless_iff, ⟨fun h => ?_, fun h a => ?_⟩,
    ⟨fun h => honce fun a hend => ?_, fun h a k hgo => ne_array_of_goesOn h hgo⟩,
    fun h => Registry.listsOnce_standard.overlay h⟩
  · exact honce fun a => faultless_check_iff.mp (h a)
  · exact faultless_check_iff.mpr (not_endless_of_listsOnce h a)
  · exact h a .array (endless_iff.mp hend).2 rfl

/-- A list whose items are of the type "list", which is registered for lists too. -/
theorem check_ofTypes_list :
    (ofTypes "array" "list").GoesOn (.after [("list", .array)]) .array ∧
      (ofTypes "array" "list").check (.after [("list", .array)]) = .error (.fault .endlessItems) ∧
      ∀ r, ¬ Checked (.after [("list", .array)]) (ofTypes "array" "list") .array r := by
  have hgo : (ofTypes "array" "list").GoesOn (.after [("list", .array)]) .array :=
    goesOn_ofTypes (by decide) (by decide)
  have hkind := checkKindDefinition_eq_fault_iff.mpr ⟨rfl, rfl, hgo⟩
  refine ⟨hgo, check_eq_fault_iff.mpr ⟨.array, checkParts_ofTypes (by decide), hkind⟩, ?_⟩
  intro r hr
  rw [checked_iff, hkind] at hr
  exact faultless_ofError r _ hr.symm

end Argument

end Jenkinsfile
