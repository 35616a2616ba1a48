import Jenkinsfile.Table

/-! What tables hold: entries put in one after the other, and tables put on top of each other. -/

namespace Jenkinsfile.Table

variable {α : Type} {t : Table α} {key : String} {a : α}

theorem mem_of_get? (h : t.get? key = some a) : (key, a) ∈ t := by
  induction t with
  | nil => cases h
  | cons e t ih =>
    obtain ⟨k, b⟩ := e
    rw [get?] at h
    split at h
    · rename_i hk
      rw [hk, Option.some.inj h]
      exact List.mem_cons_self
    · exact List.mem_cons_of_mem _ (ih h)

theorem get?_insertNew (t : Table α) (key other : String) (a : α) :
    (t.insertNew key a).get? other =
      if other = key then some ((t.get? key).getD a) else t.get? other := by
  rw [insertNew, has]
  by_cases h : other = key
  · subst h
    cases hg : t.get? other with
    | none => simp [get?_insert_self]
    | some b => simp [hg]
  · rw [if_neg h]
    split
    · rfl
    · exact get?_insert_ne t a h

theorem insert_of_not_has (h : t.has key = false) : t.insert key a = t ++ [(key, a)] := by
  induction t with
  | nil => rfl
  | cons e t ih =>
    obtain ⟨k, b⟩ := e
    have hk : k ≠ key := by
      rintro rfl
      simp [has, get?] at h
    rw [has, get?, if_neg hk] at h
    rw [insert, if_neg hk, ih h, List.cons_append]

theorem insertNew_of_not_has (h : t.has key = false) : t.insertNew key a = t ++ [(key, a)] := by
  rw [insertNew, h, if_neg (by decide), insert_of_not_has h]

theorem overlay_cons (t : Table α) (e : String × α) (top : Table α) :
    t.overlay (e :: top) = (t.insert e.1 e.2).overlay top := rfl

theorem get?_overlay_of_not_mem {top : Table α} (h : key ∉ top.keys) (t : Table α) :
    (t.overlay top).get? key = t.get? key := by
  induction top generalizing t with
  | nil => rfl
  | cons e top ih =>
    simp only [keys, List.map_cons, List.mem_cons, not_or] at h
    rw [overlay_cons, ih h.2, get?_insert_ne t e.2 h.1]

theorem get?_overlay (t top : Table α) (key : String) :
    (t.overlay top).get? key = ((ofEntries top).get? key).or (t.get? key) := by
  induction top generalizing t with
  | nil => rfl
  | cons e top ih =>
    have hentries : ofEntries (e :: top) = overlay [e] top := rfl
    rw [overlay_cons, hentries, ih, ih [e], Option.or_assoc, get?_insert]
    obtain ⟨k, a⟩ := e
    by_cases h : key = k
    · simp [get?, h]
    · simp [get?, h, Ne.symm h]

/-- The same entries under every key but one; of several entries under one key the last one
counts. -/
def SameBut (key : String) (t u : Table α) : Prop :=
  ∀ other ≠ key, (ofEntries t).get? other = (ofEntries u).get? other

/-- Entries under keys of their own can all be looked up. -/
theorem get?_ofEntries_of_mem {entries : List (String × α)} (hn : (entries.map Prod.fst).Nodup)
    (hm : (key, a) ∈ entries) : (ofEntries entries).get? key = some a := by
  have h (t : Table α) : (t.overlay entries).get? key = some a := by
    induction entries generalizing t with
    | nil => cases hm
    | cons e entries ih =>
      rw [List.map_cons, List.nodup_cons] at hn
      rcases List.mem_cons.mp hm with rfl | hm
      · rw [overlay_cons, get?_overlay_of_not_mem hn.1, get?_insert_self]
      · rw [overlay_cons, ih hn.2 hm]
  exact h []

theorem mem_of_get?_ofEntries {entries : List (String × α)}
    (h : (ofEntries entries).get? key = some a) : (key, a) ∈ entries := by
  induction entries with
  | nil => cases h
  | cons e entries ih =>
    have hentries : ofEntries (e :: entries) = overlay [e] entries := rfl
    rw [hentries, get?_overlay, Option.or_eq_some_iff] at h
    rcases h with h | ⟨-, h⟩
    · exact List.mem_cons_of_mem _ (ih h)
    · rw [List.mem_singleton.mp (mem_of_get? h)]
      exact List.mem_cons_self

theorem has_overlay_iff {top : Table α} :
    (t.overlay top).has key = true ↔ t.has key = true ∨ key ∈ top.keys := by
  induction top generalizing t with
  | nil => simp [keys, overlay]
  | cons e top ih =>
    rw [overlay_cons, ih, has, get?_insert]
    by_cases h : key = e.1
    · simp [keys, h]
    · simp [keys, h, has]

theorem has_ofEntries_iff {entries : List (String × α)} :
    (ofEntries entries).has key = true ↔ key ∈ entries.map Prod.fst := by
  rw [ofEntries, has_overlay_iff]
  simp [has, keys]

theorem get?_map {β : Type} (t : Table α) (f : α → β) (key : String) :
    get? (t.map fun e => (e.1, f e.2)) key = (t.get? key).map f := by
  induction t with
  | nil => rfl
  | cons e t ih =>
    simp only [List.map_cons, get?]
    split
    · rfl
    · exact ih

end Jenkinsfile.Table
