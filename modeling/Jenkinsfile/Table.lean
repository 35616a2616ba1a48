/-! Tables: entries under text keys in the order in which the keys were first inserted. -/

namespace Jenkinsfile

/-- Entries under keys, oldest key first. -/
abbrev Table (α : Type u) := List (String × α)

namespace Table

variable {α : Type u}

/-- The entry under `key`. -/
def get? : Table α → String → Option α
  | [], _ => none
  | (k, a) :: t, key => if k = key then some a else get? t key

/-- Whether there is an entry under `key`. -/
def has (t : Table α) (key : String) : Bool := (t.get? key).isSome

/-- The keys in order. -/
def keys (t : Table α) : List String := t.map Prod.fst

/-- Puts `a` under `key`: in place of the entry there, or after all entries. -/
def insert : Table α → String → α → Table α
  | [], key, a => [(key, a)]
  | (k, b) :: t, key, a => if k = key then (key, a) :: t else (k, b) :: insert t key a

/-- `t` with the entries of `top` inserted in order, so that those of `top` win. -/
def overlay (t top : Table α) : Table α := top.foldl (fun t e => t.insert e.1 e.2) t

/-- The table with these entries inserted in order: of two under one key the later one wins, at the
place of the earlier. -/
def ofEntries (entries : List (String × α)) : Table α := overlay [] entries

/-- `t` with `a` under `key` if it has no entry there. -/
def insertNew (t : Table α) (key : String) (a : α) : Table α :=
  if t.has key then t else t.insert key a

@[simp] theorem get?_nil (key : String) : get? ([] : Table α) key = none := rfl

theorem get?_insert_self (t : Table α) (key : String) (a : α) :
    (t.insert key a).get? key = some a := by
  induction t with
  | nil => simp [insert, get?]
  | cons e t ih =>
    obtain ⟨k, b⟩ := e
    by_cases h : k = key <;> simp [insert, get?, h, ih]

theorem get?_insert_ne (t : Table α) {key other : String} (a : α) (h : other ≠ key) :
    (t.insert key a).get? other = t.get? other := by
  induction t with
  | nil => simp [insert, get?, Ne.symm h]
  | cons e t ih =>
    obtain ⟨k, b⟩ := e
    by_cases hk : k = key
    · subst hk; simp [insert, get?, Ne.symm h]
    · simp only [insert, if_neg hk]
      by_cases ho : k = other <;> simp [get?, ho, ih]

theorem get?_insert (t : Table α) (key other : String) (a : α) :
    (t.insert key a).get? other = if other = key then some a else t.get? other := by
  by_cases h : other = key
  · rw [if_pos h, h, get?_insert_self]
  · rw [if_neg h, get?_insert_ne t a h]

theorem mem_keys_iff_has {t : Table α} {key : String} : key ∈ t.keys ↔ t.has key = true := by
  induction t with
  | nil => simp [keys, has, get?]
  | cons e t ih =>
    obtain ⟨k, b⟩ := e
    by_cases h : k = key
    · simp [keys, has, get?, h]
    · simpa [keys, has, get?, h, Ne.symm h] using ih

end Table

end Jenkinsfile
