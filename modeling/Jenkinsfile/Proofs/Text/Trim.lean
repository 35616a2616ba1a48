import Jenkinsfile.Text.Blank
import Mathlib.Data.List.Basic
import Mathlib.Data.List.TakeWhile

/-! Characters taken away at the ends of a text. -/

namespace Jenkinsfile.Text

variable {p : Char → Bool} {cs ds : List Char}

theorem dropEnd_append_eq (p : Char → Bool) (cs : List Char) :
    ∃ tail, cs = dropEnd p cs ++ tail ∧ ∀ c ∈ tail, p c = true := by
  refine ⟨(cs.reverse.takeWhile p).reverse, ?_, fun c hc => ?_⟩
  · rw [dropEnd, ← List.reverse_append, List.takeWhile_append_dropWhile, List.reverse_reverse]
  · exact List.all_eq_true.mp List.all_takeWhile c (List.mem_reverse.mp hc)

theorem dropEnd_append_of_forall (h : ∀ c ∈ ds, p c = true) (cs : List Char) :
    dropEnd p (cs ++ ds) = dropEnd p cs := by
  rw [dropEnd, List.reverse_append, List.dropWhile_append_of_pos, dropEnd]
  intro c hc
  exact h c (List.mem_reverse.mp hc)

/-- Only the end of a text is looked at if something stays of it. -/
theorem dropEnd_append_of_exists (h : ∃ c ∈ ds, p c = false) (cs : List Char) :
    dropEnd p (cs ++ ds) = cs ++ dropEnd p ds := by
  obtain ⟨c, hc, hp⟩ := h
  have hne : ds.reverse.dropWhile p ≠ [] := by
    intro hnil
    have := List.dropWhile_eq_nil_iff.mp hnil c (List.mem_reverse.mpr hc)
    rw [hp] at this
    cases this
  rw [dropEnd, List.reverse_append, List.dropWhile_append, if_neg (by simpa using hne),
    List.reverse_append, List.reverse_reverse, dropEnd]

theorem dropEnd_eq_self (h : ∀ c ∈ cs.getLast?, p c = false) : dropEnd p cs = cs := by
  cases hc : cs.getLast? with
  | none => rw [List.getLast?_eq_none_iff.mp hc]; rfl
  | some c =>
    obtain ⟨init, rfl⟩ := List.getLast?_eq_some_iff.mp hc
    simp [dropEnd, h c hc]

theorem head?_dropWhile {c : Char} (h : c ∈ (cs.dropWhile p).head?) : p c = false := by
  have := List.head?_dropWhile_not p cs
  rw [h] at this
  exact this

theorem getLast?_dropEnd {c : Char} (h : c ∈ (dropEnd p cs).getLast?) : p c = false := by
  rw [dropEnd, List.getLast?_reverse] at h
  exact head?_dropWhile h

theorem dropWhile_eq_self (h : ∀ c ∈ cs.head?, p c = false) : cs.dropWhile p = cs := by
  cases cs with
  | nil => rfl
  | cons c cs => rw [List.dropWhile_cons_of_neg (by simpa using h c rfl)]

theorem takeWhile_eq_nil (h : ∀ c ∈ cs.head?, p c = false) : cs.takeWhile p = [] := by
  cases cs with
  | nil => rfl
  | cons c cs => rw [List.takeWhile_cons_of_neg (by simpa using h c rfl)]

theorem dropEnd_cons_of_neg {c : Char} (h : p c = false) (cs : List Char) :
    dropEnd p (c :: cs) = c :: dropEnd p cs := by
  rw [dropEnd, List.reverse_cons, List.dropWhile_append, dropEnd]
  cases hd : cs.reverse.dropWhile p with
  | nil => simp [h]
  | cons a tail => simp

theorem dropWhile_dropEnd (h : ∀ c ∈ cs.head?, p c = false) :
    (dropEnd p cs).dropWhile p = dropEnd p cs := by
  cases cs with
  | nil => rfl
  | cons c cs =>
    have hc := h c rfl
    rw [dropEnd_cons_of_neg hc, List.dropWhile_cons_of_neg (by simp [hc])]

theorem dropEnd_dropEnd (p : Char → Bool) (cs : List Char) :
    dropEnd p (dropEnd p cs) = dropEnd p cs :=
  dropEnd_eq_self fun _ => getLast?_dropEnd

/-- Nothing is taken away just if there is nothing to take away at either end. -/
theorem dropAround_eq_self_iff :
    dropAround p cs = cs ↔ (∀ c ∈ cs.head?, p c = false) ∧ ∀ c ∈ cs.getLast?, p c = false := by
  constructor
  · intro h
    obtain ⟨tail, hend, -⟩ := dropEnd_append_eq p (cs.dropWhile p)
    rw [dropAround] at h
    rw [h] at hend
    have hstart : cs.dropWhile p = cs := by
      refine (List.dropWhile_sublist p).eq_of_length_le ?_
      rw [hend, List.length_append]
      omega
    rw [hstart] at h
    refine ⟨fun c hc => ?_, fun c hc => ?_⟩
    · rw [← hstart] at hc
      exact head?_dropWhile hc
    · rw [← h] at hc
      exact getLast?_dropEnd hc
  · rintro ⟨hhead, hlast⟩
    rw [dropAround, dropWhile_eq_self hhead, dropEnd_eq_self hlast]

theorem infix_dropAround (p : Char → Bool) (cs : List Char) : dropAround p cs <:+: cs := by
  obtain ⟨tail, hend, -⟩ := dropEnd_append_eq p (cs.dropWhile p)
  have hstart : dropAround p cs <+: cs.dropWhile p := ⟨tail, hend.symm⟩
  exact hstart.isInfix.trans (List.dropWhile_suffix p).isInfix

/-! ### Blanks around a text -/

/-- A text that starts and ends with what is not blank. -/
def Firm (cs : List Char) : Prop :=
  cs ≠ [] ∧ (∀ c ∈ cs.head?, isBlank c = false) ∧ ∀ c ∈ cs.getLast?, isBlank c = false

theorem firm_singleton {c : Char} (h : isBlank c = false) : Firm [c] :=
  ⟨by simp, by simp [h], by simp [h]⟩

theorem Firm.append (hc : Firm cs) (hd : Firm ds) (between : List Char) :
    Firm (cs ++ between ++ ds) := by
  obtain ⟨hne, hhead, -⟩ := hc
  obtain ⟨hne', -, hlast⟩ := hd
  refine ⟨by simp [hne], fun c h => hhead c ?_, fun c h => hlast c ?_⟩
  · rwa [List.append_assoc, List.head?_append_of_ne_nil _ hne] at h
  · rwa [List.getLast?_append_of_ne_nil _ hne'] at h

theorem Firm.intercalate {texts : List (List Char)} (h : ∀ t ∈ texts, Firm t) (hne : texts ≠ [])
    (between : List Char) : Firm (between.intercalate texts) := by
  induction texts with
  | nil => exact absurd rfl hne
  | cons t texts ih =>
    have ht := h t List.mem_cons_self
    cases texts with
    | nil => simpa using ht
    | cons t' texts =>
      rw [List.intercalate_cons_cons]
      exact ht.append (ih (fun u hu => h u (List.mem_cons_of_mem _ hu)) (by simp)) between

theorem Firm.dropAround_append (h : Firm cs) (hd : ∀ c ∈ ds, isBlank c = true) :
    dropAround isBlank (cs ++ ds) = cs := by
  obtain ⟨hne, hhead, hlast⟩ := h
  have hstart : ∀ c ∈ (cs ++ ds).head?, isBlank c = false := by
    rwa [List.head?_append_of_ne_nil _ hne]
  rw [dropAround, dropWhile_eq_self hstart, dropEnd_append_of_forall hd, dropEnd_eq_self hlast]

theorem Firm.dropAround_eq (h : Firm cs) : dropAround isBlank cs = cs :=
  dropAround_eq_self_iff.mpr h.2

end Jenkinsfile.Text
