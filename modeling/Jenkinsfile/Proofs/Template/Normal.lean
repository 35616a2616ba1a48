import Jenkinsfile.Proofs.Argument.Normal
import Jenkinsfile.Proofs.Template.Rendering

/-! Normal forms of the values of a task template.  The values of hidden arguments are not checked
but are read all the same; `normalValues_outcome` says that after the checks reading fails just if
one of them should be a JSON text and is none, or should be a text and has a number in it that is too
long to be written. -/

namespace Jenkinsfile

open Failure
open Pattern (CharacterNames)

/-- What the argument is given; nothing is null. -/
def Argument.given (a : Argument) (values : Table Value) : Value := (values.get? a.name).getD .null

namespace TaskTemplate

variable {t : TaskTemplate} {values read m : Table Value} {args : List Argument} {f : Failure}

/-! ### Reading values one after the other -/

/-- Reading fails as the first value does that has no normal form. -/
theorem normalFrom_eq_error_iff :
    normalFrom values read args = .error f ↔ ∃ before a after, args = before ++ a :: after ∧
      (∀ b ∈ before, ∃ w, b.normal Registry.standard (b.given values) = .ok w) ∧
      a.normal Registry.standard (a.given values) = .error f := by
  induction args generalizing read with
  | nil => simp [normalFrom]
  | cons a args ih =>
    rw [normalFrom, ← Argument.given, bind_eq_error]
    constructor
    · rintro (hw | ⟨w, hw, hrest⟩)
      · exact ⟨[], a, args, rfl, by simp, hw⟩
      · obtain ⟨before, b, after, rfl, hbefore, hf⟩ := ih.mp hrest
        exact ⟨a :: before, b, after, rfl, List.forall_mem_cons.mpr ⟨⟨w, hw⟩, hbefore⟩, hf⟩
    · rintro ⟨before, b, after, hargs, hbefore, hf⟩
      cases before with
      | nil =>
        obtain ⟨rfl, -⟩ := List.cons.inj hargs
        exact .inl hf
      | cons c before =>
        obtain ⟨rfl, rfl⟩ := List.cons.inj hargs
        obtain ⟨⟨w, hw⟩, hbefore⟩ := List.forall_mem_cons.mp hbefore
        exact .inr ⟨w, hw, ih.mpr ⟨before, b, after, rfl, hbefore, hf⟩⟩

/-- What is read of arguments with names of their own stands under these names, beside what had been
read before. -/
theorem get?_normalFrom (hn : (args.map Argument.name).Nodup)
    (h : normalFrom values read args = .ok m) :
    (∀ a ∈ args, ∃ w, a.normal Registry.standard (a.given values) = .ok w ∧
      m.get? a.name = some w) ∧
      ∀ key ∉ args.map Argument.name, m.get? key = read.get? key := by
  induction args generalizing read with
  | nil =>
    obtain rfl := Except.ok.inj h
    simp
  | cons a args ih =>
    obtain ⟨w, hw, h⟩ := bind_eq_ok.mp h
    rw [List.map_cons, List.nodup_cons] at hn
    obtain ⟨hargs, hothers⟩ := ih hn.2 h
    constructor
    · rw [List.forall_mem_cons]
      refine ⟨⟨w, hw, ?_⟩, hargs⟩
      rw [hothers _ hn.1, Table.get?_insert_self]
    · intro key hkey
      rw [List.map_cons, List.mem_cons, not_or] at hkey
      rw [hothers key hkey.2, Table.get?_insert_ne _ _ hkey.1]

/-! ### What a body sees -/

theorem names_of_check (h : t.check = .ok ()) : (t.arguments.map Argument.name).Nodup := by
  rw [check, raise_eq_ok_iff] at h
  exact (Argument.names_of_definitionChecks fun c hc => h c (List.mem_append_right _ hc)).1

theorem normalValues_eq_ok (h : t.normalValues values = .ok m) :
    ∃ read, normalFrom values [] t.arguments = .ok read ∧
      ∀ key ≠ systemKey, m.get? key = read.get? key := by
  obtain ⟨read, hread, h⟩ := bind_eq_ok.mp h
  refine ⟨read, hread, fun key hkey => ?_⟩
  split at h
  · obtain rfl := Except.ok.inj h
    rw [Table.get?_insert_ne _ _ hkey]
  · obtain rfl := Except.ok.inj h
    rfl

theorem normalValues_eq_error (h : t.normalValues values = .error f) :
    normalFrom values [] t.arguments = .error f := by
  rcases bind_eq_error.mp h with hread | ⟨read, -, h⟩
  · exact hread
  · split at h <;> cases h

theorem kind_of_check (h : t.check = .ok ()) :
    ∀ a ∈ t.arguments, ∃ k, a.kind Registry.standard = .ok k :=
  fun a ha => (Argument.typed_of_check (arguments_of_check h a ha)).kind

theorem not_garbled_of_checkValues [CharacterNames] (h : t.check = .ok ())
    (hv : t.checkValues values = .ok ()) :
    ∀ a ∈ t.arguments, isShown a.relation values = true →
      ¬ a.Garbled Registry.standard (a.given values) := by
  intro a ha hshown
  have hsound : ∀ b ∈ t.arguments, b.Sound := fun b hb =>
    Argument.sound_of_check (arguments_of_check h b hb)
  rw [checkValues_eq hsound, raise_eq_ok_iff] at hv
  have hcheck := hv _ (List.mem_map_of_mem ha)
  obtain ⟨hshownCheck, -⟩ | ⟨hhidden, -⟩ :=
    (hsound a ha).shownCheck_cases Registry.standard values
  · rw [hshownCheck, if_pos hshown] at hcheck
    exact Argument.not_garbled_of_checkValue hcheck
  · rw [hhidden] at hshown
    cases hshown

/-- What a body sees of an argument is its normal form. -/
theorem get?_normalValues (h : t.check = .ok ()) (hm : t.normalValues values = .ok m) :
    ∀ a ∈ t.arguments, ∃ w, a.normal Registry.standard (a.given values) = .ok w ∧
      (a.name ≠ systemKey → m.get? a.name = some w) := by
  intro a ha
  obtain ⟨read, hread, hothers⟩ := normalValues_eq_ok hm
  obtain ⟨w, hw, hget⟩ := (get?_normalFrom (names_of_check h) hread).1 a ha
  exact ⟨w, hw, fun hname => (hothers _ hname).trans hget⟩

/-- Reading the values fails over a text that is no JSON, or a number that is too long. -/
theorem garbled_of_normalValues (h : t.check = .ok ()) (hf : t.normalValues values = .error f) :
    ∃ a ∈ t.arguments, a.Garbled Registry.standard (a.given values) ∧
      (a.decode (a.given values) = .error f ∨ a.kind Registry.standard = .ok .string ∧
        ¬ (a.given values).Short ∧ f = longNumber) := by
  obtain ⟨before, a, after, hargs, -, hnormal⟩ :=
    normalFrom_eq_error_iff.mp (normalValues_eq_error hf)
  have ha : a ∈ t.arguments := by simp [hargs]
  obtain ⟨k, hk⟩ := kind_of_check h a ha
  refine ⟨a, ha, ?_, Argument.normal_eq_error hk hnormal⟩
  rw [← not_not (a := a.Garbled _ _), ← Argument.exists_normal_iff hk]
  rintro ⟨w, hw⟩
  rw [hw] at hnormal
  cases hnormal

/-- After the checks of a template and of the values given to it, a body sees the normal form of
every argument's value, unless a hidden argument is given a text that should be JSON and is not, or a
number too long to be written where a text is asked for: then rendering fails, as decoding that text
or writing that number does. -/
theorem normalValues_outcome [CharacterNames] (h : t.check = .ok ())
    (hv : t.checkValues values = .ok ()) :
    t.render values = (t.normalValues values >>= Placeholder.interpolate t.body) ∧
      ((∃ m, t.normalValues values = .ok m) ↔
        ∀ a ∈ t.arguments, isShown a.relation values = false →
          ¬ a.Garbled Registry.standard (a.given values)) ∧
      (∀ m, t.normalValues values = .ok m → ∀ a ∈ t.arguments, a.name ≠ systemKey →
        ∃ w, a.normal Registry.standard (a.given values) = .ok w ∧ m.get? a.name = some w) ∧
      ∀ f, t.normalValues values = .error f →
        ∃ a ∈ t.arguments, isShown a.relation values = false ∧
          (a.decode (a.given values) = .error f ∨ a.kind Registry.standard = .ok .string ∧
            ¬ (a.given values).Short ∧ f = longNumber) := by
  have hhidden {a : Argument} (ha : a ∈ t.arguments)
      (hgarbled : a.Garbled Registry.standard (a.given values)) :
      isShown a.relation values = false :=
    Bool.eq_false_iff.mpr fun hshown => not_garbled_of_checkValues h hv a ha hshown hgarbled
  refine ⟨by rw [render, h, hv]; rfl, ⟨?_, ?_⟩, ?_, ?_⟩
  · rintro ⟨m, hm⟩ a ha -
    obtain ⟨k, hk⟩ := kind_of_check h a ha
    obtain ⟨w, hw, -⟩ := get?_normalValues h hm a ha
    exact (Argument.exists_normal_iff hk).mp ⟨w, hw⟩
  · intro hclear
    cases hm : t.normalValues values with
    | ok m => exact ⟨m, rfl⟩
    | error f =>
      obtain ⟨a, ha, hgarbled, -⟩ := garbled_of_normalValues h hm
      exact absurd hgarbled (hclear a ha (hhidden ha hgarbled))
  · intro m hm a ha hname
    obtain ⟨w, hw, hget⟩ := get?_normalValues h hm a ha
    exact ⟨w, hw, hget hname⟩
  · intro f hf
    obtain ⟨a, ha, hgarbled, hreason⟩ := garbled_of_normalValues h hf
    exact ⟨a, ha, hhidden ha hgarbled, hreason⟩

/-- A script with a build tool that is shown for deployments only. -/
def hiddenTool : TaskTemplate where
  engine := ""
  agent := .null
  body := "echo hello"
  arguments :=
    [{ Argument.toolArgument with
      relation := some ⟨[⟨"show", some ⟨"deploy", .bool true, none, none⟩⟩]⟩ }]

section Unnamed

attribute [local instance] CharacterNames.unnamed

theorem normalValues_outcome_hidden :
    hiddenTool.check = .ok () ∧
      hiddenTool.checkValues [("tool", .str Argument.toolText)] = .ok () ∧
      ∃ m, hiddenTool.normalValues [("tool", .str Argument.toolText)] = .ok m := by
  have hcheck : hiddenTool.check = .ok () := rfl
  have hvalues : hiddenTool.checkValues [("tool", .str Argument.toolText)] = .ok () := rfl
  refine ⟨hcheck, hvalues, (normalValues_outcome hcheck hvalues).2.1.mpr ?_⟩
  rintro a ha - hgarbled
  obtain rfl := List.mem_singleton.mp ha
  obtain ⟨hkind, -⟩ | ⟨k, s, e, -, -, hs, hread⟩ := hgarbled
  · cases hkind
  obtain rfl : Argument.toolText = s := Value.str.inj hs
  rw [Argument.read_toolText] at hread
  cases hread

/-- What is no JSON text fails the rendering, though the tool is hidden. -/
theorem render_hiddenTool :
    hiddenTool.check = .ok () ∧
      hiddenTool.checkValues [("tool", .str "not json")] = .ok () ∧
      ∃ f, hiddenTool.normalValues [("tool", .str "not json")] = .error f ∧
        hiddenTool.render [("tool", .str "not json")] = .error f :=
  ⟨rfl, rfl, _, rfl, rfl⟩

end Unnamed

end TaskTemplate

end Jenkinsfile
