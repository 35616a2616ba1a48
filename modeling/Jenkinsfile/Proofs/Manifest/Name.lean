import Jenkinsfile.Manifest.Check
import Jenkinsfile.Pattern.Reader
import Jenkinsfile.Proofs.Pattern.Run
import Mathlib

/-! Names of templates.  The pattern of names matches the names of the documented form, and each of
them with one line feed after it, before which the pattern can end as well
(`matchesNameForm_iff`).  `envelopeErrors_name_iff` says when a manifest is told of its name. -/

namespace Jenkinsfile

open Pattern

/-- Whether `c` is one of the letters from A to Z, in either case. -/
def isLetter (c : Char) : Bool := ('a' ≤ c && c ≤ 'z') || ('A' ≤ c && c ≤ 'Z')

/-- Whether `c` is one of those letters or one of the ten digits. -/
def isLetterOrDigit (c : Char) : Bool := isLetter c || ('0' ≤ c && c ≤ '9')

/-- A text of letters, digits and hyphens, of which a letter is the first and no hyphen the last. -/
structure IsName (cs : List Char) : Prop where
  chars : ∀ c ∈ cs, isLetterOrDigit c = true ∨ c = '-'
  first : ∃ c ∈ cs.head?, isLetter c = true
  last : '-' ∉ cs.getLast?

/-- A name, and after it nothing or a line feed. -/
def IsNameLine (cs : List Char) : Prop :=
  ∃ name tail, cs = name ++ tail ∧ IsName name ∧ (tail = [] ∨ tail = ['\n'])

theorem isLetterOrDigit_of_isLetter {c : Char} (h : isLetter c = true) :
    isLetterOrDigit c = true := by
  rw [isLetterOrDigit, h, Bool.true_or]

/-- A name is a letter, and after it nothing or a stretch that does not end in a hyphen. -/
theorem isName_cons_iff {c : Char} {cs : List Char} :
    IsName (c :: cs) ↔ isLetter c = true ∧ (cs = [] ∨ ∃ taken d, cs = taken ++ [d] ∧
      (∀ x ∈ taken, isLetterOrDigit x = true ∨ x = '-') ∧ isLetterOrDigit d = true) := by
  constructor
  · intro ⟨hchars, hfirst, hlast⟩
    refine ⟨by simpa using hfirst, ?_⟩
    rcases List.eq_nil_or_concat cs with hnil | ⟨taken, d, hcs⟩
    · exact .inl hnil
    · rw [List.concat_eq_append] at hcs
      subst hcs
      refine .inr ⟨taken, d, rfl, fun x hx => hchars x (by simp [hx]), ?_⟩
      refine (hchars d (by simp)).resolve_right ?_
      rintro rfl
      exact hlast (by rw [← List.cons_append, List.getLast?_concat]; rfl)
  · rintro ⟨hc, rfl | ⟨taken, d, rfl, htaken, hd⟩⟩
    · refine ⟨?_, ⟨c, rfl, hc⟩, ?_⟩
      · simp [isLetterOrDigit_of_isLetter hc]
      · rintro ⟨⟩
        exact absurd hc (by decide)
    · refine ⟨?_, ⟨c, rfl, hc⟩, ?_⟩
      · simp only [List.mem_cons, List.mem_append, List.not_mem_nil, or_false]
        rintro x (rfl | hx | rfl)
        · exact .inl (isLetterOrDigit_of_isLetter hc)
        · exact htaken x hx
        · exact .inl hd
      · rw [← List.cons_append, List.getLast?_concat]
        rintro ⟨⟩
        exact absurd hd (by decide)

theorem not_isName_nil : ¬ IsName [] := by
  rintro ⟨-, ⟨c, hc, -⟩, -⟩
  cases hc

/-! ### The pattern -/

/-- The pattern of names as it is read. -/
def namePattern : Pattern.Expr :=
  let letters := [SetItem.range 0x61 0x7a, .range 0x41 0x5a]
  let lettersAndDigits := letters ++ [.range 0x30 0x39]
  ⟨.none, .sequence [.anchor .lineStart, .atom (.set false letters),
    .loop 0 (some 1) .greedy (.group 1 (.sequence
      [.loop 0 none .greedy (.atom (.set false (.one 0x2d :: lettersAndDigits))),
        .atom (.set false lettersAndDigits)])),
    .anchor .lineFinish]⟩

theorem read_nameForm [CharacterNames] : Pattern.read nameForm = .ok namePattern := by
  cbv

theorem holds_letters_iff {c : Char} :
    (Atom.set false [.range 0x61 0x7a, .range 0x41 0x5a]).holds .none c = true ↔
      isLetter c = true := by
  simp [Atom.holds, SetItem.holds, isLetter, Flags.none, Char.le_def, UInt32.le_iff_toNat_le]

theorem holds_lettersAndDigits_iff {c : Char} :
    (Atom.set false [.range 0x61 0x7a, .range 0x41 0x5a, .range 0x30 0x39]).holds .none c = true ↔
      isLetterOrDigit c = true := by
  simp [Atom.holds, SetItem.holds, isLetterOrDigit, isLetter, or_assoc, Flags.none, Char.le_def,
    UInt32.le_iff_toNat_le]

theorem holds_nameChars_iff {c : Char} :
    (Atom.set false [.one 0x2d, .range 0x61 0x7a, .range 0x41 0x5a, .range 0x30 0x39]).holds .none c =
      true ↔ isLetterOrDigit c = true ∨ c = '-' := by
  have hhyphen : c.toNat = 0x2d ↔ c = '-' := by
    rw [← Char.toNat_inj]
    rfl
  rw [← holds_lettersAndDigits_iff, or_comm]
  simp [Atom.holds, SetItem.holds, hhyphen, Flags.none]

/-- The pattern matches a name, and a name before a line feed. -/
theorem startsText_namePattern_iff {name : String} :
    namePattern.startsText name = true ↔ IsNameLine name.toList := by
  have hline : Flags.none.multiline = false := rfl
  rw [namePattern, Expr.startsText, run_anchored hline]
  simp only [List.isEmpty_nil, if_true, runAll, run_atom_iff, run_optional_iff, run_group_sequence,
    run_loop_atom_iff, run_lineFinish_iff hline, Cursor.after_pass, Cursor.after_capture,
    List.cons_append, List.nil_append, holds_letters_iff, holds_lettersAndDigits_iff,
    holds_nameChars_iff, Option.isSome_some, and_true]
  constructor
  · rintro ⟨c, cs, hname, hc, ⟨taken, rest, rfl, htaken, d, tail, rfl, hd, htail⟩ | htail⟩
    · refine ⟨c :: (taken ++ [d]), tail, by simp [hname], ?_, htail⟩
      exact isName_cons_iff.mpr ⟨hc, .inr ⟨taken, d, rfl, htaken, hd⟩⟩
    · exact ⟨[c], cs, hname, isName_cons_iff.mpr ⟨hc, .inl rfl⟩, htail⟩
  · rintro ⟨cs, tail, hname, hcs, htail⟩
    cases cs with
    | nil => exact absurd hcs not_isName_nil
    | cons c cs =>
      obtain ⟨hc, hcs⟩ := isName_cons_iff.mp hcs
      refine ⟨c, cs ++ tail, hname, hc, ?_⟩
      rcases hcs with rfl | ⟨taken, d, rfl, htaken, hd⟩
      · exact .inr htail
      · exact .inl ⟨taken, d :: tail, by simp, htaken, d, tail, rfl, hd, htail⟩

theorem matchesNameForm_iff {name : String} :
    matchesNameForm name = true ↔ IsNameLine name.toList := by
  rw [matchesNameForm, @read_nameForm .unnamed]
  exact startsText_namePattern_iff

/-- The pattern is found in a text only where it matches it. -/
theorem search_namePattern_iff {name : String} :
    namePattern.search name = true ↔ IsNameLine name.toList := by
  rw [← startsText_namePattern_iff]
  exact iff_of_eq (congrArg (· = true) (search_anchored rfl _ name))

/-! ### Errors of an envelope -/

/-- Whether an error says that a manifest has nothing that could have a name, or is about the name. -/
def Error.ConcernsName (e : Error) : Prop :=
  e = .definition "metadata is required" ∨
    ∃ r, e = .report r ∧ "metadata.name".toList <+: r.message.toList

theorem not_concernsName {message : String}
    (hmissing : message.toList ≠ "metadata is required".toList)
    (hname : ¬ "metadata.name".toList <+: message.toList) :
    ¬ (Error.definition message).ConcernsName := by
  rintro (heq | ⟨r, heq, hprefix⟩)
  · simp only [Error.definition, Error.report.injEq, Report.mk.injEq, true_and, and_true] at heq
    exact hmissing (congrArg String.toList heq)
  · obtain rfl := Error.report.inj heq
    exact hname hprefix

theorem not_concernsName_of_mem {e : Error} {message : String}
    (hmissing : message.toList ≠ "metadata is required".toList)
    (hname : ¬ "metadata.name".toList <+: message.toList) (h : e ∈ [Error.definition message]) :
    ¬ e.ConcernsName := by
  rw [List.mem_singleton.mp h]
  exact not_concernsName hmissing hname

namespace Metadata

variable {d : Metadata} {e : Error}

theorem mem_nameErrors_iff :
    e ∈ d.nameErrors ↔ ¬ IsNameLine d.name.toList ∧
      e = .definition ("metadata.name `" ++ d.name ++ "` is invalid, it should match " ++ nameForm) := by
  rw [nameErrors, ← matchesNameForm_iff]
  split <;> simp [*]

theorem not_concernsName_of_annotation (h : e ∈ d.annotationErrors) : ¬ e.ConcernsName := by
  obtain ⟨key, -, rfl⟩ := List.mem_map.mp h
  exact not_concernsName (by simp) (by simp)

theorem not_concernsName_of_version (h : e ∈ d.versionErrors) : ¬ e.ConcernsName := by
  rw [versionErrors] at h
  split at h
  · cases h
  · cases h
  · exact not_concernsName_of_mem (by simp) (by simp) h

end Metadata

namespace Manifest

variable {m : Manifest} {e : Error}

/-- The errors that concern the name are those of the metadata. -/
theorem mem_envelopeErrors_iff (he : e.ConcernsName) :
    e ∈ m.envelopeErrors ↔ m.metadata = none ∧ e = .definition "metadata is required" ∨
      ∃ d, m.metadata = some d ∧ e ∈ d.nameErrors := by
  simp only [envelopeErrors, List.mem_append]
  constructor
  · rintro (((h | h) | h) | h)
    · -- of the version of the envelope
      split at h
      · cases h
      · exact absurd he (not_concernsName_of_mem (by simp) (by simp) h)
    · -- of the kind
      split at h
      · cases h
      · exact absurd he (not_concernsName_of_mem (by simp) (by simp) h)
    · -- of the template
      split at h
      · exact absurd he (not_concernsName_of_mem (by simp) (by simp) h)
      · cases h
    · cases hm : m.metadata with
      | none =>
        rw [hm] at h
        exact .inl ⟨rfl, List.mem_singleton.mp h⟩
      | some d =>
        simp only [hm, List.mem_append] at h
        rcases h with (h | h) | h
        · exact .inr ⟨d, rfl, h⟩
        · exact absurd he (Metadata.not_concernsName_of_annotation h)
        · exact absurd he (Metadata.not_concernsName_of_version h)
  · rintro (⟨hm, rfl⟩ | ⟨d, hm, h⟩)
    · simp [hm]
    · simp [hm, h]

/-- A manifest is told of its name unless it has metadata with a name, or a name and a line feed
after it.  The one error that tells of it is that of the missing metadata or that of the name, and
the texts without this error are those in which its pattern is found. -/
theorem envelopeErrors_name_iff (m : Manifest) :
    ((∀ e ∈ m.envelopeErrors, ¬ e.ConcernsName) ↔
        ∃ d, m.metadata = some d ∧ IsNameLine d.name.toList) ∧
      (∀ e ∈ m.envelopeErrors, e.ConcernsName →
        m.metadata = none ∧ e = .definition "metadata is required" ∨
          ∃ d, m.metadata = some d ∧ e = .definition
            ("metadata.name `" ++ d.name ++ "` is invalid, it should match " ++ nameForm)) ∧
      ∀ [CharacterNames], ∃ pattern, Pattern.read nameForm = .ok pattern ∧
        ∀ name, pattern.search name = true ↔ IsNameLine name.toList := by
  refine ⟨?_, ?_, ⟨namePattern, read_nameForm, fun name => search_namePattern_iff⟩⟩
  · constructor
    · intro h
      cases hm : m.metadata with
      | none =>
        have hmissing : (Error.definition "metadata is required").ConcernsName := .inl rfl
        exact absurd hmissing (h _ ((mem_envelopeErrors_iff hmissing).mpr (.inl ⟨hm, rfl⟩)))
      | some d =>
        refine ⟨d, rfl, Classical.byContradiction fun hname => ?_⟩
        have hconcerns : (Error.definition ("metadata.name `" ++ d.name ++
            "` is invalid, it should match " ++ nameForm)).ConcernsName :=
          .inr ⟨_, rfl, by simp⟩
        exact h _ ((mem_envelopeErrors_iff hconcerns).mpr
          (.inr ⟨d, hm, Metadata.mem_nameErrors_iff.mpr ⟨hname, rfl⟩⟩)) hconcerns
    · rintro ⟨d, hm, hname⟩ e he hconcerns
      obtain ⟨hnone, -⟩ | ⟨d', hsome, herror⟩ := (mem_envelopeErrors_iff hconcerns).mp he
      · rw [hm] at hnone
        cases hnone
      · obtain rfl : d = d' := Option.some.inj (hm.symm.trans hsome)
        exact (Metadata.mem_nameErrors_iff.mp herror).1 hname
  · intro e he hconcerns
    obtain hmissing | ⟨d, hm, herror⟩ := (mem_envelopeErrors_iff hconcerns).mp he
    · exact .inl hmissing
    · exact .inr ⟨d, hm, (Metadata.mem_nameErrors_iff.mp herror).2⟩

/-- A task template whose name is followed by a line feed. -/
def lineFeedManifest : Manifest where
  apiVersion := Jenkinsfile.apiVersion
  kind := TemplateKind.task.label
  metadata := some
    { name := "shell\n"
      space := ""
      labels := []
      annotations := [("pipegen.io/displayName.zh-CN", "脚本"), ("pipegen.io/displayName.en", "Shell"),
        ("pipegen.io/version", "v1.0.0")] }
  spec := some [("body", .str "echo hi")]
  data := none
  status := none

/-- The line feed is no part of a name, and nothing is found wrong with it. -/
theorem envelopeErrors_lineFeedManifest :
    lineFeedManifest.envelopeErrors = [] ∧ ¬ IsName lineFeedManifest.name.toList := by
  refine ⟨by cbv, fun h => ?_⟩
  rcases h.chars '\n' (by decide) with hc | hc <;> exact absurd hc (by decide)

end Manifest

end Jenkinsfile
