import Jenkinsfile.Placeholder
import Jenkinsfile.Proofs.Text.Trim

/-! Bodies written from texts and expressions.  A placeholder starts at the first opening braces and
ends at the first closing braces, whatever stands around it; `interpolate_writeBody` says that the
texts are kept as they are and that each expression is replaced by the text of its value. -/

namespace Jenkinsfile.Placeholder

/-- What every placeholder starts with. -/
def opening : List Char := ['$', '\x7b', '\x7b']

/-- What every placeholder ends with. -/
def closing : List Char := ['\x7d', '\x7d']

/-- An expression as it stands in a body. -/
def write (expr : String) : String := "$\x7b\x7b " ++ expr ++ " \x7d\x7d"

/-- An expression of a body, and the text after it. -/
structure Part where
  expr : String
  after : String

/-- Nothing in the expression ends its placeholder, and nothing in the text starts another one. -/
structure Part.Clear (p : Part) : Prop where
  firm : Text.Firm p.expr.toList
  whole : ¬ closing <:+: p.expr.toList
  plain : ¬ opening <:+: p.after.toList

/-- A body with `start` before its first expression. -/
def writeBody (start : String) (parts : List Part) : String :=
  start ++ String.join (parts.map fun p => write p.expr ++ p.after)

theorem toList_write (expr : String) :
    (write expr).toList = opening ++ ' ' :: (expr.toList ++ ' ' :: closing) := by
  simp [write, opening, closing]

/-! ### The end of a placeholder -/

section Closing

variable {before : List Char}

/-- Where the first closing braces are, only blanks can come before them. -/
theorem closing?_closing (h : ¬ closing <:+: before ++ ['\x7d']) (after : List Char) :
    closing? (before ++ (closing ++ after)) =
      if before.all Text.isBlank then some after else none := by
  unfold closing?
  split_ifs with hall
  · rw [List.dropWhile_append_of_pos (List.all_eq_true.mp hall)]
    rfl
  · have hne : before.dropWhile Text.isBlank ≠ [] := by
      intro hnil
      exact hall (List.all_eq_true.mpr (List.dropWhile_eq_nil_iff.mp hnil))
    have hin : ¬ closing <:+: before.dropWhile Text.isBlank ++ ['\x7d'] := by
      intro hin
      obtain ⟨blanks, hblanks⟩ := List.dropWhile_suffix (l := before) Text.isBlank
      refine h (hin.trans ⟨blanks, [], ?_⟩)
      rw [List.append_nil, ← List.append_assoc, hblanks]
    rw [List.dropWhile_append, if_neg (by simpa using hne)]
    generalize before.dropWhile Text.isBlank = rest at hne hin
    -- Two braces at the start would be the first ones, or one of them and the next brace would.
    match rest with
    | [] => exact absurd rfl hne
    | [a] =>
      split
      · rename_i heq
        obtain ⟨rfl, -⟩ := List.cons.inj heq
        exact absurd (List.infix_refl closing) hin
      · rfl
    | a :: b :: rest =>
      split
      · rename_i heq
        have ha : a = '\x7d' := (List.cons.inj heq).1
        have hb : b = '\x7d' := (List.cons.inj (List.cons.inj heq).2).1
        rw [ha, hb] at hin
        exact absurd (List.prefix_append closing (rest ++ ['\x7d'])).isInfix hin
      · rfl

/-- A placeholder ends at the first closing braces, and the blanks before them are left out. -/
theorem upToClosing?_closing {c : Char} (h : ¬ closing <:+: before ++ ['\x7d'])
    (after : List Char) :
    upToClosing? (c :: (before ++ (closing ++ after))) =
      some (c :: Text.dropEnd Text.isBlank before, after) := by
  induction before generalizing c with
  | nil => rfl
  | cons d before ih =>
    have htail : ¬ closing <:+: before ++ ['\x7d'] := fun hin =>
      h (hin.trans (List.suffix_cons d _).isInfix)
    rw [upToClosing?, closing?_closing h]
    by_cases hall : (d :: before).all Text.isBlank = true
    · have hdrop : Text.dropEnd Text.isBlank (d :: before) = [] := by
        rw [← List.nil_append (d :: before),
          Text.dropEnd_append_of_forall (List.all_eq_true.mp hall)]
        rfl
      rw [if_pos hall, hdrop]
    · have hdrop : Text.dropEnd Text.isBlank (d :: before) =
          d :: Text.dropEnd Text.isBlank before := by
        cases hd : Text.isBlank d with
        | false => exact Text.dropEnd_cons_of_neg hd before
        | true =>
          have hexists : ∃ c ∈ before, Text.isBlank c = false := by simpa [hd] using hall
          exact Text.dropEnd_append_of_exists hexists [d]
      rw [if_neg hall, List.cons_append, ih htail, hdrop]
      rfl

theorem exists_first_closing {cs : List Char} (h : closing <:+: cs) :
    ∃ before after, cs = before ++ (closing ++ after) ∧ ¬ closing <:+: before ++ ['\x7d'] := by
  induction cs with
  | nil => cases List.infix_nil.mp h
  | cons c cs ih =>
    by_cases hprefix : closing <+: c :: cs
    · obtain ⟨after, hafter⟩ := hprefix
      exact ⟨[], after, hafter.symm, by decide⟩
    · obtain ⟨before, after, rfl, hfirst⟩ := ih ((List.infix_cons_iff.mp h).resolve_left hprefix)
      refine ⟨c :: before, after, rfl, fun hin => ?_⟩
      rcases List.infix_cons_iff.mp hin with hstart | hin
      · refine hprefix (hstart.trans ⟨'\x7d' :: after, ?_⟩)
        simp [closing]
      · exact hfirst hin

/-- A placeholder whose expression does not start with a blank starts with that expression, up to the
first closing braces. -/
theorem inside?_closing (hne : before ≠ []) (hhead : ∀ c ∈ before.head?, Text.isBlank c = false)
    (h : ¬ closing <:+: before ++ ['\x7d']) (after : List Char) :
    inside? (' ' :: (before ++ (closing ++ after))) =
      some (Text.dropEnd Text.isBlank before, after) := by
  obtain ⟨c, before, rfl⟩ := List.exists_cons_of_ne_nil hne
  have hc : Text.isBlank c = false := hhead c rfl
  have htail : ¬ closing <:+: before ++ ['\x7d'] := fun hin =>
    h (hin.trans (List.suffix_cons c _).isInfix)
  have hdrop : (' ' :: (c :: before ++ (closing ++ after))).dropWhile Text.isBlank =
      c :: (before ++ (closing ++ after)) := by
    rw [List.dropWhile_cons_of_pos (by rfl), List.cons_append,
      List.dropWhile_cons_of_neg (by simp [hc])]
  simp only [inside?, hdrop, upToClosing?_closing htail, Text.dropEnd_cons_of_neg hc]

end Closing

/-! ### The pieces of a body -/

section Pieces

variable {cs : List Char}

theorem pieces_opening {body expr rest : List Char} (h : inside? body = some (expr, rest)) :
    pieces (opening ++ body) = .expression expr :: pieces rest := by
  have hopening : afterOpening? ('$' :: '\x7b' :: '\x7b' :: body) = some body := rfl
  rw [opening]
  simp only [List.cons_append, List.nil_append]
  rw [pieces]
  split
  · rename_i hnone
    rw [hopening] at hnone
    cases hnone
  · rename_i body' hsome
    rw [hopening] at hsome
    cases hsome
    split
    · rename_i hnone
      rw [h] at hnone
      cases hnone
    · rename_i hsome
      rw [h] at hsome
      cases hsome
      rfl

theorem pieces_write (h : Text.Firm cs) (hclosing : ¬ closing <:+: cs) (rest : List Char) :
    pieces (opening ++ ' ' :: (cs ++ ' ' :: (closing ++ rest))) =
      .expression cs :: pieces rest := by
  obtain ⟨hne, hhead, hlast⟩ := h
  have hfirst : ¬ closing <:+: cs ++ [' '] ++ ['\x7d'] := by
    rw [List.infix_concat_iff, List.infix_concat_iff]
    rintro (⟨before, hends⟩ | ⟨before, hends⟩ | hin)
    · rw [List.append_assoc] at hends
      cases List.append_inj_right' hends rfl
    · have hends : before ++ ['\x7d'] ++ ['\x7d'] = cs ++ [' '] := by simpa [closing] using hends
      cases List.append_inj_right' hends rfl
    · exact hclosing hin
  have hstart : ∀ c ∈ (cs ++ [' ']).head?, Text.isBlank c = false := by
    rwa [List.head?_append_of_ne_nil _ hne]
  have hinside := inside?_closing (by simp) hstart hfirst rest
  have hblank : ∀ c ∈ [' '], Text.isBlank c = true := List.forall_mem_singleton.mpr rfl
  rw [Text.dropEnd_append_of_forall hblank, Text.dropEnd_eq_self hlast, List.append_assoc]
    at hinside
  exact pieces_opening hinside

theorem eq_append_of_afterOpening {rest : List Char} (h : afterOpening? cs = some rest) :
    cs = opening ++ rest := by
  unfold afterOpening? at h
  split at h
  · cases h
    rfl
  · cases h

/-- A text without opening braces does not come to have some by what follows it, if that starts with
a dollar sign itself. -/
theorem afterOpening?_append {c : Char} (h : ¬ opening <:+: c :: cs) {rest : List Char}
    (hrest : ∀ c ∈ rest.head?, c = '$') : afterOpening? (c :: cs ++ rest) = none := by
  cases hafter : afterOpening? (c :: cs ++ rest) with
  | none => rfl
  | some body =>
    exfalso
    have heq : c :: (cs ++ rest) = '$' :: '\x7b' :: '\x7b' :: body := eq_append_of_afterOpening hafter
    obtain ⟨hc, hcs⟩ := List.cons.inj heq
    match cs with
    | [] =>
      have hstart : rest = '\x7b' :: '\x7b' :: body := hcs
      cases hrest '\x7b' (by rw [hstart]; rfl)
    | [d] =>
      have hstart : rest = '\x7b' :: body := (List.cons.inj hcs).2
      cases hrest '\x7b' (by rw [hstart]; rfl)
    | d :: e :: cs =>
      obtain ⟨hd, hcs⟩ := List.cons.inj hcs
      obtain ⟨he, -⟩ := List.cons.inj hcs
      rw [hc, hd, he] at h
      exact h (List.prefix_append opening cs).isInfix

/-- Text without opening braces is kept, also before opening braces. -/
theorem pieces_literal (h : ¬ opening <:+: cs) {rest : List Char}
    (hrest : ∀ c ∈ rest.head?, c = '$') :
    pieces (cs ++ rest) = cs.map .literal ++ pieces rest := by
  induction cs with
  | nil => rfl
  | cons c cs ih =>
    have htail : ¬ opening <:+: cs := fun hin => h (hin.trans (List.suffix_cons c cs).isInfix)
    have hnone := afterOpening?_append h hrest
    rw [List.cons_append] at hnone
    rw [List.cons_append, pieces]
    split
    · rw [ih htail]
      rfl
    · rename_i hsome
      rw [hnone] at hsome
      cases hsome

end Pieces

/-! ### Filling in -/

section Filling

variable {context : Table Value}

theorem fillAll_literal (cs : List Char) (ps : List Piece) :
    fillAll context (cs.map .literal ++ ps) = (fillAll context ps).map (cs ++ ·) := by
  induction cs with
  | nil =>
    rw [List.map_nil, List.nil_append]
    cases fillAll context ps with
    | error f => rfl
    | ok text => rfl
  | cons c cs ih =>
    rw [List.map_cons, List.cons_append, fillAll, ih]
    cases fillAll context ps with
    | error f => rfl
    | ok text => rfl

theorem fillAll_expression (expr : List Char) (ps : List Piece) :
    fillAll context (.expression expr :: ps) =
      (valueText context (.ofList expr)).bind fun text =>
        (fillAll context ps).map (text.toList ++ ·) := by
  rw [fillAll, Piece.fill]
  cases valueText context (.ofList expr) with
  | error f => rfl
  | ok text =>
    cases fillAll context ps with
    | error f => rfl
    | ok rest => rfl

/-- The texts of the values of expressions, each with the text after it, or the failure of the first
expression whose value or text is missing. -/
def fillParts (context : Table Value) (parts : List Part) : Except Failure (List String) :=
  parts.mapM fun p => do
    let text ← valueText context p.expr
    pure (text ++ p.after)

theorem fillParts_cons (p : Part) (parts : List Part) :
    fillParts context (p :: parts) =
      (valueText context p.expr).bind fun text =>
        (fillParts context parts).map ((text ++ p.after) :: ·) := by
  rw [fillParts, List.mapM_cons]
  cases valueText context p.expr with
  | error f => rfl
  | ok text => rfl

/-- The characters of a body after its start. -/
def partChars (parts : List Part) : List Char :=
  parts.flatMap fun p => opening ++ ' ' :: (p.expr.toList ++ ' ' :: (closing ++ p.after.toList))

theorem toList_writeBody (start : String) (parts : List Part) :
    (writeBody start parts).toList = start.toList ++ partChars parts := by
  simp [writeBody, partChars, write, opening, closing, List.flatMap_map]

theorem head?_partChars (parts : List Part) : ∀ c ∈ (partChars parts).head?, c = '$' := by
  cases parts with
  | nil => simp [partChars]
  | cons p parts => simp [partChars, opening]

theorem fillAll_partChars {parts : List Part} (h : ∀ p ∈ parts, p.Clear) :
    fillAll context (pieces (partChars parts)) =
      (fillParts context parts).map (·.flatMap String.toList) := by
  induction parts with
  | nil =>
    rw [partChars, List.flatMap_nil, pieces]
    rfl
  | cons p parts ih =>
    obtain ⟨hp, hparts⟩ := List.forall_mem_cons.mp h
    have hchars : partChars (p :: parts) =
        opening ++ ' ' :: (p.expr.toList ++ ' ' ::
          (closing ++ (p.after.toList ++ partChars parts))) := by
      simp [partChars]
    rw [hchars, pieces_write hp.firm hp.whole, pieces_literal hp.plain (head?_partChars parts),
      fillAll_expression, fillAll_literal, ih hparts, fillParts_cons, String.ofList_toList]
    cases valueText context p.expr with
    | error f => rfl
    | ok text =>
      cases fillParts context parts with
      | error f => rfl
      | ok texts => simp [Except.bind, Except.map]

end Filling

/-- The texts of a body are kept as they are, and each expression gives way to the text of its value,
in which no more expressions are looked for.  A body with an expression that fails ends as the first
such expression does. -/
theorem interpolate_writeBody {start : String} {parts : List Part}
    (hstart : ¬ opening <:+: start.toList) (hparts : ∀ p ∈ parts, p.Clear)
    (context : Table Value) :
    interpolate (writeBody start parts) context =
      (fillParts context parts).map fun texts => start ++ String.join texts := by
  rw [interpolate, toList_writeBody, pieces_literal hstart (head?_partChars parts),
    fillAll_literal, fillAll_partChars hparts]
  cases fillParts context parts with
  | error f => rfl
  | ok texts =>
    have htexts : String.ofList (start.toList ++ texts.flatMap String.toList) =
        start ++ String.join texts := by
      rw [← String.toList_inj]
      simp
    exact congrArg Except.ok htexts

/-- Two expressions among dollar signs and braces. -/
def nearBraces : List Part :=
  [⟨"tag | index(0)", "\x7d $\x7bVAR\x7d $"⟩, ⟨"cmd", "\x7d $\x7b"⟩]

/-- The second value looks like a placeholder itself. -/
theorem interpolate_writeBody_nearBraces :
    writeBody "$\x7b" nearBraces =
        "$\x7b$\x7b\x7b tag | index(0) \x7d\x7d\x7d $\x7bVAR\x7d $$\x7b\x7b cmd \x7d\x7d\x7d $\x7b" ∧
      interpolate (writeBody "$\x7b" nearBraces)
          [("tag", .str "v1"), ("cmd", .str "$\x7b\x7b tag \x7d\x7d")] =
        .ok "$\x7bv\x7d $\x7bVAR\x7d $$\x7b\x7b tag \x7d\x7d\x7d $\x7b" := by
  have hclear : ∀ p ∈ nearBraces, p.Clear := by
    intro p hp
    rcases List.mem_pair.mp hp with rfl | rfl
    · exact ⟨⟨by decide, Text.dropAround_eq_self_iff.mp (by decide)⟩, by decide +kernel,
        by decide +kernel⟩
    · exact ⟨⟨by decide, Text.dropAround_eq_self_iff.mp (by decide)⟩, by decide +kernel,
        by decide +kernel⟩
  have hfill : fillParts [("tag", .str "v1"), ("cmd", .str "$\x7b\x7b tag \x7d\x7d")] nearBraces =
      .ok ["v\x7d $\x7bVAR\x7d $", "$\x7b\x7b tag \x7d\x7d\x7d $\x7b"] := by
    with_unfolding_all rfl
  refine ⟨by decide, ?_⟩
  rw [interpolate_writeBody (by decide +kernel) hclear, hfill]
  rfl

end Jenkinsfile.Placeholder
