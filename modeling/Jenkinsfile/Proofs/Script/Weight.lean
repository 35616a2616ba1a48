import Jenkinsfile.Proofs.Script.Escape
import Jenkinsfile.Proofs.Script.Mode
import Jenkinsfile.Proofs.Text.Lines

/-! Texts that leave the scan in code, with the number of braces that stay open in them.  Such texts
can be put together (`Weighs.append`), put on an indented line as a block (`Weighs.block`), and be
made from values between double quotes and from texts that are complete in themselves. -/

namespace Jenkinsfile.Script

theorem Reading.after_add (m : Mode) (d n : Int) (cs : List Char) :
    Reading.after ⟨m, d + n⟩ cs =
      ⟨(Reading.after ⟨m, n⟩ cs).mode, d + (Reading.after ⟨m, n⟩ cs).depth⟩ := by
  induction cs generalizing m n with
  | nil => rfl
  | cons c cs ih => rw [after_cons, after_cons, next, next, Int.add_assoc, ih]

theorem ne_mark {c : Char} (h : QuoteMark.ofChar? c = none) (q : QuoteMark) : c ≠ q.char := by
  rintro rfl
  rw [QuoteMark.ofChar?_eq_some.mpr rfl] at h
  cases h

/-- Read as code, the text ends in code, with `n` more braces open than before. -/
def Weighs (cs : List Char) (n : Int) : Prop :=
  ∀ d, Reading.after ⟨.code false, d⟩ cs = ⟨.code false, d + n⟩

theorem weighs_of_after {cs : List Char} {n : Int}
    (h : Reading.after ⟨.code false, 0⟩ cs = ⟨.code false, n⟩) : Weighs cs n := by
  intro d
  have hadd := Reading.after_add (.code false) d 0 cs
  rwa [h, Int.add_zero] at hadd

theorem Weighs.append {cs ds : List Char} {m n : Int} (hc : Weighs cs m) (hd : Weighs ds n) :
    Weighs (cs ++ ds) (m + n) := by
  intro d
  rw [Reading.after_append, hc, hd, Int.add_assoc]

theorem Weighs.flatMap {α : Type} {l : List α} {f : α → List Char} (h : ∀ a ∈ l, Weighs (f a) 0) :
    Weighs (l.flatMap f) 0 := by
  induction l with
  | nil => exact weighs_of_after rfl
  | cons a l ih =>
    rw [List.flatMap_cons]
    exact (h a List.mem_cons_self).append (ih fun b hb => h b (List.mem_cons_of_mem _ hb))

/-- A text that is complete in itself, before a character that is no mark. -/
theorem SelfContained.weighs {cs : List Char} (h : SelfContained cs) {c : Char}
    (hq : QuoteMark.ofChar? c = none) (hb : c ≠ '\\') : Weighs (cs ++ [c]) (braceWeight c) := by
  apply weighs_of_after
  have hend := selfContained_iff.mp h
  rw [Reading.after_append]
  generalize Reading.after ⟨.code false, 0⟩ cs = r at hend
  obtain ⟨m, n⟩ := r
  obtain ⟨hm, rfl⟩ : m.inCode = true ∧ n = 0 := by simpa [Reading.outcome] using hend
  have hcode (e : Bool) : codeNext e c = .code false := by
    rw [codeNext, hq, escapes_eq_false hb]
  cases m with
  | code e => simp [Reading.next, Mode.next, Mode.inCode, hcode]
  | emptied q => simp [Reading.next, Mode.next, Mode.inCode, hcode, ne_mark hq q]
  | opened | inside | insideTriple => cases hm

theorem Weighs.selfContained {cs : List Char} (h : Weighs cs 0) : SelfContained cs := by
  rw [selfContained_iff, h 0]
  rfl

/-! ### Literals -/

/-- The text inside a literal of one mark before the mark that closes it. -/
def Enclosed (q : QuoteMark) (cs : List Char) : Prop :=
  cs.head? ≠ some q.char ∧ ∀ d, Reading.after ⟨.inside q false, d⟩ cs = ⟨.inside q false, d⟩

theorem weighs_literal {q : QuoteMark} {cs : List Char} (h : Enclosed q cs) {c : Char}
    (hq : QuoteMark.ofChar? c = none) (hb : c ≠ '\\') :
    Weighs (q.char :: cs ++ [q.char, c]) (braceWeight c) := by
  intro d
  have hmark : QuoteMark.ofChar? q.char = some q := QuoteMark.ofChar?_eq_some.mpr rfl
  have hopen : Reading.next ⟨.code false, d⟩ q.char = ⟨.opened q, d⟩ := by
    simp [Reading.next, Mode.next, Mode.inCode, codeNext, hmark, braceWeight_char]
  rw [List.cons_append, Reading.after_cons, hopen]
  obtain ⟨hhead, hbody⟩ := h
  cases cs with
  | nil =>
    simp [Reading.next, Mode.next, Mode.inCode, ne_mark hq q, codeNext, hq, escapes_eq_false hb]
  | cons a cs =>
    have ha : a ≠ q.char := by simpa using hhead
    have hstart : Reading.after ⟨.opened q, d⟩ (a :: cs) =
        Reading.after ⟨.inside q false, d⟩ (a :: cs) := by
      simp [Reading.next, Mode.next, Mode.inCode, ha]
    rw [Reading.after_append, hstart, hbody]
    simp [Reading.next, Mode.next, Mode.inCode, codeNext, hq, escapes_eq_false hb]

theorem enclosed_of_forall {q : QuoteMark} {cs : List Char}
    (h : ∀ c ∈ cs, c ≠ q.char ∧ c ≠ '\\') : Enclosed q cs := by
  refine ⟨fun hh => (h _ (List.mem_of_head? hh)).1 rfl, fun d => ?_⟩
  induction cs with
  | nil => rfl
  | cons c cs ih =>
    obtain ⟨hq, hb⟩ := h c List.mem_cons_self
    have hnext : Reading.next ⟨.inside q false, d⟩ c = ⟨.inside q false, d⟩ := by
      simp [Reading.next, Mode.next, Mode.inCode, hq, escapes_eq_false hb]
    rw [Reading.after_cons, hnext, ih fun a ha => h a (List.mem_cons_of_mem _ ha)]

theorem enclosed_escape (text : String) : Enclosed .double (escape text).toList := by
  rw [toList_escape]
  have hchar (c : Char) (d : Int) :
      Reading.after ⟨.inside .double false, d⟩ (escapeLiteral c) = ⟨.inside .double false, d⟩ := by
    rw [escapeLiteral]
    split
    · simp [Reading.next, Mode.next, Mode.inCode, QuoteMark.char, escapes]
    · rename_i hc
      obtain ⟨hb, hq⟩ : c ≠ '\\' ∧ c ≠ '"' := by simpa using hc
      simp [Reading.next, Mode.next, Mode.inCode, QuoteMark.char, escapes, hb, hq]
  generalize text.toList = cs
  constructor
  · intro hh
    cases cs with
    | nil => simp at hh
    | cons c cs =>
      rw [List.flatMap_cons, escapeLiteral] at hh
      split at hh
      · simp [QuoteMark.char] at hh
      · rename_i hc
        simp_all [QuoteMark.char]
  · intro d
    induction cs with
    | nil => rfl
    | cons c cs ih => rw [List.flatMap_cons, Reading.after_append, hchar, ih]

/-! ### Blanks and blocks -/

/-- Two texts that the scan cannot tell from each other, whatever comes before and after. -/
def Alike (cs ds : List Char) : Prop := ∀ r, Reading.after r cs = Reading.after r ds

namespace Alike

variable {cs ds es : List Char}

theorem refl (cs : List Char) : Alike cs cs := fun _ => rfl

theorem trans (h : Alike cs ds) (h' : Alike ds es) : Alike cs es := fun r => (h r).trans (h' r)

theorem symm (h : Alike cs ds) : Alike ds cs := fun r => (h r).symm

theorem append_left (cs : List Char) (h : Alike ds es) : Alike (cs ++ ds) (cs ++ es) := by
  intro r
  rw [Reading.after_append, Reading.after_append, h]

theorem append_right (h : Alike cs ds) (es : List Char) : Alike (cs ++ es) (ds ++ es) := by
  intro r
  rw [Reading.after_append, Reading.after_append, h]

end Alike

/-- The mode after a blank. -/
def Mode.paused : Mode → Mode
  | .code _ | .emptied _ => .code false
  | .opened q | .inside q _ => .inside q false
  | .insideTriple q _ _ => .insideTriple q false 0

theorem next_blank {c : Char} (h : Text.isBlank c = true) (r : Reading) :
    r.next c = ⟨r.mode.paused, r.depth⟩ := by
  have hq := not_mark_of_isBlank h
  have hweight : braceWeight c = 0 := by
    rw [braceWeight, if_neg, if_neg] <;> (rintro rfl; cases h)
  obtain ⟨m, d⟩ := r
  cases m <;>
    simp [Reading.next, Mode.next, Mode.paused, Mode.inCode, codeNext, hq, ne_mark hq, hweight,
      escapes_blank h]

/-- Some blanks, one at least. -/
def Blanks (bs : List Char) : Prop := bs.all Text.isBlank = true ∧ bs ≠ []

theorem Blanks.append {bs cs : List Char} (h : Blanks bs) (hc : cs.all Text.isBlank = true) :
    Blanks (bs ++ cs) := by
  refine ⟨by rw [List.all_append, h.1, hc]; rfl, fun hnil => h.2 (List.append_eq_nil_iff.mp hnil).1⟩

theorem blanks_singleton {c : Char} (h : Text.isBlank c = true) : Blanks [c] :=
  ⟨by simp [h], by simp⟩

theorem blanks_space : Blanks [' '] := blanks_singleton rfl

/-- All blanks are alike. -/
theorem alike_blanks {bs bs' : List Char} (h : Blanks bs) (h' : Blanks bs') : Alike bs bs' := by
  have hpause (r : Reading) {cs : List Char} (hcs : Blanks cs) :
      r.after cs = ⟨r.mode.paused, r.depth⟩ := by
    obtain ⟨hall, hne⟩ := hcs
    induction cs generalizing r with
    | nil => exact absurd rfl hne
    | cons c cs ih =>
      rw [List.all_cons, Bool.and_eq_true] at hall
      rw [Reading.after_cons, next_blank hall.1]
      cases cs with
      | nil => rfl
      | cons c' cs =>
        rw [ih _ hall.2 (by simp)]
        obtain ⟨m, d⟩ := r
        cases m <;> rfl
  intro r
  rw [hpause r h, hpause r h']

theorem alike_cons_blank {c : Char} (h : Text.isBlank c = true) (cs : List Char) :
    Alike (c :: cs) (' ' :: cs) :=
  (alike_blanks (blanks_singleton h) blanks_space).append_right cs

theorem Alike.lineFeed {cs ds : List Char} (h : Alike (' ' :: cs) (' ' :: ds)) :
    Alike ('\n' :: cs) ('\n' :: ds) :=
  (alike_cons_blank rfl cs).trans (h.trans (alike_cons_blank rfl ds).symm)

section Lines

open Text

theorem isBlank_of_isLineBreak {c : Char} (h : isLineBreak c = true) : isBlank c = true := by
  cases hb : isBlank c with
  | true => rfl
  | false =>
    rw [not_isLineBreak_of_not_isBlank hb] at h
    cases h

/-- A text with other line ends. -/
theorem alike_linesFrom (line cs : List Char) :
    Alike (' ' :: line.reverse ++ cs ++ ['\n']) (' ' :: ofLines (linesFrom line cs)) := by
  -- A line end is one blank or two, and blanks are alike only where there is one at least: hence
  -- the blank before the line, which may be empty.
  have hbreak (line ends cs : List Char) (h : Blanks ends)
      (ih : Alike (' ' :: cs ++ ['\n']) (' ' :: ofLines (lines cs))) :
      Alike (' ' :: line.reverse ++ (ends ++ cs) ++ ['\n'])
        (' ' :: ofLines (line.reverse :: lines cs)) := by
    have hends : Alike (ends ++ (cs ++ ['\n'])) ('\n' :: ofLines (lines cs)) :=
      ((alike_blanks h blanks_space).append_right _).trans
        (ih.trans (alike_cons_blank rfl _).symm)
    rw [ofLines_cons, ← List.cons_append, List.append_assoc, List.append_assoc]
    exact hends.append_left _
  fun_induction linesFrom line cs with
  | case1 line h =>
    rw [List.isEmpty_iff.mp h]
    exact alike_blanks ⟨rfl, by simp⟩ ⟨rfl, by simp⟩
  | case2 line h =>
    rw [List.append_nil, ofLines_cons]
    exact .refl _
  | case3 line cs ih => exact hbreak line ['\r', '\n'] cs ⟨rfl, by simp⟩ ih
  | case4 line c cs _ hb ih =>
    exact hbreak line [c] cs ⟨by simp [isBlank_of_isLineBreak hb], by simp⟩ ih
  | case5 line c cs _ _ ih =>
    rw [List.reverse_cons] at ih
    simpa using ih

theorem blanks_replicate {w : Nat} (hw : 0 < w) : Blanks (List.replicate w ' ') :=
  ⟨all_isBlank_replicate w, fun h => by
    rw [List.replicate_eq_nil_iff] at h
    omega⟩

theorem alike_indentLine (w : Nat) (l : List Char) :
    Alike (' ' :: l) (' ' :: indentLine w l) := by
  rw [indentLine]
  split
  · rename_i hb
    exact alike_blanks (blanks_space.append hb) blanks_space
  · exact (alike_blanks blanks_space
      (blanks_space.append (all_isBlank_replicate w))).append_right l

theorem alike_indentLines (w : Nat) (ls : List (List Char)) :
    Alike (' ' :: ofLines ls) (' ' :: ofLines (ls.map (indentLine w))) := by
  induction ls with
  | nil => exact .refl _
  | cons l ls ih =>
    rw [List.map_cons, ofLines_cons, ofLines_cons]
    exact (ih.lineFeed.append_left (' ' :: l)).trans ((alike_indentLine w l).append_right _)

theorem alike_dropAround (cs : List Char) :
    Alike (' ' :: cs ++ ['\n']) (' ' :: dropAround (· == '\n') cs ++ ['\n']) := by
  have hblank {bs : List Char} (h : ∀ c ∈ bs, (c == '\n') = true) : bs.all isBlank = true := by
    rw [List.all_eq_true]
    intro c hc
    rw [beq_iff_eq.mp (h c hc)]
    rfl
  have hstart : Blanks (' ' :: cs.takeWhile (· == '\n')) :=
    blanks_space.append
      (hblank fun c hc => List.all_eq_true.mp List.all_takeWhile c hc)
  obtain ⟨tail, htail, hall⟩ := dropEnd_append_eq (· == '\n') (cs.dropWhile (· == '\n'))
  have hend : Alike (tail ++ ['\n']) ['\n'] := by
    refine alike_blanks ⟨?_, by simp⟩ ⟨rfl, by simp⟩
    rw [List.all_append, hblank hall]
    rfl
  have hsplit : ' ' :: cs ++ ['\n'] = ' ' :: cs.takeWhile (· == '\n') ++
      (dropAround (· == '\n') cs ++ (tail ++ ['\n'])) := by
    rw [dropAround, ← List.append_assoc (dropEnd _ _), ← htail, List.cons_append, List.cons_append,
      ← List.append_assoc, List.takeWhile_append_dropWhile]
  rw [hsplit]
  exact ((hend.append_left _).append_left _).trans
    ((alike_blanks hstart blanks_space).append_right _)

/-- The scan cannot tell a text from its block on an indented line. -/
theorem alike_blockLines {w : Nat} (hw : 0 < w) (cs : List Char) :
    Alike (' ' :: cs ++ ['\n']) (ofLines (blockLines w cs)) := by
  have hlines := (alike_dropAround cs).trans (alike_linesFrom [] (dropAround (· == '\n') cs))
  refine hlines.trans ?_
  rw [blockLines, ← lines]
  cases lines (dropAround (· == '\n') cs) with
  | nil =>
    rw [ofLines_cons]
    exact alike_blanks blanks_space
      ((blanks_replicate hw).append (show ['\n'].all isBlank = true from rfl))
  | cons first rest =>
    rw [ofLines_cons, ofLines_cons, List.append_assoc]
    exact (((alike_indentLines w rest).lineFeed.append_left first).append_left [' ']).trans
      ((alike_blanks blanks_space (blanks_replicate hw)).append_right _)

end Lines

theorem Weighs.of_alike {cs ds : List Char} {n : Int} (h : Weighs cs n) (hd : Alike cs ds) :
    Weighs ds n := fun d => (hd _).symm.trans (h d)

end Jenkinsfile.Script
