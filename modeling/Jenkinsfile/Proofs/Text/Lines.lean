import Jenkinsfile.Proofs.Text.Trim
import Jenkinsfile.Text.Block

/-! Lines of texts that are put together from lines.  A text that goes on where a line ends has the
lines of both of its parts (`lines_append`), and a block on an indented line is the text of its
`blockLines`. -/

namespace Jenkinsfile.Text

/-- A text that ends where a line ends. -/
def EndsLine (cs : List Char) : Prop := cs = [] ∨ ∃ init, cs = init ++ ['\n']

theorem EndsLine.append {cs ds : List Char} (hc : EndsLine cs) (hd : EndsLine ds) :
    EndsLine (cs ++ ds) := by
  rcases hd with rfl | ⟨init, rfl⟩
  · rwa [List.append_nil]
  · exact .inr ⟨cs ++ init, by simp⟩

theorem EndsLine.flatMap {α : Type} {l : List α} {f : α → List Char} (h : ∀ a ∈ l, EndsLine (f a)) :
    EndsLine (l.flatMap f) := by
  induction l with
  | nil => exact .inl rfl
  | cons a l ih =>
    rw [List.flatMap_cons]
    exact (h a List.mem_cons_self).append (ih fun b hb => h b (List.mem_cons_of_mem _ hb))

/-! ### Lines of a text -/

/-- Only a carriage return before a line feed is read together with it. -/
theorem linesFrom_cons {c : Char} {cs : List Char} (h : c = '\r' → cs.head? ≠ some '\n')
    (line : List Char) :
    linesFrom line (c :: cs) =
      if isLineBreak c then line.reverse :: linesFrom [] cs else linesFrom (c :: line) cs := by
  rw [linesFrom]
  rintro cs rfl rfl
  exact h rfl rfl

theorem linesFrom_cons_of_not_isLineBreak {c : Char} (h : isLineBreak c = false)
    (line cs : List Char) : linesFrom line (c :: cs) = linesFrom (c :: line) cs := by
  have hne : c ≠ '\r' := by
    rintro rfl
    cases h
  rw [linesFrom_cons (absurd · hne), h, if_neg (by simp)]

theorem linesFrom_lineFeed (line cs : List Char) :
    linesFrom line ('\n' :: cs) = line.reverse :: lines cs := by
  rw [linesFrom_cons (by simp)]
  rfl

/-- Two texts that start with the same character: what the second has fewer lines at its end, it has
fewer after any text. -/
theorem linesFrom_append_cons {d : Char} {ds es : List Char} {more : List (List Char)}
    (h : ∀ line, linesFrom line (d :: ds) = linesFrom line (d :: es) ++ more)
    (line cs : List Char) :
    linesFrom line (cs ++ d :: ds) = linesFrom line (cs ++ d :: es) ++ more := by
  fun_induction linesFrom line cs with
  | case1 line | case2 line => exact h line
  | case3 line cs ih => simp only [List.cons_append, linesFrom, ih]
  | case4 line c cs hcs _ ih | case5 line c cs hcs _ ih =>
    -- A carriage return at the end of the first text may meet a line feed.
    by_cases hr : c = '\r' ∧ cs = [] ∧ d = '\n'
    · obtain ⟨rfl, rfl, rfl⟩ := hr
      have htail := h []
      rw [linesFrom_lineFeed, linesFrom_lineFeed, List.cons_append] at htail
      exact congrArg (line.reverse :: ·) (List.cons.inj htail).2
    · have hne (fs : List Char) : c = '\r' → (cs ++ d :: fs).head? ≠ some '\n' := by
        rintro rfl hhead
        cases cs with
        | nil => exact hr ⟨rfl, rfl, by simpa using hhead⟩
        | cons e cs => exact hcs cs rfl (by rw [show e = '\n' by simpa using hhead])
      rw [List.cons_append, List.cons_append, linesFrom_cons (hne ds), linesFrom_cons (hne es)]
      simp only [*, if_true, Bool.false_eq_true, if_false, List.cons_append]

theorem linesFrom_append_lineFeed (line cs ds : List Char) :
    linesFrom line (cs ++ '\n' :: ds) = linesFrom line (cs ++ ['\n']) ++ lines ds :=
  linesFrom_append_cons
    (fun line => by
      rw [linesFrom_lineFeed, linesFrom_lineFeed]
      rfl)
    line cs

/-- The lines of a text that goes on where a line ends. -/
theorem lines_append {cs : List Char} (h : EndsLine cs) (ds : List Char) :
    lines (cs ++ ds) = lines cs ++ lines ds := by
  rcases h with rfl | ⟨init, rfl⟩
  · rfl
  · rw [List.append_assoc]
    exact linesFrom_append_lineFeed [] init ds

/-- A line without a character that ends lines. -/
def Unbroken (line : List Char) : Prop := ∀ c ∈ line, isLineBreak c = false

theorem unbroken_replicate (w : Nat) : Unbroken (List.replicate w ' ') := by
  intro c hc
  rw [List.eq_of_mem_replicate hc]
  rfl

theorem linesFrom_append_of_unbroken {part : List Char} (h : Unbroken part) (line cs : List Char) :
    linesFrom line (part ++ '\n' :: cs) = (line.reverse ++ part) :: lines cs := by
  induction part generalizing line with
  | nil => rw [List.nil_append, List.append_nil, linesFrom_lineFeed]
  | cons c part ih =>
    rw [List.cons_append, linesFrom_cons_of_not_isLineBreak (h c List.mem_cons_self),
      ih fun d hd => h d (List.mem_cons_of_mem _ hd)]
    simp

/-- The text of lines, each with a line feed after it. -/
def ofLines (ls : List (List Char)) : List Char := ls.flatMap (· ++ ['\n'])

theorem ofLines_cons (l : List Char) (ls : List (List Char)) :
    ofLines (l :: ls) = l ++ '\n' :: ofLines ls := by
  simp [ofLines]

theorem endsLine_ofLines (ls : List (List Char)) : EndsLine (ofLines ls) :=
  .flatMap fun l _ => .inr ⟨l, rfl⟩

theorem lines_ofLines {ls : List (List Char)} (h : ∀ l ∈ ls, Unbroken l) :
    lines (ofLines ls) = ls := by
  induction ls with
  | nil => rfl
  | cons l ls ih =>
    rw [ofLines_cons, lines, linesFrom_append_of_unbroken (h l List.mem_cons_self)]
    exact congrArg (l :: ·) (ih fun m hm => h m (List.mem_cons_of_mem _ hm))

theorem unbroken_of_mem_linesFrom {line cs : List Char} (h : Unbroken line) {l : List Char}
    (hl : l ∈ linesFrom line cs) : Unbroken l := by
  have hrev {part : List Char} (hp : Unbroken part) : Unbroken part.reverse := fun c hc =>
    hp c (List.mem_reverse.mp hc)
  have hnil : Unbroken [] := by simp [Unbroken]
  fun_induction linesFrom line cs with
  | case1 => cases hl
  | case2 line => rw [List.mem_singleton.mp hl]; exact hrev h
  | case3 line cs ih | case4 line c cs _ _ ih =>
    rcases List.mem_cons.mp hl with rfl | hl
    · exact hrev h
    · exact ih hnil hl
  | case5 line c cs _ hb ih =>
    refine ih (fun d hd => ?_) hl
    rcases List.mem_cons.mp hd with rfl | hd
    · simpa using hb
    · exact h d hd

theorem unbroken_of_mem_lines {cs l : List Char} (h : l ∈ lines cs) : Unbroken l :=
  unbroken_of_mem_linesFrom (by simp [Unbroken]) h

theorem linesFrom_append_singleton (c : Char) (line cs : List Char) :
    ∃ first rest, linesFrom (line ++ [c]) cs = (c :: first) :: rest := by
  fun_induction linesFrom line cs with
  | case1 line | case2 line => exact ⟨line.reverse, [], by simp [linesFrom]⟩
  | case3 line cs => exact ⟨line.reverse, linesFrom [] cs, by simp [linesFrom]⟩
  | case4 line d cs h hb =>
    exact ⟨line.reverse, linesFrom [] cs, by simp [linesFrom, hb]⟩
  | case5 line d cs h hb ih =>
    obtain ⟨first, rest, ih⟩ := ih
    exact ⟨first, rest, by rw [linesFrom, if_neg hb, ← ih, List.cons_append]; assumption⟩

/-- A first character that ends no line is the first one of the first line. -/
theorem lines_cons {c : Char} (h : isLineBreak c = false) (cs : List Char) :
    ∃ first rest, lines (c :: cs) = (c :: first) :: rest := by
  rw [lines, linesFrom_cons_of_not_isLineBreak h]
  exact linesFrom_append_singleton c [] cs

theorem lines_ne_nil (cs : List Char) (h : cs ≠ []) : lines cs ≠ [] := by
  have hsome (line : List Char) (hne : line ≠ []) (cs : List Char) : linesFrom line cs ≠ [] := by
    obtain ⟨init, c, rfl⟩ := (List.eq_nil_or_concat line).resolve_left hne
    obtain ⟨first, rest, hlines⟩ := linesFrom_append_singleton c init cs
    simp [hlines]
  rw [lines]
  unfold linesFrom
  split
  · exact absurd rfl h
  · simp
  · split
    · simp
    · exact hsome _ (by simp) _

/-- A line feed that ends the last line opens no further one. -/
theorem lines_concat_lineFeed {c : Char} (h : isLineBreak c = false) (cs : List Char) :
    lines (cs ++ [c, '\n']) = lines (cs ++ [c]) := by
  have hlast (line : List Char) : linesFrom line [c, '\n'] = linesFrom line [c] ++ [] := by
    rw [linesFrom_cons_of_not_isLineBreak h, linesFrom_cons_of_not_isLineBreak h,
      linesFrom_lineFeed]
    simp [linesFrom, lines]
  rw [lines, linesFrom_append_cons hlast, List.append_nil, lines]

/-! ### Indented lines -/

theorem all_isBlank_replicate (w : Nat) : (List.replicate w ' ').all isBlank = true := by
  rw [List.all_eq_true]
  intro c hc
  rw [List.eq_of_mem_replicate hc]
  rfl

theorem indentLine_replicate_append (w v : Nat) (l : List Char) :
    indentLine w (List.replicate v ' ' ++ l) = indentLine (w + v) l := by
  rw [indentLine, indentLine, List.all_append, all_isBlank_replicate, Bool.true_and]
  split
  · rfl
  · rw [← List.append_assoc, List.replicate_append_replicate]

theorem indentLine_indentLine (w v : Nat) (l : List Char) :
    indentLine w (indentLine v l) = indentLine (w + v) l := by
  rw [indentLine.eq_def v]
  split
  · rename_i hb
    rw [indentLine, indentLine, if_pos hb]
    rfl
  · exact indentLine_replicate_append w v l

theorem Unbroken.indentLine {l : List Char} (h : Unbroken l) (w : Nat) :
    Unbroken (indentLine w l) := by
  intro c hc
  rw [Text.indentLine] at hc
  split at hc
  · cases hc
  · exact (List.mem_append.mp hc).elim (unbroken_replicate w c) (h c)

/-! ### Blocks -/

/-- The lines of a text without the line feeds around it, each indented; a text without a line is
one empty line. -/
def indentedLines (w : Nat) (cs : List Char) : List (List Char) :=
  match lines (dropAround (· == '\n') cs) with
  | [] => [[]]
  | ls => ls.map (indentLine w)

/-- The lines of a block on a line indented as the block is. -/
def blockLines (w : Nat) (cs : List Char) : List (List Char) :=
  match lines (dropAround (· == '\n') cs) with
  | [] => [List.replicate w ' ']
  | first :: rest => (List.replicate w ' ' ++ first) :: rest.map (indentLine w)

theorem ofLines_blockLines (w : Nat) (cs : List Char) :
    ofLines (blockLines w cs) = List.replicate w ' ' ++ block w cs ++ ['\n'] := by
  have hcontinue (first : List Char) (rest : List (List Char)) :
      ofLines (first :: rest.map (indentLine w)) = first ++ continueLines w rest ++ ['\n'] := by
    induction rest generalizing first with
    | nil => simp [ofLines, continueLines]
    | cons line rest ih =>
      rw [ofLines_cons, List.map_cons, ih]
      simp [continueLines]
  rw [blockLines, block]
  cases lines (dropAround (· == '\n') cs) with
  | nil => simp [ofLines]
  | cons first rest => simp only [hcontinue, List.append_assoc]

theorem unbroken_of_mem_blockLines {w : Nat} {cs l : List Char} (h : l ∈ blockLines w cs) :
    Unbroken l := by
  have hlines (m : List Char) (hm : m ∈ lines (dropAround (· == '\n') cs)) : Unbroken m :=
    unbroken_of_mem_lines hm
  rw [blockLines] at h
  split at h
  · rw [List.mem_singleton.mp h]
    exact unbroken_replicate w
  · rename_i first rest heq
    rw [heq] at hlines
    rcases List.mem_cons.mp h with rfl | h
    · intro c hc
      exact (List.mem_append.mp hc).elim (unbroken_replicate w c)
        (hlines first List.mem_cons_self c)
    · obtain ⟨m, hm, rfl⟩ := List.mem_map.mp h
      exact (hlines m (List.mem_cons_of_mem _ hm)).indentLine w

/-- A block that is indented once more: nothing shows that its first line was not made empty. -/
theorem map_indentLine_blockLines (w v : Nat) (cs : List Char) :
    (blockLines v cs).map (indentLine w) = indentedLines (w + v) cs := by
  rw [blockLines, indentedLines]
  cases lines (dropAround (· == '\n') cs) with
  | nil =>
    have hpad := indentLine_replicate_append w v []
    rw [List.append_nil] at hpad
    rw [List.map_singleton, hpad]
    rfl
  | cons first rest =>
    simp only [List.map_cons, List.map_map, indentLine_replicate_append, Function.comp_def,
      indentLine_indentLine]

theorem not_isLineBreak_of_not_isBlank {c : Char} (h : isBlank c = false) :
    isLineBreak c = false := by
  simp only [isBlank, isLineBreak, Bool.or_eq_false_iff, Bool.and_eq_false_iff,
    decide_eq_false_iff_not, beq_eq_false_iff_ne] at h ⊢
  omega

/-- The first line of a block is not blank if the block starts with what is not. -/
theorem blockLines_eq_indentedLines {c : Char} (h : isBlank c = false) (w : Nat) (cs : List Char) :
    blockLines w (c :: cs) = indentedLines w (c :: cs) := by
  have hne : (c == '\n') = false := by
    rw [beq_eq_false_iff_ne]
    rintro rfl
    cases h
  have hdrop : dropAround (· == '\n') (c :: cs) = c :: dropEnd (· == '\n') cs := by
    rw [dropAround, List.dropWhile_cons_of_neg (by simp [hne])]
    exact dropEnd_cons_of_neg (p := fun c => c == '\n') hne cs
  rw [blockLines, indentedLines, hdrop]
  obtain ⟨first, rest, hlines⟩ := lines_cons (not_isLineBreak_of_not_isBlank h)
    (dropEnd (· == '\n') cs)
  rw [hlines]
  simp [indentLine, h]

/-- The lines of a block that opens and closes with a brace. -/
theorem blockLines_braces (w : Nat) (cs : List Char) {ds : List Char} (h : EndsLine ds) :
    blockLines w (cs ++ ['\x7b', '\n'] ++ ds ++ ['\x7d', '\n']) =
      blockLines w (cs ++ ['\x7b']) ++ (lines ds).map (indentLine w) ++
        [List.replicate w ' ' ++ ['\x7d']] := by
  obtain ⟨head, hhead⟩ : ∃ head, (cs ++ ['\x7b']).dropWhile (· == '\n') = head ++ ['\x7b'] := by
    refine ⟨cs.dropWhile (· == '\n'), ?_⟩
    rw [List.dropWhile_append]
    split
    · rename_i hnil
      rw [List.isEmpty_iff.mp hnil]
      rfl
    · rfl
  have hstart : dropAround (· == '\n') (cs ++ ['\x7b']) = head ++ ['\x7b'] := by
    rw [dropAround, hhead, dropEnd_eq_self (by simp)]
  have hall : dropAround (· == '\n') (cs ++ ['\x7b', '\n'] ++ ds ++ ['\x7d', '\n']) =
      head ++ ['\x7b', '\n'] ++ ds ++ ['\x7d'] := by
    have hsplit : cs ++ ['\x7b', '\n'] ++ ds ++ ['\x7d', '\n'] =
        cs ++ ['\x7b'] ++ ('\n' :: ds ++ ['\x7d'] ++ ['\n']) := by simp
    rw [dropAround, hsplit, List.dropWhile_append, hhead, if_neg (by simp), ← List.append_assoc,
      dropEnd_append_of_forall (by simp), dropEnd_eq_self (by simp [List.getLast?_cons])]
    simp
  have hlines : lines (head ++ ['\x7b', '\n'] ++ ds ++ ['\x7d']) =
      lines (head ++ ['\x7b']) ++ (lines ds ++ [['\x7d']]) := by
    rw [List.append_assoc, lines_append (.inr ⟨head ++ ['\x7b'], by simp⟩),
      lines_concat_lineFeed rfl, lines_append h]
    rfl
  obtain ⟨first, rest, hfirst⟩ := List.exists_cons_of_ne_nil
    (lines_ne_nil (head ++ ['\x7b']) (by simp))
  rw [blockLines, blockLines, hall, hstart, hlines, hfirst]
  simp [indentLine, isBlank]

/-- A text that starts with something else than a line feed, and ends with one after something
else. -/
theorem indentedLines_eq_map_lines {c d : Char} (hc : c ≠ '\n') (hd : isLineBreak d = false)
    (w : Nat) (cs : List Char) :
    indentedLines w (c :: cs ++ [d, '\n']) = (lines (c :: cs ++ [d, '\n'])).map (indentLine w) := by
  have hne : d ≠ '\n' := by
    rintro rfl
    cases hd
  have hdrop : dropAround (· == '\n') (c :: cs ++ [d, '\n']) = c :: cs ++ [d] := by
    have hsplit : c :: cs ++ [d, '\n'] = c :: cs ++ [d] ++ ['\n'] := by simp
    rw [dropAround, List.cons_append, List.dropWhile_cons_of_neg (by simpa using hc),
      ← List.cons_append, hsplit, dropEnd_append_of_forall (by simp),
      dropEnd_eq_self (by simpa [List.getLast?_cons] using hne)]
  rw [indentedLines, hdrop, lines_concat_lineFeed hd]
  obtain ⟨first, rest, hlines⟩ := List.exists_cons_of_ne_nil
    (lines_ne_nil (c :: cs ++ [d]) (by simp))
  rw [hlines]

/-! ### Lines in a text -/

/-- The lines `ls` stand in a text one after the other. -/
def HasLines (ls : List (List Char)) (cs : List Char) : Prop :=
  ∃ before after, EndsLine before ∧ cs = before ++ ofLines ls ++ after

variable {ls : List (List Char)} {cs ds : List Char}

theorem hasLines_ofLines (ls : List (List Char)) : HasLines ls (ofLines ls) :=
  ⟨[], [], .inl rfl, by simp⟩

theorem HasLines.append_right (h : HasLines ls cs) (ds : List Char) : HasLines ls (cs ++ ds) := by
  obtain ⟨before, after, hb, rfl⟩ := h
  exact ⟨before, after ++ ds, hb, by simp⟩

theorem HasLines.append_left (hc : EndsLine cs) (h : HasLines ls ds) : HasLines ls (cs ++ ds) := by
  obtain ⟨before, after, hb, rfl⟩ := h
  exact ⟨cs ++ before, after, hc.append hb, by simp⟩

theorem HasLines.flatMap {α : Type} {l : List α} {f : α → List Char}
    (hend : ∀ a ∈ l, EndsLine (f a)) {a : α} (ha : a ∈ l) (h : HasLines ls (f a)) :
    HasLines ls (l.flatMap f) := by
  obtain ⟨before, after, rfl⟩ := List.append_of_mem ha
  rw [List.flatMap_append, List.flatMap_cons]
  exact .append_left (.flatMap fun b hb => hend b (List.mem_append_left _ hb))
    (h.append_right _)

theorem HasLines.infix_lines (h : HasLines ls cs) (hls : ∀ l ∈ ls, Unbroken l) :
    ls <:+: lines cs := by
  obtain ⟨before, after, hb, rfl⟩ := h
  rw [List.append_assoc, lines_append hb, lines_append (endsLine_ofLines ls), lines_ofLines hls,
    ← List.append_assoc]
  exact List.infix_append ..

/-- Lines of a text stand between its line feeds. -/
theorem HasLines.infix_splitOn (h : HasLines ls cs) (hls : ∀ l ∈ ls, Unbroken l) :
    ls <:+: List.splitOn '\n' cs := by
  obtain ⟨before, after, hb, rfl⟩ := h
  have hsplit (ls : List (List Char)) (hls : ∀ l ∈ ls, Unbroken l) :
      List.splitOn '\n' (ofLines ls ++ after) = ls ++ List.splitOn '\n' after := by
    induction ls with
    | nil => rfl
    | cons l ls ih =>
      have hl : '\n' ∉ l := fun hmem => by cases hls l List.mem_cons_self _ hmem
      rw [ofLines_cons, List.append_assoc, List.cons_append,
        List.splitOn_append_cons_self_of_not_mem hl, List.cons_append]
      exact congrArg (l :: ·) (ih fun m hm => hls m (List.mem_cons_of_mem _ hm))
  rcases hb with rfl | ⟨init, rfl⟩
  · rw [List.nil_append, hsplit ls hls]
    exact (List.prefix_append ..).isInfix
  · rw [List.append_assoc, List.append_assoc, List.splitOn, List.singleton_append,
      List.splitOnP_append_cons _ _ (by simp), ← List.splitOn, ← List.splitOn, hsplit ls hls,
      ← List.append_assoc]
    exact List.infix_append ..

end Jenkinsfile.Text
