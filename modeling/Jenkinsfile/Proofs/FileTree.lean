import Jenkinsfile.FileTree
import Jenkinsfile.Proofs.Failure
import Mathlib.Data.List.Lex
import Mathlib.Data.List.Nodup
import Mathlib.Data.String.Basic

/-! What is found in a tree of files: paths in the order of their names, and under each of them the
text of one file. -/

namespace Jenkinsfile

namespace Text

/-- A list that precedes another is smaller, element by element. -/
theorem precedes_iff {α : Type} [DecidableEq α] [Preorder α] {lt : α → α → Bool}
    (hlt : ∀ x y, lt x y = true ↔ x < y) {xs ys : List α} : precedes lt xs ys = true ↔ xs < ys := by
  fun_induction precedes lt xs ys with
  | case1 xs => simp
  | case2 y ys => simp
  | case3 x xs ys ih => simp [ih]
  | case4 x xs y ys hne => simp [hlt, List.cons_lt_cons_iff, hne]

theorem comesBefore_iff {s t : String} : comesBefore s t = true ↔ s < t := by
  rw [comesBefore, precedes_iff fun c d => ?_, String.lt_iff_toList_lt]
  simp [Char.lt_def, UInt32.lt_iff_toNat_lt]

end Text

theorem Path.le_iff {p q : Path} : p.le q = true ↔ p.names ≤ q.names := by
  rw [le, Bool.not_eq_true', ← Bool.not_eq_true, Text.precedes_iff fun s t => Text.comesBefore_iff,
    not_lt]

theorem Path.pairwise_mergeSort (paths : List Path) :
    (paths.mergeSort Path.le).Pairwise fun p q => p.le q = true := by
  refine List.pairwise_mergeSort (fun p q r hpq hqr => ?_) (fun p q => ?_) paths
  · rw [Path.le_iff] at hpq hqr ⊢
    exact hpq.trans hqr
  · rw [Bool.or_eq_true, Path.le_iff, Path.le_iff]
    exact le_total _ _

/-- Paths in order are those that sorting gives. -/
theorem Path.mergeSort_eq {paths sorted : List Path} (h : paths.Perm sorted)
    (hs : sorted.Pairwise fun p q => p.le q = true) : paths.mergeSort Path.le = sorted := by
  refine ((List.mergeSort_perm paths _).trans h).eq_of_pairwise (fun p q _ _ hpq hqp => ?_)
    (Path.pairwise_mergeSort paths) hs
  rw [Path.le_iff] at hpq hqp
  exact congrArg Path.mk (le_antisymm hpq hqp)

namespace FileTree

/-- A tree in which places lead to one thing each: no two files are at one place or one of them
where a directory is, and no name on the way to a file is that of the directory above. -/
structure Proper (t : FileTree) : Prop where
  distinct : (t.files.map Prod.fst).Nodup
  leaf : ∀ f ∈ t.files, t.isDirectory f.1 = false
  named : ∀ f ∈ t.files, ".." ∉ f.1

/-- Whether a file with this text is found in a directory or at whatever depth below it, on the path
`p` that starts with that of the directory. -/
def HoldsBelow (t : FileTree) (dir p : Path) (text : String) : Prop :=
  ∃ top names, t.resolveFrom [] dir.names = .ok top ∧ t.entryAt top = .ok .directory ∧
    (top ++ names, text) ∈ t.files ∧ p = dir.below names

variable {t : FileTree} {place top names : List String} {text : String} {dir p : Path}

theorem stepFrom_of_ne {name : String} (h : name ≠ "..") (place : List String) :
    stepFrom place name = place ++ [name] := by
  simp [stepFrom, h]

/-- Names that go on from a directory are followed from there. -/
theorem resolveFrom_append (h : t.resolveFrom place names = .ok top)
    (hd : t.entryAt top = .ok .directory) (more : List String) :
    t.resolveFrom place (names ++ more) = t.resolveFrom top more := by
  fun_induction resolveFrom t place names with
  | case1 place =>
    rw [← Except.ok.inj h, List.nil_append]
  | case2 place name =>
    obtain rfl := Except.ok.inj h
    cases more with
    | nil => rfl
    | cons n more => simp [resolveFrom, hd]
  | case3 place name names hne next hnext ih =>
    obtain ⟨n, names, rfl⟩ := List.exists_cons_of_ne_nil hne
    have hmore : n :: (names ++ more) ≠ [] := by simp
    have hentry : t.entryAt (stepFrom place name) = .ok .directory := hnext
    rw [← ih h, List.cons_append, List.cons_append, resolveFrom.eq_3 _ _ _ _ hmore, hentry]
  | case4 => cases h
  | case5 => cases h

namespace Proper

theorem fileAt?_eq (h : t.Proper) (hf : (place, text) ∈ t.files) : t.fileAt? place = some text := by
  rw [fileAt?, Option.map_eq_some_iff]
  cases hfind : t.files.find? (·.1 = place) with
  | none => simpa using List.find?_eq_none.mp hfind _ hf
  | some f =>
    have hplace : f.1 = place := by simpa using List.find?_some hfind
    have heq : f = (place, text) :=
      List.inj_on_of_nodup_map h.distinct (List.mem_of_find?_eq_some hfind) hf hplace
    exact ⟨f, rfl, by rw [heq]⟩

theorem entryAt_file (h : t.Proper) (hf : (place, text) ∈ t.files) :
    t.entryAt place = .ok (.file text) := by
  rw [entryAt, h.fileAt?_eq hf]

/-- What is on the way to a file is a directory. -/
theorem entryAt_directory (h : t.Proper) (hf : (place ++ names, text) ∈ t.files)
    (hne : names ≠ []) : t.entryAt place = .ok .directory := by
  have hdir : t.isDirectory place = true := by
    simp only [isDirectory, Bool.or_eq_true, List.any_eq_true, Bool.and_eq_true, bne_iff_ne]
    exact .inr ⟨_, hf, by simp, by simpa using hne⟩
  rw [entryAt]
  cases hat : t.fileAt? place with
  | none => simp [hdir]
  | some other =>
    obtain ⟨f, hfind, -⟩ := Option.map_eq_some_iff.mp hat
    have hplace : f.1 = place := by simpa using List.find?_some hfind
    have hleaf := h.leaf f (List.mem_of_find?_eq_some hfind)
    rw [hplace, hdir] at hleaf
    cases hleaf

theorem resolveFrom_file (h : t.Proper) (hf : (place ++ names, text) ∈ t.files) :
    t.resolveFrom place names = .ok (place ++ names) := by
  have hstep (place names) (name : String) (hf : (place ++ name :: names, text) ∈ t.files) :
      stepFrom place name = place ++ [name] := by
    refine stepFrom_of_ne ?_ place
    rintro rfl
    exact h.named _ hf (by simp)
  induction names generalizing place with
  | nil => rw [resolveFrom, List.append_nil]
  | cons name names ih =>
    cases names with
    | nil => rw [resolveFrom, hstep place [] name hf]
    | cons n names =>
      have hnext : (place ++ [name] ++ n :: names, text) ∈ t.files := by simpa using hf
      simp only [resolveFrom, hstep place _ name hf]
      rw [h.entryAt_directory hnext (by simp)]
      simpa using ih hnext

/-- The text of a file is read on the path on which it is found. -/
theorem read_eq (h : t.Proper) (hp : t.HoldsBelow dir p text) :
    t.read p = .ok (.ofList (Text.unixLines text.toList)) := by
  obtain ⟨top, names, htop, hdir, hf, rfl⟩ := hp
  have hresolve : t.resolveFrom [] (dir.below names).names = .ok (top ++ names) := by
    rw [Path.below, resolveFrom_append htop hdir, h.resolveFrom_file hf]
  have hentry : t.entry (dir.below names) = .ok (.file text) := by
    rw [entry, hresolve]
    exact h.entryAt_file hf
  rw [read, hentry]
  rfl

end Proper

theorem namesBelow?_eq_some : namesBelow? top place = some names ↔ place = top ++ names := by
  rw [namesBelow?]
  constructor
  · intro h
    split at h
    · rename_i hprefix
      obtain ⟨rest, rfl⟩ := List.isPrefixOf_iff_prefix.mp hprefix
      simpa using h
    · cases h
  · rintro rfl
    simp

theorem filesBelow_cases (t : FileTree) (dir : Path) :
    (∃ top, t.resolveFrom [] dir.names = .ok top ∧ t.entryAt top = .ok .directory ∧
        t.filesBelow dir = ((t.files.map Prod.fst).filterMap fun place =>
          (namesBelow? top place).map dir.below).mergeSort Path.le) ∨
      t.filesBelow dir = [] ∧ ∀ top, t.resolveFrom [] dir.names = .ok top →
        t.entryAt top ≠ .ok .directory := by
  rw [filesBelow]
  cases hresolve : t.resolveFrom [] dir.names with
  | error f => exact .inr ⟨rfl, by simp⟩
  | ok top =>
    dsimp only
    split
    · rename_i hdir
      exact .inl ⟨top, rfl, hdir, by rw [List.filterMap_map]; rfl⟩
    · rename_i hdir
      exact .inr ⟨rfl, by simpa using hdir⟩

theorem mem_filesBelow_iff : p ∈ t.filesBelow dir ↔ ∃ text, t.HoldsBelow dir p text := by
  obtain ⟨top, htop, hdir, hfiles⟩ | ⟨hfiles, hnone⟩ := t.filesBelow_cases dir
  · rw [hfiles, List.mem_mergeSort]
    simp only [List.mem_filterMap, List.mem_map, Option.map_eq_some_iff, namesBelow?_eq_some]
    constructor
    · rintro ⟨_, ⟨f, hf, rfl⟩, names, hplace, rfl⟩
      exact ⟨f.2, top, names, htop, hdir, hplace ▸ hf, rfl⟩
    · rintro ⟨text, _, names, htop', -, hf, rfl⟩
      obtain rfl := Except.ok.inj (htop.symm.trans htop')
      exact ⟨_, ⟨_, hf, rfl⟩, names, rfl, rfl⟩
  · rw [hfiles]
    simp only [List.not_mem_nil, false_iff, not_exists]
    rintro text ⟨top, names, htop, hdir, -, -⟩
    exact hnone top htop hdir

theorem exists_texts {paths : List Path} (h : ∀ p ∈ paths, ∃ text, t.HoldsBelow dir p text) :
    ∃ files : List (Path × String), files.map Prod.fst = paths ∧
      ∀ f ∈ files, t.HoldsBelow dir f.1 f.2 := by
  induction paths with
  | nil => exact ⟨[], rfl, by simp⟩
  | cons p paths ih =>
    obtain ⟨⟨text, hp⟩, hpaths⟩ := List.forall_mem_cons.mp h
    obtain ⟨files, rfl, hfiles⟩ := ih hpaths
    exact ⟨(p, text) :: files, rfl, List.forall_mem_cons.mpr ⟨hp, hfiles⟩⟩

/-- A path leads to one text. -/
theorem Proper.text_unique (h : t.Proper) {other : String} (hp : t.HoldsBelow dir p text)
    (hother : t.HoldsBelow dir p other) : text = other := by
  obtain ⟨top, names, htop, -, hf, rfl⟩ := hp
  obtain ⟨top', names', htop', -, hf', hnames⟩ := hother
  obtain rfl := Except.ok.inj (htop.symm.trans htop')
  obtain rfl : names = names' := by simpa [Path.below] using hnames
  have heq := (h.fileAt?_eq hf).symm.trans (h.fileAt?_eq hf')
  exact Option.some.inj heq

/-- The files below a directory are listed in order, each once. -/
theorem Proper.filesBelow_sorted (h : t.Proper) (dir : Path) :
    (t.filesBelow dir).Pairwise fun p q => p.names < q.names := by
  obtain ⟨top, -, -, hfiles⟩ | ⟨hfiles, -⟩ := t.filesBelow_cases dir
  · rw [hfiles]
    generalize hpaths : (t.files.map Prod.fst).filterMap _ = paths
    have hnodup : (paths.mergeSort Path.le).Nodup := by
      rw [(List.mergeSort_perm _ _).nodup_iff, ← hpaths]
      refine h.distinct.filterMap fun place other p hp hother => ?_
      simp only [Option.mem_def, Option.map_eq_some_iff, namesBelow?_eq_some] at hp hother
      obtain ⟨names, rfl, rfl⟩ := hp
      obtain ⟨names', rfl, hnames⟩ := hother
      rw [show names' = names by simpa [Path.below] using hnames]
    refine ((Path.pairwise_mergeSort paths).and hnodup).imp fun ⟨hle, hne⟩ => ?_
    exact lt_of_le_of_ne (Path.le_iff.mp hle) fun hnames => hne (congrArg Path.mk hnames)
  · rw [hfiles]
    exact .nil

end FileTree

end Jenkinsfile
