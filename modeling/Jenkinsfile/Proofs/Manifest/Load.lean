import Jenkinsfile.Manifest.Load
import Jenkinsfile.Manifest.Shape
import Jenkinsfile.Proofs.FileTree
import Jenkinsfile.Proofs.Table
import Mathlib.Data.List.Induction

/-! Task templates loaded from the files below a directory, one file after the other.  `Tells` says
what has been loaded from the files before, which every step keeps; so the files alone decide whether
the next of them `Offends`. -/

namespace Jenkinsfile

namespace FileTree

variable {t : FileTree}

/-- The files gone through are those with the suffix of a manifest, in order. -/
theorem Proper.exists_files (h : t.Proper) (dir : Path) : ∃ files : List (Path × String),
    files.map Prod.fst = t.manifestPaths dir ∧
      files.Pairwise (fun f g => f.1.names < g.1.names) ∧
      ∀ f, f ∈ files ↔ t.HoldsBelow dir f.1 f.2 ∧ f.1.suffix ∈ manifestSuffixes := by
  have hpaths : ∀ p ∈ t.manifestPaths dir,
      (∃ text, t.HoldsBelow dir p text) ∧ p.suffix ∈ manifestSuffixes := by
    intro p hp
    rw [manifestPaths, List.mem_filter, mem_filesBelow_iff, List.contains_iff_mem] at hp
    exact hp
  obtain ⟨files, hfiles, hholds⟩ := exists_texts fun p hp => (hpaths p hp).1
  refine ⟨files, hfiles, ?_, fun f => ⟨fun hf => ⟨hholds f hf, ?_⟩, fun ⟨hf, hs⟩ => ?_⟩⟩
  · have hsorted := (h.filesBelow_sorted dir).filter fun p => manifestSuffixes.contains p.suffix
    rw [← manifestPaths, ← hfiles, List.pairwise_map] at hsorted
    exact hsorted
  · exact (hpaths f.1 (hfiles ▸ List.mem_map_of_mem hf)).2
  · have hp : f.1 ∈ t.manifestPaths dir := by
      rw [manifestPaths, List.mem_filter, mem_filesBelow_iff, List.contains_iff_mem]
      exact ⟨⟨f.2, hf⟩, hs⟩
    rw [← hfiles] at hp
    obtain ⟨g, hg, hpath⟩ := List.mem_map.mp hp
    have htext : g.2 = f.2 := h.text_unique (hpath ▸ hholds g hg) hf
    rwa [← Prod.ext hpath htext]

end FileTree

section Files

open Failure

variable [Loader]

/-- The manifest in a file with this path and this text. -/
def Manifest.ofFile (f : Path × String) : Except Failure Manifest :=
  Manifest.ofText (.ofList (Text.unixLines f.2.toList)) f.1.text

namespace Loading

/-- Whether the manifest in a file is `m` and holds a task template. -/
def HoldsTask (f : Path × String) (m : Manifest) : Prop :=
  Manifest.ofFile f = .ok m ∧ m.kind = TemplateKind.task.label

/-- Whether a file holds a task template. -/
def isTaskFile (f : Path × String) : Bool :=
  (Manifest.ofFile f).toOption.any (·.kind == TemplateKind.task.label)

/-- The task template in a file, under its name. -/
def EntryOf (f : Path × String) (entry : String × TaskTemplate) : Prop :=
  ∃ m, HoldsTask f m ∧ entry.1 = m.name ∧
    Loader.taskTemplate (.map (m.spec.getD [])) = .ok entry.2

/-- Files with nothing to refuse: each holds a manifest, the specs of task templates are well shaped,
and no two of these share a name. -/
structure Sound (files : List (Path × String)) : Prop where
  manifests : ∀ f ∈ files, ∃ m, Manifest.ofFile f = .ok m
  specs : ∀ f ∈ files, ∀ m, HoldsTask f m →
    ∃ spec, Loader.taskTemplate (.map (m.spec.getD [])) = .ok spec
  names : files.Pairwise fun f g => ∀ m n, HoldsTask f m → HoldsTask g n → m.name ≠ n.name

/-- Whether a file among these holds a task template of this name. -/
def NamedIn (files : List (Path × String)) (name : String) : Prop :=
  ∃ f ∈ files, ∃ m, HoldsTask f m ∧ m.name = name

/-- The error of a task template whose name another file had before. -/
def doubleError (m : Manifest) (p : Path) : Error :=
  .definition ("task template " ++ m.name ++ " is defined more than once (" ++ p.text ++ ")")

/-- The error of a spec with these differences. -/
def shapeError (m : Manifest) (ms : List Shape.Mismatch) : Error :=
  .definition ("spec of " ++ (if m.name.isEmpty then "resource" else m.name) ++ " is malformed: " ++
    countErrors ms) [("errors", .mismatches ms)]

/-- What is wrong with a file that comes after others. -/
inductive Offends (before : List (Path × String)) (f : Path × String) : Failure → Prop
  | unread {failure : Failure} : Manifest.ofFile f = .error failure → Offends before f failure
  | double {m : Manifest} : HoldsTask f m → NamedIn before m.name →
      Offends before f (.error (doubleError m f.1))
  | malformed {m : Manifest} {ms : List Shape.Mismatch} : HoldsTask f m →
      ¬ NamedIn before m.name → Loader.taskTemplate (.map (m.spec.getD [])) = .failed ms →
      Offends before f (.error (shapeError m ms))

variable {files before : List (Path × String)} {f : Path × String} {m : Manifest}
  {loaded : Table TaskTemplate} {failure : Failure} {t : FileTree}

theorem HoldsTask.unique {n : Manifest} (h : HoldsTask f m) (hn : HoldsTask f n) : m = n :=
  Except.ok.inj (h.1.symm.trans hn.1)

theorem isTaskFile_iff : isTaskFile f = true ↔ ∃ m, HoldsTask f m := by
  rw [isTaskFile]
  cases hf : Manifest.ofFile f with
  | ok m => simp [HoldsTask, hf, Except.toOption]
  | error e => simp [HoldsTask, hf, Except.toOption]

/-! ### What has been loaded -/

/-- What a table is that was loaded from files: these are sound, and its entries are those of the
ones that hold a task template, in order. -/
structure Tells (files : List (Path × String)) (loaded : Table TaskTemplate) : Prop where
  sound : Sound files
  entries : List.Forall₂ EntryOf (files.filter isTaskFile) loaded

theorem mem_keys_iff (h : List.Forall₂ EntryOf files loaded) {name : String} :
    name ∈ loaded.keys ↔ NamedIn files name := by
  induction h with
  | nil => simp [Table.keys, NamedIn]
  | @cons f entry files loaded hentry _ ih =>
    obtain ⟨m, hm, hname, -⟩ := hentry
    have hfirst : (∃ n, HoldsTask f n ∧ n.name = name) ↔ name = entry.1 := by
      constructor
      · rintro ⟨n, hn, rfl⟩
        rw [hname, hm.unique hn]
      · rintro rfl
        exact ⟨m, hm, hname.symm⟩
    rw [NamedIn, List.exists_mem_cons_iff, hfirst, Table.keys, List.map_cons, List.mem_cons]
    exact or_congr_right ih

theorem keys_nodup_of_entries (h : List.Forall₂ EntryOf files loaded)
    (hnames : files.Pairwise fun f g => ∀ m n, HoldsTask f m → HoldsTask g n → m.name ≠ n.name) :
    loaded.keys.Nodup := by
  induction h with
  | nil => exact .nil
  | @cons f entry files loaded hentry hentries ih =>
    obtain ⟨hfirst, hnames⟩ := List.pairwise_cons.mp hnames
    refine List.nodup_cons.mpr ⟨fun hmem => ?_, ih hnames⟩
    obtain ⟨g, hg, n, hn, hname⟩ := (mem_keys_iff hentries).mp hmem
    obtain ⟨m, hm, hentry, -⟩ := hentry
    exact hfirst g hg m n hm hn (hentry.symm.trans hname.symm)

namespace Tells

theorem has_iff (h : Tells files loaded) {name : String} :
    loaded.has name = true ↔ NamedIn files name := by
  rw [← Table.mem_keys_iff_has, mem_keys_iff h.entries]
  constructor
  · rintro ⟨f, hf, hm⟩
    exact ⟨f, (List.mem_filter.mp hf).1, hm⟩
  · rintro ⟨f, hf, m, hm, hname⟩
    exact ⟨f, List.mem_filter.mpr ⟨hf, isTaskFile_iff.mpr ⟨m, hm⟩⟩, m, hm, hname⟩

theorem keys_nodup (h : Tells files loaded) : loaded.keys.Nodup :=
  keys_nodup_of_entries h.entries (h.sound.names.filter isTaskFile)

theorem nil : Tells [] [] where
  sound := ⟨by simp, by simp, .nil⟩
  entries := .nil

end Tells

/-! ### One file -/

section Step

variable {p : Path} {paths : List Path}

theorem taskTemplate_of_read (hk : m.kind = TemplateKind.task.label) {spec : TaskTemplate}
    (h : Loader.taskTemplate (.map (m.spec.getD [])) = .ok spec) : m.taskTemplate = .ok spec := by
  rw [Manifest.taskTemplate, Manifest.template, hk, if_neg (by simp), h]

theorem taskTemplate_of_failed (hk : m.kind = TemplateKind.task.label)
    {ms : List Shape.Mismatch} (h : Loader.taskTemplate (.map (m.spec.getD [])) = .failed ms) :
    m.taskTemplate = .error (shapeError m ms) := by
  rw [Manifest.taskTemplate, Manifest.template, hk, if_neg (by simp), h]
  rfl

theorem taskTemplatesFrom_unread (h : t.manifest p = .error failure) :
    t.taskTemplatesFrom loaded (p :: paths) = .error failure := by
  rw [FileTree.taskTemplatesFrom, h]
  rfl

theorem taskTemplatesFrom_other (h : t.manifest p = .ok m)
    (hk : m.kind ≠ TemplateKind.task.label) :
    t.taskTemplatesFrom loaded (p :: paths) = t.taskTemplatesFrom loaded paths := by
  have hkind : (m.kind != TemplateKind.task.label) = true := by simpa using hk
  rw [FileTree.taskTemplatesFrom, h]
  exact if_pos hkind

theorem taskTemplatesFrom_task (h : t.manifest p = .ok m)
    (hk : m.kind = TemplateKind.task.label) :
    t.taskTemplatesFrom loaded (p :: paths) =
      if loaded.has m.name then .error (.error (doubleError m p))
      else ofError m.taskTemplate >>= fun spec =>
        t.taskTemplatesFrom (loaded.insert m.name spec) paths := by
  have hkind : ¬ (m.kind != TemplateKind.task.label) = true := by simpa using hk
  rw [FileTree.taskTemplatesFrom, h]
  exact if_neg hkind

/-- A file with something wrong with it ends the loading. -/
theorem Offends.taskTemplatesFrom (ho : Offends before f failure) (h : Tells before loaded)
    (hread : t.manifest f.1 = Manifest.ofFile f) :
    t.taskTemplatesFrom loaded (f.1 :: paths) = .error failure := by
  cases ho with
  | unread hf => exact taskTemplatesFrom_unread (hread.trans hf)
  | double hm hname =>
    rw [taskTemplatesFrom_task (hread.trans hm.1) hm.2, if_pos (h.has_iff.mpr hname)]
  | malformed hm hname hspec =>
    rw [taskTemplatesFrom_task (hread.trans hm.1) hm.2,
      if_neg fun hhas => hname (h.has_iff.mp hhas), taskTemplate_of_failed hm.2 hspec]
    rfl

theorem Sound.not_namedIn (hs : Sound (before ++ [f])) (hm : HoldsTask f m) :
    ¬ NamedIn before m.name := by
  rintro ⟨g, hg, n, hn, hname⟩
  exact (List.pairwise_append.mp hs.names).2.2 g hg f List.mem_cons_self n m hn hm hname

theorem Sound.left (hs : Sound (before ++ files)) : Sound before where
  manifests g hg := hs.manifests g (List.mem_append_left _ hg)
  specs g hg := hs.specs g (List.mem_append_left _ hg)
  names := (List.pairwise_append.mp hs.names).1

/-- A file with nothing wrong with it is loaded, and what has been loaded is told again. -/
theorem Sound.taskTemplatesFrom (hs : Sound (before ++ [f])) (h : Tells before loaded)
    (hread : t.manifest f.1 = Manifest.ofFile f) :
    ∃ out, Tells (before ++ [f]) out ∧
      t.taskTemplatesFrom loaded (f.1 :: paths) = t.taskTemplatesFrom out paths := by
  have hlast : f ∈ before ++ [f] := List.mem_append_right _ List.mem_cons_self
  obtain ⟨m, hf⟩ := hs.manifests f hlast
  by_cases hk : m.kind = TemplateKind.task.label
  · have hm : HoldsTask f m := ⟨hf, hk⟩
    obtain ⟨spec, hspec⟩ := hs.specs f hlast m hm
    have hnew : loaded.has m.name = false := by
      rw [← Bool.not_eq_true, h.has_iff]
      exact hs.not_namedIn hm
    have htask : isTaskFile f = true := isTaskFile_iff.mpr ⟨m, hm⟩
    refine ⟨loaded ++ [(m.name, spec)], ⟨hs, ?_⟩, ?_⟩
    · rw [List.filter_append, List.filter_singleton, htask]
      exact List.rel_append h.entries (.cons ⟨m, hm, rfl, hspec⟩ .nil)
    · rw [taskTemplatesFrom_task (hread.trans hf) hk, hnew,
        taskTemplate_of_read hk hspec, ← Table.insert_of_not_has hnew]
      rfl
  · have hother : isTaskFile f = false := by
      rw [← Bool.not_eq_true, isTaskFile_iff]
      rintro ⟨n, hn⟩
      rw [Except.ok.inj (hf.symm.trans hn.1)] at hk
      exact hk hn.2
    refine ⟨loaded, ⟨hs, ?_⟩, taskTemplatesFrom_other (hread.trans hf) hk⟩
    rw [List.filter_append, List.filter_singleton, hother]
    simpa using h.entries

end Step

/-! ### All files -/

/-- Sound files are loaded one after the other. -/
theorem Sound.taskTemplatesFrom_append (hs : Sound (before ++ files))
    (h : Tells before loaded) (hread : ∀ f ∈ files, t.manifest f.1 = Manifest.ofFile f)
    (paths : List Path) :
    ∃ out, Tells (before ++ files) out ∧
      t.taskTemplatesFrom loaded (files.map Prod.fst ++ paths) = t.taskTemplatesFrom out paths := by
  induction files generalizing before loaded with
  | nil => exact ⟨loaded, by rwa [List.append_nil], rfl⟩
  | cons f files ih =>
    rw [← List.singleton_append, ← List.append_assoc] at hs
    obtain ⟨hfirst, hread⟩ := List.forall_mem_cons.mp hread
    obtain ⟨mid, hmid, hstep⟩ := hs.left.taskTemplatesFrom h hfirst
    obtain ⟨out, hout, hrun⟩ := ih hs hmid hread
    refine ⟨out, by simpa using hout, ?_⟩
    rw [List.map_cons, List.cons_append, hstep, hrun]

theorem Sound.concat (hs : Sound files) (hf : Manifest.ofFile f = .ok m)
    (htask : HoldsTask f m → ¬ NamedIn files m.name ∧
      ∃ spec, Loader.taskTemplate (.map (m.spec.getD [])) = .ok spec) : Sound (files ++ [f]) where
  manifests := by
    rw [List.forall_mem_append, List.forall_mem_singleton]
    exact ⟨hs.manifests, m, hf⟩
  specs := by
    rw [List.forall_mem_append, List.forall_mem_singleton]
    refine ⟨hs.specs, fun n hn => ?_⟩
    obtain rfl := Except.ok.inj (hf.symm.trans hn.1)
    exact (htask hn).2
  names := by
    refine List.pairwise_append.mpr ⟨hs.names, List.pairwise_singleton _ _, fun g hg f' hf' => ?_⟩
    obtain rfl := List.mem_singleton.mp hf'
    intro n m' hn hm hname
    obtain rfl := Except.ok.inj (hf.symm.trans hm.1)
    exact (htask hm).1 ⟨g, hg, n, hn, hname⟩

/-- Files are sound, or there is a first one that is not. -/
theorem sound_or_offends (files : List (Path × String)) :
    Sound files ∨ ∃ before f after failure, files = before ++ f :: after ∧ Sound before ∧
      Offends before f failure := by
  induction files using List.reverseRecOn with
  | nil => exact .inl Tells.nil.sound
  | append_singleton files f ih =>
    rcases ih with hs | ⟨before, g, after, failure, rfl, hbefore, ho⟩
    · have hstop {failure : Failure} (ho : Offends files f failure) :
          ∃ before g after failure, files ++ [f] = before ++ g :: after ∧ Sound before ∧
            Offends before g failure := ⟨files, f, [], failure, rfl, hs, ho⟩
      cases hf : Manifest.ofFile f with
      | error e => exact .inr (hstop (.unread hf))
      | ok m =>
        by_cases hk : m.kind = TemplateKind.task.label
        · by_cases hname : NamedIn files m.name
          · exact .inr (hstop (.double ⟨hf, hk⟩ hname))
          · cases hspec : Loader.taskTemplate (.map (m.spec.getD [])) with
            | ok spec => exact .inl (hs.concat hf fun _ => ⟨hname, spec, hspec⟩)
            | failed ms => exact .inr (hstop (.malformed ⟨hf, hk⟩ hname hspec))
        · exact .inl (hs.concat hf fun hm => absurd hm.2 hk)
    · exact .inr ⟨before, g, after ++ [f], failure, by simp, hbefore, ho⟩

theorem Sound.exists_taskTemplates (hs : Sound files)
    (hread : ∀ f ∈ files, t.manifest f.1 = Manifest.ofFile f) :
    ∃ loaded, t.taskTemplatesFrom [] (files.map Prod.fst) = .ok loaded ∧ Tells files loaded := by
  rw [← List.nil_append files] at hs
  obtain ⟨loaded, htells, hrun⟩ := hs.taskTemplatesFrom_append .nil hread []
  rw [List.append_nil] at hrun
  exact ⟨loaded, hrun, htells⟩

/-- The first file that is not sound is the one refused. -/
theorem Offends.taskTemplates {after : List (Path × String)}
    (ho : Offends before f failure) (hs : Sound before) (hfiles : files = before ++ f :: after)
    (hread : ∀ f ∈ files, t.manifest f.1 = Manifest.ofFile f) :
    t.taskTemplatesFrom [] (files.map Prod.fst) = .error failure := by
  subst hfiles
  obtain ⟨hbefore, hafter⟩ := List.forall_mem_append.mp hread
  rw [← List.nil_append before] at hs
  obtain ⟨loaded, htells, hrun⟩ := hs.taskTemplatesFrom_append .nil hbefore
    ((f :: after).map Prod.fst)
  rw [List.map_append, hrun]
  exact ho.taskTemplatesFrom htells (hafter f List.mem_cons_self)

theorem tells_of_taskTemplatesFrom
    (hread : ∀ f ∈ files, t.manifest f.1 = Manifest.ofFile f)
    (hok : t.taskTemplatesFrom [] (files.map Prod.fst) = .ok loaded) : Tells files loaded := by
  rcases sound_or_offends files with hs | ⟨before, f, after, failure, hfiles, hs, ho⟩
  · obtain ⟨out, hout, htells⟩ := hs.exists_taskTemplates hread
    obtain rfl := Except.ok.inj (hok.symm.trans hout)
    exact htells
  · rw [ho.taskTemplates hs hfiles hread] at hok
    cases hok

theorem taskTemplatesFrom_eq_error_iff
    (hread : ∀ f ∈ files, t.manifest f.1 = Manifest.ofFile f) :
    t.taskTemplatesFrom [] (files.map Prod.fst) = .error failure ↔ ∃ before f after,
      files = before ++ f :: after ∧ Sound before ∧ Offends before f failure := by
  constructor
  · intro herror
    rcases sound_or_offends files with hs | ⟨before, f, after, other, hfiles, hs, ho⟩
    · obtain ⟨out, hout, -⟩ := hs.exists_taskTemplates hread
      rw [hout] at herror
      cases herror
    · obtain rfl := Except.error.inj ((ho.taskTemplates hs hfiles hread).symm.trans herror)
      exact ⟨before, f, after, hfiles, hs, ho⟩
  · rintro ⟨before, f, after, hfiles, hs, ho⟩
    exact ho.taskTemplates hs hfiles hread

end Loading

end Files

namespace FileTree

open Loading

section Outcome

variable [Loader] {t : FileTree} {dir p : Path} {f : Path × String}

/-- The manifest on a path is that in the file found there. -/
theorem Proper.manifest_eq (h : t.Proper) (hf : t.HoldsBelow dir f.1 f.2)
    (hs : f.1.suffix ∈ manifestSuffixes) : t.manifest f.1 = Manifest.ofFile f := by
  have hread : t.readManifest f.1 = .ok (.ofList (Text.unixLines f.2.toList)) := by
    rw [readManifest, if_pos (by simpa using hs), h.read_eq hf]
    rfl
  simp only [manifest, hread, bind, Except.bind, Manifest.ofFile]

/-- What the task templates below a directory are.  The files with the suffix of a manifest, at
whatever depth and in the order of their paths, are all loaded if they are sound; the table then has
one entry for each that holds a task template, in order and under names that differ.  Otherwise the
first file with something wrong with it is refused. -/
theorem Proper.taskTemplates_outcome (h : t.Proper) (dir : Path) :
    ∃ files : List (Path × String),
      files.Pairwise (fun f g => f.1.names < g.1.names) ∧
      (∀ f, f ∈ files ↔ t.HoldsBelow dir f.1 f.2 ∧ f.1.suffix ∈ manifestSuffixes) ∧
      ((∃ loaded, t.taskTemplates dir = .ok loaded) ↔ Sound files) ∧
      (∀ loaded, t.taskTemplates dir = .ok loaded →
        List.Forall₂ EntryOf (files.filter isTaskFile) loaded ∧ loaded.keys.Nodup) ∧
      ∀ failure, t.taskTemplates dir = .error failure ↔ ∃ before f after,
        files = before ++ f :: after ∧ Sound before ∧ Offends before f failure := by
  obtain ⟨files, hpaths, hsorted, hmem⟩ := h.exists_files dir
  have hread : ∀ f ∈ files, t.manifest f.1 = Manifest.ofFile f := by
    intro f hf
    obtain ⟨hholds, hs⟩ := (hmem f).mp hf
    exact h.manifest_eq hholds hs
  rw [taskTemplates, ← hpaths]
  refine ⟨files, hsorted, hmem, ⟨?_, fun hs => ?_⟩, fun loaded hok => ?_, fun failure => ?_⟩
  · rintro ⟨loaded, hok⟩
    exact (tells_of_taskTemplatesFrom hread hok).sound
  · obtain ⟨loaded, hok, -⟩ := hs.exists_taskTemplates hread
    exact ⟨loaded, hok⟩
  · have htells := tells_of_taskTemplatesFrom hread hok
    exact ⟨htells.entries, htells.keys_nodup⟩
  · exact taskTemplatesFrom_eq_error_iff hread

end Outcome

section Yaml

local instance yamlLoader : Loader := Loader.yaml

/-- A text with a task template of this name and with this body. -/
def taskText (name body : String) : String :=
  "kind: PipelineTaskTemplate\nmetadata: \x7bname: " ++ name ++ "\x7d\nspec: \x7bbody: " ++ body ++
    "\x7d"

/-- A directory with two task templates, one of them in a directory of its own, with a manifest of
another kind and with a note. -/
def tasksTree : FileTree where
  files := [(["tasks", "hello.yaml"], taskText "hello" "echo hello"),
    (["tasks", "build", "maven.yml"], taskText "maven" "mvn package"),
    (["tasks", "notes.txt"], "kind: ["), (["tasks", "pipeline.yaml"], "kind: PipelineTemplate")]
  directories := []

/-- A directory with two task templates of one name. -/
def doubledTree : FileTree where
  files := [(["tasks", "more", "hello.yml"], taskText "hello" "echo bye"),
    (["tasks", "hello.yaml"], taskText "hello" "echo hello")]
  directories := []

theorem tasksTree_proper : tasksTree.Proper where
  distinct := by decide
  leaf := by decide
  named := by decide

theorem doubledTree_proper : doubledTree.Proper where
  distinct := by decide
  leaf := by decide
  named := by decide

theorem manifestPaths_tasksTree : tasksTree.manifestPaths ⟨["tasks"]⟩ =
    [⟨["tasks", "build", "maven.yml"]⟩, ⟨["tasks", "hello.yaml"]⟩,
      ⟨["tasks", "pipeline.yaml"]⟩] := by
  have hbelow : tasksTree.filesBelow ⟨["tasks"]⟩ = [⟨["tasks", "build", "maven.yml"]⟩,
      ⟨["tasks", "hello.yaml"]⟩, ⟨["tasks", "notes.txt"]⟩, ⟨["tasks", "pipeline.yaml"]⟩] :=
    Path.mergeSort_eq (.swap _ _ _) (by decide)
  rw [manifestPaths, hbelow]
  decide

theorem manifestPaths_doubledTree : doubledTree.manifestPaths ⟨["tasks"]⟩ =
    [⟨["tasks", "hello.yaml"]⟩, ⟨["tasks", "more", "hello.yml"]⟩] := by
  have hbelow : doubledTree.filesBelow ⟨["tasks"]⟩ =
      [⟨["tasks", "hello.yaml"]⟩, ⟨["tasks", "more", "hello.yml"]⟩] :=
    Path.mergeSort_eq (.swap _ _ _) (by decide)
  rw [manifestPaths, hbelow]
  decide

/-- The bodies of task templates that were loaded, or the messages of what is wrong. -/
def bodiesOf (x : Except Failure (Table TaskTemplate)) : Except (List String) (Table String) :=
  match x with
  | .ok loaded => .ok (loaded.map fun entry => (entry.1, entry.2.body))
  | .error (.error e) => .error (e.leaves.map Report.message)
  | .error (.fault _) => .error []

/-- The task templates of the one directory are loaded in the order of their paths, and the later of
two with one name is refused. -/
theorem taskTemplates_outcome_tasksTree :
    (tasksTree.Proper ∧ ∃ loaded files, tasksTree.taskTemplates ⟨["tasks"]⟩ = .ok loaded ∧
        bodiesOf (.ok loaded) = .ok [("maven", "mvn package"), ("hello", "echo hello")] ∧
        Sound files ∧ List.Forall₂ EntryOf (files.filter isTaskFile) loaded ∧
        ∀ f, f ∈ files ↔
          tasksTree.HoldsBelow ⟨["tasks"]⟩ f.1 f.2 ∧ f.1.suffix ∈ manifestSuffixes) ∧
      doubledTree.Proper ∧ ∃ failure before f, doubledTree.taskTemplates ⟨["tasks"]⟩ = .error failure ∧
        bodiesOf (.error failure) =
          .error ["task template hello is defined more than once (tasks/more/hello.yml)"] ∧
        Sound before ∧ Offends before f failure := by
  have hloaded : bodiesOf (tasksTree.taskTemplates ⟨["tasks"]⟩) =
      .ok [("maven", "mvn package"), ("hello", "echo hello")] := by
    rw [taskTemplates, manifestPaths_tasksTree]
    decide +kernel
  have hrefused : bodiesOf (doubledTree.taskTemplates ⟨["tasks"]⟩) =
      .error ["task template hello is defined more than once (tasks/more/hello.yml)"] := by
    rw [taskTemplates, manifestPaths_doubledTree]
    decide +kernel
  refine ⟨⟨tasksTree_proper, ?_⟩, doubledTree_proper, ?_⟩
  · obtain ⟨files, -, hmem, hsound, hentries, -⟩ :=
      tasksTree_proper.taskTemplates_outcome ⟨["tasks"]⟩
    cases hok : tasksTree.taskTemplates ⟨["tasks"]⟩ with
    | ok loaded =>
      rw [hok] at hloaded
      exact ⟨loaded, files, rfl, hloaded, hsound.mp ⟨loaded, hok⟩, (hentries loaded hok).1, hmem⟩
    | error failure =>
      rw [hok] at hloaded
      cases failure <;> cases hloaded
  · obtain ⟨files, -, -, -, -, hfailure⟩ := doubledTree_proper.taskTemplates_outcome ⟨["tasks"]⟩
    cases herror : doubledTree.taskTemplates ⟨["tasks"]⟩ with
    | ok loaded =>
      rw [herror] at hrefused
      cases hrefused
    | error failure =>
      rw [herror] at hrefused
      obtain ⟨before, f, -, -, hbefore, hoffends⟩ := (hfailure failure).mp herror
      exact ⟨failure, before, f, rfl, hrefused, hbefore, hoffends⟩

end Yaml

end FileTree

end Jenkinsfile
