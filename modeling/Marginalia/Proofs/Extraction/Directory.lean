import Marginalia.Proofs.Extraction.Files
import Marginalia.Proofs.Extraction.Schedule

/-!
# A directory and its single files

The files of a listing are read one after the other, each as if it were read alone
but for the number it gets.  Their paths stay different when they are cleaned, so
their keys are different unless digests collide (`keysApart_tasks`).  With that, the
result for each file of a directory is the one for the file alone, whatever the turns
that the files take (`Options.extractDirectory_any_schedule`).
-/

namespace Marginalia

set_option autoImplicit false

/-- The text that the key of a file is the digest of. -/
def SourceFile.keyText (o : Options) (file : SourceFile) : Bytes :=
  [1, 0] ++ (file.hash ++ (file.path ++ ([0] ++ o.fingerprint)))

theorem SourceFile.key_eq_digest (o : Options) (file : SourceFile) :
    file.key o = Sha256.digest (file.keyText o) := by
  have version : [Payload.schema.toNat.toUInt8, (Payload.schema.toNat / 256).toUInt8] = [1, 0] := rfl
  rw [key, CacheKey.of, keyText, version]
  simp only [List.append_assoc]

theorem SourceFile.path_eq_of_keyText_eq {o : Options} {file file' : SourceFile}
    (same : file.keyText o = file'.keyText o) : file.path = file'.path := by
  have lengths : file.hash.length = file'.hash.length := by
    rw [hash, hash, Sha256.length_digest, Sha256.length_digest]
  rw [keyText, keyText, List.append_cancel_left_eq] at same
  exact List.append_cancel_right (List.append_inj same lengths).2

/-- The text of the key, if the file could be read. -/
def FileTask.keyText? (o : Options) (t : FileTask) : Option Bytes :=
  t.2.toOption.map (·.keyText o)

/-! ## Reading the files of a listing -/

/-- A file, or the reason why there is none, is what reading a path gives. -/
def Disk.ReadsAs (disk : Disk) (path : Bytes) : Except DiskError SourceFile → Prop
  | .error e => disk.read path = .error e
  | .ok file => ∃ raw id, disk.read path = .ok raw ∧
      file = { id, path := Path.clean path, content := (loadContent raw).1,
               flags := (loadContent raw).2 }

namespace FileSet

theorem map_fst_loadAll (s : FileSet) (disk : Disk) (paths : List Bytes) :
    (s.loadAll disk paths).2.map Prod.fst = paths := by
  induction paths generalizing s with
  | nil => rfl
  | cons path rest ih =>
    rw [loadAll]
    cases disk.read path with
    | error e => exact congrArg (path :: ·) (ih _)
    | ok raw => exact congrArg (path :: ·) (ih _)

/-- **Each file is read as if it were read alone**, up to its number. -/
theorem readsAs_of_mem_loadAll {s : FileSet} {disk : Disk} {paths : List Bytes} {t : FileTask}
    (member : t ∈ (s.loadAll disk paths).2) : disk.ReadsAs t.1 t.2 := by
  induction paths generalizing s with
  | nil => simp [loadAll] at member
  | cons path rest ih =>
    rw [loadAll] at member
    cases read : disk.read path with
    | error e =>
      rw [read] at member
      rcases List.mem_cons.1 member with rfl | member
      · exact read
      · exact ih member
    | ok raw =>
      rw [read] at member
      rcases List.mem_cons.1 member with rfl | member
      · exact ⟨raw, _, read, rfl⟩
      · exact ih member

end FileSet

/-- The files of a listing, as they are read for a directory. -/
def Disk.tasks (disk : Disk) (dir : Bytes) (paths : List Bytes) : List FileTask :=
  (({ base := dir } : FileSet).loadAll disk paths).2

section Tasks

variable {o : Options} {disk : Disk} {dir : Bytes} {paths : List Bytes} {i : Nat} {t : FileTask}

theorem Disk.path_of_task (task : (disk.tasks dir paths)[i]? = some t) : paths[i]? = some t.1 := by
  have paths := FileSet.map_fst_loadAll { base := dir } disk paths
  rw [← paths, List.getElem?_map]
  exact congrArg (Option.map Prod.fst) task

theorem Disk.length_tasks (disk : Disk) (dir : Bytes) (paths : List Bytes) :
    (disk.tasks dir paths).length = paths.length := by
  have paths := congrArg List.length (FileSet.map_fst_loadAll { base := dir } disk paths)
  rwa [List.length_map] at paths

/-- **Different files have different keys**, unless digests collide: the text of a key ends with the
clean path and the options, which are the same for all files. -/
theorem Disk.keysApart_tasks (distinct : (paths.map Path.clean).Nodup)
    (free : CollisionFree ((disk.tasks dir paths).filterMap (·.keyText? o))) :
    DirectoryRun.KeysApart o (disk.tasks dir paths) := by
  intro i j path path' file file' task task' same
  have member := List.mem_of_getElem? task
  have member' := List.mem_of_getElem? task'
  rw [SourceFile.key_eq_digest, SourceFile.key_eq_digest] at same
  have texts : file.keyText o = file'.keyText o := free _ (List.mem_filterMap.2 ⟨_, member, rfl⟩) _
    (List.mem_filterMap.2 ⟨_, member', rfl⟩) same
  have reads : disk.ReadsAs path (.ok file) := FileSet.readsAs_of_mem_loadAll member
  have reads' : disk.ReadsAs path' (.ok file') := FileSet.readsAs_of_mem_loadAll member'
  obtain ⟨_, _, -, rfl⟩ := reads
  obtain ⟨_, _, -, rfl⟩ := reads'
  have clean : Path.clean path = Path.clean path' := SourceFile.path_eq_of_keyText_eq texts
  have here : (paths.map Path.clean)[i]? = some (Path.clean path) := by
    rw [List.getElem?_map, path_of_task task]
    rfl
  have here' : (paths.map Path.clean)[j]? = some (Path.clean path) := by
    rw [List.getElem?_map, path_of_task task', clean]
    rfl
  obtain ⟨bound, -⟩ := List.getElem?_eq_some_iff.1 here
  exact (List.getElem?_inj bound distinct).1 (here.trans here'.symm)

end Tasks

/-! ## The result for a file -/

theorem Options.report_id (o : Options) (file : SourceFile) (id : Nat) (cached : Bool)
    (timing : List Phase) (p : Payload) :
    o.report { file with id } cached timing p
      = { o.report file cached timing p with fileId := id } :=
  rfl

/-- The number of a file shows in its result and nowhere else. -/
theorem Options.result_extractFile_id [GoParser] (o : Options) (cache : Option Cache) (name : Bytes)
    (file : SourceFile) (id : Nat) :
    (o.extractFile cache name { file with id }).result
      = { (o.extractFile cache name file).result with fileId := id } := by
  have key : CacheKey.of file.path (SourceFile.hash { file with id }) o = file.key o := rfl
  have key' : CacheKey.of file.path file.hash o = file.key o := rfl
  have found : o.examine { file with id } = o.examine file := by rw [examine, examine]
  simp only [extractFile, key, key', found]
  cases cache.bind (·.get? (file.key o)) with
  | some p => exact o.report_id ..
  | none => exact o.report_id ..

/-- The result for a file of a directory is the one for the file alone, or says why there is none. -/
theorem Options.result_of_readsAs [GoParser] {o : Options} {disk : Disk} {path : Bytes}
    {loaded : Except DiskError SourceFile} (reads : disk.ReadsAs path loaded)
    (cache : Option Cache) :
    (∀ raw, disk.read path = .ok raw → ∃ files single id,
      o.extractPath false cache disk path = .ok (files, single) ∧
      (o.extractLoaded cache path loaded).result = { single.result with fileId := id }) ∧
    ∀ e, disk.read path = .error e → (o.extractLoaded cache path loaded).result
      = { path, error := some e.message, bag := some (Bag.new o.maxDiagnostics) } := by
  constructor
  · intro raw read
    match loaded, reads with
    | .error e, reads => exact absurd (read.symm.trans reads) (by simp)
    | .ok file, ⟨raw', id, read', shape⟩ =>
      have alone : o.extractPath false cache disk path
          = .ok (o.extractOnly cache path (loadContent raw').1 (loadContent raw').2) := by
        rw [extractPath, read']
        rfl
      refine ⟨_, _, id, alone, ?_⟩
      rw [shape]
      exact o.result_extractFile_id cache path
        { id := 0, path := Path.clean path, content := (loadContent raw').1,
          flags := (loadContent raw').2 } id
  · intro e read
    match loaded, reads with
    | .error e', reads =>
      obtain rfl : e' = e := Except.error.inj (reads.symm.trans read)
      rfl
    | .ok file, ⟨_, _, read', _⟩ => exact absurd (read.symm.trans read') (by simp)

/-- **A directory gives the results of its files, whatever the schedule.**  The results come in the order
of the listing, one for each path.  They are what every way to take turns delivers, as long as every
task has its two turns.  A file that can be read has the result that it has alone with the same cache,
apart from its number and the timing; a file that cannot be read has its path, the reason and an empty
bag. -/
theorem Options.extractDirectory_any_schedule [GoParser] (o : Options) (cache : Option Cache)
    {disk : Disk}
    {dir : Bytes} {paths : List Bytes} (tree : disk.IsTree)
    (listed : disk.listFiles dir o.extensions = .ok paths)
    (free : CollisionFree ((disk.tasks dir paths).filterMap (·.keyText? o))) :
    paths.Pairwise (· < ·) ∧
    ∃ outcome, o.extractDirectory false cache disk dir = .ok outcome ∧
      outcome.results.length = paths.length ∧
      (∀ turns : List Nat, (∀ i < paths.length, 2 ≤ turns.count i) →
        (DirectoryRun.after o (disk.tasks dir paths) cache turns).results
          = outcome.results.map some) ∧
      ∀ (i : Nat) (path : Bytes), paths[i]? = some path →
        ∃ r, outcome.results[i]? = some r ∧
          (∀ raw, disk.read path = .ok raw → ∃ files single,
            o.extractPath false cache disk path = .ok (files, single) ∧
            r = { single.result with fileId := r.fileId, timing := r.timing }) ∧
          ∀ e, disk.read path = .error e →
            r = { path, error := some e.message, bag := some (Bag.new o.maxDiagnostics) } := by
  obtain ⟨increasing, distinct⟩ := tree.listFiles_increasing listed
  have apart := Disk.keysApart_tasks distinct free
  have length := disk.length_tasks dir paths
  obtain ⟨outcome, ran, results⟩ : ∃ outcome, o.extractDirectory false cache disk dir = .ok outcome ∧
      outcome.results = (o.extractAll cache (disk.tasks dir paths)).1.map Outcome.result := by
    rw [extractDirectory, listed]
    exact ⟨_, rfl, rfl⟩
  rw [DirectoryRun.results_extractAll apart] at results
  refine ⟨increasing, outcome, ran, ?_, ?_, ?_⟩
  · rw [results, List.length_map, length]
  · intro turns complete
    rw [← length] at complete
    rw [DirectoryRun.results_of_complete apart complete, results, List.map_map]
    rfl
  · intro i path here
    obtain ⟨bound, -⟩ := List.getElem?_eq_some_iff.1 here
    rw [← length] at bound
    have task := List.getElem?_eq_getElem bound
    obtain rfl : (disk.tasks dir paths)[i].1 = path :=
      Option.some.inj ((Disk.path_of_task task).symm.trans here)
    have reads := FileSet.readsAs_of_mem_loadAll (List.getElem_mem bound)
    obtain ⟨readable, unreadable⟩ := result_of_readsAs (o := o) reads cache
    refine ⟨_, by rw [results, List.getElem?_map, task]; rfl, ?_, unreadable⟩
    intro raw read
    obtain ⟨files, single, id, alone, result⟩ := readable raw read
    exact ⟨files, single, alone, by rw [result]⟩

/-! ## Two files and a link to nothing -/

namespace Disk

/-- A directory with two files that have the same text, and a link between them that leads nowhere. -/
def filesAndLink : Disk where
  entries :=
    [([utf8 "d"], .dir), ([utf8 "d", utf8 "a.go"], .file (utf8 "// note")),
     ([utf8 "d", utf8 "b.go"], .link (utf8 "gone")),
     ([utf8 "d", utf8 "c.go"], .file (utf8 "// note"))]

/-- The paths of the directory. -/
def filesAndLinkPaths : List Bytes := [utf8 "d/a.go", utf8 "d/b.go", utf8 "d/c.go"]

theorem isTree_filesAndLink : filesAndLink.IsTree where
  distinct := by decide
  names := by decide

theorem at?_filesAndLink :
    filesAndLink.at? [utf8 "d"] = some .dir ∧
    filesAndLink.at? [utf8 "d", utf8 "a.go"] = some (.file (utf8 "// note")) ∧
    filesAndLink.at? [utf8 "d", utf8 "b.go"] = some (.link (utf8 "gone")) ∧
    filesAndLink.at? [utf8 "d", utf8 "gone"] = none ∧
    filesAndLink.at? [utf8 "d", utf8 "c.go"] = some (.file (utf8 "// note")) := by
  decide

theorem start_filesAndLink :
    filesAndLink.start (utf8 "d") = .ok ([utf8 "d"], []) ∧
    filesAndLink.start (utf8 "d/a.go") = .ok ([utf8 "d", utf8 "a.go"], []) ∧
    filesAndLink.start (utf8 "d/b.go") = .ok ([utf8 "d", utf8 "b.go"], []) ∧
    filesAndLink.start (utf8 "d/c.go") = .ok ([utf8 "d", utf8 "c.go"], []) := by
  decide

/-- The walk along these elements takes each of them for a name. -/
theorem names_filesAndLink :
    ∀ name ∈ [utf8 "d", utf8 "a.go", utf8 "b.go", utf8 "c.go", utf8 "gone"],
      ¬ (name = [] ∨ name = Path.here) ∧ name ≠ Path.up ∧ ¬ 255 < name.length := by
  decide

theorem find_filesAndLink : filesAndLink.find false (utf8 "d") = .ok ([utf8 "d"], .dir) := by
  simp [find, start_filesAndLink, walk, at?_filesAndLink, names_filesAndLink]

theorem read_filesAndLink :
    filesAndLink.read (utf8 "d/a.go") = .ok (utf8 "// note") ∧
    filesAndLink.read (utf8 "d/b.go") = .error ⟨utf8 "open", utf8 "d/b.go", .notFound⟩ ∧
    filesAndLink.read (utf8 "d/c.go") = .ok (utf8 "// note") := by
  have target : Path.elements (utf8 "gone") = [utf8 "gone"] ∧
      Path.isAbsolute (utf8 "gone") = false := by
    decide
  refine ⟨?_, ?_, ?_⟩
  · simp [read, find, start_filesAndLink, walk, at?_filesAndLink, names_filesAndLink]
  · simp [read, find, start_filesAndLink, walk, at?_filesAndLink, names_filesAndLink, linkBudget,
      target]
  · simp [read, find, start_filesAndLink, walk, at?_filesAndLink, names_filesAndLink]

theorem children_filesAndLink : filesAndLink.children [utf8 "d"] =
    [(utf8 "a.go", .file (utf8 "// note")), (utf8 "b.go", .link (utf8 "gone")),
     (utf8 "c.go", .file (utf8 "// note"))] := by
  rw [children, List.mergeSort_of_pairwise (by decide)]
  decide

theorem list_filesAndLink : filesAndLink.list (utf8 "d") = .ok
    [(utf8 "a.go", .file (utf8 "// note")), (utf8 "b.go", .link (utf8 "gone")),
     (utf8 "c.go", .file (utf8 "// note"))] := by
  have found : filesAndLink.find true (utf8 "d") = .ok ([utf8 "d"], .dir) := by
    simp [find, start_filesAndLink, walk, at?_filesAndLink, names_filesAndLink]
  rw [list, found]
  simp only [children_filesAndLink]

theorem listFiles_filesAndLink :
    filesAndLink.listFiles (utf8 "d") [utf8 ".go"] = .ok filesAndLinkPaths := by
  have wanted : ∀ path ∈ filesAndLinkPaths, hasExtension [utf8 ".go"] path = true := by
    have extensions : ∀ path ∈ filesAndLinkPaths, Path.extension path ∈ [utf8 ".go"] := by
      decide
    exact fun path member => hasExtension_of_mem (extensions path member)
  have joined : [utf8 "a.go", utf8 "b.go", utf8 "c.go"].map (fun name => Path.join [utf8 "d", name])
      = filesAndLinkPaths := by
    decide
  rw [← joined] at wanted
  have below : filesAndLink.filesBelow (hasExtension [utf8 ".go"])
      (filesAndLink.entries.length + 2) (utf8 "d") = .ok filesAndLinkPaths := by
    rw [← joined]
    refine filesBelow_succ_eq_ok_iff.2
      ⟨_, fun child => [Path.join [utf8 "d", child.1]], list_filesAndLink, ?_, rfl⟩
    simpa [filesAt, Entry.isDir] using wanted
  simp only [listFiles, find_filesAndLink, below, Except.map]
  rw [List.mergeSort_of_pairwise (by decide)]

theorem digest_filesAndLink_ne :
    Sha256.digest ([1, 0] ++ (Sha256.digest (utf8 "// note") ++ (utf8 "d/a.go" ++ [0])))
      ≠ Sha256.digest ([1, 0] ++ (Sha256.digest (utf8 "// note") ++ (utf8 "d/c.go" ++ [0]))) := by
  decide +kernel

theorem collisionFree_filesAndLink : CollisionFree
    ((filesAndLink.tasks (utf8 "d") filesAndLinkPaths).filterMap
      (·.keyText? { extensions := [utf8 ".go"] })) := by
  obtain ⟨first, link, last⟩ := read_filesAndLink
  have clean : Path.clean (utf8 "d/a.go") = utf8 "d/a.go" ∧
      Path.clean (utf8 "d/c.go") = utf8 "d/c.go" := by
    decide
  have content : (loadContent (utf8 "// note")).1 = utf8 "// note" := by decide
  have fingerprint : ({ extensions := [utf8 ".go"] } : Options).fingerprint = [] := by
    rw [Options.fingerprint, List.mergeSort_nil]
    rfl
  simp only [tasks, filesAndLinkPaths, FileSet.loadAll, first, link, last, List.filterMap_cons,
    List.filterMap_nil, FileTask.keyText?, SourceFile.keyText, Except.toOption, Option.map_some,
    Option.map_none, clean, content, fingerprint, SourceFile.hash, List.append_nil]
  exact collisionFree_pair digest_filesAndLink_ne

end Disk

/-- The last file looks into the cache before the first one has kept anything there, and the link is
found to lead nowhere in between. -/
theorem Options.extractDirectory_filesAndLink :
    Disk.filesAndLink.IsTree ∧
    Disk.filesAndLink.listFiles (utf8 "d") [utf8 ".go"] = .ok Disk.filesAndLinkPaths ∧
    CollisionFree ((Disk.filesAndLink.tasks (utf8 "d") Disk.filesAndLinkPaths).filterMap
      (·.keyText? { extensions := [utf8 ".go"] })) ∧
    ∃ outcome, ({ extensions := [utf8 ".go"] } : Options).extractDirectory false (some {})
        Disk.filesAndLink (utf8 "d") = .ok outcome ∧
      (DirectoryRun.after { extensions := [utf8 ".go"] }
        (Disk.filesAndLink.tasks (utf8 "d") Disk.filesAndLinkPaths) (some {})
        [2, 0, 1, 0, 2, 1]).results = outcome.results.map some ∧
      outcome.results[1]? = some
        { path := utf8 "d/b.go", error := some (utf8 "open d/b.go: no such file or directory")
          bag := some (Bag.new 0) } := by
  have tree := Disk.isTree_filesAndLink
  have listed := Disk.listFiles_filesAndLink
  have free := Disk.collisionFree_filesAndLink
  obtain ⟨-, outcome, ran, -, schedules, entries⟩ := Options.extractDirectory_any_schedule
    { extensions := [utf8 ".go"] } (some {}) tree listed free
  obtain ⟨r, here, -, unreadable⟩ := entries 1 (utf8 "d/b.go") rfl
  refine ⟨tree, listed, free, outcome, ran, schedules _ (by decide), ?_⟩
  rw [here, unreadable _ Disk.read_filesAndLink.2.1]
  rfl

end Marginalia
