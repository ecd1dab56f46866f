import CatalogFeeds.Cache.Store
import CatalogFeeds.Proofs.Files.Storage
import CatalogFeeds.Proofs.Results
/-!
What the cache reads and writes.

* `freshEntry_eq_some_iff` — an entry is found exactly if there is a file at its path that was
  not last written before the given instant.
* `write_ends` — in any storage a write leaves all files as they are, or it has opened the file of
  its key and set it to what there was room for.
* `write_stores`, `write_failure_keeps` — so a write that succeeds sets the one file of its key and
  no other, and a write that fails changes no file at all where files take whole contents.
* `write_congr` — what a write says, and what it leaves at its place, depends on what is at that
  place and on nothing else in the tree (`SameSight`).
* `SameSight.write` — a write elsewhere does not show there.
-/

namespace CatalogFeeds.PayloadStore

open CatalogFeeds.Time CatalogFeeds.FileTree

variable {cache : PayloadStore} {files : FileTree} {key names : List String} {now : Instant}
  {content : ByteArray} {storage : Storage}

/-! ### Reading and writing one file -/

theorem freshContent_eq_some_iff {found : FileTree} {staleBefore : Instant} :
    freshContent found staleBefore = .ok (some content) ↔
      ∃ modified, found = .file content modified ∧ modified.isBefore staleBefore = false := by
  cases found with
  | file stored modified =>
    cases stale : modified.isBefore staleBefore with
    | true =>
      simp only [freshContent, FileTree.modified, stale, if_true, Except.ok.injEq, reduceCtorEq,
        false_iff]
      rintro ⟨_, same, fresh⟩
      cases same
      simp [stale] at fresh
    | false =>
      simp only [freshContent, FileTree.modified, stale, Bool.false_eq_true, if_false,
        Except.ok.injEq, Option.some.injEq]
      constructor
      · rintro rfl
        exact ⟨modified, rfl, stale⟩
      · rintro ⟨_, same, -⟩
        cases same
        rfl
  | directory modified entries =>
    cases stale : modified.isBefore staleBefore <;>
      simp [freshContent, FileTree.modified, stale]

/-- **What is found in a cache.** -/
theorem freshEntry_eq_some_iff {staleBefore : Instant} :
    cache.freshEntry files key staleBefore = .ok (some content) ↔
      ∃ names, fileNames key = .ok names ∧ ∃ modified,
        files.fileAt? (cache.place ++ names) = some (content, modified) ∧
          modified.isBefore staleBefore = false := by
  unfold freshEntry
  cases named : fileNames key with
  | error error => simp [bind, Except.bind]
  | ok names =>
    have view : files.at? (cache.place ++ names) = (files.find (cache.place ++ names)).toOption :=
      rfl
    simp only [bind, Except.bind, Except.ok.injEq, exists_eq_left', fileAt?_eq_some_iff, view]
    cases found : files.find (cache.place ++ names) with
    | error cause =>
      cases cause <;> simp [Except.toOption, throw, throwThe, MonadExceptOf.throw, pure,
        Except.pure]
    | ok there =>
      simp only [Except.toOption, Option.some.injEq, ← freshContent_eq_some_iff]
      exact mapError_eq_ok_iff

theorem write_of_stopped {between : FileTree} {cause : OsError} (named : fileNames key = .ok names)
    (stopped : files.makeThrough storage now (cache.place ++ names.dropLast) =
      (between, some cause)) :
    cache.write now files key content storage =
      (.error (.directoryCreation (cache.filePath names.dropLast) cause), between) := by
  simp only [write, named, stopped]

theorem write_of_made {between after : FileTree} {failed : Option OsError}
    (named : fileNames key = .ok names)
    (made : files.makeThrough storage now (cache.place ++ names.dropLast) = (between, none))
    (ended : between.writeThrough storage now content (cache.place ++ names) = (after, failed)) :
    cache.write now files key content storage =
      (failed.elim (.ok names) fun cause => .error (.write (cache.filePath names) cause),
        after) := by
  simp only [write, named, made, ended]
  cases failed <;> rfl

variable (cache) in
/-- **The three ways a write ends**: its directory cannot be made, its file cannot be written, or
the file is there. -/
theorem write_cases (now : Instant) (files : FileTree) (content : ByteArray)
    (named : fileNames key = .ok names) :
    let directory := cache.place ++ names.dropLast
    let made := (files.makeDirectories now directory).1
    (∃ cause, files.obstacle? directory = some cause ∧ cache.write now files key content =
        (.error (.directoryCreation (cache.filePath names.dropLast) cause), made)) ∨
      files.obstacle? directory = none ∧
        ((∃ cause, made.writeFile now content (cache.place ++ names) = .error cause ∧
            cache.write now files key content =
              (.error (.write (cache.filePath names) cause), made)) ∨
          ∃ written, made.writeFile now content (cache.place ++ names) = .ok written ∧
            cache.write now files key content = (.ok names, written)) := by
  intro directory made
  rw [← makeDirectories_snd now]
  cases outcome : files.makeDirectories now (cache.place ++ names.dropLast) with
  | mk after failed =>
    have same : made = after := congrArg Prod.fst outcome
    rw [← makeThrough_sound] at outcome
    cases failed with
    | some cause => exact .inl ⟨cause, rfl, by rw [same]; exact write_of_stopped named outcome⟩
    | none =>
      refine .inr ⟨rfl, ?_⟩
      cases step : after.writeFile now content (cache.place ++ names) with
      | error cause =>
        refine .inl ⟨cause, by rw [same, step], ?_⟩
        rw [same]
        exact write_of_made named outcome (writeThrough_sound_of_error step)
      | ok written =>
        refine .inr ⟨written, by rw [same, step], ?_⟩
        exact write_of_made named outcome (writeThrough_sound_of_ok step)

variable (cache) in
/-- **What a write leaves**, in any storage: all files as they are and an error, or the file of its
key with what has been taken of the content. -/
theorem write_ends (storage : Storage) (now : Instant) (files : FileTree) (content : ByteArray)
    (named : fileNames key = .ok names) :
    let place := cache.place ++ names
    let after := cache.write now files key content storage
    (∃ error, after.1 = .error error ∧ ∀ path, after.2.fileAt? path = files.fileAt? path) ∨
      after.1 = (storage.taken place content).2.elim (.ok names)
          (fun cause => .error (.write (cache.filePath names) cause)) ∧
      ∀ path, after.2.fileAt? path =
        if path = place then some ((storage.taken place content).1, now)
        else files.fileAt? path := by
  intro place after
  have kept := fileAt?_makeThrough storage now files (cache.place ++ names.dropLast)
  rcases outcome : files.makeThrough storage now (cache.place ++ names.dropLast) with
    ⟨between, stopped | cause⟩
  · rw [outcome] at kept
    rcases writeThrough_cases storage now content between place with
      ⟨cause, ended⟩ | ⟨written, step, ended⟩
    · left
      rw [show after = _ from write_of_made named outcome ended]
      exact ⟨_, rfl, kept⟩
    · right
      rw [show after = _ from write_of_made named outcome ended]
      refine ⟨rfl, fun path => ?_⟩
      split
      · rename_i own
        rw [own]
        exact fileAt?_writeFile_self step
      · rename_i ne
        rw [fileAt?_writeFile_of_ne step ne, kept path]
  · rw [outcome] at kept
    left
    rw [show after = _ from write_of_stopped named outcome]
    exact ⟨_, rfl, kept⟩

/-- A write that succeeds sets the file of its key and no other. -/
theorem write_stores (h : (cache.write now files key content storage).1 = .ok names) :
    fileNames key = .ok names ∧
      ∀ path, (cache.write now files key content storage).2.fileAt? path =
        if path = cache.place ++ names then some (content, now) else files.fileAt? path := by
  cases named : fileNames key with
  | error error => simp [write, named] at h
  | ok found =>
    rcases write_ends cache storage now files content named with
      ⟨error, failed, -⟩ | ⟨told, shown⟩
    · simp [failed] at h
    · rcases storage.taken_cases (cache.place ++ found) content with all | ⟨count, cause, -, part⟩
      · rw [all] at told shown
        obtain rfl := Except.ok.inj (told.symm.trans h)
        exact ⟨rfl, shown⟩
      · rw [part] at told
        simp [told] at h

/-- A write that fails changes no file, or has broken off amid the file of its key. -/
theorem write_failure_breaks {error : StoreError}
    (h : (cache.write now files key content storage).1 = .error error) :
    (∀ path, (cache.write now files key content storage).2.fileAt? path = files.fileAt? path) ∨
      ∃ names count cause, fileNames key = .ok names ∧
        storage.filling (cache.place ++ names) content = some (count, cause) ∧
        ∀ path, (cache.write now files key content storage).2.fileAt? path =
          if path = cache.place ++ names then some (content.extract 0 count, now)
          else files.fileAt? path := by
  cases named : fileNames key with
  | error error => exact .inl fun path => by simp [write, named]
  | ok found =>
    rcases write_ends cache storage now files content named with
      ⟨error, -, kept⟩ | ⟨told, shown⟩
    · exact .inl kept
    · rcases storage.taken_cases (cache.place ++ found) content with
        all | ⟨count, cause, full, part⟩
      · rw [all] at told
        simp [told] at h
      · rw [part] at shown
        exact .inr ⟨found, count, cause, rfl, full, shown⟩

/-- A write that fails changes no file where files take whole contents. -/
theorem write_failure_keeps (whole : storage.TakesWhole) {error : StoreError}
    (h : (cache.write now files key content storage).1 = .error error) (path : List String) :
    (cache.write now files key content storage).2.fileAt? path = files.fileAt? path := by
  rcases write_failure_breaks h with kept | ⟨names, count, cause, -, full, -⟩
  · exact kept path
  · simp [whole _ _] at full

/-! ### What shows at a place -/

/-- Two trees show the same at a place below a directory: the directory can be made in both or
is kept from being made for the same reason, and the same is at the place. -/
structure SameSight (directory place : List String) (tree tree' : FileTree) : Prop where
  obstacle : tree.obstacle? directory = tree'.obstacle? directory
  content : tree.at? (directory ++ place) = tree'.at? (directory ++ place)

namespace SameSight

variable {directory place : List String} {tree tree' tree'' : FileTree}

theorem refl (directory place : List String) (tree : FileTree) :
    SameSight directory place tree tree :=
  ⟨rfl, rfl⟩

theorem symm (h : SameSight directory place tree tree') : SameSight directory place tree' tree :=
  ⟨h.obstacle.symm, h.content.symm⟩

theorem trans (h : SameSight directory place tree tree')
    (h' : SameSight directory place tree' tree'') : SameSight directory place tree tree'' :=
  ⟨h.obstacle.trans h'.obstacle, h.content.trans h'.content⟩

/-- The same file is at every path below the place, or none. -/
theorem fileAt? {path : List String} (h : SameSight directory place tree tree')
    (below : place <+: path) :
    tree.fileAt? (directory ++ path) = tree'.fileAt? (directory ++ path) := by
  obtain ⟨rest, rfl⟩ := below
  refine fileAt?_congr ?_
  rw [← List.append_assoc, at?_append tree, at?_append tree', h.content]

/-- Making a directory shows the same at its place afterwards if it did before. -/
theorem makeDirectories (h : SameSight directory place tree tree') (now : Instant)
    (nonempty : directory ≠ []) :
    SameSight directory place (tree.makeDirectories now directory).1
      (tree'.makeDirectories now directory).1 := by
  refine ⟨by simp only [obstacle?_makeDirectories, h.obstacle], ?_⟩
  cases place with
  | cons name rest =>
    have off : ¬ directory ++ name :: rest <+: directory := fun on => by
      have := on.length_le
      rw [List.length_append, List.length_cons] at this
      omega
    simp only [at?_makeDirectories now _ off, h.content]
  | nil =>
    have same : tree.at? directory = tree'.at? directory := by simpa using h.content
    have left := at?_makeDirectories_self now tree nonempty
    have right := at?_makeDirectories_self now tree' nonempty
    rw [makeDirectories_snd] at left right
    rw [← h.obstacle, ← same] at right
    cases obstacle : tree.obstacle? directory with
    | some cause =>
      simp only [obstacle] at left right
      simp [left, right]
    | none =>
      simp only [obstacle] at left right
      obtain ⟨m, es, shown, origin⟩ := left
      obtain ⟨m', es', shown', origin'⟩ := right
      simp [shown, shown', origin, origin']

/-- Writing a file into a directory that is there ends the same way in both trees, and shows the
same afterwards at the directory and at the file. -/
theorem writeFile {name : String} {m m' : Instant} {es es' : List (String × FileTree)}
    (h : SameSight directory place tree tree') (within : place <+: [name])
    (here : tree.at? directory = some (.directory m es))
    (here' : tree'.at? directory = some (.directory m' es')) (now : Instant)
    (content : ByteArray) :
    (∃ cause, tree.writeFile now content (directory ++ [name]) = .error cause ∧
        tree'.writeFile now content (directory ++ [name]) = .error cause) ∨
      ∃ written written', tree.writeFile now content (directory ++ [name]) = .ok written ∧
        tree'.writeFile now content (directory ++ [name]) = .ok written' ∧
        SameSight directory place written written' := by
  have atDirectory : place = [] → tree.at? directory = tree'.at? directory := by
    rintro rfl
    simpa using h.content
  have short : place = [] ∨ place = [name] := by
    cases place with
    | nil => exact .inl rfl
    | cons first rest => simpa using within
  have atFile : tree.at? (directory ++ [name]) = tree'.at? (directory ++ [name]) := by
    rcases short with rfl | rfl
    · rw [at?_append, at?_append, atDirectory rfl]
    · exact h.content
  have left := writeFile_append_single name now content here
  have right := writeFile_append_single name now content here'
  rw [← atFile] at right
  cases refusal : refusal? name (tree.at? (directory ++ [name])) with
  | some cause =>
    simp only [refusal] at left right
    exact .inl ⟨cause, left, right⟩
  | none =>
    simp only [refusal] at left right
    obtain ⟨written, ok⟩ := left
    obtain ⟨written', ok'⟩ := right
    have off : ¬ directory ++ [name] <+: directory := fun on => by
      have := on.length_le
      rw [List.length_append, List.length_singleton] at this
      omega
    refine .inr ⟨written, written', ok, ok', ?_, ?_⟩
    · rw [obstacle?_writeFile ok off, obstacle?_writeFile ok' off, h.obstacle]
    · rcases short with rfl | rfl
      · -- The directory is the same in both trees, and so it is after the same write.
        have same : some (FileTree.directory m es) = some (FileTree.directory m' es') := by
          rw [← here, ← here', atDirectory rfl]
        have inside := map_at?_writeFile now content here
          (List.cons_ne_nil name [])
        have inside' := map_at?_writeFile now content here'
          (List.cons_ne_nil name [])
        rw [Option.some.inj same, ← inside', ok, ok'] at inside
        simpa [Except.map] using inside
      · rw [at?_writeFile_self ok, at?_writeFile_self ok']

end SameSight

/-! ### Writes and what they show -/

variable {files' : FileTree} {directories place : List String} {last : String}

/-- **What a write depends on.** Where two trees show the same at the place of an entry, or at
the directory it is in, a write says the same in both and they show the same afterwards. -/
theorem write_congr (named : fileNames key = .ok (directories ++ [last]))
    (nonempty : cache.place ++ directories ≠ []) (within : place <+: [last])
    (h : SameSight (cache.place ++ directories) place files files') (now : Instant)
    (content : ByteArray) :
    (cache.write now files key content).1 = (cache.write now files' key content).1 ∧
      SameSight (cache.place ++ directories) place (cache.write now files key content).2
        (cache.write now files' key content).2 := by
  have made := h.makeDirectories now nonempty
  have left := write_cases cache now files content named
  have right := write_cases cache now files' content named
  simp only [List.dropLast_concat, ← List.append_assoc] at left right
  rw [← h.obstacle] at right
  cases obstacle : files.obstacle? (cache.place ++ directories) with
  | some cause =>
    simp only [obstacle, Option.some.injEq, reduceCtorEq, false_and, or_false,
      exists_eq_left'] at left right
    rw [left, right]
    exact ⟨rfl, made⟩
  | none =>
    simp only [obstacle, reduceCtorEq, false_and, exists_false, false_or, true_and] at left right
    have free := obstacle
    have free' := h.obstacle.symm.trans obstacle
    rw [← makeDirectories_snd now] at free free'
    have there := at?_makeDirectories_self now files nonempty
    have there' := at?_makeDirectories_self now files' nonempty
    simp only [free, free'] at there there'
    obtain ⟨m, es, here, -⟩ := there
    obtain ⟨m', es', here', -⟩ := there'
    rcases made.writeFile within here here' now content with
      ⟨cause, failed, failed'⟩ | ⟨written, written', ok, ok', same⟩
    · simp only [failed, failed', Except.error.injEq, reduceCtorEq, false_and, exists_false,
        or_false, exists_eq_left'] at left right
      rw [left, right]
      exact ⟨rfl, made⟩
    · simp only [ok, ok', Except.ok.injEq, reduceCtorEq, false_and, exists_false, false_or,
        exists_eq_left'] at left right
      rw [left, right]
      exact ⟨rfl, same⟩

/-- A write does not show at a place that its path neither leads through nor leads to. -/
theorem SameSight.write {directory : List String} (named : fileNames key = .ok names)
    (off : ¬ directory ++ place <+: cache.place ++ names)
    (beside : ¬ cache.place ++ names <+: directory) (now : Instant) (files : FileTree)
    (content : ByteArray) :
    SameSight directory place (cache.write now files key content).2 files := by
  have offDirectory : ¬ directory ++ place <+: cache.place ++ names.dropLast := fun on =>
    off (on.trans ((List.prefix_append_right_inj _).mpr names.dropLast_prefix))
  have made : SameSight directory place
      (files.makeDirectories now (cache.place ++ names.dropLast)).1 files :=
    ⟨obstacle?_makeDirectories .., at?_makeDirectories now files offDirectory⟩
  rcases write_cases cache now files content named with
    ⟨cause, -, outcome⟩ | ⟨-, ⟨cause, -, outcome⟩ | ⟨written, step, outcome⟩⟩
  · rw [outcome]
    exact made
  · rw [outcome]
    exact made
  · rw [outcome]
    exact .trans ⟨obstacle?_writeFile step beside, at?_writeFile step off⟩ made

end CatalogFeeds.PayloadStore
