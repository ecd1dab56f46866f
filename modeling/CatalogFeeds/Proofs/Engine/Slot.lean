import CatalogFeeds.Engine.Run
import CatalogFeeds.Proofs.Cache.Store
/-!
Where an engine keeps its payloads.

A call has a slot: a cache and a key in it, or nothing. Each key has one file, in the directory of
the engine.

* `file?_eq_some_iff` — the file of a key, for every key that is not empty.
* `cached?_eq_some_iff` — what counts as a fresh payload, in terms of the cache.
* `deposit_files` — storing a payload is one write.
-/

namespace CatalogFeeds.Engine

variable (engine : Engine) (around : Surroundings) (params : Params) (start : String)

/-! ### Files of an engine -/

/-- The name of the directory with the payloads of an engine. -/
def directory : String :=
  Segment.safeName engine.name false

/-- The text that the file of a key is named after. -/
def fileText (key : String) : String :=
  if FilePath.hasExtension key then key else key ++ ".json"

/-- The name of the file of a key. -/
def fileName (key : String) : String :=
  Segment.safeName (fileText key) true

/-- The names of the file of a key below the base directory of a cache, if the key has one. -/
def file? (key : String) : Option (List String) := do
  let entry ← engine.entryKey? key
  (PayloadStore.fileNames entry).toOption

variable {engine} in
/-- Every entry is a file in the directory of the engine. -/
theorem fileNames_of_entryKey? {key : String} {entry : List String}
    (h : engine.entryKey? key = some entry) :
    PayloadStore.fileNames entry = .ok [engine.directory, fileName key] := by
  unfold entryKey? at h
  split at h
  · simp at h
  · rw [← Option.some.inj h]
    rfl

variable {engine} in
theorem file?_of_entryKey? {key : String} {entry : List String}
    (h : engine.entryKey? key = some entry) :
    engine.file? key = some [engine.directory, fileName key] := by
  simp [file?, h, fileNames_of_entryKey? h, Except.toOption]

theorem entryKey?_of_ne {key : String} (filled : key ≠ "") :
    engine.entryKey? key = some [engine.name, fileText key] := by
  simp [entryKey?, filled, fileText]

variable {engine} in
/-- Every key that is not empty has a file. -/
theorem file?_eq_some_iff {key : String} {names : List String} :
    engine.file? key = some names ↔ key ≠ "" ∧ names = [engine.directory, fileName key] := by
  by_cases empty : key = ""
  · simp [file?, entryKey?, empty]
  · rw [file?_of_entryKey? (engine.entryKey?_of_ne empty), Option.some.injEq]
    exact ⟨fun same => ⟨empty, same.symm⟩, fun same => same.2.symm⟩

variable {engine} in
/-- All files of an engine are in its directory. -/
theorem directory_prefix_of_file? {key : String} {names : List String}
    (h : engine.file? key = some names) : [engine.directory] <+: names := by
  rw [(file?_eq_some_iff.mp h).2]
  exact List.cons_prefix_cons.mpr ⟨rfl, List.nil_prefix⟩

variable {engine} in
theorem not_prefix_of_file? {other key : String} {names : List String}
    (ne : other ≠ engine.directory) (h : engine.file? key = some names) :
    ¬ [other] <+: names := fun on => by
  rw [(file?_eq_some_iff.mp h).2] at on
  exact ne (List.cons_prefix_cons.mp on).1

/-! ### Slots -/

/-- The slot that the payload of a call is kept in, if it is kept at all. -/
def slot? : Option (PayloadStore × List String) :=
  engine.cacheSlot? around (params.entryName start)

theorem slot?_eq_some_iff {cache : PayloadStore} {key : List String} :
    engine.slot? around params start = some (cache, key) ↔
      around.cache = some cache ∧ engine.entryKey? (params.entryName start) = some key := by
  unfold slot? cacheSlot?
  cases around.cache with
  | none => simp
  | some store => cases engine.entryKey? (params.entryName start) <;> simp

/-- A fresh payload is a file that is not empty and was not last written before the instant from
which on payloads are fresh. -/
theorem cached?_eq_some_iff {cache : PayloadStore} {key : List String} {files : FileTree}
    {body : ByteArray} :
    engine.cached? around files (some (cache, key)) = some body ↔
      body.isEmpty = false ∧
        cache.freshEntry files key (engine.staleBefore around.now) = .ok (some body) := by
  simp only [cached?, Option.bind_eq_bind, Option.bind_some]
  split
  · rename_i stored found
    rw [found]
    cases empty : stored.isEmpty with
    | true =>
      simp only [if_true, reduceCtorEq, Except.ok.injEq, Option.some.injEq, false_iff, not_and]
      rintro filled rfl
      simp [empty] at filled
    | false =>
      simp only [Bool.false_eq_true, if_false, Except.ok.injEq, Option.some.injEq]
      exact ⟨fun same => ⟨same ▸ empty, same⟩, And.right⟩
  · rename_i missing
    simp only [reduceCtorEq, false_iff, not_and]
    exact fun _ found => missing _ found

/-! ### Storing -/

/-- The payload that a body from the network becomes, and the files after it has been stored. -/
def deposit (slot : Option (PayloadStore × List String)) (files : FileTree) (body : ByteArray)
    (storage : Storage := .sound) : Payload × FileTree :=
  match slot with
  | none => ({ body, origin := .network }, files)
  | some (cache, entry) =>
    match cache.write around.now files entry body storage with
    | (.ok names, files) => ({ body, origin := .network, storedAt := some names }, files)
    | (.error error, files) => ({ body, origin := .network, storeError := some error }, files)

@[simp] theorem deposit_body (slot : Option (PayloadStore × List String)) (files : FileTree)
    (body : ByteArray) (storage : Storage) :
    (deposit around slot files body storage).1.body = body := by
  unfold deposit
  split
  · rfl
  · split <;> rfl

@[simp] theorem deposit_origin (slot : Option (PayloadStore × List String)) (files : FileTree)
    (body : ByteArray) (storage : Storage) :
    (deposit around slot files body storage).1.origin = .network := by
  unfold deposit
  split
  · rfl
  · split <;> rfl

/-- The files afterwards are those of the write, if there is one. -/
theorem deposit_files (slot : Option (PayloadStore × List String)) (files : FileTree)
    (body : ByteArray) (storage : Storage) :
    (deposit around slot files body storage).2 =
      slot.elim files fun (cache, key) => (cache.write around.now files key body storage).2 := by
  rcases slot with _ | ⟨cache, key⟩
  · rfl
  · simp only [deposit, Option.elim_some]
    rcases cache.write around.now files key body storage with ⟨_ | _, _⟩ <;> rfl

end CatalogFeeds.Engine
