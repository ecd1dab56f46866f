import CatalogFeeds.Proofs.Engine.Exchange
/-!
Where in the file tree a run matters.

All payloads of an engine are in one directory, in one file for each key. What a run gives and
sends depends on what shows at its file and on nothing else, and what it does to the tree shows
at its file and in its directory and nowhere else.

* `SeesOnly.andThen`, `HiddenFrom.andThen` — both properties of steps carry over to one step after
  another.
* `run_seesOnly` — a run sees its own file, or its own directory.
* `run_hiddenFrom` — a run does not show at another file or in another directory.
* `fileAt?_run` — a run leaves every file as it is that is not its own.
-/

namespace CatalogFeeds

open PayloadStore RunM

/-! ### Steps of a session -/

section Steps

variable {α β : Type} {directory place : List String}

/-- What a step gives and sends depends on the files only by what shows at a place, and so does
what shows there afterwards. -/
def SeesOnly (directory place : List String) (step : Session → α × Session) : Prop :=
  ∀ session session' : Session, SameSight directory place session.files session'.files →
    (step session).1 = (step session').1 ∧
      (∃ requests, (step session).2.sent = session.sent ++ requests ∧
        (step session').2.sent = session'.sent ++ requests) ∧
      SameSight directory place (step session).2.files (step session').2.files

/-- A step does not show at a place. -/
def HiddenFrom (directory place : List String) (step : Session → α × Session) : Prop :=
  ∀ session : Session, SameSight directory place (step session).2.files session.files

theorem SeesOnly.pure (a : α) : SeesOnly directory place (a, ·) :=
  fun _ _ same => ⟨rfl, ⟨[], by simp⟩, same⟩

theorem SeesOnly.andThen {first : Session → α × Session} {second : α → Session → β × Session}
    (h : SeesOnly directory place first) (h' : ∀ a, SeesOnly directory place (second a)) :
    SeesOnly directory place fun session => second (first session).1 (first session).2 := by
  intro session session' same
  obtain ⟨result, ⟨requests, sent, sent'⟩, between⟩ := h session session' same
  obtain ⟨result', ⟨more, later, later'⟩, afterwards⟩ := h' (first session).1 _ _ between
  simp only [← result]
  refine ⟨result', ⟨requests ++ more, ?_, ?_⟩, afterwards⟩
  · rw [later, sent, List.append_assoc]
  · rw [later', sent', List.append_assoc]

theorem HiddenFrom.pure (a : α) : HiddenFrom directory place (a, ·) :=
  fun session => .refl directory place session.files

theorem HiddenFrom.andThen {first : Session → α × Session} {second : α → Session → β × Session}
    (h : HiddenFrom directory place first) (h' : ∀ a, HiddenFrom directory place (second a)) :
    HiddenFrom directory place fun session => second (first session).1 (first session).2 :=
  fun session => (h' _ _).trans (h session)

/-- Any number of steps that are hidden from a place are hidden from it together. -/
theorem HiddenFrom.foldl {ι : Type} {step : ι → Session → α × Session} (items : List ι)
    (h : ∀ item ∈ items, HiddenFrom directory place (step item)) (session : Session) :
    SameSight directory place
      (items.foldl (fun session item => (step item session).2) session).files session.files := by
  induction items generalizing session with
  | nil => exact .refl directory place session.files
  | cons item items ih =>
    have later := ih (fun other mem => h other (List.mem_cons_of_mem item mem)) (step item session).2
    exact later.trans (h item List.mem_cons_self session)

end Steps

/-- Surroundings use at most one cache; without any, which one is said does not matter. -/
theorem Surroundings.exists_cache (around : Surroundings) :
    ∃ cache, ∀ store, around.cache = some store → store = cache := by
  cases around.cache with
  | none => exact ⟨⟨"", []⟩, by simp⟩
  | some cache => exact ⟨cache, by simp⟩

/-! ### Runs -/

namespace Engine

variable {α : Type} {engine : Engine} {around : Surroundings} {endpoint : Endpoint}
  {read : Json → Except ShapeError α} {params : Params} {start : String} {cache : PayloadStore}

theorem cached?_congr {entry : List String} {files files' : FileTree} {names : List String}
    (named : fileNames entry = .ok names)
    (same : files.fileAt? (cache.place ++ names) = files'.fileAt? (cache.place ++ names)) :
    engine.cached? around files (some (cache, entry)) =
      engine.cached? around files' (some (cache, entry)) := by
  ext body
  simp only [cached?_eq_some_iff, freshEntry_eq_some_iff, named, Except.ok.injEq, exists_eq_left',
    same]

variable {directory : String} {place : List String}

theorem deposit_congr
    (within : ∀ names, engine.file? (params.entryName start) = some names →
      directory :: place <+: names)
    (uses : ∀ store, around.cache = some store → store = cache) {files files' : FileTree}
    (same : SameSight (cache.place ++ [directory]) place files files') (body : ByteArray) :
    (deposit around (engine.slot? around params start) files body).1 =
        (deposit around (engine.slot? around params start) files' body).1 ∧
      SameSight (cache.place ++ [directory]) place
        (deposit around (engine.slot? around params start) files body).2
        (deposit around (engine.slot? around params start) files' body).2 := by
  cases slot : engine.slot? around params start with
  | none => exact ⟨rfl, same⟩
  | some pair =>
    obtain ⟨store, entry⟩ := pair
    obtain ⟨used, keyed⟩ := engine.slot?_eq_some_iff around params start |>.mp slot
    obtain rfl := uses store used
    obtain ⟨rfl, inside⟩ := List.cons_prefix_cons.mp (within _ (file?_of_entryKey? keyed))
    have named : fileNames entry = .ok ([engine.directory] ++ [_]) := fileNames_of_entryKey? keyed
    obtain ⟨result, sight⟩ := write_congr named (by simp) inside same around.now body
    refine ⟨?_, by simpa only [deposit_files, Option.elim_some] using sight⟩
    simp only [deposit]
    rcases step : store.write around.now files entry body with ⟨_ | _, _⟩ <;>
      rcases step' : store.write around.now files' entry body with ⟨_ | _, _⟩ <;>
        simp_all

/-- **What a run sees**: nothing if it has no file, else its file, or the directory it is in. -/
theorem run_seesOnly
    (within : ∀ names, engine.file? (params.entryName start) = some names →
      directory :: place <+: names)
    (uses : ∀ store, around.cache = some store → store = cache) :
    SeesOnly (cache.place ++ [directory]) place
      (engine.run around endpoint read params start).outcome := by
  intro session session' same
  have usable : engine.usable? around endpoint read params start session.files =
      engine.usable? around endpoint read params start session'.files := by
    unfold usable?
    cases slot : engine.slot? around params start with
    | none => rfl
    | some pair =>
      obtain ⟨store, entry⟩ := pair
      obtain ⟨used, keyed⟩ := engine.slot?_eq_some_iff around params start |>.mp slot
      obtain rfl := uses store used
      obtain ⟨rfl, inside⟩ := List.cons_prefix_cons.mp (within _ (file?_of_entryKey? keyed))
      have file := same.fileAt? inside
      rw [List.append_assoc] at file
      rw [cached?_congr (fileNames_of_entryKey? keyed) file]
  rw [run_outcome, run_outcome, usable]
  cases engine.urlFor endpoint params with
  | error error => exact ⟨rfl, ⟨[], by simp⟩, same⟩
  | ok url =>
    simp only
    cases engine.usable? around endpoint read params start session'.files with
    | some kept => exact ⟨rfl, ⟨[], by simp⟩, same⟩
    | none =>
      simp only [runFresh_outcome]
      rcases engine.exchange around.transport endpoint params with ⟨sent, error | body⟩
      · exact ⟨rfl, ⟨sent, rfl, rfl⟩, same⟩
      · obtain ⟨payload, sight⟩ := deposit_congr within uses same body
        exact ⟨by simp only [payload], ⟨sent, rfl, rfl⟩, sight⟩

/-- **Where a run does not show**: where its file is not, be it another file of its directory or
another directory. -/
theorem run_hiddenFrom
    (apart : ∀ names, engine.file? (params.entryName start) = some names →
      ¬ directory :: place <+: names)
    (uses : ∀ store, around.cache = some store → store = cache) :
    HiddenFrom (cache.place ++ [directory]) place
      (engine.run around endpoint read params start).outcome := by
  intro session
  rcases engine.run_session around endpoint read params start session with stays | asked
  · rw [stays]
    exact .refl _ _ _
  · rw [asked, settled]
    rcases engine.exchange around.transport endpoint params with ⟨sent, error | body⟩
    · exact .refl _ _ _
    · simp only [deposit_files]
      cases slot : engine.slot? around params start with
      | none => exact .refl _ _ _
      | some pair =>
        obtain ⟨store, entry⟩ := pair
        obtain ⟨used, keyed⟩ := engine.slot?_eq_some_iff around params start |>.mp slot
        obtain rfl := uses store used
        refine SameSight.write (fileNames_of_entryKey? keyed) ?_ ?_ around.now session.files body
        · rw [List.append_assoc]
          exact fun on =>
            apart _ (file?_of_entryKey? keyed) ((List.prefix_append_right_inj _).mp on)
        · intro on
          have short := ((List.prefix_append_right_inj _).mp on).length_le
          simp at short

theorem fileAt?_write_of_ne {entry names path : List String}
    (named : fileNames entry = .ok names) (other : path ≠ cache.place ++ names)
    (now : Time.Instant) (files : FileTree) (body : ByteArray) :
    (cache.write now files entry body).2.fileAt? path = files.fileAt? path := by
  cases written : (cache.write now files entry body).1 with
  | error error => exact write_failure_keeps Storage.takesWhole_sound written path
  | ok stored =>
    obtain ⟨own, shown⟩ := write_stores written
    obtain rfl := Except.ok.inj (named.symm.trans own)
    rw [shown, if_neg other]

/-- A run changes no file but its own. -/
theorem fileAt?_run (read : Json → Except ShapeError α) {path : List String}
    (other : ∀ store names, around.cache = some store →
      engine.file? (params.entryName start) = some names → path ≠ store.place ++ names)
    (session : Session) :
    ((engine.run around endpoint read params start).outcome session).2.files.fileAt? path =
      session.files.fileAt? path := by
  rcases engine.run_session around endpoint read params start session with stays | asked
  · rw [stays]
  · rw [asked, settled]
    rcases engine.exchange around.transport endpoint params with ⟨sent, error | body⟩
    · rfl
    · simp only [deposit_files]
      cases slot : engine.slot? around params start with
      | none => rfl
      | some pair =>
        obtain ⟨store, entry⟩ := pair
        obtain ⟨used, keyed⟩ := engine.slot?_eq_some_iff around params start |>.mp slot
        exact fileAt?_write_of_ne (fileNames_of_entryKey? keyed)
          (other store _ used (file?_of_entryKey? keyed)) around.now session.files body

end Engine

end CatalogFeeds
