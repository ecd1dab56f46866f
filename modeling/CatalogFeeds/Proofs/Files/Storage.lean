import CatalogFeeds.Files.Storage
import CatalogFeeds.Proofs.Files.Tree
/-!
What a storage leaves behind.

* `fileAt?_makeThrough` — making directories leaves every file as it is, wherever it stops.
* `writeThrough_cases` — a write stops before the file has been opened and leaves the tree as it
  is, or the file holds what the storage has taken of the content.
* `TakesWhole` — the storages in which no write breaks off amid a file.
-/

namespace CatalogFeeds

open CatalogFeeds.Time

variable {storage : Storage} {content : ByteArray} {place : List String}

namespace Storage

/-- A storage in which writing a file replaces all of its content, or fails beforehand: it takes all
of a content once it has let its file be opened. -/
def TakesWhole (storage : Storage) : Prop :=
  ∀ place content, storage.filling place content = none

theorem takesWhole_sound : sound.TakesWhole := fun _ _ => rfl

/-- A storage that has room for one byte in every file. -/
def crowded : Storage :=
  { sound with filling := fun _ _ => some (1, .other "No space left on device (os error 28)") }

/-- What is taken of a content is all of it, or a front part. -/
theorem taken_cases (storage : Storage) (place : List String) (content : ByteArray) :
    storage.taken place content = (content, none) ∨
      ∃ count cause, storage.filling place content = some (count, cause) ∧
        storage.taken place content = (content.extract 0 count, some cause) := by
  unfold taken
  cases storage.filling place content with
  | none => exact .inl rfl
  | some stop => exact .inr ⟨stop.1, stop.2, rfl, rfl⟩

end Storage

namespace FileTree

@[simp] theorem makeThrough_sound (now : Instant) (files : FileTree) (place : List String) :
    files.makeThrough .sound now place = files.makeDirectories now place := rfl

/-- Making directories leaves every file as it is. -/
theorem fileAt?_makeThrough (storage : Storage) (now : Instant) (files : FileTree)
    (place other : List String) :
    (files.makeThrough storage now place).1.fileAt? other = files.fileAt? other := by
  unfold makeThrough
  split
  · exact fileAt?_makeDirectories ..
  · exact fileAt?_makeDirectories ..

/-- **How a write ends**: with the tree as it was and an error, or with what has been taken of the
content in the file. -/
theorem writeThrough_cases (storage : Storage) (now : Instant) (content : ByteArray)
    (files : FileTree) (place : List String) :
    (∃ cause, files.writeThrough storage now content place = (files, some cause)) ∨
      ∃ written, files.writeFile now (storage.taken place content).1 place = .ok written ∧
        files.writeThrough storage now content place =
          (written, (storage.taken place content).2) := by
  unfold writeThrough
  cases storage.opening place with
  | some cause => exact .inl ⟨cause, rfl⟩
  | none =>
    cases outcome : files.writeFile now (storage.taken place content).1 place with
    | error cause => exact .inl ⟨cause, by simp [outcome]⟩
    | ok written => exact .inr ⟨written, rfl, by simp [outcome]⟩

theorem writeThrough_sound_of_ok {files written : FileTree} {now : Instant}
    (h : files.writeFile now content place = .ok written) :
    files.writeThrough .sound now content place = (written, none) := by
  simp [writeThrough, Storage.sound, Storage.taken, h]

theorem writeThrough_sound_of_error {files : FileTree} {now : Instant} {cause : OsError}
    (h : files.writeFile now content place = .error cause) :
    files.writeThrough .sound now content place = (files, some cause) := by
  simp [writeThrough, Storage.sound, Storage.taken, h]

end FileTree

end CatalogFeeds
