import CatalogFeeds.Feed.Folder
import CatalogFeeds.Proofs.Cache.Segment
import CatalogFeeds.Proofs.Files.Path
import Mathlib.Data.List.Induction
import Mathlib.Data.List.Nodup
/-!
The names of feed files.

The file of a channel has the safe form of the title for its name, and where another channel has
taken that, the safe forms of title and id. Whether someone has taken the second name as well is
not looked at.

* `filePathFor_eq_join` — a feed file lies in its directory, under a safe name.
* `filePathFor_of_filled` — which of the two names a channel gets.
* `nodup_paths_iff` — channels get different paths unless one of them finds both of its names
  taken. `nodup_paths_of_pairwise` is a condition on the names alone.
-/

namespace CatalogFeeds

open CatalogFeeds.Text

namespace Segment

theorem stemName_ne_nil (cs : List Char) : stemName cs ≠ [] := by
  unfold stemName
  split
  · simp
  · rename_i filled
    simpa using filled

/-- A stem has letters, digits and dashes only. -/
theorem mem_stemName {c : Char} {cs : List Char} (h : c ∈ stemName cs) :
    isAlphanumeric c = true ∨ c = '-' := by
  unfold stemName at h
  split at h
  · exact .inr (List.mem_singleton.mp h)
  · exact mem_safeStem h

theorem safeName_false (segment : String) :
    safeName segment false = String.ofList (stemName segment.toList) := by
  simp [safeName, sanitizeChars_eq]

end Segment

namespace FilePath

/-- Behind the same path different names stay different. -/
theorem join_inj {path name name' : String} :
    join path name = join path name' ↔ name = name' := by
  refine ⟨fun same => ?_, fun same => same ▸ rfl⟩
  rw [← String.toList_inj] at same ⊢
  unfold join at same
  split at same
  · simpa using same
  · simpa using same

end FilePath

namespace FeedFolder

open Segment

variable (folder : FeedFolder) (channel : Channel) (taken : List String)

/-! ### The two names of a channel -/

/-- The name of a feed file after the title of the channel. -/
def titleName (channel : Channel) : String :=
  safeName channel.title false ++ ".xml"

/-- The name of a feed file after the title and the id of the channel. -/
def idName (channel : Channel) : String :=
  safeName channel.title false ++ "-" ++ safeName channel.origin.id false ++ ".xml"

/-- The path of a channel that is told apart by its title. -/
def titlePath : String :=
  FilePath.join folder.directory (titleName channel)

/-- The path of a channel that is told apart by its id. -/
def idPath : String :=
  FilePath.join folder.directory (idName channel)

theorem filePathFor_eq :
    folder.filePathFor channel taken =
      if folder.titlePath channel ∉ taken ∨ channel.origin.id = "" then folder.titlePath channel
      else folder.idPath channel := by
  rw [filePathFor]
  exact if_congr (by simp [titlePath, titleName]) rfl rfl

/-- **Which name a channel gets** that has an id. -/
theorem filePathFor_of_filled (filled : channel.origin.id ≠ "") :
    folder.filePathFor channel taken =
      if folder.titlePath channel ∈ taken then folder.idPath channel
      else folder.titlePath channel := by
  by_cases mem : folder.titlePath channel ∈ taken <;> simp [filePathFor_eq, mem, filled]

/-- **Where a feed file lies**: in the directory, under a name of letters, digits and dashes in
front of the extension. -/
theorem filePathFor_eq_join :
    ∃ stem : List Char, stem ≠ [] ∧ (∀ c ∈ stem, isAlphanumeric c = true ∨ c = '-') ∧
      folder.filePathFor channel taken =
        FilePath.join folder.directory (String.ofList stem ++ ".xml") := by
  have title : ∀ c ∈ stemName channel.title.toList, isAlphanumeric c = true ∨ c = '-' :=
    fun _ => mem_stemName
  have id : ∀ c ∈ stemName channel.origin.id.toList, isAlphanumeric c = true ∨ c = '-' :=
    fun _ => mem_stemName
  rw [filePathFor_eq]
  split
  · exact ⟨_, stemName_ne_nil _, title, by rw [titlePath, titleName, safeName_false]⟩
  · refine ⟨stemName channel.title.toList ++ '-' :: stemName channel.origin.id.toList, by simp,
      fun c mem => ?_, ?_⟩
    · rcases List.mem_append.mp mem with front | back
      · exact title c front
      · rcases List.mem_cons.mp back with dash | back
        · exact .inr dash
        · exact id c back
    · have name : idName channel =
          String.ofList (stemName channel.title.toList ++
            '-' :: stemName channel.origin.id.toList) ++ ".xml" := by
        rw [← String.toList_inj]
        simp [idName, safeName_false]
      rw [idPath, name]

/-- The place of a feed file is its name in the directory. -/
theorem place_filePathFor :
    ∃ name, folder.filePathFor channel taken = FilePath.join folder.directory name ∧
      FilePath.place (folder.filePathFor channel taken) =
        FilePath.place folder.directory ++ [name] := by
  obtain ⟨stem, filled, safe, path⟩ := folder.filePathFor_eq_join channel taken
  refine ⟨_, path, ?_⟩
  have noSlash : '/' ∉ (String.ofList stem ++ ".xml").toList := by
    have inStem : '/' ∉ stem := fun mem => absurd (safe '/' mem) (by decide)
    simpa using inStem
  have named : FilePath.isName (String.ofList stem ++ ".xml") = true := by
    obtain ⟨c, rest, rfl⟩ := List.exists_cons_of_ne_nil filled
    have long : (String.ofList (c :: rest) ++ ".xml").toList ≠ ".".toList := by simp
    have ne : String.ofList (c :: rest) ++ ".xml" ≠ "." := fun same => long (congrArg _ same)
    have filled : (String.ofList (c :: rest) ++ ".xml").isEmpty = false := by simp
    rw [FilePath.isName, filled, Bool.not_false, Bool.true_and, bne_iff_ne]
    exact ne
  rw [path, FilePath.place_join, FilePath.place_of_name noSlash named]

/-- Feed files in one place have one path. -/
theorem place_filePathFor_inj {channel' : Channel} {taken' : List String} :
    FilePath.place (folder.filePathFor channel taken) =
        FilePath.place (folder.filePathFor channel' taken') ↔
      folder.filePathFor channel taken = folder.filePathFor channel' taken' := by
  refine ⟨fun same => ?_, congrArg FilePath.place⟩
  obtain ⟨name, path, place⟩ := folder.place_filePathFor channel taken
  obtain ⟨name', path', place'⟩ := folder.place_filePathFor channel' taken'
  rw [place, place', List.append_right_inj, List.singleton_inj] at same
  rw [path, path', same]

/-! ### The paths of many channels -/

/-- The paths that channels get one after another. -/
def paths (channels : List Channel) : List String :=
  channels.foldl (fun taken channel => taken ++ [folder.filePathFor channel taken]) []

theorem paths_concat (front : List Channel) :
    folder.paths (front ++ [channel]) =
      folder.paths front ++ [folder.filePathFor channel (folder.paths front)] := by
  simp [paths]

variable {folder channel taken}

/-- A channel gets a path that is taken exactly if both of its own are. -/
theorem filePathFor_mem_iff (filled : channel.origin.id ≠ "") :
    folder.filePathFor channel taken ∈ taken ↔
      folder.titlePath channel ∈ taken ∧ folder.idPath channel ∈ taken := by
  rw [filePathFor_of_filled folder channel taken filled]
  split <;> simp [*]

/-- **When channels get different paths**: no one finds both of its names taken. -/
theorem nodup_paths_iff {channels : List Channel}
    (filled : ∀ channel ∈ channels, channel.origin.id ≠ "") :
    (folder.paths channels).Nodup ↔ ∀ front channel back, channels = front ++ channel :: back →
      ¬ (folder.titlePath channel ∈ folder.paths front ∧
        folder.idPath channel ∈ folder.paths front) := by
  induction channels using List.reverseRecOn with
  | nil => simp [paths]
  | append_singleton channels last ih =>
    have fresh : folder.filePathFor last (folder.paths channels) ∈ folder.paths channels ↔ _ :=
      filePathFor_mem_iff (filled last (by simp))
    rw [paths_concat, List.nodup_middle, List.append_nil, List.nodup_cons,
      ih fun channel mem => filled channel (by simp [mem]), fresh]
    constructor
    · rintro ⟨free, others⟩ front channel back split
      -- The last channel, or one of those before it.
      rcases back.eq_nil_or_concat' with rfl | ⟨back, other, rfl⟩
      · obtain ⟨rfl, same⟩ := List.append_inj' split rfl
        rw [← List.singleton_inj.mp same]
        exact free
      · rw [← List.cons_append, ← List.append_assoc] at split
        exact others front channel back (List.append_inj' split rfl).1
    · intro all
      exact ⟨all channels last [] rfl, fun front channel back split =>
        all front channel (back ++ [last]) (by simp [split])⟩

/-- Each of the paths is one of the two that a channel may get. -/
theorem mem_paths {channels : List Channel} {path : String} (mem : path ∈ folder.paths channels) :
    ∃ channel ∈ channels, path = folder.titlePath channel ∨ path = folder.idPath channel := by
  induction channels using List.reverseRecOn with
  | nil => simp [paths] at mem
  | append_singleton channels last ih =>
    rw [paths_concat, List.mem_append, List.mem_singleton] at mem
    rcases mem with front | rfl
    · obtain ⟨channel, inside, which⟩ := ih front
      exact ⟨channel, by simp [inside], which⟩
    · refine ⟨last, by simp, ?_⟩
      rw [filePathFor_eq]
      split
      · exact .inl rfl
      · exact .inr rfl

/-- Channels get different paths if none of them, told apart by its id, has the name that one
before it has by either. -/
theorem nodup_paths_of_pairwise {channels : List Channel}
    (filled : ∀ channel ∈ channels, channel.origin.id ≠ "")
    (apart : channels.Pairwise fun before later =>
      idName later ≠ titleName before ∧ idName later ≠ idName before) :
    (folder.paths channels).Nodup := by
  rw [nodup_paths_iff filled]
  rintro front channel back rfl ⟨-, crowded⟩
  obtain ⟨other, before, which⟩ := mem_paths crowded
  obtain ⟨notTitle, notId⟩ :=
    (List.pairwise_append.mp apart).2.2 other before channel List.mem_cons_self
  rcases which with same | same
  · exact notTitle (FilePath.join_inj.mp same)
  · exact notId (FilePath.join_inj.mp same)

end FeedFolder

end CatalogFeeds
