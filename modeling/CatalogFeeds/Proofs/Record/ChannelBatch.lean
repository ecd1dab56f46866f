import CatalogFeeds.Proofs.Members
import CatalogFeeds.Record.ChannelBatch
import Mathlib.Data.List.Induction
import Mathlib.Data.List.Pairwise
/-!
What merging keeps.

The channels of all lists, one behind the other, are one list, in which a channel may repeat the
id of one before it. `firsts` says what is to be left of a list. Merging gets there in one pass,
with a table that leads from ids to places among the channels kept so far.

* `firsts_concat` — what one more channel adds, from which order and ids of what is left follow.
* `find?_of_mem_firsts` — a channel that is left is the first with its id.
* `Merging.IsUpTo.add` — the table leads from an id to a place exactly if a channel with that id
  is kept there, and one more channel leaves it so.
* `merge_keeps_firsts` — merging leaves what is to be left, and each place that it looks up for a
  channel is that of a channel with the same id.
-/

namespace CatalogFeeds

/-! ### Channels that repeat an id -/

/-- Whether a channel has an id that one before it has. -/
def Repeats (before : List Channel) (channel : Channel) : Prop :=
  channel.origin.id ≠ "" ∧ ∃ earlier ∈ before, earlier.origin.id = channel.origin.id

instance (before : List Channel) (channel : Channel) : Decidable (Repeats before channel) :=
  inferInstanceAs (Decidable (_ ∧ _))

/-- The channels of a list that repeat no id of the channels before them. -/
def firsts (channels : List Channel) : List Channel :=
  (channels.zipIdx.filter fun (channel, i) => ¬ Repeats (channels.take i) channel).map Prod.fst

/-- One more channel at the end is left unless it repeats an id. -/
theorem firsts_concat (channels : List Channel) (last : Channel) :
    firsts (channels ++ [last]) =
      firsts channels ++ if Repeats channels last then [] else [last] := by
  have front : ∀ entry ∈ channels.zipIdx,
      (¬ Repeats ((channels ++ [last]).take entry.2) entry.1) ↔
        ¬ Repeats (channels.take entry.2) entry.1 := by
    intro entry mem
    have inside : entry.2 < channels.length := by
      simpa using List.snd_lt_add_of_mem_zipIdx mem
    rw [List.take_append_of_le_length (Nat.le_of_lt inside)]
  have kept : (channels.zipIdx.filter fun entry =>
      ¬ Repeats ((channels ++ [last]).take entry.2) entry.1) =
        channels.zipIdx.filter fun entry => ¬ Repeats (channels.take entry.2) entry.1 :=
    List.filter_congr fun entry mem => decide_eq_decide.mpr (front entry mem)
  rw [firsts, List.zipIdx_append, List.filter_append, List.map_append, kept, firsts]
  by_cases again : Repeats channels last <;> simp [again]

/-- What is left stays in order. -/
theorem firsts_sublist (channels : List Channel) : (firsts channels).Sublist channels := by
  have entries : (firsts channels).Sublist (channels.zipIdx.map Prod.fst) :=
    List.filter_sublist.map Prod.fst
  rwa [List.zipIdx_map_fst] at entries

/-- No id is lost. -/
theorem exists_first {channels : List Channel} {channel : Channel} (mem : channel ∈ channels) :
    ∃ first ∈ firsts channels, first.origin.id = channel.origin.id := by
  induction channels using List.reverseRecOn generalizing channel with
  | nil => exact absurd mem List.not_mem_nil
  | append_singleton channels last ih =>
    rw [firsts_concat]
    have old : ∀ {earlier : Channel}, earlier ∈ channels →
        ∃ first ∈ firsts channels ++ if Repeats channels last then [] else [last],
          first.origin.id = earlier.origin.id := by
      intro earlier before
      obtain ⟨first, kept, id⟩ := ih before
      exact ⟨first, List.mem_append_left _ kept, id⟩
    rcases List.mem_append.mp mem with before | new
    · exact old before
    · obtain rfl := List.mem_singleton.mp new
      by_cases again : Repeats channels channel
      · obtain ⟨-, earlier, before, same⟩ := again
        rw [← same]
        exact old before
      · exact ⟨channel, by simp [again], rfl⟩

/-- No id is left twice. -/
theorem firsts_pairwise (channels : List Channel) :
    (firsts channels).Pairwise fun a b => a.origin.id = b.origin.id → a.origin.id = "" := by
  induction channels using List.reverseRecOn with
  | nil => exact .nil
  | append_singleton channels last ih =>
    rw [firsts_concat]
    by_cases again : Repeats channels last
    · simpa [again] using ih
    · rw [if_neg again, List.pairwise_append]
      refine ⟨ih, List.pairwise_singleton _ _, fun earlier kept other same id => ?_⟩
      obtain rfl := List.mem_singleton.mp same
      by_contra filled
      exact again ⟨id ▸ filled, earlier, (firsts_sublist channels).subset kept, id⟩

/-- Channels without an id are all left. -/
theorem filter_firsts (channels : List Channel) :
    (firsts channels).filter (·.origin.id = "") = channels.filter (·.origin.id = "") := by
  induction channels using List.reverseRecOn with
  | nil => rfl
  | append_singleton channels last ih =>
    rw [firsts_concat, List.filter_append, List.filter_append, ih]
    by_cases again : Repeats channels last
    · simp [again, again.1]
    · rw [if_neg again]

/-- The id of a channel of a list is found there. -/
theorem exists_find? {channels : List Channel} {channel : Channel} (mem : channel ∈ channels) :
    ∃ found ∈ channels, found.origin.id = channel.origin.id ∧
      channels.find? (·.origin.id == channel.origin.id) = some found := by
  have isSome : (channels.find? (·.origin.id == channel.origin.id)).isSome = true := by
    rw [List.find?_isSome]
    exact ⟨channel, mem, beq_self_eq_true _⟩
  obtain ⟨found, first⟩ := Option.isSome_iff_exists.mp isSome
  have same := List.find?_some first
  exact ⟨found, List.mem_of_find?_eq_some first, beq_iff_eq.mp same, first⟩

/-- What is left is found by the same ids. -/
theorem find?_firsts (id : String) (channels : List Channel) :
    (firsts channels).find? (·.origin.id == id) = channels.find? (·.origin.id == id) := by
  induction channels using List.reverseRecOn with
  | nil => rfl
  | append_singleton channels last ih =>
    rw [firsts_concat, List.find?_append, List.find?_append, ih]
    by_cases again : Repeats channels last
    · rw [if_pos again, List.find?_nil, Option.or_none]
      by_cases own : last.origin.id = id
      · -- The id of the last channel is found before it.
        obtain ⟨-, earlier, before, same⟩ := again
        obtain ⟨found, -, -, first⟩ := exists_find? before
        rw [same, own] at first
        rw [first, Option.some_or]
      · simp [own]
    · rw [if_neg again]

/-- Of the channels that are left only one has a given id. -/
theorem eq_of_mem_firsts {channels : List Channel} {a b : Channel} (left : a ∈ firsts channels)
    (left' : b ∈ firsts channels) (same : a.origin.id = b.origin.id) (filled : a.origin.id ≠ "") :
    a = b := by
  have : Std.Symm fun a b : Channel => a.origin.id = b.origin.id → a.origin.id = "" :=
    ⟨fun a b none eq => eq.trans (none eq.symm)⟩
  by_contra different
  exact filled ((firsts_pairwise channels).forall left left' different same)

/-- **A channel that is left** is the first with its id. -/
theorem find?_of_mem_firsts {channels : List Channel} {channel : Channel}
    (mem : channel ∈ firsts channels) (filled : channel.origin.id ≠ "") :
    channels.find? (·.origin.id == channel.origin.id) = some channel := by
  obtain ⟨found, left, same, first⟩ := exists_find? mem
  obtain rfl := eq_of_mem_firsts mem left same.symm filled
  rw [← find?_firsts, first]

/-! ### Merging in one pass -/

/-- Whether a channel with a given id is at a place of a list. -/
def HasIdAt (channels : List Channel) (place : Nat) (id : String) : Prop :=
  ∃ channel, channels[place]? = some channel ∧ channel.origin.id = id

theorem hasIdAt_concat {channels : List Channel} {last : Channel} {place : Nat} {id : String} :
    HasIdAt (channels ++ [last]) place id ↔
      HasIdAt channels place id ∨ place = channels.length ∧ last.origin.id = id := by
  unfold HasIdAt
  rcases Nat.lt_trichotomy place channels.length with inside | rfl | beyond
  · simp [List.getElem?_append_left inside, Nat.ne_of_lt inside]
  · simp
  · have out : channels[place]? = none := List.getElem?_eq_none (Nat.le_of_lt beyond)
    have out' : (channels ++ [last])[place]? = none := by
      refine List.getElem?_eq_none ?_
      rw [List.length_append, List.length_singleton]
      omega
    simp [out, out', Nat.ne_of_gt beyond]

/-- An id is at some place exactly if a channel of the list has it. -/
theorem exists_hasIdAt_iff {channels : List Channel} {id : String} :
    (∃ place, HasIdAt channels place id) ↔ ∃ channel ∈ channels, channel.origin.id = id := by
  simp only [HasIdAt, List.mem_iff_getElem?]
  exact ⟨fun ⟨place, channel, there, same⟩ => ⟨channel, ⟨place, there⟩, same⟩,
    fun ⟨channel, ⟨place, there⟩, same⟩ => ⟨place, channel, there, same⟩⟩

namespace Merging

variable {merging : Merging} {channels : List Channel}

/-- What merging has come to after the given channels: the first of each id is kept, and the table
leads from an id to a place exactly if a channel with that id is kept there. -/
structure IsUpTo (merging : Merging) (channels : List Channel) : Prop where
  kept : merging.kept = firsts channels
  places (id : String) (place : Nat) :
    Members.get? id merging.places = some place ↔ id ≠ "" ∧ HasIdAt merging.kept place id

theorem isUpTo_nil : IsUpTo {} [] :=
  ⟨rfl, fun id place => by simp [Members.get?, HasIdAt]⟩

/-- The table knows an id exactly if another channel with it would repeat it. -/
theorem IsUpTo.repeats_iff (h : merging.IsUpTo channels) {channel : Channel}
    (filled : channel.origin.id ≠ "") :
    Repeats channels channel ↔
      ∃ place, Members.get? channel.origin.id merging.places = some place := by
  simp only [h.places, filled, ne_eq, not_false_eq_true, true_and, exists_hasIdAt_iff, h.kept,
    Repeats]
  constructor
  · rintro ⟨earlier, before, same⟩
    obtain ⟨first, kept, id⟩ := exists_first before
    exact ⟨first, kept, id.trans same⟩
  · rintro ⟨first, kept, same⟩
    exact ⟨first, (firsts_sublist channels).subset kept, same⟩

/-- **One more channel** leaves the kept channels and the table in step. -/
theorem IsUpTo.add (h : merging.IsUpTo channels) (channel : Channel) :
    (merging.add channel).IsUpTo (channels ++ [channel]) := by
  by_cases none : channel.origin.id = ""
  · -- The table stays as it is, and no id leads to the new place.
    have new : ¬ Repeats channels channel := fun again => again.1 none
    have step : merging.add channel = { merging with kept := merging.kept ++ [channel] } := by
      simp [Merging.add, none]
    rw [step]
    refine ⟨by rw [h.kept, firsts_concat, if_neg new], fun id place => ?_⟩
    rw [h.places, hasIdAt_concat, none]
    constructor
    · rintro ⟨filled, there⟩
      exact ⟨filled, .inl there⟩
    · rintro ⟨filled, there | ⟨-, same⟩⟩
      · exact ⟨filled, there⟩
      · exact absurd same.symm filled
  · cases found : Members.get? channel.origin.id merging.places with
    | some place =>
      have again : Repeats channels channel := (h.repeats_iff none).mpr ⟨place, found⟩
      have step : merging.add channel = merging := by simp [Merging.add, none, found]
      rw [step]
      exact ⟨by rw [h.kept, firsts_concat, if_pos again, List.append_nil], h.places⟩
    | none =>
      -- The id leads to the new place, and no place before has it.
      have new : ¬ Repeats channels channel := fun again => by
        obtain ⟨place, known⟩ := (h.repeats_iff none).mp again
        simp [found] at known
      have absent : ∀ place, ¬ HasIdAt merging.kept place channel.origin.id := fun place there => by
        have known := (h.places _ place).mpr ⟨none, there⟩
        simp [found] at known
      have step : merging.add channel =
          ⟨merging.kept ++ [channel],
            Members.insert channel.origin.id merging.kept.length merging.places⟩ := by
        simp [Merging.add, none, found]
      rw [step]
      refine ⟨by rw [h.kept, firsts_concat, if_neg new], fun id place => ?_⟩
      rw [hasIdAt_concat]
      by_cases own : id = channel.origin.id
      · subst own
        simp [Members.get?_insert_self, none, absent, eq_comm]
      · rw [Members.get?_insert_of_ne own, h.places]
        simp [Ne.symm own]

/-- After any channels the kept channels and the table are in step. -/
theorem isUpTo_foldl (channels : List Channel) : (channels.foldl add {}).IsUpTo channels := by
  induction channels using List.reverseRecOn with
  | nil => exact isUpTo_nil
  | append_singleton channels last ih =>
    rw [List.foldl_append, List.foldl_cons, List.foldl_nil]
    exact ih.add last

/-- Going through lists one after another is going through all their channels. -/
theorem foldl_addAll (lists : List ChannelBatch) (merging : Merging) :
    lists.foldl addAll merging = (lists.flatMap (·.channels)).foldl add merging := by
  rw [List.foldl_flatMap]
  rfl

end Merging

/-! ### The main statement -/

/-- What merging keeps of all channels are those that repeat no id. -/
theorem ChannelBatch.merge_channels (lists : List ChannelBatch) :
    (merge lists).channels = firsts (lists.flatMap (·.channels)) := by
  have merged : (merge lists).channels = (lists.foldl Merging.addAll {}).kept := rfl
  rw [merged, Merging.foldl_addAll]
  exact (Merging.isUpTo_foldl _).kept

/-- **Merging keeps the first channel of each id.** Of the channels of all lists, one behind the
other, it leaves out exactly those that repeat an id; so the others stay in order, no id is kept
twice or lost, and every channel without an id is kept. It keeps no payload. And whenever it finds
a place for the id of a channel, a channel with that id has been kept at that place. -/
theorem ChannelBatch.merge_keeps_firsts (lists : List ChannelBatch) :
    let channels := lists.flatMap (·.channels)
    let merged := merge lists
    merged.channels = firsts channels ∧
    merged.raw = .empty ∧
    merged.channels.Sublist channels ∧
    (merged.channels.Pairwise fun a b => a.origin.id = b.origin.id → a.origin.id = "") ∧
    (∀ channel ∈ channels, ∃ first ∈ merged.channels, first.origin.id = channel.origin.id) ∧
    merged.channels.filter (·.origin.id = "") = channels.filter (·.origin.id = "") ∧
    ∀ before list after front channel back,
      lists = before ++ list :: after → list.channels = front ++ channel :: back →
      let merging := front.foldl Merging.add (before.foldl Merging.addAll {})
      ∀ place, Members.get? channel.origin.id merging.places = some place →
        ∃ first, merging.kept[place]? = some first ∧ first.origin.id = channel.origin.id := by
  intro channels merged
  have left : merged.channels = firsts channels := merge_channels lists
  refine ⟨left, rfl, ?_, ?_, ?_, ?_, ?_⟩
  · rw [left]
    exact firsts_sublist channels
  · rw [left]
    exact firsts_pairwise channels
  · intro channel mem
    rw [left]
    exact exists_first mem
  · rw [left]
    exact filter_firsts channels
  · intro before list after front channel back _ _ merging place found
    have upTo : merging.IsUpTo (before.flatMap (·.channels) ++ front) := by
      have through := Merging.isUpTo_foldl (before.flatMap (·.channels) ++ front)
      rwa [List.foldl_append, ← Merging.foldl_addAll] at through
    exact ((upTo.places _ place).mp found).2

/-- A channel with an id. -/
def numbered (id title : String) : Channel where
  title := title
  origin := { id := id }

/-- The id of the last channel is found behind a channel without one. -/
theorem ChannelBatch.merge_keeps_firsts_repeated :
    let lists : List ChannelBatch :=
      [⟨[numbered "" "Krim", numbered "1" "Kaffe"], .empty⟩, ⟨[numbered "1" "Te"], .empty⟩]
    let merging := [].foldl Merging.add ((lists.take 1).foldl Merging.addAll {})
    (merge lists).channels = [numbered "" "Krim", numbered "1" "Kaffe"] ∧
      Members.get? "1" merging.places = some 1 ∧
      ∃ first, merging.kept[1]? = some first ∧ first.origin.id = "1" := by
  intro lists merging
  have found : Members.get? "1" merging.places = some 1 := by decide
  have kept := (ChannelBatch.merge_keeps_firsts lists).2.2.2.2.2.2
  exact ⟨by decide, found,
    kept (lists.take 1) ⟨[numbered "1" "Te"], .empty⟩ [] [] (numbered "1" "Te") [] rfl rfl 1 found⟩

end CatalogFeeds
