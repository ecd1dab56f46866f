import CatalogFeeds.Proofs.Source.Findings
/-!
Merging in stages.

Merging starts afresh each time, with an empty table of ids. Nothing comes of that: a channel that
an earlier stage leaves out repeats an id, and the channel that has the id first is left by every
stage. So it makes no difference which lists are merged before the others.

* `firsts_around_firsts` — a part of a list may be reduced to what is to be left of it.
* `merge_around_merge` — a merged list stands for the lists that it was merged from.
* `merge_regrouped` — the same for lists in groups, and for sources.
-/

namespace CatalogFeeds

/-! ### What is left in stages -/

/-- A channel that repeats an id repeats it behind all channels that have the same ids. -/
theorem Repeats.mono {before before' : List Channel} {channel : Channel}
    (again : Repeats before channel)
    (known : ∀ earlier ∈ before, ∃ other ∈ before', other.origin.id = earlier.origin.id) :
    Repeats before' channel := by
  obtain ⟨filled, earlier, mem, same⟩ := again
  obtain ⟨other, inside, id⟩ := known earlier mem
  exact ⟨filled, other, inside, id.trans same⟩

/-- What is left of channels has the ids that the channels have. -/
theorem repeats_firsts_iff (front channels back : List Channel) {channel : Channel} :
    Repeats (front ++ firsts channels ++ back) channel ↔
      Repeats (front ++ channels ++ back) channel := by
  constructor
  · intro again
    refine again.mono fun earlier mem => ⟨earlier, ?_, rfl⟩
    have inside := (firsts_sublist channels).subset
    simp only [List.mem_append] at mem ⊢
    exact mem.imp_left (.imp_right (inside ·))
  · intro again
    refine again.mono fun earlier mem => ?_
    simp only [List.mem_append] at mem
    rcases mem with (before | own) | behind
    · exact ⟨earlier, by simp [before], rfl⟩
    · obtain ⟨first, left, same⟩ := exists_first own
      exact ⟨first, by simp [left], same⟩
    · exact ⟨earlier, by simp [behind], rfl⟩

theorem firsts_append_firsts (front channels : List Channel) :
    firsts (front ++ firsts channels) = firsts (front ++ channels) := by
  induction channels using List.reverseRecOn with
  | nil => rfl
  | append_singleton channels last ih =>
    rw [firsts_concat, ← List.append_assoc front channels, firsts_concat (front ++ channels)]
    by_cases again : Repeats channels last
    · have behind : Repeats (front ++ channels) last :=
        again.mono fun earlier mem => ⟨earlier, List.mem_append_right front mem, rfl⟩
      rw [if_pos again, if_pos behind, List.append_nil, List.append_nil, ih]
    · have same : Repeats (front ++ firsts channels) last ↔ Repeats (front ++ channels) last := by
        simpa using repeats_firsts_iff front channels []
      rw [if_neg again, ← List.append_assoc, firsts_concat, ih, if_congr same rfl rfl]

/-- **What is left in stages** is what is left at once. -/
theorem firsts_around_firsts (front channels back : List Channel) :
    firsts (front ++ firsts channels ++ back) = firsts (front ++ channels ++ back) := by
  induction back using List.reverseRecOn with
  | nil => rw [List.append_nil, List.append_nil, firsts_append_firsts]
  | append_singleton back last ih =>
    rw [← List.append_assoc, ← List.append_assoc, firsts_concat, firsts_concat, ih,
      if_congr (repeats_firsts_iff front channels back) rfl rfl]

/-! ### Merged lists among others -/

namespace ChannelBatch

theorem merge_eq (lists : List ChannelBatch) :
    merge lists = ⟨firsts (lists.flatMap (·.channels)), .empty⟩ := by
  rw [← merge_channels]
  rfl

/-- **A merged list among others** stands for the lists that it was merged from. -/
theorem merge_around_merge (front group back : List ChannelBatch) :
    merge (front ++ merge group :: back) = merge (front ++ group ++ back) := by
  simp only [merge_eq, List.flatMap_append, List.flatMap_cons]
  rw [← List.append_assoc, firsts_around_firsts]

theorem merge_groups (groups : List (List ChannelBatch)) :
    merge (groups.map merge) = merge groups.flatten := by
  -- One group after another is replaced by its lists, behind those that have been.
  have behind (front : List ChannelBatch) :
      merge (front ++ groups.map merge) = merge (front ++ groups.flatten) := by
    induction groups generalizing front with
    | nil => rfl
    | cons group groups ih =>
      rw [List.map_cons, merge_around_merge, ih, List.flatten_cons, List.append_assoc]
  exact behind []

/-- **Merging can be regrouped.** Lists that are cut into groups, of which each is merged and then
the results are, give the same channels in the same order as if they were merged at once; and so
do lists of which one group in the middle is merged first, so that groups may be made of groups in
any way. Merging a merged list again changes nothing. Several sources give the same whether all
their lists are merged at once or those of each source first. -/
theorem merge_regrouped :
    (∀ groups : List (List ChannelBatch), merge (groups.map merge) = merge groups.flatten) ∧
    (∀ front group back : List ChannelBatch,
      merge (front ++ merge group :: back) = merge (front ++ group ++ back)) ∧
    (∀ lists : List ChannelBatch, merge [merge lists] = merge lists) ∧
    ∀ (roster : Roster) (around : Surroundings) (session : Session),
      ((roster.gather around).run session).1.1 =
        merge ((roster.findings around session).map fun finding =>
          merge finding.collected.lists) := by
  refine ⟨merge_groups, merge_around_merge, fun lists => ?_, fun roster around session => ?_⟩
  · simpa using merge_around_merge [] lists []
  · have groups := merge_groups
      ((roster.findings around session).map fun finding => finding.collected.lists)
    rw [List.map_map, ← List.flatMap_def] at groups
    rw [Roster.gather_channels]
    exact groups.symm

end ChannelBatch

end CatalogFeeds
