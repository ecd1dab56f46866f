import CatalogFeeds.Time.Instant
import CatalogFeeds.Time.Duration
/-!
Time that has passed.

Instants are compared by seconds first, and going back stops at the earliest one. Counted in
nanoseconds both are exact as long as no leap second is involved, which clocks do not show.

* `total_minus_le` — going back never goes further than it was asked to.
* `total_sub_le` — so what was not written before that instant is no older than was asked for.
-/

namespace CatalogFeeds.Time

/-- A span in nanoseconds. -/
def Duration.total (span : Duration) : Int :=
  span.seconds * 1000000000 + span.nanoseconds

namespace Instant

/-- The nanoseconds since the start of 1970. -/
def total (t : Instant) : Int :=
  t.seconds * 1000000000 + t.nanoseconds

/-- An instant outside of leap seconds. -/
def IsPlain (t : Instant) : Prop :=
  t.nanoseconds < 1000000000

instance (t : Instant) : Decidable t.IsPlain :=
  inferInstanceAs (Decidable (_ < _))

theorem isPlain_zero (seconds : Int) : (Instant.mk seconds 0).IsPlain := by
  simp [IsPlain]

theorem isBefore_iff {t u : Instant} :
    t.isBefore u = true ↔
      t.seconds < u.seconds ∨ t.seconds = u.seconds ∧ t.nanoseconds < u.nanoseconds := by
  simp [isBefore]

theorem total_le_of_not_isBefore {t u : Instant} (plain : u.IsPlain)
    (h : t.isBefore u = false) : u.total ≤ t.total := by
  have later : ¬ (t.seconds < u.seconds ∨
      t.seconds = u.seconds ∧ t.nanoseconds < u.nanoseconds) := fun before => by
    rw [← isBefore_iff, h] at before
    contradiction
  unfold IsPlain at plain
  unfold total
  omega

theorem total_le_of_isBefore {t u : Instant} (plain : t.IsPlain) (h : t.isBefore u = true) :
    t.total ≤ u.total := by
  have before := isBefore_iff.mp h
  unfold IsPlain at plain
  unfold total
  omega

/-- The instant a span before another, whether dates reach that far or not. -/
def back (t : Instant) (span : Duration) : Instant :=
  let borrow : Int := if t.nanoseconds < span.nanoseconds then 1 else 0
  ⟨t.seconds - span.seconds - borrow,
    t.nanoseconds + borrow.toNat * 1000000000 - span.nanoseconds⟩

/-- Going back is cut off at the earliest instant. -/
theorem minus_eq (t : Instant) (span : Duration) :
    t.minus span.seconds span.nanoseconds =
      if (t.back span).isBefore earliest then earliest else t.back span :=
  rfl

/-- The nanoseconds of a span may exceed a second, and then going back does not go all the way. -/
theorem total_back_le {t : Instant} (plain : t.IsPlain) (span : Duration) :
    (t.back span).IsPlain ∧ t.total - span.total ≤ (t.back span).total := by
  unfold IsPlain at plain
  unfold IsPlain total Duration.total back
  by_cases borrowed : t.nanoseconds < span.nanoseconds
  · simp only [if_pos borrowed, Int.toNat_one]
    omega
  · simp only [if_neg borrowed, Int.toNat_zero]
    omega

/-- Going back from a plain instant leads to a plain one, and not further than was asked for. -/
theorem total_minus_le {t : Instant} (plain : t.IsPlain) (span : Duration) :
    (t.minus span.seconds span.nanoseconds).IsPlain ∧
      t.total - span.total ≤ (t.minus span.seconds span.nanoseconds).total := by
  obtain ⟨backPlain, bound⟩ := total_back_le plain span
  rw [minus_eq]
  by_cases early : (t.back span).isBefore earliest = true
  · rw [if_pos early]
    refine ⟨by simp [IsPlain, earliest], ?_⟩
    have cut := total_le_of_isBefore backPlain early
    omega
  · rw [if_neg early]
    exact ⟨backPlain, bound⟩

/-- **How old a fresh thing is.** What was not made before the instant a span ago is no older
than that span. -/
theorem total_sub_le {now made : Instant} (plain : now.IsPlain) (span : Duration)
    (fresh : made.isBefore (now.minus span.seconds span.nanoseconds) = false) :
    now.total - made.total ≤ span.total := by
  obtain ⟨cutPlain, bound⟩ := total_minus_le plain span
  have later := total_le_of_not_isBefore cutPlain fresh
  omega

end Instant

end CatalogFeeds.Time
