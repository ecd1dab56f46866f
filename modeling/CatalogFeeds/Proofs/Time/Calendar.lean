import CatalogFeeds.Time.Instant
/-!
The years that mail headers have room for.

* `mailText?_eq_none_iff` — a date has no written form exactly if its year has not four digits.
* `hasMailYear_iff` — which seconds these are.
-/

namespace CatalogFeeds.Time

/-! ### Years of days -/

theorem year_ofDays_nonneg_iff (days : Int) : 0 ≤ (Date.ofDays days).year ↔ -719528 ≤ days := by
  simp only [Date.ofDays]
  omega

theorem year_ofDays_le_iff (days : Int) :
    (Date.ofDays days).year ≤ 9999 ↔ days ≤ 2932896 := by
  simp only [Date.ofDays]
  omega

namespace Instant

/-- Whether an instant lies in the years 0 to 9999. -/
def HasMailYear (t : Instant) : Prop :=
  0 ≤ (Date.ofDays t.day).year ∧ (Date.ofDays t.day).year ≤ 9999

instance (t : Instant) : Decidable t.HasMailYear :=
  inferInstanceAs (Decidable (_ ∧ _))

variable {t : Instant}

/-- **The instants with a mail year**, counted in seconds. -/
theorem hasMailYear_iff : t.HasMailYear ↔ -62167219200 ≤ t.seconds ∧ t.seconds < 253402300800 := by
  rw [HasMailYear, year_ofDays_nonneg_iff, year_ofDays_le_iff, day]
  omega

theorem mailText?_eq_none_iff : t.mailText? = none ↔ ¬ t.HasMailYear := by
  rw [HasMailYear, mailText?]
  simp

end Instant

end CatalogFeeds.Time
