import CatalogFeeds.Proofs.Record.Parts
import CatalogFeeds.Proofs.Time.Written
/-!
Timestamps of catalogues.

A catalogue gives an instant as a text in one of two forms or as a number of seconds. Coercion
writes the instant in a third form, and that is what the record is read from.

* `coerce_eq_some_iff`, `coerce_eq_none_iff` — coercion writes the instant that a value denotes, and
  gives nothing exactly if it denotes none.
* `standsFor_textWithOffset` — what is written is read back in each field that holds an instant.
-/

namespace CatalogFeeds

open CatalogFeeds.Time CatalogFeeds.Text

namespace Json

/-- The instant that a value of a catalogue denotes: that of a text in the strict form or in the one
of mail headers, or the one so many seconds after the start of 1970, if there is a date for it. -/
inductive Denotes : Json → Instant → Prop
  | internet {text : String} {t : Instant} (written : IsInternetTime (trim text.toList) t) :
    Denotes (.string text) t
  | mail {text : String} {t : Instant} (written : IsMailTime (trim text.toList) t) :
    Denotes (.string text) t
  | seconds {n : Int} (first : firstDay ≤ (Instant.mk n 0).day)
    (last : (Instant.mk n 0).day ≤ lastDay) : Denotes (.number (.whole n)) ⟨n, 0⟩

/-- The kinds of values that catalogues give an instant as. -/
inductive IsTextOrNumber : Json → Prop
  | text (s : String) : IsTextOrNumber (.string s)
  | number (n : JsonNumber) : IsTextOrNumber (.number n)

/-- A text or a number that denotes no instant. -/
structure IsNoTimestamp (value : Json) : Prop where
  kind : value.IsTextOrNumber
  nothing : ∀ t, ¬ value.Denotes t

/-- A value that is read as an instant, by itself and in the fields of channels and episodes. -/
structure StandsFor (value : Json) (t : Instant) : Prop where
  alone : value.asInstant = .ok t
  channel : ∀ origin, ChannelOrigin.shape.set origin "lastAired" value =
    .ok { origin with lastAired := some t }
  episode : ∀ episode, Episode.shape.set episode "publishedAt" value =
    .ok { episode with publishedAt := some t }

variable {value result : Json} {t u : Instant}

theorem denotes_string_iff {text : String} :
    (string text).Denotes t ↔ Instant.parse? text = some t := by
  rw [parse?_eq_some_iff]
  constructor
  · intro h
    cases h with
    | internet written => exact .inl written
    | mail written => exact .inr written
  · rintro (written | written)
    · exact .internet written
    · exact .mail written

/-- There are dates for 64-bit numbers only. -/
theorem lt_signedLimit {n : Int} (last : (Instant.mk n 0).day ≤ lastDay) :
    n < (Number.signedLimit : Int) := by
  have limit : (Number.signedLimit : Int) = 9223372036854775808 := by decide
  have range : lastDay = 95026236 := by decide +kernel
  have day : (Instant.mk n 0).day = n / 86400 := rfl
  rw [range, day] at last
  omega

theorem denotes_number_iff {n : JsonNumber} :
    (number n).Denotes t ↔ n.toSigned?.bind Instant.ofSeconds? = some t := by
  rw [Option.bind_eq_some_iff]
  constructor
  · intro h
    cases h with
    | @seconds n first last =>
      refine ⟨n, ?_, ofSeconds?_eq_some_iff.mpr ⟨rfl, first, last⟩⟩
      rw [JsonNumber.toSigned?, if_pos (lt_signedLimit last)]
  · rintro ⟨seconds, small, moment⟩
    obtain ⟨rfl, first, last⟩ := ofSeconds?_eq_some_iff.mp moment
    cases n with
    | whole n =>
      obtain ⟨-, rfl⟩ : n < (Number.signedLimit : Int) ∧ n = seconds := by
        simpa [JsonNumber.toSigned?] using small
      exact .seconds first last
    | real x => cases small

/-- A value denotes one instant at most. -/
theorem Denotes.unique (h : value.Denotes t) (h' : value.Denotes u) : t = u := by
  cases value with
  | string text =>
    exact Option.some.inj ((denotes_string_iff.mp h).symm.trans (denotes_string_iff.mp h'))
  | number n =>
    exact Option.some.inj ((denotes_number_iff.mp h).symm.trans (denotes_number_iff.mp h'))
  | _ => cases h

theorem Denotes.isDated (h : value.Denotes t) : t.IsDated := by
  cases h with
  | internet written => exact written.isDated
  | mail written => exact written.isDated
  | seconds first last => exact ⟨first, last, .inl (Nat.zero_lt_succ _)⟩

/-- **Coercion writes the instant that a value denotes.** -/
theorem coerce_eq_some_iff (kind : value.IsTextOrNumber) :
    FieldType.timestamp.coerce value = some result ↔
      ∃ t, value.Denotes t ∧ string t.textWithOffset = result := by
  cases kind with
  | text s => simp only [FieldType.coerce, Option.map_eq_some_iff, denotes_string_iff]
  | number n => simp only [FieldType.coerce, Option.map_eq_some_iff, denotes_number_iff]

/-- **Coercion gives nothing** for texts and numbers that denote nothing. Other values are left
alone. -/
theorem coerce_eq_none_iff : FieldType.timestamp.coerce value = none ↔ value.IsNoTimestamp := by
  have nothing : value.IsTextOrNumber →
      (FieldType.timestamp.coerce value = none ↔ ∀ t, ¬ value.Denotes t) := by
    intro kind
    rw [Option.eq_none_iff_forall_ne_some]
    constructor
    · intro none t denotes
      exact none _ ((coerce_eq_some_iff kind).mpr ⟨t, denotes, rfl⟩)
    · intro none result coerced
      obtain ⟨t, denotes, -⟩ := (coerce_eq_some_iff kind).mp coerced
      exact none t denotes
  constructor
  · intro none
    have kind : value.IsTextOrNumber := by
      cases value with
      | string s => exact .text s
      | number n => exact .number n
      | _ => cases none
    exact ⟨kind, (nothing kind).mp none⟩
  · rintro ⟨kind, none⟩
    exact (nothing kind).mpr none

instance (value : Json) : Decidable value.IsNoTimestamp :=
  decidable_of_iff (FieldType.timestamp.coerce value = none) coerce_eq_none_iff

theorem asOption_of_asInstant (read : value.asInstant = .ok t) :
    value.asOption (·.asInstant) = .ok (some t) := by
  rw [asOption, read]
  · rfl
  · rintro rfl
    cases read

/-- **What coercion writes is read back** in each field that holds an instant. -/
theorem standsFor_textWithOffset (dated : t.IsDated) : (string t.textWithOffset).StandsFor t := by
  have alone : (string t.textWithOffset).asInstant = .ok t := by
    rw [asInstant, relaxed?_textWithOffset dated]
    rfl
  refine ⟨alone, fun origin => ?_, fun episode => ?_⟩
  · simp only [ChannelOrigin.shape, asOption_of_asInstant alone]
    rfl
  · simp only [Episode.shape, asOption_of_asInstant alone]
    rfl

/-- What is coerced is read as the instant that the value denotes, and as no other. -/
theorem standsFor_of_coerce (kind : value.IsTextOrNumber)
    (coerced : FieldType.timestamp.coerce value = some result) :
    ∃ t, value.Denotes t ∧ (∀ u, value.Denotes u → u = t) ∧ result.StandsFor t := by
  obtain ⟨t, denotes, rfl⟩ := (coerce_eq_some_iff kind).mp coerced
  exact ⟨t, denotes, fun _ other => other.unique denotes, standsFor_textWithOffset denotes.isDated⟩

/-- Whatever a field that holds an instant is read from, it is the instant that the value denotes,
and the field is empty only without one. -/
theorem read_eq_some_iff {moment : Option Instant}
    (coerced : FieldType.timestamp.coerce value = some result)
    (read : result.asOption (·.asInstant) = .ok moment) : moment = some t ↔ value.Denotes t := by
  have timestamp (kind : value.IsTextOrNumber) : moment = some t ↔ value.Denotes t := by
    obtain ⟨u, denotes, only, stands⟩ := standsFor_of_coerce kind coerced
    rw [asOption_of_asInstant stands.alone, Except.ok.injEq] at read
    rw [← read, Option.some.injEq]
    constructor
    · rintro rfl
      exact denotes
    · exact fun other => (only t other).symm
  cases value with
  | string s => exact timestamp (.text s)
  | number n => exact timestamp (.number n)
  | null =>
    cases coerced
    cases read
    exact ⟨nofun, nofun⟩
  | _ =>
    cases coerced
    cases read

end Json

end CatalogFeeds
