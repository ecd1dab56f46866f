import CatalogFeeds.Proofs.Settings.Source
import CatalogFeeds.Settings.Basic
/-!
Settings of requests that are read back.

A timeout that is switched off is left out when settings are written, and a timeout that is left out
is a minute. So settings come back as they were exactly if there is a timeout in them.

* `HttpSettings.isTyped_of_read` — durations that have been read are bounded.
* `HttpSettings.read_toJson` — what is read back from the object that is written.
-/

namespace CatalogFeeds.HttpSettings

open Members

/-- The parts of the settings of requests. -/
def parts : List (Part HttpSettings) := [
  { field := "connect_timeout", read := Json.asDuration, view := (·.connectTimeout),
    put := fun settings value => { settings with connectTimeout := value } },
  { field := "request_timeout", read := (·.asOption (·.asDuration)), view := (·.requestTimeout),
    put := fun settings value => { settings with requestTimeout := value } },
  { field := "user_agent", read := Json.asText, view := (·.userAgent),
    put := fun settings value => { settings with userAgent := value } }]

theorem isMadeOf_parts : shape.IsMadeOf parts where
  plain := rfl
  fields := rfl
  sets := by
    simp only [parts, List.forall_mem_cons]
    refine ⟨?_, ?_, ?_, by simp⟩ <;> intro record value <;> rfl
  passes := by
    intro field unknown record value
    simp only [shape] at unknown ⊢
    split <;> first | rfl | simp at unknown
  keeps := by simp [parts]

theorem tells_parts : RecordShape.Tells parts := by
  intro settings other same
  cases settings
  cases other
  simpa [parts] using same

/-- Settings in which each duration is a word of seconds and less than a second of nanoseconds. -/
structure IsTyped (settings : HttpSettings) : Prop where
  connectTimeout : settings.connectTimeout.IsBounded
  requestTimeout : ∀ timeout, settings.requestTimeout = some timeout → timeout.IsBounded

variable {settings : HttpSettings} {value : Json}

/-! ### Durations that have been read -/

theorem isBounded_of_asDuration {d : Time.Duration} (h : value.asDuration = .ok d) :
    d.IsBounded := by
  unfold Json.asDuration at h
  split at h
  · exact Time.Duration.isBounded_of_parse (mapError_eq_ok_iff.mp h)
  · rename_i n
    by_cases fits : Number.fitsUnsigned n = true
    · rw [if_pos fits] at h
      rw [← Except.ok.inj h]
      simp only [Number.fitsUnsigned, Bool.and_eq_true, decide_eq_true_eq] at fits
      have seconds : n.toNat < Number.wordLimit := by omega
      exact ⟨seconds, (by decide : 0 < 1000000000)⟩
    · rw [if_neg fits] at h
      split at h
      · exact absurd h (by simp)
      · exact absurd h (by simp)
  · exact absurd h (by simp)

theorem isBounded_of_asOption {d : Time.Duration}
    (h : value.asOption (·.asDuration) = .ok (some d)) : d.IsBounded := by
  unfold Json.asOption at h
  split at h
  · exact absurd h (by simp)
  · obtain ⟨own, read, same⟩ := map_eq_ok_iff.mp h
    exact Option.some.inj same ▸ isBounded_of_asDuration read

/-- Setting a field keeps durations bounded. -/
theorem keeps_isTyped : shape.Keeps IsTyped := by
  intro record field value after own set
  simp only [shape] at set
  split at set
  · obtain ⟨timeout, read, same⟩ := bind_eq_ok_iff.mp set
    rw [← Except.ok.inj same]
    exact ⟨isBounded_of_asDuration read, own.requestTimeout⟩
  · obtain ⟨timeout, read, same⟩ := bind_eq_ok_iff.mp set
    rw [← Except.ok.inj same]
    refine ⟨own.connectTimeout, ?_⟩
    rintro given rfl
    exact isBounded_of_asOption read
  · obtain ⟨agent, -, same⟩ := bind_eq_ok_iff.mp set
    rw [← Except.ok.inj same]
    exact ⟨own.connectTimeout, own.requestTimeout⟩
  · rw [← Except.ok.inj set]
    exact own

/-- **Durations that have been read** are bounded, wherever they come from. -/
theorem isTyped_of_read (h : shape.read value = .ok settings) : settings.IsTyped := by
  refine RecordShape.read_keeps keeps_isTyped ⟨⟨by decide, by decide⟩, ?_⟩ h
  rintro timeout ⟨⟩
  exact ⟨by decide, by decide⟩

/-! ### Settings that are read back -/

/-- The settings in which a timeout that is not given is the one of blank settings. -/
def withTimeout (settings : HttpSettings) : HttpSettings :=
  { settings with requestTimeout := settings.requestTimeout.or shape.blank.requestTimeout }

theorem withTimeout_eq_self_iff :
    settings.withTimeout = settings ↔ settings.requestTimeout ≠ none := by
  obtain ⟨connect, timeout, agent⟩ := settings
  cases timeout with
  | none => simp [withTimeout, shape]
  | some timeout => simp [withTimeout]

/-- The entries of the object that describes the settings. -/
def entries (settings : HttpSettings) : List (String × Json) := [
    ("connect_timeout", .string settings.connectTimeout.text),
    ("user_agent", .string settings.userAgent)] ++
  SourceSettings.entry? "request_timeout" (.string ·.text) settings.requestTimeout

theorem toJson_eq (settings : HttpSettings) : settings.toJson = .ofEntries settings.entries :=
  rfl

theorem get?_entries (settings : HttpSettings) (key : String) :
    get? key (ofList settings.entries) =
      (if key = "request_timeout" then settings.requestTimeout.map (.string ·.text) else none).or
        ([("user_agent", .string settings.userAgent),
          ("connect_timeout", .string settings.connectTimeout.text)].lookup key) := by
  simp only [get?_ofList, entries, List.reverse_append, List.lookup_append,
    SourceSettings.reverse_entry, SourceSettings.lookup_entry]
  rfl

/-- **What is read back**: the settings, with the timeout of blank settings if there is none. -/
theorem read_toJson (typed : settings.IsTyped) :
    shape.read settings.toJson = .ok settings.withTimeout := by
  have ordered := (settles_ofList settings.entries).2
  have connect := Json.asDuration_text typed.connectTimeout
  have timeout : (⟨["request_timeout"], (·.asOption (·.asDuration)), (·.requestTimeout)⟩ :
      Slot HttpSettings).Holds shape.blank (settings.requestTimeout.map (.string ·.text))
      settings.withTimeout := by
    cases given : settings.requestTimeout with
    | none => simp [Slot.Holds, withTimeout, given]
    | some own =>
      have read := Json.asOption_asDuration_text (typed.requestTimeout own given)
      simpa [Slot.Holds, withTimeout, given] using read
  have holds : ∀ part ∈ parts, part.slot.Holds shape.blank
      (get? part.field (ofList settings.entries)) settings.withTimeout := by
    simp only [parts, List.forall_mem_cons, get?_entries, List.lookup_cons, List.lookup_nil,
      String.reduceEq, reduceIte, String.reduceBEq, BEq.rfl, Option.or_none, Option.none_or]
    exact ⟨connect, timeout, rfl, by simp⟩
  have complete : ∀ field ∈ shape.required, (get? field (ofList settings.entries)).isSome := by
    simp [shape]
  rw [toJson_eq, Json.ofEntries]
  exact isMadeOf_parts.readMembers_eq_ok tells_parts ordered.nodup complete holds

theorem isExact_toJson (settings : HttpSettings) (depth : Nat) :
    Json.IsExact (depth + 1) settings.toJson := by
  rw [toJson_eq]
  apply Json.isExact_ofEntries
  simp only [entries, List.forall_mem_append, List.forall_mem_cons]
  exact ⟨⟨.string _, .string _, by simp⟩,
    SourceSettings.isExact_entry fun timeout => .string timeout.text⟩

/-- **The settings of requests are read back** from the object that is written of them exactly if
there is a timeout in them, and the object is read back from each of its texts. -/
theorem http_settings_read_back (h : shape.read value = .ok settings) :
    (shape.read settings.toJson = .ok settings ↔ settings.requestTimeout ≠ none) ∧
      Json.parse? settings.toJson.render = some settings.toJson ∧
      Json.parse? settings.toJson.pretty = some settings.toJson ∧
      ∀ text : String, Json.IsText Json.deepest (.value settings.toJson) text.toList →
        Json.parse? text = some settings.toJson := by
  refine ⟨?_, Json.parse?_texts (settings.isExact_toJson 126)⟩
  rw [read_toJson (isTyped_of_read h), Except.ok.injEq, withTimeout_eq_self_iff]

/-- Settings with a number of seconds and a text are read back. -/
theorem http_settings_read_back_minutes :
    shape.read (.object [("connect_timeout", .ofNat 5), ("request_timeout", .string "1h 30m")]) =
        .ok { connectTimeout := ⟨5, 0⟩, requestTimeout := some ⟨5400, 0⟩ } ∧
      shape.read (toJson { connectTimeout := ⟨5, 0⟩, requestTimeout := some ⟨5400, 0⟩ }) =
        .ok { connectTimeout := ⟨5, 0⟩, requestTimeout := some ⟨5400, 0⟩ } := by
  have read : shape.read
      (.object [("connect_timeout", .ofNat 5), ("request_timeout", .string "1h 30m")]) =
        .ok { connectTimeout := ⟨5, 0⟩, requestTimeout := some ⟨5400, 0⟩ } := by rfl
  exact ⟨read, (http_settings_read_back read).1.mpr (by simp)⟩

/-- A timeout that is switched off comes back as a minute. -/
theorem null_timeout_comes_back :
    shape.read (.object [("request_timeout", .null)]) = .ok { requestTimeout := none } ∧
      shape.read (toJson { requestTimeout := none }) = .ok { requestTimeout := some ⟨60, 0⟩ } ∧
      shape.read (toJson { requestTimeout := none }) ≠ .ok { requestTimeout := none } := by
  have read : shape.read (.object [("request_timeout", .null)]) =
      .ok { requestTimeout := none } := by rfl
  have back : shape.read (toJson { requestTimeout := none }) =
      .ok { requestTimeout := some ⟨60, 0⟩ } := read_toJson (isTyped_of_read read)
  refine ⟨read, back, ?_⟩
  rw [back]
  simp

end CatalogFeeds.HttpSettings
