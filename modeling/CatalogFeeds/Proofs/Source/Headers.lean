import CatalogFeeds.Proofs.Source.Isolation
import CatalogFeeds.Proofs.Source.Preset
import CatalogFeeds.Proofs.Source.Search
/-!
The headers that a source sends.

The headers of a source come from its preset, from its settings and from its token. They are put
together by their exact names, but a catalogue reads names without regard to case.

* `performAll_sendsWith` — whatever is done on a source, its requests have the headers of its
  engine.
* `mem_headers_iff` — which headers these are.
* `nodup_headers_iff` — when no name is there twice.
* `configured_headers_sent` — exactly then what is configured takes the place of the preset.
-/

namespace CatalogFeeds

open CatalogFeeds.Text

/-! ### The headers of requests -/

section Sending

variable {α β : Type} {headers : List (String × String)}

/-- All requests that a step sends have the same headers. -/
def SendsWith (headers : List (String × String)) (step : Session → α × Session) : Prop :=
  ∀ session : Session, ∃ requests, (step session).2.sent = session.sent ++ requests ∧
    ∀ request ∈ requests, request.headers = headers

theorem SendsWith.pure (a : α) : SendsWith headers (a, ·) :=
  fun _ => ⟨[], by simp⟩

theorem SendsWith.andThen {first : Session → α × Session} {second : α → Session → β × Session}
    (h : SendsWith headers first) (h' : ∀ a, SendsWith headers (second a)) :
    SendsWith headers fun session => second (first session).1 (first session).2 := by
  intro session
  obtain ⟨requests, sent, all⟩ := h session
  obtain ⟨more, later, all'⟩ := h' (first session).1 (first session).2
  refine ⟨requests ++ more, ?_, ?_⟩
  · rw [later, sent, List.append_assoc]
  · intro request mem
    rcases List.mem_append.mp mem with mem | mem
    · exact all request mem
    · exact all' request mem

/-- Any number of steps that send with the same headers send with them together. -/
theorem SendsWith.foldl {ι : Type} {step : ι → Session → α × Session} (items : List ι)
    (h : ∀ item, SendsWith headers (step item)) :
    SendsWith headers fun session =>
      ((), items.foldl (fun session item => (step item session).2) session) := by
  induction items with
  | nil => exact .pure ()
  | cons item items ih => exact (h item).andThen fun _ => ih

end Sending

section Requests

variable {α : Type} (engine : Engine) (source : Source) (around : Surroundings)

theorem Engine.requestFor_headers {endpoint : Endpoint} {params : Params} {url : Url}
    {request : Request} (h : engine.requestFor endpoint params url = .ok request) :
    request.headers = engine.headers := by
  unfold requestFor at h
  simp only at h
  split at h
  · rw [← Except.ok.inj h]
  · obtain ⟨body, -, same⟩ := bind_eq_ok_iff.mp h
    rw [← Except.ok.inj same]

theorem Engine.exchange_headers (transport : Transport) (endpoint : Endpoint) (params : Params) :
    ∀ request ∈ (engine.exchange transport endpoint params).1,
      request.headers = engine.headers := by
  cases located : engine.urlFor endpoint params with
  | error error => simp [exchange, located]
  | ok url =>
    cases asked : engine.requestFor endpoint params url with
    | error error => simp [exchange, located, asked]
    | ok request =>
      rw [exchange_of_request located asked]
      simpa using engine.requestFor_headers asked

/-- A run sends with the headers of its engine. -/
theorem Engine.run_sendsWith (endpoint : Endpoint) (read : Json → Except ShapeError α)
    (params : Params) (start : String) :
    SendsWith engine.headers (engine.run around endpoint read params start).outcome := by
  intro session
  rw [run_outcome]
  split
  · exact ⟨[], by simp⟩
  · split
    · exact ⟨[], by simp⟩
    · exact ⟨_, engine.runFresh_sent around endpoint read params start session,
        engine.exchange_headers around.transport endpoint params⟩

theorem Source.channelsFrom_sendsWith (endpoint : Endpoint) (params : Params) (start : String) :
    SendsWith source.engine.headers (source.channelsFrom around endpoint params start).outcome := by
  have mapped : (source.channelsFrom around endpoint params start).outcome = _ := funext
    (RunM.outcome_bind_pure _ fun run : Harvest Channel =>
      (⟨run.records, run.raw⟩ : ChannelBatch))
  rw [mapped]
  exact (source.engine.run_sendsWith around endpoint Channel.read params start).andThen
    fun result => .pure _

theorem Source.collectFrom_sendsWith (listings : List Listing) :
    SendsWith source.engine.headers (source.collectFrom around listings).run := by
  induction listings with
  | nil => exact .pure ({} : Collected)
  | cons listing rest ih =>
    rw [funext (collectFrom_cons listing rest)]
    exact (source.channelsFrom_sendsWith around listing.endpoint {} listing.entryName).andThen
      fun result => ih.andThen fun collected => .pure (addResult result collected)

theorem Operation.perform_sendsWith (operation : Operation) :
    SendsWith source.engine.headers (operation.perform source around) := by
  cases operation with
  | collect =>
    exact (source.collectFrom_sendsWith around source.listings).andThen fun collected =>
      .pure (Answer.collected collected)
  | ask query =>
    have asks : SendsWith source.engine.headers (query.ask source around) := by
      rcases query.ask_eq source around with
        ⟨reply, asked⟩ | ⟨α, endpoint, read, params, start, reply, -, asked⟩
      · rw [funext asked]
        exact .pure reply
      · rw [funext asked]
        exact (source.engine.run_sendsWith around endpoint read params start).andThen
          fun result => .pure (reply result)
    exact asks.andThen fun reply => .pure (Answer.reply reply)

/-- **Whatever is done on a source**, its requests have the headers of its engine. -/
theorem Operation.performAll_sendsWith (visits : List (Operation × Surroundings)) :
    SendsWith source.engine.headers fun session => ((), performAll source visits session) :=
  .foldl visits fun visit => visit.1.perform_sendsWith source visit.2

end Requests

/-! ### The headers of a source -/

namespace Source

variable {settings : SourceSettings} {ttl : Time.Duration} {modifiers : ModifierSet}
  {source : Source} {header : String × String}

theorem headers_of_make (made : make settings ttl modifiers = .ok source) :
    source.engine.headers = withToken (effective settings).headers settings.token := by
  obtain ⟨⟨baseUrl, -, built⟩, -⟩ := of_make made
  have token : (effective settings).token = settings.token := by
    unfold effective
    cases settings.kind <;> rfl
  rw [(Engine.given_of_make built).1, token]

/-- Settings win over the preset by the exact names of headers. -/
theorem mem_effective_headers_iff (distinct : (settings.headers.map (·.1)).Nodup) :
    header ∈ (effective settings).headers ↔ header ∈ settings.headers ∨
      settings.kind = .untold ∧ header ∈ Untold.headers ∧
        header.1 ∉ settings.headers.map (·.1) := by
  have configured : header ∈ settings.headers ↔
      lastNamed (·.1) settings.headers header.1 = some header :=
    (settles_self distinct).mem_iff
  cases kind : settings.kind with
  | generic => simp [effective, kind]
  | untold =>
    have preset : header ∈ Untold.headers ↔ lastNamed (·.1) Untold.headers header.1 = some header :=
      (settles_self (by decide)).mem_iff
    rw [effective, kind, Untold.complete, (Untold.settles_headers _).1.mem_iff, lastNamed_append,
      configured, preset]
    cases last : lastNamed (·.1) settings.headers header.1 with
    | none =>
      rw [lastNamed_eq_none_iff] at last
      have absent : header.1 ∉ settings.headers.map (·.1) := by
        intro there
        obtain ⟨other, mem, same⟩ := List.mem_map.mp there
        exact last other mem same
      simp [absent]
    | some other =>
      obtain ⟨mem, same⟩ := name_of_lastNamed last
      have there : header.1 ∈ settings.headers.map (·.1) := by
        rw [← same]
        exact List.mem_map_of_mem mem
      simp [there]

theorem nodup_effective_headers (distinct : (settings.headers.map (·.1)).Nodup) :
    ((effective settings).headers.map (·.1)).Nodup := by
  cases kind : settings.kind with
  | generic => simpa [effective, kind] using distinct
  | untold =>
    rw [effective, kind]
    exact (Untold.settles_headers settings.headers).1.nodup

/-- **Which headers a source has**: what is configured, what the preset has under other names, and
the token. -/
theorem mem_headers_iff (made : make settings ttl modifiers = .ok source)
    (distinct : (settings.headers.map (·.1)).Nodup) :
    header ∈ source.engine.headers ↔ header ∈ settings.headers ∨
      (settings.kind = .untold ∧ header ∈ Untold.headers ∧
        header.1 ∉ settings.headers.map (·.1)) ∨
      ∃ token, settings.token = some token ∧ header = ("authorization", token) := by
  rw [headers_of_make made, withToken, List.mem_append, mem_effective_headers_iff distinct,
    or_assoc]
  cases settings.token <;> simp

end Source

/-! ### Names without regard to case -/

/-- The values that a name has in headers, whatever the case of its letters. -/
def valuesOf (name : String) (headers : List (String × String)) : List String :=
  (headers.filter (lowercase ·.1 == lowercase name)).map (·.2)

/-- No name is there twice, and what is set in the settings of a source is all that there is under
its name. -/
structure Replaces (settings : SourceSettings) (headers : List (String × String)) : Prop where
  once : (headers.map (lowercase ·.1)).Nodup
  configured : ∀ header ∈ settings.headers, valuesOf header.1 headers = [header.2]
  token : ∀ token, settings.token = some token → valuesOf "authorization" headers = [token]

/-- No name in the settings of a source differs from another header's in case alone. -/
structure HeadersApart (settings : SourceSettings) : Prop where
  configured : (settings.headers.map (lowercase ·.1)).Nodup
  preset : settings.kind = .untold → ∀ header ∈ settings.headers, ∀ own ∈ Untold.headers,
    lowercase header.1 = lowercase own.1 → header.1 = own.1
  token : settings.token.isSome → ∀ header ∈ settings.headers,
    lowercase header.1 ≠ lowercase "authorization"

theorem valuesOf_of_nodup {headers : List (String × String)} {name value : String}
    (once : (headers.map (lowercase ·.1)).Nodup) (mem : (name, value) ∈ headers) :
    valuesOf name headers = [value] := by
  have single := filter_of_nodup once mem
  rw [valuesOf, single]
  rfl

namespace Source

variable {settings : SourceSettings} {ttl : Time.Duration} {modifiers : ModifierSet}
  {source : Source}

theorem nodup_preset : (Untold.headers.map (lowercase ·.1)).Nodup := by decide +kernel

theorem token_not_preset :
    ∀ own ∈ Untold.headers, lowercase own.1 ≠ lowercase "authorization" := by
  decide +kernel

/-- A header of the preset that is left has a name of its own. -/
theorem ne_preset (apart : HeadersApart settings) (untold : settings.kind = .untold)
    {header own : String × String} (mem : header ∈ settings.headers) (preset : own ∈ Untold.headers)
    (left : own.1 ∉ settings.headers.map (·.1)) : lowercase header.1 ≠ lowercase own.1 := by
  intro same
  have called := apart.preset untold header mem own preset same
  exact left (called ▸ List.mem_map_of_mem mem)

theorem nodup_of_apart (apart : HeadersApart settings)
    (distinct : (settings.headers.map (·.1)).Nodup) :
    ((effective settings).headers.map (lowercase ·.1)).Nodup := by
  have single := (List.nodup_map_iff_inj_on (distinct.of_map _)).mp apart.configured
  have own := (List.nodup_map_iff_inj_on (nodup_preset.of_map _)).mp nodup_preset
  refine (List.nodup_map_iff_inj_on ((nodup_effective_headers distinct).of_map _)).mpr ?_
  intro header mem other mem' same
  rw [mem_effective_headers_iff distinct] at mem mem'
  rcases mem with mem | ⟨untold, mem, left⟩
  · rcases mem' with mem' | ⟨untold, mem', left⟩
    · exact single header mem other mem' same
    · exact absurd same (ne_preset apart untold mem mem' left)
  · rcases mem' with mem' | ⟨-, mem', -⟩
    · exact absurd same.symm (ne_preset apart untold mem' mem left)
    · exact own header mem other mem' same

theorem ne_token (apart : HeadersApart settings)
    (distinct : (settings.headers.map (·.1)).Nodup) (given : settings.token.isSome)
    {header : String × String} (mem : header ∈ (effective settings).headers) :
    lowercase header.1 ≠ lowercase "authorization" := by
  rcases (mem_effective_headers_iff distinct).mp mem with mem | ⟨-, mem, -⟩
  · exact apart.token given header mem
  · exact token_not_preset header mem

/-- **When no name is there twice** in the headers of a source. -/
theorem nodup_headers_iff (made : make settings ttl modifiers = .ok source)
    (distinct : (settings.headers.map (·.1)).Nodup) :
    (source.engine.headers.map (lowercase ·.1)).Nodup ↔ HeadersApart settings := by
  rw [headers_of_make made, withToken, List.map_append, List.nodup_append]
  have listed : (effective settings).headers.Nodup := (nodup_effective_headers distinct).of_map _
  have kept : ∀ header ∈ settings.headers, header ∈ (effective settings).headers :=
    fun header mem => (mem_effective_headers_iff distinct).mpr (.inl mem)
  constructor
  · rintro ⟨once, -, behind⟩
    have single := (List.nodup_map_iff_inj_on listed).mp once
    constructor
    · refine (List.nodup_map_iff_inj_on (distinct.of_map _)).mpr ?_
      intro header mem other mem' same
      exact single header (kept header mem) other (kept other mem') same
    · intro untold header mem own preset same
      -- Whichever header has the name of the preset's, it is the one that is configured.
      by_cases there : own.1 ∈ settings.headers.map (·.1)
      · obtain ⟨other, mem', called⟩ := List.mem_map.mp there
        rw [single header (kept header mem) other (kept other mem') (by rw [same, called]), called]
      · have left := (mem_effective_headers_iff distinct).mpr (.inr ⟨untold, preset, there⟩)
        rw [single header (kept header mem) own left same]
    · intro given header mem
      obtain ⟨token, some⟩ := Option.isSome_iff_exists.mp given
      apply behind (lowercase header.1)
      · exact List.mem_map.mpr ⟨header, kept header mem, rfl⟩
      · simp [some]
  · intro apart
    refine ⟨nodup_of_apart apart distinct, ?_, ?_⟩
    · cases settings.token <;> simp
    · intro name mem other mem'
      obtain ⟨header, inside, rfl⟩ := List.mem_map.mp mem
      cases token : settings.token with
      | none => simp [token] at mem'
      | some text =>
        obtain rfl : other = lowercase "authorization" := by simpa [token] using mem'
        exact ne_token apart distinct (by simp [token]) inside

/-- **What is configured takes the place of the preset** exactly if no name is there twice. -/
theorem replaces_iff (made : make settings ttl modifiers = .ok source)
    (distinct : (settings.headers.map (·.1)).Nodup) :
    Replaces settings source.engine.headers ↔ HeadersApart settings := by
  rw [← nodup_headers_iff made distinct]
  constructor
  · exact Replaces.once
  · intro once
    refine ⟨once, ?_, ?_⟩
    · intro header mem
      exact valuesOf_of_nodup once ((mem_headers_iff made distinct).mpr (.inl mem))
    · intro token given
      exact valuesOf_of_nodup once
        ((mem_headers_iff made distinct).mpr (.inr (.inr ⟨token, given, rfl⟩)))

/-! ### The main statement -/

/-- **What is configured is sent.** Every request of a source has the headers that are configured,
those of the preset under other names, and the token. In all of them what is configured takes the
place of the preset if the names in the settings differ from each other's, from the preset's and
from the token's in more than case, and otherwise in none. -/
theorem configured_headers_sent (made : make settings ttl modifiers = .ok source)
    (distinct : (settings.headers.map (·.1)).Nodup) (visits : List (Operation × Surroundings))
    (session : Session) :
    ∃ requests, (Operation.performAll source visits session).sent = session.sent ++ requests ∧
      ∀ request ∈ requests,
        (∀ header, header ∈ request.headers ↔ header ∈ settings.headers ∨
          (settings.kind = .untold ∧ header ∈ Untold.headers ∧
            header.1 ∉ settings.headers.map (·.1)) ∨
          ∃ token, settings.token = some token ∧ header = ("authorization", token)) ∧
        (Replaces settings request.headers ↔ HeadersApart settings) := by
  obtain ⟨requests, sent, all⟩ := Operation.performAll_sendsWith source visits session
  refine ⟨requests, sent, ?_⟩
  intro request mem
  rw [all request mem]
  exact ⟨fun header => mem_headers_iff made distinct, replaces_iff made distinct⟩

/-- Settings of the preset with headers of their own. -/
def presetWith (headers : List (String × String)) (token : Option String) : SourceSettings where
  name := "untold"
  kind := .untold
  headers := headers
  token := token

/-- A search on a source of the preset, without a cache, sends a request. -/
theorem exists_request {headers : List (String × String)} {token : Option String}
    (made : make (presetWith headers token) ttl modifiers = .ok source) :
    ∃ request, (Operation.performAll source [(.ask (.titles "a"), silence)]
      ⟨.empty ⟨0, 0⟩, []⟩).sent = [request] := by
  obtain ⟨base, endpoint, offered, own⟩ := titleSearch_of_make made rfl rfl
  have plain : ¬ PathPart.IsDots "a" := by decide
  obtain ⟨request, once, -⟩ := exists_sendsOnce base offered own plain
  exact ⟨request, once.sent_silence⟩

/-- A header that takes the place of the preset's, a new one, and a token. -/
theorem configured_headers_sent_version :
    ∃ source, make (presetWith [("x-app-version", "2.0.0"), ("x-trace", "1")] (some "Bearer s"))
        ⟨60, 0⟩ .builtin = .ok source ∧
      ∃ request, (Operation.performAll source [(.ask (.titles "a"), silence)]
          ⟨.empty ⟨0, 0⟩, []⟩).sent = [request] ∧
        valuesOf "x-app-version" request.headers = ["2.0.0"] ∧
        valuesOf "authorization" request.headers = ["Bearer s"] := by
  have given : (make (presetWith [("x-app-version", "2.0.0"), ("x-trace", "1")] (some "Bearer s"))
      ⟨60, 0⟩ .builtin).toOption.isSome = true := by decide +kernel
  obtain ⟨source, found⟩ := Option.isSome_iff_exists.mp given
  have made := toOption_eq_some_iff.mp found
  obtain ⟨request, asked⟩ := exists_request made
  refine ⟨source, made, request, asked, ?_⟩
  obtain ⟨requests, sent, all⟩ := configured_headers_sent made (by decide)
    [(.ask (.titles "a"), silence)] ⟨.empty ⟨0, 0⟩, []⟩
  obtain rfl : [request] = requests := asked.symm.trans sent
  have replaces := (all request (by simp)).2.mpr ⟨by decide, by decide, by decide⟩
  exact ⟨replaces.configured ("x-app-version", "2.0.0") (by decide),
    replaces.token "Bearer s" rfl⟩

/-- A name in another case is sent beside that of the preset. -/
theorem preset_header_sent_too :
    ∃ source, make (presetWith [("User-Agent", "mine")] none) ⟨60, 0⟩ .builtin = .ok source ∧
      ∃ request, (Operation.performAll source [(.ask (.titles "a"), silence)]
          ⟨.empty ⟨0, 0⟩, []⟩).sent = [request] ∧
        valuesOf "User-Agent" request.headers =
          ["mine", "Untold/2 CFNetwork/1496.0.7 Darwin/23.5.0"] ∧
        ¬ Replaces (presetWith [("User-Agent", "mine")] none) request.headers := by
  have given : (make (presetWith [("User-Agent", "mine")] none)
      ⟨60, 0⟩ .builtin).toOption.isSome = true := by decide +kernel
  obtain ⟨source, found⟩ := Option.isSome_iff_exists.mp given
  have made := toOption_eq_some_iff.mp found
  obtain ⟨request, asked⟩ := exists_request made
  refine ⟨source, made, request, asked, ?_⟩
  obtain ⟨requests, sent, all⟩ := Operation.performAll_sendsWith source
    [(.ask (.titles "a"), silence)] ⟨.empty ⟨0, 0⟩, []⟩
  obtain rfl : [request] = requests := asked.symm.trans sent
  have values : valuesOf "User-Agent" request.headers =
      ["mine", "Untold/2 CFNetwork/1496.0.7 Darwin/23.5.0"] := by
    rw [all request (by simp), headers_of_make made]
    decide +kernel
  refine ⟨values, fun replaces => ?_⟩
  have alone := replaces.configured ("User-Agent", "mine") (by decide)
  rw [values] at alone
  simp at alone

end Source

end CatalogFeeds
