import CatalogFeeds.Proofs.Engine.Exchange
import CatalogFeeds.Proofs.Engine.Path
import CatalogFeeds.Proofs.Path.Written
import CatalogFeeds.Proofs.Template.Placement
/-!
What may still go wrong once an endpoint has been compiled.

Compiling checks each template and each path expression by itself. The template of a path is used
behind the path of the base URL, and without the slashes it begins with, but no such text in front
keeps it from being read (`validate_joinPaths`). So what is found when an endpoint is used is of few
kinds: a path refuses a parameter of dots, a template that can be read fails where it is evaluated,
and a payload is not what the endpoint expects. A modifier says the last of these as it promises to
(`ModifierSet.ReportsMalformed`).

* `requestFailure_of_urlFor`, `isEvaluation_of_requestFor` — what keeps a request from being built.
* `decodeFailure_of_decode` — what keeps a payload from being decoded.
* `failures_of_compiled` — the kinds of errors of an endpoint that has been compiled, and of its
  runs.
-/

namespace CatalogFeeds

open CatalogFeeds.Text

/-- Whether an error was met in the evaluation of a template that can be read. -/
def EndpointError.IsEvaluation : EndpointError → Prop
  | template error => error.IsEvaluation
  | _ => False

namespace Engine

/-- What keeps a request from being built. -/
inductive RequestFailure (params : Params) : EndpointError → Prop
  | dots {name text : String} : (name, Json.string text) ∈ params.entries →
    PathPart.IsDots text → RequestFailure params (.configuration
      ("parameter '" ++ name ++ "' cannot be used as a path segment: '" ++ text ++ "'"))
  | evaluation {error : EndpointError} : error.IsEvaluation → RequestFailure params error

/-- What keeps a payload from being decoded. -/
inductive DecodeFailure : EndpointError → Prop
  | decode (reason : String) : DecodeFailure (.decode reason)
  | malformedInput (modifier fragment reason : String) :
    DecodeFailure (.resolve (.malformedInput modifier fragment reason))
  | evaluation {error : EndpointError} : error.IsEvaluation → DecodeFailure error

/-- What keeps a run from giving records. -/
inductive RunFailure (around : Surroundings) (params : Params) : EndpointError → Prop
  | request {error : EndpointError} : RequestFailure params error → RunFailure around params error
  | decode {error : EndpointError} : DecodeFailure error → RunFailure around params error
  | transport {request : Request} {error : EndpointError} :
    around.transport request = .error error → RunFailure around params error
  | status {code : Nat} (url : String) : 400 ≤ code → RunFailure around params (.status code url)

variable {engine : Engine} {endpoint : Endpoint} {params : Params} {error : EndpointError}
  {bindings : List (String × Json)}

/-- What may go wrong with a template that has been checked is its evaluation. -/
theorem isEvaluation_of_expand {text : String} (valid : Template.validate text = .ok ())
    (failed : expand text bindings = .error error) : error.IsEvaluation := by
  obtain ⟨own, stopped, rfl⟩ := mapError_eq_error_iff.mp failed
  exact Template.isEvaluation_of_expand valid stopped

/-! ### Requests -/

/-- A checked template of a path is fine behind a path without braces. -/
theorem validate_joinPaths {base path : String} (plain : '\x7b' ∉ base.toList)
    (valid : Template.validate path = .ok ()) :
    Template.validate (joinPaths base path) = .ok () := by
  have joined : joinPaths base path = String.ofList (dropEndWhile (· == '/') base.toList ++
      '/' :: path.toList.dropWhile (· == '/')) := by
    rw [← String.toList_inj, joinPaths]
    simp
  have slashes : '\x7b' ∉ path.toList.takeWhile (· == '/') := fun mem =>
    absurd (List.all_eq_true.mp List.all_takeWhile _ mem) (by decide)
  rw [joined]
  refine Template.validate_behind slashes ?_ (by decide) ?_
  · intro mem
    rcases List.mem_append.mp mem with old | slash
    · refine plain (List.mem_reverse.mp ?_)
      exact (List.dropWhile_sublist _).subset (List.mem_reverse.mp old)
    · exact absurd slash (by decide)
  · rwa [List.takeWhile_append_dropWhile, String.ofList_toList]

/-- The path of a base URL has no brace in it. -/
theorem notMem_path_of_make {name baseUrl : Option String} {headers : List (String × String)}
    {ttl : Option Time.Duration} {modifiers : ModifierSet}
    (made : make name baseUrl headers ttl modifiers = .ok engine) :
    '\x7b' ∉ engine.baseUrl.path.text.toList := by
  obtain ⟨-, text, -, read⟩ := of_make made
  obtain ⟨-, segments, path, settled⟩ := Url.settled_of_baseOf read
  rw [path, Url.toList_text_segments]
  intro mem
  exact (mute_of_path ((Url.mem_ledBy_of_settled settled mem).imp_right And.left)).1 rfl

theorem requestFailure_of_pathVariables (failed : pathVariables bindings params = .error error) :
    RequestFailure params error := by
  obtain ⟨⟨name, value⟩, mem, state, failed⟩ := exists_of_foldlM_error failed
  cases value with
  | string text =>
    by_cases dots : PathPart.IsDots text
    · rw [setPathVariable_of_dots dots] at failed
      cases failed
      exact .dots mem dots
    · rw [setPathVariable_of_not_dots dots] at failed
      cases failed
  | _ => cases failed

theorem requestFailure_of_addPath (plain : '\x7b' ∉ engine.baseUrl.path.text.toList)
    (valid : Template.validate endpoint.definition.path = .ok ())
    (failed : addPath engine.baseUrl endpoint bindings params = .error error) :
    RequestFailure params error := by
  simp only [addPath] at failed
  split at failed
  · cases failed
  · rcases bind_eq_error_iff.mp failed with failed | ⟨known, -, failed⟩
    · exact requestFailure_of_pathVariables failed
    · rcases bind_eq_error_iff.mp failed with failed | ⟨path, -, failed⟩
      · exact .evaluation (isEvaluation_of_expand (validate_joinPaths plain valid) failed)
      · cases failed

theorem queryPairs_of_addPath {url after : Url}
    (added : addPath url endpoint bindings params = .ok after) :
    after.queryPairs = url.queryPairs := by
  simp only [addPath] at added
  split at added
  · cases added
    rfl
  · obtain ⟨known, -, added⟩ := bind_eq_ok_iff.mp added
    obtain ⟨path, -, added⟩ := bind_eq_ok_iff.mp added
    cases added
    rfl

theorem isEvaluation_of_addQuery {url : Url}
    (valid : Template.validate endpoint.definition.query = .ok ())
    (failed : addQuery url endpoint bindings = .error error) : error.IsEvaluation := by
  simp only [addQuery] at failed
  split at failed
  · cases failed
  · rcases bind_eq_error_iff.mp failed with failed | ⟨query, -, failed⟩
    · exact isEvaluation_of_expand valid failed
    · cases failed

/-- **What keeps a URL from being built** if the base URL has no query. -/
theorem requestFailure_of_urlFor (plain : '\x7b' ∉ engine.baseUrl.path.text.toList)
    (unqueried : engine.baseUrl.queryPairs = [])
    (path : Template.validate endpoint.definition.path = .ok ())
    (query : Template.validate endpoint.definition.query = .ok ())
    (failed : engine.urlFor endpoint params = .error error) : RequestFailure params error := by
  rcases bind_eq_error_iff.mp failed with failed | ⟨url, added, failed⟩
  · exact requestFailure_of_addPath plain path failed
  · have none : url.queryPairs = [] := (queryPairs_of_addPath added).trans unqueried
    rcases bind_eq_error_iff.mp failed with failed | ⟨url, -, failed⟩
    · rw [expandPairs, none] at failed
      cases failed
    · exact .evaluation (isEvaluation_of_addQuery query failed)

/-- **What keeps a request from being built** once there is a URL. -/
theorem isEvaluation_of_requestFor {url : Url}
    (body : Template.validate endpoint.definition.body = .ok ())
    (failed : engine.requestFor endpoint params url = .error error) : error.IsEvaluation := by
  simp only [requestFor] at failed
  split at failed
  · cases failed
  · rcases bind_eq_error_iff.mp failed with failed | ⟨sent, -, failed⟩
    · exact isEvaluation_of_expand body (map_eq_error_iff.mp failed)
    · cases failed

/-! ### Payloads -/

/-- The modifier of an expression, if there is one, fails as it promises. -/
def ReportsMalformed (selector : Selector) : Prop :=
  ∀ call ∈ selector.modifier, call.modifier.ReportsMalformed

theorem reportsMalformed_of_parse {modifiers : ModifierSet} {source : String} {selector : Selector}
    (promised : modifiers.ReportsMalformed)
    (read : Selector.parse modifiers source = .ok selector) : ReportsMalformed selector :=
  fun call mem => promised _ _ ((Selector.isWritable_of_parse read).known call mem)

/-- An expression that has been read fails only at a value that its modifier cannot take. -/
theorem malformedInput_of_evaluate {selector : Selector} {document : Json} {error : PathError}
    (promised : ReportsMalformed selector) (failed : selector.evaluate document = .error error) :
    ∃ modifier fragment reason, error = .malformedInput modifier fragment reason := by
  simp only [Selector.evaluate] at failed
  split at failed
  · cases failed
  · rename_i call called
    obtain ⟨fragment, reason, same⟩ := promised call called _ _ _ (map_eq_error_iff.mp failed)
    exact ⟨_, fragment, reason, same⟩

theorem decodeFailure_of_evaluate {selector : Selector} {document : Json}
    (promised : ReportsMalformed selector)
    (failed : (selector.evaluate document).mapError EndpointError.resolve = .error error) :
    DecodeFailure error := by
  obtain ⟨own, stopped, rfl⟩ := mapError_eq_error_iff.mp failed
  obtain ⟨modifier, fragment, reason, rfl⟩ := malformedInput_of_evaluate promised stopped
  exact .malformedInput modifier fragment reason

/-- What compiling leaves behind: the templates of the mappings have been checked, and the modifiers
of all expressions fail as they promise. -/
structure IsChecked (endpoint : Endpoint) : Prop where
  templates : ∀ rule ∈ endpoint.mappings, ∀ text, rule.source = .template text →
    Template.validate text = .ok ()
  root : ReportsMalformed endpoint.root
  paths : ∀ rule ∈ endpoint.mappings, ∀ expression, rule.source = .path expression →
    ReportsMalformed expression

theorem decodeFailure_of_elements {payload : ByteArray} (checked : IsChecked endpoint)
    (failed : elements endpoint payload = .error error) : DecodeFailure error := by
  unfold elements at failed
  split at failed
  · rcases bind_eq_error_iff.mp failed with failed | ⟨found, -, failed⟩
    · exact decodeFailure_of_evaluate checked.root failed
    · split at failed
      · cases failed
      · cases failed
        exact .decode _
  · cases failed
    exact .decode _

theorem decodeFailure_of_recordOf {item : Json} (checked : IsChecked endpoint)
    (failed : engine.recordOf endpoint item = .error error) : DecodeFailure error := by
  obtain ⟨rule, mem, record, failed⟩ := exists_of_foldlM_error failed
  obtain failed | ⟨value, -, failed⟩ := bind_eq_error_iff.mp failed
  · cases source : rule.source with
    | path expression =>
      rw [source] at failed
      exact decodeFailure_of_evaluate (checked.paths rule mem expression source) failed
    | template text =>
      rw [source] at failed
      obtain failed | ⟨written, -, failed⟩ := bind_eq_error_iff.mp failed
      · exact .evaluation (isEvaluation_of_expand (checked.templates rule mem text source) failed)
      · cases failed
  · split at failed <;> cases failed

variable {α : Type} {read : Json → Except ShapeError α}

theorem decodeFailure_of_decodeElement {index : Nat} {item : Json}
    (checked : IsChecked endpoint)
    (failed : engine.decodeElement endpoint read index item = .error error) :
    DecodeFailure error := by
  obtain failed | ⟨record, -, failed⟩ := bind_eq_error_iff.mp failed
  · exact decodeFailure_of_recordOf checked failed
  · obtain ⟨own, -, rfl⟩ := mapError_eq_error_iff.mp failed
    exact .decode _

theorem decodeFailure_of_decodeFrom {index : Nat} {items : List Json}
    (checked : IsChecked endpoint)
    (failed : engine.decodeFrom endpoint read index items = .error error) :
    DecodeFailure error := by
  induction items generalizing index with
  | nil => cases failed
  | cons item items ih =>
    obtain failed | ⟨record, -, failed⟩ := bind_eq_error_iff.mp failed
    · exact decodeFailure_of_decodeElement checked failed
    · obtain failed | ⟨records, -, failed⟩ := bind_eq_error_iff.mp failed
      · exact ih failed
      · cases failed

/-- **What keeps a payload from being decoded.** -/
theorem decodeFailure_of_decode {payload : ByteArray} (checked : IsChecked endpoint)
    (failed : engine.decode endpoint read payload = .error error) : DecodeFailure error := by
  obtain failed | ⟨items, -, failed⟩ := bind_eq_error_iff.mp failed
  · exact decodeFailure_of_elements checked failed
  · exact decodeFailure_of_decodeFrom checked failed

/-! ### Endpoints that have been compiled -/

variable {definition : EndpointDefinition} {schema : Schema}

theorem isChecked_of_compile (promised : engine.modifiers.ReportsMalformed)
    (compiled : engine.compile definition schema = .ok endpoint) : IsChecked endpoint where
  templates _ mem _ source :=
    mapError_eq_ok_iff.mp (Endpoint.checkTemplate_of_mem compiled mem source)
  root := by
    obtain ⟨-, -, -, -, read, -⟩ := Endpoint.compile_eq_ok_iff.mp compiled
    exact reportsMalformed_of_parse promised read
  paths _ mem _ source := by
    obtain ⟨text, read⟩ := Endpoint.exists_parse_of_mem compiled mem source
    exact reportsMalformed_of_parse promised read

section Runs

variable {around : Surroundings} {start : String} {session : Session}
  (location : ∀ error, engine.urlFor endpoint params = .error error → RequestFailure params error)
  (asking : ∀ url error, engine.requestFor endpoint params url = .error error →
    error.IsEvaluation)
include location asking

theorem runFailure_of_exchange {sent : List Request}
    (failed : engine.exchange around.transport endpoint params = (sent, .error error)) :
    RunFailure around params error := by
  unfold exchange at failed
  split at failed
  · rename_i stopped
    cases failed
    exact .request (location _ stopped)
  · split at failed
    · rename_i stopped
      cases failed
      exact .request (.evaluation (asking _ _ stopped))
    · split at failed
      · rename_i answer
        cases failed
        exact .transport answer
      · obtain ⟨-, refused⟩ := Prod.mk.inj failed
        split at refused
        · rename_i failure
          cases refused
          exact .status _ failure
        · cases refused

/-- What keeps a run from giving records: the request, its answer, or what the answer holds. -/
theorem runFailure_of_run
    (decoding : ∀ payload error, engine.decode endpoint read payload = .error error →
      DecodeFailure error)
    (failed : ((engine.run around endpoint read params start).outcome session).1 = .error error) :
    RunFailure around params error := by
  rw [run_outcome] at failed
  split at failed
  · rename_i stopped
    cases failed
    exact .request (location _ stopped)
  · split at failed
    · cases failed
    · rw [runFresh_outcome] at failed
      split at failed
      · rename_i exchanged
        cases failed
        exact runFailure_of_exchange location asking exchanged
      · exact .decode (decoding _ _ (map_eq_error_iff.mp failed))

end Runs

/-- **What may still go wrong once an endpoint has been compiled**, with modifiers that fail as they
promise. -/
theorem failures_of_compiled (name baseUrl : Option String) (headers : List (String × String))
    (ttl : Option Time.Duration) (modifiers : ModifierSet)
    (promised : modifiers.ReportsMalformed) (engine : Engine)
    (made : make name baseUrl headers ttl modifiers = .ok engine)
    (unqueried : engine.baseUrl.queryPairs = []) (definition : EndpointDefinition)
    (schema : Schema) (endpoint : Endpoint)
    (compiled : engine.compile definition schema = .ok endpoint) :
    (∀ params error, engine.urlFor endpoint params = .error error → RequestFailure params error) ∧
    (∀ params url error, engine.requestFor endpoint params url = .error error →
      error.IsEvaluation) ∧
    (∀ {α : Type} (read : Json → Except ShapeError α) (payload : ByteArray) (error),
      engine.decode endpoint read payload = .error error → DecodeFailure error) ∧
    ∀ {α : Type} (read : Json → Except ShapeError α) (around : Surroundings) (params : Params)
      (start : String) (session : Session) (error),
      ((engine.run around endpoint read params start).outcome session).1 = .error error →
        RunFailure around params error := by
  obtain ⟨path, query, body, -, -, -, rfl, -⟩ := Endpoint.compile_eq_ok_iff.mp compiled
  have path := mapError_eq_ok_iff.mp path
  have query := mapError_eq_ok_iff.mp query
  have body := mapError_eq_ok_iff.mp body
  have plain := notMem_path_of_make made
  have checked := isChecked_of_compile ((given_of_make made).2 ▸ promised) compiled
  have location (params error) (failed : engine.urlFor endpoint params = .error error) :=
    requestFailure_of_urlFor plain unqueried path query failed
  have asking (params url error) (failed : engine.requestFor endpoint params url = .error error) :=
    isEvaluation_of_requestFor body failed
  refine ⟨location, asking, fun read payload error failed => decodeFailure_of_decode checked failed,
    fun read around params start session error failed => ?_⟩
  exact runFailure_of_run (location params) (asking params)
    (fun payload error failed => decodeFailure_of_decode checked failed) failed

/-- An endpoint with templates and path expressions in all of its parts. -/
def checkedDefinition : EndpointDefinition where
  path := "//\x7b\x7b id \x7d\x7d"
  query := "page=\x7b\x7b page \x7d\x7d"
  body := "\x7b\x7b id \x7d\x7d"
  rootPath := "items"
  mapping := [("title", "@template \x7b\x7b item.name \x7d\x7d"), ("categories", "tags|categories")]

/-- The error of a result. -/
def failure? {α : Type} : EndpointM α → Option EndpointError
  | .ok _ => none
  | .error error => some error

theorem failure?_eq_some_iff {α : Type} {result : EndpointM α} :
    failure? result = some error ↔ result = .error error := by
  cases result <;> simp [failure?]

/-- Behind the path of the base URL the template of a path is read as it was checked, and fails for
want of a variable. Dots are refused, and so is a payload whose tags are no list. -/
theorem failures_of_compiled_unbound :
    let dots : Params := ⟨[("id", .string "..")]⟩
    let refused : EndpointError :=
      .configuration "parameter 'id' cannot be used as a path segment: '..'"
    let unbound : EndpointError := .template ⟨"/b/\x7b\x7b id \x7d\x7d", .undefinedValue⟩
    let bodiless : EndpointError := .template ⟨"\x7b\x7b id \x7d\x7d", .undefinedValue⟩
    let unlisted : EndpointError :=
      .resolve (.malformedInput "categories" "5" "expected an array of strings")
    ∃ engine endpoint payload,
      make (some "s") (some "http://h/b//") [] none .builtin = .ok engine ∧
      engine.baseUrl.queryPairs = [] ∧
      engine.compile checkedDefinition .channel = .ok endpoint ∧
      (engine.urlFor endpoint dots = .error refused ∧ RequestFailure dots refused) ∧
      (engine.urlFor endpoint {} = .error unbound ∧ RequestFailure {} unbound) ∧
      (engine.requestFor endpoint {} engine.baseUrl = .error bodiless ∧ bodiless.IsEvaluation) ∧
      engine.decode endpoint Channel.read payload = .error unlisted ∧ DecodeFailure unlisted := by
  intro dots refused unbound bodiless unlisted
  have found : (do
      let engine ← (make (some "s") (some "http://h/b//") [] none .builtin).toOption
      let endpoint ← (engine.compile checkedDefinition .channel).toOption
      some (engine.baseUrl.queryPairs,
        failure? (engine.urlFor endpoint dots), failure? (engine.urlFor endpoint {}),
        failure? (engine.requestFor endpoint {} engine.baseUrl),
        failure? (engine.decode endpoint Channel.read
          "\x7b\"items\":[\x7b\"name\":1,\"tags\":5\x7d]\x7d".toUTF8))) =
        some ([], some refused, some unbound, some bodiless, some unlisted) := by
    decide +kernel
  obtain ⟨engine, made, found⟩ := Option.bind_eq_some_iff.mp found
  obtain ⟨endpoint, compiled, facts⟩ := Option.bind_eq_some_iff.mp found
  simp only [Option.some.injEq, Prod.mk.injEq, failure?_eq_some_iff] at facts
  obtain ⟨unqueried, dotted, missing, empty, shapeless⟩ := facts
  have made := toOption_eq_some_iff.mp made
  have compiled := toOption_eq_some_iff.mp compiled
  obtain ⟨location, asking, decoding, -⟩ :=
    failures_of_compiled _ _ _ _ _ ModifierSet.reportsMalformed_builtin engine made unqueried _ _
      endpoint compiled
  exact ⟨engine, endpoint, _, made, unqueried, compiled, ⟨dotted, location _ _ dotted⟩,
    ⟨missing, location _ _ missing⟩, ⟨empty, asking _ _ _ empty⟩, shapeless,
    decoding _ _ _ shapeless⟩

end Engine

end CatalogFeeds
