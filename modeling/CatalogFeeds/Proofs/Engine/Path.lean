import CatalogFeeds.Engine.Request
import CatalogFeeds.Proofs.Source.Make
import CatalogFeeds.Proofs.Template.Pattern
import CatalogFeeds.Proofs.Url.Path
/-!
The path of a request.

A parameter in a path is written so that it stands for itself, whatever it holds: what separates
segments, ends a path or is taken for an escape is written by its bytes, and dots alone are refused.
So the path that is made out of the template is one of settled segments, and setting it changes
nothing about it.

* `pathVariables_of_dots`, `pathVariables_of_texts` — what the template of a path is expanded with.
* `expand_path` — the path that it makes: one segment for each of its parts.
* `path_keeps_values` — the path of a request, and what it leaves of the rest of the URL.
-/

namespace CatalogFeeds

open CatalogFeeds.Text

/-- Parameters that are texts. -/
def Params.ofTexts (texts : List (String × String)) : Params :=
  ⟨texts.map fun (name, text) => (name, .string text)⟩

/-- The text of a parameter, the last one if there are several of a name. -/
def Params.textOf (texts : List (String × String)) (name : String) : String :=
  (texts.reverse.lookup name).getD ""

/-- A part of the template of a path. -/
inductive PathPart where
  | fixed (text : String)
  | parameter (name : String)

namespace PathPart

/-- A part as it is written in a template. -/
def chars : PathPart → List Char
  | fixed text => text.toList
  | parameter name => Template.placeholderChars name

/-- The text that a part stands for. -/
def text (texts : List (String × String)) : PathPart → String
  | fixed text => text
  | parameter name => Params.textOf texts name

/-- The characters that mean nothing in a URL. -/
def isUnreserved (c : Char) : Bool :=
  isAlphanumeric c || c == '-' || c == '.' || c == '_' || c == '~'

/-- Whether a part is a text that means nothing but itself, or the name of a parameter. -/
def IsRegular (texts : List (String × String)) : PathPart → Prop
  | fixed text => text.toList.all isUnreserved ∧ text ≠ "" ∧ text ≠ "." ∧ text ≠ ".."
  | parameter name => Template.IsVariable name ∧ name ∈ texts.map Prod.fst

instance (texts : List (String × String)) : (part : PathPart) → Decidable (part.IsRegular texts)
  | fixed _ => inferInstanceAs (Decidable (_ ∧ _))
  | parameter _ => inferInstanceAs (Decidable (_ ∧ _))

/-- Whether a text is refused in a path. -/
def IsDots (text : String) : Prop :=
  text = "." ∨ text = ".."

instance (text : String) : Decidable (IsDots text) :=
  inferInstanceAs (Decidable (_ ∨ _))

end PathPart

namespace Engine

open PathPart

variable {texts : List (String × String)} {bindings : List (String × Json)}

/-! ### Parameters in a path -/

theorem setPathVariable_of_dots {name text : String} (dots : IsDots text) :
    setPathVariable bindings (name, .string text) = .error (.configuration
      ("parameter '" ++ name ++ "' cannot be used as a path segment: '" ++ text ++ "'")) := by
  have refused : (text == "." || text == "..") = true := by simpa [IsDots] using dots
  rw [setPathVariable, if_pos refused]

theorem setPathVariable_of_not_dots {name text : String} (plain : ¬ IsDots text) :
    setPathVariable bindings (name, .string text) =
      .ok (Members.insert name (.string (segmentEncode text)) bindings) := by
  have taken : ¬ (text == "." || text == "..") = true := by simpa [IsDots] using plain
  rw [setPathVariable, if_neg taken]

theorem pathVariables_cons (name text : String) (texts : List (String × String)) :
    pathVariables bindings (.ofTexts ((name, text) :: texts)) =
      (setPathVariable bindings (name, .string text) >>= (pathVariables · (.ofTexts texts))) := by
  simp only [pathVariables, Params.ofTexts, List.map_cons, List.foldlM_cons]

variable (bindings) in
/-- The first text of dots is refused. -/
theorem pathVariables_of_dots (dots : ∃ entry ∈ texts, IsDots entry.2) :
    ∃ name text, (name, text) ∈ texts ∧ IsDots text ∧
      pathVariables bindings (.ofTexts texts) = .error (.configuration
        ("parameter '" ++ name ++ "' cannot be used as a path segment: '" ++ text ++ "'")) := by
  induction texts generalizing bindings with
  | nil => simp at dots
  | cons entry texts ih =>
    obtain ⟨name, text⟩ := entry
    by_cases refused : IsDots text
    · refine ⟨name, text, List.mem_cons_self, refused, ?_⟩
      rw [pathVariables_cons, setPathVariable_of_dots refused]
      rfl
    · have later : ∃ entry ∈ texts, IsDots entry.2 := by
        obtain ⟨other, mem, dots⟩ := dots
        refine ⟨other, (List.mem_cons.mp mem).resolve_left ?_, dots⟩
        rintro rfl
        exact refused dots
      obtain ⟨name', text', mem, dots', stopped⟩ :=
        ih (Members.insert name (.string (segmentEncode text)) bindings) later
      refine ⟨name', text', List.mem_cons_of_mem _ mem, dots', ?_⟩
      rw [pathVariables_cons, setPathVariable_of_not_dots refused]
      exact stopped

/-- Other texts are written by their bytes. -/
theorem pathVariables_of_texts (plain : ∀ entry ∈ texts, ¬ IsDots entry.2) :
    pathVariables bindings (.ofTexts texts) = .ok (Members.insertAll
      (texts.map fun (name, text) => (name, .string (segmentEncode text))) bindings) := by
  induction texts generalizing bindings with
  | nil => rfl
  | cons entry texts ih =>
    rw [pathVariables_cons, setPathVariable_of_not_dots (plain entry List.mem_cons_self)]
    exact ih fun other mem => plain other (List.mem_cons_of_mem entry mem)

theorem textOf_mem {name : String} (named : name ∈ texts.map Prod.fst) :
    texts.reverse.lookup name = some (Params.textOf texts name) := by
  obtain ⟨entry, mem, rfl⟩ := List.mem_map.mp named
  have found : (texts.reverse.lookup entry.1).isSome :=
    List.lookup_isSome_iff.mpr ⟨entry, List.mem_reverse.mpr mem, by simp⟩
  obtain ⟨text, given⟩ := Option.isSome_iff_exists.mp found
  rw [Params.textOf, given]
  rfl

/-- Among the variables of a path a parameter hides what else has its name. -/
theorem get?_pathVariables {name : String} (named : name ∈ texts.map Prod.fst) :
    Members.get? name (Members.insertAll
      (texts.map fun (name, text) => (name, Json.string (segmentEncode text))) bindings) =
        some (.string (segmentEncode (Params.textOf texts name))) := by
  rw [Members.get?_insertAll, ← List.map_reverse,
    Members.lookup_map (fun text => Json.string (segmentEncode text)), textOf_mem named]
  rfl

/-! ### The template of a path -/

/-- The pattern of a path: a text and parts behind it. -/
def pathPattern (before : List Char) : List PathPart → Template.Pattern
  | [] => .text before
  | .fixed text :: parts => pathPattern (before ++ '/' :: text.toList) parts
  | .parameter name :: parts => .placeholder (before ++ ['/']) name (pathPattern [] parts)

theorem chars_pathPattern (before : List Char) (parts : List PathPart) :
    (pathPattern before parts).chars = before ++ ledBy '/' (parts.map chars) := by
  induction before, parts using pathPattern.induct with
  | case1 before => simp [pathPattern, Template.Pattern.chars]
  | case2 before text parts ih => simp [pathPattern, ih, PathPart.chars]
  | case3 before name parts ih => simp [pathPattern, Template.Pattern.chars, ih, PathPart.chars]

/-- The segment that a part becomes. -/
def segment (texts : List (String × String)) : PathPart → List Char
  | .fixed text => text.toList
  | .parameter name => (segmentEncode (Params.textOf texts name)).toList

theorem filled_pathPattern (before : List Char) (parts : List PathPart) :
    (pathPattern before parts).filled (fun name => segmentEncode (Params.textOf texts name)) =
      before ++ ledBy '/' (parts.map (segment texts)) := by
  induction before, parts using pathPattern.induct with
  | case1 before => simp [pathPattern, Template.Pattern.filled]
  | case2 before text parts ih => simp [pathPattern, ih, segment]
  | case3 before name parts ih => simp [pathPattern, Template.Pattern.filled, ih, segment]

theorem mem_names_pathPattern {before : List Char} {parts : List PathPart} {name : String}
    (mem : name ∈ (pathPattern before parts).names) : .parameter name ∈ parts := by
  induction before, parts using pathPattern.induct with
  | case1 before => simp [pathPattern, Template.Pattern.names] at mem
  | case2 before text parts ih => exact List.mem_cons_of_mem _ (ih mem)
  | case3 before other parts ih =>
    rcases List.mem_cons.mp mem with rfl | later
    · exact List.mem_cons_self
    · exact List.mem_cons_of_mem _ (ih later)

/-- What may stand in a path means nothing in a template. -/
theorem mute_of_path {c : Char} (h : c = '/' ∨ Url.encodedInPath c = false) :
    c ≠ '\x7b' ∧ c ≠ '\n' ∧ c ≠ '\r' := by
  rcases h with rfl | plain
  · decide
  · refine ⟨?_, ?_, ?_⟩ <;> rintro rfl <;> exact absurd plain (by decide)

theorem not_encodedInPath_of_isUnreserved {c : Char} (h : isUnreserved c = true) :
    Url.encodedInPath c = false ∧ c ≠ '/' ∧ c ≠ '\\' := by
  simp only [isUnreserved, Bool.or_eq_true, beq_iff_eq] at h
  rcases h with (((letter | rfl) | rfl) | rfl) | rfl
  · exact Url.not_encodedInPath_of_isFormSafe (Url.isFormSafe_of_isAlphanumeric letter)
  all_goals decide

theorem isPlain_pathPattern {before : List Char} {parts : List PathPart}
    (mute : ∀ c ∈ before, c = '/' ∨ Url.encodedInPath c = false)
    (regular : ∀ part ∈ parts, part.IsRegular texts) :
    (pathPattern before parts).IsPlain := by
  have brace {cs : List Char} (mute : ∀ c ∈ cs, c = '/' ∨ Url.encodedInPath c = false) :
      '\x7b' ∉ cs := fun mem => (mute_of_path (mute _ mem)).1 rfl
  induction before, parts using pathPattern.induct with
  | case1 before =>
    exact ⟨brace mute, fun c last => (mute_of_path (mute c (List.mem_of_getLast? last))).2⟩
  | case2 before text parts ih =>
    obtain ⟨unreserved, -⟩ := regular _ List.mem_cons_self
    refine ih (fun c mem => ?_) fun part mem => regular part (List.mem_cons_of_mem _ mem)
    rcases List.mem_append.mp mem with old | new
    · exact mute c old
    · refine (List.mem_cons.mp new).imp_right fun own => ?_
      exact (not_encodedInPath_of_isUnreserved (List.all_eq_true.mp unreserved c own)).1
  | case3 before name parts ih =>
    obtain ⟨known, -⟩ := regular _ List.mem_cons_self
    refine ⟨brace fun c mem => ?_, known,
      ih (by simp) fun part mem => regular part (List.mem_cons_of_mem _ mem)⟩
    exact (List.mem_append.mp mem).elim (mute c) fun own => .inl (List.mem_singleton.mp own)

variable (bindings) in
/-- **The path that a template makes** has a segment for each of its parts. -/
theorem expand_path {before : List Char} {parts : List PathPart}
    (mute : ∀ c ∈ before, c = '/' ∨ Url.encodedInPath c = false)
    (regular : ∀ part ∈ parts, part.IsRegular texts) :
    expand (String.ofList (before ++ ledBy '/' (parts.map chars)))
        (Members.insertAll (texts.map fun (name, text) => (name, .string (segmentEncode text)))
          bindings) =
      .ok (String.ofList (before ++ ledBy '/' (parts.map (segment texts)))) := by
  have known : ∀ name ∈ (pathPattern before parts).names, Members.get? name (Members.insertAll
      (texts.map fun (name, text) => (name, Json.string (segmentEncode text))) bindings) =
        some (.string (segmentEncode (Params.textOf texts name))) :=
    fun name mem => get?_pathVariables (regular _ (mem_names_pathPattern mem)).2
  rw [expand, ← chars_pathPattern, Template.expand_chars (isPlain_pathPattern mute regular) known,
    filled_pathPattern]
  rfl

/-! ### The segments of a path -/

theorem toList_segmentEncode (text : String) :
    (segmentEncode text).toList = percentEncode (!isFormSafe ·) text.toList := by
  rw [segmentEncode, String.toList_ofList, percentEncode]
  congr 1
  funext c
  by_cases space : c = ' '
  · subst space
    decide
  · by_cases safe : isFormSafe c <;> simp [formChar, space, safe]

theorem mem_of_textOf {name : String} (named : name ∈ texts.map Prod.fst) :
    (name, Params.textOf texts name) ∈ texts := by
  obtain ⟨front, rest, split, -⟩ := List.lookup_eq_some_iff.mp (textOf_mem named)
  exact List.mem_reverse.mp (split ▸ by simp)

theorem isSettled_segment {part : PathPart} (regular : part.IsRegular texts)
    (plain : ∀ entry ∈ texts, ¬ IsDots entry.2) : Url.IsSettled (segment texts part) := by
  cases part with
  | fixed text =>
    obtain ⟨unreserved, -, single, double⟩ := regular
    have written (c : Char) (mem : c ∈ text.toList) :=
      not_encodedInPath_of_isUnreserved (List.all_eq_true.mp unreserved c mem)
    have sign : '%' ∉ text.toList := fun mem =>
      absurd (List.all_eq_true.mp unreserved '%' mem) (by decide)
    refine ⟨written, ?_⟩
    rw [segment, Url.plainDots_of_notMem sign]
    exact ⟨fun dots => single (String.toList_inj.mp dots),
      fun dots => double (String.toList_inj.mp dots)⟩
  | parameter name =>
    have apart := plain _ (mem_of_textOf regular.2)
    rw [segment, toList_segmentEncode]
    exact Url.isSettled_percentEncode (fun dots => apart (.inl (String.toList_inj.mp dots)))
      (fun dots => apart (.inr (String.toList_inj.mp dots)))

theorem percentDecode_segment {part : PathPart} (regular : part.IsRegular texts) :
    percentDecode (segment texts part) = utf8 (part.text texts).toList := by
  cases part with
  | fixed text =>
    exact percentDecode_of_notMem fun mem =>
      absurd (List.all_eq_true.mp regular.1 '%' mem) (by decide)
  | parameter name =>
    rw [segment, toList_segmentEncode]
    exact percentDecode_percentEncode (by decide) _

/-! ### The URL of a request -/

/-- The URL that the templates of queries make out of the base URL. -/
def queried (engine : Engine) (endpoint : Endpoint) (params : Params) : EndpointM Url := do
  let url ← expandPairs engine.baseUrl (engine.bindings endpoint params)
  addQuery url endpoint (engine.bindings endpoint params)

theorem expandPairs_withPath (url : Url) (path : UrlPath) (bindings : List (String × Json)) :
    expandPairs { url with path } bindings =
      (expandPairs url bindings).map fun url => { url with path } := by
  have same : Url.queryPairs { url with path } = url.queryPairs := rfl
  simp only [expandPairs, same]
  split
  · rfl
  · cases url.queryPairs.mapM fun (name, value) => do
      return (← expand name bindings, ← expand value bindings) <;> rfl

theorem addQuery_withPath (url : Url) (path : UrlPath) (endpoint : Endpoint)
    (bindings : List (String × Json)) :
    addQuery { url with path } endpoint bindings =
      (addQuery url endpoint bindings).map fun url => { url with path } := by
  simp only [addQuery]
  split
  · rfl
  · cases expand endpoint.definition.query bindings with
    | error => rfl
    | ok query =>
      by_cases none : (formPairs query).isEmpty <;> simp [bind, Except.bind, none] <;> rfl

/-- The request with a parameter of dots is refused if the endpoint has a path. -/
theorem urlFor_of_dots (engine : Engine) {endpoint : Endpoint}
    (stated : endpoint.definition.path.isEmpty = false) (dots : ∃ entry ∈ texts, IsDots entry.2) :
    ∃ name text, (name, text) ∈ texts ∧ IsDots text ∧
      engine.urlFor endpoint (.ofTexts texts) = .error (.configuration
        ("parameter '" ++ name ++ "' cannot be used as a path segment: '" ++ text ++ "'")) := by
  obtain ⟨name, text, mem, refused, stopped⟩ :=
    pathVariables_of_dots (engine.bindings endpoint (.ofTexts texts)) dots
  refine ⟨name, text, mem, refused, ?_⟩
  simp [urlFor, addPath, stated, stopped, bind, Except.bind]

/-- What has been put in the place of the path is left alone. -/
theorem urlFor_of_addPath {engine : Engine} {endpoint : Endpoint} {params : Params}
    {path : UrlPath}
    (h : addPath engine.baseUrl endpoint (engine.bindings endpoint params) params =
      .ok { engine.baseUrl with path }) :
    engine.urlFor endpoint params =
      (engine.queried endpoint params).map fun url => { url with path } := by
  simp only [urlFor, queried, h, bind, Except.bind, expandPairs_withPath]
  cases expandPairs engine.baseUrl (engine.bindings endpoint params) with
  | error => rfl
  | ok url => exact addQuery_withPath url path endpoint _

/-- The path of an endpoint begins with a slash for the parts of its template. -/
theorem joinPaths_eq {base path : String} {front : List (List Char)} {parts : List PathPart}
    (trimmed : dropEndWhile (· == '/') base.toList = ledBy '/' front)
    (written : splitAll '/' (path.toList.dropWhile (· == '/')) = parts.map chars) :
    joinPaths base path = String.ofList (ledBy '/' front ++ ledBy '/' (parts.map chars)) := by
  rw [← String.toList_inj, joinPaths, ← written, ledBy_splitAll]
  simp [trimmed]

theorem path_ne_empty {path : String} {parts : List PathPart}
    (written : splitAll '/' (path.toList.dropWhile (· == '/')) = parts.map chars)
    (regular : ∀ part ∈ parts, part.IsRegular texts) : path.isEmpty = false := by
  refine Bool.eq_false_iff.mpr fun empty => ?_
  rw [String.isEmpty_iff.mp empty] at written
  obtain ⟨part, mem, none⟩ : ∃ part ∈ parts, part.chars = [] :=
    List.mem_map.mp (written ▸ List.mem_singleton_self [])
  cases part with
  | fixed text => exact (regular _ mem).2.1 (String.toList_eq_nil_iff.mp none)
  | parameter name => simp [chars, Template.placeholderChars] at none

variable (bindings) in
/-- The path of an endpoint goes behind that of the base URL, segment by segment. -/
theorem addPath_eq {engine : Engine} {endpoint : Endpoint} {base : List (List Char)}
    {parts : List PathPart} (web : Url.IsWeb engine.baseUrl.scheme)
    (path : engine.baseUrl.path = .segments (base.map String.ofList))
    (settled : ∀ segment ∈ base, Url.IsSettled segment)
    (written : splitAll '/' (endpoint.definition.path.toList.dropWhile (· == '/')) =
      parts.map chars)
    (regular : ∀ part ∈ parts, part.IsRegular texts) (plain : ∀ entry ∈ texts, ¬ IsDots entry.2) :
    ∃ front, (∀ segment ∈ front, '/' ∉ segment) ∧
      dropEndWhile (· == '/') engine.baseUrl.path.text.toList = ledBy '/' front ∧
      addPath engine.baseUrl endpoint bindings (.ofTexts texts) = .ok { engine.baseUrl with
        path := .segments ((front ++ parts.map (segment texts)).map String.ofList) } := by
  obtain ⟨front, before, trimmed⟩ := exists_dropEndWhile_ledBy
    fun part mem => (settled part mem).notMem
  rw [← Url.toList_text_segments, ← path] at trimmed
  have frontSettled (part) (mem : part ∈ front) : Url.IsSettled part :=
    settled part (before.subset mem)
  have expanded := expand_path bindings
    (fun c mem => (Url.mem_ledBy_of_settled frontSettled mem).imp_right And.left) regular
  have filled : front ++ parts.map (segment texts) ≠ [] := by
    intro none
    rw [List.map_eq_nil_iff.mp (List.append_eq_nil_iff.mp none).2] at written
    exact splitAll_ne_nil '/' _ written
  have allSettled : ∀ part ∈ front ++ parts.map (segment texts), Url.IsSettled part := by
    intro part mem
    rcases List.mem_append.mp mem with old | new
    · exact frontSettled part old
    · obtain ⟨own, inside, rfl⟩ := List.mem_map.mp new
      exact isSettled_segment (regular own inside) plain
  have set := Url.withPath_ledBy web allSettled filled
  rw [ledBy_append] at set
  refine ⟨front, fun part mem => (frontSettled part mem).notMem, trimmed, ?_⟩
  simp only [addPath, path_ne_empty written regular, pathVariables_of_texts plain,
    joinPaths_eq trimmed written, bind, Except.bind, expanded, set]
  rfl

/-- **The path of a request.** Let the template of an endpoint have parts of texts that mean nothing
but themselves and of the names of parameters, all of which are texts. If one of these is dots the
request is refused, and the error names it. If not, the segments of the URL are those of the base
URL, without the slashes at its end, and behind them the texts that the parts stand for, whatever
these texts are; all else about the URL is as without the path. -/
theorem path_keeps_values (name baseUrl : Option String) (headers : List (String × String))
    (ttl : Option Time.Duration) (modifiers : ModifierSet) (engine : Engine)
    (made : make name baseUrl headers ttl modifiers = .ok engine) (endpoint : Endpoint)
    (texts : List (String × String)) (parts : List PathPart)
    (written : splitAll '/' (endpoint.definition.path.toList.dropWhile (· == '/')) =
      parts.map chars)
    (regular : ∀ part ∈ parts, part.IsRegular texts) :
    ((∃ entry ∈ texts, IsDots entry.2) →
      ∃ name text, (name, text) ∈ texts ∧ IsDots text ∧
        engine.urlFor endpoint (.ofTexts texts) = .error (.configuration
          ("parameter '" ++ name ++ "' cannot be used as a path segment: '" ++ text ++ "'"))) ∧
    ((∀ entry ∈ texts, ¬ IsDots entry.2) →
      ∃ path, engine.urlFor endpoint (.ofTexts texts) =
          (engine.queried endpoint (.ofTexts texts)).map (fun url => { url with path }) ∧
        (splitAll '/' path.text.toList).map percentDecode =
          (splitAll '/' (dropEndWhile (· == '/') engine.baseUrl.path.text.toList)).map
            percentDecode ++ parts.map fun part => utf8 (part.text texts).toList) := by
  refine ⟨engine.urlFor_of_dots (path_ne_empty written regular), fun plain => ?_⟩
  obtain ⟨-, text, -, read⟩ := of_make made
  obtain ⟨web, base, path, settled⟩ := Url.settled_of_baseOf read
  obtain ⟨front, frontNone, trimmed, added⟩ := addPath_eq
    (engine.bindings endpoint (.ofTexts texts)) web path settled written regular plain
  refine ⟨.segments ((front ++ parts.map (segment texts)).map String.ofList),
    urlFor_of_addPath added, ?_⟩
  have partNone : ∀ part ∈ parts.map (segment texts), '/' ∉ part := by
    intro part mem
    obtain ⟨own, inside, rfl⟩ := List.mem_map.mp mem
    exact (isSettled_segment (regular own inside) plain).notMem
  have none : ∀ part ∈ front ++ parts.map (segment texts), '/' ∉ part := fun part mem =>
    (List.mem_append.mp mem).elim (frontNone part) (partNone part)
  have values : parts.map (percentDecode ∘ segment texts) =
      parts.map fun part => utf8 (part.text texts).toList :=
    List.map_congr_left fun part mem => percentDecode_segment (regular part mem)
  rw [Url.toList_text_segments, splitAll_ledBy none, trimmed, splitAll_ledBy frontNone]
  rw [List.map_cons, List.map_append, List.map_map, values]
  rfl

/-- A catalogue below a path, with a query and a fragment. -/
def placedEngine? : Option Engine :=
  (make (some "s") (some "http://h/b//?x=1#f") [] none .builtin).toOption

/-- An endpoint with a parameter in its path. -/
def placedEndpoint : Endpoint where
  definition := { path := "/v1/\x7b\x7b id \x7d\x7d/~e" }
  schema := .channel
  root := ⟨"", [], none⟩
  mappings := []
  method := "GET"

/-- A parameter of signs stays within its segment, and one of dots is refused. -/
theorem path_keeps_values_signs :
    ∃ engine url, placedEngine? = some engine ∧
      engine.urlFor placedEndpoint (.ofTexts [("id", "a/../%2F?#\\")]) = .ok url ∧
      url.render = "http://h/b/v1/a%2F..%2F%252F%3F%23%5C/~e?x=1#f" ∧
      (splitAll '/' url.path.text.toList).map percentDecode =
        ["", "b", "v1", "a/../%2F?#\\", "~e"].map (utf8 ·.toList) ∧
      ∃ name text, (name, text) ∈ [("id", "..")] ∧ IsDots text ∧
        engine.urlFor placedEndpoint (.ofTexts [("id", "..")]) = .error (.configuration
          ("parameter '" ++ name ++ "' cannot be used as a path segment: '" ++ text ++ "'")) := by
  have found : (do
      let engine ← placedEngine?
      let url ← (engine.urlFor placedEndpoint (.ofTexts [("id", "a/../%2F?#\\")])).toOption
      some (url.render, engine.baseUrl.path.text)) =
        some ("http://h/b/v1/a%2F..%2F%252F%3F%23%5C/~e?x=1#f", "/b//") := by
    decide +kernel
  obtain ⟨engine, made, found⟩ := Option.bind_eq_some_iff.mp found
  obtain ⟨url, built, facts⟩ := Option.bind_eq_some_iff.mp found
  obtain ⟨shown, base⟩ := Prod.mk.inj (Option.some.inj facts)
  have built := toOption_eq_some_iff.mp built
  have path (text : String) (regular) := path_keeps_values _ _ _ _ _ engine
    (toOption_eq_some_iff.mp made) placedEndpoint [("id", text)]
    [.fixed "v1", .parameter "id", .fixed "~e"] (by decide) regular
  obtain ⟨whole, same, split⟩ := (path "a/../%2F?#\\" (by decide)).2 (by decide)
  rw [built] at same
  obtain ⟨queried, -, rfl⟩ := map_eq_ok_iff.mp same.symm
  refine ⟨engine, _, made, built, shown, ?_, (path ".." (by decide)).1 (by decide)⟩
  rw [split, base]
  decide

end Engine

end CatalogFeeds
