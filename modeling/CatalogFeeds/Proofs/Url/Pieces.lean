import CatalogFeeds.Proofs.Text.Digits
import CatalogFeeds.Proofs.Url.Path
import Mathlib.Data.List.TakeDrop
import Mathlib.Data.List.TakeWhile
/-!
The text of a URL, cut at its delimiters.

The delimiters of a text tell where its pieces stand, whatever these mean. If no part of a URL holds
a delimiter that ends it, then the pieces of its text are its parts.

* `cutHierarchy_host`, `cutHierarchy_path` — what stands between scheme and query, with a host and
  without one.
* `cut?_render` — the pieces of the text of clean parts.
-/

namespace CatalogFeeds.Url

open CatalogFeeds.Text

/-! ### Pieces -/

/-- The pieces of a text. -/
structure Pieces where
  scheme : String
  user : Option String := none
  host : Option String := none
  port : Option String := none
  path : String
  query : Option String := none
  fragment : Option String := none
  deriving DecidableEq

/-- Splits at the first occurrence of a character, if there is one. -/
def splitRest (sep : Char) (cs : List Char) : List Char × Option (List Char) :=
  match splitOnce sep cs with
  | some (before, after) => (before, some after)
  | none => (cs, none)

/-- The pieces behind the colon of a scheme, without query and fragment. Two slashes lead a host,
which a slash or nothing follows. The mark that keeps apart a path that begins with two slashes is
no part of the path. -/
def cutHierarchy (scheme : String) : List Char → Pieces
  | '/' :: '/' :: rest =>
    let (authority, path) := rest.span (· != '/')
    let (user, hostPort) := match splitUser authority with
      | some (user, hostPort) => (some (String.ofList user), hostPort)
      | none => (none, authority)
    let (host, port) := splitPort false hostPort
    { scheme, user
      host := some (String.ofList host)
      port := port.map String.ofList
      path := String.ofList path }
  | '/' :: '.' :: '/' :: '/' :: path => { scheme, path := String.ofList ('/' :: '/' :: path) }
  | path => { scheme, path := String.ofList path }

/-- Cuts a text at its delimiters. -/
def cut? (text : String) : Option Pieces := do
  let (scheme, rest) ← splitOnce ':' text.toList
  let (rest, fragment) := splitRest '#' rest
  let (rest, query) := splitRest '?' rest
  return { cutHierarchy (String.ofList scheme) rest with
    query := query.map String.ofList
    fragment := fragment.map String.ofList }

/-- User name and password as they are written in front of a host. -/
def credentials? (url : Url) : Option String :=
  match url.password with
  | some password => some (url.username ++ ":" ++ password)
  | none => if url.username.isEmpty then none else some url.username

/-- The parts of a URL as they are written. -/
def pieces (url : Url) : Pieces where
  scheme := url.scheme
  user := url.credentials?
  host := url.host
  port := url.port.map toString
  path := url.path.text
  query := url.query
  fragment := url.fragment

/-! ### Clean parts -/

/-- A host as it is written: a name without delimiters, or an address in brackets. -/
inductive IsHost : List Char → Prop
  | name {cs : List Char} (free : List.Disjoint ['/', '?', '#', '@', ':', '['] cs) : IsHost cs
  | address {cs : List Char} (free : List.Disjoint ['/', '?', '#', '@', ']'] cs) :
    IsHost ('[' :: (cs ++ [']']))

/-- A path as it is written: a text that no slash leads, or segments between slashes. -/
inductive IsCleanPath : UrlPath → Prop
  | plain {text : String} (unled : text.toList.head? ≠ some '/')
    (free : List.Disjoint ['?', '#'] text.toList) : IsCleanPath (.plain text)
  | segments {parts : List (List Char)}
    (clean : ∀ part ∈ parts, List.Disjoint ['/', '?', '#'] part ∧ part ≠ ['.']) :
    IsCleanPath (.segments (parts.map String.ofList))

/-- A URL no part of which holds a delimiter that ends it. -/
structure IsClean (url : Url) : Prop where
  scheme : ':' ∉ url.scheme.toList
  user : ∀ text ∈ url.credentials?, List.Disjoint ['/', '?', '#', '@'] text.toList
  host : ∀ host ∈ url.host, IsHost host.toList
  rooted : ∀ host ∈ url.host, ∃ segments, url.path = .segments segments
  unhosted : url.host = none → url.credentials? = none ∧ url.port = none
  path : IsCleanPath url.path
  query : ∀ query ∈ url.query, '#' ∉ query.toList

variable {url : Url} {cs host path : List Char} {sep c : Char}

/-! ### Cutting -/

theorem splitRest_append (none : sep ∉ cs) (after : Option (List Char)) :
    splitRest sep (cs ++ after.elim [] (sep :: ·)) = (cs, after) := by
  cases after with
  | none => simp [splitRest, splitOnce_of_notMem none]
  | some after => simp [splitRest, splitOnce_append none]

/-- What stands in front of the first separator holds none. -/
theorem splitRest_fst (sep : Char) (cs : List Char) :
    sep ∉ (splitRest sep cs).1 ∧ (splitRest sep cs).1 ⊆ cs := by
  unfold splitRest
  split
  · rename_i before after split
    rw [eq_of_splitOnce split]
    exact ⟨notMem_of_splitOnce split, List.subset_append_left before _⟩
  · rename_i none
    exact ⟨splitOnce_eq_none_iff.mp none, List.Subset.refl cs⟩

theorem bne_of_notMem (none : sep ∉ cs) : ∀ c ∈ cs, (c != sep) = true := by
  intro c mem
  rw [bne_iff_ne]
  rintro rfl
  exact none mem

theorem span_append (none : sep ∉ cs) (led : path.head?.all (· == sep)) :
    (cs ++ path).span (· != sep) = (cs, path) := by
  have others := bne_of_notMem none
  have rest : path.takeWhile (· != sep) = [] ∧ path.dropWhile (· != sep) = path := by
    cases path with
    | nil => exact ⟨rfl, rfl⟩
    | cons c path => simp_all
  rw [List.span_eq_takeWhile_dropWhile, List.takeWhile_append_of_pos others,
    List.dropWhile_append_of_pos others, rest.1, rest.2, List.append_nil]

theorem splitUser_of_notMem (none : '@' ∉ cs) : splitUser cs = .none := by
  have all : cs.reverse.takeWhile (· != '@') = cs.reverse :=
    List.takeWhile_eq_self_iff.mpr (bne_of_notMem (by simpa using none))
  simp [splitUser, all]

theorem splitUser_append (none : '@' ∉ host) (user : List Char) :
    splitUser (user ++ '@' :: host) = some (user, host) := by
  have others : ∀ c ∈ host.reverse, (c != '@') = true := bne_of_notMem (by simpa using none)
  have last : ((user ++ '@' :: host).reverse.takeWhile (· != '@')).reverse = host := by
    rw [List.reverse_append, List.reverse_cons, List.append_assoc,
      List.takeWhile_append_of_pos others]
    simp
  have longer : host.length ≠ user.length + (host.length + 1) := by omega
  have front : user.length + (host.length + 1) - host.length - 1 = user.length := by omega
  rw [splitUser, last]
  simp [longer, front]

/-- No colon of a host stands in front of a port. -/
theorem IsHost.splitPort_append (isHost : IsHost host) (rest : List Char) :
    splitPort false (host ++ rest) =
      (host ++ (splitPort false rest).1, (splitPort false rest).2) := by
  cases isHost with
  | name free =>
    simp only [List.disjoint_cons_left] at free
    obtain ⟨-, -, -, -, colon, bracket, -⟩ := free
    induction host with
    | nil => rfl
    | cons c host ih =>
      rw [List.mem_cons, not_or] at colon bracket
      have plain : (c == ':') = false := beq_false_of_ne (Ne.symm colon.1)
      have outside : (c == '[') = false := beq_false_of_ne (Ne.symm bracket.1)
      simp [splitPort, plain, outside, ih colon.2 bracket.2]
  | @address cs free =>
    simp only [List.disjoint_cons_left] at free
    obtain ⟨-, -, -, -, bracket, -⟩ := free
    have inside : splitPort true (cs ++ ']' :: rest) =
        (cs ++ ']' :: (splitPort false rest).1, (splitPort false rest).2) := by
      induction cs with
      | nil => simp [splitPort]
      | cons c cs ih =>
        rw [List.mem_cons, not_or] at bracket
        have within : (c != ']') = true := bne_iff_ne.mpr (Ne.symm bracket.1)
        simp [splitPort, within, ih bracket.2]
    simp [splitPort, inside]

theorem IsHost.free (isHost : IsHost host) : List.Disjoint ['/', '?', '#', '@'] host := by
  cases isHost <;> simp_all

/-! ### Authorities -/

/-- A port with the colon in front of it. -/
def portChars (port : Option Nat) : List Char :=
  port.elim [] (':' :: digits ·)

/-- User information with the sign that ends it. -/
def userChars (user : Option String) : List Char :=
  user.elim [] (·.toList ++ ['@'])

theorem notMem_portChars (port : Option Nat) (other : isDigit c = false) (colon : c ≠ ':') :
    c ∉ portChars port := by
  cases port with
  | none => exact List.not_mem_nil
  | some port =>
    rw [portChars, Option.elim_some, List.mem_cons, not_or]
    exact ⟨colon, fun mem => by simp [isDigit_of_mem_digits mem] at other⟩

theorem IsHost.splitPort_portChars (isHost : IsHost host) (port : Option Nat) :
    splitPort false (host ++ portChars port) = (host, port.map digits) := by
  rw [isHost.splitPort_append]
  cases port <;> simp [portChars, splitPort]

theorem splitUser_userChars (none : '@' ∉ cs) (user : Option String) :
    splitUser (userChars user ++ cs) = user.map fun text => (text.toList, cs) := by
  cases user with
  | none => exact splitUser_of_notMem none
  | some user => simp [userChars, splitUser_append none]

/-- What stands behind two slashes is cut into user, host, port and path. -/
theorem cutHierarchy_host (scheme : String) {user : Option String}
    (free : ∀ text ∈ user, '/' ∉ text.toList) (isHost : IsHost host) (port : Option Nat)
    (led : path.head?.all (· == '/')) :
    cutHierarchy scheme ('/' :: '/' :: (userChars user ++ (host ++ portChars port) ++ path)) =
      { scheme, user, host := some (String.ofList host), port := port.map toString
        path := String.ofList path } := by
  have hostFree := isHost.free
  simp only [List.disjoint_cons_left] at hostFree
  obtain ⟨hostSlash, -, -, hostSign, -⟩ := hostFree
  have userSlash : '/' ∉ userChars user := by
    cases user with
    | none => exact List.not_mem_nil
    | some user => simp [userChars, free user rfl]
  have portSlash := notMem_portChars port (c := '/') (by decide) (by decide)
  have portSign := notMem_portChars port (c := '@') (by decide) (by decide)
  have authority : (userChars user ++ (host ++ portChars port) ++ path).span (· != '/') =
      (userChars user ++ (host ++ portChars port), path) :=
    span_append (by simp [userSlash, hostSlash, portSlash]) led
  have sign : '@' ∉ host ++ portChars port := by simp [hostSign, portSign]
  have split := splitUser_userChars sign user
  have text : (port.map digits).map String.ofList = port.map toString := by
    cases port with
    | none => rfl
    | some port => exact congrArg some Nat.toString_eq_ofList_toDigits.symm
  rw [cutHierarchy, authority]
  simp only [split]
  cases user with
  | none =>
    have all : userChars none ++ (host ++ portChars port) = host ++ portChars port := rfl
    simp only [Option.map_none, all, isHost.splitPort_portChars, text]
  | some user =>
    simp only [Option.map_some, isHost.splitPort_portChars, text, String.ofList_toList]

/-! ### Paths without a host -/

/-- The mark in front of a path that begins with two slashes. -/
def pathMark (path : UrlPath) : List Char :=
  match path with
  | .segments ("" :: _ :: _) => ['/', '.']
  | _ => []

theorem cutHierarchy_of_unled (scheme : String) (unhosted : ∀ rest, cs ≠ '/' :: '/' :: rest)
    (unmarked : ∀ rest, cs ≠ '/' :: '.' :: '/' :: '/' :: rest) :
    cutHierarchy scheme cs = { scheme, path := String.ofList cs } := by
  rw [cutHierarchy]
  · exact unhosted
  · exact unmarked

/-- A path without a mark is not taken for a host, nor its beginning for a mark. -/
theorem text_of_unmarked {path : UrlPath} (clean : IsCleanPath path) (none : pathMark path = []) :
    (∀ rest, path.text.toList ≠ '/' :: '/' :: rest) ∧
      ∀ rest, path.text.toList ≠ '/' :: '.' :: '/' :: '/' :: rest := by
  cases clean with
  | @plain text unled _ =>
    have other (rest : List Char) : text.toList ≠ '/' :: rest := fun same => unled (by simp [same])
    exact ⟨fun rest => other _, fun rest => other _⟩
  | @segments parts clean =>
    rw [toList_text_segments]
    rcases parts with _ | ⟨_ | ⟨c, part⟩, parts⟩
    · exact ⟨nofun, nofun⟩
    · rcases parts with _ | ⟨next, parts⟩
      · exact ⟨nofun, nofun⟩
      · contradiction
    · obtain ⟨free, counts⟩ := clean _ List.mem_cons_self
      simp only [List.disjoint_cons_left, List.mem_cons, not_or] at free
      constructor
      · rintro rest same
        exact free.1.1 (by simp_all)
      · rintro rest same
        rcases part with _ | ⟨d, part⟩
        · exact counts (by simp_all)
        · exact free.1.2 (by simp_all)

/-- Without a host, what stands behind a scheme is its path. -/
theorem cutHierarchy_path (scheme : String) {path : UrlPath} (clean : IsCleanPath path) :
    cutHierarchy scheme (pathMark path ++ path.text.toList) = { scheme, path := path.text } := by
  have back : String.ofList path.text.toList = path.text := String.ofList_toList
  by_cases none : pathMark path = []
  · obtain ⟨unhosted, unmarked⟩ := text_of_unmarked clean none
    rw [none, List.nil_append, cutHierarchy_of_unled scheme unhosted unmarked, back]
  · unfold pathMark at none ⊢
    split at none
    · rename_i next parts
      have text : (UrlPath.segments ("" :: next :: parts)).text.toList =
          '/' :: '/' :: (next.toList ++ (parts.flatMap fun part => '/' :: part.toList)) := by
        simp [UrlPath.text, String.toList_join, List.flatMap_map]
      rw [text] at back ⊢
      rw [← back]
      rfl
    · contradiction

/-! ### Whole texts -/

/-- What is written between scheme and path. -/
theorem toList_authority (url : Url) :
    url.authority.toList = match url.host with
      | some host =>
        '/' :: '/' :: (userChars url.credentials? ++ (host.toList ++ portChars url.port))
      | none => pathMark url.path := by
  have user : url.userinfo.toList = userChars url.credentials? := by
    unfold userinfo credentials?
    cases url.password with
    | some password => simp [userChars]
    | none => cases url.username.isEmpty <;> simp [userChars]
  have port (port : Option Nat) :
      (port.elim "" fun port => ":" ++ toString port).toList = portChars port := by
    cases port with
    | none => rfl
    | some port => simp [portChars, digits]
  unfold authority
  cases url.host with
  | some host =>
    simp only [String.toList_append, user, port, List.append_assoc]
    rfl
  | none =>
    unfold pathMark
    split <;> simp_all

theorem toList_render (url : Url) :
    url.render.toList = url.scheme.toList ++ ':' :: (url.authority.toList ++ url.path.text.toList ++
      (url.query.map String.toList).elim [] ('?' :: ·) ++
      (url.fragment.map String.toList).elim [] ('#' :: ·)) := by
  unfold render
  cases url.query <;> cases url.fragment <;> simp

theorem IsCleanPath.free {path : UrlPath} (clean : IsCleanPath path) :
    List.Disjoint ['?', '#'] path.text.toList := by
  cases clean with
  | plain _ free => exact free
  | @segments parts clean =>
    rw [toList_text_segments]
    refine List.disjoint_right.mpr fun c mem => ?_
    obtain ⟨part, inside, mem⟩ := List.mem_flatMap.mp mem
    rcases List.mem_cons.mp mem with rfl | mem
    · decide
    · have none := (clean part inside).1
      simp only [List.disjoint_cons_left] at none
      rintro sign
      simp only [List.mem_cons, List.not_mem_nil, or_false] at sign
      rcases sign with rfl | rfl
      · exact none.2.1 mem
      · exact none.2.2.1 mem

theorem free_pathMark (path : UrlPath) : List.Disjoint ['?', '#'] (pathMark path) := by
  unfold pathMark
  split <;> simp

theorem IsClean.free_authority (clean : url.IsClean) :
    List.Disjoint ['?', '#'] url.authority.toList := by
  rw [toList_authority]
  cases hosted : url.host with
  | none => exact free_pathMark url.path
  | some host =>
    have hostFree := (clean.host host hosted).free
    simp only [List.disjoint_cons_left] at hostFree
    have userFree : List.Disjoint ['?', '#'] (userChars url.credentials?) := by
      cases user : url.credentials? with
      | none => exact List.disjoint_nil_right _
      | some text =>
        have free := clean.user text user
        simp only [List.disjoint_cons_left] at free
        simp [userChars, free]
    have portFree : List.Disjoint ['?', '#'] (portChars url.port) := by
      simp [notMem_portChars url.port (c := '?') (by decide) (by decide),
        notMem_portChars url.port (c := '#') (by decide) (by decide)]
    simp_all

/-- **The pieces of the text of a URL** are its parts, if these are clean. -/
theorem cut?_render (clean : url.IsClean) : cut? url.render = some url.pieces := by
  have hierarchy : cutHierarchy url.scheme (url.authority.toList ++ url.path.text.toList) =
      { url.pieces with query := none, fragment := none } := by
    rw [toList_authority]
    cases hosted : url.host with
    | some host =>
      obtain ⟨segments, path⟩ := clean.rooted host hosted
      have led : url.path.text.toList.head?.all (· == '/') := by
        cases segments <;> simp [path, UrlPath.text, String.toList_join]
      have userFree : ∀ text ∈ url.credentials?, '/' ∉ text.toList := by
        intro text mem
        have free := clean.user text mem
        simp only [List.disjoint_cons_left] at free
        exact free.1
      have cut := cutHierarchy_host url.scheme userFree (clean.host host hosted) url.port led
      simp only [List.cons_append, cut, pieces, hosted, String.ofList_toList]
    | none =>
      obtain ⟨user, port⟩ := clean.unhosted hosted
      simp only [cutHierarchy_path url.scheme clean.path, pieces, hosted, user, port,
        Option.map_none]
  have free : List.Disjoint ['?', '#'] (url.authority.toList ++ url.path.text.toList) :=
    List.disjoint_append_right.mpr ⟨clean.free_authority, clean.path.free⟩
  simp only [List.disjoint_cons_left] at free
  have queryFree : '#' ∉ url.authority.toList ++ url.path.text.toList ++
      (url.query.map String.toList).elim [] ('?' :: ·) := by
    rw [List.mem_append, not_or]
    refine ⟨free.2.1, ?_⟩
    cases query : url.query with
    | none => exact List.not_mem_nil
    | some text => simp [clean.query text query]
  have back (text : Option String) : (text.map String.toList).map String.ofList = text := by
    cases text <;> simp
  rw [cut?, toList_render, splitOnce_append clean.scheme]
  simp only [Option.bind_eq_bind, Option.bind_some, splitRest_append queryFree,
    splitRest_append free.1, String.ofList_toList, hierarchy, back]
  rfl

end CatalogFeeds.Url
