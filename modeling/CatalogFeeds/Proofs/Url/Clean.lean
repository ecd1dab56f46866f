import CatalogFeeds.Proofs.Url.Pieces
/-!
What is read is clean.

A URL is written by its parts, and reading keeps out of each part the delimiters that would end it:
by percent signs in users, paths and queries, and by refusing hosts that hold any.

* `isHost_of_parse`, `isHost_of_parseAny` — a host is a name without delimiters, or an address in
  brackets.
* `isCleanPath_segmentsOf` — segments are free of the delimiters of a path, and none is a dot.
* `isClean_of_parse` — no part of a URL that has been read holds a delimiter that ends it.
* `isHosted_of_parse` — and it has a host if it has a user.
-/

namespace CatalogFeeds.Url

open CatalogFeeds.Text

variable {url : Url} {cs : List Char} {c : Char}

/-! ### Characters of texts -/

/-- Where all characters are of one kind, no others are. -/
theorem disjoint_of_forall {signs : List Char} {p : Char → Bool} (all : ∀ c ∈ cs, p c = true)
    (none : signs.all (!p ·) = true) : List.Disjoint signs cs := by
  intro c sign mem
  have other := List.all_eq_true.mp none c sign
  simp [all c mem] at other

theorem mem_intercalate {separator : String} {texts : List String}
    (mem : c ∈ (separator.intercalate texts).toList) :
    c ∈ separator.toList ∨ ∃ text ∈ texts, c ∈ text.toList := by
  rw [String.toList_intercalate] at mem
  induction texts with
  | nil => simp at mem
  | cons text texts ih =>
    cases texts with
    | nil => simp_all
    | cons next texts =>
      rw [List.map_cons, List.map_cons, List.intercalate_cons_cons] at mem
      simp only [List.append_assoc, List.mem_append] at mem
      rcases mem with own | sign | later
      · exact .inr ⟨text, List.mem_cons_self, own⟩
      · exact .inl sign
      · rcases ih later with sign | ⟨other, inside, mem⟩
        · exact .inl sign
        · exact .inr ⟨other, List.mem_cons_of_mem text inside, mem⟩

/-- Lower case only changes letters, and into letters. -/
theorem eq_of_lower_eq {d : Char} (other : isLetter d = false) (h : lower c = d) : c = d := by
  have letters : ∀ n < 128, 'A' ≤ Char.ofNat n → Char.ofNat n ≤ 'Z' →
      isLetter (Char.ofNat (n + 32)) = true := by decide +kernel
  unfold lower at h
  split at h
  · rename_i capital
    rw [Bool.and_eq_true, decide_eq_true_eq, decide_eq_true_eq] at capital
    have small : c.toNat < 128 := Nat.lt_of_le_of_lt capital.2 (by decide)
    have letter := letters c.toNat small (by simpa using capital.1) (by simpa using capital.2)
    simp [h, other] at letter
  · exact h

/-! ### Hosts that are read -/

theorem isAlphanumeric_of_mem_hexDigits {n : Nat} (mem : c ∈ (Host.hexDigits n).toList) :
    isAlphanumeric c = true := by
  have digit : ∀ d < 16, isAlphanumeric (Nat.digitChar d) = true := by decide
  rw [Host.hexDigits, String.toList_ofList] at mem
  induction n using Nat.strongRecOn with
  | _ n ih =>
    rw [Nat.toDigits_eq_if (by decide)] at mem
    split at mem
    · rename_i small
      exact List.mem_singleton.mp mem ▸ digit n small
    · rename_i large
      rcases List.mem_append.mp mem with front | last
      · exact ih (n / 16) (by omega) front
      · exact List.mem_singleton.mp last ▸ digit (n % 16) (by omega)

theorem mem_ipv6Text {pieces : List Nat} (mem : c ∈ (Host.ipv6Text pieces).toList) :
    isAlphanumeric c = true ∨ c = ':' := by
  have colons {ns : List Nat} (mem : c ∈ (":".intercalate (ns.map Host.hexDigits)).toList) :
      isAlphanumeric c = true ∨ c = ':' := by
    rcases mem_intercalate mem with sign | ⟨text, inside, own⟩
    · exact .inr (by simpa using sign)
    · obtain ⟨n, -, rfl⟩ := List.mem_map.mp inside
      exact .inl (isAlphanumeric_of_mem_hexDigits own)
  simp only [Host.ipv6Text] at mem
  split at mem
  · exact colons mem
  · rw [String.toList_append, String.toList_append, List.mem_append, List.mem_append] at mem
    rcases mem with (front | sign) | back
    · exact colons front
    · exact .inr (by simpa using sign)
    · exact colons back

theorem mem_ipv4Text {address : Nat} (mem : c ∈ (Host.ipv4Text address).toList) :
    isDigit c = true ∨ c = '.' := by
  rcases mem_intercalate mem with sign | ⟨text, inside, own⟩
  · exact .inr (by simpa using sign)
  · obtain ⟨i, -, rfl⟩ := List.mem_map.mp inside
    refine .inl (isDigit_of_mem_digits (n := address / Host.byteWeight i % 256) ?_)
    simpa [digits] using own

/-- An address in brackets is written in brackets. -/
theorem isHost_of_bracketed {host : String} (h : Host.bracketed? cs = some (.ok host)) :
    IsHost host.toList := by
  unfold Host.bracketed? at h
  split at h
  · rw [Option.some.injEq] at h
    split at h
    · rename_i inner _
      cases read : Host.ipv6? inner.reverse with
      | none => simp [read] at h
      | some pieces =>
        have free : List.Disjoint ['/', '?', '#', '@', ']'] (Host.ipv6Text pieces).toList :=
          disjoint_of_forall (p := fun c => isAlphanumeric c || c == ':')
            (fun c mem => by simpa using mem_ipv6Text mem) (by decide)
        have text : host.toList = '[' :: ((Host.ipv6Text pieces).toList ++ [']']) := by
          simp only [read, Option.map_some, Option.elim_some, Except.ok.injEq] at h
          simp [← h]
        exact text ▸ .address free
    · contradiction
  · contradiction

/-- What may be written of a name holds no delimiter. -/
theorem free_of_written {name written : List Char} (h : Domain.written? name = some written) :
    List.Disjoint ['/', '?', '#', '@', ':', '['] written := by
  obtain ⟨labels, -, h⟩ := Option.bind_eq_some_iff.mp h
  simp only at h
  split at h
  · contradiction
  · rename_i none
    obtain rfl := Option.some.inj h
    refine disjoint_of_forall (p := (!Domain.isForbidden ·)) (fun c mem => ?_) (by decide)
    simpa using fun forbidden => none (List.any_eq_true.mpr ⟨c, mem, forbidden⟩)

theorem isHost_of_parse {host : String} (h : Host.parse cs = .ok host) : IsHost host.toList := by
  unfold Host.parse at h
  split at h
  · rename_i bracketed
    exact isHost_of_bracketed (h ▸ bracketed)
  · split at h
    · contradiction
    · rename_i name read
      obtain ⟨text, -, written⟩ := Option.bind_eq_some_iff.mp read
      split at h
      · contradiction
      · split at h
        · cases number : Host.ipv4? name with
          | none => simp [number] at h
          | some address =>
            simp only [number, Option.elim_some, Except.ok.injEq] at h
            exact .name (disjoint_of_forall (p := fun c => isDigit c || c == '.')
              (fun c mem => by simpa using mem_ipv4Text (h ▸ mem)) (by decide))
        · obtain rfl := Except.ok.inj h
          exact .name (by simpa using free_of_written written)

theorem isHost_of_parseAny {host : String} (h : Host.parseAny cs = .ok host) :
    IsHost host.toList := by
  unfold Host.parseAny at h
  split at h
  · rename_i bracketed
    exact isHost_of_bracketed (h ▸ bracketed)
  · split at h
    · contradiction
    · rename_i none
      obtain rfl := Except.ok.inj h
      have free : List.Disjoint ['/', '?', '#', '@', ':', '['] cs :=
        disjoint_of_forall (p := (!Host.isDelimiter ·)) (fun c mem => by
          simpa using fun sign => none (List.any_eq_true.mpr ⟨c, mem, sign⟩)) (by decide)
      rw [String.toList_ofList]
      exact .name (disjoint_percentEncode (by decide) fun c sign => .inr (free sign))

/-! ### What is read -/

theorem mem_credentials? {text : String} (mem : text ∈ url.credentials?) :
    text = url.username ∨ ∃ password ∈ url.password, text = url.username ++ ":" ++ password := by
  unfold credentials? at mem
  split at mem
  · rename_i password given
    exact .inr ⟨password, given, (Option.some.inj mem).symm⟩
  · split at mem
    · contradiction
    · exact .inl (Option.some.inj mem).symm

/-- User name and password are free of all delimiters. -/
theorem free_user (cs : List Char) :
    List.Disjoint ['/', '?', '#', '@'] (user cs).1.toList ∧
      ∀ password ∈ (user cs).2, List.Disjoint ['/', '?', '#', '@'] password.toList := by
  have free (cs : List Char) : List.Disjoint ['/', '?', '#', '@']
      (String.ofList (percentEncode encodedInUserinfo cs)).toList := by
    have encoded : ['/', '?', '#', '@'].all encodedInUserinfo = true := by decide
    rw [String.toList_ofList]
    exact disjoint_percentEncode (by decide) fun c sign => .inl (List.all_eq_true.mp encoded c sign)
  simp only [user]
  split
  · refine ⟨free _, fun password mem => ?_⟩
    split at mem
    · contradiction
    · exact Option.some.inj mem ▸ free _
  · exact ⟨free _, nofun⟩

/-- A path that no slash leads is written with its own beginning. -/
theorem isCleanPath_plain (unled : ∀ rest, cs ≠ '/' :: rest) (free : List.Disjoint ['?', '#'] cs) :
    IsCleanPath (.plain (String.ofList (percentEncode encodedAnywhere cs))) := by
  constructor
  · rw [String.toList_ofList]
    cases cs with
    | nil => exact nofun
    | cons c cs =>
      rw [percentEncode_cons]
      split
      · simp [List.head?_append, head?_percentChar]
      · intro same
        exact unled cs (congrArg (· :: cs) (Option.some.inj same))
  · rw [String.toList_ofList]
    exact disjoint_percentEncode (by decide) fun c sign => .inr (free sign)

/-- Segments are free of the delimiters of a path, and none of them is a dot. -/
theorem isCleanPath_segmentsOf (scheme : String) (cs : List Char) :
    IsCleanPath (segmentsOf scheme cs) := by
  have empty : List.Disjoint ['/', '?', '#'] [] ∧ [] ≠ ['.'] := by simp
  rw [segmentsOf]
  refine .segments (forall_shorten empty ?_ (List.forall_mem_nil _) ?_)
  · rintro - segment ⟨free, -⟩
    refine ⟨List.disjoint_append_right.mpr ⟨?_, by simp⟩, fun same => ?_⟩
    · exact List.disjoint_of_subset_right (List.take_subset 1 segment) free
    · cases segment <;> simp_all
  · intro segment mem single _
    obtain ⟨part, split, rfl⟩ := List.mem_map.mp mem
    have free : List.Disjoint ['/', '?', '#'] (percentEncode encodedInPath part) := by
      refine disjoint_percentEncode (by decide) (List.forall_mem_cons.mpr ⟨?_, ?_⟩)
      · exact .inr (notMem_of_mem_splitAll split)
      · have encoded : ['?', '#'].all encodedInPath = true := by decide
        exact fun c sign => .inl (List.all_eq_true.mp encoded c sign)
    exact ⟨free, fun same => single (by rw [same]; rfl)⟩

theorem exists_segments_pathAfterHost (scheme : String) (cs : List Char) :
    IsCleanPath (pathAfterHost scheme cs) ∧
      ∃ segments, pathAfterHost scheme cs = .segments segments := by
  rw [pathAfterHost]
  split
  · exact ⟨.segments (List.forall_mem_nil _), _, rfl⟩
  · exact ⟨isCleanPath_segmentsOf scheme _, _, rfl⟩

theorem isClean_of_afterSlashes {scheme : String} (named : ':' ∉ scheme.toList)
    (h : afterSlashes scheme cs = .ok url) : url.IsClean := by
  obtain ⟨userText, hostText, host, port, rest, read, -, rfl⟩ := afterSlashes_ok h
  obtain ⟨free, free'⟩ := free_user userText
  obtain ⟨clean, rooted⟩ := exists_segments_pathAfterHost scheme rest
  refine ⟨named, ?_, ?_, ?_, nofun, clean, nofun⟩
  · intro text mem
    rcases mem_credentials? mem with rfl | ⟨password, given, rfl⟩
    · exact free
    · have colon : List.Disjoint ['/', '?', '#', '@'] ":".toList := by simp
      rw [String.toList_append, String.toList_append]
      exact List.disjoint_append_right.mpr
        ⟨List.disjoint_append_right.mpr ⟨free, colon⟩, free' password given⟩
  · intro other same
    obtain rfl := Option.some.inj same
    rcases read with read | read
    · exact isHost_of_parse read
    · exact isHost_of_parseAny read
  · exact fun _ _ => rooted

/-- What is read of a file: a host, which may be empty, and segments. -/
theorem fileUrl_ok (h : fileUrl cs = .ok url) :
    ∃ host path, (host = "" ∨ ∃ text, Host.parse text = .ok host) ∧
      url = { scheme := "file", host := some host, path := segmentsOf "file" path } := by
  unfold fileUrl at h
  simp only at h
  split at h
  · split at h
    · split at h
      · exact ⟨_, _, .inl rfl, (Except.ok.inj h).symm⟩
      · split at h
        · exact ⟨_, _, .inl rfl, (Except.ok.inj h).symm⟩
        · obtain ⟨host, read, made⟩ := bind_eq_ok_iff.mp h
          refine ⟨_, _, ?_, (Except.ok.inj made).symm⟩
          split
          · exact .inr ⟨_, read⟩
          · exact .inl rfl
    · exact ⟨_, _, .inl rfl, (Except.ok.inj h).symm⟩
  · exact ⟨_, _, .inl rfl, (Except.ok.inj h).symm⟩

theorem isClean_of_fileUrl (h : fileUrl cs = .ok url) : url.IsClean := by
  obtain ⟨host, path, read, rfl⟩ := fileUrl_ok h
  refine ⟨?_, nofun, ?_, fun _ _ => ⟨_, rfl⟩, nofun, isCleanPath_segmentsOf _ _, nofun⟩
  · exact (by decide : ':' ∉ "file".toList)
  · intro other same
    obtain rfl := Option.some.inj same
    rcases read with rfl | ⟨text, read⟩
    · exact .name (List.disjoint_nil_right _)
    · exact isHost_of_parse read

/-- What is read behind a scheme: a file, a host behind slashes, or no host. -/
theorem hierarchy_cases {scheme : String} (h : hierarchy scheme cs = .ok url) :
    fileUrl cs = .ok url ∨ (scheme ≠ "file" ∧ ∃ rest, afterSlashes scheme rest = .ok url) ∨
      ∃ path, url = { scheme, path } ∧ (List.Disjoint ['?', '#'] cs → IsCleanPath path) := by
  unfold hierarchy at h
  split at h
  · exact .inl h
  · rename_i other
    have other : scheme ≠ "file" := fun same => other (beq_iff_eq.mpr same)
    split at h
    · exact .inr (.inl ⟨other, _, h⟩)
    · split at h
      · exact .inr (.inl ⟨other, _, h⟩)
      · refine .inr (.inr ⟨_, (Except.ok.inj h).symm, fun _ => ?_⟩)
        exact isCleanPath_segmentsOf scheme _
      · rename_i unled
        refine .inr (.inr ⟨_, (Except.ok.inj h).symm, fun free => ?_⟩)
        exact isCleanPath_plain unled free

theorem isClean_of_hierarchy {scheme : String} (named : ':' ∉ scheme.toList)
    (free : List.Disjoint ['?', '#'] cs) (h : hierarchy scheme cs = .ok url) : url.IsClean := by
  rcases hierarchy_cases h with file | ⟨-, rest, hosted⟩ | ⟨path, rfl, clean⟩
  · exact isClean_of_fileUrl file
  · exact isClean_of_afterSlashes named hosted
  · exact ⟨named, nofun, nofun, nofun, fun _ => ⟨rfl, rfl⟩, clean free, nofun⟩

theorem notMem_of_splitScheme? {scheme : String} {rest : List Char}
    (h : splitScheme? cs = some (scheme, rest)) : ':' ∉ scheme.toList := by
  unfold splitScheme? at h
  split at h
  · rename_i front after split
    split at h
    · obtain ⟨rfl, -⟩ := Prod.mk.inj (Option.some.inj h)
      rw [String.toList_ofList]
      intro mem
      obtain ⟨c, inside, same⟩ := List.mem_map.mp mem
      exact notMem_of_splitOnce split (eq_of_lower_eq (by decide) same ▸ inside)
    · contradiction
  · contradiction

/-- What is read of a URL: a scheme, what stands in front of query and fragment, and these. -/
theorem parse_ok {text : String} (h : parse text = .ok url) :
    ∃ scheme cs bare query fragment, ':' ∉ scheme.toList ∧ List.Disjoint ['?', '#'] cs ∧
      hierarchy scheme cs = .ok bare ∧ url = { bare with query, fragment } ∧
      ∀ text ∈ query, '#' ∉ text.toList := by
  simp only [parse] at h
  split at h
  · rename_i scheme rest split
    obtain ⟨bare, read, made⟩ := bind_eq_ok_iff.mp h
    change hierarchy scheme (splitRest '?' (splitRest '#' rest).1).1 = .ok bare at read
    obtain ⟨sign, -⟩ := splitRest_fst '#' rest
    obtain ⟨mark, part⟩ := splitRest_fst '?' (splitRest '#' rest).1
    refine ⟨scheme, _, bare, _, _, notMem_of_splitScheme? split, ?_, read,
      (Except.ok.inj made).symm, ?_⟩
    · simpa using ⟨mark, fun mem => sign (part mem)⟩
    · intro text mem
      obtain ⟨chars, -, rfl⟩ := Option.map_eq_some_iff.mp mem
      rw [String.toList_ofList]
      refine notMem_percentEncode (by decide) (by decide) (.inl ?_)
      simp [encodedInQuery]
  · contradiction

/-- **A URL that has been read** is clean. -/
theorem isClean_of_parse {text : String} (h : parse text = .ok url) : url.IsClean := by
  obtain ⟨scheme, cs, bare, query, fragment, named, free, read, rfl, queryFree⟩ := parse_ok h
  have clean := isClean_of_hierarchy named free read
  exact { clean with query := queryFree }

/-! ### Users and their hosts -/

theorem credentials?_eq_none_iff :
    url.credentials? = none ↔ url.username = "" ∧ url.password = none := by
  unfold credentials?
  cases url.password <;> simp

/-- Whether a URL that has a user has a host to ask. -/
def IsHosted (url : Url) : Prop :=
  url.credentials? ≠ none → (url.host.any (!·.isEmpty) && url.scheme != "file") = true

theorem isHosted_of_afterSlashes {scheme : String} (other : scheme ≠ "file")
    (h : afterSlashes scheme cs = .ok url) : url.IsHosted := by
  obtain ⟨userText, hostText, host, port, rest, -, nobody, rfl⟩ := afterSlashes_ok h
  intro somebody
  have filled : host ≠ "" := fun empty => somebody <|
    credentials?_eq_none_iff.mpr (Prod.mk.inj (nobody empty))
  simp [filled, other]

/-- A user is read in front of a host only. -/
theorem isHosted_of_hierarchy {scheme : String} (h : hierarchy scheme cs = .ok url) :
    url.IsHosted := by
  rcases hierarchy_cases h with file | ⟨other, rest, hosted⟩ | ⟨path, rfl, -⟩
  · obtain ⟨host, path, -, rfl⟩ := fileUrl_ok file
    exact fun somebody => absurd rfl somebody
  · exact isHosted_of_afterSlashes other hosted
  · exact fun somebody => absurd rfl somebody

/-- **A URL that has been read** has a host if it has a user. -/
theorem isHosted_of_parse {text : String} (h : parse text = .ok url) : url.IsHosted := by
  obtain ⟨scheme, cs, bare, query, fragment, -, -, read, rfl, -⟩ := parse_ok h
  have hosted : bare.IsHosted := isHosted_of_hierarchy read
  exact hosted

end CatalogFeeds.Url
