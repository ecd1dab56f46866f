import CatalogFeeds.Proofs.Results
import CatalogFeeds.Proofs.Text.Percent
import CatalogFeeds.Proofs.Text.Split
import CatalogFeeds.Proofs.Text.Utf8
import CatalogFeeds.Url.Mask
/-!
Paths that are read as they are written.

Reading a path encodes what may not stand in it and takes out its dot segments. Neither happens to
a segment that is settled, so a path of settled segments can be put in the place of another
(`withPath_ledBy`). The path of a base URL has no others (`settled_of_baseOf`).
-/

namespace CatalogFeeds.Url

open CatalogFeeds.Text

variable {cs segment : List Char} {c : Char} {scheme : String}

/-- What reading a path leaves of a segment as it is: all of it. -/
structure IsSettled (segment : List Char) : Prop where
  written : ∀ c ∈ segment, encodedInPath c = false ∧ c ≠ '/' ∧ c ≠ '\\'
  counts : plainDots segment ≠ ['.'] ∧ plainDots segment ≠ ['.', '.']

/-- The schemes of catalogues. -/
def IsWeb (scheme : String) : Prop :=
  scheme = "http" ∨ scheme = "https"

theorem IsWeb.isSpecial (web : IsWeb scheme) : isSpecial scheme = true := by
  rcases web with rfl | rfl <;> decide

theorem IsWeb.not_file (web : IsWeb scheme) : (scheme == "file") = false := by
  rcases web with rfl | rfl <;> decide

theorem isSettled_nil : IsSettled [] :=
  ⟨by simp, by decide⟩

theorem IsSettled.notMem (settled : IsSettled segment) : '/' ∉ segment :=
  fun mem => (settled.written '/' mem).2.1 rfl

/-! ### Settled segments -/

theorem shorten_of_settled {segments : List (List Char)}
    (settled : ∀ segment ∈ segments, IsSettled segment) (kept : List (List Char)) :
    shorten false kept segments = kept.reverse ++ segments := by
  induction segments generalizing kept with
  | nil => simp [shorten]
  | cons segment segments ih =>
    obtain ⟨single, double⟩ := (settled segment List.mem_cons_self).counts
    simp [shorten, single, double, keep, ih fun other mem =>
      settled other (List.mem_cons_of_mem segment mem)]

/-- What stands in settled segments or leads them has no meaning of its own. -/
theorem mem_ledBy_of_settled {segments : List (List Char)}
    (settled : ∀ segment ∈ segments, IsSettled segment) (mem : c ∈ ledBy '/' segments) :
    c = '/' ∨ encodedInPath c = false ∧ c ≠ '\\' := by
  obtain ⟨segment, inside, mem⟩ := List.mem_flatMap.mp mem
  rcases List.mem_cons.mp mem with slash | own
  · exact .inl slash
  · obtain ⟨plain, -, other⟩ := (settled segment inside).written c own
    exact .inr ⟨plain, other⟩

theorem splitPath_ledBy {segment : List Char} {segments : List (List Char)}
    (settled : ∀ other ∈ segment :: segments, IsSettled other) :
    splitPath true (segment ++ ledBy '/' segments) = segment :: segments := by
  have straight : (segment ++ ledBy '/' segments).map (fun c => if c == '\\' then '/' else c) =
      segment ++ ledBy '/' segments := by
    refine (List.map_congr_left fun c mem => ?_).trans (List.map_id _)
    rcases mem_ledBy_of_settled settled (List.mem_cons_of_mem '/' mem) with rfl | ⟨-, other⟩
    · rfl
    · simp [other]
  have split := splitAll_ledBy fun part mem => (settled part mem).notMem
  rw [ledBy_cons, splitAll, beq_self_eq_true, if_pos rfl, List.cons.injEq] at split
  rw [splitPath, if_pos rfl, straight, split.2]

/-- Settled segments are read as they are. -/
theorem pathAfterHost_ledBy (web : IsWeb scheme) {segments : List (List Char)}
    (settled : ∀ segment ∈ segments, IsSettled segment) (filled : segments ≠ []) :
    pathAfterHost scheme (ledBy '/' segments) = .segments (segments.map String.ofList) := by
  obtain ⟨segment, segments, rfl⟩ := List.exists_cons_of_ne_nil filled
  have kept : (segment :: segments).map (percentEncode encodedInPath) = segment :: segments :=
    (List.map_congr_left fun other mem => percentEncode_of_forall fun c inside =>
      ((settled other mem).written c inside).1).trans (List.map_id _)
  rw [ledBy_cons, pathAfterHost, List.isEmpty_cons, Bool.false_and, if_neg (by decide),
    withoutSlash, segmentsOf, web.isSpecial, web.not_file, splitPath_ledBy settled, kept,
    shorten_of_settled settled]
  rfl

/-- **A path of settled segments** can be put in the place of another. -/
theorem withPath_ledBy {url : Url} (web : IsWeb url.scheme) {segments : List (List Char)}
    (settled : ∀ segment ∈ segments, IsSettled segment) (filled : segments ≠ []) :
    url.withPath (String.ofList (ledBy '/' segments)) =
      { url with path := .segments (segments.map String.ofList) } := by
  have read : (ledBy '/' segments).filter (!isIgnored ·) = ledBy '/' segments := by
    refine List.filter_eq_self.mpr fun c mem => ?_
    rcases mem_ledBy_of_settled settled mem with rfl | ⟨plain, -⟩
    · rfl
    · rw [Bool.not_eq_true', isIgnored, Bool.or_eq_false_iff, Bool.or_eq_false_iff]
      refine ⟨⟨beq_false_of_ne ?_, beq_false_of_ne ?_⟩, beq_false_of_ne ?_⟩ <;>
        rintro rfl <;> exact absurd plain (by decide)
  rw [withPath, String.toList_ofList, read, pathAfterHost_ledBy web settled filled]

/-- The text of a path has a slash in front of each segment. -/
theorem toList_text_segments (segments : List (List Char)) :
    (UrlPath.segments (segments.map String.ofList)).text.toList = ledBy '/' segments := by
  simp [UrlPath.text, String.toList_join, List.flatMap_map, ledBy]

/-! ### Texts in the place of segments -/

/-- What is safe in a form may stand in a path. -/
theorem not_encodedInPath_of_isFormSafe (safe : isFormSafe c = true) :
    encodedInPath c = false ∧ c ≠ '/' ∧ c ≠ '\\' := by
  have all : ∀ n < 128, isFormSafe (Char.ofNat n) = true →
      encodedInPath (Char.ofNat n) = false ∧ Char.ofNat n ≠ '/' ∧ Char.ofNat n ≠ '\\' := by
    decide +kernel
  have small : c.toNat < 128 := by
    simp only [isFormSafe, Bool.or_eq_true, beq_iff_eq] at safe
    rcases safe with (((letter | rfl) | rfl) | rfl) | rfl
    · exact toNat_lt_of_isAlphanumeric letter
    all_goals decide
  rw [← Char.ofNat_toNat c] at safe ⊢
  exact all c.toNat small safe

theorem isFormSafe_of_isAlphanumeric (letter : isAlphanumeric c = true) : isFormSafe c = true := by
  simp [isFormSafe, letter]

/-- Where writing out the dots leaves no percent sign, there was none in front of anything else. -/
theorem percentDecode_of_plainDots (none : '%' ∉ plainDots cs) :
    percentDecode cs = utf8 (plainDots cs) := by
  induction cs using plainDots.induct with
  | case1 rest ih =>
    rw [plainDots, List.mem_cons, not_or] at none
    rw [plainDots, percentDecode, ih none.2]
    rfl
  | case2 rest ih =>
    rw [plainDots, List.mem_cons, not_or] at none
    rw [plainDots, percentDecode, ih none.2]
    rfl
  | case3 c rest lower upper ih =>
    rw [plainDots, List.mem_cons, not_or] at none
    · rw [plainDots, percentDecode_cons (Ne.symm none.1), ih none.2]
      · rfl
      · exact lower
      · exact upper
    · exact lower
    · exact upper
  | case4 => rfl

theorem plainDots_of_notMem (none : '%' ∉ cs) : plainDots cs = cs := by
  induction cs with
  | nil => rfl
  | cons c cs ih =>
    rw [List.mem_cons, not_or] at none
    rw [plainDots, ih none.2]
    · exact fun _ same _ => none.1 same.symm
    · exact fun _ same _ => none.1 same.symm

/-- Only dots are written as a dot segment. -/
theorem isSettled_percentEncode (single : cs ≠ ['.']) (double : cs ≠ ['.', '.']) :
    IsSettled (percentEncode (!isFormSafe ·) cs) := by
  have dots {ds : List Char} (none : '%' ∉ ds)
      (same : plainDots (percentEncode (!isFormSafe ·) cs) = ds) : cs = ds := by
    have back : percentDecode (percentEncode (!isFormSafe ·) cs) = utf8 cs :=
      percentDecode_percentEncode (by decide) cs
    have bytes : utf8 cs = utf8 ds := by
      rw [← back, ← same, percentDecode_of_plainDots (same ▸ none)]
    rw [← decodeLossy_utf8 cs, bytes, decodeLossy_utf8]
  refine ⟨fun c mem => ?_, fun same => single (dots (by decide) same),
    fun same => double (dots (by decide) same)⟩
  rcases mem_percentEncode mem with rfl | letter | ⟨-, safe⟩
  · decide
  · exact not_encodedInPath_of_isFormSafe (isFormSafe_of_isAlphanumeric letter)
  · exact not_encodedInPath_of_isFormSafe (by simpa using safe)

/-! ### What is read -/

/-- What is kept of segments is as they are, as long as no drive letter begins the path of a file.
Shortening leaves no dots, and may leave an empty segment. -/
theorem forall_shorten {file : Bool} {holds : List Char → Prop} (empty : holds [])
    (drive : file = true → ∀ segment, holds segment → holds (segment.take 1 ++ [':']))
    {kept segments : List (List Char)} (old : ∀ segment ∈ kept, holds segment)
    (new : ∀ segment ∈ segments, plainDots segment ≠ ['.'] → plainDots segment ≠ ['.', '.'] →
      holds segment) :
    ∀ segment ∈ shorten file kept segments, holds segment := by
  induction segments generalizing kept with
  | nil => simpa [shorten] using old
  | cons first segments ih =>
    rw [List.forall_mem_cons] at new
    have later {kept : List (List Char)} (old : ∀ segment ∈ kept, holds segment) :
        ∀ segment ∈ shorten file (if segments.isEmpty then [] :: kept else kept) segments,
          holds segment := by
      refine ih ?_ new.2
      split
      · exact List.forall_mem_cons.mpr ⟨empty, old⟩
      · exact old
    have dropped : ∀ segment ∈ dropLast file kept, holds segment := by
      unfold dropLast
      split
      · split
        · exact old
        · simp
      · exact fun segment mem => old segment (List.mem_of_mem_tail mem)
    rw [shorten]
    split
    · exact later dropped
    · split
      · exact later old
      · rename_i double single
        have own := new.1 (by simpa using single) (by simpa using double)
        refine ih (fun segment mem => ?_) new.2
        unfold keep at mem
        split at mem
        · rename_i begins
          simp only [Bool.and_eq_true] at begins
          rcases List.mem_cons.mp mem with rfl | mem
          · exact drive begins.1.1 first own
          · exact old segment mem
        · exact List.forall_mem_cons.mpr ⟨own, old⟩ segment mem

/-- Every segment that is read is settled. -/
theorem exists_settled_segmentsOf (web : IsWeb scheme) (cs : List Char) :
    ∃ segments : List (List Char), segmentsOf scheme cs = .segments (segments.map String.ofList) ∧
      ∀ segment ∈ segments, IsSettled segment := by
  refine ⟨_, by rw [segmentsOf], ?_⟩
  rw [web.isSpecial, web.not_file]
  refine forall_shorten isSettled_nil (fun file => absurd file Bool.false_ne_true)
    (List.forall_mem_nil _) fun segment mem single double => ⟨fun c own => ?_, single, double⟩
  obtain ⟨part, split, rfl⟩ := List.mem_map.mp mem
  rcases mem_percentEncode own with rfl | letter | ⟨own, plain⟩
  · decide
  · exact not_encodedInPath_of_isFormSafe (isFormSafe_of_isAlphanumeric letter)
  · refine ⟨plain, fun slash => notMem_of_mem_splitAll split (slash ▸ own), ?_⟩
    obtain ⟨d, -, rfl⟩ := List.mem_map.mp (mem_of_mem_splitAll split own)
    split <;> simp_all

/-- What is read behind slashes: a host, which is not empty if there is a user. -/
theorem afterSlashes_ok {url : Url} (h : afterSlashes scheme cs = .ok url) :
    ∃ userText hostText host port rest,
      (Host.parse hostText = .ok host ∨ Host.parseAny hostText = .ok host) ∧
      (host = "" → user userText = ("", none)) ∧
      url = {
        scheme
        username := (user userText).1
        password := (user userText).2
        host := some host
        port
        path := pathAfterHost scheme rest } := by
  simp only [afterSlashes, bind, Except.bind, throw, throwThe, MonadExceptOf.throw, pure,
    Except.pure] at h
  -- Whatever else is checked on the way, there is one place where a URL is made.
  repeat' split at h
  all_goals first
    | contradiction
    | exact Except.ok.inj h ▸ ⟨_, _, _, _, _, .inl (by assumption), by simp_all [Prod.ext_iff], rfl⟩
    | exact Except.ok.inj h ▸ ⟨_, _, _, _, _, .inr (by assumption), by simp_all [Prod.ext_iff], rfl⟩

/-- A URL that starts with a scheme of catalogues has it, and a path of that scheme. -/
theorem parse_path (web : IsWeb scheme) {text : String} {rest : List Char} {url : Url}
    (spelled : text.toList = scheme.toList ++ ':' :: '/' :: '/' :: rest)
    (h : parse text = .ok url) :
    url.scheme = scheme ∧ ∃ rest, url.path = pathAfterHost scheme rest := by
  have starts : text.toList.dropWhile isControlOrSpace = text.toList := by
    rw [spelled]
    rcases web with rfl | rfl <;> rfl
  have ends : dropEndWhile isControlOrSpace text.toList =
      scheme.toList ++ ':' :: '/' :: '/' :: dropEndWhile isControlOrSpace rest := by
    simpa [spelled] using dropEndWhile_append (p := isControlOrSpace) (c := '/') (by decide)
      (scheme.toList ++ [':', '/']) rest
  have clean : ∃ more, (stripWhile isControlOrSpace text.toList).filter (!isIgnored ·) =
      scheme.toList ++ ':' :: more := by
    refine ⟨'/' :: '/' :: (dropEndWhile isControlOrSpace rest).filter (!isIgnored ·), ?_⟩
    rw [stripWhile, starts, ends]
    rcases web with rfl | rfl <;> rfl
  have named (more : List Char) : splitScheme? (scheme.toList ++ ':' :: more) =
      some (scheme, more) := by
    rcases web with rfl | rfl <;> rfl
  obtain ⟨more, clean⟩ := clean
  simp only [parse, clean, named] at h
  obtain ⟨read, found, made⟩ := bind_eq_ok_iff.mp h
  obtain rfl := Except.ok.inj made
  unfold hierarchy at found
  rw [web.not_file, if_neg Bool.false_ne_true, web.isSpecial, if_pos rfl] at found
  obtain ⟨-, -, -, -, rest, -, -, rfl⟩ := afterSlashes_ok found
  exact ⟨rfl, rest, rfl⟩

theorem exists_withScheme (text : String) :
    ∃ scheme rest, IsWeb scheme ∧
      (withScheme text).toList = scheme.toList ++ ':' :: '/' :: '/' :: rest := by
  simp only [withScheme]
  split
  · rename_i named
    rw [Bool.or_eq_true, String.startsWith_string_iff, String.startsWith_string_iff] at named
    rcases named with ⟨rest, spelled⟩ | ⟨rest, spelled⟩
    · exact ⟨"http", rest, .inl rfl, spelled.symm⟩
    · exact ⟨"https", rest, .inr rfl, spelled.symm⟩
  · exact ⟨"https", _, .inr rfl, String.toList_append⟩

/-- **The path of a base URL** has settled segments only. -/
theorem settled_of_baseOf {text : String} {url : Url} (h : baseOf text = .ok url) :
    IsWeb url.scheme ∧ ∃ segments : List (List Char),
      url.path = .segments (segments.map String.ofList) ∧
      ∀ segment ∈ segments, IsSettled segment := by
  obtain ⟨scheme, rest, web, spelled⟩ := exists_withScheme text
  obtain ⟨rfl, rest, path⟩ := parse_path web spelled h
  rw [path, pathAfterHost, web.isSpecial, Bool.not_true, Bool.and_false, if_neg (by decide)]
  exact ⟨web, exists_settled_segmentsOf web _⟩

end CatalogFeeds.Url
