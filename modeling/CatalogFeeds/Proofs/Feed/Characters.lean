import CatalogFeeds.Proofs.Feed.Contents
import CatalogFeeds.Proofs.Text.Digits
/-!
The characters of feeds.

Documents may hold tabs, line breaks, and every character from the space on but two. Escaping is
about markup and lets every other character through, so a feed has exactly the strays that the
texts have which it shows, one behind the other.

* `IsProper.strays_renderAt`, `strays_document` — the strays of a document are those of its texts.
* `straysOf_texts_contents` — the texts of a feed are fields and words of its own without strays.
* `strays_of_render`, `feed_characters` — when all characters of a feed are legal.
* `decoded_strays_shown` — catalogues can send characters that are not.
-/

namespace CatalogFeeds

open CatalogFeeds.Text

namespace Xml

/-! ### Legal characters -/

/-- A character that documents may hold. -/
def isLegalChar (c : Char) : Bool :=
  c == '\t' || c == '\n' || c == '\r' || (0x20 ≤ c.toNat && c.toNat ≤ 0xD7FF) ||
    (0xE000 ≤ c.toNat && c.toNat ≤ 0xFFFD) || 0xFFFF < c.toNat

/-- A text of which documents may hold every character. -/
def IsLegal (text : String) : Prop :=
  ∀ c ∈ text.toList, isLegalChar c = true

instance (text : String) : Decidable (IsLegal text) :=
  decidable_of_iff (text.toList.all isLegalChar = true) List.all_eq_true

/-- The characters of a text that documents may not hold. -/
def strays (cs : List Char) : List Char :=
  cs.filter (!isLegalChar ·)

/-- The strays of texts, one text behind the other. -/
def straysOf (texts : List String) : List Char :=
  texts.flatMap fun text => strays text.toList

section Strays

variable {cs ds : List Char} {text : String} {texts others : List String}

@[simp]
theorem strays_nil : strays [] = [] :=
  rfl

@[simp]
theorem strays_append : strays (cs ++ ds) = strays cs ++ strays ds :=
  List.filter_append ..

theorem strays_eq_nil_iff : strays cs = [] ↔ ∀ c ∈ cs, isLegalChar c = true := by
  simp [strays]

theorem isLegal_iff : IsLegal text ↔ strays text.toList = [] :=
  strays_eq_nil_iff.symm

@[simp]
theorem straysOf_nil : straysOf [] = [] :=
  rfl

@[simp]
theorem straysOf_cons : straysOf (text :: texts) = strays text.toList ++ straysOf texts :=
  List.flatMap_cons

@[simp]
theorem straysOf_append : straysOf (texts ++ others) = straysOf texts ++ straysOf others :=
  List.flatMap_append

theorem straysOf_eq_nil_iff : straysOf texts = [] ↔ ∀ text ∈ texts, IsLegal text := by
  simp [straysOf, isLegal_iff]

theorem straysOf_flatMap {α : Type} (items : List α) (f : α → List String) :
    straysOf (items.flatMap f) = items.flatMap fun item => straysOf (f item) :=
  List.flatMap_assoc

/-- The visible characters of ASCII and the space are legal. -/
theorem isLegalChar_of_ascii {c : Char} (low : 32 ≤ c.toNat) (high : c.toNat < 128) :
    isLegalChar c = true := by
  have upper : c.toNat ≤ 0xD7FF := by omega
  simp [isLegalChar, low, upper]

theorem isLegalChar_of_isDigit {c : Char} (digit : isDigit c = true) : isLegalChar c = true := by
  have bounds := toNat_of_isDigit digit
  exact isLegalChar_of_ascii (by omega) (by omega)

theorem isLegalChar_of_isNameChar {c : Char} (named : isNameChar c = true) :
    isLegalChar c = true := by
  simp only [isNameChar, isAlphanumeric, isLetter, isDigit, Bool.or_eq_true, Bool.and_eq_true,
    decide_eq_true_eq, List.contains_eq_mem, List.mem_cons, List.not_mem_nil, or_false,
    Char.le_def, UInt32.le_iff_toNat_le, Char.toNat_val] at named
  rcases named with letter | rfl | rfl | rfl | rfl
  · refine isLegalChar_of_ascii ?_ ?_ <;>
    · simp only [Char.reduceToNat] at letter
      omega
  all_goals decide

end Strays

/-! ### Documents -/

mutual

/-- The texts of an element and the values of its attributes, in their order. -/
def texts : Xml → List String
  | leaf _ attributes text => attributes.map (·.2) ++ [text]
  | parent _ attributes children => attributes.map (·.2) ++ textsOfAll children
  | empty _ attributes => attributes.map (·.2)

/-- The texts of elements. -/
def textsOfAll : List Xml → List String
  | [] => []
  | child :: rest => texts child ++ textsOfAll rest

end

theorem textsOfAll_eq (elements : List Xml) : textsOfAll elements = elements.flatMap texts := by
  induction elements with
  | nil => rfl
  | cons child rest ih => rw [textsOfAll, ih, List.flatMap_cons]

theorem textsOfAll_append (elements others : List Xml) :
    textsOfAll (elements ++ others) = textsOfAll elements ++ textsOfAll others := by
  simp only [textsOfAll_eq, List.flatMap_append]

/-- Escaping neither adds nor takes away a stray. -/
theorem strays_flatMap_escapeChar (cs : List Char) : strays (cs.flatMap escapeChar) = strays cs := by
  induction cs with
  | nil => rfl
  | cons c cs ih =>
    have first : strays (escapeChar c) = strays [c] := by
      unfold escapeChar
      split <;> rfl
    rw [List.flatMap_cons, strays_append, ih, first, ← strays_append, List.singleton_append]

section Documents

variable {name : String} {attributes : List (String × String)}

theorem strays_of_isName {cs : List Char} (named : isName cs = true) : strays cs = [] :=
  strays_eq_nil_iff.mpr fun _ mem => isLegalChar_of_isNameChar (isNameChar_of_mem named mem)

theorem strays_renderAttribute {entry : String × String} (named : isName entry.1.toList = true) :
    strays (renderAttribute entry).toList = strays entry.2.toList := by
  have written : (renderAttribute entry).toList =
      [' '] ++ entry.1.toList ++ ['=', '"'] ++ entry.2.toList.flatMap escapeChar ++ ['"'] := by
    simp [renderAttribute, escape]
  have lead : strays [' '] = [] := rfl
  have quote : strays ['=', '"'] = [] := rfl
  have unquote : strays ['"'] = [] := rfl
  simp only [written, strays_append, lead, quote, unquote, strays_of_isName named,
    strays_flatMap_escapeChar, List.nil_append, List.append_nil]

theorem strays_tag (head : IsHead name attributes) :
    strays (tag name attributes).toList = straysOf (attributes.map (·.2)) := by
  have values : strays (attributes.flatMap fun entry => (renderAttribute entry).toList) =
      straysOf (attributes.map (·.2)) := by
    rw [strays, List.filter_flatMap, straysOf, List.flatMap_map]
    exact List.flatMap_congr fun entry mem => strays_renderAttribute (head.attributes entry mem)
  rw [toList_tag, strays_append, strays_of_isName head.name, values, List.nil_append]

theorem strays_indent (depth : Nat) : strays (indent depth).toList = [] := by
  rw [strays_eq_nil_iff, indent, String.toList_ofList]
  intro c mem
  rw [List.eq_of_mem_replicate mem]
  decide

theorem strays_renderAll {elements : List Xml}
    (h : ∀ x ∈ elements, ∀ depth, strays (renderAt depth x).toList = straysOf x.texts)
    (depth : Nat) : strays (renderAll depth elements).toList = straysOf (textsOfAll elements) := by
  induction elements with
  | nil => rfl
  | cons x rest ih =>
    obtain ⟨first, others⟩ := List.forall_mem_cons.mp h
    rw [renderAll, String.toList_append, strays_append, first depth, ih others, textsOfAll,
      straysOf_append]

/-- **The lines of an element have the strays of its texts**, and no others. -/
theorem IsProper.strays_renderAt {x : Xml} (proper : IsProper x) :
    ∀ depth, strays (renderAt depth x).toList = straysOf x.texts := by
  have opens : strays "<".toList = [] := rfl
  have closes : strays ">".toList = [] := rfl
  have ends : strays "</".toList = [] := rfl
  have breaks : strays ">\n".toList = [] := rfl
  have stands : strays "/>\n".toList = [] := rfl
  induction proper with
  | @leaf name attributes head text =>
    intro depth
    simp only [renderAt, escape, texts, String.toList_append, String.toList_ofList, strays_append,
      straysOf_append, straysOf_cons, straysOf_nil, strays_indent, strays_tag head,
      strays_of_isName head.name, strays_flatMap_escapeChar, opens, closes, ends, breaks,
      List.nil_append, List.append_nil]
  | @parent name attributes children head _ _ ih =>
    intro depth
    simp only [renderAt, texts, String.toList_append, strays_append, straysOf_append,
      strays_indent, strays_tag head, strays_of_isName head.name, strays_renderAll ih, opens, ends,
      breaks, List.nil_append, List.append_nil]
  | @empty name attributes head =>
    intro depth
    simp only [renderAt, texts, String.toList_append, strays_append, strays_indent,
      strays_tag head, opens, stands, List.nil_append, List.append_nil]

/-- **A document has the strays of its texts**, and no others. -/
theorem strays_document {root : Xml} (proper : IsProper root) :
    strays (document root).toList = straysOf root.texts := by
  have declaration :
      strays "<?xml version=\"1.0\" encoding=\"UTF-8\"?>\n".toList = [] := by
    decide +kernel
  have written : (document root).toList =
      "<?xml version=\"1.0\" encoding=\"UTF-8\"?>\n".toList ++ (renderAt 0 root).toList :=
    String.toList_append
  rw [written, strays_append, proper.strays_renderAt, declaration, List.nil_append]

end Documents

end Xml

namespace Feed

open CatalogFeeds.Time CatalogFeeds.Xml

/-! ### Words of feeds -/

theorem strays_digits (n : Nat) : strays (digits n) = [] :=
  strays_eq_nil_iff.mpr fun _ mem => isLegalChar_of_isDigit (isDigit_of_mem_digits mem)

theorem strays_paddedDigits (width n : Nat) : strays (paddedDigits width n) = [] :=
  strays_eq_nil_iff.mpr fun _ mem => isLegalChar_of_isDigit (isDigit_of_mem_paddedDigits mem)

theorem strays_toString (n : Nat) : strays (toString n).toList = [] := by
  rw [Nat.toString_eq_ofList_toDigits, String.toList_ofList]
  exact strays_digits n

theorem strays_durationText (n : Nat) : strays (durationText n).toList = [] := by
  have colon : strays [':'] = [] := rfl
  have parts : (durationText n).toList = digits (n / 3600) ++ [':'] ++
      paddedDigits 2 (n / 60 % 60) ++ [':'] ++ paddedDigits 2 (n % 60) := by
    simp [durationText]
  simp only [parts, strays_append, strays_digits, strays_paddedDigits, colon, List.append_nil]

/-- A name out of a list of names without strays, or nothing, has no strays. -/
theorem strays_getD {names : List String} (legal : straysOf names = []) (i : Nat) :
    strays (names.getD i "").toList = [] := by
  rw [List.getD_eq_getElem?_getD]
  cases found : names[i]? with
  | none => rfl
  | some name => exact isLegal_iff.mp (straysOf_eq_nil_iff.mp legal name (List.mem_of_getElem? found))

theorem strays_clockDigits (t : Instant) : strays t.clockDigits = [] := by
  have colon : strays [':'] = [] := rfl
  simp only [Instant.clockDigits, strays_append, strays_paddedDigits, colon, List.append_nil]

theorem strays_mailText? {t : Instant} {text : String} (written : t.mailText? = some text) :
    strays text.toList = [] := by
  have weekdays : straysOf weekdayNames = [] := by decide +kernel
  have months : straysOf monthNames = [] := by decide +kernel
  have comma : strays ", ".toList = [] := rfl
  have space : strays " ".toList = [] := rfl
  have zone : strays " +0000".toList = [] := rfl
  rw [Instant.mailText?] at written
  split at written
  · rw [← Option.some.inj written]
    simp only [String.toList_append, String.toList_ofList, strays_append, strays_getD weekdays,
      strays_getD months, strays_toString, strays_paddedDigits, strays_clockDigits, comma, space,
      zone, List.append_nil]
  · simp at written

/-! ### Texts of feeds -/

variable (settings : FeedSettings) (channel : Channel) (episodes : List Episode)

/-- The texts that a feed shows of the picture of a channel, if it has one. -/
def imageTexts (channel : Channel) : List String :=
  if channel.image.url = "" then []
  else [channel.image.url, channel.image.url, orElse channel.image.title channel.title,
    channel.image.link]

/-- The texts that a feed shows of an episode. -/
def episodeTexts (episode : Episode) : List String :=
  [episode.title, episode.description, episode.id, episode.audioUrl, episode.audioUrl,
    episode.imageUrl]

/-- The texts that a feed shows of a channel. The settings stand in for fields that are empty. -/
def channelTexts (settings : FeedSettings) (channel : Channel) : List String :=
  [channel.title, channel.description, orElse channel.language settings.language, channel.link,
    channel.copyright, orElse channel.author settings.ownerName, channel.summary,
    channel.subtitle, channel.keywords, settings.ownerName] ++
  channel.category.map (·.text) ++ imageTexts channel

/-- The texts that a feed shows. -/
def shownTexts (settings : FeedSettings) (channel : Channel) (episodes : List Episode) :
    List String :=
  channelTexts settings channel ++ episodes.flatMap episodeTexts

/-! ### Contents of feeds -/

theorem straysOf_shown (text : String) : straysOf (shown text).toList = strays text.toList := by
  rw [shown]
  split <;> simp_all

theorem straysOf_row (name : String) (field : Option String)
    (fields : List (String × Option String)) :
    straysOf (textsOfAll (rows ((name, field) :: fields))) =
      straysOf field.toList ++ straysOf (textsOfAll (rows fields)) := by
  rw [rows_cons, textsOfAll_append, straysOf_append]
  cases field <;> simp [textsOfAll, texts]

theorem straysOf_noRows : straysOf (textsOfAll (rows [])) = [] :=
  rfl

/-- An element for a text that is shown has the strays of that text, whatever its attributes. -/
theorem straysOf_ofShown {make : String → Xml}
    (own : ∀ text, straysOf (make text).texts = strays text.toList) (text : String) :
    straysOf (textsOfAll ((shown text).toList.map make)) = strays text.toList := by
  rw [shown]
  split
  · simp_all [textsOfAll]
  · simp [textsOfAll, own]

theorem straysOf_pictures (url : String) :
    straysOf (textsOfAll (pictures url)) = strays url.toList :=
  straysOf_ofShown (fun _ => by simp [texts]) url

theorem straysOf_guid (id : String) :
    straysOf (textsOfAll ((shown id).toList.map (.leaf "guid" [("isPermaLink", "false")]))) =
      strays id.toList := by
  have no : strays "false".toList = [] := rfl
  exact straysOf_ofShown (fun text => by simp only [texts, List.map_cons, List.map_nil,
    straysOf_append, straysOf_cons, straysOf_nil, no, List.nil_append, List.append_nil]) id

theorem straysOf_enclosure (url : String) (length : Nat) :
    straysOf (textsOfAll ((shown url).toList.map fun url => .empty "enclosure" [
      ("url", url), ("type", "audio/mpeg"), ("length", toString length)])) = strays url.toList := by
  have kind : strays "audio/mpeg".toList = [] := rfl
  exact straysOf_ofShown (fun text => by simp only [texts, List.map_cons, List.map_nil,
    straysOf_cons, straysOf_nil, kind, strays_toString, List.append_nil]) url

theorem straysOf_date (date : Option Instant) :
    straysOf (date.bind Instant.mailText?).toList = [] := by
  cases written : date.bind Instant.mailText? with
  | none => rfl
  | some text =>
    obtain ⟨t, -, own⟩ := Option.bind_eq_some_iff.mp written
    simp [strays_mailText? own]

theorem straysOf_duration (seconds : Option Nat) :
    straysOf (seconds.map durationText).toList = [] := by
  cases seconds <;> simp [strays_durationText]

theorem straysOf_itemContents (episode : Episode) :
    straysOf (textsOfAll (itemContents episode)) = straysOf (episodeTexts episode) := by
  simp only [itemContents, textsOfAll_append, straysOf_append, straysOf_row, straysOf_noRows,
    straysOf_shown, straysOf_guid, straysOf_enclosure, straysOf_date, straysOf_duration,
    straysOf_pictures, episodeTexts, straysOf_cons, straysOf_nil, Option.toList_some,
    List.nil_append, List.append_nil, List.append_assoc]

theorem straysOf_imageContents :
    straysOf (textsOfAll (imageContents channel)) = straysOf (imageTexts channel) := by
  rw [imageContents, imageTexts, textsOfAll_append, straysOf_append, straysOf_pictures]
  by_cases none : channel.image.url = ""
  · simp [none, shown, textsOfAll]
  · have url : shown channel.image.url = some channel.image.url := if_neg none
    simp only [url, if_neg none, Option.toList_some, List.map_cons, List.map_nil, textsOfAll, texts,
      straysOf_row, straysOf_noRows, straysOf_shown, straysOf_cons, straysOf_nil, orElse_eq,
      List.nil_append, List.append_nil]

theorem straysOf_categories (categories : List Category) :
    straysOf (textsOfAll (categories.map fun category =>
      .empty "itunes:category" [("text", category.text)])) = straysOf (categories.map (·.text)) := by
  rw [textsOfAll_eq, List.flatMap_map, straysOf_flatMap, straysOf, List.flatMap_map]
  exact List.flatMap_congr fun category _ => by simp [texts]

theorem strays_flag (flag : Bool) : strays (if flag then "yes" else "no").toList = [] := by
  cases flag <;> rfl

/-- In front of its episodes a feed shows the fields of its channel. -/
theorem straysOf_channelContents :
    straysOf (textsOfAll (channelContents settings channel)) =
      straysOf (channelTexts settings channel) := by
  simp only [channelContents, channelTexts, textsOfAll_append, straysOf_append, straysOf_row,
    straysOf_noRows, straysOf_shown, strays_flag, straysOf_date, straysOf_categories,
    straysOf_imageContents, textsOfAll, texts, List.map_nil, orElse_eq, straysOf_cons, straysOf_nil,
    Option.toList_some, List.nil_append, List.append_nil, List.append_assoc]

/-- **The texts of a feed** are fields, and words of its own without strays. -/
theorem straysOf_texts_contents :
    straysOf (contents settings channel episodes).texts =
      straysOf (shownTexts settings channel episodes) := by
  have words : straysOf (("2.0") :: namespaces.map (·.2)) = [] := by decide +kernel
  have items : straysOf (textsOfAll (episodes.map fun episode =>
      .parent "item" [] (itemContents episode))) = straysOf (episodes.flatMap episodeTexts) := by
    rw [textsOfAll_eq, List.flatMap_map, straysOf_flatMap, straysOf_flatMap]
    refine List.flatMap_congr fun episode _ => ?_
    rw [texts, List.map_nil, List.nil_append, straysOf_itemContents]
  simp only [contents, texts, textsOfAll, textsOfAll_append, shownTexts, straysOf_append,
    List.map_cons, List.map_nil, words, straysOf_channelContents, items,
    List.nil_append, List.append_nil]

/-! ### The main statement -/

/-- **A feed has the strays of the texts that it shows**, one text behind the other. -/
theorem strays_of_render {feed : String} (made : render settings channel episodes = .ok feed) :
    strays feed.toList = straysOf (shownTexts settings channel episodes) := by
  obtain ⟨titled, dated⟩ := (render_ok_iff settings channel episodes).mp ⟨feed, made⟩
  rw [render, tree_eq settings channel episodes titled dated] at made
  have written : document (contents settings channel episodes) = feed := Except.ok.inj made
  rw [← written, strays_document (isProper_contents settings channel episodes),
    straysOf_texts_contents]

theorem isLegal_of_render_iff {feed : String} (made : render settings channel episodes = .ok feed) :
    IsLegal feed ↔ ∀ text ∈ shownTexts settings channel episodes, IsLegal text := by
  rw [isLegal_iff, strays_of_render settings channel episodes made, straysOf_eq_nil_iff]

/-- **Which feeds are made of legal characters.** The feed of a channel with a title, with dates
in the years 0 to 9999, has the strays of the texts that it shows, one text behind the other. So
all its characters are legal exactly if those of each of these texts are. -/
theorem feed_characters (settings : FeedSettings) (channel : Channel) (episodes : List Episode)
    (titled : isBlankText channel.title = false)
    (dated : ∀ t ∈ dates channel episodes, t.HasMailYear) :
    ∃ feed, render settings channel episodes = .ok feed ∧
      strays feed.toList = straysOf (shownTexts settings channel episodes) ∧
      (IsLegal feed ↔ ∀ text ∈ shownTexts settings channel episodes, IsLegal text) := by
  obtain ⟨feed, made⟩ := (render_ok_iff settings channel episodes).mpr ⟨titled, dated⟩
  exact ⟨feed, made, strays_of_render settings channel episodes made,
    isLegal_of_render_iff settings channel episodes made⟩

/-- A channel and an episode with line breaks, tabs and a character beyond the first plane. -/
def linedChannel : Channel where
  title := "Krim 🔎"
  description := "eins\r\nzwei\tdrei"
  category := [⟨"Häuser & Höfe"⟩]

/-- An episode of it. -/
def linedEpisode : Episode where
  title := "Folge\n1"
  publishedAt := some ⟨1709280000, 0⟩

theorem feed_characters_lined :
    isBlankText linedChannel.title = false ∧
      (∀ t ∈ dates linedChannel [linedEpisode], t.HasMailYear) ∧
      (∀ text ∈ shownTexts {} linedChannel [linedEpisode], IsLegal text) ∧
      ∃ feed, render {} linedChannel [linedEpisode] = .ok feed ∧ IsLegal feed := by
  have titled : isBlankText linedChannel.title = false := by decide +kernel
  have dated : ∀ t ∈ dates linedChannel [linedEpisode], t.HasMailYear := by
    simp [dates, linedChannel, linedEpisode, Instant.hasMailYear_iff]
  have legal : ∀ text ∈ shownTexts {} linedChannel [linedEpisode], IsLegal text := by
    decide +kernel
  obtain ⟨feed, made, -, whole⟩ := feed_characters {} linedChannel [linedEpisode] titled dated
  exact ⟨titled, dated, legal, feed, made, whole.mpr legal⟩

/-- A channel with a control character in its title. -/
def strayChannel : Channel where
  title := "Krim\x01"
  origin := { source := "s", sourceUrl := "c" }

/-- What its catalogue says. -/
def strayPayload : ByteArray :=
  (Json.array [.ofEntries [("t", .string "Krim\x01")]]).render.toUTF8

/-- **Catalogues can send characters that are not legal**, and they end up in the feed. -/
theorem decoded_strays_shown :
    ¬ ∀ (engine : Engine) (definition definition' : EndpointDefinition)
      (endpoint endpoint' : Endpoint) (payload payload' : ByteArray) (channels : List Channel)
      (episodes : List Episode) (settings : FeedSettings),
      engine.compile definition .channel = .ok endpoint →
      engine.compile definition' .episode = .ok endpoint' →
      engine.decodeChannels endpoint payload = .ok channels →
      engine.decodeEpisodes endpoint' payload' = .ok episodes →
      ∀ channel ∈ channels, isBlankText channel.title = false →
        (∀ t ∈ dates channel episodes, t.HasMailYear) →
        ∀ feed, render settings channel episodes = .ok feed → IsLegal feed := by
  intro always
  have stray : airedEngine.compile airedChannels .channel >>=
      (airedEngine.decodeChannels · strayPayload) = .ok [strayChannel] :=
    toOption_eq_some_iff.mp (by decide +kernel)
  have none : airedEngine.compile airedEpisodes .episode >>=
      (airedEngine.decodeEpisodes · "[]".toUTF8) = .ok [] :=
    toOption_eq_some_iff.mp (by decide +kernel)
  obtain ⟨endpoint, compiled, decoded⟩ := bind_eq_ok_iff.mp stray
  obtain ⟨endpoint', compiled', decoded'⟩ := bind_eq_ok_iff.mp none
  have titled : isBlankText strayChannel.title = false := by decide +kernel
  have dated : ∀ t ∈ dates strayChannel [], t.HasMailYear := by simp [dates, strayChannel]
  obtain ⟨feed, made⟩ := (render_ok_iff {} strayChannel []).mpr ⟨titled, dated⟩
  have legal := always airedEngine airedChannels airedEpisodes endpoint endpoint' _ _ _ _ {}
    compiled compiled' decoded decoded' strayChannel List.mem_cons_self titled dated feed made
  have wrong : ¬ ∀ text ∈ shownTexts {} strayChannel [], IsLegal text := by decide +kernel
  exact wrong ((isLegal_of_render_iff {} strayChannel [] made).mp legal)

end Feed

end CatalogFeeds
