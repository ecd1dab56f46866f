import CatalogFeeds.Feed.Xml
import CatalogFeeds.Proofs.Files.Path
/-!
Reading markup back.

The reader below knows tags between angle brackets, attributes between double quotes and the five
entities, passes over declarations, and accepts nothing else. It goes through a text one character
after the other and keeps the elements that are open, the innermost one first, with the text and
the elements each of them has so far. An element around others has nothing but blanks beside them;
any other element has a text, which may be empty.

* `unescape?_flatMap` — what is escaped is read back, whatever the text is.
* `tag?_opening`, `tag?_whole`, `tag?_closing` — so are the three kinds of tags.
* `IsProper.reads` — an element that is read in front of anything ends up in the element around it.
* `read?_document` — a document is read back as the element it was written from.
-/

namespace CatalogFeeds.Xml

open CatalogFeeds.Text

/-! ### Texts -/

/-- The text that is escaped in a given way. An ampersand begins one of the five entities. -/
def unescape? : List Char → Option (List Char)
  | [] => some []
  | '&' :: 'l' :: 't' :: ';' :: cs => (unescape? cs).map ('<' :: ·)
  | '&' :: 'g' :: 't' :: ';' :: cs => (unescape? cs).map ('>' :: ·)
  | '&' :: 'a' :: 'm' :: 'p' :: ';' :: cs => (unescape? cs).map ('&' :: ·)
  | '&' :: 'a' :: 'p' :: 'o' :: 's' :: ';' :: cs => (unescape? cs).map ('\'' :: ·)
  | '&' :: 'q' :: 'u' :: 'o' :: 't' :: ';' :: cs => (unescape? cs).map ('"' :: ·)
  | '&' :: _ => none
  | c :: cs => (unescape? cs).map (c :: ·)

theorem unescape?_cons {c : Char} (cs : List Char) (plain : c ≠ '&') :
    unescape? (c :: cs) = (unescape? cs).map (c :: ·) := by
  rw [unescape?] <;> simp_all

theorem unescape?_of_notMem {cs : List Char} (plain : '&' ∉ cs) : unescape? cs = some cs := by
  induction cs with
  | nil => rfl
  | cons c cs ih =>
    rw [List.mem_cons, not_or] at plain
    rw [unescape?_cons cs (Ne.symm plain.1), ih plain.2]
    rfl

theorem unescape?_escapeChar (c : Char) (cs : List Char) :
    unescape? (escapeChar c ++ cs) = (unescape? cs).map (c :: ·) := by
  unfold escapeChar
  split
  case h_6 plain _ _ => exact unescape?_cons cs plain
  all_goals simp [unescape?]

/-- **What is escaped is read back**, whatever the text is. -/
theorem unescape?_flatMap (cs : List Char) : unescape? (cs.flatMap escapeChar) = some cs := by
  induction cs with
  | nil => rfl
  | cons c cs ih =>
    rw [List.flatMap_cons, unescape?_escapeChar, ih]
    rfl

theorem mem_escapeChar {c d : Char} (mem : d ∈ escapeChar c) : d ≠ '<' ∧ d ≠ '>' ∧ d ≠ '"' := by
  unfold escapeChar at mem
  split at mem
  case h_6 left right _ _ quote =>
    obtain rfl := List.mem_singleton.mp mem
    exact ⟨left, right, quote⟩
  all_goals grind

/-- Neither brackets nor quotes are left in a text that is escaped. -/
theorem mem_flatMap_escapeChar {cs : List Char} {c : Char} (mem : c ∈ cs.flatMap escapeChar) :
    c ≠ '<' ∧ c ≠ '>' ∧ c ≠ '"' := by
  obtain ⟨d, -, written⟩ := List.mem_flatMap.mp mem
  exact mem_escapeChar written

/-! ### Tags -/

/-- A character that names are made of. -/
def isNameChar (c : Char) : Bool :=
  isAlphanumeric c || [':', '-', '_', '.'].contains c

/-- Whether a text names an element or an attribute. -/
def isName (cs : List Char) : Bool :=
  !cs.isEmpty && cs.all isNameChar

/-- The name of an attribute, between the blank in front of it and the equals sign behind it. -/
def attributeName? : List Char → Option String
  | ' ' :: cs =>
    if cs.getLast? = some '=' ∧ isName cs.dropLast then some (String.ofList cs.dropLast) else none
  | _ => none

/-- The attributes in a tag that is split at its quotes, and what is behind the last quote. -/
def attributes? : List (List Char) → Option (List (String × String) × List Char)
  | [] => none
  | [ending] => some ([], ending)
  | lead :: value :: rest => do
    let name ← attributeName? lead
    let text ← unescape? value
    let (others, ending) ← attributes? rest
    return ((name, String.ofList text) :: others, ending)

/-- The name in front of a tag, its attributes, and what is behind the last of them. -/
def head? (cs : List Char) : Option (String × List (String × String) × List Char) :=
  let name := cs.takeWhile isNameChar
  if name.isEmpty then none
  else (attributes? (splitAll '"' (cs.dropWhile isNameChar))).map (String.ofList name, ·)

/-- What stands between angle brackets: a tag that opens an element, one that is an element by
itself, one that closes an element, or a declaration. -/
inductive Tag where
  | opening (name : String) (attributes : List (String × String))
  | whole (name : String) (attributes : List (String × String))
  | closing (name : String)
  | note

/-- The tag that begins with a name. A slash ends it if nothing is to follow it. -/
def headTag? (cs : List Char) : Option Tag :=
  match head? cs with
  | some (name, attributes, []) => some (.opening name attributes)
  | some (name, attributes, ['/']) => some (.whole name attributes)
  | _ => none

/-- The tag that a text between angle brackets stands for. -/
def tag? : List Char → Option Tag
  | '?' :: _ => some .note
  | '/' :: name => if isName name then some (.closing (String.ofList name)) else none
  | cs => headTag? cs

/-- A name for an element, and names for its attributes. -/
structure IsHead (name : String) (attributes : List (String × String)) : Prop where
  name : isName name.toList = true
  attributes : ∀ entry ∈ attributes, isName entry.1.toList = true

section Tags

variable {name : String} {attributes : List (String × String)} {cs ending : List Char} {c : Char}

theorem isNameChar_of_mem (named : isName cs = true) (mem : c ∈ cs) : isNameChar c = true := by
  rw [isName, Bool.and_eq_true, List.all_eq_true] at named
  exact named.2 c mem

theorem notMem_of_isName (named : isName cs = true) (other : isNameChar c = false) : c ∉ cs := by
  intro mem
  rw [isNameChar_of_mem named mem] at other
  contradiction

theorem exists_cons_of_isName (named : isName cs = true) :
    ∃ c rest, cs = c :: rest ∧ isNameChar c = true := by
  cases cs with
  | nil => simp [isName] at named
  | cons c rest => exact ⟨c, rest, rfl, isNameChar_of_mem named List.mem_cons_self⟩

theorem ne_empty_of_isName (named : isName name.toList = true) : name ≠ "" := by
  rintro rfl
  simp [isName] at named

theorem toList_tag : (tag name attributes).toList =
    name.toList ++ attributes.flatMap fun entry => (renderAttribute entry).toList := by
  simp [tag, List.flatMap_map]

theorem attributeName?_lead (named : isName name.toList = true) :
    attributeName? (' ' :: (name.toList ++ ['='])) = some name := by
  simp [attributeName?, named]

/-- The quotes of an attribute separate its name from its value. -/
theorem splitAll_renderAttribute {entry : String × String} (named : isName entry.1.toList = true) :
    splitAll '"' ((renderAttribute entry).toList ++ cs) =
      (' ' :: (entry.1.toList ++ ['='])) :: entry.2.toList.flatMap escapeChar ::
        splitAll '"' cs := by
  have lead : '"' ∉ ' ' :: (entry.1.toList ++ ['=']) := by
    simp [notMem_of_isName named (c := '"') rfl]
  have value : '"' ∉ entry.2.toList.flatMap escapeChar :=
    fun mem => (mem_flatMap_escapeChar mem).2.2 rfl
  have written : (renderAttribute entry).toList ++ cs =
      ' ' :: (entry.1.toList ++ ['=']) ++
        '"' :: (entry.2.toList.flatMap escapeChar ++ '"' :: cs) := by
    simp [renderAttribute, escape]
  rw [written, splitAll_append, splitAll_append, splitAll_of_notMem lead, splitAll_of_notMem value]
  rfl

/-- The attributes of a tag are read back. -/
theorem attributes?_splitAll (named : ∀ entry ∈ attributes, isName entry.1.toList = true)
    (unquoted : '"' ∉ ending) :
    attributes? (splitAll '"'
      (attributes.flatMap (fun entry => (renderAttribute entry).toList) ++ ending)) =
      some (attributes, ending) := by
  induction attributes with
  | nil =>
    rw [List.flatMap_nil, List.nil_append, splitAll_of_notMem unquoted]
    rfl
  | cons entry others ih =>
    rw [List.forall_mem_cons] at named
    rw [List.flatMap_cons, List.append_assoc, splitAll_renderAttribute named.1]
    simp [attributes?, attributeName?_lead named.1, unescape?_flatMap, ih named.2]

/-- Neither a blank in front of an attribute nor what ends a tag belongs to the name. -/
theorem takeWhile_attributes (attributes : List (String × String))
    (ends : ending.takeWhile isNameChar = []) :
    (attributes.flatMap (fun entry => (renderAttribute entry).toList) ++ ending).takeWhile
      isNameChar = [] := by
  cases attributes with
  | nil => exact ends
  | cons entry others =>
    simp [renderAttribute, show isNameChar ' ' = false from rfl]

/-- **The name and the attributes of an element are read back.** -/
theorem head?_tag (head : IsHead name attributes) (unquoted : '"' ∉ ending)
    (ends : ending.takeWhile isNameChar = []) :
    head? ((tag name attributes).toList ++ ending) = some (name, attributes, ending) := by
  have chars : ∀ c ∈ name.toList, isNameChar c = true := fun _ => isNameChar_of_mem head.name
  have blank := takeWhile_attributes attributes ends
  have behind := List.takeWhile_append_dropWhile (p := isNameChar)
    (l := attributes.flatMap (fun entry => (renderAttribute entry).toList) ++ ending)
  rw [blank, List.nil_append] at behind
  rw [head?, toList_tag, List.append_assoc, List.takeWhile_append_of_pos chars,
    List.dropWhile_append_of_pos chars, blank, behind, List.append_nil,
    attributes?_splitAll head.attributes unquoted]
  simp [ne_empty_of_isName head.name]

theorem tag?_tag (head : IsHead name attributes) (ending : List Char) :
    tag? ((tag name attributes).toList ++ ending) =
      headTag? ((tag name attributes).toList ++ ending) := by
  obtain ⟨c, rest, start, nameChar⟩ := exists_cons_of_isName head.name
  have first {d : Char} {more others : List Char} (same : c :: more = d :: others) :
      isNameChar d = true := by
    rwa [(List.cons.inj same).1] at nameChar
  rw [toList_tag, start, List.cons_append, List.cons_append]
  unfold tag?
  split
  case h_1 same => exact absurd (first same) (by decide)
  case h_2 same => exact absurd (first same) (by decide)
  case h_3 => rfl

theorem tag?_opening (head : IsHead name attributes) :
    tag? (tag name attributes).toList = some (.opening name attributes) := by
  have read := head?_tag head List.not_mem_nil (List.takeWhile_nil ..)
  have same := tag?_tag head []
  rw [List.append_nil] at read same
  rw [same, headTag?, read]

theorem tag?_whole (head : IsHead name attributes) :
    tag? ((tag name attributes).toList ++ ['/']) = some (.whole name attributes) := by
  rw [tag?_tag head ['/'], headTag?, head?_tag head (by decide) rfl]
  rfl

theorem tag?_closing (named : isName name.toList = true) :
    tag? ('/' :: name.toList) = some (.closing name) := by
  simp [tag?, named]

end Tags

/-! ### Elements -/

/-- A blank between elements. -/
def isSpace (c : Char) : Bool :=
  [' ', '\t', '\r', '\n'].contains c

/-- An element that is open: its name and its attributes, with the text and the elements that it
has so far. -/
structure Frame where
  name : String
  attributes : List (String × String)
  text : List Char := []
  children : List Xml := []

/-- What an open element becomes with some more text and some more elements. -/
def Frame.add (frame : Frame) (text : List Char) (children : List Xml) : Frame :=
  { frame with text := frame.text ++ text, children := frame.children ++ children }

/-- The element that is closed, with a text or with elements in it, but not with both. -/
def Frame.element? (frame : Frame) : Option Xml :=
  if frame.children.isEmpty then
    some (.leaf frame.name frame.attributes (String.ofList frame.text))
  else if frame.text.all isSpace then some (.parent frame.name frame.attributes frame.children)
  else none

/-- How far a text is read: the innermost open element and those around it, whether a tag has
begun, and the characters since the last bracket. -/
structure Reading where
  top : Frame
  around : List Frame := []
  inTag : Bool := false
  part : List Char := []

/-- What a tag does. It closes the innermost element only. -/
def Tag.effect? (top : Frame) (around : List Frame) : Tag → Option Reading
  | note => some { top, around }
  | opening name attributes => some { top := { name, attributes }, around := top :: around }
  | whole name attributes => some { top := top.add [] [.empty name attributes], around }
  | closing name =>
    match around with
    | outer :: rest =>
      if top.name = name then
        top.element?.map fun element => { top := outer.add [] [element], around := rest }
      else none
    | [] => none

namespace Reading

/-- What the next character does. -/
def next? (reading : Reading) (c : Char) : Option Reading :=
  if c = '<' then
    if reading.inTag then none
    else (unescape? reading.part).map fun text =>
      { top := reading.top.add text [], around := reading.around, inTag := true }
  else if c = '>' then
    if reading.inTag then (tag? reading.part).bind (Tag.effect? reading.top reading.around)
    else none
  else some { reading with part := reading.part ++ [c] }

/-- What a text does. -/
def advance? (reading : Reading) (cs : List Char) : Option Reading :=
  cs.foldlM next? reading

/-- The one element of a text that is read to its end. -/
def root? (reading : Reading) : Option Xml :=
  if reading.around.isEmpty && !reading.inTag && (reading.top.text ++ reading.part).all isSpace then
    match reading.top.children with
    | [element] => some element
    | _ => none
  else none

end Reading

/-- **The reader.** -/
def read? (text : String) : Option Xml :=
  (Reading.advance? { top := { name := "", attributes := [] } } text.toList).bind Reading.root?

/-! ### What the reader does with parts of a text -/

/-- A text without angle brackets. -/
def IsPlain (cs : List Char) : Prop :=
  ∀ c ∈ cs, c ≠ '<' ∧ c ≠ '>'

/-- A tag with its angle brackets. -/
def brackets (content : List Char) : List Char :=
  '<' :: content ++ ['>']

section Plain

variable {name : String} {attributes : List (String × String)} {cs ds : List Char}

@[simp]
theorem isPlain_nil : IsPlain [] :=
  List.forall_mem_nil _

@[simp]
theorem isPlain_cons {c : Char} : IsPlain (c :: cs) ↔ (c ≠ '<' ∧ c ≠ '>') ∧ IsPlain cs :=
  List.forall_mem_cons

@[simp]
theorem isPlain_append : IsPlain (cs ++ ds) ↔ IsPlain cs ∧ IsPlain ds :=
  List.forall_mem_append

theorem isPlain_of_all (holds : Char → Bool) (all : cs.all holds = true)
    (left : holds '<' = false) (right : holds '>' = false) : IsPlain cs := by
  intro c mem
  have held := List.all_eq_true.mp all c mem
  constructor
  · rintro rfl
    simp [held] at left
  · rintro rfl
    simp [held] at right

theorem isPlain_of_isName (named : isName cs = true) : IsPlain cs :=
  isPlain_of_all isNameChar (Bool.and_eq_true_iff.mp named).2 rfl rfl

theorem isPlain_of_isSpace (spaces : cs.all isSpace = true) : IsPlain cs :=
  isPlain_of_all isSpace spaces rfl rfl

theorem isPlain_flatMap_escapeChar : IsPlain (cs.flatMap escapeChar) :=
  fun _ mem => ⟨(mem_flatMap_escapeChar mem).1, (mem_flatMap_escapeChar mem).2.1⟩

theorem isPlain_tag (head : IsHead name attributes) : IsPlain (tag name attributes).toList := by
  rw [toList_tag, isPlain_append]
  refine ⟨isPlain_of_isName head.name, fun c mem => ?_⟩
  obtain ⟨entry, held, written⟩ := List.mem_flatMap.mp mem
  have key : IsPlain entry.1.toList := isPlain_of_isName (head.attributes entry held)
  have value : IsPlain (entry.2.toList.flatMap escapeChar) := isPlain_flatMap_escapeChar
  have plain : IsPlain (renderAttribute entry).toList := by
    simp [renderAttribute, escape, key, value]
  exact plain c written

end Plain

namespace Reading

variable {reading : Reading} {part text content : List Char}

theorem advance?_cons (c : Char) (cs : List Char) :
    reading.advance? (c :: cs) = (reading.next? c).bind (·.advance? cs) :=
  List.foldlM_cons

theorem advance?_append (cs ds : List Char) :
    reading.advance? (cs ++ ds) = (reading.advance? cs).bind (·.advance? ds) :=
  List.foldlM_append

/-- Between brackets a text is taken up as it is. -/
theorem advance?_plain {cs : List Char} (plain : IsPlain cs) :
    reading.advance? cs = some { reading with part := reading.part ++ cs } := by
  induction cs generalizing reading with
  | nil => simp [advance?]
  | cons c cs ih =>
    obtain ⟨⟨left, right⟩, plain⟩ := isPlain_cons.mp plain
    have first : reading.next? c = some { reading with part := reading.part ++ [c] } := by
      simp [next?, left, right]
    rw [advance?_cons, first, Option.bind_some, ih plain, List.append_assoc,
      List.singleton_append]

/-- A tag ends the text in front of it, and does what it stands for. -/
theorem advance?_brackets (top : Frame) (around : List Frame) {kind : Tag}
    (before : unescape? part = some text) (plain : IsPlain content)
    (known : tag? content = some kind) :
    advance? { top, around, part } (brackets content) =
      kind.effect? (top.add text []) around := by
  have opened : next? { top, around, part } '<' =
      some { top := top.add text [], around, inTag := true } := by
    simp [next?, before]
  have inside : advance? { top := top.add text [], around, inTag := true } content =
      some { top := top.add text [], around, inTag := true, part := content } :=
    advance?_plain plain
  have closed : next? { top := top.add text [], around, inTag := true, part := content } '>' =
      kind.effect? (top.add text []) around := by
    simp [next?, known]
  rw [brackets, List.cons_append, advance?_cons, opened, Option.bind_some, advance?_append, inside,
    Option.bind_some, advance?_cons, closed]
  exact Option.bind_fun_some _

end Reading

/-- A text adds elements to the one that is open around it, and nothing but blanks beside them. -/
def Reads (cs : List Char) (elements : List Xml) : Prop :=
  ∀ (top : Frame) (around : List Frame) (before : List Char), before.all isSpace = true →
    ∃ text part, text.all isSpace = true ∧ part.all isSpace = true ∧
      Reading.advance? { top, around, part := before } cs =
        some { top := top.add text elements, around, part }

section Reads

open Reading

variable {name : String} {attributes : List (String × String)} {cs ds : List Char}
  {elements others : List Xml}

theorem unescape?_of_isSpace (spaces : cs.all isSpace = true) : unescape? cs = some cs := by
  refine unescape?_of_notMem fun mem => ?_
  have space := List.all_eq_true.mp spaces _ mem
  exact absurd space (by decide)

/-- Behind blanks, a tag opens an element in the one that is open. -/
theorem advance?_opening {top : Frame} {around : List Frame} (head : IsHead name attributes)
    (blank : cs.all isSpace = true) :
    advance? { top, around, part := cs } (brackets (tag name attributes).toList) =
      some { top := { name, attributes }, around := top.add cs [] :: around } :=
  advance?_brackets top around (unescape?_of_isSpace blank) (isPlain_tag head) (tag?_opening head)

/-- Behind a text, a tag closes the element of its name if that may have the text. -/
theorem advance?_closing {top : Frame} (outer : Frame) (around : List Frame) {text : List Char}
    {element : Xml} (named : isName name.toList = true) (closes : top.name = name)
    (read : unescape? cs = some text) (whole : (top.add text []).element? = some element) :
    advance? { top, around := outer :: around, part := cs } (brackets ('/' :: name.toList)) =
      some { top := outer.add [] [element], around } := by
  have plain : IsPlain ('/' :: name.toList) :=
    isPlain_cons.mpr ⟨by decide, isPlain_of_isName named⟩
  have same : (top.add text []).name = name := closes
  rw [advance?_brackets top _ read plain (tag?_closing named), Tag.effect?, if_pos same, whole]
  rfl

/-! ### Parts that are read -/

theorem reads_of_isSpace (spaces : cs.all isSpace = true) : Reads cs [] := by
  intro top around before blank
  refine ⟨[], before ++ cs, rfl, ?_, ?_⟩
  · rw [List.all_append, blank, spaces]
    rfl
  · rw [advance?_plain (isPlain_of_isSpace spaces)]
    simp [Frame.add]

theorem Reads.append (h : Reads cs elements) (h' : Reads ds others) :
    Reads (cs ++ ds) (elements ++ others) := by
  intro top around before blank
  obtain ⟨text, part, spaces, blank', read⟩ := h top around before blank
  obtain ⟨text', part', spaces', blank'', read'⟩ := h' (top.add text elements) around part blank'
  refine ⟨text ++ text', part', ?_, blank'', ?_⟩
  · rw [List.all_append, spaces, spaces']
    rfl
  · rw [advance?_append, read, Option.bind_some, read']
    simp [Frame.add]

/-- Blanks around elements make no difference. -/
theorem Reads.spaced (h : Reads cs elements) {lead trail : List Char}
    (blank : lead.all isSpace = true) (blank' : trail.all isSpace = true) :
    Reads (lead ++ cs ++ trail) elements := by
  have all := ((reads_of_isSpace blank).append h).append (reads_of_isSpace blank')
  rwa [List.nil_append, List.append_nil] at all

theorem reads_note (plain : IsPlain cs) : Reads (brackets ('?' :: cs)) [] := by
  intro top around before blank
  have read := advance?_brackets top around (unescape?_of_isSpace blank)
    (isPlain_cons.mpr ⟨by decide, plain⟩) (rfl : tag? ('?' :: cs) = some .note)
  exact ⟨before, [], blank, rfl, read⟩

theorem reads_empty (head : IsHead name attributes) :
    Reads (brackets ((tag name attributes).toList ++ ['/'])) [.empty name attributes] := by
  intro top around before blank
  have read := advance?_brackets top around (unescape?_of_isSpace blank)
    (isPlain_append.mpr ⟨isPlain_tag head, by simp⟩) (tag?_whole head)
  refine ⟨before, [], blank, rfl, read.trans ?_⟩
  simp [Tag.effect?, Frame.add]

theorem reads_leaf (head : IsHead name attributes) (text : String) :
    Reads (brackets (tag name attributes).toList ++ text.toList.flatMap escapeChar ++
      brackets ('/' :: name.toList)) [.leaf name attributes text] := by
  intro top around before blank
  have whole : (Frame.add { name, attributes } text.toList []).element? =
      some (.leaf name attributes text) := by
    simp [Frame.add, Frame.element?]
  have closed := advance?_closing (top.add before []) around head.name rfl
    (unescape?_flatMap text.toList) whole
  refine ⟨before, [], blank, rfl, ?_⟩
  rw [advance?_append, advance?_append, advance?_opening head blank, Option.bind_some,
    advance?_plain isPlain_flatMap_escapeChar, Option.bind_some, List.nil_append, closed]
  simp [Frame.add]

theorem reads_parent (head : IsHead name attributes) (h : Reads cs elements)
    (inhabited : elements ≠ []) :
    Reads (brackets (tag name attributes).toList ++ cs ++ brackets ('/' :: name.toList))
      [.parent name attributes elements] := by
  intro top around before blank
  obtain ⟨text, part, spaces, blank', read⟩ :=
    h { name, attributes } (top.add before [] :: around) [] rfl
  have whole : ((Frame.add { name, attributes } text elements).add part []).element? =
      some (.parent name attributes elements) := by
    simp [Frame.add, Frame.element?, inhabited, spaces, blank']
  have closed := advance?_closing (top.add before []) around head.name rfl
    (unescape?_of_isSpace blank') whole
  refine ⟨before, [], blank, rfl, ?_⟩
  rw [advance?_append, advance?_append, advance?_opening head blank, Option.bind_some, read,
    Option.bind_some, closed]
  simp [Frame.add]

end Reads

/-! ### Documents -/

/-- An element that can be read back: it is named and its attributes are, no element is meant to
hold others without holding any, and the same is true of all that it holds. -/
inductive IsProper : Xml → Prop where
  | leaf {name attributes} (head : IsHead name attributes) (text : String) :
    IsProper (.leaf name attributes text)
  | parent {name attributes children} (head : IsHead name attributes) (inhabited : children ≠ [])
    (proper : ∀ child ∈ children, IsProper child) : IsProper (.parent name attributes children)
  | empty {name attributes} (head : IsHead name attributes) : IsProper (.empty name attributes)

theorem isSpace_indent (depth : Nat) : (indent depth).toList.all isSpace = true := by
  simp [indent, isSpace]

theorem reads_renderAll {elements : List Xml}
    (h : ∀ x ∈ elements, ∀ depth, Reads (renderAt depth x).toList [x]) (depth : Nat) :
    Reads (renderAll depth elements).toList elements := by
  induction elements with
  | nil => exact reads_of_isSpace rfl
  | cons x rest ih =>
    obtain ⟨first, others⟩ := List.forall_mem_cons.mp h
    rw [renderAll, String.toList_append]
    exact (first depth).append (ih others)

/-- **The lines of an element are read as that element**, however far they are indented. -/
theorem IsProper.reads {x : Xml} (proper : IsProper x) :
    ∀ depth, Reads (renderAt depth x).toList [x] := by
  induction proper with
  | @leaf name attributes head text =>
    intro depth
    have written : (renderAt depth (.leaf name attributes text)).toList =
        (indent depth).toList ++ (brackets (tag name attributes).toList ++
          text.toList.flatMap escapeChar ++ brackets ('/' :: name.toList)) ++ ['\n'] := by
      simp [renderAt, escape, brackets]
    rw [written]
    exact (reads_leaf head text).spaced (isSpace_indent depth) rfl
  | @parent name attributes children head inhabited _ ih =>
    intro depth
    have written : (renderAt depth (.parent name attributes children)).toList =
        (indent depth).toList ++ (brackets (tag name attributes).toList ++
          (['\n'] ++ (renderAll (depth + 1) children).toList ++ (indent depth).toList) ++
          brackets ('/' :: name.toList)) ++ ['\n'] := by
      simp [renderAt, brackets]
    have inside : Reads (['\n'] ++ (renderAll (depth + 1) children).toList ++
        (indent depth).toList) children :=
      (reads_renderAll ih (depth + 1)).spaced rfl (isSpace_indent depth)
    rw [written]
    exact (reads_parent head inside inhabited).spaced (isSpace_indent depth) rfl
  | @empty name attributes head =>
    intro depth
    have written : (renderAt depth (.empty name attributes)).toList =
        (indent depth).toList ++ brackets ((tag name attributes).toList ++ ['/']) ++ ['\n'] := by
      simp [renderAt, brackets]
    rw [written]
    exact (reads_empty head).spaced (isSpace_indent depth) rfl

/-- What is in front of the root of a document adds nothing to it. -/
theorem reads_declaration : Reads "<?xml version=\"1.0\" encoding=\"UTF-8\"?>\n".toList [] := by
  have written : "<?xml version=\"1.0\" encoding=\"UTF-8\"?>\n".toList =
      brackets ('?' :: "xml version=\"1.0\" encoding=\"UTF-8\"?".toList) ++ ['\n'] := by
    decide +kernel
  have plain : IsPlain "xml version=\"1.0\" encoding=\"UTF-8\"?".toList :=
    isPlain_of_all (fun c => c != '<' && c != '>') (by decide +kernel) rfl rfl
  rw [written]
  exact (reads_note plain).append (reads_of_isSpace rfl)

/-- **A document is read back** as the element it was written from, with all its texts and all
its attributes as they were. -/
theorem read?_document {root : Xml} (proper : IsProper root) :
    read? (document root) = some root := by
  have reads : Reads (document root).toList [root] := by
    have parts := reads_declaration.append (proper.reads 0)
    rwa [← String.toList_append, List.nil_append] at parts
  obtain ⟨text, part, spaces, blank, read⟩ := reads { name := "", attributes := [] } [] [] rfl
  rw [read?, read]
  simp [Reading.root?, Frame.add, spaces, blank]

/-- Not every text is read: an element has to be closed before the one around it. -/
example : (read? "<a b=\"&lt;\">x</a>").isSome = true ∧ (read? "<a><b></a>").isNone = true := by
  decide +kernel

end CatalogFeeds.Xml
