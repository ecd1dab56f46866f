import CatalogFeeds.Proofs.Path.Registry
import CatalogFeeds.Proofs.Path.Spelling
import CatalogFeeds.Proofs.Results
/-!
The written form of path expressions.

An expression can always be written with a backslash in front of every character of its segments,
so that none of them is taken for a dot, a bar or an at sign.

* `spell_segmentText` — the written form spells the segments, so the scanners find nothing in it.
* `parse_text` — what can be written is read back, if its modifier can be called.
* `isCallable_of_parse_text` — it is read back only then.
* `isWritable_of_parse` — what has been read can be written.
* `expressions_read_back` — so the written form tells segments, modifier and argument.
-/

namespace CatalogFeeds.Selector

open CatalogFeeds.Text

/-! ### Writing -/

/-- A segment as it is written: a backslash in front of every character. -/
def segmentText (segment : String) : List Char :=
  segment.toList.flatMap fun c => ['\\', c]

/-- Segments as they are written: dots between them. -/
def pathText : List String → List Char
  | [] => []
  | first :: rest => segmentText first ++ rest.flatMap fun segment => '.' :: segmentText segment

/-- A call as it is written: the name of the modifier and, behind a colon, the argument. -/
def callText (call : AppliedModifier) : List Char :=
  call.modifier.name.toList ++ call.argument.elim [] fun argument => ':' :: argument.toList

/-- The written form of an expression. -/
def text (segments : List String) (call : Option AppliedModifier) : String :=
  String.ofList (pathText segments ++ call.elim [] fun call => '|' :: callText call)

/-- What the written form of an expression can tell. Blanks at the end of an expression do not
count, so neither the last segment nor an argument may end with one where it ends the expression. -/
structure IsWritable (modifiers : ModifierSet) (segments : List String)
    (call : Option AppliedModifier) : Prop where
  filled : ∀ segment ∈ segments, segment ≠ ""
  known : ∀ c ∈ call, modifiers.get? c.modifier.name = some c.modifier
  supplied : ∀ c ∈ call, c.modifier.needsArgument = true → c.argument.isSome
  pathEnd : call = none → ∀ segment ∈ segments.getLast?, endsBlank segment.toList = false
  argumentEnd : ∀ c ∈ call, ∀ argument ∈ c.argument, endsBlank argument.toList = false

variable {modifiers : ModifierSet} {segments : List String} {call : Option AppliedModifier}
  {source : String}

/-! ### The scanners -/

theorem spells_segmentText (segment : String) : Spells (segmentText segment) segment.toList := by
  rw [segmentText]
  induction segment.toList with
  | nil => exact .nil
  | cons c cs ih => exact .escaped c ih

theorem spell_segmentText (segments : List String) :
    List.Forall₂ Spells (segments.map segmentText) (segments.map String.toList) := by
  rw [List.forall₂_map_left_iff, List.forall₂_map_right_iff]
  exact List.forall₂_same.mpr fun segment _ => spells_segmentText segment

theorem pathText_eq (segments : List String) :
    pathText segments = dotted (segments.map segmentText) := by
  induction segments with
  | nil => rfl
  | cons first rest ih =>
    cases rest with
    | nil => simp [pathText, dotted]
    | cons second rest =>
      rw [List.map_cons, List.map_cons, dotted_cons_cons, ← List.map_cons, ← ih]
      simp [pathText]

/-- There is no bar in a written path. -/
theorem splitAtBar_pathText (segments : List String) (rest : List Char) :
    splitAtBar (pathText segments ++ rest) =
      (pathText segments ++ (splitAtBar rest).1, (splitAtBar rest).2) := by
  rw [pathText_eq]
  exact unbarred_dotted (spell_segmentText segments) rest

/-! ### Calls -/

/-- A call without the at sign that may stand in front of it. -/
def unsigned (cs : List Char) : List Char :=
  match cs with
  | '@' :: rest => rest
  | _ => cs

/-- The name in a call, and its argument. -/
def nameAndArgument (cs : List Char) : List Char × Option String :=
  match splitOnce ':' cs with
  | some (name, argument) => (trim name, some (String.ofList argument))
  | none => (trim cs, none)

/-- What a name calls with an argument. -/
def callOf (modifiers : ModifierSet) (source : String) (parts : List Char × Option String) :
    Except PathError AppliedModifier :=
  let name := String.ofList parts.1
  if name.isEmpty then .error (.invalidExpression source "empty modifier name")
  else match modifiers.get? name with
    | none => .error (.unknownModifier name source)
    | some modifier =>
      if modifier.needsArgument && parts.2.isNone then
        .error (.invalidExpression source ("modifier '" ++ name ++ "' requires an argument"))
      else .ok ⟨modifier, parts.2⟩

/-- A call is split before it is looked up. -/
theorem call?_eq (modifiers : ModifierSet) (source : String) (cs : List Char) :
    call? modifiers source cs = callOf modifiers source (nameAndArgument (unsigned cs)) :=
  rfl

/-- A call names a modifier of the set, and has the argument that the modifier needs. -/
structure IsCall (modifiers : ModifierSet) (cs : List Char) (c : AppliedModifier) : Prop where
  parts : nameAndArgument (unsigned cs) = (c.modifier.name.toList, c.argument)
  filled : c.modifier.name ≠ ""
  known : modifiers.get? c.modifier.name = some c.modifier
  supplied : c.modifier.needsArgument = true → c.argument.isSome = true

/-- **What a call is read as**, in whatever expression it stands. -/
theorem call?_eq_ok_iff {cs : List Char} {c : AppliedModifier} :
    call? modifiers source cs = .ok c ↔ IsCall modifiers cs c := by
  obtain ⟨modifier, argument⟩ := c
  rw [call?_eq]
  rcases parts : nameAndArgument (unsigned cs) with ⟨name, found⟩
  simp only [callOf]
  constructor
  · intro h
    split at h
    · simp at h
    · rename_i filled
      split at h
      · simp at h
      · rename_i other known
        split at h
        · simp at h
        · rename_i enough
          obtain ⟨rfl, rfl⟩ := AppliedModifier.mk.inj (Except.ok.inj h)
          have named := ModifierSet.name_of_get? known
          refine ⟨?_, ?_, ?_, fun needs => ?_⟩
          · rw [parts, named, String.toList_ofList]
          · simpa [named] using filled
          · rw [named, known]
          · have needs : other.needsArgument = true := needs
            simpa [needs, Option.isSome_iff_ne_none] using enough
  · rintro ⟨same, filled, known, supplied⟩
    obtain ⟨rfl, rfl⟩ := Prod.mk.inj (parts.symm.trans same)
    have enough : (modifier.needsArgument && found.isNone) = false := by
      cases needs : modifier.needsArgument with
      | false => rfl
      | true => simpa [Option.isSome_iff_ne_none] using supplied needs
    simp [String.ofList_toList, filled, known, enough]

/-- **What an expression is read as**: its path and its call, each by itself. -/
theorem parse_eq_ok_iff {selector : Selector} :
    parse modifiers source = .ok selector ↔
      selector.source = source ∧
        segments? source (splitCall (trim source.toList)).1 = .ok selector.segments ∧
          Option.Rel (IsCall modifiers) (splitCall (trim source.toList)).2 selector.modifier := by
  obtain ⟨own, segments, modifier⟩ := selector
  unfold parse
  rcases splitCall (trim source.toList) with ⟨path, call⟩
  cases call with
  | none =>
    constructor
    · intro h
      obtain ⟨found, read, same⟩ := bind_eq_ok_iff.mp h
      obtain ⟨rfl, rfl, rfl⟩ := Selector.mk.inj (Except.ok.inj same)
      exact ⟨rfl, read, .none⟩
    · rintro ⟨rfl, read, ⟨⟩⟩
      exact bind_eq_ok_iff.mpr ⟨segments, read, rfl⟩
  | some cs =>
    constructor
    · intro h
      obtain ⟨found, read, h⟩ := bind_eq_ok_iff.mp h
      obtain ⟨applied, called, same⟩ := bind_eq_ok_iff.mp h
      obtain ⟨c, isCall, rfl⟩ := map_eq_ok_iff.mp called
      obtain ⟨rfl, rfl, rfl⟩ := Selector.mk.inj (Except.ok.inj same)
      exact ⟨rfl, read, .some (call?_eq_ok_iff.mp isCall)⟩
    · rintro ⟨rfl, read, ⟨isCall⟩⟩
      exact bind_eq_ok_iff.mpr ⟨segments, read, bind_eq_ok_iff.mpr
        ⟨_, map_eq_ok_iff.mpr ⟨_, call?_eq_ok_iff.mpr isCall, rfl⟩, rfl⟩⟩

/-- The name in a call has neither a blank at its ends nor a colon in it. -/
theorem name_of_nameAndArgument {cs name : List Char} {argument : Option String}
    (h : nameAndArgument cs = (name, argument)) :
    trim name = name ∧ ':' ∉ name ∧
      ∃ before, name = trim before ∧ ':' ∉ before ∧
        cs = before ++ argument.elim [] fun argument => ':' :: argument.toList := by
  unfold nameAndArgument at h
  split at h
  · rename_i before after split
    obtain ⟨rfl, rfl⟩ := Prod.mk.inj h
    have plain := notMem_of_splitOnce split
    refine ⟨trim_trim before, fun mem => plain (mem_of_mem_trim mem), before, rfl, plain, ?_⟩
    simpa using eq_of_splitOnce split
  · rename_i none
    obtain ⟨rfl, rfl⟩ := Prod.mk.inj h
    have plain := splitOnce_eq_none_iff.mp none
    exact ⟨trim_trim cs, fun mem => plain (mem_of_mem_trim mem), cs, rfl, plain, by simp⟩

/-- Of a modifier that has been called, all that is left to ask is that its name does not start
with an at sign. -/
theorem IsCall.isCallable {cs : List Char} {c : AppliedModifier} (h : IsCall modifiers cs c)
    (unsigned : c.modifier.name.toList.head? ≠ some '@') : c.modifier.IsCallable := by
  obtain ⟨trimmed, plain, -⟩ := name_of_nameAndArgument h.parts
  exact ⟨h.filled, trimmed, plain, unsigned⟩

/-- The name and the argument of a modifier that can be called are found again. -/
theorem nameAndArgument_callText {c : AppliedModifier} (callable : c.modifier.IsCallable) :
    nameAndArgument (unsigned (callText c)) = (c.modifier.name.toList, c.argument) := by
  obtain ⟨modifier, argument⟩ := c
  obtain ⟨filled, trimmed, plain, noSign⟩ := callable
  obtain ⟨first, rest, split⟩ :=
    List.exists_cons_of_ne_nil (mt String.toList_eq_nil_iff.mp filled)
  have bare : unsigned (callText ⟨modifier, argument⟩) = callText ⟨modifier, argument⟩ := by
    rw [split] at noSign
    rw [callText, split, List.cons_append]
    unfold unsigned
    split
    · rename_i same
      exact absurd (congrArg List.head? same) (by simpa using noSign)
    · rfl
  rw [bare, nameAndArgument]
  cases argument with
  | none => simp [callText, splitOnce_of_notMem plain, trimmed]
  | some argument => simp [callText, splitOnce_append plain, trimmed]

/-- A name that starts with an at sign is not found again, since the sign is dropped. -/
theorem not_startsSigned {c : AppliedModifier}
    (found : nameAndArgument (unsigned (callText c)) = (c.modifier.name.toList, c.argument)) :
    c.modifier.name.toList.head? ≠ some '@' := by
  intro sign
  obtain ⟨rest, split⟩ : ∃ rest, c.modifier.name.toList = '@' :: rest := by
    obtain ⟨first, rest, split⟩ := List.exists_cons_of_ne_nil
      (fun empty : c.modifier.name.toList = [] => by simp [empty] at sign)
    rw [split, List.head?_cons, Option.some.injEq] at sign
    exact ⟨rest, sign ▸ split⟩
  obtain ⟨-, -, before, same, -, whole⟩ := name_of_nameAndArgument found
  have dropped : unsigned (callText c) =
      rest ++ c.argument.elim [] fun argument => ':' :: argument.toList := by
    rw [callText, split]
    rfl
  have shorter : before = rest := List.append_cancel_right (whole.symm.trans dropped)
  have bound := length_trim_le before
  rw [← same, split, shorter, List.length_cons] at bound
  omega

/-! ### What is written is read -/

theorem segments?_pathText (filled : ∀ segment ∈ segments, segment ≠ "") :
    segments? source (pathText segments) = .ok segments := by
  rw [pathText_eq]
  exact segments?_dotted (spell_segmentText segments) filled source

theorem endsBlank_segmentText (segment : String) :
    endsBlank (segmentText segment) = endsBlank segment.toList := by
  rw [segmentText]
  rcases List.eq_nil_or_concat segment.toList with empty | ⟨front, c, split⟩
  · rw [empty]
    rfl
  · rw [split]
    simp [endsBlank]

/-- A written path ends as its last segment does. -/
theorem endsBlank_pathText (filled : ∀ segment ∈ segments, segment ≠ "")
    (last : ∀ segment ∈ segments.getLast?, endsBlank segment.toList = false) :
    endsBlank (pathText segments) = false := by
  rw [pathText_eq]
  refine endsBlank_dotted (forall_ne_nil_of_spells (spell_segmentText segments) ?_) ?_
  · simpa [String.toList_eq_nil_iff] using filled
  · simpa [endsBlank_segmentText] using last

/-- A written call ends as its argument does, or as the name of its modifier. -/
theorem endsBlank_callText {c : AppliedModifier}
    (trimmed : trim c.modifier.name.toList = c.modifier.name.toList)
    (last : ∀ argument ∈ c.argument, endsBlank argument.toList = false) :
    endsBlank (callText c) = false := by
  obtain ⟨modifier, argument⟩ := c
  cases argument with
  | none =>
    rw [callText, Option.elim_none, List.append_nil, ← trimmed]
    exact not_endsBlank_trim _
  | some argument =>
    rw [callText, Option.elim_some, endsBlank_append (by simp)]
    by_cases empty : argument.toList = []
    · rw [empty]
      decide
    · exact (endsBlank_append empty [':']).trans (last argument rfl)

/-- A segment is written so that it starts with a backslash. -/
theorem head?_segmentText {segment : String} (filled : segment ≠ "") (rest : List Char) :
    (segmentText segment ++ rest).head? = some '\\' := by
  obtain ⟨c, cs, split⟩ := List.exists_cons_of_ne_nil (mt String.toList_eq_nil_iff.mp filled)
  simp [segmentText, split]

/-- An expression is written so that it starts with a backslash or a bar. -/
theorem head?_text (filled : ∀ segment ∈ segments, segment ≠ "")
    (call : Option AppliedModifier) :
    ∀ c ∈ (text segments call).toList.head?, c = '\\' ∨ c = '|' := by
  intro c start
  rw [text, String.toList_ofList] at start
  cases segments with
  | nil =>
    cases call with
    | none => simp [pathText] at start
    | some c => exact .inr (by simpa [pathText] using start.symm)
  | cons first rest =>
    rw [pathText, List.append_assoc, head?_segmentText (filled first List.mem_cons_self)] at start
    exact .inl (Option.some.inj start).symm

section Reading

variable (writable : IsWritable modifiers segments call)

include writable

theorem endsBlank_text
    (trimmed : ∀ c ∈ call, trim c.modifier.name.toList = c.modifier.name.toList) :
    endsBlank (text segments call).toList = false := by
  rw [text, String.toList_ofList]
  cases call with
  | none =>
    simpa using endsBlank_pathText writable.filled (writable.pathEnd rfl)
  | some c =>
    have call := endsBlank_callText (trimmed c rfl) (writable.argumentEnd c rfl)
    rw [Option.elim_some, endsBlank_append (List.cons_ne_nil _ _)]
    by_cases empty : callText c = []
    · rw [empty]
      decide
    · exact (endsBlank_append empty ['|']).trans call

theorem splitCall_text
    (trimmed : ∀ c ∈ call, trim c.modifier.name.toList = c.modifier.name.toList) :
    splitCall (trim (text segments call).toList) = (pathText segments, call.map callText) := by
  have start := head?_text writable.filled call
  have visible : (text segments call).toList.head?.any isBlank = false := by
    cases first : (text segments call).toList.head? with
    | none => rfl
    | some c => rcases start c first with rfl | rfl <;> decide
  have noSign : (text segments call).toList.head? ≠ some '@' := fun sign => by
    rcases start '@' sign with same | same <;> exact absurd same (by decide)
  rw [trim_of_ends visible (endsBlank_text writable trimmed), splitCall_of_first noSign, text,
    String.toList_ofList, splitAtBar_pathText]
  cases call <;> simp [splitAtBar]

theorem parse_text (callable : ∀ c ∈ call, c.modifier.IsCallable) :
    parse modifiers (text segments call) = .ok ⟨text segments call, segments, call⟩ := by
  rw [parse_eq_ok_iff, splitCall_text writable fun c mem => (callable c mem).trimmed]
  refine ⟨rfl, segments?_pathText writable.filled, ?_⟩
  cases call with
  | none => exact .none
  | some c =>
    have own := callable c rfl
    exact .some ⟨nameAndArgument_callText own, own.filled, writable.known c rfl,
      writable.supplied c rfl⟩

/-- **Only what can be called is read back**, whichever modifiers there are. -/
theorem isCallable_of_parse_text
    (read : parse modifiers (text segments call) = .ok ⟨text segments call, segments, call⟩) :
    ∀ c ∈ call, c.modifier.IsCallable := by
  rintro c rfl
  obtain ⟨-, -, called⟩ := parse_eq_ok_iff.mp read
  -- The name has been read, so there is no blank at its end that would be lost with the text's.
  have trimmed : trim c.modifier.name.toList = c.modifier.name.toList := by
    generalize (splitCall (trim (text segments (some c)).toList)).2 = found at called
    cases called with
    | some isCall => exact (name_of_nameAndArgument isCall.parts).1
  rw [splitCall_text writable (by simpa using trimmed)] at called
  cases called with
  | some isCall => exact isCall.isCallable (not_startsSigned isCall.parts)

end Reading

/-! ### What has been read -/

theorem splitAtBar_eq (cs : List Char) :
    cs = (splitAtBar cs).1 ++ (splitAtBar cs).2.elim [] ('|' :: ·) := by
  fun_induction splitAtBar cs with
  | case1 => rfl
  | case2 c rest path call split ih => simpa [split] using ih
  | case3 rest => rfl
  | case4 c rest _ _ path call split ih => simpa [split] using ih

/-- Where an expression has no call, its path is all of it or nothing. -/
theorem path_of_splitCall {cs path : List Char} (h : splitCall cs = (path, none)) :
    path = [] ∨ path = cs := by
  unfold splitCall at h
  split at h
  · exact .inl (Prod.mk.inj h).1.symm
  · simp at h
  · simp at h
  · right
    have parts := splitAtBar_eq cs
    rw [h] at parts
    simpa using parts.symm

/-- A call is what an expression ends with. -/
theorem suffix_of_splitCall {cs path found : List Char} (h : splitCall cs = (path, some found)) :
    found <:+ cs := by
  unfold splitCall at h
  split at h
  · simp at h
  · rename_i rest
    rw [← Option.some.inj (Prod.mk.inj h).2]
    exact ⟨['@', 't', 'h', 'i', 's', '|'], rfl⟩
  · rename_i rest _
    rw [← Option.some.inj (Prod.mk.inj h).2]
    exact ⟨['@'], rfl⟩
  · have parts := splitAtBar_eq cs
    rw [h] at parts
    exact ⟨path ++ ['|'], by simpa using parts.symm⟩

/-- The last of the raw segments is empty or ends as the path does. Where it is empty there is
another one, unless the path is empty. -/
def EndsAlike (raw : List (List Char)) (path : List Char) : Prop :=
  ∃ front last, raw = front ++ [last] ∧
    (last = [] ∧ (front = [] → path = []) ∨
      ∃ c, last.getLast? = some c ∧ path.getLast? = some c)

theorem EndsAlike.consHead {raw : List (List Char)} {rest : List Char} (h : EndsAlike raw rest)
    (before : List Char) (c : Char) :
    EndsAlike (rawSegments?.consHead c raw) (before ++ c :: rest) := by
  obtain ⟨front, last, rfl, ends⟩ := h
  cases front with
  | nil =>
    refine ⟨[], c :: last, rfl, .inr ?_⟩
    rcases ends with ⟨rfl, empty⟩ | ⟨d, own, same⟩
    · exact ⟨c, by simp [empty rfl]⟩
    · exact ⟨d, by simp [own, same, List.getLast?_cons]⟩
  | cons first front =>
    refine ⟨(c :: first) :: front, last, rfl, ?_⟩
    rcases ends with ⟨rfl, -⟩ | ⟨d, own, same⟩
    · exact .inl ⟨rfl, by simp⟩
    · exact .inr ⟨d, own, by simp [same, List.getLast?_cons]⟩

theorem endsAlike_of_rawSegments? {path : List Char} {raw : List (List Char)}
    (h : rawSegments? path = some raw) : EndsAlike raw path := by
  fun_induction rawSegments? path generalizing raw with
  | case1 => exact ⟨[], [], by simpa using h.symm, .inl ⟨rfl, fun _ => rfl⟩⟩
  | case2 c rest ih =>
    obtain ⟨inner, found, rfl⟩ := Option.map_eq_some_iff.mp h
    exact (ih found).consHead ['\\'] c
  | case3 => simp at h
  | case4 rest ih =>
    obtain ⟨inner, found, rfl⟩ := Option.map_eq_some_iff.mp h
    obtain ⟨front, last, rfl, ends⟩ := ih found
    refine ⟨[] :: front, last, rfl, ?_⟩
    rcases ends with ⟨rfl, -⟩ | ⟨d, own, same⟩
    · exact .inl ⟨rfl, by simp⟩
    · exact .inr ⟨d, own, by simp [same, List.getLast?_cons]⟩
  | case5 c rest _ _ _ ih =>
    obtain ⟨inner, found, rfl⟩ := Option.map_eq_some_iff.mp h
    exact (ih found).consHead [] c

/-- Segments that have been read are not empty, and the last one ends as the path does. -/
theorem filled_of_segments? {path : List Char} (h : segments? source path = .ok segments) :
    (∀ segment ∈ segments, segment ≠ "") ∧
      (endsBlank path = false →
        ∀ segment ∈ segments.getLast?, endsBlank segment.toList = false) := by
  rcases segments?_eq_ok_iff.mp h with ⟨rfl, rfl⟩ | ⟨-, raw, filled⟩
  · simp
  · refine ⟨filled, fun visible segment last => ?_⟩
    obtain ⟨front, own, split, ends⟩ := endsAlike_of_rawSegments? raw
    have same := congrArg List.getLast? split
    simp only [List.getLast?_map, Option.mem_def.mp last, Option.map_some,
      List.getLast?_concat, Option.some.injEq] at same
    rcases ends with ⟨rfl, -⟩ | ⟨c, owns, ends⟩
    · exact absurd (String.toList_eq_nil_iff.mp same) (filled segment (List.mem_of_getLast? last))
    · simpa [endsBlank, same, owns, ends] using visible

theorem argument_of_nameAndArgument {cs name : List Char} {argument : String}
    (h : nameAndArgument cs = (name, some argument)) : argument.toList <:+ cs := by
  unfold nameAndArgument at h
  split at h
  · rename_i before after split
    obtain ⟨-, same⟩ := Prod.mk.inj h
    rw [← Option.some.inj same, String.toList_ofList, eq_of_splitOnce split]
    exact ⟨before ++ [':'], by simp⟩
  · simp at h

theorem unsigned_suffix (cs : List Char) : unsigned cs <:+ cs := by
  unfold unsigned
  split
  · exact List.suffix_cons '@' _
  · exact List.suffix_refl _

theorem isWritable_of_parse {selector : Selector} (h : parse modifiers source = .ok selector) :
    IsWritable modifiers selector.segments selector.modifier := by
  obtain ⟨own, segments, modifier⟩ := selector
  have visible := not_endsBlank_trim source.toList
  obtain ⟨-, read, called⟩ := parse_eq_ok_iff.mp h
  obtain ⟨filled, last⟩ := filled_of_segments? read
  rcases split : splitCall (trim source.toList) with ⟨path, found⟩
  rw [split] at called last
  cases called with
  | none =>
    refine ⟨filled, by simp, by simp, fun _ => last ?_, by simp⟩
    rcases path_of_splitCall split with rfl | rfl
    · rfl
    · exact visible
  | @some cs c isCall =>
    obtain ⟨parts, -, known, supplied⟩ := isCall
    refine ⟨filled, by simpa using known, by simpa using supplied, by simp, ?_⟩
    rintro _ ⟨⟩ argument given
    rw [Option.mem_def.mp given] at parts
    exact endsBlank_of_suffix (((argument_of_nameAndArgument parts).trans
      (unsigned_suffix cs)).trans (suffix_of_splitCall split)) visible

end CatalogFeeds.Selector
