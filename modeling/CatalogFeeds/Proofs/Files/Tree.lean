import CatalogFeeds.Files.Tree
import CatalogFeeds.Proofs.Members
/-!
What making directories and writing a file change in a file tree.

A tree is looked at through two views: `at?`, what is at a path, and `fileAt?`, the content and
the time of the file at a path.

* `fileAt?_makeDirectories` — making directories leaves every file as it is, also where it stops
  half-way. `at?_makeDirectories` says the same of whole subtrees that do not lie on the path.
* `obstacle?_makeDirectories`, `obstacle?_writeFile` — what keeps directories from being made on
  a path is changed neither by other directories nor by a file that is not on that path.
* `fileAt?_writeFile_self`, `fileAt?_writeFile_of_ne` — a file that has been written holds what
  was written, and every other file is as before.
* `map_at?_writeFile`, `writeFile_append_single` — writing below a path is writing in what is at
  the path, and in a directory that is there it fails exactly for a name that is too long or that
  a directory has.

Nothing here asks for the entries of a directory to be distinct or in order.
-/

namespace CatalogFeeds.FileTree

open CatalogFeeds.Time

variable {tree tree' : FileTree} {path other : List String} {name : String} {now : Instant}
  {content : ByteArray}

/-! ### Views -/

/-- What is at a path, if anything is. -/
def at? (tree : FileTree) (path : List String) : Option FileTree :=
  (tree.find path).toOption

/-- The content of the file at a path, and when it was last written. -/
def fileAt? (tree : FileTree) (path : List String) : Option (ByteArray × Instant) :=
  match tree.at? path with
  | some (file content modified) => some (content, modified)
  | _ => none

@[simp] theorem at?_nil (tree : FileTree) : tree.at? [] = some tree := by
  simp [at?, find, Except.toOption]

@[simp] theorem at?_file_cons (content : ByteArray) (modified : Instant) (name : String)
    (rest : List String) : (file content modified).at? (name :: rest) = none := by
  simp [at?, find, Except.toOption]

theorem at?_directory_cons (modified : Instant) (entries : List (String × FileTree))
    (name : String) (rest : List String) :
    (directory modified entries).at? (name :: rest) =
      if isTooLong name then none else (Members.get? name entries).bind (·.at? rest) := by
  simp only [at?, find]
  split
  · rfl
  · cases Members.get? name entries <;> rfl

/-- Looking up a path is looking up its front, and the rest from there. -/
theorem at?_append (tree : FileTree) (path rest : List String) :
    tree.at? (path ++ rest) = (tree.at? path).bind (·.at? rest) := by
  induction path generalizing tree with
  | nil => simp
  | cons name path ih =>
    cases tree with
    | file content modified => simp
    | directory modified entries =>
      rw [List.cons_append, at?_directory_cons, at?_directory_cons]
      by_cases long : isTooLong name
      · simp [long]
      · cases Members.get? name entries with
        | none => simp [long]
        | some child => simp [long, ih child]

theorem fileAt?_eq_some_iff {modified : Instant} :
    tree.fileAt? path = some (content, modified) ↔ tree.at? path = some (file content modified) := by
  unfold fileAt?
  split
  · rename_i found
    simp [found]
  · rename_i none
    simp only [reduceCtorEq, false_iff]
    exact fun found => none _ _ found

theorem fileAt?_congr (h : tree.at? path = tree'.at? path) :
    tree.fileAt? path = tree'.fileAt? path := by
  simp [fileAt?, h]

theorem fileAt?_directory_cons (modified : Instant) (entries : List (String × FileTree))
    (name : String) (rest : List String) :
    (directory modified entries).fileAt? (name :: rest) =
      if isTooLong name then none else (Members.get? name entries).bind (·.fileAt? rest) := by
  simp only [fileAt?, at?_directory_cons]
  by_cases long : isTooLong name
  · simp [long]
  · cases Members.get? name entries <;> simp [long]

@[simp] theorem fileAt?_file_cons (content : ByteArray) (modified : Instant) (name : String)
    (rest : List String) : (file content modified).fileAt? (name :: rest) = none := by
  simp [fileAt?]

@[simp] theorem fileAt?_directory_nil (modified : Instant) (entries : List (String × FileTree)) :
    (directory modified entries).fileAt? [] = none := by
  simp [fileAt?]

@[simp] theorem at?_empty_cons (now : Instant) (name : String) (rest : List String) :
    (empty now).at? (name :: rest) = none := by
  simp [empty, at?_directory_cons, Members.get?]

theorem fileAt?_empty (now : Instant) (path : List String) : (empty now).fileAt? path = none := by
  cases path <;> simp [fileAt?, empty, at?_directory_cons, Members.get?]

/-! ### Making directories -/

@[simp] theorem makeDirectories_nil (now : Instant) (tree : FileTree) :
    tree.makeDirectories now [] = (tree, none) := by
  simp [makeDirectories]

@[simp] theorem makeDirectories_file_cons (now : Instant) (content : ByteArray)
    (modified : Instant) (name : String) (rest : List String) :
    (file content modified).makeDirectories now (name :: rest) =
      (file content modified, some .notADirectory) := by
  simp [makeDirectories]

theorem makeDirectories_directory_cons (now modified : Instant)
    (entries : List (String × FileTree)) (name : String) (rest : List String) :
    (directory modified entries).makeDirectories now (name :: rest) =
      if isTooLong name then (directory modified entries, some .nameTooLong)
      else match Members.get? name entries with
        | none =>
          (directory now (Members.insert name ((empty now).makeDirectories now rest).1 entries),
            ((empty now).makeDirectories now rest).2)
        | some (file ..) =>
          (directory modified entries, some (if rest.isEmpty then .exists else .notADirectory))
        | some (directory childModified children) =>
          (directory modified (Members.insert name
              ((directory childModified children).makeDirectories now rest).1 entries),
            ((directory childModified children).makeDirectories now rest).2) := by
  rw [makeDirectories]
  split
  · rfl
  · cases Members.get? name entries with
    | none => rfl
    | some child => cases child <;> rfl

theorem makeDirectories_directory (now modified : Instant) (entries : List (String × FileTree))
    (path : List String) :
    ∃ m es, ((directory modified entries).makeDirectories now path).1 = directory m es := by
  cases path with
  | nil => exact ⟨modified, entries, by simp⟩
  | cons name rest =>
    rw [makeDirectories_directory_cons]
    split
    · exact ⟨modified, entries, rfl⟩
    · split <;> exact ⟨_, _, rfl⟩

/-- At every path, making directories either changes nothing or has passed there and left a
directory in a place without a file. -/
theorem at?_makeDirectories_cases (now : Instant) (tree : FileTree) (path other : List String) :
    (tree.makeDirectories now path).1.at? other = tree.at? other ∨
      other <+: path ∧ (tree.makeDirectories now path).1.fileAt? other = none ∧
        tree.fileAt? other = none := by
  induction path generalizing tree other with
  | nil => simp
  | cons name rest ih =>
    cases tree with
    | file content modified => simp
    | directory modified entries =>
      rw [makeDirectories_directory_cons]
      by_cases long : isTooLong name
      · simp [long]
      simp only [long, Bool.false_eq_true, if_false]
      cases other with
      | nil =>
        right
        cases found : Members.get? name entries with
        | none => simp
        | some child => cases child <;> simp
      | cons first others =>
        by_cases same : first = name
        · subst same
          cases found : Members.get? first entries with
          | none =>
            rcases ih (empty now) others with stays | ⟨on, new, -⟩
            · cases others with
              | nil =>
                right
                have new := (fileAt?_congr stays).trans (fileAt?_empty now [])
                simp [fileAt?_directory_cons, long, found, Members.get?_insert_self, new]
              | cons _ _ =>
                left
                simp [at?_directory_cons, long, found, Members.get?_insert_self, stays]
            · right
              refine ⟨List.cons_prefix_cons.mpr ⟨rfl, on⟩, ?_, ?_⟩
              · simp [fileAt?_directory_cons, long, Members.get?_insert_self, new]
              · simp [fileAt?_directory_cons, long, found]
          | some child =>
            cases child with
            | file content modified => simp
            | directory childModified children =>
              rcases ih (directory childModified children) others with stays | ⟨on, new, old⟩
              · left
                simp [at?_directory_cons, long, found, Members.get?_insert_self, stays]
              · right
                refine ⟨List.cons_prefix_cons.mpr ⟨rfl, on⟩, ?_, ?_⟩
                · simp [fileAt?_directory_cons, long, Members.get?_insert_self, new]
                · simp [fileAt?_directory_cons, long, found, old]
        · left
          cases found : Members.get? name entries with
          | none => simp [at?_directory_cons, Members.get?_insert_of_ne same]
          | some child =>
            cases child <;> simp [at?_directory_cons, Members.get?_insert_of_ne same]

/-- Making directories changes no file, whether or not it comes to its end. -/
theorem fileAt?_makeDirectories (now : Instant) (tree : FileTree) (path other : List String) :
    (tree.makeDirectories now path).1.fileAt? other = tree.fileAt? other := by
  rcases at?_makeDirectories_cases now tree path other with stays | ⟨-, new, old⟩
  · exact fileAt?_congr stays
  · rw [new, old]

/-- Making directories changes nothing at a path that is not on the way. -/
theorem at?_makeDirectories (now : Instant) (tree : FileTree) (off : ¬ other <+: path) :
    (tree.makeDirectories now path).1.at? other = tree.at? other := by
  rcases at?_makeDirectories_cases now tree path other with stays | ⟨on, -⟩
  · exact stays
  · exact absurd on off

/-- What making directories leaves at the end of its path: where it comes there, the directory
that was there or an empty one; where it does not, what was there. -/
theorem at?_makeDirectories_self (now : Instant) (tree : FileTree) (nonempty : path ≠ []) :
    match (tree.makeDirectories now path).2 with
    | none => ∃ modified entries,
        (tree.makeDirectories now path).1.at? path = some (directory modified entries) ∧
          directory modified entries = (tree.at? path).getD (empty now)
    | some _ => (tree.makeDirectories now path).1.at? path = tree.at? path := by
  induction path generalizing tree with
  | nil => exact absurd rfl nonempty
  | cons name rest ih =>
    cases tree with
    | file content modified => simp
    | directory modified entries =>
      rw [makeDirectories_directory_cons]
      by_cases long : isTooLong name
      · simp [long]
      simp only [long, Bool.false_eq_true, if_false]
      cases found : Members.get? name entries with
      | none =>
        simp only
        cases rest with
        | nil => simp [at?_directory_cons, long, found, Members.get?_insert_self, empty]
        | cons next others =>
          have deeper := ih (empty now) (by simp)
          simpa [at?_directory_cons, long, found, Members.get?_insert_self] using deeper
      | some child =>
        cases child with
        | file content modified => simp
        | directory childModified children =>
          simp only
          cases rest with
          | nil => simp [at?_directory_cons, long, found, Members.get?_insert_self]
          | cons next others =>
            have deeper := ih (directory childModified children) (by simp)
            simpa [at?_directory_cons, long, found, Members.get?_insert_self] using deeper

/-! ### What keeps directories from being made -/

/-- Why directories cannot be made on a path, whenever that is tried. -/
def obstacle? (tree : FileTree) (path : List String) : Option OsError :=
  (tree.makeDirectories ⟨0, 0⟩ path).2

@[simp] theorem obstacle?_nil (tree : FileTree) : tree.obstacle? [] = none := by
  simp [obstacle?]

@[simp] theorem obstacle?_file_cons (content : ByteArray) (modified : Instant) (name : String)
    (rest : List String) :
    (file content modified).obstacle? (name :: rest) = some .notADirectory := by
  simp [obstacle?]

/-- In a directory, the obstacle is the name, a file of that name, or one further down; what is
missing stands in nobody's way. -/
theorem obstacle?_directory_cons (modified : Instant) (entries : List (String × FileTree))
    (name : String) (rest : List String) :
    (directory modified entries).obstacle? (name :: rest) =
      if isTooLong name then some .nameTooLong
      else match Members.get? name entries with
        | none => (empty ⟨0, 0⟩).obstacle? rest
        | some (file ..) => some (if rest.isEmpty then .exists else .notADirectory)
        | some (directory childModified children) =>
          (directory childModified children).obstacle? rest := by
  rw [obstacle?, makeDirectories_directory_cons]
  split
  · rfl
  · cases Members.get? name entries with
    | none => rfl
    | some child => cases child <;> rfl

theorem obstacle?_empty (now : Instant) (path : List String) :
    (empty now).obstacle? path = (empty ⟨0, 0⟩).obstacle? path := by
  cases path <;> simp [empty, obstacle?_directory_cons, Members.get?]

theorem makeDirectories_snd (now : Instant) (tree : FileTree) (path : List String) :
    (tree.makeDirectories now path).2 = tree.obstacle? path := by
  induction path generalizing tree with
  | nil => simp
  | cons name rest ih =>
    cases tree with
    | file content modified => simp
    | directory modified entries =>
      rw [makeDirectories_directory_cons, obstacle?_directory_cons]
      by_cases long : isTooLong name
      · simp [long]
      simp only [long, Bool.false_eq_true, if_false]
      cases Members.get? name entries with
      | none => simp [ih, obstacle?_empty]
      | some child => cases child <;> simp [ih]

/-- Directories stand in nobody's way: what keeps others from being made is as before. -/
theorem obstacle?_makeDirectories (now : Instant) (tree : FileTree) (path other : List String) :
    (tree.makeDirectories now path).1.obstacle? other = tree.obstacle? other := by
  induction path generalizing tree other with
  | nil => simp
  | cons name rest ih =>
    cases tree with
    | file content modified => simp
    | directory modified entries =>
      rw [makeDirectories_directory_cons]
      by_cases long : isTooLong name
      · simp [long]
      simp only [long, Bool.false_eq_true, if_false]
      cases other with
      | nil => simp
      | cons first others =>
        by_cases same : first = name
        · subst same
          cases found : Members.get? first entries with
          | none =>
            obtain ⟨m, es, made⟩ := makeDirectories_directory now now [] rest
            have deeper := ih (empty now) others
            rw [empty, made, ← empty, obstacle?_empty, empty] at deeper
            simp [obstacle?_directory_cons, long, found, Members.get?_insert_self, empty, made,
              deeper]
          | some child =>
            cases child with
            | file content modified => simp
            | directory childModified children =>
              obtain ⟨m, es, made⟩ := makeDirectories_directory now childModified children rest
              have deeper := ih (directory childModified children) others
              rw [made] at deeper
              simp [obstacle?_directory_cons, long, found, Members.get?_insert_self, made, deeper]
        · cases found : Members.get? name entries with
          | none => simp [obstacle?_directory_cons, Members.get?_insert_of_ne same]
          | some child =>
            cases child <;> simp [obstacle?_directory_cons, Members.get?_insert_of_ne same]

/-! ### Writing files -/

/-- What a file can be written over: nothing, or another file. -/
theorem writeFile_directory_single (now : Instant) (content : ByteArray) (modified : Instant)
    (entries : List (String × FileTree)) (name : String) :
    (directory modified entries).writeFile now content [name] =
      if isTooLong name then .error .nameTooLong
      else match Members.get? name entries with
        | none => .ok (directory now (Members.insert name (file content now) entries))
        | some (directory ..) => .error .isADirectory
        | some (file ..) =>
          .ok (directory modified (Members.insert name (file content now) entries)) := by
  unfold writeFile
  by_cases long : isTooLong name
  · simp [long]
  · cases found : Members.get? name entries with
    | none => simp [long]
    | some child => cases child <;> simp [long]

theorem writeFile_directory_cons (now : Instant) (content : ByteArray) (modified : Instant)
    (entries : List (String × FileTree)) (name next : String) (rest : List String) :
    (directory modified entries).writeFile now content (name :: next :: rest) =
      if isTooLong name then .error .nameTooLong
      else match Members.get? name entries with
        | none => .error .notFound
        | some child =>
          (child.writeFile now content (next :: rest)).map fun child =>
            directory modified (Members.insert name child entries) := by
  conv => lhs; unfold writeFile
  by_cases long : isTooLong name
  · simp [long]
  · cases found : Members.get? name entries with
    | none => simp [long]
    | some child => cases child <;> simp [long]

/-- What a write that succeeds does in one directory: the entry of the first name is set, to the
file itself in place of nothing or of a file, or to a directory that was written into. -/
theorem writeFile_cons_ok {rest : List String} {written : FileTree}
    (h : tree.writeFile now content (name :: rest) = .ok written) :
    ∃ modified entries modified' child, tree = directory modified entries ∧
      isTooLong name = false ∧ written = directory modified' (Members.insert name child entries) ∧
      (rest = [] ∧ child = file content now ∧
          (∀ m es, Members.get? name entries ≠ some (directory m es)) ∨
        rest ≠ [] ∧ ∃ before, Members.get? name entries = some before ∧
          before.writeFile now content rest = .ok child) := by
  cases tree with
  | file content modified => cases rest <;> simp [writeFile] at h
  | directory modified entries =>
    cases rest with
    | nil =>
      rw [writeFile_directory_single] at h
      by_cases long : isTooLong name
      · simp [long] at h
      simp only [long, Bool.false_eq_true, if_false] at h
      cases found : Members.get? name entries with
      | none =>
        simp only [found, Except.ok.injEq] at h
        exact ⟨_, _, _, _, rfl, by simpa using long, h.symm, .inl ⟨rfl, rfl, by simp [found]⟩⟩
      | some child =>
        cases child with
        | file old oldModified =>
          simp only [found, Except.ok.injEq] at h
          exact ⟨_, _, _, _, rfl, by simpa using long, h.symm, .inl ⟨rfl, rfl, by simp [found]⟩⟩
        | directory m es => simp [found] at h
    | cons next others =>
      rw [writeFile_directory_cons] at h
      by_cases long : isTooLong name
      · simp [long] at h
      simp only [long, Bool.false_eq_true, if_false] at h
      cases found : Members.get? name entries with
      | none => simp [found] at h
      | some before =>
        simp only [found] at h
        cases deeper : before.writeFile now content (next :: others) with
        | error cause => simp [deeper, Except.map] at h
        | ok child =>
          simp only [deeper, Except.map, Except.ok.injEq] at h
          exact ⟨_, _, _, _, rfl, by simpa using long, h.symm,
            .inr ⟨by simp, before, found, deeper⟩⟩

/-- A file that has been written holds what was written. -/
theorem at?_writeFile_self {written : FileTree}
    (h : tree.writeFile now content path = .ok written) :
    written.at? path = some (file content now) := by
  induction path generalizing tree written with
  | nil => simp [writeFile] at h
  | cons name rest ih =>
    obtain ⟨m, es, m', child, -, short, rfl, new | old⟩ := writeFile_cons_ok h
    · obtain ⟨rfl, rfl, -⟩ := new
      simp [at?_directory_cons, short, Members.get?_insert_self]
    · obtain ⟨-, before, -, deeper⟩ := old
      simp [at?_directory_cons, short, Members.get?_insert_self, ih deeper]

/-- At every path but its own, writing a file either changes nothing or has passed a directory,
which stays one. -/
theorem at?_writeFile_cases {written : FileTree}
    (h : tree.writeFile now content path = .ok written) (ne : other ≠ path) :
    written.at? other = tree.at? other ∨
      other <+: path ∧ written.fileAt? other = none ∧ tree.fileAt? other = none := by
  induction path generalizing tree written other with
  | nil => simp [writeFile] at h
  | cons name rest ih =>
    obtain ⟨m, es, m', child, rfl, short, rfl, step⟩ := writeFile_cons_ok h
    cases other with
    | nil => right; simp
    | cons first others =>
      by_cases same : first = name
      · subst same
        have deeperNe : others ≠ rest := fun eq => ne (by rw [eq])
        rcases step with ⟨rfl, rfl, noDirectory⟩ | ⟨-, before, found, deeper⟩
        · -- Below the file there is nothing, and there was nothing before.
          left
          obtain ⟨next, more, rfl⟩ := List.exists_cons_of_ne_nil deeperNe
          cases found : Members.get? first es with
          | none => simp [at?_directory_cons, short, found, Members.get?_insert_self]
          | some old =>
            cases old with
            | file _ _ => simp [at?_directory_cons, short, found, Members.get?_insert_self]
            | directory m es' => exact absurd found (noDirectory m es')
        · rcases ih deeper deeperNe with stays | ⟨on, new, old⟩
          · left
            simp [at?_directory_cons, short, found, Members.get?_insert_self, stays]
          · right
            refine ⟨List.cons_prefix_cons.mpr ⟨rfl, on⟩, ?_, ?_⟩
            · simp [fileAt?_directory_cons, short, Members.get?_insert_self, new]
            · simp [fileAt?_directory_cons, short, found, old]
      · left
        simp [at?_directory_cons, Members.get?_insert_of_ne same]

theorem fileAt?_writeFile_self {written : FileTree}
    (h : tree.writeFile now content path = .ok written) :
    written.fileAt? path = some (content, now) := by
  rw [fileAt?_eq_some_iff]
  exact at?_writeFile_self h

/-- Every file but the one that is written stays as it is. -/
theorem fileAt?_writeFile_of_ne {written : FileTree}
    (h : tree.writeFile now content path = .ok written) (ne : other ≠ path) :
    written.fileAt? other = tree.fileAt? other := by
  rcases at?_writeFile_cases h ne with stays | ⟨-, new, old⟩
  · exact fileAt?_congr stays
  · rw [new, old]

/-- Writing a file changes nothing at a path that is not on the way to it. -/
theorem at?_writeFile {written : FileTree} (h : tree.writeFile now content path = .ok written)
    (off : ¬ other <+: path) : written.at? other = tree.at? other := by
  have ne : other ≠ path := fun eq => off (eq ▸ List.prefix_rfl)
  rcases at?_writeFile_cases h ne with stays | ⟨on, -⟩
  · exact stays
  · exact absurd on off

/-- A file keeps no directories from being made on a path that it is not on. -/
theorem obstacle?_writeFile {written : FileTree}
    (h : tree.writeFile now content path = .ok written) (off : ¬ path <+: other) :
    written.obstacle? other = tree.obstacle? other := by
  induction path generalizing tree written other with
  | nil => simp [writeFile] at h
  | cons name rest ih =>
    obtain ⟨m, es, m', child, rfl, short, rfl, step⟩ := writeFile_cons_ok h
    cases other with
    | nil => simp
    | cons first others =>
      by_cases same : first = name
      · subst same
        have deeperOff : ¬ rest <+: others := fun on => off (List.cons_prefix_cons.mpr ⟨rfl, on⟩)
        rcases step with ⟨rfl, -, -⟩ | ⟨-, before, found, deeper⟩
        · exact absurd List.nil_prefix deeperOff
        · have below := ih deeper deeperOff
          cases rest with
          | nil => exact absurd List.nil_prefix deeperOff
          | cons next more =>
            obtain ⟨m, es, m', grandchild, rfl, -, rfl, -⟩ := writeFile_cons_ok deeper
            simp [obstacle?_directory_cons, short, found, Members.get?_insert_self, below]
      · simp [obstacle?_directory_cons, Members.get?_insert_of_ne same]

variable (now content) in
/-- Writing below a path is writing in what is at the path. -/
theorem map_at?_writeFile {below : FileTree} {rest : List String}
    (found : tree.at? path = some below) (nonempty : rest ≠ []) :
    (tree.writeFile now content (path ++ rest)).map (·.at? path) =
      (below.writeFile now content rest).map some := by
  induction path generalizing tree with
  | nil =>
    obtain rfl : tree = below := by simpa using found
    simp
  | cons name path ih =>
    cases tree with
    | file _ _ => simp at found
    | directory modified entries =>
      rw [at?_directory_cons] at found
      by_cases long : isTooLong name
      · simp [long] at found
      simp only [long, Bool.false_eq_true, if_false, Option.bind_eq_some_iff] at found
      obtain ⟨child, entry, found⟩ := found
      obtain ⟨next, more, split⟩ := List.exists_cons_of_ne_nil
        (show path ++ rest ≠ [] by simp [nonempty])
      rw [List.cons_append, split, writeFile_directory_cons, ← split]
      simp only [long, Bool.false_eq_true, if_false, entry]
      rw [← ih found]
      cases child.writeFile now content (path ++ rest) with
      | error cause => rfl
      | ok written =>
        simp [Except.map, at?_directory_cons, long, Members.get?_insert_self]

/-- Why a file of a name cannot be written in a directory that has `here` under that name. -/
def refusal? (name : String) (here : Option FileTree) : Option OsError :=
  if isTooLong name then some .nameTooLong
  else match here with
    | some (directory ..) => some .isADirectory
    | _ => none

variable (name now content) in
/-- **Writing into a directory that is there.** It fails exactly for a name that is too long or
that a directory has. -/
theorem writeFile_append_single {modified : Instant} {entries : List (String × FileTree)}
    (found : tree.at? path = some (directory modified entries)) :
    match refusal? name (tree.at? (path ++ [name])) with
    | some cause => tree.writeFile now content (path ++ [name]) = .error cause
    | none => ∃ written, tree.writeFile now content (path ++ [name]) = .ok written := by
  have inside := map_at?_writeFile now content found (List.cons_ne_nil name [])
  rw [writeFile_directory_single] at inside
  rw [at?_append, found, Option.bind_some, at?_directory_cons]
  cases outcome : tree.writeFile now content (path ++ [name]) with
  | error cause =>
    by_cases long : isTooLong name
    · simp_all [refusal?, Except.map]
    · cases here : Members.get? name entries with
      | none => simp_all [Except.map]
      | some child => cases child <;> simp_all [refusal?, Except.map]
  | ok written =>
    by_cases long : isTooLong name
    · simp_all [Except.map]
    · cases here : Members.get? name entries with
      | none => simp_all [refusal?]
      | some child => cases child <;> simp_all [refusal?, Except.map]

end CatalogFeeds.FileTree
