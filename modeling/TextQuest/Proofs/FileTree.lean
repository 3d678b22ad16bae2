import Mathlib.Tactic.SplitIfs
import TextQuest.FileTree

namespace TextQuest.FileTree

variable {tree : FileTree} {key : List String}

theorem fromUTF8?_toUTF8 (text : String) : String.fromUTF8? text.toUTF8 = some text :=
  dif_pos text.isValidUTF8

theorem entry?_put (tree : FileTree) (key : List String) (entry : Entry) :
    entry? (tree.put key entry) key = some entry := by
  simp [put, entry?]

theorem entry?_put_other (tree : FileTree) {key other : List String} (apart : other ≠ key) (entry : Entry) :
    entry? (tree.put key entry) other = tree.entry? other := by
  have passed : (key == other) = false := beq_eq_false_iff_ne.mpr (Ne.symm apart)
  simp only [put, entry?, List.find?_cons, passed, List.find?_filter]
  congr 2
  funext pair
  by_cases same : pair.1 = other <;> simp [same, apart]

theorem follow_directory (tree : FileTree) (names : List String) (part : String) :
    tree.follow (.directory names) part =
      if part = "" ∨ part = "." then .ok (.directory names)
      else if part = ".." then .ok (if names = [] then .above else .directory names.dropLast)
      else if nameLimit < part.utf8ByteSize then .error .nameTooLong
      else match tree.entry? (names ++ [part]) with
        | some (.file content) => .ok (.file (names ++ [part]) content)
        | some .directory => .ok (.directory (names ++ [part]))
        | none => .error .notFound := rfl

theorem follow_put (content : ByteArray) (noDirectory : tree.entry? key ≠ some .directory)
    {place next : Place} {part : String} (followed : tree.follow place part = .ok next)
    (goesOn : next.isDirectory = true) :
    (tree.put key (.file content)).follow place part = .ok next := by
  cases place with
  | file => cases followed
  | above => exact followed
  | directory names =>
    rw [follow_directory] at followed ⊢
    by_cases here : names ++ [part] = key
    · rw [here] at followed ⊢
      split_ifs at followed ⊢
      · exact followed
      · exact followed
      · exact followed
      · split at followed <;> cases followed
        · cases goesOn
        · contradiction
    · rwa [entry?_put_other tree here]

theorem locate_put (content : ByteArray) (noDirectory : tree.entry? key ≠ some .directory)
    {parts : List String} {place last : Place} (located : parts.foldlM tree.follow place = .ok last)
    (goesOn : last.isDirectory = true) :
    parts.foldlM (tree.put key (.file content)).follow place = .ok last := by
  induction parts generalizing place with
  | nil => exact located
  | cons part parts ih =>
    rw [List.foldlM_cons] at located ⊢
    cases followed : tree.follow place part with
    | error error => simp [followed, bind, Except.bind] at located
    | ok next =>
      simp only [followed, bind, Except.bind] at located
      have further : next.isDirectory = true := by
        cases next with
        | file names content =>
          cases parts with
          | nil =>
            cases located
            exact goesOn
          | cons => simp [List.foldlM_cons, follow, bind, Except.bind] at located
        | _ => rfl
      simp only [follow_put content noDirectory followed further, bind, Except.bind]
      exact ih located

theorem writeIn_ok {place : Place} {name : String} {content : ByteArray} {after : FileTree}
    (written : tree.writeIn place name content = .ok after) :
    ∃ names, place = .directory names ∧ name ≠ "." ∧ name ≠ ".." ∧
      ¬nameLimit < name.utf8ByteSize ∧
      tree.entry? (names ++ [name]) ≠ some .directory ∧
      after = tree.put (names ++ [name]) (.file content) := by
  unfold writeIn at written
  split_ifs at written with dots long
  split at written
  · cases written
  · cases written
  · rename_i names
    split at written
    · cases written
    · rename_i noDirectory
      cases written
      exact ⟨names, rfl, (not_or.mp dots).1, (not_or.mp dots).2, long, noDirectory, rfl⟩

theorem write_ok {path : String} {content : ByteArray} {after : FileTree}
    (written : tree.write path content = .ok after) :
    checkPath path = .ok () ∧ ∃ before name place, Path.parts path = before ++ [name] ∧ name ≠ "" ∧
      tree.locateParts (Path.isAbsolute path) before = .ok place ∧
      tree.writeIn place name content = .ok after := by
  unfold write at written
  cases checked : checkPath path with
  | error error => simp [checked, bind, Except.bind] at written
  | ok =>
    simp only [checked, bind, Except.bind] at written
    split at written
    · cases written
    rename_i name before rest
    split at written
    · cases written
    rename_i place located
    split at written
    · cases written
    split at written
    · cases written
    rename_i named
    cases reversed : (Path.parts path).reverse with
    | nil => simp [reversed] at rest
    | cons last others =>
      have some : last ≠ "" := by
        rintro rfl
        rw [← List.head?_reverse, reversed] at named
        exact named rfl
      rw [reversed, List.dropWhile_cons_of_neg (by simpa using some)] at rest
      cases rest
      refine ⟨rfl, before.reverse, name, place, ?_, some, located, written⟩
      rw [← List.reverse_reverse (Path.parts path), reversed, List.reverse_cons]

theorem read_write {path : String} {content : ByteArray} {after : FileTree}
    (written : tree.write path content = .ok after) :
    after.read path = .ok content := by
  obtain ⟨checked, before, name, place, parts, some, located, written⟩ := write_ok written
  obtain ⟨names, rfl, noDot, noDots, short, noDirectory, rfl⟩ := writeIn_ok written
  have lead := locate_put content noDirectory located rfl
  have last : (tree.put (names ++ [name]) (.file content)).follow (.directory names) name =
      .ok (.file (names ++ [name]) content) := by
    simp [follow_directory, some, noDot, noDots, short, entry?_put]
  have found : (tree.put (names ++ [name]) (.file content)).locate path =
      .ok (.file (names ++ [name]) content) := by
    simp only [locate, checked, locateParts, parts, List.foldlM_append, lead, bind, Except.bind,
      List.foldlM_cons, last, List.foldlM_nil]
    rfl
  simp only [read, found, bind, Except.bind]
  rfl

theorem readText_of_read {path text : String} (found : tree.read path = .ok text.toUTF8) :
    tree.readText path = .ok text := by
  simp only [readText, found, bind, Except.bind, fromUTF8?_toUTF8]
  rfl

theorem readText_write {path text : String} {after : FileTree}
    (written : tree.write path text.toUTF8 = .ok after) : after.readText path = .ok text :=
  readText_of_read (read_write written)

end TextQuest.FileTree
