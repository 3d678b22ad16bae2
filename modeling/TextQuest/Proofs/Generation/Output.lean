import TextQuest.Proofs.CommandLine.Making
import TextQuest.Proofs.Text.Blank
import TextQuest.Proofs.Text.Reader

namespace TextQuest.Generation

open Text

def Announces (line rest : List Char) : Prop := trimChars line = "Game generated:".toList ++ rest

def Unannounced (lines : List (List Char)) : Prop := ∀ line ∈ lines, ∀ rest, ¬ Announces line rest

inductive Names (output : List Char) : Option String → Prop
  | announced {earlier later : List (List Char)} {line rest : List Char}
      (lines_eq : lines output = earlier ++ line :: later) (first : Unannounced earlier)
      (announces : Announces line rest) : Names output (some (String.ofList (trimChars rest)))
  | mentioned {earlier later : List (List Char)} {word : List Char}
      (unannounced : Unannounced (lines output)) (words_eq : words output = earlier ++ word :: later)
      (compiled : ".ulx".toList <:+ word) (last : ∀ other ∈ later, ¬ ".ulx".toList <:+ other) :
      Names output (some (String.ofList word))
  | missing (unannounced : Unannounced (lines output))
      (uncompiled : ∀ word ∈ words output, ¬ ".ulx".toList <:+ word) : Names output none

variable {output line rest word : List Char}

/-! ## Searching -/

theorem announced?_eq_some {path : List Char} :
    announced? (trimChars line) = some path ↔ ∃ rest, Announces line rest ∧ trimChars rest = path := by
  simp only [announced?, Option.map_eq_some_iff, expect_eq_some]
  rfl

theorem announced?_eq_none : announced? (trimChars line) = none ↔ ∀ rest, ¬ Announces line rest := by
  rw [Option.eq_none_iff_forall_ne_some]
  constructor
  · intro never rest announces
    exact never _ (announced?_eq_some.mpr ⟨rest, announces, rfl⟩)
  · intro never path found
    obtain ⟨rest, announces, -⟩ := announced?_eq_some.mp found
    exact never rest announces

theorem findSome?_announced?_eq_none {texts : List (List Char)} :
    (texts.map trimChars).findSome? announced? = none ↔ Unannounced texts := by
  simp only [List.findSome?_eq_none_iff, List.forall_mem_map, announced?_eq_none, Unannounced]

theorem findSome?_announced?_eq_some {texts : List (List Char)} {path : List Char} :
    (texts.map trimChars).findSome? announced? = some path ↔
      ∃ earlier line later rest, texts = earlier ++ line :: later ∧ Unannounced earlier ∧
        Announces line rest ∧ trimChars rest = path := by
  simp only [List.findSome?_map, List.findSome?_eq_some_iff, Function.comp_apply, announced?_eq_some,
    announced?_eq_none, Unannounced]
  constructor
  · rintro ⟨earlier, line, later, split, ⟨rest, announces, path_eq⟩, first⟩
    exact ⟨earlier, line, later, rest, split, first, announces, path_eq⟩
  · rintro ⟨earlier, line, later, rest, split, first, announces, path_eq⟩
    exact ⟨earlier, line, later, split, ⟨rest, announces, path_eq⟩, first⟩

theorem isGamePath_iff : isGamePath word = true ↔ ".ulx".toList <:+ word := by
  have suffix : ("." ++ gameExtension).toList = ".ulx".toList := by decide
  rw [isGamePath, suffix, List.isSuffixOf_iff_suffix]

/-- The search through lines and words, both of them backwards, goes backwards through all words. -/
theorem mentioned?_eq (output : List Char) :
    mentioned? ((lines output).map trimChars) = (words output).reverse.find? isGamePath := by
  have all : ((lines output).map trimChars).flatMap words = words output := by
    rw [List.flatMap_map, ← words_lines output]
    simp only [words_trimChars]
  rw [mentioned?, ← all, List.reverse_flatMap]
  rfl

theorem mentioned?_eq_none :
    mentioned? ((lines output).map trimChars) = none ↔ ∀ word ∈ words output, ¬ ".ulx".toList <:+ word := by
  simp only [mentioned?_eq, List.find?_eq_none, List.mem_reverse, isGamePath_iff]

theorem mentioned?_eq_some :
    mentioned? ((lines output).map trimChars) = some word ↔
      ∃ earlier later, words output = earlier ++ word :: later ∧ ".ulx".toList <:+ word ∧
        ∀ other ∈ later, ¬ ".ulx".toList <:+ other := by
  have turned (earlier later : List (List Char)) :
      (words output).reverse = later ++ word :: earlier ↔
        words output = earlier.reverse ++ word :: later.reverse := by
    rw [List.reverse_eq_iff]
    simp
  simp only [mentioned?_eq, List.find?_eq_some_iff_append, turned, Bool.not_eq_true', ← isGamePath_iff,
    Bool.not_eq_true]
  constructor
  · rintro ⟨compiled, later, earlier, split, last⟩
    refine ⟨earlier.reverse, later.reverse, split, compiled, ?_⟩
    intro other member
    exact last other (List.mem_reverse.mp member)
  · rintro ⟨earlier, later, split, compiled, last⟩
    refine ⟨compiled, later.reverse, earlier.reverse, by simpa using split, ?_⟩
    intro other member
    exact last other (List.mem_reverse.mp member)

theorem generatedPath?_eq_iff {result : Option String} :
    generatedPath? output = result ↔ Names output result := by
  constructor
  · rintro rfl
    cases found : ((lines output).map trimChars).findSome? announced? with
    | some path =>
      obtain ⟨earlier, line, later, rest, split, first, announces, rfl⟩ :=
        findSome?_announced?_eq_some.mp found
      simp only [generatedPath?, found]
      exact .announced split first announces
    | none =>
      have unannounced := findSome?_announced?_eq_none.mp found
      cases search : mentioned? ((lines output).map trimChars) with
      | some word =>
        obtain ⟨earlier, later, split, compiled, last⟩ := mentioned?_eq_some.mp search
        simp only [generatedPath?, found, search]
        exact .mentioned unannounced split compiled last
      | none =>
        simp only [generatedPath?, found, search]
        exact .missing unannounced (mentioned?_eq_none.mp search)
  · intro names
    cases names with
    | announced split first announces =>
      have found := findSome?_announced?_eq_some.mpr ⟨_, _, _, _, split, first, announces, rfl⟩
      simp only [generatedPath?, found]
    | mentioned unannounced split compiled last =>
      have found := findSome?_announced?_eq_none.mpr unannounced
      have search := mentioned?_eq_some.mpr ⟨_, _, split, compiled, last⟩
      simp only [generatedPath?, found, search, Option.map_some]
    | missing unannounced uncompiled =>
      have found := findSome?_announced?_eq_none.mpr unannounced
      have search := mentioned?_eq_none.mpr uncompiled
      simp only [generatedPath?, found, search, Option.map_none]

/-! ## What is found -/

structure Printable (path : String) : Prop where
  onOneLine : '\n' ∉ path.toList
  trimmed : trim path = path

theorem trim_eq_iff {path : String} : trim path = path ↔ trimChars path.toList = path.toList := by
  rw [trim, ← String.toList_inj, String.toList_ofList]

theorem Printable.tight {path : String} (printable : Printable path) : Tight path.toList := by
  rw [← trim_eq_iff.mp printable.trimmed]
  exact tight_trimChars _

theorem Names.printable {path : String} (names : Names output (some path)) : Printable path := by
  cases names with
  | @announced earlier later line rest split first announces =>
    constructor
    · have member : line ∈ lines output := by simp [split]
      have onLine := feed_not_mem_lines line member
      obtain ⟨before, after, -, -, whole⟩ := exists_trimChars line
      obtain ⟨around, behind, -, -, rest_eq⟩ := exists_trimChars rest
      rw [String.toList_ofList]
      intro within
      apply onLine
      rw [whole, announces, rest_eq]
      simp [within]
    · rw [trim_eq_iff, String.toList_ofList]
      exact (tight_trimChars rest).trimChars_eq
  | @mentioned earlier later word unannounced split compiled last =>
    have member : word ∈ words output := by simp [split]
    obtain ⟨-, unblank⟩ := unblank_of_mem_words member
    constructor
    · rw [String.toList_ofList]
      intro within
      have feed := unblank '\n' within
      revert feed
      decide
    · rw [trim_eq_iff, String.toList_ofList]
      apply Tight.trimChars_eq
      constructor
      · exact fun c first => unblank c (List.mem_of_head? first)
      · exact fun c last => unblank c (List.mem_of_getLast? last)

/-! ## What is printed is found again -/

def printed (seed : UInt64) (logged path : String) : String :=
  s!"Global seed: {seed}\n" ++ logged ++ "Game generated: " ++ path ++ "\n"

def below (before : List (List Char)) (text : List Char) : List Char :=
  before.flatMap (· ++ ['\n']) ++ text

def LogOf (logged : String) (noted : List (List Char)) : Prop := logged.toList = below noted []

theorem logOf_line (line : String) : LogOf (line ++ "\n") [line.toList] := by
  have feed : "\n".toList = ['\n'] := by decide
  simp [LogOf, below, feed]

def seedLine (seed : UInt64) : String := "Global seed: " ++ toString seed

def gameLine (path : String) : String := "Game generated: " ++ path

-- By these laws and not by unfolding, since the equations that unfolding asks for are slow to make.
theorem toList_seedLine (seed : UInt64) :
    (seedLine seed).toList = "Global seed: ".toList ++ (toString seed).toList := String.toList_append

theorem toList_gameLine (path : String) :
    (gameLine path).toList = "Game generated: ".toList ++ path.toList := String.toList_append

theorem toList_printed {logged : String} {noted : List (List Char)} (log : LogOf logged noted) (seed : UInt64)
    (path : String) : (printed seed logged path).toList =
      ((seedLine seed).toList :: (noted ++ [(gameLine path).toList])).flatMap (· ++ ['\n']) := by
  have feed : "\n".toList = ['\n'] := by decide
  have log : logged.toList = noted.flatMap (· ++ ['\n']) := log.trans (List.append_nil _)
  have written : printed seed logged path =
      "Global seed: " ++ toString seed ++ "\n" ++ logged ++ "Game generated: " ++ path ++ "\n" := rfl
  simp only [written, toList_seedLine, toList_gameLine, String.toList_append, feed, log, List.flatMap_cons,
    List.flatMap_append, List.flatMap_nil, List.append_assoc, List.append_nil]

theorem feed_not_mem_seedLine (seed : UInt64) : '\n' ∉ (seedLine seed).toList := by
  have digits : (toString seed).toList = Nat.toDigits 10 seed.toNat := Nat.toList_repr
  simp only [toList_seedLine, digits, List.mem_append]
  rintro (lead | number)
  · revert lead
    decide
  · have digit : '\n'.isDigit = true := Nat.isDigit_of_mem_toDigits (by decide) (by decide) number
    revert digit
    decide

theorem feed_not_mem_gameLine {path : String} (printable : Printable path) :
    '\n' ∉ (gameLine path).toList := by
  simp only [toList_gameLine, List.mem_append]
  rintro (lead | inside)
  · revert lead
    decide
  · exact printable.onOneLine inside

theorem lines_printed {path logged : String} (printable : Printable path) {before noted : List (List Char)}
    (within : ∀ line ∈ before ++ noted, '\n' ∉ line) (log : LogOf logged noted) (seed : UInt64) :
    lines (below before (printed seed logged path).toList) =
      (before ++ (seedLine seed).toList :: noted).map withoutReturn ++
        [withoutReturn (gameLine path).toList] := by
  have apart : ∀ line ∈ before ++ (seedLine seed).toList :: (noted ++ [(gameLine path).toList]),
      '\n' ∉ line := by
    intro line member
    simp only [List.mem_append, List.mem_cons, List.not_mem_nil, or_false] at member
    rcases member with above | rfl | between | rfl
    · exact within line (List.mem_append_left _ above)
    · exact feed_not_mem_seedLine seed
    · exact within line (List.mem_append_right _ between)
    · exact feed_not_mem_gameLine printable
  have read := lines_append apart []
  rw [List.append_nil, List.flatMap_append, ← toList_printed log] at read
  simp only [below, read, lines, List.append_nil, List.map_append, List.map_cons, List.map_nil,
    List.append_assoc, List.cons_append]

theorem Announces.begins (announces : Announces line rest)
    (unblank : ∀ c ∈ line.head?, isBlank c = false) : "Game generated:".toList <+: line := by
  obtain ⟨before, after, blank, -, whole⟩ := exists_trimChars line
  cases before with
  | nil =>
    rw [announces, List.nil_append, List.append_assoc] at whole
    exact ⟨rest ++ after, whole.symm⟩
  | cons c before =>
    have first : line.head? = some c := by
      rw [whole]
      rfl
    have here := blank c List.mem_cons_self
    rw [unblank c first] at here
    cases here

theorem seedLine_unannounced (seed : UInt64) : ¬ Announces (seedLine seed).toList rest := by
  have whole : (seedLine seed).toList = 'G' :: 'l' :: ("obal seed: ".toList ++ (toString seed).toList) := by
    have lead : "Global seed: ".toList = 'G' :: 'l' :: "obal seed: ".toList := by decide
    simp only [toList_seedLine, lead, List.cons_append]
  have other : "Game generated:".toList = 'G' :: 'a' :: "me generated:".toList := by decide
  intro announces
  have unblank : ∀ c ∈ (seedLine seed).toList.head?, isBlank c = false := by
    rw [whole]
    intro c first
    cases first
    decide
  obtain ⟨later, begins⟩ := announces.begins unblank
  simp only [whole, other, List.cons_append] at begins
  cases begins

theorem gameLine_announces {path : String} (printable : Printable path) (named : path ≠ "") :
    Announces (gameLine path).toList (' ' :: path.toList) := by
  have whole : (gameLine path).toList = "Game generated:".toList ++ ' ' :: path.toList := by
    have lead : "Game generated: ".toList = "Game generated:".toList ++ [' '] := by decide
    simp only [toList_gameLine, lead, List.append_assoc, List.singleton_append]
  have tight : Tight (gameLine path).toList := by
    have nonempty : path.toList ≠ [] := by simpa using named
    constructor
    · have opens : "Game generated:".toList.head? = some 'G' := by decide
      rw [whole, List.head?_append, opens]
      intro c first
      cases first
      decide
    · intro c last
      simp only [toList_gameLine, List.getLast?_append_of_ne_nil _ nonempty] at last
      exact printable.tight.last c last
  rw [Announces, tight.trimChars_eq, whole]

theorem generatedPath?_printed {path logged : String} (printable : Printable path) (named : path ≠ "")
    {before noted : List (List Char)} (within : ∀ line ∈ before ++ noted, '\n' ∉ line)
    (unannounced : Unannounced (before ++ noted)) (log : LogOf logged noted) (seed : UInt64) :
    generatedPath? (below before (printed seed logged path).toList) = some path := by
  have first : Unannounced ((before ++ (seedLine seed).toList :: noted).map withoutReturn) := by
    intro line member rest
    obtain ⟨ended, inside, rfl⟩ := List.mem_map.mp member
    rw [Announces, trimChars_withoutReturn]
    rcases List.mem_append.mp inside with above | last
    · exact unannounced ended (List.mem_append_left _ above) rest
    · rcases List.mem_cons.mp last with rfl | between
      · exact seedLine_unannounced seed
      · exact unannounced ended (List.mem_append_right _ between) rest
  have announces : Announces (withoutReturn (gameLine path).toList) (' ' :: path.toList) := by
    rw [Announces, trimChars_withoutReturn]
    exact gameLine_announces printable named
  have path_eq : trimChars (' ' :: path.toList) = path.toList := by
    have blank : ∀ c ∈ [' '], isBlank c = true := List.forall_mem_singleton.mpr rfl
    have trimmed := @trimChars_blanks path.toList [' '] [] blank (by simp) printable.tight
    simpa using trimmed
  have names := Names.announced (lines_printed printable within log seed) first announces
  rw [path_eq, String.ofList_toList] at names
  exact generatedPath?_eq_iff.mpr names

/-- A generator's text is searched as it says, and what is printed about its game is found again among
lines of any kind but announcements. -/
theorem generated_path_found_and_found_again :
    (∀ output result, generatedPath? output = result ↔ Names output result) ∧
    (∀ output path, generatedPath? output = some path → Printable path) ∧
    (∀ output path, generatedPath? output = some path → path ≠ "" →
      ∀ before noted : List (List Char), (∀ line ∈ before ++ noted, '\n' ∉ line) →
        Unannounced (before ++ noted) → ∀ logged, LogOf logged noted →
          ∀ seed, generatedPath? (below before (printed seed logged path).toList) = some path) ∧
    ∀ {π : Type} (surroundings : CommandLine.Surroundings π) (arguments : List String) line program request,
      CommandLine.Asks surroundings arguments line program request →
      ∃ logged, CommandLine.Logs surroundings (makeNote program request) logged ∧
        ∀ path, CommandLine.Makes surroundings program request path →
          (CommandLine.makeGame surroundings arguments).exit.output = printed request.seed logged path := by
  refine ⟨fun _ _ => generatedPath?_eq_iff, ?_, ?_, ?_⟩
  · intro output path found
    exact (generatedPath?_eq_iff.mp found).printable
  · intro output path found named before noted within unannounced logged log seed
    have printable := (generatedPath?_eq_iff.mp found).printable
    exact generatedPath?_printed printable named within unannounced log seed
  · intro π surroundings arguments line program request asks
    obtain ⟨logged, logs, made, -⟩ := (CommandLine.tried asks).printed
    exact ⟨logged, logs, fun path makes => (made path makes).2⟩

theorem spaced_path_found_and_found_again :
    let output := "Done: x.ulx\r\n\u3000Game generated:\u00a0games/a b \r\nGame generated: c\n"
    let path := "games/a b"
    let before := ["Global seed: 1".toList, "The Game generated: c\r".toList]
    let surroundings : CommandLine.Surroundings Unit :=
      { tree := {}
        environment := fun name => if name = "RUST_LOG" then some "info" else none
        program := ⟨fun _ state => (⟨[], true⟩, state)⟩
        engine := fun _ => .missing .notFound
        generator := fun _ => .program fun _ => ⟨encode output, [], 0⟩
        random := .ofSeed 0 }
    let arguments := ["challenge", "tw-simple-level1", "--seed", "7", "--program", "./tw"]
    let request : Request := ⟨.challenge ⟨"simple", 1⟩, { seed := some 7 }, 7⟩
    let note := (makeNote "./tw" request).line
    generatedPath? output.toList = some path ∧ Printable path ∧
      (∀ line ∈ before ++ [note.toList], '\n' ∉ line) ∧ Unannounced (before ++ [note.toList]) ∧
      LogOf (note ++ "\n") [note.toList] ∧
      (CommandLine.makeGame surroundings arguments).exit.output = printed 7 (note ++ "\n") path ∧
      generatedPath? (below before (printed 7 (note ++ "\n") path).toList) = some path := by
  intro output path before surroundings arguments request note
  have found : generatedPath? output.toList = some path := by decide +kernel
  have within : ∀ line ∈ before ++ [note.toList], '\n' ∉ line := by decide +kernel
  have unannounced : Unannounced (before ++ [note.toList]) :=
    findSome?_announced?_eq_none.mp (by decide +kernel)
  have log : LogOf (note ++ "\n") [note.toList] := logOf_line note
  have named : path ≠ "" := by decide
  have read : CommandLine.MakeLine.read surroundings arguments =
      .ok ⟨none, some "./tw", request.kind, request.options⟩ :=
    CommandLine.ok_of_toOption (by decide +kernel)
  have accepted : Request.new request.kind request.options surroundings.random = .ok request :=
    CommandLine.ok_of_toOption (by decide +kernel)
  have makes : CommandLine.Makes surroundings "./tw" request path :=
    ⟨⟨encode output, [], 0⟩, if_neg (by decide +kernel), rfl, by decide +kernel⟩
  obtain ⟨-, printable, again, prints⟩ := generated_path_found_and_found_again
  obtain ⟨logged, logs, prints⟩ :=
    prints surroundings arguments _ "./tw" request ⟨read, ⟨{}, rfl, rfl⟩, accepted⟩
  obtain rfl : logged = note ++ "\n" := by
    cases logs with
    | shown => rfl
    | hidden hides => cases hides "info" _ rfl rfl
  exact ⟨found, printable output.toList path found, within, unannounced, log, prints path makes,
    again output.toList path found named before _ within unannounced _ log 7⟩

/-! ## Games without a path -/

def AnnouncesNothing (output : List Char) : Prop :=
  ∃ earlier line later rest, lines output = earlier ++ line :: later ∧ Unannounced earlier ∧
    Announces line rest ∧ ∀ c ∈ rest, isBlank c = true

theorem Names.unique {result other : Option String} (names : Names output result)
    (names' : Names output other) : result = other := by
  rw [← generatedPath?_eq_iff.mpr names, ← generatedPath?_eq_iff.mpr names']

theorem Names.eq_empty_iff {path : String} (names : Names output (some path)) :
    path = "" ↔ AnnouncesNothing output := by
  constructor
  · intro empty
    cases names with
    | @announced earlier later line rest split first announces =>
      have nothing : trimChars rest = [] := by simpa using empty
      exact ⟨earlier, line, later, rest, split, first, announces, trimChars_eq_nil.mp nothing⟩
    | @mentioned earlier later word unannounced split compiled last =>
      have member : word ∈ words output := by simp [split]
      have nothing : word = [] := by simpa using empty
      exact absurd nothing (unblank_of_mem_words member).1
  · rintro ⟨earlier, line, later, rest, split, first, announces, blank⟩
    have same := names.unique (.announced split first announces)
    rw [trimChars_eq_nil.mpr blank] at same
    exact Option.some.inj same

def Succeeds (program : String) (installed : Installed Finished) (request : Request)
    (output : List Char) : Prop :=
  ∃ finished, (request.attempt program).start installed = .ok finished ∧ finished.status = 0 ∧
    decodeLossy finished.output = output

def Request.told (request : Request) : Option String → Except MakeError MadeGame
  | some path => .ok ⟨request.seed, path⟩
  | none => .error .missingPath

variable {program : String} {installed : Installed Finished} {request : Request}

theorem make_of_succeeds (succeeds : Succeeds program installed request output) :
    make program installed request = request.told (generatedPath? output) := by
  obtain ⟨finished, started, success, rfl⟩ := succeeds
  have successful : ¬ finished.status ≠ 0 := not_not.mpr success
  rw [make, started]
  exact if_neg successful

theorem succeeds_of_make
    (named : ∀ error, make program installed request = .error error → error = .missingPath) :
    ∃ output, Succeeds program installed request output := by
  cases started : (request.attempt program).start installed with
  | error error =>
    have failed : make program installed request = .error (.notStarted program error) := by
      simp only [make, started]
    cases named _ failed
  | ok finished =>
    by_cases success : finished.status = 0
    · exact ⟨_, finished, started, success, rfl⟩
    · have failed : ∃ complaint, make program installed request =
          .error (.failed program finished.status complaint) := by
        simp only [make, started, Finished.game, success, ne_eq, not_false_eq_true, if_true]
        exact ⟨_, rfl⟩
      obtain ⟨complaint, failed⟩ := failed
      cases named _ failed

theorem make_eq_iff {result : Except MakeError MadeGame}
    (named : ∀ error, result = .error error → error = .missingPath) :
    make program installed request = result ↔
      ∃ output said, Succeeds program installed request output ∧ Names output said ∧
        request.told said = result := by
  constructor
  · rintro rfl
    obtain ⟨output, succeeds⟩ := succeeds_of_make named
    exact ⟨output, _, succeeds, generatedPath?_eq_iff.mp rfl, (make_of_succeeds succeeds).symm⟩
  · rintro ⟨output, said, succeeds, names, rfl⟩
    rw [make_of_succeeds succeeds, generatedPath?_eq_iff.mpr names]

theorem make_eq_ok {game : MadeGame} :
    make program installed request = .ok game ↔
      ∃ output, Succeeds program installed request output ∧ Names output (some game.path) ∧
        game.seed = request.seed := by
  rw [make_eq_iff (by simp)]
  constructor
  · rintro ⟨output, said, succeeds, names, told⟩
    cases said with
    | none => cases told
    | some path =>
      cases told
      exact ⟨output, succeeds, names, rfl⟩
  · rintro ⟨output, succeeds, names, seed⟩
    exact ⟨output, _, succeeds, names, by rw [Request.told, ← seed]⟩

theorem make_eq_missing :
    make program installed request = .error .missingPath ↔
      ∃ output, Succeeds program installed request output ∧ Names output none := by
  rw [make_eq_iff (by simp)]
  constructor
  · rintro ⟨output, said, succeeds, names, told⟩
    cases said with
    | none => exact ⟨output, succeeds, names⟩
    | some path => cases told
  · rintro ⟨output, succeeds, names⟩
    exact ⟨output, none, succeeds, names, rfl⟩

/-- A game that was made has a path, unless the generator's announcement says nothing. -/
theorem made_game_has_path_unless_announced_blank (program : String) (installed : Installed Finished)
    (request : Request) :
    (∀ game, make program installed request = .ok game ↔
      ∃ output, Succeeds program installed request output ∧ Names output (some game.path) ∧
        game.seed = request.seed) ∧
    (make program installed request = .error .missingPath ↔
      ∃ output, Succeeds program installed request output ∧ Names output none) ∧
    ∀ game output, make program installed request = .ok game →
      Succeeds program installed request output → (game.path = "" ↔ AnnouncesNothing output) := by
  refine ⟨fun _ => make_eq_ok, make_eq_missing, ?_⟩
  intro game output made succeeds
  have names : Names output (generatedPath? output) := generatedPath?_eq_iff.mp rfl
  rw [make_of_succeeds succeeds] at made
  cases found : generatedPath? output with
  | none =>
    rw [found] at made
    cases made
  | some path =>
    rw [found] at made names
    cases made
    exact names.eq_empty_iff

theorem mentioned_game_has_path :
    let request : Request := ⟨.challenge ⟨"simple", 1⟩, {}, 7⟩
    let output := "Compiling...\nSaved to games/7.ulx\n"
    let installed : Installed Finished := .program fun _ => ⟨encode output, [], 0⟩
    make "./tw" installed request = .ok ⟨7, "games/7.ulx"⟩ ∧ ¬ AnnouncesNothing output.toList := by
  intro request output installed
  have made : make "./tw" installed request = .ok ⟨7, "games/7.ulx"⟩ := by decide +kernel
  have succeeds : Succeeds "./tw" installed request output.toList :=
    ⟨⟨encode output, [], 0⟩, if_neg (by decide +kernel), rfl, by decide +kernel⟩
  have path := (made_game_has_path_unless_announced_blank "./tw" installed request).2.2 _ _ made succeeds
  refine ⟨made, fun nothing => ?_⟩
  have empty : "games/7.ulx" = "" := path.mpr nothing
  revert empty
  decide

theorem blank_announcement_makes_game_without_path :
    let request : Request := ⟨.challenge ⟨"simple", 1⟩, {}, 7⟩
    let output := "Game generated:\nSaved to games/7.ulx\n"
    let installed : Installed Finished := .program fun _ => ⟨encode output, [], 0⟩
    make "./tw" installed request = .ok ⟨7, ""⟩ := by
  decide +kernel

end TextQuest.Generation
