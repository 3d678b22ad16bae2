import TextQuest.CommandLine.Options

namespace TextQuest.CommandLine

/-- The ways to give an option its value: behind the option, behind an equals sign, or directly behind
its letter. -/
inductive Key.Gives (value : String) : Key → List String → Prop
  | apart (name : String) : Gives value (.name name) ["--" ++ name, value]
  | joined (name : String) : Gives value (.name name) ["--" ++ name ++ "=" ++ value]
  | letterApart (letter : Char) : Gives value (.letter letter) ["-" ++ String.singleton letter, value]
  | letterJoined (letter : Char) :
      Gives value (.letter letter) ["-" ++ String.singleton letter ++ "=" ++ value]
  | letterBehind (letter : Char) (something : value ≠ "") (unmarked : value.toList.head? ≠ some '=') :
      Gives value (.letter letter) ["-" ++ String.singleton letter ++ value]

def GivenBy (keys : List Key) (value : String) (arguments : List String) : Prop :=
  ∃ key ∈ keys, ∃ taken, key.Gives value taken ∧ taken <:+: arguments

def Key.IsProper : Key → Prop
  | .name text => text ≠ "" ∧ '=' ∉ text.toList
  | .letter c => c ≠ '-'

instance : DecidablePred Key.IsProper
  | .name text => inferInstanceAs (Decidable (text ≠ "" ∧ '=' ∉ text.toList))
  | .letter c => inferInstanceAs (Decidable (c ≠ '-'))

theorem GivenBy.weaken {keys : List Key} {value : String} {own arguments : List String}
    (given : GivenBy keys value own) (within : own <:+: arguments) : GivenBy keys value arguments := by
  obtain ⟨key, member, taken, gives, inside⟩ := given
  exact ⟨key, member, taken, gives, inside.trans within⟩

theorem GivenBy.exists_prefix {name value : String} {arguments : List String}
    (given : GivenBy [.name name] value arguments) :
    ∃ argument ∈ arguments, ("--" ++ name).toList <+: argument.toList := by
  obtain ⟨key, member, taken, gives, within⟩ := given
  cases List.mem_singleton.mp member
  cases gives with
  | apart => exact ⟨_, within.subset List.mem_cons_self, List.prefix_rfl⟩
  | joined =>
    refine ⟨_, within.subset List.mem_cons_self, ?_⟩
    simp [String.toList_append]

namespace Argument

theorem attached?_eq_some {rest : List Char} {value : String} :
    attached? rest = some value ↔ rest = '=' :: value.toList := by
  unfold attached?
  split
  · simp [← String.toList_inj]
  · simp_all

theorem attached?_eq_none {rest : List Char} : attached? rest = none ↔ rest.head? ≠ some '=' := by
  unfold attached?
  split
  · simp
  next unmarked =>
    cases rest with
    | nil => simp
    | cons c cs => simpa using fun mark => unmarked cs (by rw [mark])

theorem dropWhile_of_unattached {rest : List Char}
    (unattached : attached? (rest.dropWhile (· != '=')) = none) :
    rest.dropWhile (· != '=') = [] := by
  have unmarked := attached?_eq_none.mp unattached
  have head := List.head?_dropWhile_not (· != '=') rest
  cases tail : rest.dropWhile (· != '=') with
  | nil => rfl
  | cons c cs => simp_all

theorem gives_attached {argument value : String} {key : Key}
    (h : ofString argument = .option key (some value)) : key.Gives value [argument] := by
  unfold ofString at h
  split at h
  next => cases h
  next rest _ text =>
    simp only [option.injEq] at h
    obtain ⟨rfl, attached⟩ := h
    have parts := List.takeWhile_append_dropWhile (p := (· != '=')) (l := rest)
    rw [attached?_eq_some.mp attached] at parts
    have spelled : argument =
        "--" ++ String.ofList (rest.takeWhile (· != '=')) ++ "=" ++ value := by
      apply String.toList_inj.mp
      simpa [text] using parts.symm
    rw [spelled]
    exact .joined _
  next => cases h
  next c rest _ _ longer text =>
    simp only [option.injEq, Option.some.injEq] at h
    obtain ⟨rfl, attached⟩ := h
    cases marked : attached? rest with
    | some behind =>
      obtain rfl : behind = value := by simpa [marked] using attached
      have spelled : argument = "-" ++ String.singleton c ++ "=" ++ behind := by
        apply String.toList_inj.mp
        simp [text, attached?_eq_some.mp marked]
      rw [spelled]
      exact .letterJoined c
    | none =>
      obtain rfl : String.ofList rest = value := by simpa [marked] using attached
      have spelled : argument = "-" ++ String.singleton c ++ String.ofList rest := by
        apply String.toList_inj.mp
        simp [text]
      rw [spelled]
      refine .letterBehind c ?_ ?_
      · simpa using longer
      · simpa using attached?_eq_none.mp marked
  next => cases h

theorem gives_next {argument : String} {key : Key} (h : ofString argument = .option key none)
    (value : String) : key.Gives value [argument, value] := by
  unfold ofString at h
  split at h
  next => cases h
  next rest _ text =>
    simp only [option.injEq] at h
    obtain ⟨rfl, unattached⟩ := h
    have parts := List.takeWhile_append_dropWhile (p := (· != '=')) (l := rest)
    rw [dropWhile_of_unattached unattached, List.append_nil] at parts
    have spelled : argument = "--" ++ String.ofList (rest.takeWhile (· != '=')) := by
      apply String.toList_inj.mp
      simp [text, parts]
    rw [spelled]
    exact .apart _
  next c _ text =>
    simp only [option.injEq] at h
    obtain ⟨rfl, -⟩ := h
    have spelled : argument = "-" ++ String.singleton c := by
      apply String.toList_inj.mp
      simp [text]
    rw [spelled]
    exact .letterApart c
  next => simp at h
  next => cases h

theorem ofString_name {argument name : String} (behind : List Char) (proper : (Key.name name).IsProper)
    (ends : ∀ c ∈ behind.head?, c = '=') (text : argument.toList = '-' :: '-' :: (name.toList ++ behind)) :
    ofString argument = .option (.name name) (attached? behind) := by
  obtain ⟨something, unmarked⟩ := proper
  have inside : ∀ c ∈ name.toList, (c != '=') = true := by
    intro c member
    simpa using fun mark : c = '=' => unmarked (mark ▸ member)
  have parted : (name.toList ++ behind).takeWhile (· != '=') = name.toList ∧
      (name.toList ++ behind).dropWhile (· != '=') = behind := by
    rw [List.takeWhile_append_of_pos inside, List.dropWhile_append_of_pos inside]
    cases behind <;> simp_all
  have read : ofString argument =
      .option (.name (String.ofList ((name.toList ++ behind).takeWhile (· != '='))))
        (attached? ((name.toList ++ behind).dropWhile (· != '='))) := by
    cases whole : name.toList ++ behind with
    | nil => simp_all
    | cons c cs => simp only [ofString, text, whole]
  rw [read, parted.1, parted.2, String.ofList_toList]

theorem ofString_letter {argument : String} {letter : Char} (proper : letter ≠ '-')
    (text : argument.toList = ['-', letter]) : ofString argument = .option (.letter letter) none := by
  unfold ofString
  rw [text]
  split <;> simp_all

theorem ofString_letter_behind {argument : String} {letter : Char} (rest : List Char)
    (proper : letter ≠ '-') (something : rest ≠ []) (text : argument.toList = '-' :: letter :: rest) :
    ofString argument = .option (.letter letter) ((attached? rest).getD (String.ofList rest)) := by
  unfold ofString
  rw [text]
  split <;> simp_all

theorem of_gives {key : Key} {value : String} {taken : List String} (proper : key.IsProper)
    (gives : key.Gives value taken) :
    (∃ argument, taken = [argument] ∧ ofString argument = .option key (some value)) ∨
    ∃ argument, taken = [argument, value] ∧ ofString argument = .option key none := by
  cases gives with
  | apart name => exact .inr ⟨_, rfl, ofString_name [] proper (by simp) (by simp)⟩
  | joined name =>
    refine .inl ⟨_, rfl, ?_⟩
    rw [ofString_name ('=' :: value.toList) proper (by simp) (by simp),
      attached?_eq_some.mpr rfl]
  | letterApart letter => exact .inr ⟨_, rfl, ofString_letter proper (by simp)⟩
  | letterJoined letter =>
    refine .inl ⟨_, rfl, ?_⟩
    rw [ofString_letter_behind ('=' :: value.toList) proper (by simp) (by simp),
      attached?_eq_some.mpr rfl]
    rfl
  | letterBehind letter something unmarked =>
    refine .inl ⟨_, rfl, ?_⟩
    rw [ofString_letter_behind value.toList proper (by simpa using something) (by simp),
      attached?_eq_none.mpr unmarked]
    simp

end Argument

end TextQuest.CommandLine
