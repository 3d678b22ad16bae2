import TextQuest.Proofs.CommandLine.Spelling

namespace TextQuest.CommandLine

def Level.OnlyOptions (level : Level) : Prop :=
  level.operands = [] ∧ ∀ parameter ∈ level.parameters, parameter.kind.isSome

instance : DecidablePred Level.OnlyOptions :=
  fun level => inferInstanceAs (Decidable (level.operands = [] ∧ _))

def Given.hold (given : Given) (name value : String) : Given :=
  { given with values := (name, value) :: given.values }

theorem Given.value?_hold (given : Given) (name other value : String) :
    (given.hold name value).value? other =
      if other = name then some value else given.value? other := by
  simp only [value?, hold, List.lookup_cons]
  by_cases same : other = name
  · simp [same]
  · simp [same, beq_false_of_ne same]

theorem Given.value?_of_hold {given : Given} {name other first value : String}
    (held : (given.hold other first).value? name = some value) :
    (other = name ∧ first = value) ∨ given.value? name = some value := by
  rw [value?_hold] at held
  split at held
  next same => exact .inl ⟨same.symm, Option.some.inj held⟩
  next => exact .inr held

/-- What a level with only options takes in of its arguments, one option after the other. -/
inductive Scans (level : Level) : Given → List String → Given → Prop
  | nil {given : Given} : Scans level given [] given
  | divider {given : Given} {argument : String} (divides : .ofString argument = Argument.divider) :
      Scans level given [argument] given
  | command {given : Given} {argument : String} {rest : List String}
      (plain : .ofString argument = Argument.plain)
      (known : (level.commands.lookup argument).isSome) :
      Scans level given (argument :: rest) { given with command := some (argument, rest) }
  | attached {given after : Given} {argument name value : String} {rest : List String} {key : Key}
      {kind : ValueKind} (option : .ofString argument = Argument.option key (some value))
      (valued : level.valued? key = some (name, kind)) (accepts : kind.accepts value)
      (fresh : given.value? name = none)
      (tail : Scans level (given.hold name value) rest after) :
      Scans level given (argument :: rest) after
  | apart {given after : Given} {argument name value : String} {rest : List String} {key : Key}
      {kind : ValueKind} (option : .ofString argument = Argument.option key none)
      (plain : .ofString value = Argument.plain)
      (valued : level.valued? key = some (name, kind)) (accepts : kind.accepts value)
      (fresh : given.value? name = none)
      (tail : Scans level (given.hold name value) rest after) :
      Scans level given (argument :: value :: rest) after

theorem exists_of_bind {ε α β : Type} {first : Except ε α} {next : α → Except ε β} {result : β}
    (done : first >>= next = .ok result) : ∃ value, first = .ok value ∧ next value = .ok result := by
  cases first with
  | error failure => cases done
  | ok value => exact ⟨value, rfl, done⟩

theorem ok_of_toOption {ε α : Type} {result : Except ε α} {value : α}
    (found : result.toOption = some value) : result = .ok value := by
  cases result <;> simp_all [Except.toOption]

theorem Given.addValue_ok {given after : Given} {name value : String} {kind : ValueKind}
    (added : given.addValue name kind value = .ok after) :
    kind.accepts value ∧ given.value? name = none ∧
      after = given.hold name value := by
  unfold addValue at added
  split at added
  next fits =>
    cases added
    exact ⟨fits.1, by simpa using fits.2, rfl⟩
  next => contradiction

namespace Level

variable {level : Level} {given after : Given}

theorem OnlyOptions.addOperand_error (options : level.OnlyOptions) (given : Given) (value : String) :
    level.addOperand given value = .error .usage := by
  simp [addOperand, options.1]

theorem OnlyOptions.addSwitch_ne_ok (options : level.OnlyOptions) (given after : Given) (key : Key)
    (attached : Option String) : level.addSwitch given key attached ≠ .ok after := by
  have switchless (name : String) : level.hasSwitch name = false := by
    simp only [hasSwitch, List.any_eq_false, decide_eq_true_eq, not_and]
    intro parameter member _ kind
    simpa [kind] using options.2 parameter member
  unfold addSwitch
  split <;> simp [switchless]

theorem scans_of_read {arguments : List String} (options : level.OnlyOptions)
    (read : level.read arguments given = .ok after) : Scans level given arguments after := by
  fun_induction Level.read level arguments given with
  | case1 =>
    cases read
    exact .nil
  | case2 argument rest given divides =>
    cases rest with
    | nil =>
      cases read
      exact .divider divides
    | cons value rest =>
      obtain ⟨next, added, -⟩ := exists_of_bind read
      simp [options.addOperand_error] at added
  | case3 argument rest given plain known =>
    cases read
    exact .command plain known
  | case4 argument rest given plain unknown ih =>
    obtain ⟨next, added, -⟩ := exists_of_bind read
    simp [options.addOperand_error] at added
  | case5 argument given key attached rest unvalued option ih =>
    obtain ⟨next, added, -⟩ := exists_of_bind read
    exact absurd added (options.addSwitch_ne_ok _ _ _ _)
  | case6 argument given key name kind value rest valued option ih =>
    obtain ⟨next, added, read⟩ := exists_of_bind read
    obtain ⟨accepts, fresh, rfl⟩ := Given.addValue_ok added
    exact .attached option valued accepts fresh (ih _ read)
  | case7 => contradiction
  | case8 argument given key name kind value rest valued plain option ih =>
    obtain ⟨next, added, read⟩ := exists_of_bind read
    obtain ⟨accepts, fresh, rfl⟩ := Given.addValue_ok added
    exact .apart option plain valued accepts fresh (ih _ read)
  | case9 => contradiction

end Level

namespace Scans

variable {level : Level} {given after : Given} {arguments : List String}

theorem keeps {name value : String} (scans : Scans level given arguments after)
    (held : given.value? name = some value) : after.value? name = some value := by
  induction scans with
  | nil | divider | command => exact held
  | attached option valued accepts fresh tail ih | apart option plain valued accepts fresh tail ih =>
    apply ih
    rw [Given.value?_hold, if_neg (by rintro rfl; simp [fresh] at held)]
    exact held

theorem given_of_value {name value : String} (scans : Scans level given arguments after)
    (held : after.value? name = some value) :
    given.value? name = some value ∨
      ∃ key kind taken, level.valued? key = some (name, kind) ∧ kind.accepts value ∧
        key.Gives value taken ∧ taken <:+: arguments := by
  induction scans with
  | nil | divider | command => exact .inl held
  | @attached given after argument other first rest key kind option valued accepts fresh tail ih =>
    rcases ih held with held | ⟨key, kind, taken, valued, accepts, gives, within⟩
    · rcases Given.value?_of_hold held with ⟨rfl, rfl⟩ | held
      · exact .inr ⟨key, kind, [argument], valued, accepts, Argument.gives_attached option,
          List.prefix_append [argument] rest |>.isInfix⟩
      · exact .inl held
    · exact .inr ⟨key, kind, taken, valued, accepts, gives, List.infix_cons within⟩
  | @apart given after argument other first rest key kind option plain valued accepts fresh tail ih =>
    rcases ih held with held | ⟨key, kind, taken, valued, accepts, gives, within⟩
    · rcases Given.value?_of_hold held with ⟨rfl, rfl⟩ | held
      · exact .inr ⟨key, kind, [argument, first], valued, accepts, Argument.gives_next option first,
          List.prefix_append [argument, first] rest |>.isInfix⟩
      · exact .inl held
    · exact .inr ⟨key, kind, taken, valued, accepts, gives, List.infix_cons (List.infix_cons within)⟩

theorem takes {key : Key} {value : String} {taken : List String}
    (scans : Scans level given arguments after) (proper : key.IsProper)
    (gives : key.Gives value taken) (within : taken <:+: arguments) :
    (∃ found ∈ level.valued? key, after.value? found.1 = some value) ∨
      ∃ command rest, after.command = some (command, rest) ∧ taken <:+: rest := by
  -- The first of the arguments is an option, and stands where the level looks for one.
  obtain ⟨head, others, rfl, spelled⟩ : ∃ head others, taken = head :: others ∧
      ((others = [] ∧ .ofString head = Argument.option key (some value)) ∨
        (others = [value] ∧ .ofString head = Argument.option key none)) := by
    rcases Argument.of_gives proper gives with ⟨head, rfl, option⟩ | ⟨head, rfl, option⟩
    · exact ⟨head, [], rfl, .inl ⟨rfl, option⟩⟩
    · exact ⟨head, [value], rfl, .inr ⟨rfl, option⟩⟩
  induction scans with
  | nil => simp at within
  | divider divides =>
    rcases List.infix_cons_iff.mp within with front | within
    · obtain ⟨rfl, -⟩ := List.cons_prefix_cons.mp front
      simp [divides] at spelled
    · simp at within
  | command plain known =>
    rcases List.infix_cons_iff.mp within with front | within
    · obtain ⟨rfl, -⟩ := List.cons_prefix_cons.mp front
      simp [plain] at spelled
    · exact .inr ⟨_, _, rfl, within⟩
  | attached option valued accepts fresh tail ih =>
    rcases List.infix_cons_iff.mp within with front | within
    · obtain ⟨rfl, -⟩ := List.cons_prefix_cons.mp front
      obtain ⟨-, rfl, rfl⟩ : others = [] ∧ _ = key ∧ _ = value := by simpa [option] using spelled
      exact .inl ⟨_, valued, tail.keeps (by simp [Given.value?_hold])⟩
    · exact ih within
  | apart option plain valued accepts fresh tail ih =>
    rcases List.infix_cons_iff.mp within with front | within
    · obtain ⟨rfl, behind⟩ := List.cons_prefix_cons.mp front
      obtain ⟨rfl, rfl⟩ : others = [value] ∧ _ = key := by simpa [option] using spelled
      obtain ⟨rfl, -⟩ := List.cons_prefix_cons.mp behind
      exact .inl ⟨_, valued, tail.keeps (by simp [Given.value?_hold])⟩
    rcases List.infix_cons_iff.mp within with front | within
    · obtain ⟨rfl, -⟩ := List.cons_prefix_cons.mp front
      simp [plain] at spelled
    · exact ih within

theorem command_of_ends {command : String} {rest : List String}
    (scans : Scans level given arguments after) (ends : after.command = some (command, rest)) :
    given.command = some (command, rest) ∨
      rest <:+ arguments ∧ (level.commands.lookup command).isSome := by
  induction scans with
  | nil | divider => exact .inl ends
  | command plain known =>
    simp only [Option.some.injEq, Prod.mk.injEq] at ends
    obtain ⟨rfl, rfl⟩ := ends
    exact .inr ⟨List.suffix_cons _ _, known⟩
  | attached option valued accepts fresh tail ih =>
    exact (ih ends).imp_right (And.imp_left fun within => within.trans (List.suffix_cons _ _))
  | apart option plain valued accepts fresh tail ih =>
    exact (ih ends).imp_right (And.imp_left fun within =>
      within.trans ((List.suffix_cons _ _).trans (List.suffix_cons _ _)))

end Scans
def Parameter.keys (parameter : Parameter) : List Key :=
  .name parameter.name :: (parameter.letter.map Key.letter).toList

theorem Level.parameter_of_valued {level : Level} {key : Key} {name : String} {kind : ValueKind}
    (valued : level.valued? key = some (name, kind)) :
    ∃ parameter ∈ level.parameters,
      parameter.name = name ∧ parameter.kind = some kind ∧ key ∈ parameter.keys := by
  simp only [valued?, bind, Option.bind_eq_some_iff] at valued
  obtain ⟨parameter, found, _, same, rest⟩ := valued
  cases rest
  refine ⟨parameter, List.mem_of_find?_eq_some found, rfl, same, ?_⟩
  have called := List.find?_some found
  cases key with
  | name text => simp_all [Parameter.keys]
  | letter c => simp_all [Parameter.keys]

def Level.Knows (level : Level) (name : String) (keys : List Key) (kind : ValueKind) : Prop :=
  (∀ key ∈ keys, ∀ found ∈ level.valued? key, found.1 = name) ∧
    ∀ parameter ∈ level.parameters, parameter.name = name →
      parameter.kind = some kind ∧ ∀ key ∈ parameter.keys, key ∈ keys

instance (level : Level) (name : String) (keys : List Key) (kind : ValueKind) :
    Decidable (level.Knows name keys kind) := inferInstanceAs (Decidable (_ ∧ _))

structure Tool.Knows (tool : Tool) (name : String) (keys : List Key) (kind : ValueKind) : Prop where
  proper : ∀ key ∈ keys, key.IsProper
  outer : tool.outer.OnlyOptions ∧ ∀ key ∈ keys, tool.outer.valued? key = none
  commands : ∀ level ∈ tool.commands,
    level.OnlyOptions ∧ level.commands = [] ∧ level.Knows name keys kind

theorem Tool.read_ok {tool : Tool} {arguments : List String} {line : Line}
    (read : tool.read arguments = .ok line) :
    ∃ rest, ∃ level ∈ tool.commands, level.name = line.command ∧
      tool.outer.read arguments {} = .ok line.outer ∧
      line.outer.command = some (line.command, rest) ∧ level.read rest {} = .ok line.inner := by
  obtain ⟨outer, started, ended⟩ := exists_of_bind read
  split at ended
  next => cases ended
  next => cases ended
  next command rest _ named =>
    split at ended
    next level found =>
      obtain ⟨inner, finished, same⟩ := exists_of_bind ended
      cases same
      exact ⟨rest, level, List.mem_of_find?_eq_some found, by simpa using List.find?_some found,
        started, named, finished⟩
    next => cases ended

section

variable {tool : Tool} {name : String} {keys : List Key} {kind : ValueKind} {arguments : List String}
  {line : Line} {value : String}

theorem Tool.Knows.value?_iff (knows : tool.Knows name keys kind)
    (read : tool.read arguments = .ok line) :
    line.inner.value? name = some value ↔ GivenBy keys value arguments := by
  obtain ⟨rest, level, member, -, started, named, finished⟩ := Tool.read_ok read
  obtain ⟨options, commandless, only, all⟩ := knows.commands level member
  have outer := Level.scans_of_read knows.outer.1 started
  have inner := Level.scans_of_read options finished
  constructor
  · intro held
    rcases inner.given_of_value held with nothing | ⟨key, kind, taken, valued, -, gives, within⟩
    · simp [Given.value?] at nothing
    · obtain ⟨parameter, listed, called, -, key_of⟩ := Level.parameter_of_valued valued
      have given : GivenBy keys value rest := ⟨key, (all parameter listed called).2 key key_of,
        taken, gives, within⟩
      rcases outer.command_of_ends named with nothing | ⟨behind, -⟩
      · cases nothing
      · exact given.weaken behind.isInfix
  · rintro ⟨key, called, taken, gives, within⟩
    have proper := knows.proper key called
    rcases outer.takes proper gives within with ⟨found, valued, -⟩ | ⟨command, rest', ends, within⟩
    · simp [knows.outer.2 key called] at valued
    · rw [named] at ends
      cases ends
      rcases inner.takes proper gives within with ⟨found, valued, held⟩ | ⟨command, rest', ends, -⟩
      · rwa [only key called found valued] at held
      · rcases inner.command_of_ends ends with nothing | ⟨-, known⟩
        · cases nothing
        · simp [commandless] at known

theorem Tool.Knows.accepts_value (knows : tool.Knows name keys kind)
    (read : tool.read arguments = .ok line) (held : line.inner.value? name = some value) :
    kind.accepts value := by
  obtain ⟨rest, level, member, -, -, -, finished⟩ := Tool.read_ok read
  obtain ⟨options, -, -, all⟩ := knows.commands level member
  have inner := Level.scans_of_read options finished
  rcases inner.given_of_value held with nothing | ⟨key, kind', taken, valued, accepts, -⟩
  · simp [Given.value?] at nothing
  · obtain ⟨parameter, listed, called, kind_of, -⟩ := Level.parameter_of_valued valued
    obtain rfl : kind = kind' := by simpa [kind_of] using (all parameter listed called).1.symm
    exact accepts

theorem Tool.value?_eq_none (read : tool.read arguments = .ok line)
    (lacks : ∀ level ∈ tool.commands, level.name = line.command →
      level.OnlyOptions ∧ ∀ parameter ∈ level.parameters, parameter.name ≠ name) :
    line.inner.value? name = none := by
  obtain ⟨rest, level, member, named, -, -, finished⟩ := Tool.read_ok read
  obtain ⟨options, unlisted⟩ := lacks level member named
  cases held : line.inner.value? name with
  | none => rfl
  | some value =>
    rcases (Level.scans_of_read options finished).given_of_value held with
      nothing | ⟨key, kind, taken, valued, -⟩
    · simp [Given.value?] at nothing
    · obtain ⟨parameter, listed, called, -⟩ := Level.parameter_of_valued valued
      exact absurd called (unlisted parameter listed)

end

end TextQuest.CommandLine
