import TextQuest.Generation.Request
import TextQuest.Proofs.Generation.Challenge

namespace TextQuest.Generation

theorem Kind.arguments_append_inj {a b : Kind} {rest rest' : List String}
    (same : a.arguments ++ rest = b.arguments ++ rest') : a = b ∧ rest = rest' := by
  cases a with
  | custom sizes =>
    cases b with
    | custom others =>
      obtain ⟨rooms, objects, length, breadth⟩ := sizes
      obtain ⟨rooms', objects', length', breadth'⟩ := others
      simpa [arguments, Nat.repr_inj, and_assoc] using same
    | challenge asked => simp [arguments] at same
  | challenge asked =>
    cases b with
    | custom sizes => simp [arguments] at same
    | challenge other => simpa [arguments, Challenge.token_inj] using same

/-- An option that may be missing is found if what follows it does not begin with the same option. -/
theorem valued_append_inj {option : String} {value value' : Option String} {rest rest' : List String}
    (other : rest.head? ≠ some option) (other' : rest'.head? ≠ some option)
    (same : valued option value ++ rest = valued option value' ++ rest') :
    value = value' ∧ rest = rest' := by
  cases value with
  | none =>
    cases value' with
    | none => exact ⟨rfl, same⟩
    | some text =>
      obtain rfl : rest = option :: text :: rest' := same
      exact absurd rfl other
  | some text =>
    cases value' with
    | none =>
      obtain rfl : option :: text :: rest = rest' := same
      exact absurd rfl other'
    | some text' => simpa [valued] using same

def turnedOn (switches : List (String × Bool)) : List String := (switches.filter (·.2)).map (·.1)

theorem turnedOn_inj {switches others : List (String × Bool)}
    (distinct : (switches.map Prod.fst).Nodup) (names : switches.map Prod.fst = others.map Prod.fst)
    (same : turnedOn switches = turnedOn others) : switches = others := by
  have named (name : String) (entries : List (String × Bool)) (on : name ∈ turnedOn entries) :
      name ∈ entries.map Prod.fst := by
    obtain ⟨entry, kept, rfl⟩ := List.mem_map.mp on
    exact List.mem_map_of_mem (List.mem_filter.mp kept).1
  induction switches generalizing others with
  | nil => simpa using names
  | cons first later ih =>
    cases others with
    | nil => simp at names
    | cons first' later' =>
      obtain ⟨name, on⟩ := first
      obtain ⟨name', on'⟩ := first'
      obtain ⟨rfl, alike⟩ : name = name' ∧ later.map Prod.fst = later'.map Prod.fst := List.cons.inj names
      obtain ⟨fresh, apart⟩ := List.nodup_cons.mp distinct
      have fresh' : name ∉ later'.map Prod.fst := alike ▸ fresh
      -- A switch that is on in one list only would have to be among the later ones of the other.
      cases on <;> cases on'
      · exact congrArg _ (ih apart alike same)
      · exact absurd (named name later (same.symm ▸ List.mem_cons_self ..)) fresh
      · exact absurd (named name later' (same ▸ List.mem_cons_self ..)) fresh'
      · exact congrArg _ (ih apart alike (List.cons.inj same).2)

theorem Options.switches_inj {a b : Options} (same : turnedOn a.switches = turnedOn b.switches) :
    { a with output := none, seed := none, theme := none } =
      { b with output := none, seed := none, theme := none } := by
  have distinct : (a.switches.map Prod.fst).Nodup := by simp [switches]
  have names : a.switches.map Prod.fst = b.switches.map Prod.fst := rfl
  have switches : a.switches = b.switches := turnedOn_inj distinct names same
  simpa [Options.switches] using switches

theorem Options.theme_not_turnedOn (options : Options) :
    (turnedOn options.switches).head? ≠ some "--theme" := by
  intro first
  obtain ⟨entry, kept, named⟩ := List.mem_map.mp (List.mem_of_mem_head? first)
  have listed : entry.1 ∈ options.switches.map Prod.fst :=
    List.mem_map_of_mem (List.mem_filter.mp kept).1
  rw [named] at listed
  simp [switches] at listed

/-- Requests have the same arguments exactly if they are for the same kind of game with the same seed, and
have the same options but for the seed that these ask for. -/
theorem arguments_determine_request (a b : Request) :
    a.arguments = b.arguments ↔
      a.kind = b.kind ∧ a.seed = b.seed ∧ { a.options with seed := b.options.seed } = b.options := by
  constructor
  · intro same
    simp only [Request.arguments, List.append_assoc] at same
    obtain ⟨kind, same⟩ := Kind.arguments_append_inj same
    obtain ⟨output, same⟩ := valued_append_inj (by simp) (by simp) same
    obtain ⟨seed, same⟩ : toString a.seed = toString b.seed ∧ _ = _ := by simpa using same
    obtain ⟨theme, same⟩ := valued_append_inj a.options.theme_not_turnedOn b.options.theme_not_turnedOn same
    refine ⟨kind, UInt64.toNat_inj.mp (Nat.repr_injective seed), ?_⟩
    have switches := Options.switches_inj same
    obtain ⟨kind, ⟨⟩, seed⟩ := a
    obtain ⟨kind', ⟨⟩, seed'⟩ := b
    simp_all
  · rintro ⟨kind, seed, options⟩
    have told : a.arguments =
        Request.arguments { a with options := { a.options with seed := b.options.seed } } := rfl
    rw [told, options]
    simp only [Request.arguments, kind, seed]

end TextQuest.Generation
