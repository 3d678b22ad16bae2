import TextQuest.Proofs.Json.Printing
import TextQuest.Proofs.Bridge.Response

namespace TextQuest.Bridge

open Json

/-- A response is read from every line that holds an object which tells it, with blanks around it. -/
theorem response_read_however_written {response : Response}
    (sized : ∀ state ∈ response.state, state.Sized) {pairs : List (String × Value)}
    (told : Told response.slots pairs) {before s after : List Char}
    (blank : ∀ c ∈ before, Text.isBlank c = true) (spells : Spells (.object pairs) s)
    (apart : ∀ c ∈ after, Text.isBlank c = true) :
    Response.decode (before ++ s ++ after) = .ok response := by
  have trimmed := Response.trimChars_told blank spells apart
  have found : s.isEmpty = false := by
    obtain ⟨within, rfl⟩ := Response.spells_object spells
    rfl
  have read : Json.read (fun room => (Response.form room).read room) s = .ok response :=
    read_spelled spells (Response.reads sized told _)
  rw [Response.decode, trimmed, if_neg (by simp [found]), read]
  rfl

theorem freely_written_response_read :
    let state : GameState := { feedback := "\"π\"", won := true }
    let line := "\u3000\n\x7b\"extra\":1.50e+3,\"reward\": -1\n,\"done\":null," ++
      "\"st\\u0061te\":\x7b\"won\":true,\"?\":\"\",\"feedback\":\"\\\"π\\\"\"\x7d,\"ok\":true\x7d\u00a0"
    let response : Response := { ok := true, state := some state, reward := some .negative }
    state.Sized ∧ Response.decode line.toList = .ok response := by
  intro state line response
  let inner : List (String × Value) :=
    [("won", .bool true), ("?", .text ""), ("feedback", .text state.feedback)]
  let members : List Member := [.ofPair ("extra", .number "1.50e+3"),
    { Member.ofPair ("reward", Reward.negative.toJson) with before := [' '], after := ['\n'] },
    .ofPair ("done", .null),
    { Member.ofPair ("state", .object inner) with lead := "\"st\\u0061te\":".toList },
    .ofPair ("ok", .bool true)]
  have sized : state.Sized := ⟨by decide, by decide, by decide⟩
  have told : Told response.slots (members.map Member.pair) := by
    have toldState : state.ToldBy (.object inner) := by
      refine ⟨inner, rfl, ?_, ?_, ?_⟩ <;> simp [GameState.slots, inner, state, List.count_cons]
    refine ⟨?_, ?_, ?_⟩
    · simp [Response.slots, response, members, Member.pair, Member.ofPair, Item.ofValue, List.count_cons]
    · simp [Response.slots, response, members, Member.pair, Member.ofPair, Item.ofValue, toldState]
    · simp [Response.slots, response, members, Member.pair, Member.ofPair, Item.ofValue]
  have number : Spells (.number "1.50e+3") "1.50e+3".toList := by
    have exponent : Digits ['3'] := ⟨List.cons_ne_nil _ _, List.all_eq_true.mp rfl⟩
    have marked : ∃ letter ∈ ['e', 'E'], ∃ sign ∈ [[], ['+'], ['-']], ['e', '+'] = letter :: sign :=
      ⟨'e', by decide, ['+'], by decide, rfl⟩
    have whole : Digits ['1'] := ⟨List.cons_ne_nil _ _, List.all_eq_true.mp rfl⟩
    have lawful : Numeral.Lawful ⟨false, ['1'], ['5', '0'], ['e', '+'], ['3']⟩ :=
      ⟨whole, by simp, List.all_eq_true.mp rfl, .inr ⟨marked, exponent⟩⟩
    exact .number lawful
  have escaped : SpellsName "state" "\"st\\u0061te\":".toList := by
    have chars : SpellsChars "state".toList "st\\u0061te".toList :=
      .cons (spells_escape 's') <| .cons (spells_escape 't') <| .cons (s := "\\u0061".toList) (.code rfl) <|
        .cons (spells_escape 't') <| .cons (spells_escape 'e') .nil
    exact .mk spaces_nil chars spaces_nil
  have spells : Spells (.object (members.map Member.pair))
      ('{' :: separated (members.map Member.shown) ++ ['}']) := by
    have space : Spaces [' '] := by simp [Spaces, isSpace]
    have feed : Spaces ['\n'] := by simp [Spaces, isSpace]
    refine .object (List.cons_ne_nil _ _) ?_ ?_
    · simp only [members, List.forall_mem_cons]
      exact ⟨.ofPair _, ⟨⟨space, feed⟩, printed_name _⟩, .ofPair _,
        ⟨⟨spaces_nil, spaces_nil⟩, escaped⟩, .ofPair _, List.forall_mem_nil _⟩
    · have printed : Printed (.object inner) :=
        printed_object (by simp [inner, printed_bool, printed_text])
      simp only [members, List.forall_mem_cons]
      exact ⟨number, (printed_ofInt (-1)).spells, .null, printed.spells, .yes,
        List.forall_mem_nil _⟩
  have shown : line.toList =
      ['\u3000', '\n'] ++ ('{' :: separated (members.map Member.shown) ++ ['}']) ++ ['\u00a0'] := by
    decide +kernel
  refine ⟨sized, ?_⟩
  rw [shown]
  have allSized : ∀ told ∈ response.state, told.Sized := by simpa [response] using sized
  exact response_read_however_written allSized told (List.all_eq_true.mp rfl) spells
    (List.all_eq_true.mp rfl)

end TextQuest.Bridge
