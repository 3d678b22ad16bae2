import TextQuest.Proofs.Bridge.Request
import TextQuest.Proofs.Json.Members

namespace TextQuest

namespace Json

variable {room : Nat}

theorem reads_textValue (within : Option (Reader Value)) (value : String) :
    Reads room (valueOf room within) (.text value) (.text value) := by
  intro gap s rest spaced spells _ _
  cases spells with
  | text chars =>
    unfold valueOf
    rw [skip_spaces spaced, List.cons_append, List.cons_append, skip_solid rfl, List.append_assoc]
    simp only [List.singleton_append, textAfterQuote_chars chars, bind, Except.bind, pure, Except.pure]

theorem membersFrom_shown {reader : Reader Value} {members : List Member} (some : members ≠ [])
    (reads : ∀ member ∈ members, Reads room reader member.value member.value)
    (readable : ∀ member ∈ members, member.Readable room) (rest : List Char) {left : Nat}
    (enough : members.length ≤ left) {first : Bool} {mark : List Char} (parts : Parts first mark)
    (seen : List (String × Value)) :
    ∃ gap, Spaces gap ∧
      membersFrom reader (left + 1) first seen
          (mark ++ (separated (members.map Member.shown) ++ '}' :: rest)) =
        .ok (seen.reverse ++ members.map Member.pair, gap ++ '}' :: rest) := by
  induction members generalizing left first mark seen with
  | nil => contradiction
  | cons member members ih =>
    obtain ⟨left, rfl⟩ : ∃ k, left = k + 1 := ⟨left - 1, by simp at enough; omega⟩
    obtain ⟨here, others⟩ := List.forall_mem_cons.mp readable
    obtain ⟨read, later⟩ := List.forall_mem_cons.mp reads
    obtain ⟨name, after, chars, gap, goes⟩ := nextMember_member parts here.spaced members rest
    have ends := ends_behind (List.mem_cons_of_mem _ (List.mem_cons_self ..)) (members.map Member.shown) rest
    have taken := read here.before here.spells here.short (ends_spaces here.after ends)
    rw [membersFrom, goes]
    simp only [textAfterQuote_chars chars, colon_gap gap, Item.shown, List.append_assoc, taken, bind,
      Except.bind, pure, Except.pure]
    by_cases last : members = []
    · subst last
      refine ⟨member.after, here.after, ?_⟩
      simp [membersFrom, behind, nextMember_end _ here.after, Member.pair]
    · obtain ⟨gap, apart, passed⟩ := ih last later others (by simpa using enough) (.later here.after)
        ((member.name, member.value) :: seen)
      refine ⟨gap, apart, ?_⟩
      simpa [behind, last, Member.pair] using passed

theorem objectAfterBracket_brace {within : Reader Value} {text : List Char}
    {found : List (String × Value)} {after rest : List Char} (apart : Spaces after)
    (taken : membersFrom within room true [] text = .ok (found, after ++ '}' :: rest)) :
    objectAfterBracket room within text = .ok (found, rest) := by
  simp only [objectAfterBracket, taken, bind, Except.bind, objectEnd_gap apart, pure, Except.pure, placeBy]

theorem reads_object {within : Reader Value} {pairs : List (String × Value)}
    (reads : ∀ pair ∈ pairs, Reads room within pair.2 pair.2) :
    Reads room (valueOf room (some within)) (.object pairs) (.object pairs) := by
  intro gap s rest spaced spells short _
  obtain ⟨left, rfl⟩ : ∃ left, room = left + 1 := ⟨room - 1, by omega⟩
  obtain ⟨text, shown, taken⟩ : ∃ text, s ++ rest = '{' :: text ∧
      objectAfterBracket (left + 1) within text = .ok (pairs, rest) := by
    cases spells with
    | @emptyObject inside apart =>
      refine ⟨inside ++ '}' :: rest, by simp, objectAfterBracket_brace apart ?_⟩
      simp [membersFrom, nextMember_end _ apart]
    | @object members some spacedMembers spells =>
      have fits : (separated (members.map Member.shown)).length ≤ left := by
        simp only [List.length_append, List.length_cons] at short
        omega
      have enough := Nat.le_trans (length_members_le spells) fits
      obtain ⟨after, apart, taken⟩ := membersFrom_shown some (List.forall_mem_map.mp reads)
        (readable_members spacedMembers spells (Nat.lt_succ_of_le fits)) rest enough .first []
      exact ⟨separated (members.map Member.shown) ++ '}' :: rest, by simp,
        objectAfterBracket_brace apart taken⟩
  unfold valueOf
  rw [skip_spaces spaced, shown, skip_solid rfl]
  simp only [taken, bind, Except.bind, pure, Except.pure]

end Json

namespace Bridge.Request
open Json

theorem reads_toJson (request : Request) (room : Nat) :
    Reads room (value room) request.toJson request.toJson := by
  rw [toJson_eq]
  exact reads_object (List.forall_mem_map.mpr fun told _ => reads_textValue _ told.2)

theorem ofJson?_toJson (request : Request) : ofJson? request.toJson = some request := by
  cases request with
  | close => rfl
  | call asked => cases asked <;> rfl

theorem decode?_of_read {request : Request} {text : List Char}
    (read : Json.read value text = .ok request.toJson) : decode? text = some request := by
  rw [decode?, read]
  exact request.ofJson?_toJson

theorem decode?_line (request : Request) : decode? request.line.toList = some request := by
  rw [toList_line]
  exact decode?_of_read (read_spelled request.printed_toJson.spells (request.reads_toJson _))

/-- The line feed at the end of a line is a blank to its reader. -/
theorem decode?_encode (request : Request) : decode? request.encode = some request := by
  have feed : Spaces ['\n'] := by simp [Spaces, isSpace]
  rw [encode]
  exact decode?_of_read (read_spelled_spaces request.printed_toJson.spells feed (request.reads_toJson _))

end Bridge.Request
end TextQuest
