import TextQuest.Proofs.Bridge.Decoding
import TextQuest.Proofs.Bridge.Pairing
import TextQuest.Proofs.Text.Utf8

namespace TextQuest.Bridge

namespace Request

def sent (requests : List Request) : List UInt8 := Text.encode (String.ofList (requests.flatMap encode))

def heard? (line : List UInt8) : Option Request := (Text.decode? line).bind decode?

theorem encode_inj {request other : Request} : request.encode = other.encode ↔ request = other := by
  refine ⟨fun same => ?_, congrArg encode⟩
  have read := congrArg decode? same
  rw [decode?_encode, decode?_encode] at read
  exact Option.some.inj read

theorem sent_cons (request : Request) (later : List Request) :
    sent (request :: later) = Text.encode (String.ofList request.encode) ++ sent later := by
  simp only [sent, List.flatMap_cons, String.ofList_append, Text.encode_append]

theorem encode_bytes (request : Request) :
    Text.encode (String.ofList request.encode) = Text.encode request.line ++ [0x0a] := by
  have whole : String.ofList request.encode = request.line ++ "\n" := by
    rw [encode_eq, String.ofList_append, String.ofList_toList]
  have feed : Text.encode "\n" = [0x0a] := by decide +kernel
  rw [whole, Text.encode_append, feed]

theorem feed_not_mem_line (request : Request) : 0x0a ∉ Text.encode request.line :=
  fun within => request.newline_not_mem_line (Text.mem_encode_feed within)

theorem heard?_bytes (request : Request) :
    heard? (Text.encode (String.ofList request.encode)) = some request := by
  rw [heard?, Text.decode?_encode, String.toList_ofList]
  exact request.decode?_encode

theorem linesOf_ended {bytes : List UInt8} (unended : 0x0a ∉ bytes) (rest : List UInt8) :
    linesOf (bytes ++ 0x0a :: rest) = (bytes ++ [0x0a]) :: linesOf rest := by
  induction bytes with
  | nil => rfl
  | cons byte bytes ih =>
    obtain ⟨other, unended⟩ := not_or.mp (mt List.mem_cons.mpr unended)
    rw [List.cons_append, linesOf, if_neg (Ne.symm other), ih unended]
    rfl

theorem linesOf_sent (requests : List Request) :
    linesOf (sent requests) = requests.map fun request => Text.encode (String.ofList request.encode) := by
  induction requests with
  | nil => decide +kernel
  | cons request later ih =>
    rw [sent_cons, encode_bytes, List.append_assoc, List.singleton_append,
      linesOf_ended request.feed_not_mem_line, ih, List.map_cons, encode_bytes]

theorem heard_sent (requests : List Request) :
    (linesOf (sent requests)).map heard? = requests.map some := by
  rw [linesOf_sent, List.map_map]
  exact List.map_congr_left fun request _ => request.heard?_bytes

end Request

open Request

/-- A request is written as one line, which has no control character but the line feed at its end and is read
as that request, whatever its command is. Different requests have different lines, and requests that are
sent one after the other are read as just these. -/
theorem lines_carry_single_requests :
    (∀ request : Request, ∃ line : List Char, request.encode = line ++ ['\n'] ∧ (∀ c ∈ line, ' ' ≤ c) ∧
      decode? request.encode = some request) ∧
    (∀ request other : Request, request.encode = other.encode ↔ request = other) ∧
    ∀ requests : List Request, (linesOf (sent requests)).map heard? = requests.map some :=
  ⟨fun request => ⟨_, request.encode_eq, request.printable_line, request.decode?_encode⟩,
    fun _ _ => encode_inj, heard_sent⟩

theorem smuggled_close_is_command :
    let command := "go\"\x7d\n\x7b\"op\":\"close\"\x7d\n"
    (linesOf (sent [.call (.step command), .call .reset])).map heard? =
        [some (.call (.step command)), some (.call .reset)] ∧
      Request.encode (.call (.step command)) ≠ Request.encode .close := by
  intro command
  obtain ⟨-, apart, heard⟩ := lines_carry_single_requests
  exact ⟨heard _, fun same => nomatch (apart _ _).mp same⟩

end TextQuest.Bridge
