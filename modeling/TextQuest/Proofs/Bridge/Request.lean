import TextQuest.Bridge.Request
import TextQuest.Proofs.Json.Printing

namespace TextQuest

namespace Bridge.Request
open Json

def line (request : Request) : String := String.ofList request.encode.dropLast

theorem toList_line (request : Request) : request.line.toList = render request.toJson := by
  simp [line, encode]

theorem encode_eq (request : Request) : request.encode = request.line.toList ++ ['\n'] := by
  rw [toList_line, encode]

def told (request : Request) : List (String × String) :=
  match request with
  | call (.step command) => [("op", request.op), ("command", command)]
  | _ => [("op", request.op)]

theorem toJson_eq (request : Request) :
    request.toJson = .object (request.told.map fun (name, text) => (name, .text text)) := by
  cases request with
  | close => rfl
  | call call => cases call <;> rfl

theorem printed_toJson (request : Request) : Printed request.toJson := by
  rw [toJson_eq]
  exact printed_object (List.forall_mem_map.mpr fun told _ => printed_text told.2)

theorem printable_line (request : Request) : Printable request.line.toList := by
  rw [toList_line]
  exact request.printed_toJson.printable

theorem newline_not_mem_line (request : Request) : '\n' ∉ request.line.toList :=
  request.printable_line.newline_not_mem

end Bridge.Request
end TextQuest
