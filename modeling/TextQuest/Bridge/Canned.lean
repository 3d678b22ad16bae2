import TextQuest.Bridge.Session

namespace TextQuest.Bridge

inductive CannedResponse
  | line (bytes : List UInt8)
  /-- Written as it is, before the output is closed. -/
  | last (bytes : List UInt8)
  | close

structure Canned where
  arguments : List String
  responses : List CannedResponse
  heard : List String := []
  closed : Bool := false

namespace Canned

def program : Program Canned where
  hear line canned :=
    if canned.closed then (⟨[], true⟩, canned)
    else
      let canned := { canned with heard := line :: canned.heard }
      match canned.responses with
      | .line bytes :: rest => (⟨bytes ++ [0x0a], false⟩, { canned with responses := rest })
      | .last bytes :: rest => (⟨bytes, true⟩, { canned with responses := rest, closed := true })
      | .close :: rest => (⟨[], true⟩, { canned with responses := rest, closed := true })
      | [] => (⟨[], true⟩, { canned with closed := true })

end Canned
end TextQuest.Bridge
