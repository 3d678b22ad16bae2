import TextQuest.Agent

namespace TextQuest.Agent

/-- The commands that are left; the last one is never used up. -/
def fixed : Agent (List String) where
  name := "fixed"
  decide _ commands :=
    match commands with
    | [] => ⟨.error .noAdmissibleCommands, [], []⟩
    | [command] => ⟨.ok command, [command], []⟩
    | command :: rest => ⟨.ok command, rest, []⟩

end TextQuest.Agent
