import TextQuest.Agent
import TextQuest.Random.Draw

namespace TextQuest.Agent
open TextQuest.Random

def random : Agent Generator where
  name := "random"
  decide observation g :=
    match observation.state.admissibleCommands with
    | [] => ⟨.error .noAdmissibleCommands, g, []⟩
    | first :: rest =>
      let (index, g) := g.below (rest.length + 1)
      ⟨.ok ((first :: rest).getD index first), g, []⟩

end TextQuest.Agent
