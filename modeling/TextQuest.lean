import TextQuest.Text.Alphanumeric
import TextQuest.Text.Blank
import TextQuest.Text.Quoted
import TextQuest.Text.Lowercase
import TextQuest.Outcome
import TextQuest.GameState
import TextQuest.Glob.Search
import TextQuest.Decimal.Fixed
import TextQuest.Decimal.Shortest
import TextQuest.Decimal.Single
import TextQuest.Agent.Random
import TextQuest.Agent.Fixed
import TextQuest.Agent.Walkthrough
import TextQuest.Run.Train
import TextQuest.Json.Game
import TextQuest.Bridge.Engine
import TextQuest.Bridge.Canned
import TextQuest.Script.Session
import TextQuest.Rehearsal
import TextQuest.Script.Document
import TextQuest.Agent.Neural
import TextQuest.Neural.Checkpoint
import TextQuest.Config.Document
import TextQuest.Generation.Maker
import TextQuest.CommandLine.Gym
import TextQuest.CommandLine.Make
import TextQuest.Main
import TextQuest.Proofs.Run.Conduct
import TextQuest.Proofs.Run.Lawful
import TextQuest.Proofs.Run.Sessions
import TextQuest.Proofs.Run.FirstFailure
import TextQuest.Proofs.Run.Training
import TextQuest.Proofs.Run.Schedule
import TextQuest.Proofs.Run.Cancellation
import TextQuest.Proofs.Run.Calls
import TextQuest.Proofs.Run.Alternation
import TextQuest.Proofs.Quest.Sound
import TextQuest.Proofs.Quest.History
import TextQuest.Proofs.Agent.Choice
import TextQuest.Proofs.Run.Success
import TextQuest.Proofs.Quest.Accounting
import TextQuest.Proofs.Run.Pause
import TextQuest.Proofs.Run.Progress
import TextQuest.Proofs.Run.Interruption
import TextQuest.Proofs.Quest.Walkthrough
import TextQuest.Proofs.Quest.Reuse
import TextQuest.Proofs.Neural.Credit
import TextQuest.Proofs.Run.Leads
import TextQuest.Proofs.Neural.Episodes
import TextQuest.Proofs.Run.Ending
import TextQuest.Proofs.Neural.Safety
import TextQuest.Proofs.Bridge.Transparency
import TextQuest.Proofs.Quest.Roles
import TextQuest.Proofs.Neural.Statistics
import TextQuest.Proofs.Quest.Switches
import TextQuest.Proofs.CommandLine.Scanning
import TextQuest.Proofs.CommandLine.Override
import TextQuest.Proofs.Run.Budget
import TextQuest.Proofs.Run.Rearrangement
import TextQuest.Proofs.Bridge.WireForm
import TextQuest.Proofs.Neural.Evaluation
import TextQuest.Proofs.Neural.Gradient
import TextQuest.Proofs.Neural.Words
import TextQuest.Proofs.Bridge.Framing
import TextQuest.Proofs.CommandLine.Making
import TextQuest.Proofs.Generation.Challenge
import TextQuest.Proofs.Generation.Arguments
import TextQuest.Proofs.Decimal.Bits
import TextQuest.Proofs.Decimal.Rounding
import TextQuest.Proofs.Decimal.Shortest
import TextQuest.Proofs.Decimal.Spelling
import TextQuest.Proofs.Ron.Spelling
import TextQuest.Proofs.Ron.Lexeme
import TextQuest.Proofs.Ron.Reading
import TextQuest.Proofs.FileTree
import TextQuest.Proofs.Config.Partial
import TextQuest.Proofs.Neural.Checkpoint
import TextQuest.Proofs.Text.ByteOrder
import TextQuest.Proofs.Text.Blank
import TextQuest.Proofs.Quest.Offers
import TextQuest.Proofs.Generation.Output
import TextQuest.Proofs.CommandLine.Checkpoint
import TextQuest.Proofs.Neural.Windows
import TextQuest.Proofs.Decimal.Order
import TextQuest.Proofs.Decimal.Sums
import TextQuest.Proofs.Neural.Greedy
