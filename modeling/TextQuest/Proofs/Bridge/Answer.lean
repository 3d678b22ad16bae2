import TextQuest.Proofs.Bridge.Conversation
import TextQuest.Proofs.Text.Blank

namespace TextQuest.Bridge

open Text (isBlank)

namespace Request

def failed (error : EngineError) : Request → Entry
  | .call asked => .asked asked (.error error)
  | .close => .closed (.error error)

def answered (line : List UInt8) : Request → Entry
  | .call asked => .asked asked ((Connection.interpret line).bind (·.reply asked))
  | .close => .closed ((Connection.interpret line).map fun _ => ())

def refused : Request → Entry
  | .call asked => .asked asked (.error .closed)
  | .close => .closed (.ok ())

end Request

structure Tells (line : List UInt8) (text : List Char) (response : Response) : Prop where
  isText : Text.decode? line = some text
  unblank : ∃ c ∈ text, isBlank c = false
  reads : Json.read (fun room => (Response.form room).read room) (Text.trimChars text) = .ok response

/-- What becomes of a request, case by case of what the line that answers it holds. -/
inductive Answers (line : List UInt8) : Request → Entry → Prop
  | ended (request : Request) (empty : line = []) :
    Answers line request (request.failed (.protocol .outputClosed))
  | notText (request : Request) (broken : Text.decode? line = none) :
    Answers line request (request.failed (.file .notText))
  | blank (request : Request) (text : List Char) (some : line ≠ [])
      (isText : Text.decode? line = .some text) (blank : ∀ c ∈ text, isBlank c = true) :
    Answers line request (request.failed (.protocol .emptyLine))
  | malformed (request : Request) (text : List Char) (complaint : Json.Complaint)
      (isText : Text.decode? line = some text) (unblank : ∃ c ∈ text, isBlank c = false)
      (fails : Json.read (fun room => (Response.form room).read room) (Text.trimChars text) =
        .error complaint) :
    Answers line request (request.failed (.malformedJson complaint))
  | remote (request : Request) {text : List Char} {response : Response}
      (tells : Tells line text response) (refuses : response.ok = false) :
    Answers line request (request.failed (.remote (response.error.getD "unspecified failure")))
  | closed {text : List Char} {response : Response} (tells : Tells line text response)
      (accepts : response.ok = true) : Answers line .close (.closed (.ok ()))
  | tracking {text : List Char} {response : Response} (tells : Tells line text response)
      (accepts : response.ok = true) :
    Answers line (.call .activateTracking) (.asked .activateTracking (.ok ()))
  | rewards {text : List Char} {response : Response} (tells : Tells line text response)
      (accepts : response.ok = true) :
    Answers line (.call .requestIntermediateRewards) (.asked .requestIntermediateRewards (.ok ()))
  | reset {text : List Char} {response : Response} (state : GameState)
      (tells : Tells line text response) (accepts : response.ok = true)
      (given : response.state = some state) : Answers line (.call .reset) (.asked .reset (.ok state))
  | resetMissing {text : List Char} {response : Response} (tells : Tells line text response)
      (accepts : response.ok = true) (missing : response.state = none) :
    Answers line (.call .reset) (.asked .reset (.error (.protocol .missingState)))
  | step (command : String) {text : List Char} {response : Response} (state : GameState)
      (tells : Tells line text response) (accepts : response.ok = true)
      (given : response.state = some state) :
    Answers line (.call (.step command)) (.asked (.step command) (.ok
      ⟨state, response.reward.getD .neutral, response.done.getD (state.won || state.lost)⟩))
  | stepMissing (command : String) {text : List Char} {response : Response}
      (tells : Tells line text response) (accepts : response.ok = true)
      (missing : response.state = none) :
    Answers line (.call (.step command)) (.asked (.step command) (.error (.protocol .missingState)))
  | walkthrough {text : List Char} {response : Response} (commands : List String)
      (tells : Tells line text response) (accepts : response.ok = true)
      (given : response.commands = some commands) :
    Answers line (.call .walkthrough) (.asked .walkthrough (.ok commands))
  | noWalkthrough {text : List Char} {response : Response} (tells : Tells line text response)
      (accepts : response.ok = true) (missing : response.commands = none) :
    Answers line (.call .walkthrough) (.asked .walkthrough (.error (.unsupported "walkthrough")))

namespace Connection

variable {line : List UInt8} {text : List Char} {response : Response}

theorem interpret_notText (broken : Text.decode? line = none) :
    interpret line = .error (.file .notText) := by
  have some : line ≠ [] := by
    rintro rfl
    simp [Text.decode?, Text.unitsFrom] at broken
  simp [interpret, some, broken]

theorem interpret_text (some : line ≠ []) (isText : Text.decode? line = .some text) :
    interpret line = (Response.decode text).bind Response.accepted := by
  simp [interpret, some, isText]

theorem interpret_blank (some : line ≠ []) (isText : Text.decode? line = .some text)
    (blank : ∀ c ∈ text, isBlank c = true) : interpret line = .error (.protocol .emptyLine) := by
  rw [interpret_text some isText]
  simp [Response.decode, Text.trimChars_eq_nil.mpr blank, Except.bind]

theorem interpret_unblank (isText : Text.decode? line = some text)
    (unblank : ∃ c ∈ text, isBlank c = false) :
    interpret line =
      ((Json.read (fun room => (Response.form room).read room) (Text.trimChars text)).mapError
        .malformedJson).bind Response.accepted := by
  obtain ⟨c, within, unblank⟩ := unblank
  have some : line ≠ [] := by
    rintro rfl
    obtain rfl : text = [] := by simpa [Text.decode?, Text.unitsFrom] using isText.symm
    simp at within
  have trimmed : Text.trimChars text ≠ [] := fun blank => by
    simp [Text.trimChars_eq_nil.mp blank c within] at unblank
  rw [interpret_text some isText]
  simp [Response.decode, trimmed]

theorem interpret_told (tells : Tells line text response) : interpret line = response.accepted := by
  rw [interpret_unblank tells.isText tells.unblank, tells.reads]
  rfl

theorem interpret_accepted (tells : Tells line text response) (accepts : response.ok = true) :
    interpret line = .ok response := by
  simp [interpret_told tells, Response.accepted, accepts]

theorem interpret_refused (tells : Tells line text response) (refuses : response.ok = false) :
    interpret line = .error (.remote (response.error.getD "unspecified failure")) := by
  simp [interpret_told tells, Response.accepted, refuses]

end Connection

theorem Request.answered_error {line : List UInt8} {error : EngineError}
    (fails : Connection.interpret line = .error error) (request : Request) :
    request.answered line = request.failed error := by
  cases request <;> simp [answered, failed, fails, Except.bind, Except.map]

theorem Request.answered_accepted {line : List UInt8} {text : List Char} {response : Response}
    (tells : Tells line text response) (accepts : response.ok = true) (request : Request) :
    request.answered line =
      match request with
      | .call asked => .asked asked (response.reply asked)
      | .close => .closed (.ok ()) := by
  cases request <;> simp [answered, Connection.interpret_accepted tells accepts, Except.bind, Except.map]

section
open Connection

theorem Answers.eq_answered {line : List UInt8} {request : Request} {entry : Entry}
    (answers : Answers line request entry) : entry = request.answered line := by
  cases answers with
  | ended request empty => exact (Request.answered_error (by simp [interpret, empty]) _).symm
  | notText request broken => exact (Request.answered_error (interpret_notText broken) _).symm
  | blank request text some isText blank =>
    exact (Request.answered_error (interpret_blank some isText blank) _).symm
  | malformed request text complaint isText unblank fails =>
    have refuses : interpret line = .error (.malformedJson complaint) := by
      rw [interpret_unblank isText unblank, fails]
      rfl
    exact (Request.answered_error refuses _).symm
  | remote request tells refuses =>
    exact (Request.answered_error (interpret_refused tells refuses) _).symm
  | closed tells accepts => exact (Request.answered_accepted tells accepts .close).symm
  | tracking tells accepts =>
    exact (Request.answered_accepted tells accepts (.call .activateTracking)).symm
  | rewards tells accepts =>
    exact (Request.answered_accepted tells accepts (.call .requestIntermediateRewards)).symm
  | reset state tells accepts given =>
    simp [Request.answered_accepted tells accepts, Response.reply, Response.requireState, given]
  | resetMissing tells accepts missing =>
    simp [Request.answered_accepted tells accepts, Response.reply, Response.requireState, missing]
  | step command state tells accepts given =>
    rw [Request.answered_accepted tells accepts]
    simp only [Response.reply, Response.requireState, given]
    rfl
  | stepMissing command tells accepts missing =>
    rw [Request.answered_accepted tells accepts]
    simp only [Response.reply, Response.requireState, missing]
    rfl
  | walkthrough commands tells accepts given =>
    simp [Request.answered_accepted tells accepts, Response.reply, given]
  | noWalkthrough tells accepts missing =>
    simp [Request.answered_accepted tells accepts, Response.reply, missing]

theorem exists_answers (line : List UInt8) (request : Request) :
    ∃ entry, Answers line request entry := by
  by_cases empty : line = []
  · exact ⟨_, .ended request empty⟩
  cases isText : Text.decode? line with
  | none => exact ⟨_, .notText request isText⟩
  | some text =>
    by_cases blank : ∀ c ∈ text, isBlank c = true
    · exact ⟨_, .blank request text empty isText blank⟩
    have unblank : ∃ c ∈ text, isBlank c = false := by simpa using blank
    cases reads : Json.read (fun room => (Response.form room).read room) (Text.trimChars text) with
    | error complaint => exact ⟨_, .malformed request text complaint isText unblank reads⟩
    | ok response =>
      have tells : Tells line text response := ⟨isText, unblank, reads⟩
      cases accepts : response.ok with
      | false => exact ⟨_, .remote request tells accepts⟩
      | true =>
        cases request with
        | close => exact ⟨_, .closed tells accepts⟩
        | call call =>
          cases call with
          | activateTracking => exact ⟨_, .tracking tells accepts⟩
          | requestIntermediateRewards => exact ⟨_, .rewards tells accepts⟩
          | reset =>
            cases given : response.state with
            | none => exact ⟨_, .resetMissing tells accepts given⟩
            | some state => exact ⟨_, .reset state tells accepts given⟩
          | step command =>
            cases given : response.state with
            | none => exact ⟨_, .stepMissing command tells accepts given⟩
            | some state => exact ⟨_, .step command state tells accepts given⟩
          | walkthrough =>
            cases given : response.commands with
            | none => exact ⟨_, .noWalkthrough tells accepts given⟩
            | some commands => exact ⟨_, .walkthrough commands tells accepts given⟩

theorem answers_iff {line : List UInt8} {request : Request} {entry : Entry} :
    Answers line request entry ↔ entry = request.answered line := by
  constructor
  · exact Answers.eq_answered
  · rintro rfl
    obtain ⟨entry, answers⟩ := exists_answers line request
    exact answers.eq_answered ▸ answers

end

end TextQuest.Bridge
