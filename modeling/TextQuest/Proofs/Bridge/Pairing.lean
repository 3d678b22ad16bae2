import Mathlib.Data.List.Infix
import TextQuest.Bridge.Canned
import TextQuest.Proofs.Bridge.Answer
import TextQuest.Proofs.Bridge.Request

namespace TextQuest.Bridge

variable {π : Type}

/-! ## Lines of bytes -/

def linesOf : List UInt8 → List (List UInt8)
  | [] => []
  | byte :: rest =>
    if byte = 0x0a then [byte] :: linesOf rest
    else match linesOf rest with
      | [] => [[byte]]
      | line :: later => (byte :: line) :: later

namespace Connection

theorem linesOf_parts (bytes : List UInt8) :
    (linesOf bytes).getD 0 [] = (takeLine bytes).1 ∧ (linesOf bytes).drop 1 = linesOf (takeLine bytes).2 := by
  induction bytes with
  | nil => exact ⟨rfl, rfl⟩
  | cons byte rest ih =>
    rw [linesOf, takeLine]
    split
    · exact ⟨rfl, rfl⟩
    · cases lines : linesOf rest <;> simp_all

theorem flatten_linesOf (bytes : List UInt8) : (linesOf bytes).flatten = bytes := by
  induction bytes with
  | nil => rfl
  | cons byte rest ih =>
    unfold linesOf
    split
    · simp [ih]
    · cases lines : linesOf rest with
      | nil => rw [lines] at ih; simp [← ih]
      | cons line later => rw [lines] at ih; simpa using ih

theorem takeLine_append {bytes : List UInt8} (ended : 0x0a ∈ bytes) (more : List UInt8) :
    takeLine (bytes ++ more) = ((takeLine bytes).1, (takeLine bytes).2 ++ more) := by
  induction bytes with
  | nil => simp at ended
  | cons byte rest ih =>
    by_cases feed : byte = 0x0a
    · simp [takeLine, feed]
    · have later : 0x0a ∈ rest := by simpa [Ne.symm feed] using ended
      simp [takeLine, feed, ih later]

theorem count_takeLine {bytes : List UInt8} (ended : 0x0a ∈ bytes) :
    bytes.count 0x0a = (takeLine bytes).2.count 0x0a + 1 := by
  induction bytes with
  | nil => simp at ended
  | cons byte rest ih =>
    by_cases feed : byte = 0x0a
    · simp [takeLine, feed]
    · have later : 0x0a ∈ rest := by simpa [Ne.symm feed] using ended
      simpa [takeLine, feed, List.count_cons_of_ne feed] using ih later

end Connection

/-! ## What a program writes -/

namespace Program

variable (program : Program π)

def after (lines : List String) (state : π) : π :=
  lines.foldl (fun state line => (program.hear line state).2) state

def staysOpen : Bool → List String → π → Bool
  | isOpen, [], _ => isOpen
  | isOpen, line :: rest, state =>
    let (written, state) := program.hear line state
    staysOpen (isOpen && !written.closes) rest state

def output : Bool → List String → π → List UInt8
  | _, [], _ => []
  | isOpen, line :: rest, state =>
    let (written, state) := program.hear line state
    (if isOpen then written.bytes else []) ++ output (isOpen && !written.closes) rest state

def told (unread : List UInt8) (isOpen : Bool) (heard : Written × π) : List UInt8 :=
  unread ++ (if isOpen then heard.1.bytes else [])

theorem output_cons (isOpen : Bool) (line : String) (rest : List String) (state : π)
    (unread : List UInt8) :
    unread ++ program.output isOpen (line :: rest) state =
      told unread isOpen (program.hear line state) ++
        program.output (isOpen && !(program.hear line state).1.closes) rest
          (program.hear line state).2 :=
  (List.append_assoc _ _ _).symm

theorem staysOpen_false (lines : List String) (state : π) :
    program.staysOpen false lines state = false := by
  induction lines generalizing state with
  | nil => rfl
  | cons line rest ih => exact ih _

theorem output_false (lines : List String) (state : π) : program.output false lines state = [] := by
  induction lines generalizing state with
  | nil => rfl
  | cons line rest ih => exact ih _

end Program

/-! ## Pairing -/

variable {program : Program π}

theorem serve_open (program : Program π) (request : Request) (state : π) (unread : List UInt8)
    (isOpen : Bool) {heard : Written × π} (hears : program.hear request.line state = heard) :
    (Connection.session program).serve request ⟨state, unread, isOpen, false⟩ =
      (request.answered (Connection.takeLine (Program.told unread isOpen heard)).1,
        ⟨heard.2, (Connection.takeLine (Program.told unread isOpen heard)).2,
          isOpen && !heard.1.closes, request = .close⟩) := by
  subst hears
  cases request with
  | call call => rfl
  | close => rfl

theorem serve_closed (program : Program π) (request : Request) {connection : Connection π}
    (closed : connection.closed = true) :
    (Connection.session program).serve request connection = (request.refused, connection) := by
  cases request with
  | call call =>
    simp [Session.serve, Connection.session, Connection.request, closed, Request.refused, Except.bind]
  | close => simp [Session.serve, Connection.session, closed, Request.refused]

theorem serveAll_closed (program : Program π) (requests : List Request) {connection : Connection π}
    (closed : connection.closed = true) :
    (Connection.session program).serveAll requests connection =
      (requests.map Request.refused, connection) := by
  induction requests with
  | nil => rfl
  | cons request rest ih => simp [Session.serveAll, serve_closed program request closed, ih]

theorem linesOf_whole {told later : List UInt8} (comes : 0x0a ∈ told ∨ later = []) :
    (linesOf (told ++ later)).getD 0 [] = (Connection.takeLine told).1 ∧
      (linesOf (told ++ later)).drop 1 = linesOf ((Connection.takeLine told).2 ++ later) := by
  rcases comes with ended | rfl
  · simpa only [Connection.takeLine_append ended] using Connection.linesOf_parts (told ++ later)
  · simpa only [List.append_nil] using Connection.linesOf_parts told

/-- A call comes back as soon as the program has written its line or closed its output. -/
def Program.Returns (program : Program π) (unread : List UInt8) (isOpen : Bool) (lines : List String)
    (state : π) : Prop :=
  ∀ told, told <+: lines → program.staysOpen isOpen told state = true →
    told.length ≤ (unread ++ program.output isOpen told state).count 0x0a

theorem Program.Returns.step {unread : List UInt8} {isOpen : Bool} {line : String}
    {lines : List String} {state : π} (returns : program.Returns unread isOpen (line :: lines) state)
    {heard : Written × π} (hears : program.hear line state = heard) :
    (0x0a ∈ told unread isOpen heard ∨ (isOpen && !heard.1.closes) = false) ∧
      program.Returns (Connection.takeLine (told unread isOpen heard)).2
        (isOpen && !heard.1.closes) lines heard.2 := by
  subst hears
  have comes : 0x0a ∈ told unread isOpen (program.hear line state) ∨
      (isOpen && !(program.hear line state).1.closes) = false := by
    cases stays : isOpen && !(program.hear line state).1.closes with
    | false => exact .inr rfl
    | true =>
      have arrived := returns [line] (by simp) stays
      rw [output_cons, output, List.append_nil] at arrived
      exact .inl (List.count_pos_iff.mp arrived)
  refine ⟨comes, fun further within stays => ?_⟩
  rcases comes with ended | shut
  · have arrived := returns (line :: further) (List.cons_prefix_cons.mpr ⟨rfl, within⟩) stays
    rw [output_cons, List.count_append, List.length_cons, Connection.count_takeLine ended] at arrived
    rw [List.count_append]
    omega
  · rw [shut, Program.staysOpen_false] at stays
    contradiction

structure Paired (program : Program π) (lines : List (List UInt8)) (made : List Request) (start : π)
    (served : List Entry × Connection π) : Prop where
  entries : served.1 = made.mapIdx fun number request => request.answered (lines.getD number [])
  written : served.2.program = program.after (made.map Request.line) start
  unread : served.2.unread = (lines.drop made.length).flatten

namespace Paired

theorem nil (connection : Connection π) :
    Paired program (linesOf connection.unread) [] connection.program ([], connection) :=
  ⟨rfl, rfl, (Connection.flatten_linesOf _).symm⟩

theorem cons {lines : List (List UInt8)} {made : List Request} {state : π}
    {served : List Entry × Connection π} (request : Request)
    (paired : Paired program (lines.drop 1) made (program.hear request.line state).2 served) :
    Paired program lines (request :: made) state
      (request.answered (lines.getD 0 []) :: served.1, served.2) where
  entries := by
    rw [paired.entries, List.mapIdx_cons]
    simp only [List.getD_eq_getElem?_getD, List.getElem?_drop, Nat.add_comm 1]
  written := paired.written
  unread := by rw [paired.unread, List.drop_drop, List.length_cons, Nat.add_comm 1]

theorem serveAll_cons {request : Request} {made : List Request} {state : π} {unread : List UInt8}
    {isOpen : Bool} (returns : program.Returns unread isOpen ((request :: made).map Request.line) state)
    (rest : ∀ unread isOpen state, program.Returns unread isOpen (made.map Request.line) state →
      Paired program (linesOf (unread ++ program.output isOpen (made.map Request.line) state)) made state
        ((Connection.session program).serveAll made ⟨state, unread, isOpen, request = .close⟩)) :
    Paired program
      (linesOf (unread ++ program.output isOpen ((request :: made).map Request.line) state))
      (request :: made) state
      ((Connection.session program).serveAll (request :: made) ⟨state, unread, isOpen, false⟩) := by
  generalize hears : program.hear request.line state = heard
  obtain ⟨comes, returns⟩ := returns.step hears
  obtain ⟨first, others⟩ := linesOf_whole (comes.imp_right fun shut =>
    show program.output (isOpen && !heard.1.closes) (made.map Request.line) heard.2 = [] by
      rw [shut, Program.output_false])
  have later := rest _ _ _ returns
  rw [← others, ← hears] at later
  have paired := later.cons
  rw [List.map_cons, Program.output_cons, Session.serveAll, serve_open program request state unread isOpen hears]
  subst hears
  rw [first] at paired
  exact paired

end Paired

theorem paired_serveAll (program : Program π) (requests : List Request) (state : π)
    (unread : List UInt8) (isOpen : Bool)
    (returns : program.Returns unread isOpen ((upToClose requests).map Request.line) state) :
    Paired program
      (linesOf (unread ++ program.output isOpen ((upToClose requests).map Request.line) state))
      (upToClose requests) state
      ((Connection.session program).serveAll (upToClose requests) ⟨state, unread, isOpen, false⟩) := by
  induction requests generalizing state unread isOpen with
  | nil => simpa [upToClose, Program.output, Session.serveAll] using Paired.nil ⟨state, unread, isOpen, false⟩
  | cons request rest ih =>
    cases request with
    | close =>
      refine Paired.serveAll_cons returns fun unread isOpen state _ => ?_
      simpa [Program.output, Session.serveAll] using Paired.nil ⟨state, unread, isOpen, true⟩
    | call call => exact Paired.serveAll_cons returns fun unread isOpen state => ih state unread isOpen

theorem closed_serveAll (program : Program π) (requests : List Request) (connection : Connection π) :
    ((Connection.session program).serveAll (upToClose requests) connection).2.closed = true ∨
      upToClose requests = requests := by
  induction requests generalizing connection with
  | nil => exact .inr rfl
  | cons request rest ih =>
    cases request with
    | close =>
      refine .inl ?_
      cases closed : connection.closed with
      | false => simp [upToClose, Session.serveAll, Session.serve, Connection.session, closed]
      | true => simp [upToClose, Session.serveAll, serve_closed program .close closed, closed]
    | call call =>
      exact (ih ((Connection.session program).serve (.call call) connection).2).imp_right
        (congrArg (Request.call call :: ·))

/-- Each request up to the first that closes writes its own line and takes the line of the output with
its number; after that nothing is written or read. -/
theorem requests_pair_with_lines (program : Program π) (start : π) (requests : List Request)
    (returns : program.Returns [] true ((upToClose requests).map Request.line) start) :
    let made := upToClose requests
    let lines := linesOf (program.output true (made.map Request.line) start)
    let served := (Connection.session program).serveAll requests { program := start }
    served.1 = (made.mapIdx fun number request => request.answered (lines.getD number [])) ++
        (requests.drop made.length).map Request.refused ∧
      served.2.program = program.after (made.map Request.line) start ∧
      served.2.unread = (lines.drop made.length).flatten ∧
      (∀ request ∈ made, request.encode = request.line.toList ++ ['\n'] ∧
        '\n' ∉ request.line.toList) ∧
      ∀ line request entry, Answers line request entry ↔ entry = request.answered line := by
  intro made lines served
  have paired := paired_serveAll program requests start [] true returns
  generalize between : (Connection.session program).serveAll made { program := start } = first at paired
  have rest : (Connection.session program).serveAll (requests.drop made.length) first.2 =
      ((requests.drop made.length).map Request.refused, first.2) := by
    rcases closed_serveAll program requests { program := start } with closed | whole
    · rw [between] at closed
      exact serveAll_closed program _ closed
    · simp [made, whole, Session.serveAll]
  have ends : served = (first.1 ++ (requests.drop made.length).map Request.refused, first.2) := by
    have split : made ++ requests.drop made.length = requests :=
      List.prefix_iff_eq_append.mp (begins_upToClose requests)
    simp only [served]
    rw [← split, Session.serveAll_append, between, split, rest]
  rw [ends]
  exact ⟨congrArg (· ++ _) paired.entries, paired.written, paired.unread,
    fun request _ => ⟨request.encode_eq, request.newline_not_mem_line⟩, fun _ _ _ => answers_iff⟩

theorem broken_output_pairs_with_requests :
    let canned : Canned := ⟨[], [.line (Text.encode "[true]\n[true,null,[]]"), .line [], .line [0xff],
      .last (Text.encode "[")], [], false⟩
    let requests : List Request := [.call .activateTracking, .call .reset, .call (.step "look"),
      .call .walkthrough, .call .requestIntermediateRewards, .close, .call .reset, .close]
    let served := (Connection.session Canned.program).serveAll requests { program := canned }
    Canned.program.Returns [] true ((upToClose requests).map Request.line) canned ∧
      served.1 = [.asked .activateTracking (.ok ()), .asked .reset (.ok {}),
        .asked (.step "look") (.error (.protocol .emptyLine)),
        .asked .walkthrough (.error (.file .notText)),
        .asked .requestIntermediateRewards
          (.error (.malformedJson ⟨.listUnclosed, some ⟨1, 1⟩⟩)),
        .closed (.error (.protocol .outputClosed)), .asked .reset (.error .closed), .closed (.ok ())] ∧
      served.2.program.heard.length = 4 ∧ served.2.unread = [] := by
  intro canned requests served
  have returns : Canned.program.Returns [] true ((upToClose requests).map Request.line) canned := by
    intro told within
    have all : ∀ told ∈ ((upToClose requests).map Request.line).inits,
        Canned.program.staysOpen true told canned = true →
          told.length ≤ ([] ++ Canned.program.output true told canned).count 0x0a := by
      decide +kernel
    exact all told ((List.mem_inits _ _).mpr within)
  have pairs := requests_pair_with_lines Canned.program canned requests returns
  refine ⟨returns, ?_, ?_, ?_⟩
  · rw [pairs.1]
    with_unfolding_all rfl
  · rw [pairs.2.1]
    rfl
  · rw [pairs.2.2.1]
    with_unfolding_all rfl

end TextQuest.Bridge
