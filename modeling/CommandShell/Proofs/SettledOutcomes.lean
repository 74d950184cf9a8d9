import CommandShell.CommandLine
import CommandShell.Proofs.ValidatedCalls

/-!
# Failures are reported

Settling brings the parts of an outcome into agreement, whatever a handler has put
into them, and keeps what the handler has said of a failure.  The three readers of
an outcome look at different parts of it: what is shown follows the success, the
text follows the description, and the program ends with the exit code.  Since the
parts agree, a failure is shown as one error, and no byte of its exit code is zero.
-/

namespace CommandShell

namespace Outcome

/-! ## Outcomes that agree with themselves -/

/-- Holds when success, exit code and description follow the status. -/
structure Agrees (outcome : Outcome) : Prop where
  succeeded : outcome.succeeded = true ↔ outcome.status = .success
  exitCode : outcome.succeeded = false → outcome.exitCode ≠ 0
  error : outcome.succeeded = false → outcome.error.isSome = true

theorem agrees_silent : silent.Agrees where
  succeeded := by decide
  exitCode := by decide
  error := by decide

theorem agrees_failure (status : Status) (message : String) : (failure status message).Agrees where
  succeeded := beq_iff_eq
  exitCode := by
    intro failed zero
    have differs : status ≠ .success := beq_eq_false_iff_ne.mp failed
    exact differs (status.code_eq_zero_iff.mp zero)
  error := fun _ => rfl

/-- Settling brings the parts of any outcome into agreement. -/
theorem agrees_settled (outcome : Outcome) : outcome.settled.Agrees := by
  unfold settled
  split
  · rename_i good
    constructor
    · exact iff_of_true rfl good
    · intro failed
      cases failed
    · intro failed
      cases failed
  · rename_i bad
    constructor
    · exact iff_of_false Bool.false_ne_true bad
    · intro failed
      dsimp only
      split
      · exact mt outcome.status.code_eq_zero_iff.mp bad
      · assumption
    · intro failed
      rfl

/-- An outcome that agrees with itself is settled already. -/
theorem Agrees.settled_eq {outcome : Outcome} (agrees : outcome.Agrees) :
    outcome.settled = outcome := by
  unfold settled
  split
  · rename_i good
    rw [← agrees.succeeded.mpr good]
  · rename_i bad
    have failed : outcome.succeeded = false := by
      rw [← Bool.not_eq_true]
      exact mt agrees.succeeded.mp bad
    obtain ⟨message, described⟩ := Option.isSome_iff_exists.mp (agrees.error failed)
    rw [if_neg (agrees.exitCode failed), described, Option.getD_some, ← described, ← failed]

/-- What is kept of an answer when it is settled; of a success that is all but its flag. -/
structure Keeps (answer outcome : Outcome) : Prop where
  success : answer.status = .success → outcome = { answer with succeeded := true }
  status : outcome.status = answer.status
  output : outcome.output = answer.output
  exits : outcome.exits = answer.exits
  exitCode : answer.exitCode ≠ 0 → outcome.exitCode = answer.exitCode
  error : answer.error.isSome = true → outcome.error = answer.error

theorem keeps_settled (answer : Outcome) : answer.Keeps answer.settled := by
  unfold settled
  split
  · exact ⟨fun _ => rfl, rfl, rfl, rfl, fun _ => rfl, fun _ => rfl⟩
  · rename_i bad
    refine ⟨fun good => absurd good bad, rfl, rfl, rfl, ?_, ?_⟩
    · intro nonzero
      exact if_neg nonzero
    · intro described
      obtain ⟨message, described⟩ := Option.isSome_iff_exists.mp described
      simp only [described, Option.getD_some]

end Outcome

/-! ## What is shown of an outcome -/

namespace Output

theorem endLine_cases (text : String) :
    (endLine text = text ∨ endLine text = text ++ "\n") ∧
      (endLine text).toList.getLast? = some '\n' := by
  unfold endLine
  split
  · rename_i ended
    exact ⟨Or.inl rfl, ended⟩
  · constructor
    · exact Or.inr rfl
    · simp

end Output

namespace Outcome

/-- A failure that is shown as one error with its description, and as nothing else. -/
structure ReportsFailure (outcome : Outcome) (message : String) : Prop where
  exitCode : outcome.exitCode ≠ 0
  error : outcome.error = some message
  message? : outcome.message? = some message
  shown : Output.ofOutcome outcome = { errors := "\x1b[31mError: " ++ message ++ "\x1b[0m\n" }

/-- A success that shows its output, if it has one, with a line end, and no error. -/
structure ReportsSuccess (outcome : Outcome) : Prop where
  noErrors : (Output.ofOutcome outcome).errors = ""
  silent : outcome.output = none → (Output.ofOutcome outcome).shown = ""
  output : ∀ text, outcome.output = some text →
    ((Output.ofOutcome outcome).shown = text ∨ (Output.ofOutcome outcome).shown = text ++ "\n") ∧
      (Output.ofOutcome outcome).shown.toList.getLast? = some '\n'

theorem Agrees.reportsFailure {outcome : Outcome} (agrees : outcome.Agrees)
    (failed : outcome.succeeded = false) : ∃ message, outcome.ReportsFailure message := by
  obtain ⟨message, described⟩ := Option.isSome_iff_exists.mp (agrees.error failed)
  have told : outcome.message? = some message := by
    simp only [Outcome.message?, failed, described, Bool.false_eq_true, if_false, Option.some_or]
  refine ⟨message, agrees.exitCode failed, described, told, ?_⟩
  simp only [Output.ofOutcome, failed, told, Bool.false_eq_true, if_false]
  rfl

theorem reportsSuccess {outcome : Outcome} (succeeded : outcome.succeeded = true) :
    outcome.ReportsSuccess := by
  cases output : outcome.output with
  | none =>
      have shown : Output.ofOutcome outcome = {} := by
        simp only [Output.ofOutcome, succeeded, output, if_true]
      constructor
      · rw [shown]
      · intro absent
        rw [shown]
      · intro text present
        rw [output] at present
        cases present
  | some text =>
      have shown : Output.ofOutcome outcome = { shown := Output.endLine text } := by
        simp only [Output.ofOutcome, succeeded, output, if_true]
      constructor
      · rw [shown]
      · intro absent
        rw [output] at absent
        cases absent
      · intro other present
        obtain rfl := Option.some.inj (output.symm.trans present)
        rw [shown]
        exact Output.endLine_cases text

end Outcome

/-! ## Exit codes of the program -/

namespace CommandLine

/-- The byte of an exit code is a byte, and zero for zero alone. -/
theorem exitByte_cases (code : Int) : exitByte code < 256 ∧ (exitByte code = 0 ↔ code = 0) := by
  unfold exitByte
  split
  · rename_i inRange
    rw [Bool.and_eq_true, decide_eq_true_eq, decide_eq_true_eq] at inRange
    omega
  · rename_i outside
    rw [Bool.and_eq_true, decide_eq_true_eq, decide_eq_true_eq] at outside
    omega

/-- No code is cut down to its last byte. -/
example : exitByte 256 = 1 ∧ exitByte (-256) = 1 := by decide

end CommandLine

/-! ## Lines -/

namespace Session

/-- However a line is answered, the parts of its outcome agree. -/
theorem Answers.agrees {session : Session} {line : String} {calls : List Call}
    {result : Session × Outcome} (answers : session.Answers line calls result) :
    result.2.Agrees := by
  cases answers with
  | blank white => exact Outcome.agrees_silent
  | rejected dark refused shown => exact Outcome.agrees_failure .commandFailed _
  | called dark read registered valid => exact Outcome.agrees_settled _

/-- The outcome of a line keeps what the called handler has answered. -/
theorem Answers.keeps {session : Session} {line : String} {calls : List Call}
    {result : Session × Outcome} (answers : session.Answers line calls result) :
    ∀ call ∈ calls, call.answer.1.Keeps result.2 := by
  intro call member
  cases answers with
  | blank white => cases member
  | rejected dark refused shown => cases member
  | called dark read registered valid =>
      obtain rfl := List.mem_singleton.mp member
      exact Outcome.keeps_settled _

/--
What holds of the result of a line: the outcome says of itself whether the line
failed, and so do the streams and, where the program was started for this line,
the code that the program ends with.  The streams have what is shown for the
line; records of the journal are told apart from it.
-/
structure Reports (session : Session) (line : String) (result : Session × Outcome) : Prop where
  succeeded : result.2.succeeded = true ↔ result.2.status = .success
  failure : result.2.succeeded = false → ∃ message, result.2.ReportsFailure message
  success : result.2.succeeded = true → result.2.ReportsSuccess
  settled : result.2.settled = result.2
  kept : ∃ calls, session.Answers line calls result ∧
    ∀ call ∈ calls, call.answer.1.Keeps result.2
  program : ∀ {arguments : List String} {environment : Environment} {store : FileStore}
    (input : String), CommandLine.task arguments environment store = .ok (.single session line) →
      (CommandLine.run arguments environment store input).output = .ofOutcome result.2 ∧
        (result.2.succeeded = false → (CommandLine.run arguments environment store input).code ≠ 0)

/--
In every session and whatever the handlers answer, no failure is silent and none
looks like a success.  A code becomes the byte zero only if it is zero.
-/
theorem reports_execute (session : Session) (line : String) :
    session.Reports line (session.execute line) ∧
      ∀ code : Int, CommandLine.exitByte code < 256 ∧
        (CommandLine.exitByte code = 0 ↔ code = 0) := by
  obtain ⟨calls, answers⟩ := session.exists_answers_execute line
  have agrees := answers.agrees
  refine ⟨⟨agrees.succeeded, agrees.reportsFailure, Outcome.reportsSuccess, agrees.settled_eq,
    ⟨calls, answers, answers.keeps⟩, ?_⟩, CommandLine.exitByte_cases⟩
  intro arguments environment store input single
  have ran : CommandLine.run arguments environment store input =
      CommandLine.runLine session line store := by
    rw [CommandLine.task] at single
    simp only [CommandLine.run, CommandLine.runBy, single]
  rw [ran]
  constructor
  · rfl
  · intro failed zero
    exact agrees.exitCode failed ((CommandLine.exitByte_cases _).2.mp zero)

end Session

end CommandShell
