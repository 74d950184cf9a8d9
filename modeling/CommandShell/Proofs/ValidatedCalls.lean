import CommandShell.Proofs.FlagSyntax
import CommandShell.Proofs.LineGrammar
import CommandShell.Session

/-!
# Handlers are called with validated invocations only

Running a line calls no handler when the line is blank or cannot be read, and
otherwise the one handler that is registered under the command of the line.
What that handler is given satisfies the schema of its command.
-/

namespace CommandShell

open Text (isBlank isBlankLine)

/-! ## Blank lines -/

theorem Text.isBlankLine_iff (line : String) :
    isBlankLine line = true ↔ ∀ c ∈ line.toList, isBlank c = true :=
  List.all_eq_true

namespace Token

/-- A line has no tokens exactly when it is blank. -/
theorem scan_eq_nil_iff (line : String) : scan line = .ok [] ↔ isBlankLine line = true := by
  rw [Text.isBlankLine_iff]
  constructor
  · intro empty
    obtain ⟨layout, written, tokens⟩ := exists_layout_of_scanChars empty
    have noWords : layout.words = [] := List.map_eq_nil_iff.mp tokens
    rw [← written, Layout.written, noWords, List.flatMap_nil, List.append_nil]
    exact layout.lead.blank
  · intro blank
    have written := scanChars_written ⟨⟨line.toList, blank⟩, [], by simp⟩
    simpa [scan, Layout.written, Layout.tokens] using written

/-- Reading tokens of any line does not ask for a token. -/
theorem scan_ne_emptyLine (line : String) : scan line ≠ .error .emptyLine := by
  unfold scan scanChars Scanner.finish
  split <;> simp

/-- On a line that is not blank, a token need not be asked for. -/
theorem scanSome_eq_scan {line : String} (dark : isBlankLine line = false) :
    scanSome line = scan line := by
  unfold scanSome
  split
  · rename_i empty
    rw [(scan_eq_nil_iff line).mp empty] at dark
    cases dark
  · rfl

end Token

/-! ## Errors that no line gives -/

namespace Schema

theorem readItems_ne_noCommand (schema : Schema) (tokens : List Token) :
    schema.readItems tokens ≠ .error .noCommand := by
  intro refused
  fun_induction schema.readItems tokens with
  | case1 => cases refused
  | case2 token rest noFlag ih => exact ih (eq_error_of_map_eq_error refused)
  | case3 => cases refused
  | case4 token rest reference refers flag resolves type ih =>
      exact ih (eq_error_of_map_eq_error refused)
  | case5 => cases refused
  | case6 => cases refused
  | case7 token reference refers flag resolves type operand rest value readValue ih =>
      exact ih (eq_error_of_map_eq_error refused)

theorem invocationOf_ne_noCommand (schema : Schema) (items : List Item) :
    schema.invocationOf items ≠ .error .noCommand := by
  unfold invocationOf
  dsimp only
  split
  · simp
  · split <;> simp

theorem read_ne_noCommand (schema : Schema) (tokens : List Token) :
    schema.read tokens ≠ .error .noCommand := by
  intro refused
  cases read : schema.readItems tokens with
  | error error =>
      rw [Schema.read, read] at refused
      have same : error = .noCommand := Except.error.inj refused
      exact schema.readItems_ne_noCommand tokens (same ▸ read)
  | ok items =>
      rw [Schema.read, read] at refused
      exact schema.invocationOf_ne_noCommand items refused

end Schema

namespace Registry

theorem readTokens_cons_ne_noCommand (registry : Registry) (head : Token) (rest : List Token) :
    registry.readTokens (head :: rest) ≠ .error .noCommand := by
  rw [readTokens]
  cases registry.schema? head.text with
  | none => simp
  | some schema => exact schema.read_ne_noCommand rest

/-- The faults of a line that is not blank never say that a token or a command is missing. -/
theorem readLine_error_of_not_blank (registry : Registry) {line : String} {error : LineError}
    (dark : isBlankLine line = false) (refused : registry.readLine line = .error error) :
    error ≠ .lexical .emptyLine ∧ error ≠ .reading .noCommand := by
  unfold readLine at refused
  rw [Token.scanSome_eq_scan dark] at refused
  split at refused
  · rename_i fault scanned
    obtain rfl := Except.error.inj refused
    refine ⟨?_, by simp⟩
    intro same
    obtain rfl := LineError.lexical.inj same
    exact Token.scan_ne_emptyLine line scanned
  · rename_i tokens scanned
    split at refused
    · rename_i fault read
      obtain rfl := Except.error.inj refused
      refine ⟨by simp, ?_⟩
      intro same
      obtain rfl := LineError.reading.inj same
      cases tokens with
      | nil =>
          rw [(Token.scan_eq_nil_iff line).mp scanned] at dark
          cases dark
      | cons head rest => exact registry.readTokens_cons_ne_noCommand head rest read
    · cases refused

end Registry

/-! ## What a schema promises of an invocation -/

/-- Reading a value gives a value of the type that was asked for. -/
theorem Value.type_of_read? {text : String} {type : ValueType} {value : Value}
    (read : Value.read? text type = some value) : value.type = type := by
  cases type with
  | text =>
      obtain rfl := Option.some.inj read
      rfl
  | integer =>
      obtain ⟨number, -, rfl⟩ := Option.map_eq_some_iff.mp read
      rfl
  | real =>
      obtain ⟨number, -, rfl⟩ := Option.map_eq_some_iff.mp read
      rfl
  | switch =>
      obtain ⟨on, -, rfl⟩ := Option.map_eq_some_iff.mp read
      rfl

/-- What a handler can rely on when it is given an invocation that was read from a line. -/
structure Schema.Validates (schema : Schema) (line : String) (invocation : Invocation) :
    Prop where
  command : invocation.command = schema.name
  least : schema.arity.min ≤ invocation.arguments.length
  most : schema.arity.max = 0 ∨ invocation.arguments.length ≤ schema.arity.max
  required : ∀ flag ∈ schema.flags, flag.required = true → invocation.hasFlag flag.name = true
  declared : ∀ name value, invocation.flag? name = some value →
    ∃ flag ∈ schema.flags, flag.name = name ∧ value.type = flag.type
  first : (schema.flags.map Flag.name).Nodup → ∀ name value,
    invocation.flag? name = some value →
      ∃ flag, schema.findFlag? name = some flag ∧ value.type = flag.type
  line : invocation.line = some line

namespace Schema

theorem FirstFlag.mem {schema : Schema} {holds : Flag → Prop} {flag : Flag}
    (first : schema.FirstFlag holds flag) : flag ∈ schema.flags := by
  obtain ⟨-, before, later, flags, -⟩ := first
  rw [flags]
  exact List.mem_append_right before List.mem_cons_self

theorem Resolves.mem {schema : Schema} {reference : FlagReference} {flag : Flag}
    (resolves : schema.Resolves reference flag) : flag ∈ schema.flags := by
  cases reference with
  | long name =>
      have first : schema.FirstFlag (fun flag => flag.name = name) flag := resolves
      exact first.mem
  | short c =>
      have first : schema.FirstFlag (fun flag => flag.short = some c) flag := resolves
      exact first.mem

/-- Every assignment in a division is one of a declared flag, with a value of its type. -/
theorem Divides.declared {schema : Schema} {tokens : List Token} {items : List Item}
    (divides : schema.Divides tokens items) {name : String} {value : Value}
    (member : .assignment name value ∈ items) :
    ∃ flag ∈ schema.flags, flag.name = name ∧ value.type = flag.type := by
  induction divides with
  | done => cases member
  | argument noFlag later ih =>
      rcases List.mem_cons.mp member with same | inLater
      · cases same
      · exact ih inLater
  | @switch token reference flag rest items refers resolves type later ih =>
      rcases List.mem_cons.mp member with same | inLater
      · cases same
        exact ⟨flag, resolves.mem, rfl, type.symm⟩
      · exact ih inLater
  | @valued token operand reference flag read rest items refers resolves type readValue later ih =>
      rcases List.mem_cons.mp member with same | inLater
      · cases same
        exact ⟨flag, resolves.mem, rfl, Value.type_of_read? readValue⟩
      · exact ih inLater

/-- Where long names are distinct, a declared flag is the one that its name finds. -/
theorem findFlag?_of_mem {schema : Schema} (distinct : (schema.flags.map Flag.name).Nodup)
    {flag : Flag} (member : flag ∈ schema.flags) : schema.findFlag? flag.name = some flag := by
  obtain ⟨before, later, split⟩ := List.append_of_mem member
  rw [split, List.map_append, List.nodup_append] at distinct
  rw [findFlag?, List.find?_eq_some_iff_append]
  refine ⟨beq_self_eq_true _, before, later, split, ?_⟩
  intro other inBefore
  have different : other.name ≠ flag.name :=
    distinct.2.2 _ (List.mem_map_of_mem inBefore) _ List.mem_cons_self
  simpa using different

/-- The invocation of a division, with the line that it was read from, is validated. -/
theorem Divides.validates {schema : Schema} {tokens : List Token} {items : List Item}
    (divides : schema.Divides tokens items) {invocation : Invocation}
    (admits : schema.Admits items invocation) (name : invocation.command = schema.name)
    (line : String) : schema.Validates line { invocation with line := some line } where
  command := name
  least := admits.arguments ▸ admits.least
  most := admits.arguments ▸ admits.most
  required := by
    intro flag member needed
    obtain ⟨value, assigned⟩ := admits.required flag member needed
    obtain ⟨last, assigns⟩ := Item.exists_lastAssigns assigned
    have found := (admits.flags flag.name last).mpr assigns
    rw [Invocation.hasFlag, NameTable.contains, found]
    rfl
  declared := by
    intro name value found
    exact divides.declared ((admits.flags name value).mp found).mem
  first := by
    intro distinct name value found
    obtain ⟨flag, member, rfl, type⟩ := divides.declared ((admits.flags name value).mp found).mem
    exact ⟨flag, findFlag?_of_mem distinct member, type⟩
  line := rfl

end Schema

namespace Registry

/-- A line is read as what its tokens are read as, together with the line. -/
theorem readLine_eq_ok_iff (registry : Registry) (line : String) (invocation : Invocation) :
    registry.readLine line = .ok invocation ↔
      ∃ tokens unlined, Token.scanSome line = .ok tokens ∧
        registry.readTokens tokens = .ok unlined ∧
          { unlined with line := some line } = invocation := by
  unfold readLine
  cases Token.scanSome line with
  | error error => simp
  | ok tokens => cases read : registry.readTokens tokens <;> simp [read]

/-- Registries with the same schemas read every line alike. -/
theorem readLine_congr {first second : Registry}
    (schemas : first.commands.map Command.schema = second.commands.map Command.schema)
    (line : String) : first.readLine line = second.readLine line := by
  have sameSchema : ∀ name, first.schema? name = second.schema? name := by
    intro name
    have found := congrArg (NameTable.find? · name) schemas
    simpa [schema?, find?] using found
  have sameTokens : ∀ tokens, first.readTokens tokens = second.readTokens tokens := by
    intro tokens
    cases tokens with
    | nil => rfl
    | cons head rest => simp only [readTokens, sameSchema]
  simp only [readLine, sameTokens]

/--
Holds of registries with the same schemas, and with the same command for the
invocation in a line, if there is one.  Any other handler can differ.
-/
structure AgreesOn (first second : Registry) (line : String) : Prop where
  schemas : first.commands.map Command.schema = second.commands.map Command.schema
  called : ∀ invocation, second.readLine line = .ok invocation →
    first.find? invocation.command = second.find? invocation.command

end Registry

/-- What reading a line gives is an invocation of a registered command, and validated. -/
theorem Registry.validates_of_readLine (registry : Registry) {line : String}
    {invocation : Invocation} (read : registry.readLine line = .ok invocation) :
    ∃ command, registry.find? invocation.command = some command ∧
      command.schema.Validates line invocation := by
  obtain ⟨tokens, unlined, -, readTokens, rfl⟩ :=
    (registry.readLine_eq_ok_iff line invocation).mp read
  obtain ⟨head, tail, command, items, -, found, divides, name, admits⟩ :=
    registry.exists_items_of_readTokens readTokens
  have named := name.trans (registry.name_of_find? found).symm
  exact ⟨command, name ▸ found, divides.validates admits named line⟩

/-! ## What running a line comes down to -/

/-- A call of a handler: the command that it is registered with, and all that it is given. -/
structure Call where
  command : Command
  invocation : Invocation
  view : View
  journal : Journal

namespace Call

/-- What the handler answers. -/
def answer (call : Call) : Outcome × Journal :=
  call.command.handler call.invocation call.view call.journal

/-- The answer after it was settled; a failure is noted. -/
def settled (call : Call) : Outcome × Journal :=
  let outcome := call.answer.1.settled
  (outcome, if outcome.succeeded then call.answer.2 else
    call.answer.2.note .debug
      s!"'{call.invocation.command}' finished with status {outcome.status.describe}")

end Call

namespace Session

/-- The call of a command on an invocation; that it is made is noted. -/
def call (session : Session) (command : Command) (invocation : Invocation) : Call where
  command
  invocation
  view := session.registry.view (some session.history)
  journal := session.journal.note .trace
    s!"executing '{invocation.command}' with {invocation.arguments.length} argument(s)"

/--
The calls of handlers that a line leads to, with the result of running the
line.  Handlers are functions, so the result shows which of them were run: it
holds the answers of the listed calls and of no other.
-/
inductive Answers (session : Session) (line : String) : List Call → Session × Outcome → Prop where
  | blank (white : isBlankLine line = true) : Answers session line [] (session, .silent)
  | rejected {error : LineError} (dark : isBlankLine line = false)
      (refused : session.readLine line = .error error)
      (shown : error ≠ .lexical .emptyLine ∧ error ≠ .reading .noCommand) :
      Answers session line []
        (session.note .debug s!"rejected {Text.quoted line}: {error.message}",
          .failure .commandFailed s!"Parse error: {error.message}")
  | called {invocation : Invocation} {command : Command} (dark : isBlankLine line = false)
      (read : session.readLine line = .ok invocation)
      (registered : session.registry.find? invocation.command = some command)
      (valid : command.schema.Validates line invocation) :
      Answers session line [session.call command invocation]
        ({ session with journal := (session.call command invocation).settled.2 },
          (session.call command invocation).settled.1)

theorem dispatch_eq_settled (session : Session) {command : Command} {invocation : Invocation}
    (registered : session.registry.find? invocation.command = some command) :
    session.registry.dispatch (some session.history) invocation session.journal =
      (session.call command invocation).settled := by
  rw [Registry.dispatch, registered]
  unfold Registry.runHandler Call.settled Call.answer call
  dsimp only
  split <;> simp_all

/-- Running a line makes the calls that it leads to. -/
theorem exists_answers_execute (session : Session) (line : String) :
    ∃ calls, session.Answers line calls (session.execute line) := by
  unfold execute plan
  split
  · rename_i white
    exact ⟨[], .blank white⟩
  · rename_i dark
    rw [Bool.not_eq_true] at dark
    split
    · rename_i error refused
      exact ⟨[], .rejected dark refused
        (session.registry.readLine_error_of_not_blank dark refused)⟩
    · rename_i invocation read
      obtain ⟨command, registered, valid⟩ := session.registry.validates_of_readLine read
      refine ⟨[session.call command invocation], ?_⟩
      rw [carryOut, session.dispatch_eq_settled registered]
      exact .called dark read registered valid

/-- A line that is read as an invocation is not blank. -/
theorem not_isBlankLine_of_readLine {session : Session} {line : String} {invocation : Invocation}
    (read : session.readLine line = .ok invocation) : isBlankLine line = false := by
  rw [← Bool.not_eq_true]
  intro white
  have none : Token.scanSome line = .error .emptyLine := by
    rw [Token.scanSome, (Token.scan_eq_nil_iff line).mpr white]
  rw [readLine, Registry.readLine, none] at read
  cases read

/-- The outcome of a line that is read as an invocation is the settled answer of its command. -/
theorem execute_of_readLine {session : Session} {line : String} {invocation : Invocation}
    {command : Command} (read : session.readLine line = .ok invocation)
    (registered : session.registry.find? invocation.command = some command) :
    (session.execute line).2 = (session.call command invocation).answer.1.settled := by
  have planned : session.plan line = .dispatch invocation := by
    rw [plan, not_isBlankLine_of_readLine read, if_neg Bool.false_ne_true, read]
  rw [execute, planned, carryOut, session.dispatch_eq_settled registered]
  rfl

/-! ## Other handlers do not matter -/

/--
Running a line depends on the schemas of the registry, and on no handler but
the one of the invocation in the line: with any others the result is the same.
-/
theorem execute_congr {session : Session} {registry : Registry} {line : String}
    (agrees : registry.AgreesOn session.registry line) :
    { session with registry }.execute line =
      ({ (session.execute line).1 with registry }, (session.execute line).2) := by
  have sameReading : registry.readLine line = session.registry.readLine line :=
    Registry.readLine_congr agrees.schemas line
  have sameView : registry.view (some session.history) =
      session.registry.view (some session.history) :=
    congrArg (View.mk · (some session.history)) agrees.schemas
  unfold execute plan readLine
  rw [sameReading]
  by_cases white : isBlankLine line = true
  · rw [if_pos white]
    rfl
  · rw [if_neg white]
    cases read : session.registry.readLine line with
    | error error => rfl
    | ok invocation =>
        have sameCommand := agrees.called invocation read
        simp only [carryOut, Registry.dispatch, sameCommand, sameView]

/-! ## Running and submitting -/

/-- The session after a line was entered into the history, unless it is blank. -/
def recording (session : Session) (line : String) : Session :=
  if isBlankLine line then session else session.remember line

theorem submit_eq_execute_recording (session : Session) (line : String) :
    session.submit line = (session.recording line).execute line := by
  unfold submit recording
  split <;> rfl

/--
In every session a line leads to a call of a handler only when it is read as
an invocation, and then to the one call of the registered command, with an
invocation that the schema validates; no other handler has a part in the result.
This holds of running a line and, after the line was recorded, of submitting it.
-/
theorem answers_with_validated_calls (session : Session) (line : String) :
    (∃ calls, session.Answers line calls (session.execute line)) ∧
      (∃ calls, (session.recording line).Answers line calls (session.submit line)) ∧
      (∀ registry : Registry, registry.AgreesOn session.registry line →
        { session with registry }.execute line =
          ({ (session.execute line).1 with registry }, (session.execute line).2)) ∧
      (Token.scan line = .ok [] ↔ isBlankLine line = true) := by
  refine ⟨session.exists_answers_execute line, ?_, ?_, Token.scan_eq_nil_iff line⟩
  · rw [submit_eq_execute_recording]
    exact (session.recording line).exists_answers_execute line
  · intro registry agrees
    exact execute_congr agrees

/-- A command without flags that always answers the same. -/
def constant (name : String) (outcome : Outcome) : Command :=
  ⟨{ name }, fun _ _ journal => (outcome, journal)⟩

/-- A session whose command for resting is silent, and whose command for waking is free. -/
def restOrWake (waking : Outcome) : Session where
  settings := .ephemeral
  environment := {}
  registry := (Registry.empty.insert (constant "rest" .silent) (by simp [constant, Command.name]))
    |>.insert (constant "wake" waking) (by simp [constant, Command.name])
  completion := .empty
  history := ⟨1, Nat.one_pos, []⟩
  epoch := 0
  journal := {}

/-- Resting does not depend on what waking would do. -/
theorem rest_regardless_of_waking :
    (restOrWake (.success "up")).registry.AgreesOn (restOrWake .silent).registry "rest" ∧
      { restOrWake .silent with registry := (restOrWake (.success "up")).registry }.execute "rest" =
        ({ ((restOrWake .silent).execute "rest").1 with
            registry := (restOrWake (.success "up")).registry },
          ((restOrWake .silent).execute "rest").2) := by
  have agrees :
      (restOrWake (.success "up")).registry.AgreesOn (restOrWake .silent).registry "rest" := by
    refine ⟨rfl, ?_⟩
    intro invocation read
    have resting : (restOrWake .silent).registry.readLine "rest" =
        .ok { command := "rest", line := some "rest" } := rfl
    obtain rfl := Except.ok.inj (resting.symm.trans read)
    rfl
  exact ⟨agrees,
    (answers_with_validated_calls (restOrWake .silent) "rest").2.2.1 _ agrees⟩

end Session

end CommandShell
