import CommandShell.Proofs.FreshCompletion
import CommandShell.Proofs.StoredFiles
import CommandShell.Proofs.UsableSettings
import CommandShell.Proofs.ValidatedCalls

/-!
# What a run of the loop reads and leaves

The loop reads what the editor hands out up to the first thing that ends it, and
no further.  The lines that it recalls are the lines that are not blank, and with
these the history grows.  However the loop ends, the session that is left after
the last line is shut down once, and how that goes has no part in the result.
-/

namespace CommandShell

open Text (isBlankLine)

/-! ## What a session makes of the things it is handed -/

/-- The text of a line that was handed out. -/
def EditorEvent.text? : EditorEvent → Option String
  | line text => some text
  | _ => none

/-- The lines that are not blank, as often as they were handed out. -/
def enteredLines (events : List EditorEvent) : List String :=
  (events.filterMap EditorEvent.text?).filter fun text => !isBlankLine text

namespace Session

/-- The session after it was handed something; only lines change it. -/
def after (session : Session) : EditorEvent → Session
  | .line text => (session.submit text).1
  | _ => session

/-- What ends the loop, and with which result. -/
inductive Ends (session : Session) : EditorEvent → Except Fault Int → Prop where
  | line {text : String} (exits : (session.submit text).2.exits = true) :
      Ends session (.line text) (.ok (session.submit text).2.exitCode)
  | closed : Ends session .closed (.ok 0)
  | failed {message : String} : Ends session (.failed message) (.error { cause := .terminal message })

/-- What does not end the loop. -/
inductive GoesOn (session : Session) : EditorEvent → Prop where
  | line {text : String} (stays : (session.submit text).2.exits = false) :
      GoesOn session (.line text)
  | interrupted : GoesOn session .interrupted

/--
The things that a loop reads, with its result and the session that it leaves: it
goes on to the first thing that ends it.
-/
inductive Reads : Session → List EditorEvent → Except Fault Int → Session → Prop where
  | last {session : Session} {event : EditorEvent} {ending : Except Fault Int}
      (ends : session.Ends event ending) : Reads session [event] ending (session.after event)
  | more {session left : Session} {event : EditorEvent} {rest : List EditorEvent}
      {ending : Except Fault Int} (goesOn : session.GoesOn event)
      (later : Reads (session.after event) rest ending left) :
      Reads session (event :: rest) ending left

/-- Running a line changes nothing but the journal. -/
theorem exists_journal_execute (session : Session) (line : String) :
    ∃ journal, (session.execute line).1 = { session with journal } := by
  rw [execute]
  cases session.plan line with
  | nothing => exact ⟨session.journal, rfl⟩
  | reject error => exact ⟨_, rfl⟩
  | dispatch invocation => exact ⟨_, rfl⟩

/-- What is left of a session by the things that it was handed. -/
structure Leaves (session : Session) (events : List EditorEvent) (left : Session) : Prop where
  settings : left.settings = session.settings
  environment : left.environment = session.environment
  history : left.history = session.history.addAll (enteredLines events)

theorem leaves_after (session : Session) (event : EditorEvent) :
    session.Leaves [event] (session.after event) := by
  cases event with
  | line text =>
      obtain ⟨journal, executed⟩ := (session.recording text).exists_journal_execute text
      rw [← submit_eq_execute_recording] at executed
      rw [after, executed]
      unfold recording
      by_cases blank : isBlankLine text = true
      · rw [if_pos blank]
        exact ⟨rfl, rfl, by simp [enteredLines, EditorEvent.text?, blank]⟩
      · rw [if_neg blank]
        exact ⟨rfl, rfl, by simp [enteredLines, EditorEvent.text?, blank, remember]⟩
  | interrupted | closed | failed message => exact ⟨rfl, rfl, rfl⟩

theorem enteredLines_cons (event : EditorEvent) (rest : List EditorEvent) :
    enteredLines (event :: rest) = enteredLines [event] ++ enteredLines rest := by
  rw [enteredLines, enteredLines, enteredLines, ← List.singleton_append, List.filterMap_append,
    List.filter_append]

/-- Reading leaves the settings, and the history with the lines that were read. -/
theorem Reads.leaves {session left : Session} {events : List EditorEvent}
    {ending : Except Fault Int} (reads : session.Reads events ending left) :
    session.Leaves events left := by
  induction reads with
  | last ends => exact leaves_after _ _
  | @more session left event rest ending goesOn later ih =>
      have first := session.leaves_after event
      refine ⟨ih.settings.trans first.settings, ih.environment.trans first.environment, ?_⟩
      rw [ih.history, first.history, ← History.addAll_append, ← enteredLines_cons]

/-- What ends the loop does so with one result, and is nothing that it goes on after. -/
theorem Ends.unique {session : Session} {event : EditorEvent} {first second : Except Fault Int}
    (ends : session.Ends event first) (also : session.Ends event second) : first = second := by
  cases ends <;> cases also <;> rfl

theorem Ends.not_goesOn {session : Session} {event : EditorEvent} {ending : Except Fault Int}
    (ends : session.Ends event ending) : ¬session.GoesOn event := by
  intro goesOn
  cases ends with
  | line exits =>
      cases goesOn with
      | line stays => rw [exits] at stays; cases stays
  | closed | failed => cases goesOn

/-- How far a stream is read, with which result and to which session, is determined. -/
theorem Reads.unique {session left other : Session} {first second stream : List EditorEvent}
    {ending also : Except Fault Int} (reads : session.Reads first ending left)
    (again : session.Reads second also other) (inStream : first <+: stream)
    (alsoInStream : second <+: stream) : first = second ∧ ending = also ∧ left = other := by
  induction reads generalizing second stream with
  | @last session event ending ends =>
      cases again with
      | last alsoEnds =>
          obtain ⟨rest, rfl⟩ := inStream
          obtain ⟨rfl, -⟩ := List.cons_prefix_cons.mp alsoInStream
          exact ⟨rfl, ends.unique alsoEnds, rfl⟩
      | more goesOn later =>
          obtain ⟨rest, rfl⟩ := inStream
          obtain ⟨rfl, -⟩ := List.cons_prefix_cons.mp alsoInStream
          exact absurd goesOn ends.not_goesOn
  | @more session left event rest ending goesOn later ih =>
      obtain ⟨unread, rfl⟩ := inStream
      cases again with
      | last alsoEnds =>
          obtain ⟨rfl, -⟩ := List.cons_prefix_cons.mp alsoInStream
          exact absurd goesOn alsoEnds.not_goesOn
      | more alsoGoesOn alsoLater =>
          obtain ⟨rfl, inRest⟩ := List.cons_prefix_cons.mp alsoInStream
          obtain ⟨rfl, sameEnding, sameSession⟩ := ih alsoLater (List.prefix_append rest unread) inRest
          exact ⟨rfl, sameEnding, sameSession⟩

/-! ## The end of a session -/

/-- The session after it was shut down; a history that cannot be saved is noted. -/
def Closing.noted (closing : Closing) : Session :=
  match closing.result with
  | .ok () => closing.session
  | .error fault => closing.session.note .warn s!"could not save history: {fault.message}"

/-- Shutting down changes nothing of the session but the journal. -/
theorem exists_journal_shutdown (session : Session) (store : FileStore) :
    ∃ journal, (session.shutdown store).session = { session with journal } := by
  unfold shutdown
  split
  · exact ⟨_, rfl⟩
  · dsimp only
    split <;> exact ⟨_, rfl⟩

theorem history_noted_shutdown (session : Session) (store : FileStore) :
    (session.shutdown store).noted.history = session.history := by
  obtain ⟨journal, left⟩ := session.exists_journal_shutdown store
  have kept : (session.shutdown store).session.history = session.history := by
    rw [left]
  unfold Closing.noted
  split
  · exact kept
  · exact kept

/-- Where the history is kept, shutting down writes it privately or leaves the files alone. -/
theorem shutdown_cases {session : Session} {path : Path}
    (kept : session.settings.historyPath? session.environment = some path) (store : FileStore) :
    (∃ saved, store.writePrivate path session.history.fileContent = .ok saved ∧
        (session.shutdown store).result = .ok () ∧ (session.shutdown store).store = saved) ∨
      ∃ error, store.writePrivate path session.history.fileContent = .error error ∧
        (session.shutdown store).result = .error (.ofFile path error) ∧
        (session.shutdown store).store = store := by
  cases written : store.writePrivate path session.history.fileContent with
  | ok saved => simp [shutdown, kept, History.save, written]
  | error error => simp [shutdown, kept, History.save, written]

/-- Where the history is kept and can be written, it is read from there after the end. -/
theorem read_shutdown {session : Session} {store : FileStore} {path : Path}
    (kept : session.settings.historyPath? session.environment = some path)
    (writable : (store.target path FileStore.privateMode).isOk = true) :
    (session.shutdown store).store.read path = .ok session.history.fileContent := by
  rcases shutdown_cases kept store with ⟨saved, written, -, left⟩ | ⟨error, refused, -, -⟩
  · rw [left]
    exact FileStore.read_of_writePrivate written
  · rw [← store.isOk_writePrivate path session.history.fileContent, refused] at writable
    cases writable

end Session

/-- The things that a loop has read. -/
def Conversation.consumed (conversation : Conversation) : List EditorEvent :=
  conversation.turns.map Turn.event

namespace Repl

/-! ## One turn -/

theorem session_reply (session : Session) (event : EditorEvent) :
    (session.reply event).session = session.after event := by
  cases event <;> rfl

/-- A turn ends the loop or goes on, as what was handed out asks for. -/
theorem ending_reply_cases (session : Session) (event : EditorEvent) :
    (∃ ending, (session.reply event).ending = some ending ∧ session.Ends event ending) ∨
      (session.reply event).ending = none ∧ session.GoesOn event := by
  cases event with
  | line text =>
      rw [Session.reply]
      dsimp only
      cases exits : (session.submit text).2.exits with
      | false => exact Or.inr ⟨rfl, .line exits⟩
      | true => exact Or.inl ⟨_, rfl, .line exits⟩
  | interrupted => exact Or.inr ⟨rfl, .interrupted⟩
  | closed => exact Or.inl ⟨_, rfl, .closed⟩
  | failed message => exact Or.inl ⟨_, rfl, .failed⟩

theorem reply_turn (repl : Repl) (event : EditorEvent) :
    (repl.turn event).reply = repl.session.reply event :=
  congrArg (Session.reply · event) (repl.session_turn event)

theorem session_next (repl : Repl) (event : EditorEvent) :
    (repl.turn event).next.session = repl.session.after event := by
  rw [Turn.next, reply_turn, session_reply]

theorem prompt_turn (repl : Repl) (event : EditorEvent) :
    (repl.turn event).prompt = repl.session.settings.prompt := by
  rw [Turn.prompt, session_turn]

/-! ## Conversations -/

/--
What a conversation makes of the events that are handed out, after which the
input has ended for good.
-/
structure Covers (repl : Repl) (events : List EditorEvent) (conversation : Conversation) :
    Prop where
  reads : repl.session.Reads conversation.consumed conversation.ending conversation.repl.session
  consumed : conversation.consumed <+: events ++ [.closed]
  unread : conversation.unread = events.drop conversation.consumed.length
  prompts : ∀ turn ∈ conversation.turns, turn.prompt = repl.session.settings.prompt

theorem converse_of_ending {repl : Repl} {event : EditorEvent} {ending : Except Fault Int}
    (ended : (repl.session.reply event).ending = some ending) (rest : List EditorEvent) :
    repl.converse (event :: rest) =
      ⟨[repl.turn event], ending, (repl.turn event).next, rest⟩ := by
  simp only [converse, reply_turn, ended]

theorem converse_of_no_ending {repl : Repl} {event : EditorEvent}
    (stays : (repl.session.reply event).ending = none) (rest : List EditorEvent) :
    repl.converse (event :: rest) =
      { (repl.turn event).next.converse rest with
        turns := repl.turn event :: ((repl.turn event).next.converse rest).turns } := by
  simp only [converse, reply_turn, stays]

theorem covers_converse (repl : Repl) (events : List EditorEvent) :
    repl.Covers events (repl.converse events) := by
  induction events generalizing repl with
  | nil =>
      have left : (repl.converse []).repl.session = repl.session.after .closed :=
        repl.session_next .closed
      refine ⟨?_, List.prefix_rfl, rfl, ?_⟩
      · rw [left]
        exact .last .closed
      · intro turn member
        obtain rfl := List.mem_singleton.mp member
        exact repl.prompt_turn .closed
  | cons event rest ih =>
      rcases ending_reply_cases repl.session event with ⟨ending, ended, ends⟩ | ⟨stays, goesOn⟩
      · rw [converse_of_ending ended]
        refine ⟨?_, ?_, rfl, ?_⟩
        · rw [session_next]
          exact .last ends
        · exact ⟨rest ++ [.closed], rfl⟩
        · intro turn member
          obtain rfl := List.mem_singleton.mp member
          exact repl.prompt_turn event
      · have later := ih (repl.turn event).next
        have settings : (repl.turn event).next.session.settings = repl.session.settings := by
          rw [session_next]
          exact (repl.session.leaves_after event).settings
        rw [converse_of_no_ending stays]
        refine ⟨?_, ?_, later.unread, ?_⟩
        · have reads := later.reads
          rw [session_next] at reads
          exact .more goesOn reads
        · exact List.cons_prefix_cons.mpr ⟨rfl, later.consumed⟩
        · intro turn member
          rcases List.mem_cons.mp member with rfl | inLater
          · exact repl.prompt_turn event
          · rw [later.prompts turn inLater, settings]

/-! ## What is recalled and prompted -/

theorem recalled?_eq_filter_text? (turn : Turn) :
    turn.recalled? = turn.event.text?.filter fun text => !isBlankLine text := by
  unfold Turn.recalled?
  cases turn.event with
  | line text => cases blank : isBlankLine text <;> simp [EditorEvent.text?, Option.filter, blank]
  | interrupted | closed | failed message => rfl

theorem recalled_eq_enteredLines (conversation : Conversation) :
    conversation.turns.filterMap Turn.recalled? = enteredLines conversation.consumed := by
  rw [enteredLines, Conversation.consumed, List.filterMap_map, List.filter_filterMap]
  exact congrArg (conversation.turns.filterMap ·) (funext recalled?_eq_filter_text?)

theorem Covers.prompts_eq_replicate {repl : Repl} {events : List EditorEvent}
    {conversation : Conversation} (covers : repl.Covers events conversation) :
    conversation.turns.map Turn.prompt =
      List.replicate conversation.consumed.length repl.session.settings.prompt := by
  rw [List.eq_replicate_iff]
  constructor
  · rw [Conversation.consumed, List.length_map, List.length_map]
  · intro prompt shown
    obtain ⟨turn, member, rfl⟩ := List.mem_map.mp shown
    exact covers.prompts turn member

/-! ## Runs -/

theorem close_eq_noted_shutdown (repl : Repl) (store : FileStore) :
    repl.close store = ({ repl with session := (repl.session.shutdown store).noted },
      (repl.session.shutdown store).store) := by
  cases result : (repl.session.shutdown store).result <;>
    simp only [close, Session.Closing.noted, result]

/--
What a run does with the events that are handed out, after which the input has
ended for good: `reads` says how far the loop goes, `only` that it goes neither
further nor less far, and `ended` that the session left there is shut down.  A
file counts as writable wherever the store can place one, whatever its bits.
-/
structure Processes (repl : Repl) (store : FileStore) (events : List EditorEvent) (run : Run) :
    Prop where
  reads : repl.session.Reads run.conversation.consumed run.conversation.ending
    run.conversation.repl.session
  consumed : run.conversation.consumed <+: events ++ [.closed]
  only : ∀ {read : List EditorEvent} {ending : Except Fault Int} {left : Session},
    read <+: events ++ [.closed] → repl.session.Reads read ending left →
      read = run.conversation.consumed ∧ ending = run.conversation.ending
  unread : run.conversation.unread = events.drop run.conversation.consumed.length
  recalled : run.conversation.turns.filterMap Turn.recalled? =
    enteredLines run.conversation.consumed
  prompts : run.conversation.turns.map Turn.prompt =
    List.replicate run.conversation.consumed.length repl.session.settings.prompt
  history : run.repl.session.history =
    repl.session.history.addAll (enteredLines run.conversation.consumed)
  ended : (run.repl, run.store) =
    ({ run.conversation.repl with
        session := (run.conversation.repl.session.shutdown store).noted },
      (run.conversation.repl.session.shutdown store).store)
  /-- A history that is kept has a file. -/
  place : repl.session.settings.persistHistory = true → ∃ path,
    repl.session.settings.HistoryAt repl.session.environment path ∧
      repl.session.settings.historyPath? repl.session.environment = some path
  saved : ∀ path, repl.session.settings.historyPath? repl.session.environment = some path →
    (store.target path FileStore.privateMode).isOk = true →
      run.store.read path = .ok run.repl.session.history.fileContent
  regardless : ∀ other, (repl.run other events).conversation = run.conversation

/--
From every session, with any commands, the loop reads exactly up to the first
thing that ends it, recalls and records the lines that it read, and shuts the
session down once; whatever becomes of the files, the result is the same.
-/
theorem processes_run (repl : Repl) (store : FileStore) (events : List EditorEvent) :
    repl.Processes store events (repl.run store events) := by
  have covers := repl.covers_converse events
  have left := covers.reads.leaves
  have ended : ((repl.run store events).repl, (repl.run store events).store) =
      ({ (repl.converse events).repl with
          session := ((repl.converse events).repl.session.shutdown store).noted },
        ((repl.converse events).repl.session.shutdown store).store) :=
    (repl.converse events).repl.close_eq_noted_shutdown store
  obtain ⟨closed, leftStore⟩ := Prod.mk.inj ended
  have kept : (repl.run store events).repl.session.history =
      (repl.converse events).repl.session.history := by
    rw [closed]
    exact Session.history_noted_shutdown _ store
  refine
    { reads := covers.reads
      consumed := covers.consumed
      only := ?_
      unread := covers.unread
      recalled := recalled_eq_enteredLines _
      prompts := covers.prompts_eq_replicate
      history := kept.trans left.history
      ended := ended
      place := fun kept => Settings.exists_historyAt kept _
      saved := ?_
      regardless := fun other => rfl }
  · intro read ending session inStream reads
    obtain ⟨same, sameEnding, -⟩ := reads.unique covers.reads inStream covers.consumed
    exact ⟨same, sameEnding⟩
  · intro path isKept writable
    rw [← left.settings, ← left.environment] at isKept
    rw [leftStore, kept]
    exact Session.read_shutdown isKept writable

end Repl

end CommandShell
