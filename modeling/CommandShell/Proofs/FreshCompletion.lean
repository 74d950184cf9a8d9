import CommandShell.Proofs.SessionOperations

/-!
# The editor completes from fresh data

The loop pushes a snapshot of what completion offers to the editor, and pushes
again only when the epoch of the session has changed.  The snapshot that the
editor has at any reading nevertheless gives the candidates of the session at
that moment, over all runs of one loop with operations on the session between
them.
-/

namespace CommandShell

/-! ## What every reading promises -/

/--
What a turn promises, given the snapshot that was pushed last before it: a push
happens if nothing was pushed yet or the epoch has changed since, it hands over
the present offer, and the editor then completes like the session.
-/
structure Turn.Synced (turn : Turn) (last : Option Snapshot) : Prop where
  pushes_iff : turn.pushes = true ↔
    last = none ∨ ∃ snapshot, last = some snapshot ∧ snapshot.epoch ≠ turn.repl.session.epoch
  pushed : turn.pushes = true → turn.push? = some (.ofSession turn.repl.session)
  fresh : ∃ snapshot, turn.push?.or last = some snapshot ∧
    ∀ line, snapshot.candidates line = turn.repl.session.candidates line

namespace Turn

/-- The snapshot that was pushed last after some turns. -/
def lastPush (last : Option Snapshot) (turns : List Turn) : Option Snapshot :=
  turns.foldl (fun last turn => turn.push?.or last) last

/-- Every turn keeps its promise, given the snapshot that was pushed last before it. -/
def AllSynced (last : Option Snapshot) : List Turn → Prop
  | [] => True
  | turn :: rest => turn.Synced last ∧ AllSynced (turn.push?.or last) rest

theorem lastPush_append (last : Option Snapshot) (first second : List Turn) :
    lastPush last (first ++ second) = lastPush (lastPush last first) second :=
  List.foldl_append

theorem allSynced_append {last : Option Snapshot} {first second : List Turn}
    (early : AllSynced last first) (late : AllSynced (lastPush last first) second) :
    AllSynced last (first ++ second) := by
  induction first generalizing last with
  | nil => exact late
  | cons turn rest ih => exact ⟨early.1, ih early.2 late⟩

end Turn

namespace Repl

/-! ## The snapshot of the present epoch -/

/--
The snapshot in the editor is not from the future, and one of the present epoch
is the present offer of the session.
-/
def Coherent (repl : Repl) : Prop :=
  ∀ snapshot, repl.pushed = some snapshot →
    snapshot.epoch ≤ repl.session.epoch ∧
      (snapshot.epoch = repl.session.epoch → snapshot = .ofSession repl.session)

/-- Nothing was pushed yet. -/
theorem coherent_start (session : Session) : Coherent { session } := by
  intro snapshot pushed
  cases pushed

/-- The session may change as long as it offers the same. -/
theorem Coherent.of_same_offer {repl : Repl} (coherent : repl.Coherent) {session : Session}
    (same : Snapshot.ofSession session = .ofSession repl.session) :
    Coherent { repl with session } := by
  have sameEpoch : session.epoch = repl.session.epoch := congrArg Snapshot.epoch same
  intro snapshot pushed
  obtain ⟨notLater, present⟩ := coherent snapshot pushed
  refine ⟨sameEpoch ▸ notLater, fun atEpoch => ?_⟩
  rw [present (atEpoch.trans sameEpoch), same]

/-- A counted change leaves only snapshots of earlier epochs. -/
theorem Coherent.perform {repl : Repl} (coherent : repl.Coherent)
    (operation : Session.Operation) :
    Coherent { repl with session := repl.session.perform operation } := by
  by_cases changes : repl.session.changes operation = true
  · have counted : (repl.session.perform operation).epoch = repl.session.epoch + 1 := by
      rw [Session.epoch_perform, if_pos changes]
    intro snapshot pushed
    -- Its epoch was not later than the old one, so it is not the new one.
    obtain ⟨notLater, -⟩ := coherent snapshot pushed
    dsimp only
    constructor
    · omega
    · intro atEpoch
      omega
  · rw [Bool.not_eq_true] at changes
    exact coherent.of_same_offer (Session.ofSession_perform_of_not_changes changes)

theorem isStale_iff (repl : Repl) :
    repl.isStale = true ↔ repl.pushed = none ∨
      ∃ snapshot, repl.pushed = some snapshot ∧ snapshot.epoch ≠ repl.session.epoch := by
  unfold isStale
  cases repl.pushed with
  | none => simp
  | some snapshot => simp

/-- After syncing, the editor has the present offer. -/
theorem Coherent.pushed_sync {repl : Repl} (coherent : repl.Coherent) :
    repl.sync.pushed = some (.ofSession repl.session) := by
  unfold sync
  by_cases stale : repl.isStale = true
  · rw [if_pos stale]
  · rw [if_neg stale]
    rw [isStale_iff, not_or] at stale
    obtain ⟨snapshot, pushed⟩ := Option.ne_none_iff_exists'.mp stale.1
    have atEpoch : snapshot.epoch = repl.session.epoch :=
      Decidable.byContradiction fun other => stale.2 ⟨snapshot, pushed, other⟩
    rw [pushed, (coherent snapshot pushed).2 atEpoch]

theorem session_sync (repl : Repl) : repl.sync.session = repl.session := by
  unfold sync
  split <;> rfl

/-! ## One turn -/

/-- Answering what the editor handed out leaves the offer as it was. -/
theorem ofSession_reply (session : Session) (event : EditorEvent) :
    Snapshot.ofSession (session.reply event).session = .ofSession session := by
  cases event with
  | line text => exact Snapshot.ofSession_submit session text
  | interrupted => rfl
  | closed => rfl
  | failed message => rfl

theorem session_turn (repl : Repl) (event : EditorEvent) :
    (repl.turn event).repl.session = repl.session :=
  repl.session_sync

theorem push?_turn {repl : Repl} (coherent : repl.Coherent) (event : EditorEvent) :
    (repl.turn event).push? =
      if repl.isStale then some (.ofSession repl.session) else none := by
  unfold turn Turn.push?
  dsimp only
  rw [coherent.pushed_sync]

/-- What the editor has in a turn is what was pushed last, in this turn or before it. -/
theorem pushed_turn (repl : Repl) (event : EditorEvent) :
    (repl.turn event).repl.pushed = (repl.turn event).push?.or repl.pushed := by
  unfold turn Turn.push? sync
  dsimp only
  split <;> simp

theorem synced_turn {repl : Repl} (coherent : repl.Coherent) (event : EditorEvent) :
    (repl.turn event).Synced repl.pushed where
  pushes_iff := by
    rw [session_turn]
    exact repl.isStale_iff
  pushed := by
    intro pushes
    have stale : repl.isStale = true := pushes
    rw [push?_turn coherent, session_turn, if_pos stale]
  fresh := by
    refine ⟨.ofSession repl.session, ?_, ?_⟩
    · rw [← pushed_turn]
      exact coherent.pushed_sync
    · intro line
      rw [session_turn]
      rfl

/-- A turn leaves the offer as it was. -/
theorem ofSession_next (repl : Repl) (event : EditorEvent) :
    Snapshot.ofSession (repl.turn event).next.session = .ofSession repl.session := by
  have answered := ofSession_reply (repl.turn event).repl.session event
  exact answered.trans (congrArg Snapshot.ofSession (repl.session_turn event))

theorem coherent_next {repl : Repl} (coherent : repl.Coherent) (event : EditorEvent) :
    (repl.turn event).next.Coherent := by
  have synced : (repl.turn event).repl.Coherent := by
    intro snapshot pushed
    obtain rfl := Option.some.inj (coherent.pushed_sync.symm.trans pushed)
    rw [session_turn]
    exact ⟨Nat.le_refl _, fun _ => rfl⟩
  exact synced.of_same_offer (ofSession_reply _ event)

/-! ## Runs -/

/-- The turns between two states keep their promise, and the second state is coherent again. -/
structure Keeps (repl : Repl) (turns : List Turn) (after : Repl) : Prop where
  synced : Turn.AllSynced repl.pushed turns
  pushed : after.pushed = Turn.lastPush repl.pushed turns
  coherent : after.Coherent

theorem Keeps.trans {first second third : Repl} {early late : List Turn}
    (before : first.Keeps early second) (later : second.Keeps late third) :
    first.Keeps (early ++ late) third where
  synced := Turn.allSynced_append before.synced (before.pushed ▸ later.synced)
  pushed := by
    rw [Turn.lastPush_append, ← before.pushed]
    exact later.pushed
  coherent := later.coherent

theorem keeps_turn {repl : Repl} (coherent : repl.Coherent) (event : EditorEvent) :
    repl.Keeps [repl.turn event] (repl.turn event).next where
  synced := ⟨synced_turn coherent event, trivial⟩
  pushed := repl.pushed_turn event
  coherent := coherent_next coherent event

theorem keeps_converse {repl : Repl} (coherent : repl.Coherent) (events : List EditorEvent) :
    repl.Keeps (repl.converse events).turns (repl.converse events).repl := by
  induction events generalizing repl with
  | nil => exact keeps_turn coherent .closed
  | cons event rest ih =>
      have now := keeps_turn coherent event
      unfold converse
      dsimp only
      split
      · exact now
      · exact now.trans (ih now.coherent)

/-- A whole loop leaves the offer of the session as it was. -/
theorem ofSession_converse (repl : Repl) (events : List EditorEvent) :
    Snapshot.ofSession (repl.converse events).repl.session = .ofSession repl.session := by
  induction events generalizing repl with
  | nil => exact repl.ofSession_next .closed
  | cons event rest ih =>
      unfold converse
      dsimp only
      split
      · exact repl.ofSession_next event
      · exact (ih (repl.turn event).next).trans (repl.ofSession_next event)

/-- Shutting down leaves the offer of the session and the snapshot of the editor. -/
theorem close_same (repl : Repl) (store : FileStore) :
    Snapshot.ofSession (repl.close store).1.session = .ofSession repl.session ∧
      (repl.close store).1.pushed = repl.pushed := by
  have same := Snapshot.ofSession_shutdown repl.session store
  unfold close
  dsimp only
  split
  · exact ⟨same, rfl⟩
  · exact ⟨same, rfl⟩

theorem keeps_run {repl : Repl} (coherent : repl.Coherent) (store : FileStore)
    (events : List EditorEvent) :
    repl.Keeps (repl.run store events).conversation.turns (repl.run store events).repl := by
  have conversed := keeps_converse coherent events
  obtain ⟨same, samePushed⟩ := (repl.converse events).repl.close_same store
  have closed := conversed.coherent.of_same_offer same
  rw [← samePushed] at closed
  exact ⟨conversed.synced, samePushed.trans conversed.pushed, closed⟩

theorem epoch_run (repl : Repl) (store : FileStore) (events : List EditorEvent) :
    (repl.run store events).repl.session.epoch = repl.session.epoch :=
  congrArg Snapshot.epoch
    (((repl.converse events).repl.close_same store).1.trans (repl.ofSession_converse events))

/-! ## Runs with operations between them -/

/-- What is done with a loop: an operation on its session, or a run. -/
inductive Action where
  | perform (operation : Session.Operation)
  | run (store : FileStore) (events : List EditorEvent)

/-- Holds of operations, the only actions that can move the epoch. -/
def Action.isOperation : Action → Bool
  | .perform _ => true
  | .run _ _ => false

/-- The loop after an action. -/
def act (repl : Repl) : Action → Repl
  | .perform operation => { repl with session := repl.session.perform operation }
  | .run store events => (repl.run store events).repl

/-- The turns of an action. -/
def turnsOf (repl : Repl) : Action → List Turn
  | .perform _ => []
  | .run store events => (repl.run store events).conversation.turns

/-- The loop after actions. -/
def actAll (repl : Repl) (actions : List Action) : Repl :=
  actions.foldl act repl

/-- The turns of actions. -/
def turnsOfAll (repl : Repl) : List Action → List Turn
  | [] => []
  | action :: rest => repl.turnsOf action ++ (repl.act action).turnsOfAll rest

theorem keeps_act {repl : Repl} (coherent : repl.Coherent) (action : Action) :
    repl.Keeps (repl.turnsOf action) (repl.act action) := by
  cases action with
  | perform operation => exact ⟨trivial, rfl, coherent.perform operation⟩
  | run store events => exact keeps_run coherent store events

theorem keeps_actAll {repl : Repl} (coherent : repl.Coherent) (actions : List Action) :
    repl.Keeps (repl.turnsOfAll actions) (repl.actAll actions) := by
  induction actions generalizing repl with
  | nil => exact ⟨trivial, rfl, coherent⟩
  | cons action rest ih =>
      have now := keeps_act coherent action
      exact now.trans (ih now.coherent)

/-- Only operations move the epoch, each by one at most. -/
theorem epoch_act_le (repl : Repl) (action : Action) :
    (repl.act action).session.epoch ≤
      repl.session.epoch + if action.isOperation then 1 else 0 := by
  cases action with
  | perform operation =>
      have moved := repl.session.epoch_perform operation
      rw [act, moved]
      split
      · exact Nat.le_refl _
      · exact Nat.le_succ _
  | run store events => exact Nat.le_of_eq (repl.epoch_run store events)

theorem epoch_actAll_le (repl : Repl) (actions : List Action) :
    (repl.actAll actions).session.epoch ≤
      repl.session.epoch + actions.countP Action.isOperation := by
  induction actions generalizing repl with
  | nil => exact Nat.le_refl _
  | cons action rest ih =>
      have now := repl.epoch_act_le action
      have later := ih (repl.act action)
      rw [List.countP_cons]
      unfold actAll at later ⊢
      rw [List.foldl_cons]
      omega

/--
Over all runs of a loop with operations on its session between them, the editor
completes like the session whenever it is asked for a line, and a push happens
exactly when none happened yet or the epoch has changed since.  The epoch moves
by one with every change to what completion offers, and with nothing else; so it
never passes the number of operations, and a counter with more values than that
does not wrap around.
-/
theorem editor_completes_from_fresh_data (session : Session) (actions : List Action) :
    Turn.AllSynced none (turnsOfAll { session } actions) ∧
      (∀ (present : Session) (operation : Session.Operation),
        (present.perform operation).epoch =
          if present.changes operation then present.epoch + 1 else present.epoch) ∧
      (∀ (repl : Repl) (store : FileStore) (events : List EditorEvent),
        (repl.run store events).repl.session.epoch = repl.session.epoch) ∧
      (actAll { session } actions).session.epoch ≤
        session.epoch + actions.countP Action.isOperation :=
  ⟨(keeps_actAll (coherent_start session) actions).synced, Session.epoch_perform, epoch_run,
    epoch_actAll_le { session } actions⟩

end Repl

end CommandShell
