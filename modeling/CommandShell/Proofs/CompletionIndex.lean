import CommandShell.Proofs.RegisteredCommands
import CommandShell.Proofs.SessionOperations
import CommandShell.Proofs.WordSets

/-!
# Completion mirrors the registry and the added words

In every session that can be reached from its start, the registry has what came
first under each name, the built-in commands included.  The index has exactly the
registered names and exactly the words that were added and neither taken out nor
cleared since.  Where a line completes the name of a command, the candidates are
the names and words that start with its last word, in increasing order.
-/

namespace CommandShell

/-! ## Candidates for a command -/

namespace Completion

theorem insertWord_sorted (word : String) {words : List String}
    (sorted : words.Pairwise (· < ·)) : (insertWord word words).Pairwise (· < ·) := by
  induction words with
  | nil => simp [insertWord]
  | cons other rest ih =>
      obtain ⟨above, restSorted⟩ := List.pairwise_cons.mp sorted
      unfold insertWord
      split
      · rename_i less
        refine List.pairwise_cons.mpr ⟨?_, sorted⟩
        intro later member
        rcases List.mem_cons.mp member with rfl | inRest
        · exact less
        · exact String.lt_trans less (above later inRest)
      · split
        · exact sorted
        · rename_i notLess different
          refine List.pairwise_cons.mpr ⟨?_, ih restSorted⟩
          intro later member
          rcases mem_insertWord.mp member with rfl | inRest
          · exact NameTable.lt_of_not_lt_of_ne notLess different
          · exact above later inRest

/-- The union of lists in order is in order, and so has no word twice. -/
theorem union_sorted (first : List String) {second : List String}
    (sorted : second.Pairwise (· < ·)) : (union first second).Pairwise (· < ·) := by
  induction first with
  | nil => exact sorted
  | cons word rest ih => exact insertWord_sorted word ih

end Completion

namespace Session

/-! ## Words that were added last -/

/-- Holds of a word that was added and neither taken out nor cleared since. -/
def Lasts (word : String) (operations : List Operation) : Prop :=
  ∃ before after, operations = before ++ .addWord word :: after ∧
    .removeWord word ∉ after ∧ .clearWords ∉ after

theorem not_lasts_nil (word : String) : ¬ Lasts word [] := by
  rintro ⟨before, after, nothing, -⟩
  simp at nothing

/-- One more operation adds the word, or leaves it if it neither takes it out nor clears. -/
theorem lasts_concat_iff (word : String) (operations : List Operation) (operation : Operation) :
    Lasts word (operations ++ [operation]) ↔
      operation = .addWord word ∨
        Lasts word operations ∧ operation ≠ .removeWord word ∧ operation ≠ .clearWords := by
  constructor
  · rintro ⟨before, after, split, notRemoved, notCleared⟩
    rcases List.eq_nil_or_concat after with rfl | ⟨earlier, last, rfl⟩
    · obtain ⟨-, same⟩ := List.append_inj' split rfl
      exact Or.inl (List.singleton_inj.mp same)
    · rw [List.concat_eq_append, ← List.cons_append, ← List.append_assoc] at split
      obtain ⟨rfl, same⟩ := List.append_inj' split rfl
      obtain rfl := List.singleton_inj.mp same
      rw [List.concat_eq_append, List.mem_append, List.mem_singleton, not_or] at notRemoved
      rw [List.concat_eq_append, List.mem_append, List.mem_singleton, not_or] at notCleared
      exact Or.inr ⟨⟨before, earlier, rfl, notRemoved.1, notCleared.1⟩,
        Ne.symm notRemoved.2, Ne.symm notCleared.2⟩
  · rintro (rfl | ⟨⟨before, after, rfl, notRemoved, notCleared⟩, keeps, leaves⟩)
    · exact ⟨operations, [], rfl, List.not_mem_nil, List.not_mem_nil⟩
    · refine ⟨before, after ++ [operation], by simp, ?_, ?_⟩
      · simp [notRemoved, Ne.symm keeps]
      · simp [notCleared, Ne.symm leaves]

/-! ## What every operation keeps -/

/-- The session after operations. -/
def performAll (session : Session) (operations : List Operation) : Session :=
  operations.foldl perform session

/-- Holds of the operations on the words beside the commands. -/
def Operation.isOnWords : Operation → Bool
  | addWord _ => true
  | removeWord _ => true
  | clearWords => true
  | _ => false

/-- Holds of the operations on the commands. -/
def Operation.isOnCommands : Operation → Bool
  | register _ => true
  | unregister _ => true
  | _ => false

theorem registry_perform_of_not_changes {session : Session} {operation : Operation}
    (same : session.changes operation = false) :
    (session.perform operation).registry = session.registry :=
  congrArg Snapshot.registry (ofSession_perform_of_not_changes same)

theorem completion_perform_of_not_changes {session : Session} {operation : Operation}
    (same : session.changes operation = false) :
    (session.perform operation).completion = session.completion :=
  congrArg Snapshot.completion (ofSession_perform_of_not_changes same)

/-- Adding a word leaves everything of the index and of the registry but the words. -/
theorem addWord_completion (session : Session) (word : String) :
    (session.addWord word).1.registry = session.registry ∧
      (session.addWord word).1.completion =
        { session.completion with words := (session.completion.words.insert word).1 } := by
  unfold addWord Completion.addWord Trie.insert
  by_cases known : session.completion.words.contains word = true
  · simp [known]
  · simp [known, advance]

theorem removeWord_completion (session : Session) (word : String) :
    (session.removeWord word).1.registry = session.registry ∧
      (session.removeWord word).1.completion =
        { session.completion with words := (session.completion.words.remove word).1 } := by
  unfold removeWord Completion.removeWord Trie.remove
  by_cases known : session.completion.words.contains word = true
  · simp [known, advance]
  · simp [known]

/-- Only operations on the words touch the words. -/
theorem words_perform {session : Session} {operation : Operation}
    (other : operation.isOnWords = false) :
    (session.perform operation).completion.words = session.completion.words := by
  cases operation with
  | register command =>
      simp only [perform, register]
      split <;> rfl
  | unregister name =>
      simp only [perform, unregister]
      split <;> rfl
  | addWord word => cases other
  | removeWord word => cases other
  | clearWords => cases other
  | execute line | submit line | remember line | forget | reload store path | shutdown store =>
      exact congrArg Completion.words (completion_perform_of_not_changes rfl)

/-- Only operations on the commands touch the registry and the names in the index. -/
theorem commands_perform {session : Session} {operation : Operation}
    (other : operation.isOnCommands = false) :
    (session.perform operation).registry = session.registry ∧
      (session.perform operation).completion.commands = session.completion.commands := by
  cases operation with
  | register command => cases other
  | unregister name => cases other
  | addWord word =>
      obtain ⟨registry, completion⟩ := session.addWord_completion word
      have commands := congrArg Completion.commands completion
      exact ⟨registry, commands⟩
  | removeWord word =>
      obtain ⟨registry, completion⟩ := session.removeWord_completion word
      have commands := congrArg Completion.commands completion
      exact ⟨registry, commands⟩
  | clearWords => exact ⟨rfl, rfl⟩
  | execute line | submit line | remember line | forget | reload store path | shutdown store =>
      exact ⟨registry_perform_of_not_changes rfl,
        congrArg Completion.commands (completion_perform_of_not_changes rfl)⟩

/--
The index has the names of the registry, and beside them the words that last
after some operations.
-/
structure Mirrors (session : Session) (operations : List Operation) : Prop where
  commands : session.completion.commands = Trie.ofList session.registry.names
  wellFormed : session.completion.words.WellFormed
  words_iff : ∀ word, session.completion.words.contains word = true ↔ Lasts word operations

namespace Mirrors

variable {session : Session} {operations : List Operation}

/-- A new registry comes with a new index of its names. -/
theorem commands_perform (mirrors : session.Mirrors operations) (operation : Operation) :
    (session.perform operation).completion.commands =
      Trie.ofList (session.perform operation).registry.names := by
  cases onCommands : operation.isOnCommands with
  | false =>
      obtain ⟨sameRegistry, sameCommands⟩ := Session.commands_perform onCommands
      rw [sameRegistry, sameCommands, mirrors.commands]
  | true =>
      cases operation with
      | register command =>
          simp only [perform, register]
          split
          · rfl
          · exact mirrors.commands
      | unregister name =>
          simp only [perform, unregister]
          split
          · rfl
          · exact mirrors.commands
      | _ => cases onCommands

theorem perform (mirrors : session.Mirrors operations) (operation : Operation) :
    (session.perform operation).Mirrors (operations ++ [operation]) := by
  have commands := mirrors.commands_perform operation
  cases onWords : operation.isOnWords with
  | false =>
      have sameWords : (session.perform operation).completion.words = session.completion.words :=
        words_perform onWords
      refine ⟨commands, sameWords ▸ mirrors.wellFormed, fun word => ?_⟩
      rw [sameWords, mirrors.words_iff, lasts_concat_iff]
      cases operation <;> simp_all [Operation.isOnWords]
  | true =>
      cases operation with
      | addWord added =>
          have words := congrArg Completion.words (session.addWord_completion added).2
          refine ⟨commands, ?_, fun word => ?_⟩
          · exact words ▸ mirrors.wellFormed.insert added
          · rw [Session.perform, words, mirrors.wellFormed.contains_insert_iff, mirrors.words_iff,
              lasts_concat_iff]
            simp [eq_comm]
      | removeWord removed =>
          have words := congrArg Completion.words (session.removeWord_completion removed).2
          refine ⟨commands, ?_, fun word => ?_⟩
          · exact words ▸ mirrors.wellFormed.remove removed
          · rw [Session.perform, words, mirrors.wellFormed.contains_remove_iff, mirrors.words_iff,
              lasts_concat_iff]
            simp [and_comm, eq_comm]
      | clearWords =>
          refine ⟨commands, Trie.wellFormed_empty, fun word => ?_⟩
          rw [lasts_concat_iff]
          simp [Session.perform, clearWords, advance, Completion.clearWords]
      | _ => cases onWords

theorem performAll (mirrors : session.Mirrors operations) (more : List Operation) :
    (session.performAll more).Mirrors (operations ++ more) := by
  induction more generalizing session operations with
  | nil =>
      rw [List.append_nil]
      exact mirrors
  | cons operation rest ih =>
      have later := ih (mirrors.perform operation)
      rw [List.append_assoc] at later
      exact later

end Mirrors

/-! ## Start -/

/-- Restoring the history leaves what completion offers as it was. -/
theorem ofSession_restore (session : Session) (store : FileStore) :
    Snapshot.ofSession (session.restore store) = .ofSession session := by
  obtain ⟨history, journal, restored⟩ := session.exists_restore store
  rw [restored]
  rfl

/-- A started session offers the names of the built-in commands, whatever its history. -/
theorem ofSession_start {environment : Environment} {store : FileStore} {journal : Journal}
    {settings : Settings} {session : Session}
    (started : Session.start environment store journal settings = .ok session) :
    ∃ history, Snapshot.ofSession session =
      .ofSession (fresh environment journal settings history) := by
  rcases start_cases environment store journal settings with
    ⟨error, -, refused⟩ | ⟨empty, -, -, starts⟩
  · cases started.symm.trans refused
  · obtain rfl := Except.ok.inj (started.symm.trans starts)
    exact ⟨empty, ofSession_restore (fresh environment journal settings empty) store⟩

theorem mirrors_start {environment : Environment} {store : FileStore} {journal : Journal}
    {settings : Settings} {session : Session}
    (started : Session.start environment store journal settings = .ok session) :
    session.Mirrors [] := by
  obtain ⟨history, same⟩ := ofSession_start started
  have words : session.completion.words = .empty :=
    congrArg (fun offer => offer.completion.words) same
  refine ⟨?_, words ▸ Trie.wellFormed_empty, fun word => ?_⟩
  · exact (congrArg (fun offer => offer.completion.commands) same).trans
      (congrArg (fun offer => Trie.ofList offer.registry.names) same).symm
  · simp [words, not_lasts_nil]

/-! ## Refused operations -/

/--
Holds of an operation that the session turns down.  A submitted line is
remembered before it is read, so it is never turned down as a whole.
-/
def refuses (session : Session) : Operation → Bool
  | .register command => !(session.register command).2
  | .unregister name => !(session.unregister name).2
  | .addWord word => !(session.addWord word).2
  | .removeWord word => !(session.removeWord word).2
  | .clearWords => false
  | .execute line => match session.plan line with
      | .reject _ => true
      | _ => false
  | .submit _ => false
  | .remember line => !session.history.accepts line
  | .forget => false
  | .reload store path => !(session.history.load store path).value.isOk
  | .shutdown store => !(session.shutdown store).result.isOk

theorem fst_ite_of_refused {changed same : Session} {accepted : Bool}
    (refused : (!(if accepted then (changed, true) else (same, false)).2) = true) :
    (if accepted then (changed, true) else (same, false)).1 = same := by
  cases accepted with
  | false => rfl
  | true => cases refused

/-- A refused operation leaves at most records behind. -/
theorem perform_of_refuses {session : Session} {operation : Operation}
    (refused : session.refuses operation = true) :
    ∃ journal, session.perform operation = { session with journal } := by
  cases operation with
  | register command => exact ⟨_, fst_ite_of_refused refused⟩
  | unregister name => exact ⟨_, fst_ite_of_refused refused⟩
  | addWord word => exact ⟨session.journal, fst_ite_of_refused refused⟩
  | removeWord word => exact ⟨session.journal, fst_ite_of_refused refused⟩
  | clearWords => cases refused
  | execute line =>
      simp only [refuses, perform, execute] at refused ⊢
      split at refused
      · rename_i error rejected
        rw [rejected]
        exact ⟨_, rfl⟩
      · cases refused
  | submit line => cases refused
  | remember line =>
      simp only [refuses, Bool.not_eq_true'] at refused
      refine ⟨session.journal, ?_⟩
      simp [perform, remember, History.add, refused]
  | forget => cases refused
  | reload store path =>
      have kept : (session.history.reload path (store.openFile path)).1 = session.history := by
        rw [refuses] at refused
        rw [History.reload_openFile]
        cases loaded : (session.history.load store path).value with
        | error fault => rfl
        | ok result =>
            rw [loaded] at refused
            cases refused
      refine ⟨(session.noteAll (session.history.load store path).notes).journal, ?_⟩
      rw [perform, reload, kept]
      rfl
  | shutdown store =>
      simp only [refuses, perform, shutdown] at refused ⊢
      split at refused
      · cases refused
      · split at refused
        · cases refused
        · exact ⟨_, rfl⟩

/-! ## The index of a reachable session -/

/-- What completion of command names offers after some operations. -/
structure Indexes (session : Session) (operations : List Operation) : Prop where
  names : session.completion.commands.words = session.registry.names
  size : session.completion.commands.size = session.registry.size
  contains_name_iff : ∀ name,
    session.completion.commands.contains name = true ↔ session.registry.contains name = true
  contains_word_iff : ∀ word,
    session.completion.words.contains word = true ↔ Lasts word operations
  sorted_candidates : ∀ line, Position.ofLine line = .command →
    (session.candidates line).Pairwise (· < ·)
  mem_candidates_iff : ∀ line, Position.ofLine line = .command → ∀ candidate,
    candidate ∈ session.candidates line ↔
      (Text.lastWord line).toList <+: candidate.toList ∧
        (session.registry.contains candidate = true ∨ Lasts candidate operations)

theorem Mirrors.indexes {session : Session} {operations : List Operation}
    (mirrors : session.Mirrors operations) : session.Indexes operations := by
  have sorted : session.registry.names.Pairwise (· < ·) := session.registry.commands.sorted
  have commandsWellFormed := Trie.wellFormed_ofList session.registry.names
  have candidates : ∀ line, Position.ofLine line = .command → session.candidates line =
      Completion.union ((Trie.ofList session.registry.names).wordsWithStem (Text.lastWord line))
        (session.completion.words.wordsWithStem (Text.lastWord line)) := by
    intro line command
    rw [Session.candidates, Completion.candidates, command, Completion.candidatesAt,
      mirrors.commands]
  have contains_name_iff : ∀ name, (Trie.ofList session.registry.names).contains name = true ↔
      session.registry.contains name = true := by
    intro name
    rw [Trie.contains_ofList_iff]
    exact (NameTable.contains_eq_true_iff session.registry.commands name).symm
  refine
    { names := ?_, size := ?_, contains_name_iff := ?_, contains_word_iff := mirrors.words_iff
      sorted_candidates := ?_, mem_candidates_iff := ?_ }
  · rw [mirrors.commands, Trie.words_ofList sorted]
  · rw [mirrors.commands, Trie.size_ofList sorted]
    exact List.length_map Prod.fst
  · rw [mirrors.commands]
    exact contains_name_iff
  · intro line command
    rw [candidates line command]
    exact Completion.union_sorted _ (mirrors.wellFormed.sorted_wordsWithStem _)
  · intro line command candidate
    rw [candidates line command, Completion.mem_union, commandsWellFormed.mem_wordsWithStem_iff,
      mirrors.wellFormed.mem_wordsWithStem_iff, contains_name_iff, mirrors.words_iff, ← and_or_left]

/-! ## The registry of a reachable session -/

/-- What an operation on a session asks of its registry. -/
def Operation.onRegistry? : Operation → Option Registry.Operation
  | .register command => some (.register command)
  | .unregister name => some (.unregister name)
  | _ => none

theorem registry_perform (session : Session) (operation : Operation) :
    (session.perform operation).registry =
      session.registry.performAll operation.onRegistry?.toList := by
  cases onCommands : operation.isOnCommands with
  | false =>
      rw [(commands_perform onCommands).1]
      cases operation <;> first | rfl | cases onCommands
  | true =>
      cases operation with
      | register command =>
          simp only [perform, register]
          split
          · rfl
          · rename_i refused
            exact (Registry.register_eq_of_refused (Bool.not_eq_true _ ▸ refused)).symm
      | unregister name =>
          simp only [perform, unregister]
          split
          · rfl
          · rename_i refused
            exact (Registry.unregister_eq_of_refused (Bool.not_eq_true _ ▸ refused)).symm
      | _ => cases onCommands

/-- The registry goes through what the operations ask of it and through nothing else. -/
theorem registry_performAll (session : Session) (operations : List Operation) :
    (session.performAll operations).registry =
      session.registry.performAll (operations.filterMap Operation.onRegistry?) := by
  induction operations generalizing session with
  | nil => rfl
  | cons operation rest ih =>
      have step : (session.performAll (operation :: rest)).registry =
          (session.perform operation).registry.performAll
            (rest.filterMap Operation.onRegistry?) := ih (session.perform operation)
      rw [step, registry_perform, ← Registry.performAll_append, List.filterMap_cons]
      cases operation.onRegistry? <;> rfl

theorem registry_start {environment : Environment} {store : FileStore} {journal : Journal}
    {settings : Settings} {session : Session}
    (started : Session.start environment store journal settings = .ok session) :
    session.registry = Registry.empty.performAll (Builtin.all.map .register) := by
  obtain ⟨_, offer⟩ := ofSession_start started
  rw [← Registry.registerAll_eq_performAll]
  exact congrArg Snapshot.registry offer

/--
What is registered after some operations: under each name what came first since
the name was taken out last, the built-in commands before all others.
-/
structure Registers (session : Session) (operations : List Operation) : Prop where
  find?_iff : ∀ name command, session.registry.find? name = some command ↔
    Registry.CameFirst name command
      (Builtin.all.map .register ++ operations.filterMap Operation.onRegistry?)
  gone : ∀ {name : String} {before after : List Operation},
    operations = before ++ .unregister name :: after →
      (∀ command, .register command ∈ after → command.name ≠ name) →
        session.registry.contains name = false

theorem registers_performAll {environment : Environment} {store : FileStore} {journal : Journal}
    {settings : Settings} {session : Session}
    (started : Session.start environment store journal settings = .ok session)
    (operations : List Operation) : (session.performAll operations).Registers operations where
  find?_iff name command := by
    rw [registry_performAll, registry_start started, ← Registry.performAll_append]
    exact Registry.find?_performAll_eq_some_iff _ name command
  gone := by
    rintro name before after rfl unused
    rw [registry_performAll, List.filterMap_append, Registry.performAll_append,
      Registry.contains_eq_false_iff]
    have freed := Registry.find?_unregister
      (session.registry.performAll (before.filterMap Operation.onRegistry?)) name name
    rw [if_pos rfl] at freed
    refine Registry.find?_performAll_of_free freed fun command asked => ?_
    obtain ⟨operation, member, same⟩ := List.mem_filterMap.mp asked
    cases operation with
    | register other =>
        cases same
        exact unused _ member
    | _ => cases same

/-- What one operation leaves as it was. -/
structure Confines (session : Session) (operation : Operation) : Prop where
  words : operation.isOnWords = false →
    (session.perform operation).completion.words = session.completion.words
  commands : operation.isOnCommands = false →
    (session.perform operation).registry = session.registry ∧
      (session.perform operation).completion.commands = session.completion.commands
  refused : session.refuses operation = true →
    ∃ journal, session.perform operation = { session with journal }

/--
After any operations on a started session the registry has what came first, the
index has the registered names and the words that last, and completes a command
by those of them with the stem; the next operation touches nothing but what it
is about.
-/
theorem index_of_reachable {environment : Environment} {store : FileStore} {journal : Journal}
    {settings : Settings} {session : Session}
    (started : Session.start environment store journal settings = .ok session)
    (operations : List Operation) :
    (session.performAll operations).Indexes operations ∧
      (session.performAll operations).Registers operations ∧
      ∀ operation, (session.performAll operations).Confines operation := by
  have mirrors := (mirrors_start started).performAll operations
  rw [List.nil_append] at mirrors
  exact ⟨mirrors.indexes, registers_performAll started operations, fun operation =>
    { words := words_perform, commands := commands_perform, refused := perform_of_refuses }⟩

/-- One word goes and another one comes. -/
theorem index_of_exchange :
    ∃ session, Session.start {} .empty {} .ephemeral = .ok session ∧
      (session.performAll [.addWord "zoo", .removeWord "zoo", .addWord "zip"]).Indexes
        [.addWord "zoo", .removeWord "zoo", .addWord "zip"] ∧
      (session.performAll [.addWord "zoo", .removeWord "zoo", .addWord "zip"]).candidates "z" =
        ["zip"] := by
  have started : Session.start {} .empty {} .ephemeral = .ok _ := rfl
  exact ⟨_, started, (index_of_reachable started _).1, by decide +kernel⟩

end Session

end CommandShell
