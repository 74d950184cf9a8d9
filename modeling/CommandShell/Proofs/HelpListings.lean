import CommandShell.Proofs.HelpPages
import CommandShell.Proofs.RegisteredCommands
import CommandShell.Proofs.ValidatedCalls

/-!
# Hidden commands in the help

The list of commands has one entry for each command that is not hidden, in the
order of their names, and depends on nothing but the names, descriptions and
usages of these.  With usages it has the same entries and a row below those that
have a usage.  Apart from the list a hidden command is like any other: it is
read, run and described.
-/

namespace CommandShell

/-! ## Rows of the list -/

namespace Help

/-- A row of the list of commands. -/
inductive Row where
  | entry (schema : Schema)
  | usage (schema : Schema)

namespace Row

/-- The blanks that a name lacks to fill its column. -/
def blanksAfter (name : String) : String :=
  String.ofList (List.replicate (12 - name.length) ' ')

/-- What stands below the column of names before a usage. -/
def usageMark : String :=
  "                 usage: "

/-- The characters of a row before its end. -/
def line : Row → String
  | entry schema => "  " ++ (schema.name ++ blanksAfter schema.name) ++ " - " ++
      if schema.description = "" then "No description" else schema.description
  | usage schema => usageMark ++ schema.usage

def text (row : Row) : String :=
  row.line ++ "\n"

def entry? : Row → Option Schema
  | entry schema => some schema
  | usage _ => none

def isEntry (row : Row) : Bool :=
  row.entry?.isSome

end Row

/-- The rows of a command: its entry, and below it the usage, if asked for and not empty. -/
def rowsOf (verbose : Bool) (schema : Schema) : List Row :=
  if verbose && !schema.usage.isEmpty then [.entry schema, .usage schema] else [.entry schema]

def rows (verbose : Bool) (schemas : List Schema) : List Row :=
  schemas.flatMap (rowsOf verbose)

/-- What the list shows of a command. -/
def summary (schema : Schema) : String × String × String :=
  (schema.name, schema.description, schema.usage)

theorem eq_of_mem_rowsOf {verbose : Bool} {schema : Schema} {row : Row}
    (member : row ∈ rowsOf verbose schema) : row = .entry schema ∨ row = .usage schema := by
  unfold rowsOf at member
  split at member <;> simp_all

theorem descriptionOf_eq (schema : Schema) :
    descriptionOf schema =
      if schema.description = "" then "No description" else schema.description := by
  simp only [descriptionOf, orElse, String.isEmpty_iff]

theorem entryLine_eq (schema : Schema) : entryLine schema = (Row.entry schema).text := by
  have line : entryLine schema = "  " ++ (schema.name ++ Row.blanksAfter schema.name) ++ " - " ++
      descriptionOf schema ++ "\n" := rfl
  rw [line, descriptionOf_eq, Row.text, Row.line]

theorem usageMark_eq : "  " ++ Text.padRight nameWidth "" ++ "   usage: " = Row.usageMark := by
  decide +kernel

theorem usageLine_eq {schema : Schema} (used : schema.usage.isEmpty = false) :
    usageLine schema = (Row.usage schema).text := by
  have line : usageLine schema = if schema.usage.isEmpty then ""
      else "  " ++ Text.padRight nameWidth "" ++ "   usage: " ++ schema.usage ++ "\n" := rfl
  rw [line, used, if_neg Bool.false_ne_true, usageMark_eq, Row.text, Row.line]

theorem usageLine_of_isEmpty {schema : Schema} (unused : schema.usage.isEmpty = true) :
    usageLine schema = "" := by
  simp only [usageLine, unused, if_true]

/-- What a command adds to the list is the text of its rows. -/
theorem entry_eq (verbose : Bool) (schema : Schema) :
    entry verbose schema = String.join ((rowsOf verbose schema).map Row.text) := by
  cases verbose with
  | false => simp [entry, rowsOf, entryLine_eq]
  | true =>
      cases unused : schema.usage.isEmpty with
      | false => simp [entry, rowsOf, unused, entryLine_eq, usageLine_eq unused]
      | true => simp [entry, rowsOf, unused, entryLine_eq, usageLine_of_isEmpty unused]

theorem join_rows (verbose : Bool) (schemas : List Schema) :
    String.join ((rows verbose schemas).map Row.text) =
      String.join (schemas.map (entry verbose)) := by
  induction schemas with
  | nil => rfl
  | cons schema rest ih =>
      rw [rows, List.flatMap_cons, List.map_append, String.join_append, ← entry_eq,
        List.map_cons, String.join_cons, ← ih, rows]

/-- Every command has one entry, with usages or without. -/
theorem filterMap_entry?_rows (verbose : Bool) (schemas : List Schema) :
    (rows verbose schemas).filterMap Row.entry? = schemas := by
  have each : ∀ schema, (rowsOf verbose schema).filterMap Row.entry? = [schema] := by
    intro schema
    unfold rowsOf
    split <;> rfl
  induction schemas with
  | nil => rfl
  | cons schema rest ih =>
      rw [rows, List.flatMap_cons, List.filterMap_append, each, ← rows, ih]
      rfl

/-- Without the rows of usages the rows are those of the plain list. -/
theorem filter_isEntry_rows (schemas : List Schema) :
    (rows true schemas).filter Row.isEntry = rows false schemas := by
  have each : ∀ schema, (rowsOf true schema).filter Row.isEntry = rowsOf false schema := by
    intro schema
    unfold rowsOf
    split <;> rfl
  induction schemas with
  | nil => rfl
  | cons schema rest ih =>
      rw [rows, List.flatMap_cons, List.filter_append, each, ← rows, ih]
      rfl

/-- The entries tell no more of a command than its summary. -/
theorem map_entry_congr {first second : List Schema}
    (same : first.map summary = second.map summary) (verbose : Bool) :
    first.map (entry verbose) = second.map (entry verbose) := by
  have entries : ∀ schemas : List Schema, schemas.map (entry verbose) =
      (schemas.map summary).map fun (name, description, usage) =>
        entry verbose { name, description, usage } := by
    intro schemas
    rw [List.map_map]
    rfl
  rw [entries, entries, same]

/-! ## Rows as lines of text -/

/-- Holds of a line that starts like a row of a usage. -/
def looksLikeUsage (line : String) : Bool :=
  Row.usageMark.toList.isPrefixOf line.toList

/--
Holds of a command whose rows can be told apart in the text of the list: each of
its texts is on one line, and its name does not start with a space.
-/
structure Legible (schema : Schema) : Prop where
  name : '\n' ∉ schema.name.toList
  description : '\n' ∉ schema.description.toList
  usage : '\n' ∉ schema.usage.toList
  dark : ∃ c rest, schema.name.toList = c :: rest ∧ c ≠ ' '

/-- The lines above the rows. -/
def headingLines : List String :=
  ["", "=== Necromancer's Shell - Command Help ===", "", "Available commands:", ""]

/-- The lines below the rows. -/
def closingLines : List String :=
  ["", "Type 'help <command>' for detailed information on a specific command."]

/-- The text of lines that each end in a newline. -/
def textOfLines (lines : List String) : String :=
  String.join (lines.map (· ++ "\n"))

theorem looksLikeUsage_usage (schema : Schema) :
    looksLikeUsage (Row.usage schema).line = true := by
  rw [looksLikeUsage, Row.line, String.toList_append, List.isPrefixOf_iff_prefix]
  exact List.prefix_append Row.usageMark.toList schema.usage.toList

theorem Legible.not_looksLikeUsage_entry {schema : Schema} (legible : Legible schema) :
    looksLikeUsage (Row.entry schema).line = false := by
  obtain ⟨c, rest, name, dark⟩ := legible.dark
  have mark : Row.usageMark.toList = ' ' :: ' ' :: ' ' :: Row.usageMark.toList.drop 3 := by
    decide +kernel
  have third : ∃ later, (Row.entry schema).line.toList = ' ' :: ' ' :: c :: later := by
    simp [Row.line, name]
  obtain ⟨later, chars⟩ := third
  rw [looksLikeUsage, mark, chars]
  simp [List.isPrefixOf, Ne.symm dark]

theorem Legible.newline_not_mem_line {schema : Schema} (legible : Legible schema)
    {verbose : Bool} {row : Row} (member : row ∈ rowsOf verbose schema) :
    '\n' ∉ row.line.toList := by
  have description : '\n' ∉ (if schema.description = "" then "No description"
      else schema.description).toList := by
    split
    · decide
    · exact legible.description
  rcases eq_of_mem_rowsOf member with rfl | rfl
  · simp [Row.line, Row.blanksAfter, legible.name, description]
  · have mark : '\n' ∉ Row.usageMark.toList := by decide +kernel
    simp [Row.line, legible.usage, mark]

/-- Where rows can be told apart, those of usages are the lines that look like one. -/
theorem filter_looksLikeUsage_rows {schemas : List Schema}
    (legible : ∀ schema ∈ schemas, Legible schema) :
    ((rows true schemas).map Row.line).filter (fun line => !looksLikeUsage line) =
      (rows false schemas).map Row.line := by
  have each : ∀ schema ∈ schemas, ∀ row ∈ rowsOf true schema,
      (!looksLikeUsage row.line) = row.isEntry := by
    intro schema member row inRows
    rcases eq_of_mem_rowsOf inRows with rfl | rfl
    · rw [(legible schema member).not_looksLikeUsage_entry]
      rfl
    · rw [looksLikeUsage_usage]
      rfl
  rw [List.filter_map, ← filter_isEntry_rows]
  congr 1
  refine List.filter_congr fun row member => ?_
  obtain ⟨schema, inSchemas, inRows⟩ := List.mem_flatMap.mp member
  exact each schema inSchemas row inRows

theorem newline_not_mem_fixedLines :
    ∀ line ∈ headingLines ++ closingLines, '\n' ∉ line.toList := by
  decide +kernel

theorem heading_eq : heading = textOfLines headingLines := by
  decide +kernel

theorem closing_eq : closing = textOfLines closingLines := by
  decide +kernel

theorem list_eq_textOfLines (verbose : Bool) (schemas : List Schema) :
    list verbose schemas =
      textOfLines (headingLines ++
        (rows verbose (schemas.filter fun schema => !schema.hidden)).map Row.line ++
          closingLines) := by
  have between : ∀ rows : List Row,
      String.join (rows.map Row.text) = textOfLines (rows.map Row.line) := by
    intro rows
    rw [textOfLines, List.map_map]
    rfl
  rw [list, ← join_rows, between, heading_eq, closing_eq]
  simp only [textOfLines, List.map_append, String.join_append]

/--
Holds of two texts where the second is the first without the lines that look
like a usage.
-/
def DropsUsages (full plain : String) : Prop :=
  ∃ lines : List String, (∀ line ∈ lines, '\n' ∉ line.toList) ∧ full = textOfLines lines ∧
    plain = textOfLines (lines.filter fun line => !looksLikeUsage line)

theorem dropsUsages_list {schemas : List Schema}
    (legible : ∀ schema ∈ schemas, schema.hidden = false → Legible schema) :
    DropsUsages (list true schemas) (list false schemas) := by
  have shown : ∀ schema ∈ schemas.filter (fun schema => !schema.hidden), Legible schema := by
    intro schema member
    obtain ⟨inSchemas, visible⟩ := List.mem_filter.mp member
    exact legible schema inSchemas (by simpa using visible)
  refine ⟨_, ?_, list_eq_textOfLines true schemas, ?_⟩
  · intro line member
    simp only [List.mem_append, List.mem_map] at member
    rcases member with (above | ⟨row, inRows, rfl⟩) | below
    · exact newline_not_mem_fixedLines line (List.mem_append_left _ above)
    · obtain ⟨schema, inSchemas, inRows⟩ := List.mem_flatMap.mp inRows
      exact (shown schema inSchemas).newline_not_mem_line inRows
    · exact newline_not_mem_fixedLines line (List.mem_append_right _ below)
  · rw [List.filter_append, List.filter_append, filter_looksLikeUsage_rows shown,
      list_eq_textOfLines]
    rfl

end Help

/-! ## Commands that are not hidden -/

namespace Registry

open Help (summary)

/-- The schemas of the commands that are not hidden, in the order of their names. -/
def visible (registry : Registry) : List Schema :=
  registry.schemas.filter fun schema => !schema.hidden

/-- Holds of the texts of a command that is not hidden. -/
def Shows (registry : Registry) (name description usage : String) : Prop :=
  ∃ command, registry.find? name = some command ∧ command.schema.hidden = false ∧
    command.schema.description = description ∧ command.schema.usage = usage

theorem mem_schemas_iff (registry : Registry) (schema : Schema) :
    schema ∈ registry.schemas ↔ registry.schema? schema.name = some schema := by
  rw [schema?_eq_some_iff]
  constructor
  · intro member
    obtain ⟨command, inValues, rfl⟩ := List.mem_map.mp member
    obtain ⟨entry, inEntries, rfl⟩ := List.mem_map.mp inValues
    refine ⟨entry.2, (NameTable.find?_eq_some_iff_mem _ _ _).mpr ?_, rfl⟩
    have named : entry.2.schema.name = entry.1 := (named_of_mem inEntries).1
    rw [named]
    exact inEntries
  · rintro ⟨command, found, rfl⟩
    have inEntries := (NameTable.find?_eq_some_iff_mem _ _ _).mp found
    exact List.mem_map_of_mem (List.mem_map_of_mem inEntries)

theorem mem_visible_iff (registry : Registry) (schema : Schema) :
    schema ∈ registry.visible ↔
      registry.schema? schema.name = some schema ∧ schema.hidden = false := by
  rw [visible, List.mem_filter, mem_schemas_iff, Bool.not_eq_true']

theorem sorted_visible (registry : Registry) :
    (registry.visible.map Schema.name).Pairwise (· < ·) := by
  have sorted := registry.sorted_names
  rw [← schemas_map_name] at sorted
  exact sorted.sublist (List.filter_sublist.map Schema.name)

theorem shows_iff (registry : Registry) (name description usage : String) :
    registry.Shows name description usage ↔
      (name, description, usage) ∈ registry.visible.map summary := by
  simp only [Shows, List.mem_map, mem_visible_iff, schema?_eq_some_iff, summary, Prod.mk.injEq]
  constructor
  · rintro ⟨command, found, visible, rfl, rfl⟩
    have named : command.schema.name = name := registry.name_of_find? found
    exact ⟨command.schema, ⟨⟨command, named ▸ found, rfl⟩, visible⟩, named, rfl, rfl⟩
  · rintro ⟨schema, ⟨⟨command, found, rfl⟩, visible⟩, rfl, rfl, rfl⟩
    exact ⟨command, found, visible, rfl, rfl⟩

/-- Registries that show the same have the same summaries, in the same order. -/
theorem map_summary_visible_congr {first second : Registry}
    (same : ∀ name description usage,
      first.Shows name description usage ↔ second.Shows name description usage) :
    first.visible.map summary = second.visible.map summary := by
  have sorted : ∀ registry : Registry,
      (registry.visible.map summary).Pairwise fun one other => one.1 < other.1 := by
    intro registry
    have names := registry.sorted_visible
    rw [List.pairwise_map] at names ⊢
    exact names
  have nodup : ∀ registry : Registry, (registry.visible.map summary).Nodup := fun registry =>
    (sorted registry).imp fun less same => String.ne_of_lt less (congrArg Prod.fst same)
  have members : ∀ shown, shown ∈ first.visible.map summary ↔
      shown ∈ second.visible.map summary := fun (name, description, usage) => by
    rw [← shows_iff, ← shows_iff, same]
  refine ((List.perm_ext_iff_of_nodup (nodup first) (nodup second)).mpr members).eq_of_pairwise
    ?_ (sorted first) (sorted second)
  intro one other _ _ less greater
  exact absurd (String.lt_trans less greater) (String.lt_irrefl one.1)

theorem list_schemas_eq (registry : Registry) (verbose : Bool) :
    Help.list verbose registry.schemas = Help.heading ++
      String.join (registry.visible.map (Help.entry verbose)) ++ Help.closing :=
  rfl

/-- Registries that show the same have the same list of commands. -/
theorem list_schemas_congr {first second : Registry}
    (same : ∀ name description usage,
      first.Shows name description usage ↔ second.Shows name description usage)
    (verbose : Bool) :
    Help.list verbose first.schemas = Help.list verbose second.schemas := by
  rw [list_schemas_eq, list_schemas_eq,
    Help.map_entry_congr (map_summary_visible_congr same) verbose]

end Registry

/-! ## Reading does not ask what is hidden -/

namespace Schema

theorem readItems_unhidden (schema : Schema) (tokens : List Token) :
    schema.unhidden.readItems tokens = schema.readItems tokens := by
  have reference : schema.unhidden.reference? = schema.reference? := rfl
  have resolve : schema.unhidden.resolve? = schema.resolve? := rfl
  fun_induction schema.readItems tokens with
  | case1 => rfl
  | case2 token rest noFlag ih => rw [readItems, reference, noFlag, ← ih]
  | case3 token rest found refers unresolved =>
      rw [readItems]
      simp only [*]
      rfl
  | case4 token rest found refers flag resolves type ih =>
      rw [readItems]
      simp only [*, if_true]
  | case5 | case6 | case7 =>
      rw [readItems]
      simp only [*, if_false]

theorem read_unhidden (schema : Schema) (tokens : List Token) :
    schema.unhidden.read tokens = schema.read tokens := by
  rw [read, readItems_unhidden]
  rfl

end Schema

namespace Registry

/-- Registries that have the same schemas, but for what is hidden. -/
def SameButHidden (first second : Registry) : Prop :=
  ∀ name, (first.schema? name).map Schema.unhidden = (second.schema? name).map Schema.unhidden

theorem readTokens_cons_eq (registry : Registry) (head : Token) (tail : List Token) :
    registry.readTokens (head :: tail) =
      match (registry.schema? head.text).map Schema.unhidden with
      | none => .error (.unknownCommand head.text)
      | some schema => schema.read tail := by
  rw [readTokens]
  cases registry.schema? head.text with
  | none => rfl
  | some schema => exact (schema.read_unhidden tail).symm

theorem SameButHidden.readLine_eq {first second : Registry} (same : first.SameButHidden second)
    (line : String) : first.readLine line = second.readLine line := by
  have sameTokens : ∀ tokens, first.readTokens tokens = second.readTokens tokens := by
    intro tokens
    cases tokens with
    | nil => rfl
    | cons head tail => rw [readTokens_cons_eq, readTokens_cons_eq, same]
  simp only [readLine, sameTokens]

/-- What a line is read as depends on the schema of its command alone. -/
theorem readLine_of_schema?_eq {first second : Registry} {line : String} {invocation : Invocation}
    (read : first.readLine line = .ok invocation)
    (same : first.schema? invocation.command = second.schema? invocation.command) :
    second.readLine line = .ok invocation := by
  obtain ⟨tokens, unlined, scanned, readTokens, rfl⟩ :=
    (first.readLine_eq_ok_iff line invocation).mp read
  obtain ⟨head, tail, command, items, rfl, -, -, name, -⟩ :=
    first.exists_items_of_readTokens readTokens
  have sameSchema : first.schema? head.text = second.schema? head.text := name ▸ same
  refine (second.readLine_eq_ok_iff line _).mpr ⟨head :: tail, unlined, scanned, ?_, rfl⟩
  rw [← readTokens]
  simp only [Registry.readTokens, sameSchema]

/-! ## Lines that ask for the list -/

theorem values_view (registry : Registry) (history : Option History) :
    (registry.view history).schemas.values = registry.schemas := by
  simp [view, NameTable.map, NameTable.values, schemas, Function.comp_def]

variable {registry : Registry} (registered : registry.find? "help" = some Builtin.help)
include registered

theorem readLine_help :
    registry.readLine "help" = .ok { command := "help", line := some "help" } := by
  have scanned : Token.scanSome "help" = .ok [⟨"help", false⟩] := by decide +kernel
  refine (registry.readLine_eq_ok_iff _ _).mpr ⟨_, { command := "help" }, scanned, ?_, rfl⟩
  have known := (registry.schema?_eq_some_iff "help" _).mpr ⟨_, registered, rfl⟩
  rw [readTokens, known]
  rfl

theorem readLine_help_verbose :
    registry.readLine "help --verbose" =
      .ok { command := "help", flags := NameTable.empty.insert "verbose" (.switch true)
            line := some "help --verbose" } := by
  have scanned : Token.scanSome "help --verbose" =
      .ok [⟨"help", false⟩, ⟨"--verbose", false⟩] := by
    decide +kernel
  refine (registry.readLine_eq_ok_iff _ _).mpr ⟨_, { command := "help", flags := _ }, scanned,
    ?_, rfl⟩
  have known := (registry.schema?_eq_some_iff "help" _).mpr ⟨_, registered, rfl⟩
  rw [readTokens, known]
  rfl

end Registry

namespace Session

variable {session : Session} {line : String} {invocation : Invocation}

theorem execute_help_list (read : session.readLine line = .ok invocation)
    (registered : session.registry.find? invocation.command = some Builtin.help)
    (bare : invocation.arguments = []) :
    (session.execute line).2 =
      .success (Help.list (invocation.isOn "verbose") session.registry.schemas) := by
  have none : invocation.argument? 0 = none := by rw [Invocation.argument?, bare]; rfl
  have answer : (session.call Builtin.help invocation).answer.1 =
      Builtin.answerHelp invocation (session.registry.view (some session.history)) := rfl
  rw [execute_of_readLine read registered, answer, Builtin.answerHelp, none]
  dsimp only
  rw [Registry.values_view]
  rfl

/-- Where the page of a name is asked for, the schema of the name decides the answer. -/
theorem execute_help_named {name : String} (read : session.readLine line = .ok invocation)
    (registered : session.registry.find? invocation.command = some Builtin.help)
    (asked : invocation.argument? 0 = some name) :
    (session.execute line).2 = match (session.registry.schema? name).map Schema.unhidden with
      | some schema => .success (Help.page schema)
      | none => (Outcome.failure .commandFailed s!"Unknown command: {name}").settled := by
  have seen : (session.registry.view (some session.history)).schemas.find? name =
      session.registry.schema? name := by
    rw [Registry.view, NameTable.find?_map]
    rfl
  have answer : (session.call Builtin.help invocation).answer.1 =
      Builtin.answerHelp invocation (session.registry.view (some session.history)) := rfl
  rw [execute_of_readLine read registered, answer, Builtin.answerHelp, asked]
  simp only [seen]
  cases session.registry.schema? name with
  | none => rfl
  | some schema =>
      dsimp only [Option.map_some]
      rw [Help.page_unhidden]
      rfl

theorem execute_help_page {name : String} {command : Command}
    (read : session.readLine line = .ok invocation)
    (registered : session.registry.find? invocation.command = some Builtin.help)
    (asked : invocation.argument? 0 = some name)
    (found : session.registry.find? name = some command) :
    (session.execute line).2 = .success (Help.page command.schema) := by
  have known : session.registry.schema? name = some command.schema :=
    (session.registry.schema?_eq_some_iff name _).mpr ⟨command, found, rfl⟩
  rw [execute_help_named read registered asked, known]
  dsimp only [Option.map_some]
  rw [Help.page_unhidden]

/-! ## What is hidden -/

/--
What a session promises of hidden commands.  The list has an entry for each
command that is not hidden and for no other; lines are read, commands run and
pages shown whatever is hidden, and the page of a hidden command tells as much
as any other.
-/
structure HidesInList (session : Session) : Prop where
  listed : ∀ {line : String} {invocation : Invocation},
    session.readLine line = .ok invocation →
      session.registry.find? invocation.command = some Builtin.help →
        invocation.arguments = [] →
          (session.execute line).2 =
            .success (Help.list (invocation.isOn "verbose") session.registry.schemas)
  plain : session.registry.find? "help" = some Builtin.help →
    (session.execute "help").2 = .success (Help.list false session.registry.schemas)
  verbose : session.registry.find? "help" = some Builtin.help →
    (session.execute "help --verbose").2 = .success (Help.list true session.registry.schemas)
  rows : ∀ verbose, Help.list verbose session.registry.schemas =
    Help.textOfLines Help.headingLines ++
      String.join ((Help.rows verbose session.registry.visible).map Help.Row.text) ++
        Help.textOfLines Help.closingLines
  entries : ∀ verbose,
    (Help.rows verbose session.registry.visible).filterMap Help.Row.entry? =
      session.registry.visible
  sorted : (session.registry.visible.map Schema.name).Pairwise (· < ·)
  mem_visible_iff : ∀ schema, schema ∈ session.registry.visible ↔
    session.registry.schema? schema.name = some schema ∧ schema.hidden = false
  dropped : (Help.rows true session.registry.visible).filter Help.Row.isEntry =
    Help.rows false session.registry.visible
  /-- Where rows can be told apart, the same holds of the lines of the text. -/
  dropped_lines : (∀ schema ∈ session.registry.visible, Help.Legible schema) →
    Help.DropsUsages (Help.list true session.registry.schemas)
      (Help.list false session.registry.schemas)
  described : ∀ {line : String} {invocation : Invocation} {name : String} {command : Command},
    session.readLine line = .ok invocation →
      session.registry.find? invocation.command = some Builtin.help →
        invocation.argument? 0 = some name → session.registry.find? name = some command →
          (session.execute line).2 = .success (Help.page command.schema) ∧
            Help.Describes command.schema (Help.page command.schema)
  page_unhidden : ∀ schema : Schema, Help.page schema.unhidden = Help.page schema
  pages : ∀ {other : Session} {line : String} {invocation : Invocation} {name : String},
    other.registry.SameButHidden session.registry → session.readLine line = .ok invocation →
      session.registry.find? invocation.command = some Builtin.help →
        other.registry.find? invocation.command = some Builtin.help →
          invocation.argument? 0 = some name → (other.execute line).2 = (session.execute line).2
  runs : ∀ {line : String} {invocation : Invocation} {command : Command},
    session.readLine line = .ok invocation →
      session.registry.find? invocation.command = some command →
        (session.execute line).2 = (session.call command invocation).answer.1.settled
  reads : ∀ other : Registry, other.SameButHidden session.registry →
    ∀ line, other.readLine line = session.readLine line

theorem hidesInList (session : Session) : session.HidesInList where
  listed := execute_help_list
  plain registered := by
    have read : session.readLine "help" = .ok _ := Registry.readLine_help registered
    rw [execute_help_list read registered rfl]
    rfl
  verbose registered := by
    have read : session.readLine "help --verbose" = .ok _ :=
      Registry.readLine_help_verbose registered
    rw [execute_help_list read registered rfl]
    rfl
  rows verbose := by
    rw [Help.join_rows, Registry.list_schemas_eq, Help.heading_eq, Help.closing_eq]
  entries verbose := Help.filterMap_entry?_rows verbose _
  sorted := session.registry.sorted_visible
  mem_visible_iff := session.registry.mem_visible_iff
  dropped := Help.filter_isEntry_rows _
  dropped_lines legible := by
    refine Help.dropsUsages_list fun schema member visible => ?_
    exact legible schema (List.mem_filter.mpr ⟨member, by rw [visible]; rfl⟩)
  described read registered asked found :=
    ⟨execute_help_page read registered asked found, Help.describes_page _⟩
  page_unhidden := Help.page_unhidden
  pages same read registered inOther asked := by
    have readAgain := (same.readLine_eq _).trans read
    rw [execute_help_named readAgain inOther asked, execute_help_named read registered asked, same]
  runs := execute_of_readLine
  reads _ same line := same.readLine_eq line

/-- The same line asks for the list in two sessions that have the help command. -/
theorem execute_help_congr {first second : Session}
    (same : ∀ name description usage, first.registry.Shows name description usage ↔
      second.registry.Shows name description usage)
    {line : String} {invocation : Invocation} (read : first.readLine line = .ok invocation)
    (inFirst : first.registry.find? invocation.command = some Builtin.help)
    (inSecond : second.registry.find? invocation.command = some Builtin.help)
    (bare : invocation.arguments = []) : (first.execute line).2 = (second.execute line).2 := by
  have sameSchema : first.registry.schema? invocation.command =
      second.registry.schema? invocation.command := by
    rw [Registry.schema?, Registry.schema?, inFirst, inSecond]
  have readAgain : second.readLine line = .ok invocation :=
    Registry.readLine_of_schema?_eq read sameSchema
  rw [execute_help_list read inFirst bare, execute_help_list readAgain inSecond bare,
    Registry.list_schemas_congr same]

/--
Sessions that show the same names, descriptions and usages answer every line that
asks for the list alike, whatever they hide and however else their commands
differ; the list has an entry for each command that is not hidden, in order.
-/
theorem lists_what_is_shown {first second : Session}
    (same : ∀ name description usage, first.registry.Shows name description usage ↔
      second.registry.Shows name description usage) :
    first.HidesInList ∧
      (∀ verbose,
        Help.list verbose first.registry.schemas = Help.list verbose second.registry.schemas) ∧
      ∀ {line : String} {invocation : Invocation}, first.readLine line = .ok invocation →
        first.registry.find? invocation.command = some Builtin.help →
          second.registry.find? invocation.command = some Builtin.help →
            invocation.arguments = [] → (first.execute line).2 = (second.execute line).2 :=
  ⟨first.hidesInList, Registry.list_schemas_congr same, execute_help_congr same⟩

/-- A session whose registry comes from operations on a new one. -/
def withCommands (operations : List Registry.Operation) : Session where
  settings := .ephemeral
  environment := {}
  registry := Registry.empty.performAll operations
  completion := .empty
  history := ⟨1, Nat.one_pos, []⟩
  epoch := 0
  journal := {}

/-- A command that is left out of the list. -/
def hiddenCommand (name answer : String) (arity : Arity) : Command :=
  ⟨{ name, usage := name ++ " it", arity, hidden := true },
    fun _ _ journal => (.success answer, journal)⟩

/-- The help beside one hidden command. -/
def beforeHiding : Session :=
  withCommands [.register Builtin.help, .register (hiddenCommand "bury" "done" {})]

/-- The help after other hidden commands, one of which stands under the same name. -/
def afterHiding : Session :=
  withCommands [.register (hiddenCommand "a" "no" {}), .register (constant "b" .silent),
    .register (hiddenCommand "bury" "deeper" ⟨1, 2⟩), .unregister "b", .register Builtin.help]

theorem lists_what_is_shown_hiding :
    (∀ name description usage, beforeHiding.registry.Shows name description usage ↔
      afterHiding.registry.Shows name description usage) ∧
      beforeHiding.HidesInList ∧
      (beforeHiding.execute "help --verbose").2 = (afterHiding.execute "help --verbose").2 ∧
      (beforeHiding.execute "help --verbose").2 = .success
        (Help.heading ++ "  help         - Display help information\n" ++
          "                 usage: help [command] [--verbose]\n" ++ Help.closing) ∧
      (beforeHiding.execute "bury").2 = .success "done" ∧
      (beforeHiding.execute "help bury").2 = .success
        "\n=== bury ===\n\nDescription: No description\n\nUsage: bury it\n\n" := by
  have shown : beforeHiding.registry.visible.map Help.summary =
      afterHiding.registry.visible.map Help.summary := by
    decide +kernel
  have same : ∀ name description usage, beforeHiding.registry.Shows name description usage ↔
      afterHiding.registry.Shows name description usage := by
    intro name description usage
    rw [Registry.shows_iff, Registry.shows_iff, shown]
  have read : beforeHiding.readLine "help --verbose" = .ok _ :=
    Registry.readLine_help_verbose rfl
  obtain ⟨hides, -, alike⟩ := lists_what_is_shown same
  exact ⟨same, hides, alike read rfl rfl rfl, by decide +kernel, by decide +kernel,
    by decide +kernel⟩

end Session

end CommandShell
