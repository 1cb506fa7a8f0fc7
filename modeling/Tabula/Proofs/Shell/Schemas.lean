import Tabula.Proofs.Shell.Reachable
import Tabula.Proofs.Shell.Statements
import Tabula.Proofs.Sql.Pasted

/-!
# Descriptions of tables

A shell describes a table by a statement: it puts the name of the table behind `DESCRIBE`.  That leads
back to the table if its name is a word, as the names of all tables are that statements create.  A
snapshot may hold tables with other names, which are listed but not described, and neither are those
that are listed after them.

## Main statements

- `exists_run_showSchemas`: tables in front of the first one whose name is no word are described.
- `listed_tables_are_described`: what a shell lists and describes, in whatever state it is.
- `spaced_name_is_not_described`: a table with another name.
-/

namespace Tabula

open Sql (Statement)

/-!
# What is shown
-/

/-- A row for each column of a table. -/
def Table.columnRows (table : Table) : RowSet where
  columns := ["Column", "Type", "Constraints"]
  rows := table.schema.columns.map fun column =>
    [.text column.name, .text column.type.display, .text column.summary]

/-- What is printed to describe a table: its declared name and a row for each column. -/
def Table.description (table : Table) : List Printed :=
  .output ("Table: " ++ table.name ++ "\n") ::
    (Grid.draw table.columnRows).map fun line => .output (line ++ "\n")

/-- What is printed to describe tables one after another, each with an empty line behind it. -/
def Table.descriptions (entries : List (String × Table)) : List Printed :=
  entries.flatMap fun entry => entry.2.description ++ [.output "\n"]

theorem Table.descriptions_cons (entry : String × Table) (rest : List (String × Table)) :
    descriptions (entry :: rest) = entry.2.description ++ [.output "\n"] ++ descriptions rest :=
  List.flatMap_cons

namespace Database

/-- What is printed to list the tables. -/
def listing (db : Database) : List Printed :=
  match db.tableNames with
  | [] => [.output "No tables found\n"]
  | names => names.map fun name => .output ("  " ++ name ++ "\n")

/-- What is printed to describe all tables. -/
def descriptions (db : Database) : List Printed :=
  match db.tables with
  | [] => [.output "No tables found\n"]
  | tables => Table.descriptions tables

variable {db : Database}

theorem describe_eq {name : String} {table : Table} (h : db.table name = .ok table) :
    db.describe name = .ok table.columnRows := by
  unfold describe
  rw [h]
  rfl

/-- A listed table is found under every name that is its own in lowercase. -/
theorem WellFormed.table_of_lowercase (h : db.WellFormed) {entry : String × Table}
    (hentry : entry ∈ db.tables) {name : String}
    (hname : Text.lowercase name = Text.lowercase entry.2.name) : db.table name = .ok entry.2 := by
  apply table_eq_ok_iff.mpr
  unfold table?
  rw [hname]
  apply (Keyed.find?_eq_some_iff h.ascending).mpr
  show (Text.lowercase entry.2.schema.name, entry.2) ∈ db.tables
  rw [← h.keyed entry hentry]
  exact hentry

end Database

/-!
# Commands
-/

namespace Session

variable {m : Type -> Type} [Monad m] [LawfulMonad m] [Host m]

/-- A DESCRIBE statement only looks. -/
theorem run_execute_describe {sql name : String}
    (hparse : Statement.parse sql = .ok (.describe name)) (session : Session) :
    (execute (m := m) sql).run.run session =
      pure ((session.database.describe name).map Outcome.rows, session) := by
  have hexecute : (Database.execute (.describe name)).run.run session.database =
      ((session.database.describe name).map Outcome.rows, session.database) := by
    unfold Database.execute
    rw [Change.run_get_bind, Change.run_bind, Change.run_lift]
    cases session.database.describe name with
    | ok rows => rfl
    | error e => rfl
  unfold execute
  rw [hparse]
  dsimp only
  rw [ExceptT.run_bind, StateT.run_bind, run_onDatabase, pure_bind, hexecute]
  cases session.database.describe name with
  | ok rows => rfl
  | error e => rfl

/-- Whatever stands behind DESCRIBE, a session only looks, and answers nothing but rows. -/
theorem exists_run_execute_describe (name : String) (session : Session) :
    exists result : Except Error RowSet,
      (execute (m := m) ("DESCRIBE " ++ name)).run.run session =
        pure (result.map Outcome.rows, session) := by
  cases hparse : Statement.parse ("DESCRIBE " ++ name) with
  | ok statement =>
      rcases Statement.exists_of_parse_describe hparse with ⟨found, rfl⟩
      exact ⟨_, run_execute_describe hparse session⟩
  | error error =>
      unfold execute
      rw [hparse]
      exact ⟨.error error, rfl⟩

end Session

namespace Shell

variable {m : Type -> Type} [Monad m] [LawfulMonad m]

theorem printing_append (shell : Shell) (pieces more : List Printed) :
    shell.printing (pieces ++ more) = (shell.printing pieces).printing more := by
  unfold printing
  rw [List.reverse_append, List.append_assoc]

omit [LawfulMonad m] in
theorem run_printLine (s : String) (shell : Shell) :
    (printLine (m := m) s).run shell = pure ((), shell.printing [.output (s ++ "\n")]) :=
  run_print _ shell

theorem run_listTables (shell : Shell) :
    (listTables (m := m)).run shell =
      pure ((), shell.printing shell.session.database.listing) := by
  unfold listTables Database.listing
  rw [StateT.run_bind, StateT.run_get, pure_bind]
  cases shell.session.database.tableNames with
  | nil => exact run_print _ shell
  | cons name rest =>
      have hlines := run_forM_printLine (m := m) ((name :: rest).map fun name => "  " ++ name) shell
      rw [List.forM_eq_forM, List.forM_map, List.map_map] at hlines
      exact hlines

/-!
# Actions that only print
-/

/-- Whether the action succeeds or not, it changes nothing but what has been printed. -/
def OnlyPrints {α : Type} (action : ExceptT Complaint (StateT Shell m) α) : Prop :=
  forall shell : Shell, exists result pieces,
    action.run.run shell = pure (result, shell.printing pieces)

omit [LawfulMonad m] in
theorem onlyPrints_pure {α : Type} (a : α) :
    OnlyPrints (pure a : ExceptT Complaint (StateT Shell m) α) :=
  fun _ => ⟨.ok a, [], rfl⟩

omit [LawfulMonad m] in
theorem onlyPrints_throw {α : Type} (complaint : Complaint) :
    OnlyPrints (throw complaint : ExceptT Complaint (StateT Shell m) α) :=
  fun _ => ⟨.error complaint, [], rfl⟩

theorem onlyPrints_get : OnlyPrints (get : ExceptT Complaint (StateT Shell m) Shell) :=
  fun shell => ⟨.ok shell, [], run_get_except shell⟩

theorem onlyPrints_lines (lines : List String) :
    OnlyPrints (liftM (lines.forM (printLine (m := m))) : ExceptT Complaint (StateT Shell m) Unit) :=
  fun shell => ⟨.ok (), _, run_lift_except (run_forM_printLine lines shell)⟩

theorem onlyPrints_printLine (s : String) :
    OnlyPrints (liftM (printLine (m := m) s) : ExceptT Complaint (StateT Shell m) Unit) :=
  fun shell => ⟨.ok (), _, run_lift_except (run_printLine s shell)⟩

theorem onlyPrints_bind {α β : Type} {first : ExceptT Complaint (StateT Shell m) α}
    {next : α -> ExceptT Complaint (StateT Shell m) β} (h : OnlyPrints first)
    (hnext : forall a, OnlyPrints (next a)) : OnlyPrints (first >>= next) := by
  intro shell
  rcases h shell with ⟨result, pieces, hfirst⟩
  cases result with
  | ok a =>
      rcases hnext a (shell.printing pieces) with ⟨result, more, hlast⟩
      refine ⟨result, pieces ++ more, ?_⟩
      rw [run_bind_except_of_ok hfirst, hlast, printing_append]
  | error e =>
      refine ⟨.error e, pieces, ?_⟩
      rw [ExceptT.run_bind, StateT.run_bind, hfirst, pure_bind]
      rfl

theorem onlyPrints_forM {α : Type} {action : α -> ExceptT Complaint (StateT Shell m) Unit}
    (h : forall a, OnlyPrints (action a)) (items : List α) : OnlyPrints (items.forM action) := by
  induction items with
  | nil => exact onlyPrints_pure ()
  | cons a rest ih => exact onlyPrints_bind (h a) fun _ => ih

/-!
# Descriptions
-/

variable [Host m]

/-- What a session answers to a DESCRIBE statement is never unexpected. -/
theorem run_describe {shell : Shell} {name : String} {result : Except Error RowSet}
    (h : (Session.execute (m := m) ("DESCRIBE " ++ name)).run.run shell.session =
      pure (result.map Outcome.rows, shell.session)) :
    (describe (m := m) name).run.run shell = pure (result.mapError .failed, shell) := by
  have hsession : (onSession (Session.execute (m := m) ("DESCRIBE " ++ name))).run.run shell =
      pure ((result.map Outcome.rows).mapError .failed, shell) := by
    rw [run_onSession, h, pure_bind]
  unfold describe
  cases result with
  | ok set => exact run_bind_except_of_ok hsession
  | error error =>
      rw [ExceptT.run_bind, StateT.run_bind, hsession, pure_bind]
      rfl

theorem run_showSchema {shell : Shell} {name found : String} {table : Table}
    (hparse : Statement.parse ("DESCRIBE " ++ name) = .ok (.describe found))
    (hfound : shell.session.database.table found = .ok table)
    (hname : shell.session.database.table name = .ok table) :
    (showSchema (m := m) name).run.run shell = pure (.ok (), shell.printing table.description) := by
  have hdescribe := run_describe (Session.run_execute_describe (m := m) hparse shell.session)
  rw [Database.describe_eq hfound] at hdescribe
  unfold showSchema
  rw [run_bind_except_of_ok hdescribe, run_bind_except_of_ok (run_get_except _), hname]
  dsimp only
  rw [run_bind_except_of_ok (run_lift_except (run_printLine _ _))]
  apply (run_lift_except (run_forM_printLine (Grid.draw table.columnRows) _)).trans
  rw [← printing_append]
  rfl

/-- A table with a word for a name is described. -/
theorem run_showSchema_of_isWord {shell : Shell} (h : shell.session.database.WellFormed)
    {entry : String × Table} (hentry : entry ∈ shell.session.database.tables)
    (hword : Sql.IsWord entry.2.name) :
    (showSchema (m := m) entry.2.name).run.run shell =
      pure (.ok (), shell.printing entry.2.description) := by
  rcases Statement.parse_describe_of_isWord hword with ⟨found, hparse, hfound⟩
  exact run_showSchema hparse (h.table_of_lowercase hentry hfound) (h.table_of_lowercase hentry rfl)

theorem onlyPrints_showSchema (name : String) : OnlyPrints (showSchema (m := m) name) := by
  apply onlyPrints_bind
  · intro shell
    rcases Session.exists_run_execute_describe (m := m) name shell.session with ⟨result, hrun⟩
    exact ⟨_, [], run_describe hrun⟩
  · intro set
    refine onlyPrints_bind onlyPrints_get ?_
    intro shell
    cases shell.session.database.table name with
    | error error => exact onlyPrints_throw _
    | ok table =>
        exact onlyPrints_bind (onlyPrints_printLine _) fun _ => onlyPrints_lines (Grid.draw set)

/-- A table is described, with an empty line behind it. -/
def showSpaced (name : String) : ExceptT Complaint (StateT Shell m) Unit := do
  showSchema name
  liftM (printLine (m := m) "")

theorem onlyPrints_showSpaced (name : String) : OnlyPrints (showSpaced (m := m) name) :=
  onlyPrints_bind (onlyPrints_showSchema name) fun _ => onlyPrints_printLine ""

/-- Tables with words for names are described one after another. -/
theorem run_forM_showSpaced {shell : Shell} (h : shell.session.database.WellFormed)
    {entries : List (String × Table)}
    (hentries : forall entry, entry ∈ entries -> entry ∈ shell.session.database.tables)
    (hwords : forall entry, entry ∈ entries -> Sql.IsWord entry.2.name) :
    (entries.forM fun entry => showSpaced (m := m) entry.2.name).run.run shell =
      pure (.ok (), shell.printing (Table.descriptions entries)) := by
  induction entries generalizing shell with
  | nil => rfl
  | cons entry rest ih =>
      rcases List.forall_mem_cons.mp hentries with ⟨hentry, hrest⟩
      rcases List.forall_mem_cons.mp hwords with ⟨hword, hothers⟩
      have hone : (showSpaced (m := m) entry.2.name).run.run shell =
          pure (.ok (), shell.printing (entry.2.description ++ [.output "\n"])) := by
        unfold showSpaced
        rw [run_bind_except_of_ok (run_showSchema_of_isWord h hentry hword),
          run_lift_except (run_printLine _ _), printing_append]
        rfl
      show (showSpaced entry.2.name >>= fun _ =>
        rest.forM fun entry => showSpaced entry.2.name).run.run shell = _
      rw [run_bind_except_of_ok hone, Table.descriptions_cons,
        printing_append _ _ (Table.descriptions rest)]
      exact ih h hrest hothers

theorem run_showSchemas_of_nil {shell : Shell} (htables : shell.session.database.tables = []) :
    (showSchemas (m := m)).run.run shell =
      pure (.ok (), shell.printing [.output "No tables found\n"]) := by
  unfold showSchemas Database.tableNames
  rw [run_bind_except_of_ok (run_get_except shell), htables]
  exact run_lift_except (run_printLine _ shell)

theorem run_showSchemas_of_ne_nil {shell : Shell} {entries : List (String × Table)}
    (htables : shell.session.database.tables = entries) (hne : entries ≠ []) :
    (showSchemas (m := m)).run.run shell =
      (entries.forM fun entry => showSpaced entry.2.name).run.run shell := by
  unfold showSchemas Database.tableNames
  rw [run_bind_except_of_ok (run_get_except shell), htables]
  cases entries with
  | nil => exact absurd rfl hne
  | cons first rest =>
      show (((first :: rest).map fun entry => entry.2.name).forM showSpaced).run.run shell = _
      rw [List.forM_eq_forM, List.forM_map]
      rfl

/-- Tables in front of the first one whose name is no word are described. -/
theorem exists_run_showSchemas {shell : Shell} (h : shell.session.database.WellFormed)
    {front back : List (String × Table)}
    (htables : shell.session.database.tables = front ++ back)
    (hwords : forall entry, entry ∈ front -> Sql.IsWord entry.2.name) :
    exists result more, (showSchemas (m := m)).run.run shell =
      pure (result, shell.printing (Table.descriptions front ++ more)) := by
  by_cases hne : front ++ back = []
  · rcases List.append_eq_nil_iff.mp hne with ⟨rfl, rfl⟩
    exact ⟨_, _, run_showSchemas_of_nil htables⟩
  · have hfront := run_forM_showSpaced (m := m) h
      (fun entry hentry => htables ▸ List.mem_append_left back hentry) hwords
    rcases onlyPrints_forM (fun entry : String × Table => onlyPrints_showSpaced (m := m) entry.2.name)
      back (shell.printing (Table.descriptions front)) with ⟨result, more, hback⟩
    rw [List.forM_eq_forM] at hfront hback
    refine ⟨result, more, ?_⟩
    rw [run_showSchemas_of_ne_nil htables hne, List.forM_eq_forM, List.forM_append,
      run_bind_except_of_ok hfront, printing_append]
    exact hback

theorem run_showSchemas {shell : Shell} (h : shell.session.database.WellFormed)
    (hwords : forall name, name ∈ shell.session.database.tableNames -> Sql.IsWord name) :
    (showSchemas (m := m)).run.run shell =
      pure (.ok (), shell.printing shell.session.database.descriptions) := by
  have hloop := run_forM_showSpaced (m := m) h (fun _ hentry => hentry)
    (List.forall_mem_map.mp hwords)
  unfold Database.descriptions
  cases htables : shell.session.database.tables with
  | nil => exact run_showSchemas_of_nil htables
  | cons first rest =>
      rw [htables] at hloop
      rw [run_showSchemas_of_ne_nil htables (List.cons_ne_nil _ _)]
      exact hloop

theorem run_tables_command (shell : Shell) :
    (runCommand (m := m) ".tables".toList).run shell =
      pure (true, shell.printing shell.session.database.listing) := by
  have hword : Text.firstWord ".tables".toList = (".tables".toList, []) := by decide
  have hcommand : command (m := m) (String.ofList ".tables".toList) ".tables" (argument? []) =
      liftM (listTables (m := m)) := rfl
  rw [run_runCommand hword (by decide), hcommand, run_lift_except (run_listTables shell), pure_bind]
  rfl

theorem run_schema_command {shell : Shell} {result : Except Complaint Unit} {pieces : List Printed}
    (hschemas : (showSchemas (m := m)).run.run shell = pure (result, shell.printing pieces)) :
    (runCommand (m := m) ".schema".toList).run shell =
      pure (true, shell.printing (pieces ++ acknowledgement ".schema" result)) := by
  have hword : Text.firstWord ".schema".toList = (".schema".toList, []) := by decide
  have hcommand : command (m := m) (String.ofList ".schema".toList) ".schema" (argument? []) =
      showSchemas := rfl
  rw [run_runCommand hword (by decide), hcommand, hschemas, pure_bind, printing_append]

end Shell

/-!
# Names of tables
-/

/-- The tables that statements create have words for names. -/
theorem Database.isWord_of_executeSql {db : Database} (h : db.WellFormed)
    (hwords : forall name, name ∈ db.tableNames -> Sql.IsWord name) (sql : String) :
    forall name, name ∈ ((executeSql sql).run.run db).2.tableNames -> Sql.IsWord name := by
  have hnames : forall db : Database, (forall name, name ∈ db.tableNames -> Sql.IsWord name) <->
      db.plain.All fun table => Sql.IsWord table.schema.name := by
    intro db
    unfold tableNames plain PlainDatabase.All
    rw [List.forall_mem_map, List.forall_mem_map]
    rfl
  apply (hnames _).mpr
  apply (follows_executeSql h sql).viewed _ ((hnames db).mp hwords)
  intro outcome plain hok
  apply (PlainDatabase.all_executeSql (PlainTable.kept_of_schema fun schema =>
    Sql.IsWord schema.name) _ ((hnames db).mp hwords) hok).1
  intro name columns hprintable
  exact hprintable.1.isWord

namespace Shell

/-- A shell lists all its tables and, if their names are words, describes all of them, each by its
declared name and a row for each of its columns.  If some are not, it describes those at least that
are listed in front of the first of these.  A name that is no word does not lead to its table: behind
`DESCRIBE` it stands for none or for one with another name. -/
theorem listed_tables_are_described {World : Type} [Host (StateM World)] {shell : Shell}
    (h : Reachable World shell) :
    (runCommand (m := StateM World) ".tables".toList).run shell =
        pure (true, shell.printing shell.session.database.listing) ∧
      ((forall name, name ∈ shell.session.database.tableNames -> Sql.IsWord name) ->
        (runCommand (m := StateM World) ".schema".toList).run shell =
          pure (true, shell.printing shell.session.database.descriptions)) ∧
      (forall front back, shell.session.database.tables = front ++ back ->
        (forall entry, entry ∈ front -> Sql.IsWord entry.2.name) ->
          exists more, (runCommand (m := StateM World) ".schema".toList).run shell =
            pure (true, shell.printing (Table.descriptions front ++ more))) ∧
      forall name found, ¬ Sql.IsWord name ->
        Statement.parse ("DESCRIBE " ++ name) = .ok (.describe found) ->
          Text.lowercase found ≠ Text.lowercase name := by
  refine ⟨run_tables_command shell, ?_, ?_, ?_⟩
  · intro hwords
    rw [run_schema_command (run_showSchemas h.wellFormed hwords)]
    exact congrArg (fun pieces => pure (true, shell.printing pieces)) (List.append_nil _)
  · intro front back htables hwords
    rcases exists_run_showSchemas (m := StateM World) h.wellFormed htables hwords with
      ⟨result, more, hschemas⟩
    refine ⟨more ++ acknowledgement ".schema" result, ?_⟩
    rw [run_schema_command hschemas, List.append_assoc]
  · intro name found hname hparse hsame
    exact hname (Statement.isWord_of_parse_describe hparse hsame)

/-- A snapshot with a table of a given name and another one. -/
def namedSnapshot (name : String) : Snapshot where
  version := "1.0.0"
  tables := [("1", ⟨⟨name, [⟨"a", .int, []⟩], none⟩, [], 1⟩),
    ("2", ⟨⟨"zoo", [⟨"b", .text, [.unique]⟩], none⟩, [], 1⟩)]
  createdAt := 0
  updatedAt := 0

def namedTables (name : String) : List (String × Table) :=
  [(Text.lowercase name, { schema := ⟨name, [⟨"a", .int, []⟩], none⟩, indexes := [none] }),
    ("zoo", { schema := ⟨"zoo", [⟨"b", .text, [.unique]⟩], none⟩
              indexes := [some { column := "b" }] })]

theorem reachable_named {name : String} (h : (namedSnapshot name).rebuild = .ok (namedTables name)) :
    Reachable Disk (loaded (namedTables name) 0) := by
  apply reachable_of_snapshot _ h
  have hcounters : 1 < UInt64.size := by decide
  constructor
  · exact List.pairwise_pair.mpr (by decide : "1" < "2")
  · unfold namedSnapshot
    simp only [List.forall_mem_cons]
    exact ⟨⟨nofun, hcounters⟩, ⟨nofun, hcounters⟩, nofun⟩
  · exact Nat.zero_lt_of_lt hcounters
  · exact Nat.zero_lt_of_lt hcounters

/-- What is printed for a reserved word in capital letters and for another name. -/
def namedDescriptions : List Printed := [
  .output "Table: SELECT\n",
  .output "┌────────┬──────┬─────────────┐\n",
  .output "│ Column │ Type │ Constraints │\n",
  .output "├────────┼──────┼─────────────┤\n",
  .output "│ a      │ INT  │ NONE        │\n",
  .output "└────────┴──────┴─────────────┘\n",
  .output "(1 row)\n",
  .output "\n",
  .output "Table: zoo\n",
  .output "┌────────┬──────┬─────────────┐\n",
  .output "│ Column │ Type │ Constraints │\n",
  .output "├────────┼──────┼─────────────┤\n",
  .output "│ b      │ TEXT │ UNIQUE      │\n",
  .output "└────────┴──────┴─────────────┘\n",
  .output "(1 row)\n",
  .output "\n"]

theorem listed_tables_are_described_sample :
    Reachable Disk (loaded (namedTables "SELECT") 0) ∧
      (forall name, name ∈ (loaded (namedTables "SELECT") 0).session.database.tableNames ->
        Sql.IsWord name) ∧
      (runCommand (m := StateM Disk) ".schema".toList).run (loaded (namedTables "SELECT") 0) =
        pure (true, (loaded (namedTables "SELECT") 0).printing namedDescriptions) := by
  have hreachable : Reachable Disk (loaded (namedTables "SELECT") 0) :=
    reachable_named (by decide +kernel)
  have hwords : forall name, name ∈ (loaded (namedTables "SELECT") 0).session.database.tableNames ->
      Sql.IsWord name := by decide
  have hdescriptions : (loaded (namedTables "SELECT") 0).session.database.descriptions =
      namedDescriptions := by decide +kernel
  have hrun := (listed_tables_are_described hreachable).2.1 hwords
  rw [hdescriptions] at hrun
  exact ⟨hreachable, hwords, hrun⟩

/-- A name with a blank is listed, but not described, and hides the tables behind it. -/
theorem spaced_name_is_not_described :
    Reachable Disk (loaded (namedTables "two words") 0) ∧
      (loaded (namedTables "two words") 0).session.database.listing =
        [.output "  two words\n", .output "  zoo\n"] ∧
      (((runCommand (m := StateM Disk) ".schema".toList).run
          (loaded (namedTables "two words") 0)).run {}).1 =
        (true, (loaded (namedTables "two words") 0).printing
          [.error "Error: Syntax error at line 1, column 14: Unexpected input after end of statement, found identifier 'words'\n"]) := by
  refine ⟨reachable_named (by decide +kernel), by decide, ?_⟩
  decide +kernel

end Shell
end Tabula
