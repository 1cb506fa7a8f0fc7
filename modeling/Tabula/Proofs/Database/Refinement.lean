import Tabula.Proofs.Keyed
import Tabula.Proofs.Plain.Database
import Tabula.Proofs.Query.Access
import Tabula.Proofs.Table.WellFormed

/-!
# Databases follow plain databases

A well-formed database files each of its well-formed tables under the lowercase form of the table's
name.  Every statement on such a database answers like the statement on the plain database and
leaves a well-formed database; a statement that fails leaves the database as it was.
-/

namespace Tabula

open Sql (ColumnRef Condition JoinClause Projection Statement)

/-!
# Filed tables
-/

structure WellFiled (tables : List (String × Table)) : Prop where
  ascending : Keyed.Ascending tables
  keyed : forall entry, entry ∈ tables -> entry.1 = Text.lowercase entry.2.schema.name
  wellFormed : forall entry, entry ∈ tables -> entry.2.WellFormed

namespace WellFiled

variable {tables : List (String × Table)}

theorem nil : WellFiled [] where
  ascending := List.Pairwise.nil
  keyed := by
    intro entry hentry
    cases hentry
  wellFormed := by
    intro entry hentry
    cases hentry

theorem insert (h : WellFiled tables) {key : String} {table : Table} (htable : table.WellFormed)
    (hkey : key = Text.lowercase table.schema.name) :
    WellFiled (Keyed.insert key table tables) := by
  constructor
  · exact Keyed.ascending_insert h.ascending
  · intro entry hentry
    rcases (Keyed.mem_insert h.ascending).mp hentry with hnew | hold
    · rw [hnew]
      exact hkey
    · exact h.keyed entry hold.1
  · intro entry hentry
    rcases (Keyed.mem_insert h.ascending).mp hentry with hnew | hold
    · rw [hnew]
      exact htable
    · exact h.wellFormed entry hold.1

theorem erase (h : WellFiled tables) (key : String) : WellFiled (Keyed.erase key tables) := by
  have hmem : forall entry, entry ∈ Keyed.erase key tables -> entry ∈ tables := by
    intro entry hentry
    exact (Keyed.erase_sublist key tables).subset hentry
  constructor
  · exact Keyed.ascending_erase h.ascending
  · intro entry hentry
    exact h.keyed entry (hmem entry hentry)
  · intro entry hentry
    exact h.wellFormed entry (hmem entry hentry)

end WellFiled

namespace Database

variable {α : Type}

abbrev WellFormed (db : Database) : Prop :=
  WellFiled db.tables

/-- A database without its indexes. -/
def plain (db : Database) : PlainDatabase where
  tables := db.tables.map fun entry => (entry.1, entry.2.plain)
  createdAt := db.createdAt

variable {db : Database}

theorem table_eq_ok_iff {name : String} {table : Table} :
    db.table name = .ok table <-> db.table? name = some table := by
  unfold Database.table
  cases db.table? name with
  | none => simp
  | some other => simp

theorem WellFormed.of_table (h : db.WellFormed) {name : String} {table : Table}
    (htable : db.table? name = some table) :
    table.WellFormed ∧ Text.lowercase name = Text.lowercase table.schema.name := by
  have hmem := Keyed.mem_of_find? htable
  exact ⟨h.wellFormed _ hmem, h.keyed _ hmem⟩

theorem plain_table (db : Database) (name : String) :
    db.plain.table name = (db.table name).map Table.plain := by
  unfold PlainDatabase.table Database.table Database.table? plain
  rw [Keyed.find?_map]
  cases Keyed.find? (Text.lowercase name) db.tables with
  | none => rfl
  | some table => rfl

/-!
# Changing one table
-/

theorem run_onTable (name : String) (change : Change Error Table α) (db : Database) :
    (onTable name change).run.run db =
      match db.table name with
      | .error e => (.error e, db)
      | .ok table =>
          ((change.run.run table).1,
            { db with
              tables := Keyed.insert (Text.lowercase name) (change.run.run table).2 db.tables }) := by
  unfold onTable
  simp only [Change.run_bind, Change.run_get, Change.run_lift]
  cases db.table name with
  | error e => rfl
  | ok table => rfl

theorem follows_onTable (h : db.WellFormed) {change : Change Error Table α}
    {step : PlainTable -> Except Error (α × PlainTable)}
    (hchange : forall table : Table, table.WellFormed ->
      Change.Follows Table.plain table.Keeps table (change.run.run table) (step table.plain))
    (name : String) :
    Change.Follows plain WellFormed db ((onTable name change).run.run db)
      (db.plain.onTable name step) := by
  rw [run_onTable]
  unfold PlainDatabase.onTable
  rw [plain_table]
  cases htable : db.table name with
  | error e => exact .failed e
  | ok table =>
      have hfound := table_eq_ok_iff.mp htable
      rcases h.of_table hfound with ⟨hwellFormed, hname⟩
      have hfollows := hchange table hwellFormed
      show Change.Follows plain WellFormed db _ (step table.plain >>= _)
      simp only
      generalize change.run.run table = result at hfollows
      generalize step table.plain = expected at hfollows
      cases hfollows with
      | failed e =>
          -- the unchanged table is put back
          rw [Keyed.insert_eq_self h.ascending hfound]
          exact .failed e
      | done a table' hkeeps =>
          apply Change.Follows.done_of_eq a
          · apply h.insert hkeeps.wellFormed
            rw [hname, hkeeps.schema_eq]
          · unfold plain
            simp only
            rw [Keyed.insert_map]

/-- A change that follows a step follows it when the table is named in the answer. -/
theorem follows_onRows (h : db.WellFormed) {change : (Row -> Bool) -> Change Error Table α}
    {step : (Row -> Bool) -> PlainTable -> Except Error (α × PlainTable)}
    (hchange : forall keep, forall table : Table, table.WellFormed ->
      Change.Follows Table.plain table.Keeps table ((change keep).run.run table)
        (step keep table.plain))
    (name : String) (condition : Option Condition) :
    Change.Follows plain WellFormed db ((onRows name condition change).run.run db)
      (db.plain.onRows name condition step) := by
  unfold onRows PlainDatabase.onRows
  simp only [Change.run_bind, Change.run_get, Change.run_lift]
  rw [plain_table]
  cases htable : db.table name with
  | error e => exact .failed e
  | ok table =>
      show Change.Follows plain WellFormed db _ (table.schema.rowFilter condition >>= _)
      simp only
      cases table.schema.rowFilter condition with
      | error e => exact .failed e
      | ok keep =>
          have hfollows := follows_onTable h (hchange keep) name
          show Change.Follows plain WellFormed db _ (db.plain.onTable name (step keep) >>= _)
          simp only
          generalize (onTable name (change keep)).run.run db = result at hfollows
          generalize db.plain.onTable name (step keep) = expected at hfollows
          cases hfollows with
          | failed e => exact .failed e
          | done a db' hdb' => exact .done (a, table.name) db' hdb'

/-!
# Queries
-/

theorem WellFormed.select_eq (h : db.WellFormed) (projection : Projection) (name : String)
    (join : Option JoinClause) (condition : Option Condition) :
    db.select projection name join condition =
      db.plain.select projection name join condition := by
  unfold Database.select PlainDatabase.select
  rw [plain_table]
  cases htable : db.table name with
  | error e => rfl
  | ok table =>
      have hmirrored := (h.of_table (table_eq_ok_iff.mp htable)).1.mirrored
      cases join with
      | none => exact hmirrored.selectOne_eq projection condition
      | some clause =>
          show (db.table clause.table >>= _) = (db.plain.table clause.table >>= _)
          rw [plain_table]
          cases hright : db.table clause.table with
          | error e => rfl
          | ok right =>
              have hmirrored' := (h.of_table (table_eq_ok_iff.mp hright)).1.mirrored
              exact Join.run_eq hmirrored' clause projection condition

theorem plain_showTables (db : Database) : db.plain.showTables = db.showTables := by
  unfold PlainDatabase.showTables Database.showTables tableNames plain
  simp only [List.map_map]
  rfl

theorem plain_describe (db : Database) (name : String) :
    db.plain.describe name = db.describe name := by
  unfold PlainDatabase.describe Database.describe
  rw [plain_table]
  cases db.table name with
  | error e => rfl
  | ok table => rfl

/-!
# Statements
-/

theorem run_createTable (schema : Schema) (db : Database) :
    (createTable schema).run.run db =
      if (Keyed.find? (Text.lowercase schema.name) db.tables).isSome then
        (.error (.tableExists schema.name), db)
      else
        match schema.check with
        | .error e => (.error e, db)
        | .ok _ =>
            (.ok (), { db with
              tables := Keyed.insert (Text.lowercase schema.name)
                (Table.new schema.derivePrimaryKey) db.tables }) := by
  unfold createTable
  rw [Change.run_bind, Change.run_get]
  simp only
  cases (Keyed.find? (Text.lowercase schema.name) db.tables).isSome with
  | true => rfl
  | false =>
      simp only [Bool.false_eq_true, if_false, Change.run_bind, Change.run_lift]
      cases schema.check with
      | error e => rfl
      | ok _ => rfl

theorem follows_createTable (h : db.WellFormed) (schema : Schema) :
    Change.Follows plain WellFormed db ((createTable schema).run.run db)
      (db.plain.createTable schema) := by
  rw [run_createTable]
  unfold PlainDatabase.createTable
  have hfound : (Keyed.find? (Text.lowercase schema.name) db.plain.tables).isSome =
      (Keyed.find? (Text.lowercase schema.name) db.tables).isSome := by
    unfold plain
    rw [Keyed.find?_map, Option.isSome_map]
  simp only [hfound]
  cases (Keyed.find? (Text.lowercase schema.name) db.tables).isSome with
  | true => exact .failed _
  | false =>
      simp only [Bool.false_eq_true, if_false]
      cases hcheck : schema.check with
      | error e => exact .failed e
      | ok _ =>
          have hschema := Schema.check_eq_ok_iff.mp hcheck
          apply Change.Follows.done_of_eq ()
          · exact h.insert (Table.wellFormed_new hschema) rfl
          · unfold plain
            simp only
            rw [← Keyed.insert_map]
            rfl

theorem run_select (db : Database) (projection : Projection) (name : String)
    (join : Option JoinClause) (condition : Option Condition) :
    (execute (.select projection name join condition)).run.run db =
      ((db.select projection name join condition).map Outcome.rows, db) := by
  show ((liftM (db.select projection name join condition) : Change Error Database RowSet) >>=
    fun set => pure (Outcome.rows set)).run.run db = _
  rw [Change.run_bind, Change.run_lift]
  cases db.select projection name join condition with
  | error e => rfl
  | ok set => rfl

/-- Every statement on a well-formed database follows the statement on the plain database. -/
theorem follows_execute (h : db.WellFormed) (statement : Statement) :
    Change.Follows plain WellFormed db ((execute statement).run.run db)
      (db.plain.execute statement) := by
  cases statement with
  | createTable name columns =>
      have hfollows := follows_createTable h { name, columns }
      simp only [execute, PlainDatabase.execute, Change.run_bind]
      generalize (createTable { name, columns }).run.run db = result at hfollows
      generalize db.plain.createTable { name, columns } = expected at hfollows
      cases hfollows with
      | failed e => exact .failed e
      | done a db' hdb' => exact .done (Outcome.created name) db' hdb'
  | insert name columns values =>
      have hfollows := follows_onTable h
        (fun table htable => htable.follows_insert columns values) name
      simp only [execute, PlainDatabase.execute, Change.run_bind, Change.run_get, Change.run_lift]
      rw [plain_table]
      cases db.table name with
      | error e => exact .failed e
      | ok table =>
          show Change.Follows plain WellFormed db _
            (db.plain.onTable name (PlainTable.insert columns values) >>= _)
          simp only
          generalize (onTable name (Table.insert columns values)).run.run db = result at hfollows
          generalize db.plain.onTable name (PlainTable.insert columns values) = expected at hfollows
          cases hfollows with
          | failed e => exact .failed e
          | done a db' hdb' => exact .done (Outcome.inserted table.name) db' hdb'
  | select projection name join condition =>
      simp only [execute, PlainDatabase.execute, Change.run_bind, Change.run_get, Change.run_lift]
      rw [h.select_eq]
      cases db.plain.select projection name join condition with
      | error e => exact .failed e
      | ok rows => exact .done (Outcome.rows rows) db h
  | update name assignments condition =>
      have hfollows := follows_onRows h
        (fun keep table htable => htable.follows_update assignments keep) name condition
      simp only [execute, PlainDatabase.execute, Change.run_bind]
      generalize (onRows name condition (Table.update assignments)).run.run db = result at hfollows
      generalize db.plain.onRows name condition (PlainTable.update assignments) = expected
        at hfollows
      cases hfollows with
      | failed e => exact .failed e
      | done a db' hdb' => exact .done (Outcome.updated a.1 a.2) db' hdb'
  | delete name condition =>
      have hfollows := follows_onRows h
        (fun keep table htable => htable.follows_delete keep) name condition
      simp only [execute, PlainDatabase.execute, Change.run_bind]
      generalize (onRows name condition Table.delete).run.run db = result at hfollows
      generalize db.plain.onRows name condition PlainTable.delete = expected at hfollows
      cases hfollows with
      | failed e => exact .failed e
      | done a db' hdb' => exact .done (Outcome.deleted a.1 a.2) db' hdb'
  | showTables =>
      show Change.Follows plain WellFormed db (.ok (Outcome.rows db.showTables), db)
        (.ok (Outcome.rows db.plain.showTables, db.plain))
      rw [plain_showTables]
      exact .done (Outcome.rows db.showTables) db h
  | describe name =>
      simp only [execute, PlainDatabase.execute, Change.run_bind, Change.run_get, Change.run_lift]
      rw [plain_describe]
      cases db.describe name with
      | error e => exact .failed e
      | ok rows => exact .done (Outcome.rows rows) db h

theorem follows_executeSql (h : db.WellFormed) (sql : String) :
    Change.Follows plain WellFormed db ((executeSql sql).run.run db)
      (db.plain.executeSql sql) := by
  unfold executeSql PlainDatabase.executeSql
  rw [Change.run_bind, Change.run_lift]
  cases Statement.parse sql with
  | error e => exact .failed e
  | ok statement => exact follows_execute h statement

end Database
end Tabula
