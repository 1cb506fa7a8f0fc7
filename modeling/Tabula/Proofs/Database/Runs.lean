import Tabula.Proofs.Database.Refinement

/-!
# Runs do not show the indexes

Texts executed one after the other get the same answers from a database and from a plain database,
which has no indexes, and leave the same rows and counters.
-/

namespace Tabula

open Sql (Condition JoinClause Projection)

namespace Database

/-- The answers to texts executed one after the other, and the database after them. -/
def answers : List String -> Database -> List (Except Error Outcome) × Database
  | [], db => ([], db)
  | sql :: rest, db =>
      let (answer, next) := (executeSql sql).run.run db
      let (others, last) := answers rest next
      (answer :: others, last)

end Database

namespace PlainDatabase

/-- The answers to texts executed one after the other, and the database after them.  A text that
fails leaves the database as it was. -/
def answers : List String -> PlainDatabase -> List (Except Error Outcome) × PlainDatabase
  | [], db => ([], db)
  | sql :: rest, db =>
      match db.executeSql sql with
      | .error e =>
          let (others, last) := answers rest db
          (.error e :: others, last)
      | .ok (outcome, next) =>
          let (others, last) := answers rest next
          (.ok outcome :: others, last)

end PlainDatabase

namespace Database

/-- A run on a well-formed database is the run on the plain database, answer by answer. -/
theorem answers_eq_plain {db : Database} (h : db.WellFormed) (texts : List String) :
    (db.answers texts).1 = (db.plain.answers texts).1 ∧
      (db.answers texts).2.plain = (db.plain.answers texts).2 ∧
      (db.answers texts).2.WellFormed := by
  induction texts generalizing db with
  | nil => exact ⟨rfl, rfl, h⟩
  | cons sql rest ih =>
      have hfollows := follows_executeSql h sql
      rw [Database.answers, PlainDatabase.answers]
      generalize (executeSql sql).run.run db = result at hfollows
      generalize db.plain.executeSql sql = expected at hfollows
      cases hfollows with
      | failed e =>
          rcases ih h with ⟨hanswers, hplain, hlast⟩
          exact ⟨congrArg (List.cons (.error e)) hanswers, hplain, hlast⟩
      | done outcome next hnext =>
          rcases ih hnext with ⟨hanswers, hplain, hlast⟩
          exact ⟨congrArg (List.cons (.ok outcome)) hanswers, hplain, hlast⟩

end Database

namespace PlainDatabase

variable {db : PlainDatabase} {name : String} {table : PlainTable}

theorem onRows_eq {α : Type} (htable : db.table name = .ok table) {condition : Option Condition}
    {keep : Row -> Bool} (hkeep : table.schema.rowFilter condition = .ok keep)
    (step : (Row -> Bool) -> PlainTable -> Except Error (α × PlainTable)) :
    db.onRows name condition step =
      (step keep table).map fun result =>
        ((result.1, table.schema.name),
          { db with tables := Keyed.insert (Text.lowercase name) result.2 db.tables }) := by
  unfold onRows onTable
  rw [htable]
  simp only [Result.ok_bind, hkeep]
  cases step keep table with
  | error e => rfl
  | ok result => rfl

end PlainDatabase

namespace Database

variable {db db' : Database} {name : String}

/-- The rows of a table are the rows of the plain table. -/
theorem rows_of_plain {table : PlainTable}
    (h : db'.plain = { db.plain with
      tables := Keyed.insert (Text.lowercase name) table db.plain.tables }) :
    (db'.table? name).map Table.rows = some table.rows := by
  have hfound : Keyed.find? (Text.lowercase name) db'.plain.tables = some table := by
    rw [h]
    simp only
    rw [Keyed.find?_insert_self]
  unfold plain at hfound
  rw [Keyed.find?_map] at hfound
  rcases Option.map_eq_some_iff.mp hfound with ⟨found, hname, hplain⟩
  unfold table?
  rw [hname, ← hplain]
  rfl

variable {table : Table} {condition : Option Condition} {keep : Row -> Bool}

theorem execute_select_all (h : db.WellFormed) (htable : db.table? name = some table)
    (hkeep : table.schema.rowFilter condition = .ok keep) :
    (execute (.select .all name none condition)).run.run db =
      (.ok (.rows (Table.project table.schema.fields (table.rows.filter keep))), db) := by
  have hselect : db.select .all name none condition =
      .ok (Table.project table.schema.fields (table.rows.filter keep)) := by
    rw [h.select_eq]
    unfold PlainDatabase.select
    rw [plain_table, table_eq_ok_iff.mpr htable]
    show (table.schema.rowFilter condition >>= _) = _
    rw [hkeep]
    rfl
  simp only [execute, Change.run_bind, Change.run_get, Change.run_lift, hselect]
  rfl

theorem execute_delete (h : db.WellFormed) (htable : db.table? name = some table)
    (hkeep : table.schema.rowFilter condition = .ok keep) :
    exists db', (execute (.delete name condition)).run.run db =
        (.ok (.deleted (table.rows.filter keep).length table.name), db') ∧
      (db'.table? name).map Table.rows = some (table.rows.filter fun row => !keep row) := by
  have hplain : db.plain.table name = .ok table.plain := by
    rw [plain_table, table_eq_ok_iff.mpr htable]
    rfl
  have hexpected : db.plain.execute (.delete name condition) = _ :=
    congrArg (· >>= _) (PlainDatabase.onRows_eq hplain hkeep PlainTable.delete)
  rcases (follows_execute h (.delete name condition)).result_eq hexpected with ⟨db', hrun, hdb'⟩
  exact ⟨db', hrun, rows_of_plain hdb'⟩

theorem execute_update (h : db.WellFormed) (htable : db.table? name = some table)
    (hkeep : table.schema.rowFilter condition = .ok keep) {assignments : List (String × Value)}
    {outcome : Outcome} {db' : Database}
    (hrun : (execute (.update name assignments condition)).run.run db = (.ok outcome, db')) :
    outcome = .updated (table.rows.filter keep).length table.name ∧
      exists bound, (db'.table? name).map Table.rows =
        some (table.rows.map fun row => if keep row then PlainTable.assigned bound row else row) := by
  have hplain : db.plain.table name = .ok table.plain := by
    rw [plain_table, table_eq_ok_iff.mpr htable]
    rfl
  have hfollows := follows_execute h (.update name assignments condition)
  rw [hrun] at hfollows
  have hexpected := hfollows.expected_eq rfl
  have honRows := PlainDatabase.onRows_eq hplain hkeep (PlainTable.update assignments)
  simp only [PlainDatabase.execute] at hexpected
  rw [honRows] at hexpected
  cases hupdate : table.plain.update assignments keep with
  | error e =>
      rw [hupdate] at hexpected
      cases hexpected
  | ok result =>
      rw [hupdate] at hexpected
      rcases result with ⟨count, table'⟩
      rcases PlainTable.update_eq_ok_iff.mp hupdate with ⟨bound, _, _, _, hcount, htable'⟩
      have hpair := Prod.mk.inj (Except.ok.inj hexpected)
      refine ⟨?_, bound, ?_⟩
      · rw [← hpair.1, hcount]
        rfl
      · rw [rows_of_plain hpair.2.symm, htable']
        rfl

/-!
# Runs from an empty database
-/

/-- Texts executed one after the other on an empty database get the answers that a database without
indexes gives, and leave the same rows and counters.  Queries, updates and deletions with the same
condition work on the same rows, which looking at every row finds. -/
theorem indexes_are_invisible (createdAt : Nat) (texts : List String) :
    (answers texts { createdAt }).1 = (PlainDatabase.answers texts { createdAt }).1 ∧
      (answers texts { createdAt }).2.plain = (PlainDatabase.answers texts { createdAt }).2 ∧
      forall name table condition keep,
        (answers texts { createdAt }).2.table? name = some table ->
        table.schema.rowFilter condition = .ok keep ->
          (execute (.select .all name none condition)).run.run (answers texts { createdAt }).2 =
            (.ok (.rows (Table.project table.schema.fields (table.rows.filter keep))),
              (answers texts { createdAt }).2) ∧
          (exists db',
            (execute (.delete name condition)).run.run (answers texts { createdAt }).2 =
              (.ok (.deleted (table.rows.filter keep).length table.name), db') ∧
            (db'.table? name).map Table.rows = some (table.rows.filter fun row => !keep row)) ∧
          forall assignments outcome db',
            (execute (.update name assignments condition)).run.run (answers texts { createdAt }).2 =
              (.ok outcome, db') ->
            outcome = .updated (table.rows.filter keep).length table.name ∧
              exists bound, (db'.table? name).map Table.rows =
                some (table.rows.map fun row =>
                  if keep row then PlainTable.assigned bound row else row) := by
  have hempty : WellFormed { createdAt } := WellFiled.nil
  rcases answers_eq_plain hempty texts with ⟨hanswers, hplain, hlast⟩
  refine ⟨hanswers, hplain, ?_⟩
  intro name table condition keep htable hkeep
  refine ⟨execute_select_all hlast htable hkeep, execute_delete hlast htable hkeep, ?_⟩
  intro assignments outcome db' hrun
  exact execute_update hlast htable hkeep hrun

def sampleTexts : List String := [
  "CREATE TABLE Pets (id INT UNIQUE)",
  "INSERT INTO pets (id) VALUES (7)"]

def samplePets : Table where
  schema := ⟨"Pets", [⟨"id", .int, [.unique]⟩], none⟩
  rows := [⟨1, [.integer 7]⟩]
  nextRowId := 2
  indexes := [some { column := "id", entries := [(.integer 7, [1])] }]

theorem indexes_are_invisible_sample :
    (answers sampleTexts {}).2.table? "PETS" = some samplePets ∧
      (execute (.select .all "PETS" none (some ⟨⟨none, "ID"⟩, .integer 7⟩))).run.run
          (answers sampleTexts {}).2 =
        (.ok (.rows ⟨["id"], [[.integer 7]]⟩), (answers sampleTexts {}).2) := by
  have htable : (answers sampleTexts {}).2.table? "PETS" = some samplePets := by decide +kernel
  have hkeep : samplePets.schema.rowFilter (some ⟨⟨none, "ID"⟩, .integer 7⟩) =
      .ok (Filter.mk ⟨0, "id", .int, [.unique]⟩ (.integer 7)).admits := rfl
  exact ⟨htable, ((indexes_are_invisible 0 sampleTexts).2.2 "PETS" samplePets _ _ htable hkeep).1⟩

end Database
end Tabula
