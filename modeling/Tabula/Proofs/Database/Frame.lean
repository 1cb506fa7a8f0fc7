import Tabula.Proofs.Database.Reachable

/-!
# What a statement leaves alone

A change writes into the database as it goes and nothing is rolled back, so a statement that failed
halfway would show.  None does: a statement that fails leaves the database as it was, and one that
succeeds leaves alone every table but the one it names.
-/

namespace Tabula

open Sql (Condition Statement)

namespace Database

variable {α : Type}

/-!
# Effects
-/

/-- The databases agree on everything except what is filed under one key. -/
structure SameElsewhere (key : String) (db db' : Database) : Prop where
  createdAt_eq : db'.createdAt = db.createdAt
  mem_iff : forall entry, entry.1 ≠ key -> (entry ∈ db'.tables <-> entry ∈ db.tables)

/-- The databases agree on everything except the rows and indexes of the table of one name and its
counter, which has gone up by `count`. -/
structure ChangesOnly (name : String) (count : Nat) (db db' : Database) : Prop where
  elsewhere : SameElsewhere (Text.lowercase name) db db'
  named : exists table table',
    db.table? name = some table ∧ db'.table? name = some table' ∧
      table'.schema = table.schema ∧ table'.nextRowId = table.nextRowId + count

/-- What a statement that succeeds may do to a database. -/
def Effect (db db' : Database) : Statement -> Prop
  | .createTable name columns =>
      db.table? name = none ∧
        db'.table? name = some (Table.new ({ name, columns } : Schema).derivePrimaryKey) ∧
        SameElsewhere (Text.lowercase name) db db'
  | .insert name _ _ => ChangesOnly name 1 db db'
  | .update name _ _ => ChangesOnly name 0 db db'
  | .delete name _ => ChangesOnly name 0 db db'
  | .select _ _ _ _ => db' = db
  | .showTables => db' = db
  | .describe _ => db' = db

theorem Effect.eq_of_not_mutation {db db' : Database} {statement : Statement}
    (h : Effect db db' statement) (hmutation : statement.isMutation = false) : db' = db := by
  cases statement with
  | select | showTables | describe => exact h
  | createTable | insert | update | delete => cases hmutation

/-!
# Filing one table
-/

variable {db db' : Database}

theorem table?_insert (db : Database) (name : String) (table : Table) :
    ({ db with tables := Keyed.insert (Text.lowercase name) table db.tables } : Database).table?
      name = some table := by
  unfold table?
  rw [Keyed.find?_insert_self]

theorem WellFormed.sameElsewhere (h : db.WellFormed) (key : String) (table : Table) :
    SameElsewhere key db { db with tables := Keyed.insert key table db.tables } := by
  constructor
  · rfl
  · intro entry hentry
    rw [Keyed.mem_insert h.ascending]
    constructor
    · intro hmem
      rcases hmem with hnew | hold
      · exact absurd (congrArg Prod.fst hnew) hentry
      · exact hold.1
    · intro hmem
      exact Or.inr ⟨hmem, hentry⟩

theorem createTable_effect (h : db.WellFormed) {schema : Schema}
    (hrun : (createTable schema).run.run db = (.ok (), db')) :
    db.table? schema.name = none ∧
      db'.table? schema.name = some (Table.new schema.derivePrimaryKey) ∧
      SameElsewhere (Text.lowercase schema.name) db db' := by
  rw [run_createTable] at hrun
  by_cases hfound : Keyed.find? (Text.lowercase schema.name) db.tables = none
  · rw [if_neg (by rw [hfound]; exact Bool.false_ne_true)] at hrun
    cases hcheck : schema.check with
    | error e =>
        rw [hcheck] at hrun
        cases hrun
    | ok _ =>
        rw [hcheck] at hrun
        cases hrun
        exact ⟨hfound, table?_insert db schema.name _, h.sameElsewhere _ _⟩
  · rw [if_pos (Option.isSome_iff_ne_none.mpr hfound)] at hrun
    cases hrun

/-!
# Changing one table

A change of one table that keeps its schema changes nothing else.
-/

theorem changesOnly_onTable (h : db.WellFormed) {change : Change Error Table α} {count : Nat}
    (hchange : forall table table' a, table.WellFormed -> change.run.run table = (.ok a, table') ->
      table'.schema = table.schema ∧ table'.nextRowId = table.nextRowId + count)
    {name : String} {a : α} (hrun : (onTable name change).run.run db = (.ok a, db')) :
    ChangesOnly name count db db' := by
  rw [run_onTable] at hrun
  cases hfound : db.table name with
  | error e =>
      rw [hfound] at hrun
      cases hrun
  | ok table =>
      rw [hfound] at hrun
      have htable := table_eq_ok_iff.mp hfound
      rcases Prod.mk.inj hrun with ⟨hresult, hdb'⟩
      -- What the change wrote is filed whether it succeeded or not; here it did.
      have hkept := hchange table (change.run.run table).2 a (h.of_table htable).1
        (Prod.ext hresult rfl)
      rw [← hdb']
      exact ⟨h.sameElsewhere _ _, table, _, htable, table?_insert db name _, hkept⟩

theorem changesOnly_onRows (h : db.WellFormed) {change : (Row -> Bool) -> Change Error Table α}
    {count : Nat}
    (hchange : forall keep, forall table table' a, table.WellFormed ->
      (change keep).run.run table = (.ok a, table') ->
        table'.schema = table.schema ∧ table'.nextRowId = table.nextRowId + count)
    {name : String} {condition : Option Condition} {answer : α × String}
    (hrun : (onRows name condition change).run.run db = (.ok answer, db')) :
    ChangesOnly name count db db' := by
  unfold onRows at hrun
  rw [Change.run_get_bind] at hrun
  rcases Change.run_lift_bind_eq_ok_iff.mp hrun with ⟨table, _, hfilter⟩
  rcases Change.run_lift_bind_eq_ok_iff.mp hfilter with ⟨keep, _, hchanged⟩
  rcases Change.run_bind_eq_ok_iff.mp hchanged with ⟨_, _, honTable, hreturn⟩
  cases hreturn
  exact changesOnly_onTable h (hchange keep) honTable

end Database

/-!
# Changes of a table
-/

namespace Table

variable {table table' : Table}

theorem WellFormed.insert_counts (h : table.WellFormed) {columns : List String}
    {values : List Value} {id : Nat}
    (hrun : (insert columns values).run.run table = (.ok id, table')) :
    table'.schema = table.schema ∧ table'.nextRowId = table.nextRowId + 1 := by
  have hfollows := h.follows_insert columns values
  rw [hrun] at hfollows
  rcases PlainTable.insert_eq_ok_iff.mp (hfollows.expected_eq rfl) with ⟨_, _, _, _, hplain⟩
  exact ⟨congrArg PlainTable.schema hplain, congrArg PlainTable.nextRowId hplain⟩

theorem WellFormed.update_counts (h : table.WellFormed) {assignments : List (String × Value)}
    {keep : Row -> Bool} {count : Nat}
    (hrun : (update assignments keep).run.run table = (.ok count, table')) :
    table'.schema = table.schema ∧ table'.nextRowId = table.nextRowId + 0 := by
  have hfollows := h.follows_update assignments keep
  rw [hrun] at hfollows
  rcases PlainTable.update_eq_ok_iff.mp (hfollows.expected_eq rfl) with ⟨_, _, _, _, _, hplain⟩
  exact ⟨congrArg PlainTable.schema hplain, congrArg PlainTable.nextRowId hplain⟩

theorem WellFormed.delete_counts (h : table.WellFormed) {keep : Row -> Bool} {count : Nat}
    (hrun : (delete keep).run.run table = (.ok count, table')) :
    table'.schema = table.schema ∧ table'.nextRowId = table.nextRowId + 0 := by
  have hfollows := h.follows_delete keep
  rw [hrun] at hfollows
  have hplain := congrArg Prod.snd (Except.ok.inj (hfollows.expected_eq rfl))
  exact ⟨(congrArg PlainTable.schema hplain).symm, (congrArg PlainTable.nextRowId hplain).symm⟩

end Table

/-!
# Statements
-/

namespace Database

variable {db db' : Database}

theorem execute_effect (h : db.WellFormed) {statement : Statement} {outcome : Outcome}
    (hrun : (execute statement).run.run db = (.ok outcome, db')) : Effect db db' statement := by
  cases statement with
  | createTable name columns =>
      rcases Change.run_bind_eq_ok_iff.mp hrun with ⟨_, _, hcreate, hreturn⟩
      cases hreturn
      have heffect := createTable_effect h hcreate
      exact heffect
  | insert name columns values =>
      unfold execute at hrun
      rw [Change.run_get_bind] at hrun
      rcases Change.run_lift_bind_eq_ok_iff.mp hrun with ⟨table, _, hchanged⟩
      rcases Change.run_bind_eq_ok_iff.mp hchanged with ⟨_, _, honTable, hreturn⟩
      cases hreturn
      exact changesOnly_onTable h (fun _ _ _ htable => htable.insert_counts) honTable
  | select projection name join condition =>
      unfold execute at hrun
      rw [Change.run_get_bind] at hrun
      rcases Change.run_lift_bind_eq_ok_iff.mp hrun with ⟨rows, _, hreturn⟩
      cases hreturn
      rfl
  | update name assignments condition =>
      rcases Change.run_bind_eq_ok_iff.mp hrun with ⟨_, _, honRows, hreturn⟩
      cases hreturn
      exact changesOnly_onRows h (fun _ _ _ _ htable => htable.update_counts) honRows
  | delete name condition =>
      rcases Change.run_bind_eq_ok_iff.mp hrun with ⟨_, _, honRows, hreturn⟩
      cases hreturn
      exact changesOnly_onRows h (fun _ _ _ _ htable => htable.delete_counts) honRows
  | showTables =>
      cases hrun
      rfl
  | describe name =>
      unfold execute at hrun
      rw [Change.run_get_bind] at hrun
      rcases Change.run_lift_bind_eq_ok_iff.mp hrun with ⟨rows, _, hreturn⟩
      cases hreturn
      rfl

theorem executeSql_effect (h : db.WellFormed) {sql : String} {outcome : Outcome}
    (hrun : (executeSql sql).run.run db = (.ok outcome, db')) :
    exists statement, Statement.parse sql = .ok statement ∧ Effect db db' statement := by
  rcases Change.run_lift_bind_eq_ok_iff.mp hrun with ⟨statement, hparse, hexecute⟩
  exact ⟨statement, hparse, execute_effect h hexecute⟩

/-- In every reachable database a statement that fails changes nothing, whatever the failure, one
that succeeds has no effect but its own, and a snapshot that is refused changes nothing. -/
theorem statements_keep_to_their_table (createdAt : Nat) (calls : List Call) (sql : String)
    (snapshot : Snapshot) (db' : Database) :
    (forall e, (executeSql sql).run.run (after createdAt calls) = (.error e, db') ->
        db' = after createdAt calls) ∧
      (forall outcome, (executeSql sql).run.run (after createdAt calls) = (.ok outcome, db') ->
        exists statement, Statement.parse sql = .ok statement ∧
          Effect (after createdAt calls) db' statement) ∧
      (forall e, (restore snapshot).run.run (after createdAt calls) = (.error e, db') ->
        db' = after createdAt calls) := by
  have h := wellFormed_after createdAt calls
  refine ⟨?_, ?_, ?_⟩
  · intro e hrun
    have hfollows := follows_executeSql h sql
    rw [hrun] at hfollows
    exact hfollows.eq_of_error rfl
  · intro outcome hrun
    exact executeSql_effect h hrun
  · intro e hrun
    rw [run_restore] at hrun
    cases hrebuild : snapshot.rebuild with
    | error e' =>
        rw [hrebuild] at hrun
        cases hrun
        rfl
    | ok tables =>
        rw [hrebuild] at hrun
        cases hrun

def sampleRefused : Snapshot where
  version := Snapshot.currentVersion
  tables := [("pets", ⟨sampleSchema, [], 1⟩), ("again", ⟨sampleSchema, [], 1⟩)]
  createdAt := 9
  updatedAt := 9

theorem statements_keep_to_their_table_sample :
    (exists e, (executeSql "INSERT INTO pets (id) VALUES (7)").run.run (after 0 sampleCalls) =
        (.error e, after 0 sampleCalls)) ∧
      (exists db', (executeSql "INSERT INTO PETS (id) VALUES (8)").run.run (after 0 sampleCalls) =
          (.ok (.inserted "Pets"), db') ∧
        ChangesOnly "PETS" 1 (after 0 sampleCalls) db') ∧
      (exists e, (restore sampleRefused).run.run (after 0 sampleCalls) =
        (.error e, after 0 sampleCalls)) := by
  have htaken : ((executeSql "INSERT INTO pets (id) VALUES (7)").run.run (after 0 sampleCalls)).1 =
      .error (.valueTaken true "Pets" "Id" (.integer 7)) := by decide +kernel
  have hstored : ((executeSql "INSERT INTO PETS (id) VALUES (8)").run.run (after 0 sampleCalls)).1 =
      .ok (.inserted "Pets") := by decide +kernel
  have hparsed : Statement.parse "INSERT INTO PETS (id) VALUES (8)" =
      .ok (.insert "PETS" ["id"] [.integer 8]) := by decide +kernel
  have hrefused : ((restore sampleRefused).run.run (after 0 sampleCalls)).1 =
      .error (.repeatedSnapshotTable "Pets") := by decide +kernel
  refine ⟨⟨_, Prod.ext htaken ?_⟩, ⟨_, Prod.ext hstored rfl, ?_⟩, ⟨_, Prod.ext hrefused ?_⟩⟩
  · exact (statements_keep_to_their_table 0 sampleCalls _ sampleRefused _).1 _
      (Prod.ext htaken rfl)
  · rcases (statements_keep_to_their_table 0 sampleCalls _ sampleRefused _).2.1 _
      (Prod.ext hstored rfl) with ⟨statement, hstatement, heffect⟩
    rw [hparsed] at hstatement
    cases hstatement
    exact heffect
  · exact (statements_keep_to_their_table 0 sampleCalls "" sampleRefused _).2.2 _
      (Prod.ext hrefused rfl)

end Database
end Tabula
