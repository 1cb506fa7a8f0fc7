import Tabula.Proofs.Keyed
import Tabula.Proofs.Plain.Database
import Tabula.Proofs.Plain.Sound

/-!
# Properties that steps keep

A property of tables that every step of a table keeps and every table has that a statement creates
is kept by every statement: where all tables of a database have it, all of them have it afterwards.
-/

namespace Tabula

open Sql (Condition Statement)

/-- The steps of one table keep a property. -/
structure PlainTable.Kept (property : PlainTable -> Prop) : Prop where
  insert : forall {table table' : PlainTable} {columns : List String} {values : List Value}
    {id : Nat}, property table -> table.insert columns values = .ok (id, table') -> property table'
  update : forall {table table' : PlainTable} {assignments : List (String × Value)}
    {keep : Row -> Bool} {count : Nat},
    property table -> table.update assignments keep = .ok (count, table') -> property table'
  delete : forall {table table' : PlainTable} {keep : Row -> Bool} {count : Nat},
    property table -> table.delete keep = .ok (count, table') -> property table'

/-- No step changes a schema. -/
theorem PlainTable.kept_of_schema (property : Schema -> Prop) :
    PlainTable.Kept fun table => property table.schema where
  insert := by
    intro table table' columns values id h hok
    rcases insert_eq_ok_iff.mp hok with ⟨_, _, _, _, htable⟩
    rw [htable]
    exact h
  update := by
    intro table table' assignments keep count h hok
    rcases update_eq_ok_iff.mp hok with ⟨_, _, _, _, _, htable⟩
    rw [htable]
    exact h
  delete := by
    intro table table' keep count h hok
    cases hok
    exact h

namespace PlainDatabase

/-- All tables of a database have a property. -/
def All (property : PlainTable -> Prop) (db : PlainDatabase) : Prop :=
  forall entry, entry ∈ db.tables -> property entry.2

variable {α : Type} {db db' : PlainDatabase} {property : PlainTable -> Prop}

theorem mem_of_table_eq_ok {name : String} {table : PlainTable} (h : db.table name = .ok table) :
    (Text.lowercase name, table) ∈ db.tables := by
  unfold PlainDatabase.table at h
  cases hfound : Keyed.find? (Text.lowercase name) db.tables with
  | none =>
      rw [hfound] at h
      cases h
  | some other =>
      rw [hfound] at h
      cases h
      exact Keyed.mem_of_find? hfound

theorem all_onTable (h : db.All property) {name : String}
    {step : PlainTable -> Except Error (α × PlainTable)}
    (hstep : forall {table a table'}, property table -> step table = .ok (a, table') ->
      property table')
    {a : α} (hok : db.onTable name step = .ok (a, db')) :
    db'.All property ∧ db'.createdAt = db.createdAt := by
  rcases Result.bind_eq_ok_iff.mp hok with ⟨table, htable, hrest⟩
  rcases Result.bind_eq_ok_iff.mp hrest with ⟨⟨b, table'⟩, hresult, hpair⟩
  cases hpair
  refine ⟨?_, rfl⟩
  intro entry hentry
  rcases Keyed.mem_of_mem_insert hentry with hnew | hold
  · rw [hnew]
    exact hstep (h _ (mem_of_table_eq_ok htable)) hresult
  · exact h entry hold

theorem all_onRows (h : db.All property) {name : String} {condition : Option Condition}
    {step : (Row -> Bool) -> PlainTable -> Except Error (α × PlainTable)}
    (hstep : forall {keep table a table'}, property table -> step keep table = .ok (a, table') ->
      property table')
    {result : α × String} (hok : db.onRows name condition step = .ok (result, db')) :
    db'.All property ∧ db'.createdAt = db.createdAt := by
  rcases Result.bind_eq_ok_iff.mp hok with ⟨table, _, hrest⟩
  rcases Result.bind_eq_ok_iff.mp hrest with ⟨keep, _, hrest⟩
  rcases Result.bind_eq_ok_iff.mp hrest with ⟨⟨a, next⟩, hnext, hpair⟩
  cases hpair
  exact all_onTable h hstep hnext

theorem all_createTable (h : db.All property) {schema : Schema}
    (hnew : property { schema := schema.derivePrimaryKey }) {u : Unit}
    (hok : db.createTable schema = .ok (u, db')) :
    db'.All property ∧ db'.createdAt = db.createdAt := by
  unfold createTable at hok
  simp only at hok
  split at hok
  · cases hok
  · rcases Result.bind_eq_ok_iff.mp hok with ⟨_, _, hpair⟩
    cases hpair
    refine ⟨?_, rfl⟩
    intro entry hentry
    rcases Keyed.mem_of_mem_insert hentry with hcreated | hold
    · rw [hcreated]
      exact hnew
    · exact h entry hold

theorem all_execute (hkept : PlainTable.Kept property) (h : db.All property) {statement : Statement}
    (hnew : forall name columns, statement = .createTable name columns ->
      property { schema := ({ name, columns } : Schema).derivePrimaryKey })
    {outcome : Outcome} (hok : db.execute statement = .ok (outcome, db')) :
    db'.All property ∧ db'.createdAt = db.createdAt := by
  cases statement with
  | createTable name columns =>
      rcases Result.bind_eq_ok_iff.mp hok with ⟨⟨u, next⟩, hnext, hpair⟩
      cases hpair
      exact all_createTable h (hnew name columns rfl) hnext
  | insert name columns values =>
      rcases Result.bind_eq_ok_iff.mp hok with ⟨table, _, hrest⟩
      rcases Result.bind_eq_ok_iff.mp hrest with ⟨⟨id, next⟩, hnext, hpair⟩
      cases hpair
      exact all_onTable h hkept.insert hnext
  | select projection name join condition =>
      rcases Result.bind_eq_ok_iff.mp hok with ⟨rows, _, hpair⟩
      cases hpair
      exact ⟨h, rfl⟩
  | update name assignments condition =>
      rcases Result.bind_eq_ok_iff.mp hok with ⟨⟨⟨count, table⟩, next⟩, hnext, hpair⟩
      cases hpair
      exact all_onRows h hkept.update hnext
  | delete name condition =>
      rcases Result.bind_eq_ok_iff.mp hok with ⟨⟨⟨count, table⟩, next⟩, hnext, hpair⟩
      cases hpair
      exact all_onRows h hkept.delete hnext
  | showTables =>
      cases hok
      exact ⟨h, rfl⟩
  | describe name =>
      rcases Result.bind_eq_ok_iff.mp hok with ⟨rows, _, hpair⟩
      cases hpair
      exact ⟨h, rfl⟩

end PlainDatabase
end Tabula
