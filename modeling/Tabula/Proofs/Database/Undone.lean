import Tabula.Proofs.Database.Frame
import Tabula.Proofs.Table.Exact

/-!
# Insertions undone

The key of a new row is held by no other row, so a deletion by this key takes the new row and nothing
else.  Each index drops what it was given: an entry goes with its last id, and NULL was never in.
What stays of the two statements is the counter.
-/

namespace Tabula

open Sql (Condition)

namespace Schema

variable {schema : Schema}

theorem getD_filled {field : Field} (hfield : field ∈ schema.fields) (given : List (Field × Value))
    (before : Field -> Value) :
    (schema.filled given before).getD field.position .null =
      (given.lookup field).getD (before field) := by
  unfold filled
  rw [List.getD_eq_getElem?_getD, List.getElem?_map, getElem?_fields, mem_fields_iff.mp hfield]
  rfl

/-- A column that some name reaches can be named in a condition. -/
theorem WellFormed.bindCondition_name (h : schema.WellFormed) {name : String} {field : Field}
    (hreached : schema.resolve name = .ok field) (v : Value) :
    schema.bindCondition ⟨⟨none, field.column.name⟩, v⟩ = .ok ⟨field, v⟩ := by
  have hname := h.resolve_name (resolve_eq_ok hreached).1 (dot_not_mem_of_resolve hreached)
  unfold bindCondition
  show (schema.resolve field.column.name >>= _) = _
  rw [hname]
  rfl

end Schema

/-!
# One table
-/

namespace Table

variable {table table' : Table} {columns : List String} {values : List Value} {id : Nat}

theorem insert_run_eq_ok (hrun : (insert columns values).run.run table = (.ok id, table')) :
    exists cells, table.schema.complete columns values = .ok cells ∧
      table.checkConstraints cells none = .ok () ∧
      table' = stored { table with nextRowId := table.nextRowId + 1 } ⟨table.nextRowId, cells⟩ := by
  rw [run_insert] at hrun
  cases hcells : table.schema.complete columns values with
  | error e =>
      rw [hcells] at hrun
      cases hrun
  | ok cells =>
      simp only [hcells] at hrun
      cases hcheck : table.checkConstraints cells none with
      | error e =>
          rw [hcheck] at hrun
          cases hrun
      | ok u =>
          rw [hcheck] at hrun
          exact ⟨cells, rfl, hcheck, (Prod.mk.inj hrun).2.symm⟩

/-- Whether a row can be inserted does not depend on the counter. -/
theorem answer_insert_counted {α : Type} (columns : List String) (values : List Value)
    (table : Table) (nextRowId : Nat) (a : α) :
    (((insert columns values).run.run { table with nextRowId }).1.map fun _ => a) =
      ((insert columns values).run.run table).1.map fun _ => a := by
  rw [run_insert, run_insert]
  cases table.schema.complete columns values with
  | error e => rfl
  | ok cells =>
      have hcheck : Table.checkConstraints { table with nextRowId } cells none =
          table.checkConstraints cells none := rfl
      simp only [hcheck]
      cases table.checkConstraints cells none with
      | error e => rfl
      | ok u => rfl

/-- An accepted row is the only one with its key once it is stored. -/
theorem WellFormed.filter_key (h : table.WellFormed) {cells : List Value}
    (haccepts : table.Accepts cells) {field : Field} (hfield : field ∈ table.schema.fields)
    (hkey : field.column.isPrimaryKey = true) :
    ((Row.mk table.nextRowId cells).insertInto table.rows).filter
        (Filter.mk field (cells.getD field.position .null)).admits =
      [⟨table.nextRowId, cells⟩] := by
  have hindexed := Column.isIndexed_of_isPrimaryKey hkey
  have hothers : table.rows.filter (Filter.mk field (cells.getD field.position .null)).admits =
      [] := by
    apply List.filter_eq_nil_iff.mpr
    intro other hother hadmits
    exact haccepts.unique field hfield hindexed (haccepts.keyed field hfield hkey) other hother
      (beq_iff_eq.mp hadmits)
  have hself : (Filter.mk field (cells.getD field.position .null)).admits
      ⟨table.nextRowId, cells⟩ = true := beq_self_eq_true _
  have hrows : (Row.mk table.nextRowId cells).insertInto table.rows = _ :=
    Rows.insertInto_eq_append h.allocated
  rw [hrows, List.filter_append, hothers, List.nil_append, List.filter_cons, if_pos hself,
    List.filter_nil]

/-- An insertion that went through is undone by a deletion of the rows with the new key, but for the
counter. -/
theorem WellFormed.delete_insert (h : table.WellFormed) {field : Field}
    (hfield : field ∈ table.schema.fields) (hkey : field.column.isPrimaryKey = true)
    (hrun : (insert columns values).run.run table = (.ok id, table')) :
    table'.schema = table.schema ∧
      exists given v, table.schema.Gives (columns.zip values) given ∧ (field, v) ∈ given ∧
        v ≠ .null ∧
        (delete (Filter.mk field v).admits).run.run table' =
          (.ok 1, { table with nextRowId := table.nextRowId + 1 }) := by
  rcases insert_run_eq_ok hrun with ⟨cells, hcomplete, hcheck, rfl⟩
  rcases Schema.complete_eq_ok_iff.mp hcomplete with ⟨_, given, hreach, hfitting, hcells⟩
  have hgives := Schema.gives_iff.mpr ⟨hreach, hfitting⟩
  rw [hgives.assign_blankCells] at hcells
  have hlength : cells.length = table.schema.columns.length :=
    (PlainTable.typed_of_complete hcomplete table.nextRowId).length_cells
  rw [h.mirrored.checkConstraints_eq hlength] at hcheck
  have haccepts : table.Accepts cells := checkRow_iff_accepts.mp hcheck
  have hnull := haccepts.keyed field hfield hkey
  refine ⟨rfl, given, cells.getD field.position .null, hgives, ?_, hnull, ?_⟩
  · apply Keyed.mem_of_lookup
    have hcell := Schema.getD_filled hfield given fun _ => .null
    rw [← hcells] at hcell
    rw [hcell] at hnull ⊢
    cases hlookup : given.lookup field with
    | none =>
        rw [hlookup] at hnull
        exact absurd rfl hnull
    | some v => rfl
  · have hfiltered := h.filter_key haccepts hfield hkey
    have hnew : forall other, other ∈ table.rows ->
        other.id ≠ (Row.mk table.nextRowId cells).id := by
      intro other hother
      exact Nat.ne_of_lt (h.allocated other hother)
    have hdropped := (h.mirrored.counted (table.nextRowId + 1)).dropped_stored hlength hnew
    rw [run_delete]
    show (Except.ok (List.filter _ ((Row.mk table.nextRowId cells).insertInto table.rows)).length,
      List.foldl Table.dropped _
        (List.filter _ ((Row.mk table.nextRowId cells).insertInto table.rows))) = _
    rw [hfiltered]
    exact congrArg (Prod.mk (Except.ok 1)) hdropped

end Table

/-!
# Statements
-/

namespace Database

variable {db db' : Database} {name : String} {table : Table}

theorem execute_insert_eq_ok {columns : List String} {values : List Value} {outcome : Outcome}
    (hrun : (execute (.insert name columns values)).run.run db = (.ok outcome, db')) :
    exists table id table', db.table? name = some table ∧
      (Table.insert columns values).run.run table = (.ok id, table') ∧
      db' = { db with tables := Keyed.insert (Text.lowercase name) table' db.tables } := by
  unfold execute at hrun
  rw [Change.run_get_bind] at hrun
  rcases Change.run_lift_bind_eq_ok_iff.mp hrun with ⟨table, htable, hchanged⟩
  rcases Change.run_bind_eq_ok_iff.mp hchanged with ⟨id, _, honTable, hreturn⟩
  cases hreturn
  rw [run_onTable, htable] at honTable
  rcases Prod.mk.inj honTable with ⟨hid, hfiled⟩
  exact ⟨table, id, _, table_eq_ok_iff.mp htable, Prod.ext hid rfl, hfiled.symm⟩

/-- What a deletion does to the table it names. -/
theorem run_execute_delete (htable : db.table? name = some table) {condition : Option Condition}
    {keep : Row -> Bool} (hkeep : table.schema.rowFilter condition = .ok keep) {count : Nat}
    {table' : Table} (hrun : (Table.delete keep).run.run table = (.ok count, table')) :
    (execute (.delete name condition)).run.run db =
      (.ok (.deleted count table.name),
        { db with tables := Keyed.insert (Text.lowercase name) table' db.tables }) := by
  simp only [execute, onRows, Change.run_bind, Change.run_get, Change.run_lift,
    table_eq_ok_iff.mpr htable, hkeep, run_onTable, hrun]
  rfl

theorem answer_execute_insert (htable : db.table? name = some table) (columns : List String)
    (values : List Value) :
    ((execute (.insert name columns values)).run.run db).1 =
      ((Table.insert columns values).run.run table).1.map fun _ => .inserted table.name := by
  simp only [execute, Change.run_bind, Change.run_get, Change.run_lift, run_onTable,
    table_eq_ok_iff.mpr htable]
  cases ((Table.insert columns values).run.run table).1 with
  | error e => rfl
  | ok id => rfl

/-- In every reachable database an insertion that goes through is undone by a deletion of the rows
with its key, however the table and the key column are written: the deletion answers one row and
leaves the database as it was before the insertion, with the counter of the table one higher.  Every
row that could be inserted before can be inserted again. -/
theorem delete_undoes_insert (createdAt : Nat) (calls : List Call)
    (htable : (after createdAt calls).table? name = some table) {field : Field}
    (hfield : field ∈ table.schema.fields) (hkey : field.column.isPrimaryKey = true)
    {columns : List String} {values : List Value} {outcome : Outcome}
    (hrun : (execute (.insert name columns values)).run.run (after createdAt calls) =
      (.ok outcome, db')) :
    exists given v undone,
      table.schema.Gives (columns.zip values) given ∧ (field, v) ∈ given ∧ v ≠ .null ∧
      table.schema.bindCondition ⟨⟨none, field.column.name⟩, v⟩ = .ok ⟨field, v⟩ ∧
      undone = { after createdAt calls with
        tables := Keyed.insert (Text.lowercase name) { table with nextRowId := table.nextRowId + 1 }
          (after createdAt calls).tables } ∧
      (forall again condition, Text.lowercase again = Text.lowercase name ->
        table.schema.bindCondition condition = .ok ⟨field, v⟩ ->
          (execute (.delete again (some condition))).run.run db' =
            (.ok (.deleted 1 table.name), undone)) ∧
      forall columns' values',
        ((execute (.insert name columns' values')).run.run undone).1 =
          ((execute (.insert name columns' values')).run.run (after createdAt calls)).1 := by
  have h := wellFormed_after createdAt calls
  rcases h.of_table htable with ⟨hwellFormed, _⟩
  rcases execute_insert_eq_ok hrun with ⟨own, id, table', hown, hinsert, rfl⟩
  rw [htable] at hown
  cases hown
  rcases hwellFormed.delete_insert hfield hkey hinsert with
    ⟨hschema, given, v, hgives, hgiven, hnull, hdelete⟩
  have hreach := (Schema.gives_iff.mp hgives).1
  rcases Schema.mem_of_reach hreach hgiven with ⟨column, _, hreached⟩
  have hname := hwellFormed.sound.schema_wellFormed.bindCondition_name hreached v
  refine ⟨given, v, _, hgives, hgiven, hnull, hname, rfl, ?_, ?_⟩
  · intro again condition hagain hcondition
    have htable' := table?_insert (after createdAt calls) again table'
    rw [hagain] at htable'
    have hkeep : table'.schema.rowFilter (some condition) = .ok (Filter.mk field v).admits := by
      rw [hschema]
      unfold Schema.rowFilter
      simp only [hcondition]
      rfl
    have hdeleted := run_execute_delete htable' hkeep hdelete
    simp only [hagain, Keyed.insert_insert h.ascending] at hdeleted
    rw [hdeleted]
    unfold Table.name
    rw [hschema]
  · intro columns' values'
    have hundone := table?_insert (after createdAt calls) name
      { table with nextRowId := table.nextRowId + 1 }
    rw [answer_execute_insert hundone, answer_execute_insert htable]
    exact Table.answer_insert_counted columns' values' table _ _

theorem delete_undoes_insert_sample :
    exists db' undone,
      (execute (.insert "pets" ["NAME", "pets.id"] [.text "Tim", .integer 8])).run.run
          (after 0 sampleCalls) = (.ok (.inserted "Pets"), db') ∧
      (execute (.delete "PETS" (some ⟨⟨some "pets", "ID"⟩, .integer 8⟩))).run.run db' =
        (.ok (.deleted 1 "Pets"), undone) ∧
      undone.tables = [("pets", { sampleTable with nextRowId := 3 })] := by
  have htables : (after 0 sampleCalls).tables = [("pets", sampleTable)] := by decide +kernel
  have htable : (after 0 sampleCalls).table? "pets" = some sampleTable := by
    unfold table?
    rw [htables]
    decide +kernel
  have hinserted : ((execute (.insert "pets" ["NAME", "pets.id"] [.text "Tim", .integer 8])).run.run
      (after 0 sampleCalls)).1 = .ok (.inserted "Pets") := by decide +kernel
  have hkey : ⟨0, "Id", .int, [.primaryKey]⟩ ∈ sampleTable.schema.fields := by decide
  rcases delete_undoes_insert 0 sampleCalls htable hkey rfl (Prod.ext hinserted rfl) with
    ⟨given, v, undone, hgives, hgiven, _, _, hundone, hdelete, _⟩
  have hreach : sampleTable.schema.reach (["NAME", "pets.id"].zip [.text "Tim", .integer 8]) =
      .ok [(⟨1, "name", .text, []⟩, .text "Tim"),
        (⟨0, "Id", .int, [.primaryKey]⟩, .integer 8)] := by decide +kernel
  rw [(Schema.gives_iff.mp hgives).1] at hreach
  rw [Except.ok.inj hreach] at hgiven
  have hv : v = .integer 8 := by simpa using hgiven
  subst hv
  refine ⟨_, undone, Prod.ext hinserted rfl, ?_, ?_⟩
  · exact hdelete "PETS" ⟨⟨some "pets", "ID"⟩, .integer 8⟩ (by decide +kernel) rfl
  · rw [hundone, htables]
    decide +kernel

end Database
end Tabula
