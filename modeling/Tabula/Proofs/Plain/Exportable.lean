import Tabula.Proofs.Plain.Numbered
import Tabula.Proofs.Sql.Printable

/-!
# Tables that statements make

Statements give columns names without dots and count rows from one.  A table made otherwise may have
neither property, and then what it is exported to may be refused when it is read back.
-/

namespace Tabula

open Sql (Statement)

structure PlainTable.Exportable (table : PlainTable) : Prop where
  dot_not_mem : forall column, column ∈ table.schema.columns -> '.' ∉ column.name.toList
  counter_pos : 0 < table.nextRowId
  ids_pos : forall row, row ∈ table.rows -> 0 < row.id

/-!
# Steps of one table
-/

namespace PlainTable

variable {table table' : PlainTable}

theorem Exportable.numbered (h : table.Exportable) : table.Numbered :=
  ⟨h.counter_pos, h.ids_pos⟩

/-- A step that leaves the schema alone only has to keep the numbering. -/
theorem Exportable.of_schema_eq (h : table.Exportable) (hschema : table'.schema = table.schema)
    (hnumbered : table'.Numbered) : table'.Exportable :=
  ⟨hschema ▸ h.dot_not_mem, hnumbered.counter_pos, hnumbered.ids_pos⟩

theorem kept_exportable : Kept Exportable where
  insert := by
    intro table table' columns values id h hok
    rcases insert_eq_ok_iff.mp hok with ⟨_, _, _, _, htable⟩
    exact h.of_schema_eq (by rw [htable]) (h.numbered.insert hok)
  update := by
    intro table table' assignments keep count h hok
    rcases update_eq_ok_iff.mp hok with ⟨_, _, _, _, _, htable⟩
    exact h.of_schema_eq (by rw [htable]) (h.numbered.update hok)
  delete := by
    intro table table' keep count h hok
    have hnumbered := h.numbered.delete hok
    cases hok
    exact h.of_schema_eq rfl hnumbered

theorem exportable_new {name : String} {columns : List Column}
    (hprintable : (Statement.createTable name columns).Printable) :
    Exportable { schema := ({ name, columns } : Schema).derivePrimaryKey } := by
  have hnumbered := numbered_new ({ name, columns } : Schema).derivePrimaryKey
  refine ⟨?_, hnumbered.counter_pos, hnumbered.ids_pos⟩
  intro column hcolumn
  exact (hprintable.2.all column hcolumn).name.dot_not_mem

end PlainTable

/-!
# Statements
-/

namespace PlainDatabase

variable {db db' : PlainDatabase}

def Exportable (db : PlainDatabase) : Prop :=
  forall entry, entry ∈ db.tables -> entry.2.Exportable

theorem exportable_execute (h : db.Exportable) {statement : Statement}
    (hprintable : statement.Printable) {outcome : Outcome}
    (hok : db.execute statement = .ok (outcome, db')) :
    db'.Exportable ∧ db'.createdAt = db.createdAt := by
  apply all_execute PlainTable.kept_exportable h _ hok
  intro name columns hstatement
  subst hstatement
  exact PlainTable.exportable_new hprintable

/-- What steps keep and tables with printable names and columns begin with, texts keep. -/
theorem all_executeSql {property : PlainTable -> Prop} (hkept : PlainTable.Kept property)
    (hnew : forall {name columns}, (Statement.createTable name columns).Printable ->
      property { schema := ({ name, columns } : Schema).derivePrimaryKey })
    (h : db.All property) {sql : String} {outcome : Outcome}
    (hok : db.executeSql sql = .ok (outcome, db')) :
    db'.All property ∧ db'.createdAt = db.createdAt := by
  rcases Result.bind_eq_ok_iff.mp hok with ⟨statement, hparse, hexecute⟩
  apply all_execute hkept h _ hexecute
  intro name columns hstatement
  subst hstatement
  exact hnew (Statement.parse_printable hparse)

end PlainDatabase
end Tabula
