import Tabula.Proofs.Json.Fields
import Tabula.Proofs.Json.RoundTrip

/-!
# Documents of snapshots

A snapshot is read back from the document that it is written as, provided its maps are in order and
its numbers fit into words.
-/

namespace Tabula

open Table (NamedRow)

/-!
# Schemas
-/

namespace Column

theorem choice?_type (type : ColumnType) :
    (Json.text type.display).choice? typeChoices = some type := by
  cases type <;> rfl

theorem choice?_constraint (constraint : Constraint) :
    (Json.text constraint.display).choice? constraintChoices = some constraint := by
  cases constraint <;> rfl

theorem ofJson?_toJson (column : Column) : ofJson? column.toJson = some column := by
  have hfields : column.toJson.fields? ["name", "type", "constraints"] false =
      some [some (.text column.name), some (.text column.type.display),
        some (.array (column.constraints.map fun constraint => .text constraint.display))] := by
    apply Json.fields?_record
    · rfl
    · decide
  have hconstraints : (column.constraints.map fun constraint => Json.text constraint.display).mapM
      (Json.choice? constraintChoices) = some column.constraints := by
    apply Json.mapM_map
    intro constraint _
    exact choice?_constraint constraint
  unfold ofJson?
  rw [hfields]
  show ((Json.text column.type.display).choice? typeChoices >>= fun type =>
    (column.constraints.map fun constraint => Json.text constraint.display).mapM
      (Json.choice? constraintChoices) >>= fun constraints =>
        some (Column.mk column.name type constraints)) = some column
  rw [choice?_type, hconstraints]
  rfl

end Column

namespace Schema

theorem nullable?_text (name : Option String) :
    (name.elim Json.null Json.text).nullable? Json.text? = some name := by
  cases name with
  | none => rfl
  | some name => rfl

theorem ofJson?_toJson (schema : Schema) : ofJson? schema.toJson = some schema := by
  have hfields : schema.toJson.fields? ["name", "columns", "primaryKey"] false =
      some [some (.text schema.name), some (.array (schema.columns.map Column.toJson)),
        some (schema.primaryKey.elim .null .text)] := by
    apply Json.fields?_record
    · rfl
    · decide
  have hcolumns : (schema.columns.map Column.toJson).mapM Column.ofJson? = some schema.columns := by
    apply Json.mapM_map
    intro column _
    exact Column.ofJson?_toJson column
  unfold ofJson?
  rw [hfields]
  show ((schema.columns.map Column.toJson).mapM Column.ofJson? >>= fun columns =>
    (schema.primaryKey.elim Json.null Json.text).nullable? Json.text? >>= fun primaryKey =>
      some (Schema.mk schema.name columns primaryKey)) = some schema
  rw [hcolumns, nullable?_text]
  rfl

end Schema

/-!
# Rows
-/

namespace Table.NamedRow

structure Encodable (row : NamedRow) : Prop where
  id_lt : row.id < UInt64.size
  ascending : Keyed.Ascending row.cells

theorem Encodable.ofJson?_toJson {row : NamedRow} (h : row.Encodable) :
    ofJson? row.toJson = some row := by
  have hfields : row.toJson.fields? ["rowId", "data"] false =
      some [some (.natural row.id),
        some (.record (row.cells.map fun cell => (cell.1, cell.2.toJson)))] := by
    apply Json.fields?_record
    · rfl
    · decide
  have hcells : (Json.record (row.cells.map fun cell => (cell.1, cell.2.toJson))).filed?
      Value.ofJson? = some row.cells := by
    apply Json.filed?_record h.ascending
    intro cell _
    exact Value.ofJson?_toJson cell.2
  unfold ofJson?
  rw [hfields]
  show ((Json.natural row.id).natural? >>= fun id =>
    (Json.record (row.cells.map fun cell => (cell.1, cell.2.toJson))).filed? Value.ofJson? >>=
      fun cells => some (NamedRow.mk id cells)) = some row
  rw [Json.natural?_natural h.id_lt, hcells]
  rfl

end Table.NamedRow

/-!
# Tables
-/

namespace TableSnapshot

structure Encodable (stored : TableSnapshot) : Prop where
  rows : forall row, row ∈ stored.rows -> row.Encodable
  nextRowId_lt : stored.nextRowId < UInt64.size

theorem Encodable.ofJson?_toJson {stored : TableSnapshot} (h : stored.Encodable) :
    ofJson? stored.toJson = some stored := by
  have hfields : stored.toJson.fields? ["schema", "rows", "nextRowId"] false =
      some [some stored.schema.toJson, some (.array (stored.rows.map NamedRow.toJson)),
        some (.natural stored.nextRowId)] := by
    apply Json.fields?_record
    · rfl
    · decide
  have hrows : (stored.rows.map NamedRow.toJson).mapM NamedRow.ofJson? = some stored.rows := by
    apply Json.mapM_map
    intro row hrow
    exact (h.rows row hrow).ofJson?_toJson
  unfold ofJson?
  rw [hfields]
  show (Schema.ofJson? stored.schema.toJson >>= fun schema =>
    (stored.rows.map NamedRow.toJson).mapM NamedRow.ofJson? >>= fun rows =>
      (Json.natural stored.nextRowId).natural? >>= fun nextRowId =>
        some (TableSnapshot.mk schema rows nextRowId)) = some stored
  rw [Schema.ofJson?_toJson, hrows, Json.natural?_natural h.nextRowId_lt]
  rfl

end TableSnapshot

/-!
# Snapshots
-/

namespace Snapshot

structure Encodable (snapshot : Snapshot) : Prop where
  ascending : Keyed.Ascending snapshot.tables
  tables : forall entry, entry ∈ snapshot.tables -> entry.2.Encodable
  createdAt_lt : snapshot.createdAt < UInt64.size
  updatedAt_lt : snapshot.updatedAt < UInt64.size

theorem Encodable.ofJson?_toJson {snapshot : Snapshot} (h : snapshot.Encodable) :
    ofJson? snapshot.toJson = some snapshot := by
  have hfields : snapshot.toJson.fields? ["version", "tables", "createdAt", "updatedAt"] false =
      some [some (.text snapshot.version),
        some (.record (snapshot.tables.map fun entry => (entry.1, entry.2.toJson))),
        some (.natural snapshot.createdAt), some (.natural snapshot.updatedAt)] := by
    apply Json.fields?_record
    · rfl
    · decide
  have htables : (Json.record (snapshot.tables.map fun entry => (entry.1, entry.2.toJson))).filed?
      TableSnapshot.ofJson? = some snapshot.tables := by
    apply Json.filed?_record h.ascending
    intro entry hentry
    exact (h.tables entry hentry).ofJson?_toJson
  unfold ofJson?
  rw [hfields]
  show ((Json.record (snapshot.tables.map fun entry => (entry.1, entry.2.toJson))).filed?
    TableSnapshot.ofJson? >>= fun tables =>
      (Json.natural snapshot.createdAt).natural? >>= fun createdAt =>
        (Json.natural snapshot.updatedAt).natural? >>= fun updatedAt =>
          some (Snapshot.mk snapshot.version tables createdAt updatedAt)) = some snapshot
  rw [htables, Json.natural?_natural h.createdAt_lt, Json.natural?_natural h.updatedAt_lt]
  rfl

end Snapshot

/-!
# Texts
-/

open Json (Whole whole_text whole_natural whole_record whole_map)

theorem Value.whole_toJson (v : Value) : v.toJson.Whole := by
  cases v with
  | integer n => exact .integer n.toInt
  | text s => exact whole_text s
  | boolean b => exact .boolean b
  | null => exact .null

theorem Column.whole_toJson (column : Column) : column.toJson.Whole := by
  apply whole_record
  have hconstraints := whole_map (fun constraint : Constraint => whole_text constraint.display)
    column.constraints
  simpa using ⟨whole_text column.name, whole_text column.type.display, hconstraints⟩

theorem Schema.whole_toJson (schema : Schema) : schema.toJson.Whole := by
  apply whole_record
  have hprimaryKey : (schema.primaryKey.elim Json.null Json.text).Whole := by
    cases schema.primaryKey with
    | none => exact .null
    | some name => exact whole_text name
  simpa using ⟨whole_text schema.name, whole_map Column.whole_toJson schema.columns, hprimaryKey⟩

theorem Table.NamedRow.whole_toJson (row : NamedRow) : row.toJson.Whole := by
  apply whole_record
  have hcells : (Json.record (row.cells.map fun cell => (cell.1, cell.2.toJson))).Whole := by
    apply whole_record
    intro member hmember
    rcases List.mem_map.mp hmember with ⟨cell, _, rfl⟩
    exact cell.2.whole_toJson
  simpa using ⟨whole_natural row.id, hcells⟩

theorem TableSnapshot.whole_toJson (stored : TableSnapshot) : stored.toJson.Whole := by
  apply whole_record
  simpa using ⟨stored.schema.whole_toJson, whole_map NamedRow.whole_toJson stored.rows,
    whole_natural stored.nextRowId⟩

namespace Snapshot

theorem whole_toJson (snapshot : Snapshot) : snapshot.toJson.Whole := by
  apply whole_record
  have htables : (Json.record (snapshot.tables.map fun entry =>
      (entry.1, entry.2.toJson))).Whole := by
    apply whole_record
    intro member hmember
    rcases List.mem_map.mp hmember with ⟨entry, _, rfl⟩
    exact entry.2.whole_toJson
  simpa using ⟨whole_text snapshot.version, htables, whole_natural snapshot.createdAt,
    whole_natural snapshot.updatedAt⟩

/-- The text of a snapshot is read back as the snapshot. -/
theorem Encodable.decode?_encode {snapshot : Snapshot} (h : snapshot.Encodable) :
    decode? snapshot.encode = some snapshot := by
  unfold decode? encode
  rw [Json.read_pretty snapshot.whole_toJson]
  exact h.ofJson?_toJson

end Snapshot
end Tabula
