import Mathlib.Data.List.Dedup
import Tabula.Proofs.Index
import Tabula.Proofs.Schema
import Tabula.Proofs.Table.Rows

/-!
# Indexes mirror the rows

An index mirrors a column if it relates each value other than NULL to the rows that hold it there.
A table whose indexes mirror its rows stays such a table under each single write that keeps rows and
indexes in step, however many rows are still to be written.
-/

namespace Tabula

/-!
# One index
-/

namespace Index

structure Mirrors (ix : Index) (position : Nat) (rows : List Row) : Prop where
  wellFormed : ix.WellFormed
  mem_lookup : forall v id, id ∈ ix.lookup v <->
    v ≠ .null ∧ exists row, row ∈ rows ∧ row.id = id ∧ row.cell position = v

theorem mirrors_empty (column : String) (position : Nat) :
    ({ column } : Index).Mirrors position [] where
  wellFormed := wellFormed_empty column
  mem_lookup := by
    intro v id
    simp [lookup]

variable {ix : Index} {position : Nat} {rows rows' : List Row} {row : Row}

theorem Mirrors.addCell (h : ix.Mirrors position rows)
    (hrows : forall x, x ∈ rows' <-> x = row ∨ x ∈ rows) :
    (ix.addCell (row.cell position) row.id).Mirrors position rows' := by
  unfold Index.addCell
  by_cases hnull : row.cell position = .null
  · rw [if_pos (Value.isNull_iff.mpr hnull)]
    refine ⟨h.wellFormed, fun v id => ?_⟩
    rw [h.mem_lookup]
    constructor
    · intro hparts
      rcases hparts with ⟨hv, x, hx, hid, hcell⟩
      exact ⟨hv, x, (hrows x).mpr (Or.inr hx), hid, hcell⟩
    · intro hparts
      rcases hparts with ⟨hv, x, hx, hid, hcell⟩
      rcases (hrows x).mp hx with rfl | hx
      · exact absurd (hcell ▸ hnull) hv
      · exact ⟨hv, x, hx, hid, hcell⟩
  · rw [if_neg (fun hn => hnull (Value.isNull_iff.mp hn))]
    refine ⟨h.wellFormed.add _ _, fun v id => ?_⟩
    rw [mem_lookup_add, h.mem_lookup]
    constructor
    · intro hcase
      rcases hcase with ⟨rfl, rfl⟩ | ⟨hv, x, hx, hid, hcell⟩
      · exact ⟨hnull, row, (hrows row).mpr (Or.inl rfl), rfl, rfl⟩
      · exact ⟨hv, x, (hrows x).mpr (Or.inr hx), hid, hcell⟩
    · intro hparts
      rcases hparts with ⟨hv, x, hx, hid, hcell⟩
      rcases (hrows x).mp hx with rfl | hx
      · exact Or.inl ⟨hcell.symm, hid.symm⟩
      · exact Or.inr ⟨hv, x, hx, hid, hcell⟩

theorem Mirrors.removeCell (h : ix.Mirrors position rows) (hasc : Rows.Ascending rows)
    (hrow : row ∈ rows) (hrows : forall x, x ∈ rows' <-> x ∈ rows ∧ x.id ≠ row.id) :
    (ix.removeCell (row.cell position) row.id).Mirrors position rows' := by
  unfold Index.removeCell
  by_cases hnull : row.cell position = .null
  · rw [if_pos (Value.isNull_iff.mpr hnull)]
    refine ⟨h.wellFormed, fun v id => ?_⟩
    rw [h.mem_lookup]
    constructor
    · intro hparts
      rcases hparts with ⟨hv, x, hx, hid, hcell⟩
      refine ⟨hv, x, (hrows x).mpr ⟨hx, ?_⟩, hid, hcell⟩
      intro hsame
      rw [hasc.eq_of_id_eq hx hrow hsame, hnull] at hcell
      exact hv hcell.symm
    · intro hparts
      rcases hparts with ⟨hv, x, hx, hid, hcell⟩
      exact ⟨hv, x, ((hrows x).mp hx).1, hid, hcell⟩
  · rw [if_neg (fun hn => hnull (Value.isNull_iff.mp hn))]
    refine ⟨h.wellFormed.remove _ _, fun v id => ?_⟩
    rw [h.wellFormed.mem_lookup_remove, h.mem_lookup]
    constructor
    · intro hparts
      rcases hparts with ⟨⟨hv, x, hx, hid, hcell⟩, hother⟩
      refine ⟨hv, x, (hrows x).mpr ⟨hx, ?_⟩, hid, hcell⟩
      intro hsame
      rw [hasc.eq_of_id_eq hx hrow hsame] at hid hcell
      exact hother ⟨hcell.symm, hid.symm⟩
    · intro hparts
      rcases hparts with ⟨hv, x, hx, hid, hcell⟩
      rcases (hrows x).mp hx with ⟨hmem, hne⟩
      refine ⟨⟨hv, x, hmem, hid, hcell⟩, ?_⟩
      intro hparts
      rcases hparts with ⟨_, hsame⟩
      exact hne (hid.trans hsame)

/-- What is found under a value is the ids of the rows that hold it. -/
theorem Mirrors.lookup_eq (h : ix.Mirrors position rows) (hasc : Rows.Ascending rows) {v : Value}
    (hv : v ≠ .null) :
    ix.lookup v = (rows.filter fun row => row.cell position == v).map Row.id := by
  have hleft := h.wellFormed.lookup_ascending v
  have hright := (hasc.filter fun row => row.cell position == v).map_id
  have hperm : (ix.lookup v).Perm ((rows.filter fun row => row.cell position == v).map Row.id) := by
    rw [List.perm_ext_iff_of_nodup (hleft.imp Nat.ne_of_lt) (hright.imp Nat.ne_of_lt)]
    intro id
    rw [h.mem_lookup, List.mem_map]
    constructor
    · intro hparts
      rcases hparts with ⟨_, row, hrow, hid, hcell⟩
      exact ⟨row, List.mem_filter.mpr ⟨hrow, beq_iff_eq.mpr hcell⟩, hid⟩
    · intro hparts
      rcases hparts with ⟨row, hrow, hid⟩
      rcases List.mem_filter.mp hrow with ⟨hmem, hcell⟩
      exact ⟨hv, row, hmem, hid, beq_iff_eq.mp hcell⟩
  refine List.Perm.eq_of_pairwise ?_ hleft hright hperm
  intro a b _ _ hab hba
  exact absurd hba (Nat.lt_asymm hab)

theorem Mirrors.lookup_null (h : ix.Mirrors position rows) : ix.lookup .null = [] := by
  apply List.eq_nil_iff_forall_not_mem.mpr
  intro id hmem
  exact ((h.mem_lookup .null id).mp hmem).1 rfl

theorem Mirrors.lookup_ne_nil_iff (h : ix.Mirrors position rows) {v : Value} :
    ix.lookup v ≠ [] <-> v ≠ .null ∧ exists row, row ∈ rows ∧ row.cell position = v := by
  constructor
  · intro hne
    rcases List.exists_mem_of_ne_nil _ hne with ⟨id, hid⟩
    rcases (h.mem_lookup v id).mp hid with ⟨hv, row, hrow, _, hcell⟩
    exact ⟨hv, row, hrow, hcell⟩
  · intro hparts hnil
    rcases hparts with ⟨hv, row, hrow, hcell⟩
    have hid := (h.mem_lookup v row.id).mpr ⟨hv, row, hrow, rfl, hcell⟩
    rw [hnil] at hid
    cases hid

/-- The values other than NULL that rows hold at a position, each once. -/
def distinctValues (position : Nat) (rows : List Row) : List Value :=
  ((rows.map fun row => row.cell position).filter fun v => !v.isNull).dedup

theorem mem_distinctValues {v : Value} :
    v ∈ distinctValues position rows <->
      v ≠ .null ∧ exists row, row ∈ rows ∧ row.cell position = v := by
  unfold distinctValues
  rw [List.mem_dedup, List.mem_filter, List.mem_map, Bool.not_eq_true', Bool.eq_false_iff, ne_eq,
    Value.isNull_iff]
  exact and_comm

theorem Mirrors.size_eq (h : ix.Mirrors position rows) :
    ix.size = (distinctValues position rows).length := by
  apply h.wellFormed.size_eq (List.nodup_dedup _)
  intro v
  show v ∈ distinctValues position rows <-> _
  rw [mem_distinctValues, h.lookup_ne_nil_iff]

theorem Mirrors.heldByOther_iff (h : ix.Mirrors position rows) {v : Value} (hv : v ≠ .null)
    {own : Option Nat} :
    ix.heldByOther v own = true <->
      exists row, row ∈ rows ∧ some row.id ≠ own ∧ row.cell position = v := by
  rw [Index.heldByOther_iff]
  constructor
  · intro hparts
    rcases hparts with ⟨id, hid, hown⟩
    rcases (h.mem_lookup v id).mp hid with ⟨_, row, hrow, rfl, hcell⟩
    exact ⟨row, hrow, hown, hcell⟩
  · intro hparts
    rcases hparts with ⟨row, hrow, hown, hcell⟩
    exact ⟨row.id, (h.mem_lookup v row.id).mpr ⟨hv, row, hrow, rfl, hcell⟩, hown⟩

end Index

/-!
# All indexes of a table
-/

namespace Indexes

theorem length_addRow {indexes : Indexes} {row : Row} (h : row.cells.length = indexes.length) :
    (indexes.addRow row).length = indexes.length := by
  unfold addRow
  rw [List.length_zipWith, h, Nat.min_self]

theorem length_removeRow {indexes : Indexes} {row : Row} (h : row.cells.length = indexes.length) :
    (indexes.removeRow row).length = indexes.length := by
  unfold removeRow
  rw [List.length_zipWith, h, Nat.min_self]

theorem join_addRow {indexes : Indexes} {row : Row} {position : Nat}
    (h : position < row.cells.length) :
    ((indexes.addRow row)[position]?).join =
      ((indexes[position]?).join).map fun ix => ix.addCell (row.cell position) row.id := by
  unfold addRow
  rw [List.getElem?_zipWith, Row.getElem?_eq_cell h]
  cases indexes[position]? with
  | none => rfl
  | some ix => rfl

theorem join_removeRow {indexes : Indexes} {row : Row} {position : Nat}
    (h : position < row.cells.length) :
    ((indexes.removeRow row)[position]?).join =
      ((indexes[position]?).join).map fun ix => ix.removeCell (row.cell position) row.id := by
  unfold removeRow
  rw [List.getElem?_zipWith, Row.getElem?_eq_cell h]
  cases indexes[position]? with
  | none => rfl
  | some ix => rfl

theorem removeRow_addRow {indexes : Indexes} {row : Row}
    (hlength : row.cells.length = indexes.length)
    (h : forall position (ix : Index), indexes[position]? = some (some ix) ->
      (ix.addCell (row.cell position) row.id).removeCell (row.cell position) row.id = ix) :
    (indexes.addRow row).removeRow row = indexes := by
  apply List.ext_getElem?
  intro position
  unfold removeRow addRow
  rw [List.getElem?_zipWith, List.getElem?_zipWith]
  cases hix : indexes[position]? with
  | none => rfl
  | some slot =>
      have hlt : position < row.cells.length := by
        rw [hlength]
        exact (List.getElem?_eq_some_iff.mp hix).1
      rw [Row.getElem?_eq_cell hlt]
      cases slot with
      | none => rfl
      | some ix => exact congrArg (fun ix => some (some ix)) (h position ix hix)

end Indexes

namespace Table

/-- The rows are ascending and each is as wide as the schema; each column with a constraint has an
index that mirrors it, and no other column has one. -/
structure Mirrored (table : Table) : Prop where
  ascending : Rows.Ascending table.rows
  length_cells : forall row, row ∈ table.rows -> row.cells.length = table.schema.columns.length
  length_indexes : table.indexes.length = table.schema.columns.length
  indexed : forall field, field ∈ table.schema.fields -> field.column.isIndexed = true ->
    exists ix, table.indexAt field.position = some ix ∧ ix.Mirrors field.position table.rows
  unindexed : forall field, field ∈ table.schema.fields -> field.column.isIndexed = false ->
    table.indexAt field.position = none

theorem indexAt_new {schema : Schema} {field : Field} (h : field ∈ schema.fields) :
    (new schema).indexAt field.position =
      if field.column.isIndexed then some { column := field.column.name } else none := by
  unfold indexAt new
  rw [List.getElem?_map, Schema.mem_fields_iff.mp h]
  rfl

theorem mirrored_new (schema : Schema) : (new schema).Mirrored where
  ascending := List.Pairwise.nil
  length_cells := by
    intro row hrow
    cases hrow
  length_indexes := List.length_map ..
  indexed := by
    intro field hfield hindexed
    have hnew : (new schema).indexAt field.position = _ := indexAt_new hfield
    refine ⟨{ column := field.column.name }, ?_, Index.mirrors_empty _ _⟩
    rw [hnew, if_pos hindexed]
  unindexed := by
    intro field hfield hindexed
    have hnew : (new schema).indexAt field.position = _ := indexAt_new hfield
    rw [hnew, hindexed]
    rfl

theorem Mirrored.row?_eq_some_iff {table : Table} (h : table.Mirrored) {id : Nat} {row : Row} :
    table.row? id = some row <-> row ∈ table.rows ∧ row.id = id :=
  Rows.find_eq_some_iff h.ascending

theorem Mirrored.mirrors_of_indexAt {table : Table} (h : table.Mirrored) {field : Field}
    (hfield : field ∈ table.schema.fields) {ix : Index}
    (hix : table.indexAt field.position = some ix) : ix.Mirrors field.position table.rows := by
  cases hindexed : field.column.isIndexed with
  | false =>
      rw [h.unindexed field hfield hindexed] at hix
      cases hix
  | true =>
      rcases h.indexed field hfield hindexed with ⟨other, hother, hmirrors⟩
      rw [hother] at hix
      cases hix
      exact hmirrors

theorem Mirrored.mirrors_of_getElem? {table : Table} (h : table.Mirrored) {position : Nat}
    {ix : Index} (hix : table.indexes[position]? = some (some ix)) :
    ix.Mirrors position table.rows := by
  have hlt : position < table.schema.columns.length := by
    rw [← h.length_indexes]
    exact (List.getElem?_eq_some_iff.mp hix).1
  have hfield : (⟨position, table.schema.columns[position]⟩ : Field) ∈ table.schema.fields :=
    Schema.mem_fields_iff.mpr (List.getElem?_eq_getElem hlt)
  apply h.mirrors_of_indexAt hfield
  unfold indexAt
  rw [hix]
  rfl

/-!
# Single writes
-/

/-- The table with one more row. -/
def stored (table : Table) (row : Row) : Table :=
  { table with rows := row.insertInto table.rows, indexes := table.indexes.addRow row }

/-- The table without a row of its own. -/
def dropped (table : Table) (row : Row) : Table :=
  { table with
    rows := table.rows.filter fun other => other.id != row.id
    indexes := table.indexes.removeRow row }

theorem Mirrored.stored {table : Table} (h : table.Mirrored) {row : Row}
    (hlength : row.cells.length = table.schema.columns.length)
    (hnew : forall other, other ∈ table.rows -> other.id ≠ row.id) :
    (table.stored row).Mirrored := by
  have hrows : forall x, x ∈ row.insertInto table.rows <-> x = row ∨ x ∈ table.rows := by
    intro x
    rw [Rows.mem_insertInto h.ascending]
    exact or_congr_right ⟨And.left, fun hx => ⟨hx, hnew x hx⟩⟩
  have hindexAt : forall field, field ∈ table.schema.fields ->
      (table.stored row).indexAt field.position =
        (table.indexAt field.position).map fun ix => ix.addCell (row.cell field.position) row.id := by
    intro field hfield
    apply Indexes.join_addRow
    rw [hlength]
    exact Schema.position_lt_of_mem_fields hfield
  constructor
  · exact Rows.ascending_insertInto h.ascending
  · intro x hx
    rcases (hrows x).mp hx with rfl | hx
    · exact hlength
    · exact h.length_cells x hx
  · exact (Indexes.length_addRow (hlength.trans h.length_indexes.symm)).trans h.length_indexes
  · intro field hfield hindexed
    rcases h.indexed field hfield hindexed with ⟨ix, hix, hmirrors⟩
    exact ⟨_, by rw [hindexAt field hfield, hix]; rfl, hmirrors.addCell hrows⟩
  · intro field hfield hindexed
    rw [hindexAt field hfield, h.unindexed field hfield hindexed]
    rfl

theorem Mirrored.dropped {table : Table} (h : table.Mirrored) {row : Row} (hrow : row ∈ table.rows) :
    (table.dropped row).Mirrored := by
  have hlength := h.length_cells row hrow
  have hrows : forall x, x ∈ (table.dropped row).rows <-> x ∈ table.rows ∧ x.id ≠ row.id := by
    intro x
    exact List.mem_filter.trans (and_congr_right fun _ => bne_iff_ne)
  have hindexAt : forall field, field ∈ table.schema.fields ->
      (table.dropped row).indexAt field.position =
        (table.indexAt field.position).map fun ix =>
          ix.removeCell (row.cell field.position) row.id := by
    intro field hfield
    apply Indexes.join_removeRow
    rw [hlength]
    exact Schema.position_lt_of_mem_fields hfield
  constructor
  · exact h.ascending.filter _
  · intro x hx
    exact h.length_cells x ((hrows x).mp hx).1
  · exact (Indexes.length_removeRow (hlength.trans h.length_indexes.symm)).trans h.length_indexes
  · intro field hfield hindexed
    rcases h.indexed field hfield hindexed with ⟨ix, hix, hmirrors⟩
    exact ⟨_, by rw [hindexAt field hfield, hix]; rfl, hmirrors.removeCell h.ascending hrow hrows⟩
  · intro field hfield hindexed
    rw [hindexAt field hfield, h.unindexed field hfield hindexed]
    rfl

/-- A row that was stored under a new id is dropped without a trace. -/
theorem Mirrored.dropped_stored {table : Table} (h : table.Mirrored) {row : Row}
    (hlength : row.cells.length = table.schema.columns.length)
    (hnew : forall other, other ∈ table.rows -> other.id ≠ row.id) :
    (table.stored row).dropped row = table := by
  have hrows : (row.insertInto table.rows).filter (fun other => other.id != row.id) =
      table.rows := by
    apply ((Rows.ascending_insertInto h.ascending).filter _).ext h.ascending
    intro x
    rw [List.mem_filter, Rows.mem_insertInto h.ascending, bne_iff_ne]
    constructor
    · intro hparts
      rcases hparts with ⟨hx | hx, hne⟩
      · exact absurd (congrArg Row.id hx) hne
      · exact hx.1
    · intro hx
      exact ⟨Or.inr ⟨hx, hnew x hx⟩, hnew x hx⟩
  have hindexes : (table.indexes.addRow row).removeRow row = table.indexes := by
    apply Indexes.removeRow_addRow (hlength.trans h.length_indexes.symm)
    intro position ix hix
    have hmirrors := h.mirrors_of_getElem? hix
    apply hmirrors.wellFormed.removeCell_addCell
    intro hmem
    rcases (hmirrors.mem_lookup _ _).mp hmem with ⟨_, other, hother, hid, _⟩
    exact hnew other hother hid
  unfold Table.dropped Table.stored
  simp only [hrows, hindexes]

end Table
end Tabula
