import Mathlib.Data.List.Basic
import Tabula.Proofs.Plain.Sound

/-!
# Which stored rows load

Stored rows are checked one after the other against the rows loaded before them.  What the checks
come to depends on no order: every row can be read by itself, and no two rows share an id or a value
that they may not share.
-/

namespace Tabula

/-- The name of a stored cell, its qualifier dropped, is one of the column. -/
def Column.reachedBy (column : Column) (cell : String × Value) : Bool :=
  column.answersTo (Schema.unqualified cell.1)

namespace Schema

variable {schema : Schema}

theorem WellFormed.reached_eq_some_iff (h : schema.WellFormed) {cell : String × Value}
    {entry : Field × Value} :
    schema.reached cell = some entry <->
      entry.1 ∈ schema.fields ∧ entry.1.column.reachedBy cell = true ∧ entry.2 = cell.2 := by
  unfold reached
  rw [Option.map_eq_some_iff]
  constructor
  · intro hparts
    rcases hparts with ⟨field, hfield, hentry⟩
    rcases field?_eq_some hfield with ⟨hmem, hname⟩
    rw [← hentry]
    exact ⟨hmem, hname, rfl⟩
  · intro hparts
    rcases hparts with ⟨hmem, hname, hvalue⟩
    exact ⟨entry.1, h.field?_of_answersTo hmem hname, Prod.ext rfl hvalue.symm⟩

theorem WellFormed.reached_isSome_iff (h : schema.WellFormed) {cell : String × Value} :
    (schema.reached cell).isSome = true <->
      exists column, column ∈ schema.columns ∧ column.reachedBy cell = true := by
  rw [Option.isSome_iff_exists]
  constructor
  · intro hparts
    rcases hparts with ⟨entry, hentry⟩
    rcases h.reached_eq_some_iff.mp hentry with ⟨hmem, hname, _⟩
    exact ⟨entry.1.column, column_mem_of_mem_fields hmem, hname⟩
  · intro hparts
    rcases hparts with ⟨column, hcolumn, hname⟩
    rcases exists_field_of_mem hcolumn with ⟨field, hfield, rfl⟩
    exact ⟨(field, cell.2), h.reached_eq_some_iff.mpr ⟨hfield, hname, rfl⟩⟩

end Schema

/-!
# Reading one stored row
-/

namespace Table
namespace NamedRow

/-- The value that a stored row has for a column; a cell that is missing counts as NULL. -/
def value (named : NamedRow) (column : Column) : Value :=
  ((named.cells.find? column.reachedBy).map Prod.snd).getD .null

/-- A stored row with its cells in the order of the columns. -/
def row (named : NamedRow) (schema : Schema) : Row :=
  ⟨named.id, schema.columns.map named.value⟩

/-- A stored row that can be read by itself: every name reaches a column, no two names the same one,
and the values fit. -/
structure Readable (named : NamedRow) (schema : Schema) : Prop where
  known : forall cell, cell ∈ named.cells ->
    exists column, column ∈ schema.columns ∧ column.reachedBy cell = true
  once : named.cells.Pairwise fun a b => forall column, column ∈ schema.columns ->
    ¬ (column.reachedBy a = true ∧ column.reachedBy b = true)
  typed : forall cell, cell ∈ named.cells -> forall column, column ∈ schema.columns ->
    column.reachedBy cell = true -> cell.2 = .null ∨ cell.2.type? = some column.type
  keyed : forall column, column ∈ schema.columns -> column.isPrimaryKey = true ->
    named.value column ≠ .null

variable {schema : Schema} {named : NamedRow}

theorem readable_derivePrimaryKey_iff :
    named.Readable schema.derivePrimaryKey <-> named.Readable schema :=
  ⟨fun h => ⟨h.known, h.once, h.typed, h.keyed⟩, fun h => ⟨h.known, h.once, h.typed, h.keyed⟩⟩

theorem cell_row {field : Field} (hfield : field ∈ schema.fields) :
    (named.row schema).cell field.position = named.value field.column := by
  rw [Row.cell_eq_getD_getElem?]
  show ((schema.columns.map named.value)[field.position]?).getD .null = _
  rw [List.getElem?_map, Schema.mem_fields_iff.mp hfield]
  rfl

/-- The cells go to different columns if no column answers to the names of two of them. -/
theorem positions_reached_nodup_iff (h : schema.WellFormed) {cells : List (String × Value)} :
    ((cells.filterMap schema.reached).map fun entry => entry.1.position).Nodup <->
      cells.Pairwise fun a b => forall column, column ∈ schema.columns ->
        ¬ (column.reachedBy a = true ∧ column.reachedBy b = true) := by
  unfold List.Nodup
  rw [List.pairwise_map, List.pairwise_filterMap]
  apply List.Pairwise.iff
  intro a b
  constructor
  · intro hne column hcolumn hnames
    rcases Schema.exists_field_of_mem hcolumn with ⟨field, hfield, rfl⟩
    exact hne (field, a.2) (h.reached_eq_some_iff.mpr ⟨hfield, hnames.1, rfl⟩) (field, b.2)
      (h.reached_eq_some_iff.mpr ⟨hfield, hnames.2, rfl⟩) rfl
  · intro hdifferent entry hentry other hother hposition
    rcases h.reached_eq_some_iff.mp hentry with ⟨hmem, hname, _⟩
    rcases h.reached_eq_some_iff.mp hother with ⟨hmem', hname', _⟩
    rw [← Schema.eq_of_position_eq hmem hmem' hposition] at hname'
    exact hdifferent _ (Schema.column_mem_of_mem_fields hmem) ⟨hname, hname'⟩

theorem fitting_reached_iff (h : schema.WellFormed) {cells : List (String × Value)} :
    Schema.Fitting (cells.filterMap schema.reached) <->
      (cells.Pairwise fun a b => forall column, column ∈ schema.columns ->
          ¬ (column.reachedBy a = true ∧ column.reachedBy b = true)) ∧
        forall cell, cell ∈ cells -> forall column, column ∈ schema.columns ->
          column.reachedBy cell = true -> cell.2 = .null ∨ cell.2.type? = some column.type := by
  constructor
  · intro hfitting
    refine ⟨(positions_reached_nodup_iff h).mp hfitting.positions_nodup, ?_⟩
    intro cell hcell column hcolumn hname
    rcases Schema.exists_field_of_mem hcolumn with ⟨field, hfield, rfl⟩
    have hreached : schema.reached cell = some (field, cell.2) :=
      h.reached_eq_some_iff.mpr ⟨hfield, hname, rfl⟩
    exact Value.fits_iff.mp (hfitting.fits _ (List.mem_filterMap.mpr ⟨cell, hcell, hreached⟩))
  · intro hparts
    refine ⟨(positions_reached_nodup_iff h).mpr hparts.1, ?_⟩
    intro entry hentry
    rcases List.mem_filterMap.mp hentry with ⟨cell, hcell, hreached⟩
    rcases h.reached_eq_some_iff.mp hreached with ⟨hmem, hname, hvalue⟩
    rw [hvalue]
    exact Value.fits_iff.mpr
      (hparts.2 cell hcell _ (Schema.column_mem_of_mem_fields hmem) hname)

/-- Cells that go to different columns make up the row that is read. -/
theorem assign_reached (h : schema.WellFormed)
    (hfitting : Schema.Fitting (named.cells.filterMap schema.reached)) :
    Schema.assign schema.blankCells (named.cells.filterMap schema.reached) =
      (named.row schema).cells := by
  apply List.ext_getElem?
  intro position
  by_cases hlt : position < schema.columns.length
  · have hfield : ⟨position, schema.columns[position]⟩ ∈ schema.fields :=
      Schema.mem_fields_iff.mpr (List.getElem?_eq_getElem hlt)
    have hcell : (named.row schema).cells[position]? =
        some (named.value schema.columns[position]) := by
      show (schema.columns.map named.value)[position]? = _
      rw [List.getElem?_map, List.getElem?_eq_getElem hlt]
      rfl
    rw [hcell]
    unfold value
    cases hfound : named.cells.find? schema.columns[position].reachedBy with
    | some cell =>
        have hentry : (⟨position, schema.columns[position]⟩, cell.2) ∈
            named.cells.filterMap schema.reached := by
          apply List.mem_filterMap.mpr
          refine ⟨cell, List.mem_of_find?_eq_some hfound, ?_⟩
          exact h.reached_eq_some_iff.mpr ⟨hfield, List.find?_some hfound, rfl⟩
        have hroom : position < schema.blankCells.length := by
          rw [Schema.length_blankCells]
          exact hlt
        exact Schema.getElem?_assign_of_mem hfitting.positions_nodup hentry hroom
    | none =>
        have hfree : position ∉
            (named.cells.filterMap schema.reached).map fun entry => entry.1.position := by
          intro hmem
          rcases List.mem_map.mp hmem with ⟨entry, hentry, hposition⟩
          rcases List.mem_filterMap.mp hentry with ⟨cell, hcell, hreached⟩
          rcases h.reached_eq_some_iff.mp hreached with ⟨hmem', hname, _⟩
          rw [Schema.eq_of_position_eq hmem' hfield hposition] at hname
          exact List.find?_eq_none.mp hfound cell hcell hname
        rw [Schema.getElem?_assign_of_not_mem hfree]
        unfold Schema.blankCells
        rw [List.getElem?_replicate, if_pos hlt]
        rfl
  · rw [List.getElem?_eq_none (by rw [Schema.length_assign, Schema.length_blankCells]; omega),
      List.getElem?_eq_none (by simpa [row] using hlt)]

end NamedRow
end Table

/-!
# Rows that may stand together
-/

/-- The rows have different ids and share no value that two rows may not share. -/
structure Row.Apart (schema : Schema) (a b : Row) : Prop where
  id_ne : a.id ≠ b.id
  unique : forall field, field ∈ schema.fields -> field.column.isIndexed = true ->
    a.cell field.position ≠ .null -> a.cell field.position ≠ b.cell field.position

namespace PlainTable

open Table (NamedRow)

/-- Stored rows that a table can take up together, in whatever order. -/
structure Takes (table : PlainTable) (nextRowId : Nat) (rows : List NamedRow) : Prop where
  allocated : forall named, named ∈ rows -> 0 < named.id ∧ named.id < nextRowId
  readable : forall named, named ∈ rows -> named.Readable table.schema
  apart : (rows.map fun named => named.row table.schema).Pairwise (Row.Apart table.schema)
  fresh : forall row, row ∈ table.rows -> forall named, named ∈ rows ->
    row.Apart table.schema (named.row table.schema)

variable {table table' : PlainTable} {nextRowId : Nat} {named : NamedRow} {rows : List NamedRow}

/-- A stored row loads if it can be read and stands apart from the rows loaded before. -/
theorem load_eq_ok_iff_readable (h : table.schema.WellFormed) :
    table.load nextRowId named = .ok ((), table') <->
      (0 < named.id ∧ named.id < nextRowId) ∧ named.Readable table.schema ∧
        (forall row, row ∈ table.rows -> row.Apart table.schema (named.row table.schema)) ∧
        table' = { table with rows := (named.row table.schema).insertInto table.rows } := by
  have hcell : forall {field : Field}, field ∈ table.schema.fields ->
      (named.row table.schema).cells.getD field.position .null = named.value field.column :=
    fun hfield => NamedRow.cell_row hfield
  rw [load_eq_ok_iff]
  simp only [Schema.reach_eq_ok_iff, h.reached_isSome_iff, checkRow_eq_ok_iff]
  constructor
  · intro hparts
    rcases hparts with ⟨hwithin, hids, bound, ⟨hknown, hbound⟩, hfitting, hadmits, htable⟩
    rw [hbound] at hfitting hadmits htable
    rw [NamedRow.assign_reached h hfitting] at hadmits htable
    rcases (NamedRow.fitting_reached_iff h).mp hfitting with ⟨honce, htyped⟩
    refine ⟨hwithin, ⟨hknown, honce, htyped, ?_⟩, ?_, htable⟩
    · intro column hcolumn hkey
      rcases Schema.exists_field_of_mem hcolumn with ⟨field, hfield, rfl⟩
      rw [← hcell hfield]
      exact (hadmits field hfield).primaryKey hkey
    · intro row hrow
      refine ⟨hids row hrow, ?_⟩
      intro field hfield hindexed hnull hsame
      rw [hsame] at hnull
      exact (hadmits field hfield).unique hindexed hnull row hrow (Option.some_ne_none _) hsame
  · intro hparts
    rcases hparts with ⟨hwithin, hreadable, hapart, htable⟩
    have hfitting := (NamedRow.fitting_reached_iff h).mpr ⟨hreadable.once, hreadable.typed⟩
    refine ⟨hwithin, fun row hrow => (hapart row hrow).id_ne, _, ⟨hreadable.known, rfl⟩, hfitting,
      ?_, ?_⟩
    · rw [NamedRow.assign_reached h hfitting]
      intro field hfield
      constructor
      · intro hkey
        rw [hcell hfield]
        exact hreadable.keyed _ (Schema.column_mem_of_mem_fields hfield) hkey
      · intro hindexed hnull row hrow _ hsame
        exact (hapart row hrow).unique field hfield hindexed (hsame ▸ hnull) hsame
    · rw [NamedRow.assign_reached h hfitting]
      exact htable

theorem takes_nil : table.Takes nextRowId [] := by
  constructor
  · intro named hnamed
    cases hnamed
  · intro named hnamed
    cases hnamed
  · exact List.Pairwise.nil
  · intro row _ named hnamed
    cases hnamed

/-- What one row in front asks for: that it can be loaded, and that the others can be once it is. -/
theorem takes_cons_iff (hascending : Rows.Ascending table.rows) :
    table.Takes nextRowId (named :: rows) <->
      (0 < named.id ∧ named.id < nextRowId) ∧ named.Readable table.schema ∧
        (forall row, row ∈ table.rows -> row.Apart table.schema (named.row table.schema)) ∧
        Takes { table with rows := (named.row table.schema).insertInto table.rows } nextRowId
          rows := by
  constructor
  · intro h
    have hallocated := List.forall_mem_cons.mp h.allocated
    have hreadable := List.forall_mem_cons.mp h.readable
    have hapart := List.pairwise_cons.mp h.apart
    have hfresh : forall row, row ∈ table.rows ->
        row.Apart table.schema (named.row table.schema) :=
      fun row hrow => h.fresh row hrow named List.mem_cons_self
    refine ⟨hallocated.1, hreadable.1, hfresh, hallocated.2, hreadable.2, hapart.2, ?_⟩
    intro row hrow other hother
    rcases (Rows.mem_insertInto hascending).mp hrow with hnew | hold
    · rw [hnew]
      exact hapart.1 _ (List.mem_map_of_mem hother)
    · exact h.fresh row hold.1 other (List.mem_cons_of_mem _ hother)
  · intro h
    rcases h with ⟨hwithin, hreadable, hfresh, hrest⟩
    constructor
    · exact List.forall_mem_cons.mpr ⟨hwithin, hrest.allocated⟩
    · exact List.forall_mem_cons.mpr ⟨hreadable, hrest.readable⟩
    · apply List.pairwise_cons.mpr
      refine ⟨?_, hrest.apart⟩
      intro row hrow
      rcases List.mem_map.mp hrow with ⟨other, hother, rfl⟩
      exact hrest.fresh _ ((Rows.mem_insertInto hascending).mpr (Or.inl rfl)) other hother
    · intro row hrow other hother
      rcases List.mem_cons.mp hother with hfirst | hlater
      · rw [hfirst]
        exact hfresh row hrow
      · apply hrest.fresh row _ other hlater
        exact (Rows.mem_insertInto hascending).mpr (Or.inr ⟨hrow, (hfresh row hrow).id_ne⟩)

/-- Stored rows load one after the other exactly if a table can take them up together. -/
theorem loadAll_isOk_iff (h : table.schema.WellFormed) (hascending : Rows.Ascending table.rows) :
    (exists loaded, loadAll nextRowId rows table = .ok loaded) <-> table.Takes nextRowId rows := by
  -- Each row loads into a table that holds the rows before it, so the table is not fixed.
  induction rows generalizing table with
  | nil => exact ⟨fun _ => takes_nil, fun _ => ⟨table, rfl⟩⟩
  | cons named rest ih =>
      have hrest := @ih { table with rows := (named.row table.schema).insertInto table.rows } h
        (Rows.ascending_insertInto hascending)
      rw [takes_cons_iff hascending, ← hrest]
      simp only [loadAll_cons_eq_ok_iff, load_eq_ok_iff_readable h]
      constructor
      · intro hparts
        rcases hparts with ⟨loaded, next, ⟨hwithin, hreadable, hfresh, hnext⟩, hrest⟩
        rw [hnext] at hrest
        exact ⟨hwithin, hreadable, hfresh, loaded, hrest⟩
      · intro hparts
        rcases hparts with ⟨hwithin, hreadable, hfresh, loaded, hrest⟩
        exact ⟨loaded, _, ⟨hwithin, hreadable, hfresh, rfl⟩, hrest⟩

/-- The rows that loading adds are the stored ones as they are read. -/
theorem mem_rows_of_loadAll (h : table.schema.WellFormed) (hascending : Rows.Ascending table.rows)
    (hok : loadAll nextRowId rows table = .ok table') :
    Rows.Ascending table'.rows ∧ forall row, row ∈ table'.rows <->
      row ∈ table.rows ∨ exists named, named ∈ rows ∧ named.row table.schema = row := by
  induction rows generalizing table with
  | nil =>
      cases hok
      exact ⟨hascending, by simp⟩
  | cons named rest ih =>
      rcases loadAll_cons_eq_ok_iff.mp hok with ⟨next, hload, hrest⟩
      rcases (load_eq_ok_iff_readable h).mp hload with ⟨_, _, hfresh, hnext⟩
      subst hnext
      rcases @ih { table with rows := (named.row table.schema).insertInto table.rows } h
        (Rows.ascending_insertInto hascending) hrest with ⟨hascending', hmem⟩
      refine ⟨hascending', ?_⟩
      intro row
      rw [hmem, Rows.mem_insertInto hascending, List.exists_mem_cons_iff]
      constructor
      · intro hrow
        rcases hrow with (hnew | hold) | hlater
        · exact Or.inr (Or.inl hnew.symm)
        · exact Or.inl hold.1
        · exact Or.inr (Or.inr hlater)
      · intro hrow
        rcases hrow with hold | hnew | hlater
        · exact Or.inl (Or.inr ⟨hold, (hfresh row hold).id_ne⟩)
        · exact Or.inl (Or.inl hnew.symm)
        · exact Or.inr hlater

end PlainTable
end Tabula
