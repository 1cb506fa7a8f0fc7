import Tabula.Database.Snapshot
import Tabula.Proofs.Plain.Exportable

/-!
# Reloading a table

The rows of a table, written with the names of their columns, load into the table that they were
taken from: each name reaches its column again, each value fits it, and no constraint stands against
a row that was stored beside the others.
-/

namespace Tabula

/-!
# Cells by name
-/

namespace Schema

/-- A row with the names of its columns. -/
def named (schema : Schema) (row : Row) : Table.NamedRow where
  id := row.id
  cells := Keyed.ofList (schema.columnNames.zip row.cells)

variable {schema : Schema}

theorem WellFormed.columnNames_nodup (h : schema.WellFormed) : schema.columnNames.Nodup := by
  apply List.pairwise_map.mpr
  apply (List.pairwise_map.mp h.names_nodup).imp
  intro a b hne hname
  exact hne (congrArg Text.lowercase hname)

theorem zip_cells_eq {row : Row} (h : row.cells.length = schema.columns.length) :
    schema.columnNames.zip row.cells =
      schema.fields.map fun field => (field.column.name, row.cell field.position) := by
  have hnames : schema.columnNames = schema.fields.map fun field => field.column.name := by
    unfold columnNames
    rw [← map_column_fields, List.map_map]
    rfl
  rw [hnames, Row.cells_eq_map_fields h]
  exact List.zip_map'

theorem mem_named_cells (hschema : schema.WellFormed) {row : Row} (hrow : row.Typed schema)
    {cell : String × Value} :
    cell ∈ (schema.named row).cells <->
      exists field, field ∈ schema.fields ∧ cell = (field.column.name, row.cell field.position) := by
  have hkeys : ((schema.columnNames.zip row.cells).map Prod.fst).Nodup := by
    rw [List.map_fst_zip]
    · exact hschema.columnNames_nodup
    · apply Nat.le_of_eq
      rw [columnNames, List.length_map, hrow.length_cells]
  unfold named
  rw [Keyed.mem_ofList hkeys, zip_cells_eq hrow.length_cells, List.mem_map]
  apply exists_congr
  intro field
  exact and_congr_right fun _ => eq_comm

/-- Names without dots reach the columns they are the names of. -/
theorem reach_of_names (h : schema.WellFormed)
    (hnames : forall column, column ∈ schema.columns -> '.' ∉ column.name.toList)
    {cells : List (String × Value)} {value : Field -> Value}
    (hcells : forall cell, cell ∈ cells ->
      exists field, field ∈ schema.fields ∧ cell = (field.column.name, value field)) :
    exists bound, schema.reach cells = .ok bound ∧
      (bound.map fun entry => (entry.1.column.name, entry.2)) = cells ∧
      forall entry, entry ∈ bound -> entry.1 ∈ schema.fields ∧ entry.2 = value entry.1 := by
  induction cells with
  | nil =>
      refine ⟨[], rfl, rfl, ?_⟩
      intro entry hentry
      cases hentry
  | cons cell rest ih =>
      rcases hcells cell List.mem_cons_self with ⟨field, hfield, hcell⟩
      rcases ih (fun c hc => hcells c (List.mem_cons_of_mem _ hc)) with ⟨others, hreach, hmap, hall⟩
      have hresolve := h.resolve_name hfield (hnames _ (column_mem_of_mem_fields hfield))
      refine ⟨(field, value field) :: others, ?_, ?_, ?_⟩
      · rw [hcell]
        exact reach_cons_eq_ok_iff.mpr ⟨field, others, hresolve, hreach, rfl⟩
      · rw [List.map_cons, hmap, hcell]
      · intro entry hentry
        rcases List.mem_cons.mp hentry with hfirst | hrest
        · rw [hfirst]
          exact ⟨hfield, rfl⟩
        · exact hall entry hrest

/-- The cells of a row are bound again from their names. -/
theorem bind_named (h : schema.WellFormed)
    (hnames : forall column, column ∈ schema.columns -> '.' ∉ column.name.toList) {row : Row}
    (hrow : row.Typed schema) :
    exists bound, schema.reach (schema.named row).cells = .ok bound ∧ Fitting bound ∧
      assign schema.blankCells bound = row.cells := by
  have hcells : forall cell, cell ∈ (schema.named row).cells ->
      exists field, field ∈ schema.fields ∧ cell = (field.column.name, row.cell field.position) := by
    intro cell
    exact (mem_named_cells h hrow).mp
  rcases reach_of_names h hnames hcells with ⟨bound, hreach, hmap, hall⟩
  have hfitting : Fitting bound := by
    constructor
    · have hsorted : Keyed.Ascending (schema.named row).cells := Keyed.ascending_ofList _
      rw [← hmap] at hsorted
      apply List.pairwise_map.mpr
      apply (List.pairwise_map.mp hsorted).imp_of_mem
      intro a b ha hb hlt hposition
      have hsame := eq_of_position_eq (hall a ha).1 (hall b hb).1 hposition
      rw [hsame] at hlt
      exact String.lt_irrefl _ hlt
    · intro entry hentry
      rcases hall entry hentry with ⟨hfield, hvalue⟩
      rw [hvalue]
      exact hrow.fits _ hfield
  refine ⟨bound, hreach, hfitting, ?_⟩
  apply assign_blankCells_eq hfitting.positions_nodup hrow.length_cells
  intro position hlt
  have hfield : (⟨position, schema.columns[position]⟩ : Field) ∈ schema.fields :=
    mem_fields_iff.mpr (List.getElem?_eq_getElem hlt)
  have hcell := (mem_named_cells h hrow).mpr ⟨_, hfield, rfl⟩
  rw [← hmap] at hcell
  rcases List.mem_map.mp hcell with ⟨entry, hentry, hpair⟩
  rcases hall entry hentry with ⟨hmem, hvalue⟩
  have hsame : entry.1 = ⟨position, schema.columns[position]⟩ := by
    apply h.position_eq_of_lowercase_eq hmem hfield
    rw [(Prod.mk.inj hpair).1]
  refine ⟨entry, hentry, by rw [hsame], ?_⟩
  rw [hvalue, hsame]
  exact Row.getElem?_eq_cell (by rw [hrow.length_cells]; exact hlt)

end Schema

/-!
# Rows one after the other
-/

namespace PlainTable

variable {table : PlainTable}

/-- A row of a table loads behind the rows before it. -/
theorem load_named (h : table.Sound) (hallocated : table.Allocated) (hexport : table.Exportable)
    {before rest : List Row} {row : Row} (hrows : table.rows = before ++ row :: rest) :
    load table.nextRowId (table.schema.named row) { schema := table.schema, rows := before } =
      .ok ((), { schema := table.schema, rows := before ++ [row] }) := by
  have hmem : row ∈ table.rows := by
    rw [hrows]
    exact List.mem_append_right _ List.mem_cons_self
  have hbefore : forall other, other ∈ before -> other ∈ table.rows ∧ other.id < row.id := by
    intro other hother
    have hascending := h.ascending
    rw [hrows] at hascending ⊢
    refine ⟨List.mem_append_left _ hother, ?_⟩
    exact (List.pairwise_append.mp hascending).2.2 other hother row List.mem_cons_self
  rcases Schema.bind_named h.schema_wellFormed hexport.dot_not_mem (h.typed row hmem) with
    ⟨bound, hreach, hfitting, hcells⟩
  apply load_eq_ok_iff.mpr
  refine ⟨⟨hexport.ids_pos row hmem, hallocated row hmem⟩, ?_, bound, hreach, hfitting, ?_, ?_⟩
  · intro other hother
    exact Nat.ne_of_lt (hbefore other hother).2
  · rw [show Schema.assign (PlainTable.mk table.schema before 1).schema.blankCells bound = row.cells
      from hcells]
    apply checkRow_eq_ok_iff.mpr
    intro field hfield
    constructor
    · intro hkey
      exact h.keyed row hmem field hfield hkey
    · intro hindexed hnull other hother _ hsame
      rcases hbefore other hother with ⟨hotherMem, hlt⟩
      have hrow := h.unique field hfield hindexed other hotherMem row hmem (hsame ▸ hnull) hsame
      rw [hrow] at hlt
      exact Nat.lt_irrefl _ hlt
  · have hinsert : row.insertInto before = before ++ [row] :=
      Rows.insertInto_eq_append fun other hother => (hbefore other hother).2
    rw [← hinsert]
    exact congrArg (fun cells => PlainTable.mk table.schema ((Row.mk row.id cells).insertInto before) 1)
      hcells.symm

/-- The rows of a table load into the table that they were taken from. -/
theorem ofRows_named (h : table.Sound) (hallocated : table.Allocated)
    (hexport : table.Exportable) :
    ofRows table.schema (table.rows.map table.schema.named) table.nextRowId = .ok table := by
  have hloop : forall rest before : List Row, table.rows = before ++ rest ->
      loadAll table.nextRowId (rest.map table.schema.named)
          { schema := table.schema, rows := before } =
        .ok { schema := table.schema, rows := table.rows } := by
    intro rest
    induction rest with
    | nil =>
        intro before hrows
        rw [hrows, List.append_nil]
        rfl
    | cons row rest ih =>
        intro before hrows
        rw [List.map_cons]
        apply loadAll_cons_eq_ok_iff.mpr
        refine ⟨_, load_named h hallocated hexport hrows, ih (before ++ [row]) ?_⟩
        rw [hrows, List.append_assoc]
        rfl
  have hloaded := hloop table.rows [] rfl
  unfold ofRows
  rw [hloaded]
  rfl

end PlainTable
end Tabula
