import Tabula.Proofs.Plain.Constraints
import Tabula.Proofs.Schema.Binding
import Tabula.Proofs.Table.Rows

/-!
# Integrity of plain tables

A plain table is sound if its schema passed the check, every row fits the schema and no two rows
share a value that they may not share.  Every step keeps a plain table sound.
-/

namespace Tabula

/-!
# Rows that fit a schema
-/

namespace Row

/-- One cell for each column, each of them NULL or of the column's type. -/
structure Typed (row : Row) (schema : Schema) : Prop where
  length_cells : row.cells.length = schema.columns.length
  fits : forall field, field ∈ schema.fields ->
    (row.cell field.position).fits field.column.type = true

/-- A row is the list of its cells in the order of the columns. -/
theorem cells_eq_map_fields {row : Row} {schema : Schema}
    (h : row.cells.length = schema.columns.length) :
    row.cells = schema.fields.map fun field => row.cell field.position := by
  apply List.ext_getElem
  · rw [List.length_map, Schema.length_fields, h]
  · intro position hleft hright
    have hcell : row.cells[position]? = some (row.cell position) := getElem?_eq_cell hleft
    rw [List.getElem?_eq_getElem hleft] at hcell
    rw [Option.some.inj hcell, List.getElem_map, Schema.getElem_fields _ (h ▸ hleft)]

theorem cell_blank (schema : Schema) (id position : Nat) :
    (Row.mk id schema.blankCells).cell position = .null := by
  rw [cell_eq_getD_getElem?]
  show ((List.replicate schema.columns.length Value.null)[position]?).getD .null = .null
  rw [List.getElem?_replicate]
  split
  · rfl
  · rfl

theorem typed_blank (schema : Schema) (id : Nat) : (Row.mk id schema.blankCells).Typed schema where
  length_cells := schema.length_blankCells
  fits := by
    intro field hfield
    rw [cell_blank]
    rfl

end Row

namespace PlainTable

theorem cell_assigned_of_mem {bound : List (Field × Value)} (hbound : Schema.Fitting bound)
    {entry : Field × Value} (hentry : entry ∈ bound) {row : Row}
    (hlt : entry.1.position < row.cells.length) :
    (assigned bound row).cell entry.1.position = entry.2 := by
  rw [Row.cell_eq_getD_getElem?]
  show ((Schema.assign row.cells bound)[entry.1.position]?).getD .null = entry.2
  rw [Schema.getElem?_assign_of_mem hbound.positions_nodup hentry hlt]
  rfl

theorem cell_assigned_of_not_mem {bound : List (Field × Value)} {position : Nat}
    (h : position ∉ bound.map fun entry => entry.1.position) (row : Row) :
    (assigned bound row).cell position = row.cell position := by
  rw [Row.cell_eq_getD_getElem?, Row.cell_eq_getD_getElem?]
  show ((Schema.assign row.cells bound)[position]?).getD .null = _
  rw [Schema.getElem?_assign_of_not_mem h]

theorem typed_assigned {schema : Schema} {bound : List (Field × Value)} {row : Row}
    (hrow : row.Typed schema) (hbound : Schema.Fitting bound)
    (hfields : forall entry, entry ∈ bound -> entry.1 ∈ schema.fields) :
    (assigned bound row).Typed schema where
  length_cells := by
    rw [← hrow.length_cells]
    exact Schema.length_assign row.cells bound
  fits := by
    intro field hfield
    by_cases hmem : field.position ∈ bound.map fun entry => entry.1.position
    · rcases List.mem_map.mp hmem with ⟨entry, hentry, hposition⟩
      have hsame := Schema.eq_of_position_eq (hfields entry hentry) hfield hposition
      have hlt : entry.1.position < row.cells.length := by
        rw [hrow.length_cells, hposition]
        exact Schema.position_lt_of_mem_fields hfield
      rw [← hsame, cell_assigned_of_mem hbound hentry hlt]
      exact hbound.fits entry hentry
    · rw [cell_assigned_of_not_mem hmem]
      exact hrow.fits field hfield

/-!
# Sound tables
-/

structure Sound (table : PlainTable) : Prop where
  schema_wellFormed : table.schema.WellFormed
  primaryKey_derived : table.schema.derivePrimaryKey = table.schema
  ascending : Rows.Ascending table.rows
  typed : forall row, row ∈ table.rows -> row.Typed table.schema
  keyed : forall row, row ∈ table.rows -> forall field, field ∈ table.schema.fields ->
    field.column.isPrimaryKey = true -> row.cell field.position ≠ .null
  unique : forall field, field ∈ table.schema.fields -> field.column.isIndexed = true ->
    forall a, a ∈ table.rows -> forall b, b ∈ table.rows -> a.cell field.position ≠ .null ->
      a.cell field.position = b.cell field.position -> a = b

/-- The counter is beyond every id. -/
def Allocated (table : PlainTable) : Prop :=
  forall row, row ∈ table.rows -> row.id < table.nextRowId

theorem sound_new {schema : Schema} (h : schema.WellFormed) :
    Sound { schema := schema.derivePrimaryKey } where
  schema_wellFormed := Schema.wellFormed_derivePrimaryKey h
  primaryKey_derived := rfl
  ascending := List.Pairwise.nil
  typed := by
    intro row hrow
    cases hrow
  keyed := by
    intro row hrow
    cases hrow
  unique := by
    intro field _ _ a ha
    cases ha

theorem allocated_new (schema : Schema) : Allocated { schema } := by
  intro row hrow
  cases hrow

variable {table table' : PlainTable}

/-- A new row that passes the checks keeps a table sound. -/
theorem Sound.store (h : table.Sound) {row : Row} (htyped : row.Typed table.schema)
    (hcheck : table.checkRow row.cells none = .ok ()) :
    Sound { table with rows := row.insertInto table.rows } := by
  have hrows : forall x, x ∈ row.insertInto table.rows -> x = row ∨ x ∈ table.rows := by
    intro x hx
    exact ((Rows.mem_insertInto h.ascending).mp hx).imp_right And.left
  have hadmits : forall field, field ∈ table.schema.fields ->
      table.Admits none field (row.cell field.position) := checkRow_eq_ok_iff.mp hcheck
  have hnew : forall field, field ∈ table.schema.fields -> field.column.isIndexed = true ->
      forall other, other ∈ table.rows -> row.cell field.position ≠ .null ->
        other.cell field.position ≠ row.cell field.position := by
    intro field hfield hindexed other hother hnull
    exact (hadmits field hfield).unique hindexed hnull other hother (Option.some_ne_none _)
  constructor
  · exact h.schema_wellFormed
  · exact h.primaryKey_derived
  · exact Rows.ascending_insertInto h.ascending
  · intro x hx
    rcases hrows x hx with hsame | hold
    · rw [hsame]
      exact htyped
    · exact h.typed x hold
  · intro x hx field hfield hkey
    rcases hrows x hx with hsame | hold
    · rw [hsame]
      exact (hadmits field hfield).primaryKey hkey
    · exact h.keyed x hold field hfield hkey
  · intro field hfield hindexed a ha b hb hnull hcell
    rcases hrows a ha with haRow | haOld
    · rcases hrows b hb with hbRow | hbOld
      · rw [haRow, hbRow]
      · rw [haRow] at hnull hcell
        exact absurd hcell.symm (hnew field hfield hindexed b hbOld hnull)
    · rcases hrows b hb with hbRow | hbOld
      · rw [hbRow] at hcell
        exact absurd hcell (hnew field hfield hindexed a haOld (hcell ▸ hnull))
      · exact h.unique field hfield hindexed a haOld b hbOld hnull hcell

/-!
# Insert
-/

theorem insert_eq_ok_iff {columns : List String} {values : List Value} {id : Nat} :
    table.insert columns values = .ok (id, table') <->
      exists cells, table.schema.complete columns values = .ok cells ∧
        table.checkRow cells none = .ok () ∧ id = table.nextRowId ∧
        table' = { table with
          rows := table.rows ++ [⟨table.nextRowId, cells⟩]
          nextRowId := table.nextRowId + 1 } := by
  unfold insert
  rw [Result.bind_eq_ok_iff]
  apply exists_congr
  intro cells
  apply and_congr_right
  intro _
  rw [Result.bind_eq_ok_iff]
  constructor
  · intro h
    rcases h with ⟨_, hcheck, hresult⟩
    cases hresult
    exact ⟨hcheck, rfl, rfl⟩
  · intro h
    rcases h with ⟨hcheck, hid, htable⟩
    refine ⟨(), hcheck, ?_⟩
    rw [hid, htable]
    rfl

theorem typed_of_complete {schema : Schema} {columns : List String} {values cells : List Value}
    (h : schema.complete columns values = .ok cells) (id : Nat) :
    (Row.mk id cells).Typed schema := by
  rcases Schema.complete_eq_ok_iff.mp h with ⟨_, bound, hreach, hfitting, hcells⟩
  rw [hcells]
  apply typed_assigned (Row.typed_blank schema id) hfitting
  intro entry hentry
  exact Schema.mem_fields_of_reach hreach hentry

theorem Sound.insert (h : table.Sound) (hallocated : table.Allocated) {columns : List String}
    {values : List Value} {id : Nat} (hok : table.insert columns values = .ok (id, table')) :
    table'.Sound ∧ table'.Allocated := by
  rcases insert_eq_ok_iff.mp hok with ⟨cells, hcells, hcheck, _, htable⟩
  have hrows : (Row.mk table.nextRowId cells).insertInto table.rows = _ :=
    Rows.insertInto_eq_append hallocated
  have hstored := h.store (typed_of_complete hcells table.nextRowId) hcheck
  rw [hrows] at hstored
  subst htable
  constructor
  · exact { hstored with }
  · intro row hrow
    rcases List.mem_append.mp hrow with hold | hnew
    · exact Nat.lt_succ_of_lt (hallocated row hold)
    · rw [List.mem_singleton.mp hnew]
      exact Nat.lt_succ_self _

/-!
# Update
-/

theorem update_eq_ok_iff {assignments : List (String × Value)} {keep : Row -> Bool} {count : Nat} :
    table.update assignments keep = .ok (count, table') <->
      exists bound, table.schema.reach assignments = .ok bound ∧ Schema.Fitting bound ∧
        table.checkRows bound [] (table.rows.filter keep) = .ok () ∧
        count = (table.rows.filter keep).length ∧
        table' = { table with
          rows := table.rows.map fun row => if keep row then assigned bound row else row } := by
  unfold update
  rw [Result.bind_eq_ok_iff]
  apply exists_congr
  intro bound
  rw [Schema.bind_eq_ok_iff (Schema.judges_admitOnce _), Result.bind_eq_ok_iff, and_assoc]
  apply and_congr_right
  intro _
  apply and_congr_right
  intro _
  constructor
  · intro h
    rcases h with ⟨_, hcheck, hresult⟩
    cases hresult
    exact ⟨hcheck, rfl, rfl⟩
  · intro h
    rcases h with ⟨hcheck, hcount, htable⟩
    refine ⟨(), hcheck, ?_⟩
    rw [hcount, htable]
    rfl

theorem id_ite_assigned (bound : List (Field × Value)) (keep : Row -> Bool) (row : Row) :
    (if keep row then assigned bound row else row).id = row.id := by
  cases keep row with
  | false => rfl
  | true => rfl

theorem eq_of_mem_of_length_le_one {α : Type} {items : List α} (h : items.length <= 1) {a b : α}
    (ha : a ∈ items) (hb : b ∈ items) : a = b := by
  cases items with
  | nil => cases ha
  | cons first rest =>
      rw [List.length_cons] at h
      have hnil : rest = [] := List.eq_nil_of_length_eq_zero (by omega)
      rw [hnil, List.mem_singleton] at ha hb
      rw [ha, hb]

/-- Two rows that an update assigns do not come to share a value that they may not share. -/
theorem Sound.unique_assigned (h : table.Sound) {bound : List (Field × Value)}
    (hbound : Schema.Fitting bound)
    (hfields : forall entry, entry ∈ bound -> entry.1 ∈ table.schema.fields)
    {kept : List Row} (hkept : forall row, row ∈ kept -> row ∈ table.rows)
    (hclaims : forall entry, entry ∈ bound -> claims entry = true -> kept.length <= 1)
    {field : Field} (hfield : field ∈ table.schema.fields)
    (hindexed : field.column.isIndexed = true) {a b : Row} (ha : a ∈ kept) (hb : b ∈ kept)
    (hnull : (assigned bound a).cell field.position ≠ .null)
    (hcell : (assigned bound a).cell field.position = (assigned bound b).cell field.position) :
    a = b := by
  by_cases hmem : field.position ∈ bound.map fun entry => entry.1.position
  · rcases List.mem_map.mp hmem with ⟨entry, hentry, hposition⟩
    have hsame := Schema.eq_of_position_eq (hfields entry hentry) hfield hposition
    have hlt : entry.1.position < a.cells.length := by
      rw [(h.typed a (hkept a ha)).length_cells, hposition]
      exact Schema.position_lt_of_mem_fields hfield
    rw [← hsame, cell_assigned_of_mem hbound hentry hlt] at hnull
    have hentryClaims : claims entry = true := claims_iff.mpr ⟨hnull, hsame ▸ hindexed⟩
    exact eq_of_mem_of_length_le_one (hclaims entry hentry hentryClaims) ha hb
  · rw [cell_assigned_of_not_mem hmem] at hnull hcell
    rw [cell_assigned_of_not_mem hmem] at hcell
    exact h.unique field hfield hindexed a (hkept a ha) b (hkept b hb) hnull hcell

theorem Sound.update (h : table.Sound) {assignments : List (String × Value)} {keep : Row -> Bool}
    {count : Nat} (hok : table.update assignments keep = .ok (count, table')) : table'.Sound := by
  rcases update_eq_ok_iff.mp hok with ⟨bound, hreach, hbound, hcheck, _, htable⟩
  subst htable
  have hfields : forall entry, entry ∈ bound -> entry.1 ∈ table.schema.fields := by
    intro entry hentry
    exact Schema.mem_fields_of_reach hreach hentry
  rcases (checkRows_eq_ok_iff hbound.nodup).mp hcheck with ⟨hrows, hclaims⟩
  have hadmits : forall row, row ∈ table.rows -> keep row = true ->
      forall field, field ∈ table.schema.fields ->
        table.Admits (some row.id) field ((assigned bound row).cell field.position) := by
    intro row hrow hkeep
    exact checkRow_eq_ok_iff.mp (hrows row (List.mem_filter.mpr ⟨hrow, hkeep⟩))
  -- an assigned row and one that stays come to share no value
  have hmixed : forall field, field ∈ table.schema.fields -> field.column.isIndexed = true ->
      forall a, a ∈ table.rows -> keep a = true -> forall b, b ∈ table.rows -> keep b = false ->
        (assigned bound a).cell field.position ≠ .null ->
          b.cell field.position ≠ (assigned bound a).cell field.position := by
    intro field hfield hindexed a ha hkeepA b hb hkeepB hnull
    apply (hadmits a ha hkeepA field hfield).unique hindexed hnull b hb
    intro hid
    have hsame := h.ascending.eq_of_id_eq hb ha (Option.some.inj hid)
    rw [hsame, hkeepA] at hkeepB
    cases hkeepB
  constructor
  · exact h.schema_wellFormed
  · exact h.primaryKey_derived
  · exact h.ascending.map (id_ite_assigned bound keep)
  · intro x hx
    rcases List.mem_map.mp hx with ⟨row, hrow, rfl⟩
    cases hkeep : keep row with
    | false => exact h.typed row hrow
    | true => exact typed_assigned (h.typed row hrow) hbound hfields
  · intro x hx field hfield hkey
    rcases List.mem_map.mp hx with ⟨row, hrow, rfl⟩
    cases hkeep : keep row with
    | false => exact h.keyed row hrow field hfield hkey
    | true => exact (hadmits row hrow hkeep field hfield).primaryKey hkey
  · intro field hfield hindexed x hx y hy hnull hcell
    rcases List.mem_map.mp hx with ⟨a, ha, rfl⟩
    rcases List.mem_map.mp hy with ⟨b, hb, rfl⟩
    suffices hsame : a = b by rw [hsame]
    cases hkeepA : keep a with
    | false =>
        cases hkeepB : keep b with
        | false =>
            rw [hkeepA] at hnull hcell
            rw [hkeepB] at hcell
            exact h.unique field hfield hindexed a ha b hb hnull hcell
        | true =>
            rw [hkeepA] at hnull hcell
            rw [hkeepB] at hcell
            have hnull' : (assigned bound b).cell field.position ≠ .null := by
              intro hb
              exact hnull (hcell.trans hb)
            exact absurd hcell (hmixed field hfield hindexed b hb hkeepB a ha hkeepA hnull')
    | true =>
        cases hkeepB : keep b with
        | false =>
            rw [hkeepA] at hnull hcell
            rw [hkeepB] at hcell
            exact absurd hcell.symm (hmixed field hfield hindexed a ha hkeepA b hb hkeepB hnull)
        | true =>
            rw [hkeepA] at hnull hcell
            rw [hkeepB] at hcell
            apply h.unique_assigned hbound hfields (fun row hrow => (List.mem_filter.mp hrow).1)
              (fun entry hentry hentryClaims => (hclaims entry hentry hentryClaims).1) hfield hindexed
              (List.mem_filter.mpr ⟨ha, hkeepA⟩) (List.mem_filter.mpr ⟨hb, hkeepB⟩) hnull hcell

theorem Allocated.update (h : table.Allocated) {assignments : List (String × Value)}
    {keep : Row -> Bool} {count : Nat}
    (hok : table.update assignments keep = .ok (count, table')) : table'.Allocated := by
  rcases update_eq_ok_iff.mp hok with ⟨bound, _, _, _, _, htable⟩
  subst htable
  intro x hx
  rcases List.mem_map.mp hx with ⟨row, hrow, rfl⟩
  rw [id_ite_assigned]
  exact h row hrow

/-!
# Delete
-/

theorem Sound.delete (h : table.Sound) {keep : Row -> Bool} {count : Nat}
    (hok : table.delete keep = .ok (count, table')) : table'.Sound := by
  cases hok
  have hrows : forall row, row ∈ table.rows.filter (fun row => !keep row) -> row ∈ table.rows := by
    intro row hrow
    exact (List.mem_filter.mp hrow).1
  constructor
  · exact h.schema_wellFormed
  · exact h.primaryKey_derived
  · exact h.ascending.filter _
  · intro row hrow
    exact h.typed row (hrows row hrow)
  · intro row hrow
    exact h.keyed row (hrows row hrow)
  · intro field hfield hindexed a ha b hb
    exact h.unique field hfield hindexed a (hrows a ha) b (hrows b hb)

theorem Allocated.delete (h : table.Allocated) {keep : Row -> Bool} {count : Nat}
    (hok : table.delete keep = .ok (count, table')) : table'.Allocated := by
  cases hok
  intro row hrow
  exact h row (List.mem_filter.mp hrow).1

/-!
# Loading rows
-/

theorem judges_admitStored (id : Nat) (name : String) :
    Schema.Judges (Table.admitStored id name) := by
  intro field v taken
  unfold Table.admitStored
  rw [Result.bind_eq_ok_iff]
  constructor
  · intro h
    rcases h with ⟨_, htype, htaken⟩
    cases taken with
    | false => exact ⟨rfl, Schema.checkType_eq_ok_iff.mp htype⟩
    | true => cases htaken
  · intro h
    rw [h.1]
    exact ⟨(), Schema.checkType_eq_ok_iff.mpr h.2, rfl⟩

theorem load_eq_ok_iff {nextRowId : Nat} {stored : Table.NamedRow} {u : Unit} :
    table.load nextRowId stored = .ok (u, table') <->
      (0 < stored.id ∧ stored.id < nextRowId) ∧
        (forall row, row ∈ table.rows -> row.id ≠ stored.id) ∧
        exists bound, table.schema.reach stored.cells = .ok bound ∧ Schema.Fitting bound ∧
          table.checkRow (Schema.assign table.schema.blankCells bound) none = .ok () ∧
          table' = { table with
            rows := (Row.mk stored.id (Schema.assign table.schema.blankCells bound)).insertInto
              table.rows } := by
  unfold load
  by_cases hrange : stored.id = 0 ∨ nextRowId <= stored.id
  · rw [if_pos hrange]
    constructor
    · intro h
      cases h
    · intro h
      omega
  · rw [if_neg hrange]
    by_cases hdouble : (table.rows.any fun row => row.id == stored.id) = true
    · rw [if_pos hdouble]
      constructor
      · intro h
        cases h
      · intro h
        rcases List.any_eq_true.mp hdouble with ⟨row, hrow, hid⟩
        exact absurd (beq_iff_eq.mp hid) (h.2.1 row hrow)
    · rw [if_neg hdouble]
      have hfresh : forall row, row ∈ table.rows -> row.id ≠ stored.id := by
        intro row hrow hid
        exact hdouble (List.any_eq_true.mpr ⟨row, hrow, beq_iff_eq.mpr hid⟩)
      have hwithin : 0 < stored.id ∧ stored.id < nextRowId := by omega
      simp only [Result.pure_eq_ok, Result.bind_eq_ok_iff,
        Schema.bind_eq_ok_iff (judges_admitStored _ _)]
      constructor
      · intro h
        rcases h with ⟨bound, ⟨hreach, hfitting⟩, _, hcheck, hresult⟩
        cases hresult
        exact ⟨hwithin, hfresh, bound, hreach, hfitting, hcheck, rfl⟩
      · intro h
        rcases h with ⟨_, _, bound, hreach, hfitting, hcheck, htable⟩
        exact ⟨bound, ⟨hreach, hfitting⟩, (), hcheck, by rw [htable]⟩

theorem Sound.load (h : table.Sound) {nextRowId : Nat} {stored : Table.NamedRow} {u : Unit}
    (hok : table.load nextRowId stored = .ok (u, table')) : table'.Sound := by
  rcases load_eq_ok_iff.mp hok with ⟨_, _, bound, hreach, hfitting, hcheck, htable⟩
  subst htable
  apply h.store _ hcheck
  apply typed_assigned (Row.typed_blank table.schema stored.id) hfitting
  intro entry hentry
  exact Schema.mem_fields_of_reach hreach hentry

theorem loadAll_cons_eq_ok_iff {nextRowId : Nat} {stored : Table.NamedRow}
    {rest : List Table.NamedRow} :
    loadAll nextRowId (stored :: rest) table = .ok table' <->
      exists next, table.load nextRowId stored = .ok ((), next) ∧
        loadAll nextRowId rest next = .ok table' := by
  rw [loadAll, Result.bind_eq_ok_iff]
  constructor
  · intro h
    rcases h with ⟨⟨_, next⟩, hload, hrest⟩
    exact ⟨next, hload, hrest⟩
  · intro h
    rcases h with ⟨next, hload, hrest⟩
    exact ⟨((), next), hload, hrest⟩

theorem Sound.loadAll (h : table.Sound) {nextRowId : Nat} {rows : List Table.NamedRow}
    (hids : forall row, row ∈ table.rows -> row.id < nextRowId)
    (hok : PlainTable.loadAll nextRowId rows table = .ok table') :
    table'.Sound ∧ forall row, row ∈ table'.rows -> row.id < nextRowId := by
  induction rows generalizing table with
  | nil =>
      cases hok
      exact ⟨h, hids⟩
  | cons stored rest ih =>
      rcases loadAll_cons_eq_ok_iff.mp hok with ⟨next, hload, hrest⟩
      apply ih (h.load hload) _ hrest
      rcases load_eq_ok_iff.mp hload with ⟨hrange, _, bound, _, _, _, hnext⟩
      subst hnext
      intro row hrow
      rcases (Rows.mem_insertInto h.ascending).mp hrow with hnew | hold
      · rw [hnew]
        exact hrange.2
      · exact hids row hold.1

theorem schema_loadAll {nextRowId : Nat} {rows : List Table.NamedRow}
    (hok : PlainTable.loadAll nextRowId rows table = .ok table') : table'.schema = table.schema := by
  induction rows generalizing table with
  | nil =>
      cases hok
      rfl
  | cons stored rest ih =>
      rcases loadAll_cons_eq_ok_iff.mp hok with ⟨next, hload, hrest⟩
      rcases load_eq_ok_iff.mp hload with ⟨_, _, bound, _, _, _, hnext⟩
      rw [ih hrest, hnext]

theorem schema_ofRows {schema : Schema} {rows : List Table.NamedRow} {nextRowId : Nat}
    (hok : ofRows schema rows nextRowId = .ok table) : table.schema = schema := by
  rcases Result.bind_eq_ok_iff.mp hok with ⟨loaded, hloaded, hcounted⟩
  cases hcounted
  exact schema_loadAll hloaded

theorem sound_ofRows {schema : Schema} (h : schema.WellFormed) {rows : List Table.NamedRow}
    {nextRowId : Nat} (hok : ofRows schema.derivePrimaryKey rows nextRowId = .ok table) :
    table.Sound ∧ table.Allocated := by
  rcases Result.bind_eq_ok_iff.mp hok with ⟨loaded, hloaded, hcounted⟩
  cases hcounted
  have hids : forall row, row ∈ ({ schema := schema.derivePrimaryKey } : PlainTable).rows ->
      row.id < nextRowId := by
    intro row hrow
    cases hrow
  rcases (sound_new h).loadAll hids hloaded with ⟨hsound, hbelow⟩
  exact ⟨{ hsound with }, hbelow⟩

end PlainTable
end Tabula
