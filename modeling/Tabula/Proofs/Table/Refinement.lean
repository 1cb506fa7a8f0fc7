import Tabula.Proofs.Change
import Tabula.Proofs.Plain.Sound
import Tabula.Proofs.Table.Mirror

/-!
# Tables follow plain tables

A table whose indexes mirror its rows answers like the plain table with the same rows.  Each change
makes the same checks in the same order, ends in the same rows and keeps the mirror; a change that
fails leaves the table as it was.
-/

namespace Tabula
namespace Table

/-- A table without its indexes. -/
def plain (table : Table) : PlainTable where
  schema := table.schema
  rows := table.rows
  nextRowId := table.nextRowId

variable {table : Table}

/-!
# Checks
-/

theorem heldByOther_eq {position : Nat} {ix : Index} (hmirrors : ix.Mirrors position table.rows)
    {v : Value} (hv : v ≠ .null) (own : Option Nat) :
    ix.heldByOther v own = table.plain.heldByOther position v own := by
  rw [Bool.eq_iff_iff, hmirrors.heldByOther_iff hv, PlainTable.heldByOther_eq_true_iff]
  rfl

theorem Mirrored.checkCell_eq (h : table.Mirrored) {field : Field}
    (hfield : field ∈ table.schema.fields) (own : Option Nat) (v : Value) :
    table.checkCell own field.column v (table.indexAt field.position) =
      table.plain.checkCell own field v := by
  unfold PlainTable.checkCell
  cases hindexed : field.column.isIndexed with
  | false =>
      rw [h.unindexed field hfield hindexed]
      rfl
  | true =>
      rcases h.indexed field hfield hindexed with ⟨ix, hix, hmirrors⟩
      rw [hix, if_pos rfl]
      simp only [checkCell]
      by_cases hnull : v = .null
      · rw [if_pos (Value.isNull_iff.mpr hnull), if_pos (Value.isNull_iff.mpr hnull)]
      · have hnotNull : ¬ v.isNull = true := fun hn => hnull (Value.isNull_iff.mp hn)
        rw [if_neg hnotNull, if_neg hnotNull, heldByOther_eq hmirrors hnull own]
        rfl

/-- The columns with a row's cells and the indexes, place by place. -/
theorem Mirrored.zip_eq (h : table.Mirrored) {cells : List Value}
    (hcells : cells.length = table.schema.columns.length) :
    table.schema.columns.zip (cells.zip table.indexes) =
      table.schema.fields.map fun field =>
        (field.column, cells.getD field.position .null, table.indexAt field.position) := by
  apply List.ext_getElem
  · rw [List.length_zip, List.length_zip, List.length_map, Schema.length_fields, hcells,
      h.length_indexes, Nat.min_self, Nat.min_self]
  · intro position hleft hright
    rw [List.length_map, Schema.length_fields] at hright
    rw [List.getElem_zip, List.getElem_zip, List.getElem_map,
      Schema.getElem_fields _ hright]
    simp only [indexAt]
    rw [List.getD_eq_getElem?_getD, List.getElem?_eq_getElem (by omega),
      List.getElem?_eq_getElem (by rw [h.length_indexes]; exact hright)]
    rfl

theorem Mirrored.checkConstraints_eq (h : table.Mirrored) {cells : List Value}
    (hcells : cells.length = table.schema.columns.length) (own : Option Nat) :
    table.checkConstraints cells own = table.plain.checkRow cells own := by
  unfold checkConstraints PlainTable.checkRow
  rw [h.zip_eq hcells]
  apply Result.forM_map_congr
  intro field hfield
  exact h.checkCell_eq hfield own _

theorem Mirrored.claim_eq (h : table.Mirrored) {bound : List (Field × Value)}
    (hbound : forall entry, entry ∈ bound -> entry.1 ∈ table.schema.fields)
    (claimed : List (Field × Value)) :
    table.claim claimed bound = table.plain.claim claimed bound := by
  unfold claim PlainTable.claim
  apply Result.foldlM_congr
  intro entry hentry claimed
  rcases entry with ⟨field, v⟩
  have hfield := hbound _ hentry
  have hclaims : (v.isNull || (table.indexAt field.position).isNone) =
      !PlainTable.claims (field, v) := by
    unfold PlainTable.claims
    rw [Bool.not_and, Bool.not_not]
    cases hindexed : field.column.isIndexed with
    | false =>
        rw [h.unindexed field hfield hindexed]
        rfl
    | true =>
        rcases h.indexed field hfield hindexed with ⟨ix, hix, _⟩
        rw [hix]
        rfl
  simp only [hclaims]
  rfl

theorem Mirrored.plan_eq (h : table.Mirrored) {bound : List (Field × Value)}
    (hbound : forall entry, entry ∈ bound -> entry.1 ∈ table.schema.fields)
    (claimed : List (Field × Value)) {rows : List Row}
    (hrows : forall row, row ∈ rows -> row ∈ table.rows) :
    table.plan bound claimed rows =
      (table.plain.checkRows bound claimed rows).map fun _ =>
        rows.map (PlainTable.assigned bound) := by
  induction rows generalizing claimed with
  | nil => rfl
  | cons row rest ih =>
      have hlength : (Schema.assign row.cells bound).length = table.schema.columns.length := by
        rw [Schema.length_assign]
        exact h.length_cells row (hrows row List.mem_cons_self)
      have hrest : forall other, other ∈ rest -> other ∈ table.rows := by
        intro other hother
        exact hrows other (List.mem_cons_of_mem _ hother)
      simp only [plan, PlainTable.checkRows]
      rw [h.checkConstraints_eq hlength, h.claim_eq hbound]
      cases table.plain.checkRow (Schema.assign row.cells bound) (some row.id) with
      | error e => rfl
      | ok _ =>
          cases table.plain.claim claimed bound with
          | error e => rfl
          | ok claimed' =>
              show (table.plan bound claimed' rest >>= _) = Except.map _ (table.plain.checkRows ..)
              rw [ih claimed' hrest]
              cases table.plain.checkRows bound claimed' rest with
              | error e => rfl
              | ok _ => rfl

/-!
# Insert
-/

theorem run_insert (columns : List String) (values : List Value) (table : Table) :
    (insert columns values).run.run table =
      match table.schema.complete columns values with
      | .error e => (.error e, table)
      | .ok cells =>
          match table.checkConstraints cells none with
          | .error e => (.error e, table)
          | .ok _ =>
              (.ok table.nextRowId,
                stored { table with nextRowId := table.nextRowId + 1 }
                  ⟨table.nextRowId, cells⟩) := by
  unfold insert
  simp only [Change.run_bind, Change.run_get, Change.run_lift]
  cases table.schema.complete columns values with
  | error e => rfl
  | ok cells =>
      simp only
      cases table.checkConstraints cells none with
      | error e => rfl
      | ok _ => rfl

theorem Mirrored.counted (h : table.Mirrored) (nextRowId : Nat) :
    Mirrored { table with nextRowId } :=
  { h with }

theorem follows_insert (h : table.Mirrored) (hallocated : table.plain.Allocated)
    (columns : List String) (values : List Value) :
    Change.Follows plain Mirrored table ((insert columns values).run.run table)
      (table.plain.insert columns values) := by
  rw [run_insert]
  unfold PlainTable.insert
  show Change.Follows plain Mirrored table _ (table.schema.complete columns values >>= _)
  cases hcells : table.schema.complete columns values with
  | error e => exact .failed e
  | ok cells =>
      have hlength := (PlainTable.typed_of_complete hcells table.nextRowId).length_cells
      simp only [Result.ok_bind, h.checkConstraints_eq hlength]
      cases table.plain.checkRow cells none with
      | error e => exact .failed e
      | ok _ =>
          have hrows : (Row.mk table.nextRowId cells).insertInto table.rows = _ :=
            Rows.insertInto_eq_append hallocated
          have hmirrored : (stored { table with nextRowId := table.nextRowId + 1 }
              ⟨table.nextRowId, cells⟩).Mirrored := by
            apply (h.counted (table.nextRowId + 1)).stored hlength
            intro other hother
            exact Nat.ne_of_lt (hallocated other hother)
          apply Change.Follows.done_of_eq table.nextRowId hmirrored
          show PlainTable.mk table.schema ((Row.mk table.nextRowId cells).insertInto table.rows)
            (table.nextRowId + 1) = _
          rw [hrows]
          rfl

/-!
# Update
-/

/-- The table with a row in the place of the row with its id. -/
def replaced (table : Table) (row : Row) : Table :=
  { table with
    rows := row.insertInto table.rows
    indexes :=
      match table.row? row.id with
      | some old => (table.indexes.removeRow old).addRow row
      | none => table.indexes.addRow row }

theorem run_replaceRow (row : Row) (table : Table) :
    (replaceRow row).run.run table = (.ok (), table.replaced row) := by
  unfold replaceRow replaced
  rw [Change.run_bind, Change.run_get]
  simp only
  cases table.row? row.id with
  | none => rfl
  | some old => rfl

theorem Mirrored.replaced (h : table.Mirrored) {row : Row}
    (hlength : row.cells.length = table.schema.columns.length) : (table.replaced row).Mirrored := by
  cases hold : table.row? row.id with
  | none =>
      have hnew : forall other, other ∈ table.rows -> other.id ≠ row.id := by
        intro other hother hid
        rw [h.row?_eq_some_iff.mpr ⟨hother, hid⟩] at hold
        cases hold
      have hstored := h.stored hlength hnew
      unfold Table.replaced
      rw [hold]
      exact hstored
  | some old =>
      rcases h.row?_eq_some_iff.mp hold with ⟨hmem, hid⟩
      have hdropped := h.dropped hmem
      have hnew : forall other, other ∈ (table.dropped old).rows -> other.id ≠ row.id := by
        intro other hother hsame
        exact bne_iff_ne.mp (List.mem_filter.mp hother).2 (hsame.trans hid.symm)
      have hstored := hdropped.stored hlength hnew
      -- the old row goes when the new one is put in its place
      have hrows : row.insertInto (table.dropped old).rows = row.insertInto table.rows := by
        apply (Rows.ascending_insertInto hdropped.ascending).ext
          (Rows.ascending_insertInto h.ascending)
        intro x
        rw [Rows.mem_insertInto hdropped.ascending, Rows.mem_insertInto h.ascending]
        apply or_congr_right
        show x ∈ table.rows.filter (fun other => other.id != old.id) ∧ x.id ≠ row.id <-> _
        rw [List.mem_filter, bne_iff_ne, hid, and_assoc, and_self]
      unfold Table.stored at hstored
      rw [hrows] at hstored
      unfold Table.replaced
      rw [hold]
      exact hstored

/-- The invariant of an update's loop: rows and indexes of a half-applied batch still agree. -/
theorem Mirrored.foldl_replaced (h : table.Mirrored) {planned : List Row}
    (hlength : forall row, row ∈ planned -> row.cells.length = table.schema.columns.length) :
    (planned.foldl Table.replaced table).Mirrored ∧
      (planned.foldl Table.replaced table).plain =
        PlainTable.mk table.schema (planned.foldl (fun rows row => row.insertInto rows) table.rows)
          table.nextRowId := by
  induction planned generalizing table with
  | nil => exact ⟨h, rfl⟩
  | cons row rest ih =>
      apply ih (h.replaced (hlength row List.mem_cons_self))
      intro other hother
      exact hlength other (List.mem_cons_of_mem _ hother)

theorem run_update (assignments : List (String × Value)) (keep : Row -> Bool) (table : Table) :
    (update assignments keep).run.run table =
      match table.schema.bind (Schema.admitOnce .columnAssignedTwice) assignments with
      | .error e => (.error e, table)
      | .ok bound =>
          match table.plan bound [] (table.rows.filter keep) with
          | .error e => (.error e, table)
          | .ok planned => (.ok planned.length, planned.foldl Table.replaced table) := by
  unfold update
  simp only [Change.run_bind, Change.run_get, Change.run_lift]
  cases table.schema.bind (Schema.admitOnce .columnAssignedTwice) assignments with
  | error e => rfl
  | ok bound =>
      simp only
      cases table.plan bound [] (table.rows.filter keep) with
      | error e => rfl
      | ok planned =>
          simp only
          rw [Change.run_forM_ok run_replaceRow]
          rfl

theorem follows_update (h : table.Mirrored) (assignments : List (String × Value))
    (keep : Row -> Bool) :
    Change.Follows plain Mirrored table ((update assignments keep).run.run table)
      (table.plain.update assignments keep) := by
  rw [run_update]
  unfold PlainTable.update
  show Change.Follows plain Mirrored table _
    (table.schema.bind (Schema.admitOnce .columnAssignedTwice) assignments >>= _)
  cases hbind : table.schema.bind (Schema.admitOnce .columnAssignedTwice) assignments with
  | error e => exact .failed e
  | ok bound =>
      have hreach := ((Schema.bind_eq_ok_iff (Schema.judges_admitOnce _)).mp hbind).1
      have hfields : forall entry, entry ∈ bound -> entry.1 ∈ table.schema.fields := by
        intro entry hentry
        exact Schema.mem_fields_of_reach hreach hentry
      have hkept : forall row, row ∈ table.rows.filter keep -> row ∈ table.rows := by
        intro row hrow
        exact (List.mem_filter.mp hrow).1
      simp only [Result.ok_bind, h.plan_eq hfields [] hkept]
      show Change.Follows plain Mirrored table _
        (table.plain.checkRows bound [] (table.rows.filter keep) >>= _)
      cases table.plain.checkRows bound [] (table.rows.filter keep) with
      | error e => exact .failed e
      | ok _ =>
          have hlength : forall row, row ∈ (table.rows.filter keep).map (PlainTable.assigned bound) ->
              row.cells.length = table.schema.columns.length := by
            intro row hrow
            rcases List.mem_map.mp hrow with ⟨old, hold, hassigned⟩
            rw [← hassigned, ← h.length_cells old (hkept old hold)]
            exact Schema.length_assign old.cells bound
          rcases h.foldl_replaced hlength with ⟨hmirrored, hplain⟩
          have hrows := Rows.foldl_insertInto_eq_map h.ascending keep
            (f := PlainTable.assigned bound) (fun _ => rfl)
          rw [hrows] at hplain
          have hcount : ((table.rows.filter keep).map (PlainTable.assigned bound)).length =
              (table.rows.filter keep).length := List.length_map ..
          show Change.Follows plain Mirrored table (.ok _, _) (.ok ((table.rows.filter keep).length, _))
          rw [← hcount]
          exact Change.Follows.done_of_eq _ hmirrored hplain

/-!
# Delete
-/

theorem run_dropRow (row : Row) (table : Table) :
    (dropRow row).run.run table = (.ok (), table.dropped row) := rfl

theorem Mirrored.foldl_dropped (h : table.Mirrored) {doomed : List Row}
    (hdoomed : Rows.Ascending doomed) (hrows : forall row, row ∈ doomed -> row ∈ table.rows) :
    (doomed.foldl Table.dropped table).Mirrored ∧
      (doomed.foldl Table.dropped table).plain =
        PlainTable.mk table.schema
          (doomed.foldl (fun rows row => rows.filter fun other => other.id != row.id) table.rows)
          table.nextRowId := by
  induction doomed generalizing table with
  | nil => exact ⟨h, rfl⟩
  | cons row rest ih =>
      rcases List.pairwise_cons.mp hdoomed with ⟨hrow, hrest⟩
      apply ih (h.dropped (hrows row List.mem_cons_self)) hrest
      intro other hother
      apply List.mem_filter.mpr
      exact ⟨hrows other (List.mem_cons_of_mem _ hother),
        bne_iff_ne.mpr (Nat.ne_of_gt (hrow other hother))⟩

theorem run_delete (keep : Row -> Bool) (table : Table) :
    (delete keep).run.run table =
      (.ok (table.rows.filter keep).length,
        (table.rows.filter keep).foldl Table.dropped table) := by
  unfold delete
  rw [Change.run_bind, Change.run_get]
  simp only
  rw [Change.run_bind, Change.run_forM_ok run_dropRow]
  rfl

theorem follows_delete (h : table.Mirrored) (keep : Row -> Bool) :
    Change.Follows plain Mirrored table ((delete keep).run.run table)
      (table.plain.delete keep) := by
  have hkept : forall row, row ∈ table.rows.filter keep -> row ∈ table.rows := by
    intro row hrow
    exact (List.mem_filter.mp hrow).1
  rcases h.foldl_dropped (h.ascending.filter keep) hkept with ⟨hmirrored, hplain⟩
  rw [Rows.foldl_filter_eq_filter h.ascending] at hplain
  rw [run_delete]
  exact Change.Follows.done_of_eq _ hmirrored hplain

/-!
# Loading rows
-/

theorem row?_isSome_iff (table : Table) (id : Nat) :
    (table.row? id).isSome = table.plain.rows.any fun row => row.id == id := by
  unfold row?
  rw [Bool.eq_iff_iff, List.find?_isSome, List.any_eq_true]
  rfl

theorem run_loadRow (nextRowId : Nat) (stored : NamedRow) (table : Table) :
    (loadRow nextRowId stored).run.run table =
      if stored.id = 0 ∨ nextRowId <= stored.id then
        (.error (.rowIdOutOfRange stored.id table.name nextRowId), table)
      else if (table.row? stored.id).isSome then
        (.error (.duplicateRowId stored.id table.name), table)
      else
        match table.schema.bind (admitStored stored.id table.name) stored.cells with
        | .error e => (.error e, table)
        | .ok bound =>
            match table.checkConstraints (Schema.assign table.schema.blankCells bound) none with
            | .error e => (.error e, table)
            | .ok _ =>
                (.ok (), table.stored ⟨stored.id, Schema.assign table.schema.blankCells bound⟩) := by
  unfold loadRow
  rw [Change.run_bind, Change.run_get]
  simp only
  by_cases hrange : stored.id = 0 ∨ nextRowId <= stored.id
  · rw [if_pos hrange, if_pos hrange]
    rfl
  · rw [if_neg hrange, if_neg hrange]
    cases (table.row? stored.id).isSome with
    | true => rfl
    | false =>
        simp only [Bool.false_eq_true, if_false, Change.run_bind, Change.run_lift]
        cases table.schema.bind (admitStored stored.id table.name) stored.cells with
        | error e => rfl
        | ok bound =>
            simp only
            cases table.checkConstraints (Schema.assign table.schema.blankCells bound) none with
            | error e => rfl
            | ok _ => rfl

theorem follows_loadRow (h : table.Mirrored) (nextRowId : Nat) (stored : NamedRow) :
    Change.Follows plain Mirrored table ((loadRow nextRowId stored).run.run table)
      (table.plain.load nextRowId stored) := by
  rw [run_loadRow, row?_isSome_iff]
  unfold PlainTable.load
  by_cases hrange : stored.id = 0 ∨ nextRowId <= stored.id
  · rw [if_pos hrange, if_pos hrange]
    exact .failed _
  · rw [if_neg hrange, if_neg hrange]
    simp only
    by_cases hdouble : (table.plain.rows.any fun row => row.id == stored.id) = true
    · rw [if_pos hdouble, if_pos hdouble]
      exact .failed _
    · rw [if_neg hdouble, if_neg hdouble]
      show Change.Follows plain Mirrored table _
        (table.schema.bind (admitStored stored.id table.name) stored.cells >>= _)
      cases table.schema.bind (admitStored stored.id table.name) stored.cells with
      | error e => exact .failed e
      | ok bound =>
          have hlength : (Schema.assign table.schema.blankCells bound).length =
              table.schema.columns.length := by
            rw [Schema.length_assign, Schema.length_blankCells]
          simp only [Result.ok_bind, h.checkConstraints_eq hlength]
          show Change.Follows plain Mirrored table _
            (table.plain.checkRow (Schema.assign table.schema.blankCells bound) none >>= _)
          cases table.plain.checkRow (Schema.assign table.schema.blankCells bound) none with
          | error e => exact .failed e
          | ok _ =>
              apply Change.Follows.done_of_eq () _ rfl
              apply h.stored hlength
              intro other hother hid
              exact hdouble (List.any_eq_true.mpr ⟨other, hother, beq_iff_eq.mpr hid⟩)

/-- Loading rows one after the other ends like loading them into the plain table. -/
theorem run_loadAll (h : table.Mirrored) (nextRowId : Nat) (rows : List NamedRow) :
    (exists e, PlainTable.loadAll nextRowId rows table.plain = .error e ∧
        ((rows.forM (loadRow nextRowId)).run.run table).1 = .error e) ∨
      exists loaded, PlainTable.loadAll nextRowId rows table.plain = .ok loaded.plain ∧
        (rows.forM (loadRow nextRowId)).run.run table = (.ok (), loaded) ∧ loaded.Mirrored := by
  induction rows generalizing table with
  | nil => exact Or.inr ⟨table, rfl, rfl, h⟩
  | cons stored rest ih =>
      have hstep := follows_loadRow h nextRowId stored
      have hcons : (stored :: rest).forM (loadRow nextRowId) =
          (loadRow nextRowId stored >>= fun _ => rest.forM (loadRow nextRowId)) := rfl
      rw [hcons, Change.run_bind, PlainTable.loadAll]
      generalize (loadRow nextRowId stored).run.run table = result at hstep
      generalize table.plain.load nextRowId stored = expected at hstep
      cases hstep with
      | failed e => exact Or.inl ⟨e, rfl, rfl⟩
      | done u next hnext => exact ih hnext

/-- A table rebuilt from rows is the plain table rebuilt from them, with indexes that mirror it. -/
theorem ofRows_cases (schema : Schema) (rows : List NamedRow) (nextRowId : Nat) :
    (exists e, PlainTable.ofRows schema rows nextRowId = .error e ∧
        ofRows schema rows nextRowId = .error e) ∨
      exists table, PlainTable.ofRows schema rows nextRowId = .ok table.plain ∧
        ofRows schema rows nextRowId = .ok table ∧ table.Mirrored := by
  have hplain : (new schema).plain = { schema } := rfl
  unfold ofRows PlainTable.ofRows
  rcases run_loadAll (mirrored_new schema) nextRowId rows with hfailed | hdone
  · rcases hfailed with ⟨e, hloaded, hrun⟩
    rw [hplain] at hloaded
    refine Or.inl ⟨e, ?_, ?_⟩
    · rw [hloaded]
      rfl
    · generalize (rows.forM (loadRow nextRowId)).run.run (new schema) = result at hrun
      rcases result with ⟨result, loaded⟩
      rw [show result = .error e from hrun]
  · rcases hdone with ⟨loaded, hloaded, hrun, hmirrored⟩
    rw [hplain] at hloaded
    refine Or.inr ⟨{ loaded with nextRowId }, ?_, ?_, hmirrored.counted nextRowId⟩
    · rw [hloaded]
      rfl
    · rw [hrun]

theorem plain_of_ofRows {schema : Schema} {rows : List NamedRow} {nextRowId : Nat} {table : Table}
    (h : ofRows schema rows nextRowId = .ok table) :
    PlainTable.ofRows schema rows nextRowId = .ok table.plain ∧ table.Mirrored := by
  rcases ofRows_cases schema rows nextRowId with hfailed | hdone
  · rcases hfailed with ⟨e, _, hrun⟩
    rw [hrun] at h
    cases h
  · rcases hdone with ⟨other, hplain, hrun, hmirrored⟩
    rw [hrun] at h
    cases h
    exact ⟨hplain, hmirrored⟩

theorem exists_of_plain_ofRows {schema : Schema} {rows : List NamedRow} {nextRowId : Nat}
    {plain : PlainTable} (h : PlainTable.ofRows schema rows nextRowId = .ok plain) :
    exists table, ofRows schema rows nextRowId = .ok table ∧ table.plain = plain := by
  rcases ofRows_cases schema rows nextRowId with hfailed | hdone
  · rcases hfailed with ⟨e, hplain, _⟩
    rw [hplain] at h
    cases h
  · rcases hdone with ⟨table, hplain, hrun, _⟩
    rw [hplain] at h
    exact ⟨table, hrun, Except.ok.inj h⟩

end Table
end Tabula
