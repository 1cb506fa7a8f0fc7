import Tabula.Database.Snapshot
import Tabula.Proofs.Database.Refinement

/-!
# Reachable databases

A database is used by calls: changes of the set of tables, changes of one table, statements and
snapshots to restore.  Whatever is called, in whatever order and whether it succeeds or fails, the
database stays well-formed; so its indexes agree with its rows and its rows obey its schemas.
-/

namespace Tabula
namespace Database

/-!
# Calls
-/

inductive Call where
  | createTable (schema : Schema)
  | dropTable (name : String)
  | clear
  | insert (table : String) (columns : List String) (values : List Value)
  | update (table : String) (assignments : List (String × Value)) (keep : Row -> Bool)
  | delete (table : String) (keep : Row -> Bool)
  | sql (text : String)
  | restore (snapshot : Snapshot)

def Call.change : Call -> Change Error Database Unit
  | createTable schema => Database.createTable schema
  | dropTable name => Database.dropTable name
  | clear => Database.clear
  | insert table columns values => discard (onTable table (Table.insert columns values))
  | update table assignments keep => discard (onTable table (Table.update assignments keep))
  | delete table keep => discard (onTable table (Table.delete keep))
  | sql text => discard (executeSql text)
  | restore snapshot => Database.restore snapshot

/-- The database after a call, whether it succeeds or fails. -/
def perform (db : Database) (call : Call) : Database :=
  (call.change.run.run db).2

/-- The database after calls on a new one. -/
def after (createdAt : Nat) (calls : List Call) : Database :=
  calls.foldl perform { createdAt }

/-!
# Restoring
-/

theorem rebuildTable_eq_ok_iff {rebuilt rebuilt' : List (String × Table)} {name : String}
    {stored : TableSnapshot} :
    Snapshot.rebuildTable rebuilt name stored = .ok rebuilt' <->
      stored.schema.WellFormed ∧
        Keyed.find? (Text.lowercase stored.schema.name) rebuilt = none ∧
        exists table,
          Table.ofRows stored.schema.derivePrimaryKey stored.rows stored.nextRowId = .ok table ∧
          rebuilt' = Keyed.insert (Text.lowercase stored.schema.name) table rebuilt := by
  have hcheck : forall u, stored.schema.derivePrimaryKey.check.mapError
      (Error.invalidSnapshotTable name) = .ok u <-> stored.schema.WellFormed := by
    intro u
    rw [Result.mapError_eq_ok_iff, Schema.check_eq_ok_iff]
    exact ⟨fun h => ⟨h.columns_ne_nil, h.names_nodup, h.one_primaryKey⟩,
      Schema.wellFormed_derivePrimaryKey⟩
  unfold Snapshot.rebuildTable
  rw [Result.bind_eq_ok_iff]
  simp only [hcheck]
  by_cases hfound : Keyed.find? (Text.lowercase stored.schema.derivePrimaryKey.name) rebuilt = none
  · constructor
    · intro h
      rcases h with ⟨_, hschema, h⟩
      rw [if_neg (by rw [hfound]; exact Bool.false_ne_true)] at h
      rcases Result.bind_eq_ok_iff.mp h with ⟨table, htable, hinsert⟩
      cases hinsert
      exact ⟨hschema, hfound, table, Result.mapError_eq_ok_iff.mp htable, rfl⟩
    · intro h
      rcases h with ⟨hschema, _, table, htable, hinsert⟩
      refine ⟨(), hschema, ?_⟩
      rw [if_neg (by rw [hfound]; exact Bool.false_ne_true)]
      apply Result.bind_eq_ok_iff.mpr
      refine ⟨table, Result.mapError_eq_ok_iff.mpr htable, ?_⟩
      rw [hinsert]
      rfl
  · constructor
    · intro h
      rcases h with ⟨_, _, h⟩
      rw [if_pos (Option.isSome_iff_ne_none.mpr hfound)] at h
      cases h
    · intro h
      exact absurd h.2.1 hfound

theorem wellFiled_rebuildTable {rebuilt rebuilt' : List (String × Table)} (h : WellFiled rebuilt)
    {name : String} {stored : TableSnapshot}
    (hok : Snapshot.rebuildTable rebuilt name stored = .ok rebuilt') : WellFiled rebuilt' := by
  rcases rebuildTable_eq_ok_iff.mp hok with ⟨hschema, _, table, htable, hrebuilt⟩
  rcases Table.wellFormed_ofRows hschema htable with ⟨hwellFormed, hsame⟩
  rw [hrebuilt]
  apply h.insert hwellFormed
  rw [hsame]
  rfl

theorem wellFiled_rebuild {snapshot : Snapshot} {tables : List (String × Table)}
    (hok : snapshot.rebuild = .ok tables) : WellFiled tables := by
  have hloop : forall (stored : List (String × TableSnapshot)) (rebuilt : List (String × Table)),
      WellFiled rebuilt ->
        stored.foldlM (fun rebuilt entry => Snapshot.rebuildTable rebuilt entry.1 entry.2) rebuilt =
          .ok tables -> WellFiled tables := by
    intro stored
    induction stored with
    | nil =>
        intro rebuilt hrebuilt h
        cases h
        exact hrebuilt
    | cons entry rest ih =>
        intro rebuilt hrebuilt h
        rw [List.foldlM_cons] at h
        rcases Result.bind_eq_ok_iff.mp h with ⟨next, hnext, hrest⟩
        exact ih next (wellFiled_rebuildTable hrebuilt hnext) hrest
  exact hloop snapshot.tables [] WellFiled.nil hok

theorem run_restore (snapshot : Snapshot) (db : Database) :
    (restore snapshot).run.run db =
      match snapshot.rebuild with
      | .error e => (.error e, db)
      | .ok tables => (.ok (), { tables, createdAt := snapshot.createdAt }) := by
  unfold restore
  rw [Change.run_bind, Change.run_lift]
  cases snapshot.rebuild with
  | error e => rfl
  | ok tables => rfl

theorem run_dropTable (name : String) (db : Database) :
    (dropTable name).run.run db =
      if db.hasTable name then
        (.ok (), { db with tables := Keyed.erase (Text.lowercase name) db.tables })
      else
        (.error (.tableNotFound name), db) := by
  unfold dropTable
  rw [Change.run_bind, Change.run_get]
  simp only
  cases db.hasTable name with
  | true => rfl
  | false => rfl

theorem run_discard {α : Type} (change : Change Error Database α) (db : Database) :
    ((discard change).run.run db).2 = (change.run.run db).2 := by
  show ((change >>= fun _ => pure ()).run.run db).2 = _
  rw [Change.run_bind]
  rcases change.run.run db with ⟨result, db'⟩
  cases result with
  | error e => rfl
  | ok a => rfl

/-!
# The invariant of every run
-/

variable {db : Database}

/-- Every call keeps a database well-formed. -/
theorem WellFormed.perform (h : db.WellFormed) (call : Call) : (db.perform call).WellFormed := by
  unfold Database.perform
  cases call with
  | createTable schema => exact (follows_createTable h schema).state h
  | dropTable name =>
      simp only [Call.change]
      rw [run_dropTable]
      cases db.hasTable name with
      | true => exact h.erase _
      | false => exact h
  | clear => exact WellFiled.nil
  | insert table columns values =>
      simp only [Call.change]
      rw [run_discard]
      exact (follows_onTable h (fun _ ht => ht.follows_insert columns values) table).state h
  | update table assignments keep =>
      simp only [Call.change]
      rw [run_discard]
      exact (follows_onTable h (fun _ ht => ht.follows_update assignments keep) table).state h
  | delete table keep =>
      simp only [Call.change]
      rw [run_discard]
      exact (follows_onTable h (fun _ ht => ht.follows_delete keep) table).state h
  | sql text =>
      simp only [Call.change]
      rw [run_discard]
      exact (follows_executeSql h text).state h
  | restore snapshot =>
      simp only [Call.change]
      rw [run_restore]
      cases htables : snapshot.rebuild with
      | error e => exact h
      | ok tables => exact wellFiled_rebuild htables

theorem wellFormed_after (createdAt : Nat) (calls : List Call) :
    (after createdAt calls).WellFormed := by
  have hrun : forall db : Database, db.WellFormed ->
      (calls.foldl Database.perform db).WellFormed := by
    induction calls with
    | nil =>
        intro db h
        exact h
    | cons call rest ih =>
        intro db h
        exact ih (db.perform call) (h.perform call)
  exact hrun { createdAt } WellFiled.nil

/-!
# A small run

A table with a primary key, one row and a row that is refused.
-/

def sampleSchema : Schema where
  name := "Pets"
  columns := [⟨"Id", .int, [.primaryKey]⟩, ⟨"name", .text, []⟩]

def sampleCalls : List Call := [
  .createTable sampleSchema,
  .insert "PETS" ["id", "pets.NAME"] [.integer 7, .text "Rex"],
  .insert "pets" ["id"] [.integer 7]]

def sampleTable : Table where
  schema := { sampleSchema with primaryKey := some "Id" }
  rows := [⟨1, [.integer 7, .text "Rex"]⟩]
  nextRowId := 2
  indexes := [some { column := "Id", entries := [(.integer 7, [1])] }, none]

/-!
# Indexes agree with rows
-/

theorem index?_name {table : Table} (h : table.WellFormed) {field : Field}
    (hfield : field ∈ table.schema.fields) :
    table.index? field.column.name = table.indexAt field.position := by
  have hschema : table.schema.WellFormed := h.sound.schema_wellFormed
  unfold Table.index?
  rw [hschema.field?_name hfield]
  rfl

/-- In every reachable database an index relates each value other than NULL to the rows that hold it,
has nothing else, and stands on the columns with a constraint and no others. -/
theorem indexes_agree_with_rows (createdAt : Nat) (calls : List Call) {key : String} {table : Table}
    (htable : (key, table) ∈ (after createdAt calls).tables) {field : Field}
    (hfield : field ∈ table.schema.fields) :
    (field.column.isIndexed = true ->
        exists ix, table.index? field.column.name = some ix ∧
          (forall v, v ≠ .null ->
            ix.lookup v = (table.rows.filter fun row => row.cell field.position == v).map Row.id) ∧
          ix.has .null = false ∧
          (forall entry, entry ∈ ix.entries -> entry.1 ≠ .null ∧ entry.2 ≠ []) ∧
          ix.size = (Index.distinctValues field.position table.rows).length) ∧
      (field.column.isIndexed = false -> table.index? field.column.name = none) := by
  have h := (wellFormed_after createdAt calls).wellFormed _ htable
  rw [index?_name h hfield]
  constructor
  · intro hindexed
    rcases h.mirrored.indexed field hfield hindexed with ⟨ix, hix, hmirrors⟩
    have hnull := hmirrors.lookup_null
    refine ⟨ix, hix, ?_, ?_, ?_, hmirrors.size_eq⟩
    · intro v hv
      exact hmirrors.lookup_eq h.mirrored.ascending hv
    · apply Bool.eq_false_iff.mpr
      intro hhas
      exact hmirrors.wellFormed.has_iff.mp hhas hnull
    · intro entry hentry
      refine ⟨?_, hmirrors.wellFormed.ids_ne_nil entry hentry⟩
      intro hkey
      have hfound : ix.entries.lookup .null = some entry.2 := by
        apply Keyed.lookup_of_mem hmirrors.wellFormed.keys_nodup
        rw [← hkey]
        exact hentry
      unfold Index.lookup at hnull
      rw [hfound] at hnull
      exact hmirrors.wellFormed.ids_ne_nil entry hentry hnull
  · intro hindexed
    exact h.mirrored.unindexed field hfield hindexed

theorem indexes_agree_with_rows_sample :
    ("pets", sampleTable) ∈ (after 0 sampleCalls).tables ∧
      (exists ix, sampleTable.index? "Id" = some ix ∧ ix.lookup (.integer 7) = [1] ∧ ix.size = 1) ∧
      sampleTable.index? "name" = none := by
  have htable : ("pets", sampleTable) ∈ (after 0 sampleCalls).tables := by decide +kernel
  have hid : ⟨0, "Id", .int, [.primaryKey]⟩ ∈ sampleTable.schema.fields := by decide
  have hname : ⟨1, "name", .text, []⟩ ∈ sampleTable.schema.fields := by decide
  refine ⟨htable, ?_, (indexes_agree_with_rows 0 sampleCalls htable hname).2 rfl⟩
  rcases (indexes_agree_with_rows 0 sampleCalls htable hid).1 rfl with ⟨ix, hix, hlookup, _, _, hsize⟩
  exact ⟨ix, hix, hlookup (.integer 7) (by decide), hsize⟩

/-!
# Rows obey schemas
-/

/-- In every reachable database each table is filed under the lowercase form of its name, its schema
is one that passes the check, and its rows fit the schema and share no value that they may not
share. -/
theorem rows_obey_schemas (createdAt : Nat) (calls : List Call) {key : String} {table : Table}
    (htable : (key, table) ∈ (after createdAt calls).tables) :
    key = Text.lowercase table.schema.name ∧
      table.schema.columns ≠ [] ∧
      (table.schema.columns.map fun column => Text.lowercase column.name).Nodup ∧
      table.schema.columns.countP Column.isPrimaryKey <= 1 ∧
      (forall name, table.schema.primaryKey = some name <->
        exists column, column ∈ table.schema.columns ∧ column.isPrimaryKey = true ∧
          column.name = name) ∧
      (forall row, row ∈ table.rows ->
        row.cells.length = table.schema.columns.length ∧
          forall field, field ∈ table.schema.fields ->
            (row.cell field.position = .null ∨
                (row.cell field.position).type? = some field.column.type) ∧
              (field.column.isPrimaryKey = true -> row.cell field.position ≠ .null)) ∧
      (forall field, field ∈ table.schema.fields -> field.column.isIndexed = true ->
        table.rows.Pairwise fun a b =>
          a.cell field.position ≠ .null -> a.cell field.position ≠ b.cell field.position) := by
  have hdb := wellFormed_after createdAt calls
  have h := (hdb.wellFormed _ htable).sound
  have hschema : table.schema.WellFormed := h.schema_wellFormed
  have hderived : table.schema.derivePrimaryKey = table.schema := h.primaryKey_derived
  refine ⟨hdb.keyed _ htable, hschema.columns_ne_nil, hschema.names_nodup,
    hschema.one_primaryKey, ?_, ?_, ?_⟩
  · intro name
    rw [← hschema.primaryKey_eq_some_iff, hderived]
  · intro row hrow
    have htyped : row.Typed table.schema := h.typed row hrow
    refine ⟨htyped.length_cells, ?_⟩
    intro field hfield
    exact ⟨Value.fits_iff.mp (htyped.fits field hfield), h.keyed row hrow field hfield⟩
  · intro field hfield hindexed
    apply List.Pairwise.imp_of_mem _ h.ascending
    intro a b ha hb hlt hnull hsame
    have hrows := h.unique field hfield hindexed a ha b hb hnull hsame
    rw [hrows] at hlt
    exact Nat.lt_irrefl _ hlt

theorem rows_obey_schemas_sample :
    ("pets", sampleTable) ∈ (after 0 sampleCalls).tables ∧
      sampleTable.schema.primaryKey = some "Id" ∧
      forall row, row ∈ sampleTable.rows -> row.cell 0 ≠ .null := by
  have htable : ("pets", sampleTable) ∈ (after 0 sampleCalls).tables := by decide +kernel
  have hid : ⟨0, "Id", .int, [.primaryKey]⟩ ∈ sampleTable.schema.fields := by decide
  rcases rows_obey_schemas 0 sampleCalls htable with ⟨_, _, _, _, hkey, hrows, _⟩
  refine ⟨htable, (hkey "Id").mpr ⟨_, Schema.column_mem_of_mem_fields hid, rfl, rfl⟩, ?_⟩
  intro row hrow
  exact ((hrows row hrow).2 _ hid).2 rfl

end Database
end Tabula
