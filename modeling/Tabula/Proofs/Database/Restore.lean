import Mathlib.Data.List.Pairwise
import Mathlib.Data.Multiset.MapFold
import Tabula.Proofs.Database.RoundTrip
import Tabula.Proofs.Plain.Load

/-!
# Which snapshots can be restored

Restoring rebuilds the tables one after the other and their rows one after the other, and checks each
against what is there already.  It accepts exactly the consistent snapshots, which are described
without regard to any order, and what it makes of them does not depend on the order either.
-/

namespace Tabula

open Table (NamedRow)

/-!
# Tables of a snapshot
-/

namespace TableSnapshot

/-- A table that can be rebuilt: the schema is one that passes the check, the ids are different and
below the counter, every row can be read and no two rows share a value that they may not share. -/
structure Consistent (stored : TableSnapshot) : Prop where
  schema_wellFormed : stored.schema.WellFormed
  ids_nodup : (stored.rows.map NamedRow.id).Nodup
  allocated : forall named, named ∈ stored.rows -> 1 <= named.id ∧ named.id < stored.nextRowId
  readable : forall named, named ∈ stored.rows -> named.Readable stored.schema
  unique : stored.rows.Pairwise fun a b => forall column, column ∈ stored.schema.columns ->
    column.isIndexed = true -> a.value column ≠ .null -> a.value column ≠ b.value column

/-- The table holds the stored rows as they are read, in ascending order of their ids. -/
structure Describes (stored : TableSnapshot) (table : Table) : Prop where
  schema_eq : table.schema = stored.schema.derivePrimaryKey
  nextRowId_eq : table.nextRowId = stored.nextRowId
  ascending : Rows.Ascending table.rows
  mem_rows_iff : forall row, row ∈ table.rows <->
    exists named, named ∈ stored.rows ∧ named.row stored.schema = row

/-- The key that the table is filed under. -/
def key (stored : TableSnapshot) : String :=
  Text.lowercase stored.schema.name

/-- The table that restoring makes of the stored one. -/
def rebuilt (stored : TableSnapshot) : Except Error Table :=
  Table.ofRows stored.schema.derivePrimaryKey stored.rows stored.nextRowId

variable {stored : TableSnapshot} {table table' : Table}

/-- A table to load rows into. -/
def blank (stored : TableSnapshot) : PlainTable where
  schema := stored.schema.derivePrimaryKey

theorem apart_row_iff {schema : Schema} {a b : NamedRow} :
    (a.row schema).Apart schema (b.row schema) <->
      a.id ≠ b.id ∧ forall column, column ∈ schema.columns -> column.isIndexed = true ->
        a.value column ≠ .null -> a.value column ≠ b.value column := by
  constructor
  · intro h
    refine ⟨h.id_ne, ?_⟩
    intro column hcolumn hindexed
    rcases Schema.exists_field_of_mem hcolumn with ⟨field, hfield, rfl⟩
    have hunique := h.unique field hfield hindexed
    rw [NamedRow.cell_row hfield, NamedRow.cell_row hfield] at hunique
    exact hunique
  · intro h
    refine ⟨h.1, ?_⟩
    intro field hfield hindexed
    rw [NamedRow.cell_row hfield, NamedRow.cell_row hfield]
    exact h.2 _ (Schema.column_mem_of_mem_fields hfield) hindexed

theorem wellFormed_blank (h : stored.schema.WellFormed) : stored.blank.schema.WellFormed :=
  Schema.wellFormed_derivePrimaryKey h

theorem ascending_blank : Rows.Ascending stored.blank.rows :=
  List.Pairwise.nil

theorem consistent_iff_takes :
    stored.Consistent <-> stored.schema.WellFormed ∧
      stored.blank.Takes stored.nextRowId stored.rows := by
  have hapart : (stored.rows.map fun named => named.row stored.schema.derivePrimaryKey).Pairwise
      (Row.Apart stored.schema.derivePrimaryKey) <->
        (stored.rows.map NamedRow.id).Nodup ∧
          stored.rows.Pairwise fun a b => forall column, column ∈ stored.schema.columns ->
            column.isIndexed = true -> a.value column ≠ .null ->
              a.value column ≠ b.value column := by
    unfold List.Nodup
    rw [List.pairwise_map, List.pairwise_map, ← List.pairwise_and_iff]
    apply List.Pairwise.iff
    intro a b
    exact apart_row_iff
  constructor
  · intro h
    refine ⟨h.schema_wellFormed, h.allocated, ?_, hapart.mpr ⟨h.ids_nodup, h.unique⟩, ?_⟩
    · intro named hnamed
      exact NamedRow.readable_derivePrimaryKey_iff.mpr (h.readable named hnamed)
    · intro row hrow
      cases hrow
  · intro h
    rcases h with ⟨hschema, htakes⟩
    rcases hapart.mp htakes.apart with ⟨hids, hunique⟩
    refine ⟨hschema, hids, htakes.allocated, ?_, hunique⟩
    intro named hnamed
    exact NamedRow.readable_derivePrimaryKey_iff.mp (htakes.readable named hnamed)

/-- A table is rebuilt exactly if it is consistent. -/
theorem rebuilt_isOk_iff (h : stored.schema.WellFormed) :
    (exists table, stored.rebuilt = .ok table) <-> stored.Consistent := by
  have hload : (exists loaded,
      PlainTable.loadAll stored.nextRowId stored.rows stored.blank = .ok loaded) <->
        stored.Consistent := by
    rw [PlainTable.loadAll_isOk_iff (wellFormed_blank h) ascending_blank, consistent_iff_takes]
    exact (and_iff_right h).symm
  rw [← hload]
  constructor
  · intro hok
    rcases hok with ⟨table, htable⟩
    rcases Result.bind_eq_ok_iff.mp (Table.plain_of_ofRows htable).1 with ⟨loaded, hloaded, _⟩
    exact ⟨loaded, hloaded⟩
  · intro hok
    rcases hok with ⟨loaded, hloaded⟩
    have hplain : PlainTable.ofRows stored.schema.derivePrimaryKey stored.rows stored.nextRowId =
        .ok { loaded with nextRowId := stored.nextRowId } :=
      Result.bind_eq_ok_iff.mpr ⟨loaded, hloaded, rfl⟩
    rcases Table.exists_of_plain_ofRows hplain with ⟨table, htable, _⟩
    exact ⟨table, htable⟩

theorem describes_of_rebuilt (h : stored.schema.WellFormed) (hok : stored.rebuilt = .ok table) :
    stored.Describes table := by
  rcases Result.bind_eq_ok_iff.mp (Table.plain_of_ofRows hok).1 with ⟨loaded, hloaded, hcounted⟩
  have hschema := PlainTable.schema_loadAll hloaded
  rcases PlainTable.mem_rows_of_loadAll (wellFormed_blank h) ascending_blank hloaded with
    ⟨hascending, hmem⟩
  have hsame : table.plain = { loaded with nextRowId := stored.nextRowId } :=
    (Except.ok.inj hcounted).symm
  have hrows : table.rows = loaded.rows := congrArg PlainTable.rows hsame
  constructor
  · exact (congrArg PlainTable.schema hsame).trans hschema
  · exact congrArg PlainTable.nextRowId hsame
  · rw [hrows]
    exact hascending
  · intro row
    rw [hrows, hmem]
    exact or_iff_right List.not_mem_nil

/-- What is described is the table but for its indexes. -/
theorem Describes.plain_eq (h : stored.Describes table) (h' : stored.Describes table') :
    table'.plain = table.plain := by
  have hrows : table'.rows = table.rows := by
    apply h'.ascending.ext h.ascending
    intro row
    rw [h'.mem_rows_iff, h.mem_rows_iff]
  unfold Table.plain
  rw [h'.schema_eq, h.schema_eq, hrows, h'.nextRowId_eq, h.nextRowId_eq]

end TableSnapshot

/-!
# Rebuilding tables
-/

namespace Snapshot

structure Consistent (snapshot : Snapshot) : Prop where
  keys_nodup : (snapshot.tables.map fun entry => entry.2.key).Nodup
  tables : forall entry, entry ∈ snapshot.tables -> entry.2.Consistent

/-- The database holds the tables of the snapshot and nothing else. -/
structure Describes (snapshot : Snapshot) (db : Database) : Prop where
  createdAt_eq : db.createdAt = snapshot.createdAt
  ascending : Keyed.Ascending db.tables
  described : forall filed, filed ∈ db.tables -> exists entry, entry ∈ snapshot.tables ∧
    entry.2.key = filed.1 ∧ entry.2.Describes filed.2
  complete : forall entry, entry ∈ snapshot.tables -> exists table,
    db.table? entry.2.schema.name = some table ∧ entry.2.Describes table

/-- Tables rebuilt one after the other and added to those there are. -/
def rebuildAll (rebuilt : List (String × Table)) (entries : List (String × TableSnapshot)) :
    Except Error (List (String × Table)) :=
  entries.foldlM (fun rebuilt entry => rebuildTable rebuilt entry.1 entry.2) rebuilt

variable {rebuilt tables : List (String × Table)} {entries : List (String × TableSnapshot)}

theorem rebuildAll_cons_eq_ok_iff {entry : String × TableSnapshot} :
    rebuildAll rebuilt (entry :: entries) = .ok tables <->
      entry.2.schema.WellFormed ∧ Keyed.find? entry.2.key rebuilt = none ∧
        exists table, entry.2.rebuilt = .ok table ∧
          rebuildAll (Keyed.insert entry.2.key table rebuilt) entries = .ok tables := by
  unfold rebuildAll
  rw [List.foldlM_cons, Result.bind_eq_ok_iff]
  simp only [Database.rebuildTable_eq_ok_iff]
  constructor
  · intro h
    rcases h with ⟨next, ⟨hschema, hfree, table, htable, hnext⟩, hrest⟩
    rw [hnext] at hrest
    exact ⟨hschema, hfree, table, htable, hrest⟩
  · intro h
    rcases h with ⟨hschema, hfree, table, htable, hrest⟩
    exact ⟨_, ⟨hschema, hfree, table, htable, rfl⟩, hrest⟩

/-- Tables are rebuilt beside others exactly if each is consistent and their keys are new and
different. -/
theorem rebuildAll_isOk_iff :
    (exists tables, rebuildAll rebuilt entries = .ok tables) <->
      (entries.map fun entry => entry.2.key).Nodup ∧
        (forall entry, entry ∈ entries -> entry.2.Consistent) ∧
        forall entry, entry ∈ entries -> Keyed.find? entry.2.key rebuilt = none := by
  -- The tables there are grow with each entry; what is kept is that the keys to come are free.
  induction entries generalizing rebuilt with
  | nil => simp [rebuildAll]
  | cons entry rest ih =>
      simp only [rebuildAll_cons_eq_ok_iff]
      have hnew : forall key table, Keyed.find? key (Keyed.insert entry.2.key table rebuilt) = none <->
          key ≠ entry.2.key ∧ Keyed.find? key rebuilt = none := by
        intro key table
        rw [Keyed.find?_insert]
        by_cases hkey : key = entry.2.key
        · simp [hkey]
        · simp [hkey, Ne.symm hkey]
      rw [List.map_cons, List.nodup_cons, List.forall_mem_cons, List.forall_mem_cons]
      constructor
      · intro h
        rcases h with ⟨tables, hschema, hfree, table, htable, hrest⟩
        rcases ih.mp ⟨tables, hrest⟩ with ⟨hkeys, hconsistent, hfrees⟩
        have hfirst := (TableSnapshot.rebuilt_isOk_iff hschema).mp ⟨table, htable⟩
        refine ⟨⟨?_, hkeys⟩, ⟨hfirst, hconsistent⟩, hfree, ?_⟩
        · intro hmem
          rcases List.mem_map.mp hmem with ⟨other, hother, hsame⟩
          exact ((hnew _ table).mp (hfrees other hother)).1 hsame
        · intro other hother
          exact ((hnew _ table).mp (hfrees other hother)).2
      · intro h
        rcases h with ⟨⟨hkey, hkeys⟩, ⟨hfirst, hconsistent⟩, hfree, hfrees⟩
        have hschema := hfirst.schema_wellFormed
        rcases (TableSnapshot.rebuilt_isOk_iff hschema).mpr hfirst with ⟨table, htable⟩
        have hrest : forall other, other ∈ rest ->
            Keyed.find? other.2.key (Keyed.insert entry.2.key table rebuilt) = none := by
          intro other hother
          refine (hnew _ table).mpr ⟨?_, hfrees other hother⟩
          intro hsame
          exact hkey (List.mem_map.mpr ⟨other, hother, hsame⟩)
        rcases ih.mpr ⟨hkeys, hconsistent, hrest⟩ with ⟨tables, htables⟩
        exact ⟨tables, hschema, hfree, table, htable, htables⟩

theorem mem_of_rebuildAll (h : Keyed.Ascending rebuilt)
    (hok : rebuildAll rebuilt entries = .ok tables) :
    Keyed.Ascending tables ∧ forall filed, filed ∈ tables <->
      filed ∈ rebuilt ∨ exists entry, entry ∈ entries ∧ entry.2.key = filed.1 ∧
        entry.2.rebuilt = .ok filed.2 := by
  induction entries generalizing rebuilt with
  | nil =>
      cases hok
      exact ⟨h, by simp⟩
  | cons entry rest ih =>
      rcases rebuildAll_cons_eq_ok_iff.mp hok with ⟨_, hfree, table, htable, hrest⟩
      rcases ih (Keyed.ascending_insert h) hrest with ⟨hascending, hmem⟩
      refine ⟨hascending, ?_⟩
      intro filed
      rw [hmem, Keyed.mem_insert h, List.exists_mem_cons_iff]
      constructor
      · intro hfiled
        rcases hfiled with (hnew | hold) | hlater
        · rw [hnew]
          exact Or.inr (Or.inl ⟨rfl, htable⟩)
        · exact Or.inl hold.1
        · exact Or.inr (Or.inr hlater)
      · intro hfiled
        rcases hfiled with hold | hnew | hlater
        · exact Or.inl (Or.inr ⟨hold, Keyed.find?_eq_none_iff.mp hfree filed hold⟩)
        · rcases hnew with ⟨hkey, hsame⟩
          rw [htable] at hsame
          exact Or.inl (Or.inl (Prod.ext hkey.symm (Except.ok.inj hsame).symm))
        · exact Or.inr hlater

variable {snapshot : Snapshot} {db db' : Database}

theorem rebuild_isOk_iff :
    (exists tables, snapshot.rebuild = .ok tables) <-> snapshot.Consistent := by
  show (exists tables, rebuildAll [] snapshot.tables = .ok tables) <-> _
  rw [rebuildAll_isOk_iff]
  constructor
  · intro h
    exact ⟨h.1, h.2.1⟩
  · intro h
    exact ⟨h.keys_nodup, h.tables, fun _ _ => rfl⟩

theorem describes_of_rebuild {tables : List (String × Table)} (hok : snapshot.rebuild = .ok tables) :
    snapshot.Describes { tables, createdAt := snapshot.createdAt } := by
  have hconsistent := rebuild_isOk_iff.mp ⟨tables, hok⟩
  rcases mem_of_rebuildAll List.Pairwise.nil hok with ⟨hascending, hmem⟩
  have hdescribes : forall entry, entry ∈ snapshot.tables -> forall {table},
      entry.2.rebuilt = .ok table -> entry.2.Describes table := by
    intro entry hentry table htable
    exact TableSnapshot.describes_of_rebuilt (hconsistent.tables entry hentry).schema_wellFormed
      htable
  constructor
  · rfl
  · exact hascending
  · intro filed hfiled
    rcases (hmem filed).mp hfiled with hold | hnew
    · cases hold
    · rcases hnew with ⟨entry, hentry, hkey, htable⟩
      exact ⟨entry, hentry, hkey, hdescribes entry hentry htable⟩
  · intro entry hentry
    have htables := hconsistent.tables entry hentry
    rcases (TableSnapshot.rebuilt_isOk_iff htables.schema_wellFormed).mpr htables with
      ⟨table, htable⟩
    refine ⟨table, ?_, hdescribes entry hentry htable⟩
    apply (Keyed.find?_eq_some_iff hascending).mpr
    exact (hmem _).mpr (Or.inr ⟨entry, hentry, rfl, htable⟩)

/-- What is described is the database but for its indexes. -/
theorem Describes.plain_eq (h : snapshot.Describes db) (h' : snapshot.Describes db') :
    db'.plain = db.plain := by
  have hsub : forall {a b : Database}, snapshot.Describes a -> snapshot.Describes b ->
      forall filed, filed ∈ a.plain.tables -> filed ∈ b.plain.tables := by
    intro a b ha hb filed hfiled
    rcases List.mem_map.mp hfiled with ⟨own, hown, rfl⟩
    rcases ha.described own hown with ⟨entry, hentry, hkey, hdescribes⟩
    rcases hb.complete entry hentry with ⟨table, htable, hdescribes'⟩
    apply List.mem_map.mpr
    refine ⟨(entry.2.key, table), Keyed.mem_of_find? htable, ?_⟩
    rw [hkey, hdescribes.plain_eq hdescribes']
  have htables : db'.plain.tables = db.plain.tables := by
    apply (Keyed.ascending_map h'.ascending).ext (Keyed.ascending_map h.ascending)
    intro filed
    exact ⟨hsub h' h filed, hsub h h' filed⟩
  have hcreated : db'.plain.createdAt = db.plain.createdAt :=
    h'.createdAt_eq.trans h.createdAt_eq.symm
  exact congrArg₂ PlainDatabase.mk htables hcreated

end Snapshot

/-!
# Snapshots without order

What a snapshot says when the order of its tables, rows and cells is forgotten, and with it the names
that its tables are filed under.
-/

namespace Table
namespace NamedRow

def unordered (named : NamedRow) : Nat × Multiset (String × Value) :=
  (named.id, named.cells)

variable {schema : Schema} {named other : NamedRow}

theorem unordered_eq_iff :
    other.unordered = named.unordered <-> other.id = named.id ∧ other.cells.Perm named.cells := by
  unfold unordered
  rw [Prod.mk.injEq, Multiset.coe_eq_coe]

/-- One cell at most is read for a column. -/
theorem Readable.eq_of_reachedBy (h : named.Readable schema) {column : Column}
    (hcolumn : column ∈ schema.columns) {a b : String × Value} (ha : a ∈ named.cells)
    (hb : b ∈ named.cells) (hnameA : column.reachedBy a = true)
    (hnameB : column.reachedBy b = true) : a = b := by
  have hsymm : Std.Symm fun a b : String × Value => forall column, column ∈ schema.columns ->
      ¬ (column.reachedBy a = true ∧ column.reachedBy b = true) :=
    ⟨fun _ _ hab column hcolumn hnames => hab column hcolumn hnames.symm⟩
  by_contra hne
  exact h.once.forall ha hb hne column hcolumn ⟨hnameA, hnameB⟩

theorem Readable.value_eq (h : named.Readable schema) (hperm : other.cells.Perm named.cells)
    {column : Column} (hcolumn : column ∈ schema.columns) :
    other.value column = named.value column := by
  unfold value
  cases hfound : named.cells.find? column.reachedBy with
  | none =>
      have hother : other.cells.find? column.reachedBy = none := by
        rw [List.find?_eq_none] at hfound ⊢
        intro cell hcell
        exact hfound cell (hperm.mem_iff.mp hcell)
      rw [hother]
  | some cell =>
      have hcell := List.mem_of_find?_eq_some hfound
      cases hother : other.cells.find? column.reachedBy with
      | none =>
          rw [List.find?_eq_none] at hother
          exact absurd (List.find?_some hfound) (hother cell (hperm.mem_iff.mpr hcell))
      | some cell' =>
          have hcell' := hperm.mem_iff.mp (List.mem_of_find?_eq_some hother)
          rw [h.eq_of_reachedBy hcolumn hcell' hcell (List.find?_some hother)
            (List.find?_some hfound)]

theorem Readable.of_unordered_eq (h : named.Readable schema)
    (hsame : other.unordered = named.unordered) :
    other.Readable schema ∧ other.row schema = named.row schema := by
  rcases unordered_eq_iff.mp hsame with ⟨hid, hperm⟩
  have hvalue : forall column, column ∈ schema.columns ->
      other.value column = named.value column := fun column => h.value_eq hperm
  constructor
  · constructor
    · intro cell hcell
      exact h.known cell (hperm.mem_iff.mp hcell)
    · refine (hperm.pairwise_iff ?_).mpr h.once
      intro a b hab column hcolumn hnames
      exact hab column hcolumn hnames.symm
    · intro cell hcell
      exact h.typed cell (hperm.mem_iff.mp hcell)
    · intro column hcolumn hkey
      rw [hvalue column hcolumn]
      exact h.keyed column hcolumn hkey
  · unfold row
    rw [hid, List.map_congr_left hvalue]

end NamedRow
end Table

namespace TableSnapshot

def unordered (stored : TableSnapshot) :
    Schema × Multiset (Nat × Multiset (String × Value)) × Nat :=
  (stored.schema.derivePrimaryKey, stored.rows.map NamedRow.unordered, stored.nextRowId)

variable {stored other : TableSnapshot} {table : Table}

theorem Consistent.unique_of_mem (h : stored.Consistent) {a b : NamedRow} (ha : a ∈ stored.rows)
    (hb : b ∈ stored.rows) (hid : a.id ≠ b.id) {column : Column}
    (hcolumn : column ∈ stored.schema.columns) (hindexed : column.isIndexed = true)
    (hnull : a.value column ≠ .null) : a.value column ≠ b.value column := by
  have hsymm : Std.Symm fun a b : NamedRow => forall column, column ∈ stored.schema.columns ->
      column.isIndexed = true -> a.value column ≠ .null -> a.value column ≠ b.value column := by
    constructor
    intro a b hab column hcolumn hindexed hnull hsame
    exact hab column hcolumn hindexed (hsame ▸ hnull) hsame.symm
  have hne : a ≠ b := fun hab => hid (congrArg NamedRow.id hab)
  exact h.unique.forall ha hb hne column hcolumn hindexed hnull

/-- What two stored tables share that differ in order only. -/
structure Reordered (stored other : TableSnapshot) : Prop where
  schema_eq : other.schema.derivePrimaryKey = stored.schema.derivePrimaryKey
  rows_perm : (other.rows.map NamedRow.unordered).Perm (stored.rows.map NamedRow.unordered)
  nextRowId_eq : other.nextRowId = stored.nextRowId

theorem reordered_iff : other.unordered = stored.unordered <-> stored.Reordered other := by
  unfold unordered
  rw [Prod.mk.injEq, Prod.mk.injEq, Multiset.coe_eq_coe]
  exact ⟨fun h => ⟨h.1, h.2.1, h.2.2⟩, fun h => ⟨h.schema_eq, h.rows_perm, h.nextRowId_eq⟩⟩

theorem Reordered.columns_eq (hsame : stored.Reordered other) :
    other.schema.columns = stored.schema.columns := by
  have hcolumns := congrArg Schema.columns hsame.schema_eq
  exact hcolumns

theorem Reordered.exists_of_mem (hsame : stored.Reordered other) {named : NamedRow}
    (hnamed : named ∈ other.rows) :
    exists own, own ∈ stored.rows ∧ own.unordered = named.unordered :=
  List.mem_map.mp (hsame.rows_perm.mem_iff.mp (List.mem_map_of_mem hnamed))

theorem Reordered.consistent (hsame : stored.Reordered other) (h : stored.Consistent) :
    other.Consistent := by
  have hcolumns := hsame.columns_eq
  have hids : (other.rows.map NamedRow.id).Nodup := by
    have hperm := hsame.rows_perm.map Prod.fst
    rw [List.map_map, List.map_map] at hperm
    exact hperm.nodup_iff.mpr h.ids_nodup
  constructor
  · have hschema := h.schema_wellFormed
    constructor
    · rw [hcolumns]
      exact hschema.columns_ne_nil
    · rw [hcolumns]
      exact hschema.names_nodup
    · rw [hcolumns]
      exact hschema.one_primaryKey
  · exact hids
  · intro named hnamed
    rcases hsame.exists_of_mem hnamed with ⟨own, hown, hrow⟩
    rw [hsame.nextRowId_eq, ← (NamedRow.unordered_eq_iff.mp hrow).1]
    exact h.allocated own hown
  · intro named hnamed
    rcases hsame.exists_of_mem hnamed with ⟨own, hown, hrow⟩
    rw [← NamedRow.readable_derivePrimaryKey_iff, hsame.schema_eq,
      NamedRow.readable_derivePrimaryKey_iff]
    exact ((h.readable own hown).of_unordered_eq hrow.symm).1
  · -- The pairs are not in the same order, so uniqueness is carried over by membership.
    apply (List.pairwise_map.mp hids).imp_of_mem
    intro a b ha hb hid column hcolumn hindexed hnull
    rcases hsame.exists_of_mem ha with ⟨ownA, hownA, hrowA⟩
    rcases hsame.exists_of_mem hb with ⟨ownB, hownB, hrowB⟩
    rcases NamedRow.unordered_eq_iff.mp hrowA.symm with ⟨hidA, hpermA⟩
    rcases NamedRow.unordered_eq_iff.mp hrowB.symm with ⟨hidB, hpermB⟩
    rw [hcolumns] at hcolumn
    rw [hidA, hidB] at hid
    rw [(h.readable ownA hownA).value_eq hpermA hcolumn] at hnull ⊢
    rw [(h.readable ownB hownB).value_eq hpermB hcolumn]
    exact h.unique_of_mem hownA hownB hid hcolumn hindexed hnull

theorem Reordered.symm (hsame : stored.Reordered other) : other.Reordered stored :=
  ⟨hsame.schema_eq.symm, hsame.rows_perm.symm, hsame.nextRowId_eq.symm⟩

theorem Reordered.row_eq (hsame : stored.Reordered other) (h : stored.Consistent)
    {own named : NamedRow} (hown : own ∈ stored.rows) (hrow : own.unordered = named.unordered) :
    named.row other.schema = own.row stored.schema := by
  rw [← ((h.readable own hown).of_unordered_eq hrow.symm).2]
  unfold NamedRow.row
  rw [hsame.columns_eq]

theorem Reordered.describes (hsame : stored.Reordered other) (h : stored.Consistent)
    (hdescribes : stored.Describes table) : other.Describes table := by
  constructor
  · exact hdescribes.schema_eq.trans hsame.schema_eq.symm
  · exact hdescribes.nextRowId_eq.trans hsame.nextRowId_eq.symm
  · exact hdescribes.ascending
  · intro row
    rw [hdescribes.mem_rows_iff]
    constructor
    · intro hparts
      rcases hparts with ⟨own, hown, hrow⟩
      rcases hsame.symm.exists_of_mem hown with ⟨named, hnamed, hnamedRow⟩
      exact ⟨named, hnamed, (hsame.row_eq h hown hnamedRow.symm).trans hrow⟩
    · intro hparts
      rcases hparts with ⟨named, hnamed, hrow⟩
      rcases hsame.exists_of_mem hnamed with ⟨own, hown, hownRow⟩
      exact ⟨own, hown, (hsame.row_eq h hown hownRow).symm.trans hrow⟩

end TableSnapshot

namespace Snapshot

def unordered (snapshot : Snapshot) :
    Multiset (Schema × Multiset (Nat × Multiset (String × Value)) × Nat) × Nat :=
  (snapshot.tables.map fun entry => entry.2.unordered, snapshot.createdAt)

variable {snapshot other : Snapshot} {db : Database}

theorem tables_perm (hsame : other.unordered = snapshot.unordered) :
    (other.tables.map fun entry => entry.2.unordered).Perm
      (snapshot.tables.map fun entry => entry.2.unordered) :=
  Multiset.coe_eq_coe.mp (Prod.mk.inj hsame).1

theorem exists_of_mem (hsame : other.unordered = snapshot.unordered)
    {entry : String × TableSnapshot} (hentry : entry ∈ other.tables) :
    exists own, own ∈ snapshot.tables ∧ own.2.Reordered entry.2 := by
  have hmem := (tables_perm hsame).mem_iff.mp (List.mem_map_of_mem hentry)
  rcases List.mem_map.mp hmem with ⟨own, hown, hunordered⟩
  exact ⟨own, hown, TableSnapshot.reordered_iff.mp hunordered.symm⟩

theorem key_eq_of_reordered {stored other : TableSnapshot} (hsame : stored.Reordered other) :
    other.key = stored.key := by
  have hname := congrArg Schema.name hsame.schema_eq
  exact congrArg Text.lowercase hname

theorem Consistent.of_unordered_eq (h : snapshot.Consistent)
    (hsame : other.unordered = snapshot.unordered) : other.Consistent := by
  constructor
  · have hperm := (tables_perm hsame).map fun stored => Text.lowercase stored.1.name
    rw [List.map_map, List.map_map] at hperm
    exact hperm.nodup_iff.mpr h.keys_nodup
  · intro entry hentry
    rcases exists_of_mem hsame hentry with ⟨own, hown, hreordered⟩
    exact hreordered.consistent (h.tables own hown)

theorem Describes.of_unordered_eq (hdescribes : snapshot.Describes db) (h : snapshot.Consistent)
    (hsame : other.unordered = snapshot.unordered) : other.Describes db := by
  constructor
  · exact hdescribes.createdAt_eq.trans (Prod.mk.inj hsame).2.symm
  · exact hdescribes.ascending
  · intro filed hfiled
    rcases hdescribes.described filed hfiled with ⟨own, hown, hkey, htable⟩
    rcases exists_of_mem hsame.symm hown with ⟨entry, hentry, hreordered⟩
    refine ⟨entry, hentry, ?_, hreordered.symm.describes (h.tables own hown) htable⟩
    rw [← key_eq_of_reordered hreordered]
    exact hkey
  · intro entry hentry
    rcases exists_of_mem hsame hentry with ⟨own, hown, hreordered⟩
    rcases hdescribes.complete own hown with ⟨table, hfound, htable⟩
    refine ⟨table, ?_, hreordered.describes (h.tables own hown) htable⟩
    have hkey : Text.lowercase entry.2.schema.name = Text.lowercase own.2.schema.name :=
      key_eq_of_reordered hreordered
    unfold Database.table? at hfound ⊢
    rw [hkey]
    exact hfound

end Snapshot

/-!
# Restoring
-/

namespace Database

variable {db db' : Database} {snapshot : Snapshot}

theorem restore_eq_ok_iff :
    (restore snapshot).run.run db = (.ok (), db') <->
      exists tables, snapshot.rebuild = .ok tables ∧
        db' = { tables, createdAt := snapshot.createdAt } := by
  rw [run_restore]
  cases snapshot.rebuild with
  | error e =>
      constructor
      · intro h
        cases h
      · intro h
        rcases h with ⟨tables, htables, _⟩
        cases htables
  | ok tables =>
      constructor
      · intro h
        exact ⟨tables, rfl, (Prod.mk.inj h).2.symm⟩
      · intro h
        rcases h with ⟨tables', htables, hdb'⟩
        cases htables
        rw [hdb']

theorem restore_isOk_iff :
    (exists db', (restore snapshot).run.run db = (.ok (), db')) <-> snapshot.Consistent := by
  rw [← Snapshot.rebuild_isOk_iff]
  simp only [restore_eq_ok_iff]
  constructor
  · intro h
    rcases h with ⟨_, tables, htables, _⟩
    exact ⟨tables, htables⟩
  · intro h
    rcases h with ⟨tables, htables⟩
    exact ⟨_, tables, htables, rfl⟩

theorem describes_of_restore (hok : (restore snapshot).run.run db = (.ok (), db')) :
    snapshot.Describes db' ∧ db'.WellFormed := by
  rcases restore_eq_ok_iff.mp hok with ⟨tables, htables, hdb'⟩
  rw [hdb']
  exact ⟨Snapshot.describes_of_rebuild htables, wellFiled_rebuild htables⟩

/-- Whatever the database, restoring accepts exactly the consistent snapshots and leaves the database
that the snapshot describes.  Snapshots that differ in order only, or in the names that their tables
are filed under, are accepted or refused alike and restore the same database. -/
theorem restore_accepts_consistent (db : Database) (snapshot : Snapshot) :
    ((exists db', (restore snapshot).run.run db = (.ok (), db')) <-> snapshot.Consistent) ∧
      (forall db', (restore snapshot).run.run db = (.ok (), db') -> snapshot.Describes db') ∧
      forall (other : Snapshot) (start : Database), other.unordered = snapshot.unordered ->
        ((exists db', (restore other).run.run start = (.ok (), db')) <->
            exists db', (restore snapshot).run.run db = (.ok (), db')) ∧
          forall db' db'', (restore snapshot).run.run db = (.ok (), db') ->
            (restore other).run.run start = (.ok (), db'') ->
              db''.plain = db'.plain ∧
                forall name column, db''.indexAnswers name column = db'.indexAnswers name column := by
  refine ⟨restore_isOk_iff, fun db' hok => (describes_of_restore hok).1, ?_⟩
  intro other start hsame
  constructor
  · rw [restore_isOk_iff, restore_isOk_iff]
    exact ⟨fun h => h.of_unordered_eq hsame.symm, fun h => h.of_unordered_eq hsame⟩
  · intro db' db'' hok hother
    rcases describes_of_restore hok with ⟨hdescribes, hwellFormed⟩
    rcases describes_of_restore hother with ⟨hdescribes', hwellFormed'⟩
    have hconsistent := restore_isOk_iff.mp ⟨db', hok⟩
    have hplain := (hdescribes.of_unordered_eq hconsistent hsame).plain_eq hdescribes'
    exact ⟨hplain, hwellFormed.indexAnswers_eq hwellFormed' hplain⟩

def sampleStored : Snapshot where
  version := Snapshot.currentVersion
  tables := [("pets", {
    schema := sampleSchema
    rows := [⟨4, [("NAME", .text "Tom"), ("pets.id", .integer 8)]⟩, ⟨1, [("Id", .integer 7)]⟩]
    nextRowId := 5 })]
  createdAt := 3
  updatedAt := 4

def sampleReordered : Snapshot where
  version := Snapshot.currentVersion
  tables := [("other", {
    schema := sampleSchema
    rows := [⟨1, [("Id", .integer 7)]⟩, ⟨4, [("pets.id", .integer 8), ("NAME", .text "Tom")]⟩]
    nextRowId := 5 })]
  createdAt := 3
  updatedAt := 8

def sampleRestored : Table where
  schema := { sampleSchema with primaryKey := some "Id" }
  rows := [⟨1, [.integer 7, .null]⟩, ⟨4, [.integer 8, .text "Tom"]⟩]
  nextRowId := 5
  indexes := [some { column := "Id", entries := [(.integer 8, [4]), (.integer 7, [1])] }, none]

theorem restore_accepts_consistent_sample :
    sampleStored.Consistent ∧
      sampleStored.Describes { tables := [("pets", sampleRestored)], createdAt := 3 } ∧
      exists db', (restore sampleReordered).run.run (after 0 sampleCalls) = (.ok (), db') ∧
        db'.plain = { tables := [("pets", sampleRestored.plain)], createdAt := 3 } := by
  have hstored : (restore sampleStored).run.run {} =
      (.ok (), { tables := [("pets", sampleRestored)], createdAt := 3 }) := by
    apply Prod.ext
    · decide +kernel
    · decide +kernel
  have hcells : (NamedRow.mk 4 [("pets.id", .integer 8), ("NAME", .text "Tom")]).unordered =
      (NamedRow.mk 4 [("NAME", .text "Tom"), ("pets.id", .integer 8)]).unordered :=
    NamedRow.unordered_eq_iff.mpr ⟨rfl, List.Perm.swap _ _ _⟩
  have hsame : sampleReordered.unordered = sampleStored.unordered := by
    refine Prod.ext (congrArg (fun stored => Multiset.ofList [stored]) ?_) rfl
    refine TableSnapshot.reordered_iff.mpr ⟨rfl, ?_, rfl⟩
    show List.Perm [_, NamedRow.unordered _] [_, _]
    rw [hcells]
    exact List.Perm.swap _ _ _
  rcases restore_accepts_consistent {} sampleStored with ⟨hconsistent, hdescribes, hreordered⟩
  rcases hreordered sampleReordered (after 0 sampleCalls) hsame with ⟨haccepted, hequal⟩
  rcases haccepted.mpr ⟨_, hstored⟩ with ⟨db', hother⟩
  refine ⟨hconsistent.mp ⟨_, hstored⟩, hdescribes _ hstored, db', hother, ?_⟩
  exact (hequal _ _ hstored hother).1

end Database
end Tabula
