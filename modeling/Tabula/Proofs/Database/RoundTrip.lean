import Tabula.Proofs.Database.Document
import Tabula.Proofs.Database.Reachable
import Tabula.Proofs.Plain.Reload

/-!
# Snapshots bring databases back

The document of a snapshot is read back as the snapshot, and restoring it in the place of any other
database brings every table back with its key, schema, rows and counter, and with indexes that give
the same answers.  This holds of the databases that statements make; rows of a table that was made
with a dot in the name of a column may be refused.
-/

namespace Tabula

open Sql (Statement)

/-!
# Answers of indexes
-/

namespace Index

/-- What can be asked of an index: the ids of a value, whether a value has any, and the number of
values. -/
def answers (ix : Index) : (Value -> List Nat) × (Value -> Bool) × Nat :=
  (ix.lookup, ix.has, ix.size)

/-- Two indexes that mirror the same column of the same rows cannot be told apart. -/
theorem Mirrors.answers_eq {ix ix' : Index} {position : Nat} {rows : List Row}
    (h : ix.Mirrors position rows) (h' : ix'.Mirrors position rows)
    (hascending : Rows.Ascending rows) : ix'.answers = ix.answers := by
  have hlookup : ix'.lookup = ix.lookup := by
    funext v
    by_cases hv : v = .null
    · rw [hv, h.lookup_null, h'.lookup_null]
    · rw [h.lookup_eq hascending hv, h'.lookup_eq hascending hv]
  have hhas : ix'.has = ix.has := by
    funext v
    apply Bool.eq_iff_iff.mpr
    rw [h.wellFormed.has_iff, h'.wellFormed.has_iff, hlookup]
  unfold answers
  rw [hlookup, hhas, h.size_eq, h'.size_eq]

end Index

namespace Table

variable {table table' : Table}

theorem Mirrored.answers_eq (h : table.Mirrored) (h' : table'.Mirrored)
    (hplain : table'.plain = table.plain) (column : String) :
    (table'.index? column).map Index.answers = (table.index? column).map Index.answers := by
  have hschema : table'.schema = table.schema := congrArg PlainTable.schema hplain
  have hrows : table'.rows = table.rows := congrArg PlainTable.rows hplain
  unfold index?
  rw [hschema]
  cases hfield : table.schema.field? column with
  | none => rfl
  | some field =>
      have hmem : field ∈ table.schema.fields := List.mem_of_find?_eq_some hfield
      show (table'.indexAt field.position).map _ = (table.indexAt field.position).map _
      cases hindexed : field.column.isIndexed with
      | true =>
          rcases h.indexed field hmem hindexed with ⟨ix, hix, hmirrors⟩
          rcases h'.indexed field (hschema ▸ hmem) hindexed with ⟨ix', hix', hmirrors'⟩
          rw [hrows] at hmirrors'
          rw [hix, hix']
          exact congrArg some (hmirrors.answers_eq hmirrors' h.ascending)
      | false =>
          rw [h.unindexed field hmem hindexed, h'.unindexed field (hschema ▸ hmem) hindexed]

end Table

namespace Database

/-- The answers of the index on a column of a table, if there is one. -/
def indexAnswers (db : Database) (name column : String) :
    Option (Option ((Value -> List Nat) × (Value -> Bool) × Nat)) :=
  (db.table? name).map fun table => (table.index? column).map Index.answers

variable {db db' : Database}

theorem plain_table? (db : Database) (name : String) :
    (db.table? name).map Table.plain = Keyed.find? (Text.lowercase name) db.plain.tables := by
  unfold table? plain
  rw [Keyed.find?_map]

theorem WellFormed.indexAnswers_eq (h : db.WellFormed) (h' : db'.WellFormed)
    (hplain : db'.plain = db.plain) (name column : String) :
    db'.indexAnswers name column = db.indexAnswers name column := by
  have hfound : (db'.table? name).map Table.plain = (db.table? name).map Table.plain := by
    rw [plain_table?, plain_table?, hplain]
  unfold indexAnswers
  cases htable : db.table? name with
  | none =>
      rw [htable] at hfound
      rw [Option.map_eq_none_iff.mp hfound]
  | some table =>
      rw [htable] at hfound
      rcases Option.map_eq_some_iff.mp hfound with ⟨table', htable', hsame⟩
      rw [htable']
      have hmirrored := (h.of_table htable).1.mirrored
      have hmirrored' := (h'.of_table htable').1.mirrored
      exact congrArg some (hmirrored.answers_eq hmirrored' hsame column)

end Database

/-!
# Tables rebuilt
-/

theorem Table.WellFormed.ofRows_snapshot {table : Table} (h : table.WellFormed)
    (hexport : table.plain.Exportable) :
    exists table', Table.ofRows table.schema (table.rows.map table.namedRow) table.nextRowId =
        .ok table' ∧ table'.plain = table.plain :=
  Table.exists_of_plain_ofRows (PlainTable.ofRows_named h.sound h.allocated hexport)

namespace Database

variable {db : Database}

/-- A table of a snapshot is rebuilt behind tables with lesser keys. -/
theorem rebuildTable_snapshot {table : Table} (h : table.WellFormed)
    (hexport : table.plain.Exportable) {key : String} (hkey : key = Text.lowercase table.schema.name)
    {rebuilt : List (String × Table)} (hbefore : forall other, other ∈ rebuilt -> other.1 < key) :
    exists table', Snapshot.rebuildTable rebuilt key table.snapshot =
        .ok (rebuilt ++ [(key, table')]) ∧ table'.plain = table.plain := by
  have hderived : table.schema.derivePrimaryKey = table.schema := h.sound.primaryKey_derived
  rcases h.ofRows_snapshot hexport with ⟨table', hofRows, hplain⟩
  refine ⟨table', ?_, hplain⟩
  apply rebuildTable_eq_ok_iff.mpr
  refine ⟨h.sound.schema_wellFormed, ?_, table', ?_, ?_⟩
  · show Keyed.find? (Text.lowercase table.schema.name) rebuilt = none
    rw [← hkey]
    apply Keyed.find?_eq_none_iff.mpr
    intro other hother
    exact String.ne_of_lt (hbefore other hother)
  · show Table.ofRows table.schema.derivePrimaryKey _ _ = _
    rw [hderived]
    exact hofRows
  · show _ = Keyed.insert (Text.lowercase table.schema.name) table' rebuilt
    rw [← hkey, Keyed.insert_eq_append hbefore]

theorem rebuild_snapshot (h : db.WellFormed) (hexport : db.plain.Exportable) (now : Nat) :
    exists tables, (db.snapshot now).rebuild = .ok tables ∧
      (tables.map fun entry => (entry.1, entry.2.plain)) = db.plain.tables := by
  -- The tables rebuilt so far are those before the next one, without regard to their indexes.
  have hloop : forall rest before rebuilt : List (String × Table), db.tables = before ++ rest ->
      (rebuilt.map fun entry => (entry.1, entry.2.plain)) =
        (before.map fun entry => (entry.1, entry.2.plain)) ->
      exists tables,
        (rest.map fun entry => (entry.1, entry.2.snapshot)).foldlM
            (fun rebuilt entry => Snapshot.rebuildTable rebuilt entry.1 entry.2) rebuilt =
          .ok tables ∧
        (tables.map fun entry => (entry.1, entry.2.plain)) = db.plain.tables := by
    intro rest
    induction rest with
    | nil =>
        intro before rebuilt htables hrebuilt
        rw [List.append_nil] at htables
        refine ⟨rebuilt, rfl, ?_⟩
        rw [hrebuilt, ← htables]
        rfl
    | cons entry rest ih =>
        intro before rebuilt htables hrebuilt
        have hmem : entry ∈ db.tables := by
          rw [htables]
          exact List.mem_append_right _ List.mem_cons_self
        have hbefore : forall other, other ∈ rebuilt -> other.1 < entry.1 := by
          intro other hother
          have hplain : (other.1, other.2.plain) ∈
              before.map fun entry => (entry.1, entry.2.plain) := by
            rw [← hrebuilt]
            exact List.mem_map.mpr ⟨other, hother, rfl⟩
          rcases List.mem_map.mp hplain with ⟨old, hold, hsame⟩
          have hascending := h.ascending
          rw [htables] at hascending
          rw [← (Prod.mk.inj hsame).1]
          exact (List.pairwise_append.mp hascending).2.2 old hold entry List.mem_cons_self
        have hexportable := hexport (entry.1, entry.2.plain) (List.mem_map.mpr ⟨entry, hmem, rfl⟩)
        rcases rebuildTable_snapshot (h.wellFormed entry hmem) hexportable (h.keyed entry hmem)
          hbefore with ⟨table', hstep, hplain⟩
        rw [List.map_cons, List.foldlM_cons, hstep]
        apply ih (before ++ [entry]) (rebuilt ++ [(entry.1, table')])
        · rw [htables, List.append_assoc]
          rfl
        · rw [List.map_append, List.map_append, hrebuilt, List.map_singleton, List.map_singleton,
            hplain]
  exact hloop db.tables [] [] rfl rfl

/-- Restoring its snapshot in the place of another database brings a database back. -/
theorem run_restore_snapshot (h : db.WellFormed) (hexport : db.plain.Exportable) (now : Nat)
    (other : Database) :
    exists db', (restore (db.snapshot now)).run.run other = (.ok (), db') ∧
      db'.plain = db.plain ∧ db'.WellFormed := by
  rcases rebuild_snapshot h hexport now with ⟨tables, hrebuild, hplain⟩
  refine ⟨{ tables, createdAt := db.createdAt }, ?_, ?_, wellFiled_rebuild hrebuild⟩
  · rw [run_restore, hrebuild]
    rfl
  · unfold plain
    rw [hplain]
    rfl

/-!
# Documents
-/

theorem encodable_snapshot (h : db.WellFormed)
    (hcounters : forall entry, entry ∈ db.tables -> entry.2.nextRowId < UInt64.size)
    (hcreated : db.createdAt < UInt64.size) {now : Nat} (hnow : now < UInt64.size) :
    (db.snapshot now).Encodable := by
  refine ⟨Keyed.ascending_map h.ascending, ?_, hcreated, hnow⟩
  intro entry hentry
  rcases List.mem_map.mp hentry with ⟨⟨key, table⟩, htable, hsame⟩
  rw [← hsame]
  refine ⟨?_, hcounters _ htable⟩
  intro named hnamed
  rcases List.mem_map.mp hnamed with ⟨row, hrow, hsame⟩
  rw [← hsame]
  have hid : row.id < table.nextRowId := (h.wellFormed _ htable).allocated row hrow
  exact ⟨Nat.lt_trans hid (hcounters _ htable), Keyed.ascending_ofList _⟩

/-!
# Statements
-/

/-- The database after texts that are executed one after the other on a new one, whether they
succeed or fail. -/
def afterSql (createdAt : Nat) (texts : List String) : Database :=
  after createdAt (texts.map .sql)

/-- Texts keep the properties that `all_executeSql` names, and the time of creation. -/
theorem all_perform_sql {property : PlainTable -> Prop} (hkept : PlainTable.Kept property)
    (hnew : forall {name columns}, (Statement.createTable name columns).Printable ->
      property { schema := ({ name, columns } : Schema).derivePrimaryKey })
    (h : db.WellFormed) (hall : db.plain.All property) (text : String) :
    (db.perform (.sql text)).plain.All property ∧
      (db.perform (.sql text)).createdAt = db.createdAt := by
  unfold perform
  simp only [Call.change]
  rw [run_discard]
  -- A view shows the time of creation as it is.
  apply (follows_executeSql h text).viewed
    (fun plain => plain.All property ∧ plain.createdAt = db.createdAt) ⟨hall, rfl⟩
  intro outcome plain hok
  exact PlainDatabase.all_executeSql hkept hnew hall hok

theorem all_afterSql {property : PlainTable -> Prop} (hkept : PlainTable.Kept property)
    (hnew : forall {name columns}, (Statement.createTable name columns).Printable ->
      property { schema := ({ name, columns } : Schema).derivePrimaryKey })
    (createdAt : Nat) (texts : List String) :
    (afterSql createdAt texts).plain.All property ∧
      (afterSql createdAt texts).createdAt = createdAt := by
  have hrun : forall db : Database, db.WellFormed -> db.plain.All property ->
      ((texts.map Call.sql).foldl perform db).plain.All property ∧
        ((texts.map Call.sql).foldl perform db).createdAt = db.createdAt := by
    induction texts with
    | nil =>
        intro db _ hall
        exact ⟨hall, rfl⟩
    | cons text rest ih =>
        intro db h hall
        rcases all_perform_sql hkept hnew h hall text with ⟨hnext, hcreated⟩
        rcases ih (db.perform (.sql text)) (h.perform (.sql text)) hnext with ⟨hlast, hsame⟩
        exact ⟨hlast, hsame.trans hcreated⟩
  apply hrun { createdAt } WellFiled.nil
  intro entry hentry
  cases hentry

theorem exportable_afterSql (createdAt : Nat) (texts : List String) :
    (afterSql createdAt texts).plain.Exportable ∧
      (afterSql createdAt texts).createdAt = createdAt :=
  all_afterSql PlainTable.kept_exportable PlainTable.exportable_new createdAt texts

/-- A database that statements have made comes back from the document of its snapshot, whatever the
database it is restored in the place of, as long as no counter has outgrown its word. -/
theorem restore_of_document (createdAt now : UInt64) (texts : List String) (other : Database)
    (hcounters : forall entry, entry ∈ (afterSql createdAt.toNat texts).tables ->
      entry.2.nextRowId < UInt64.size) :
    exists snapshot db',
      Snapshot.ofJson? ((afterSql createdAt.toNat texts).snapshot now.toNat).toJson = some snapshot ∧
      (restore snapshot).run.run other = (.ok (), db') ∧
      db'.plain = (afterSql createdAt.toNat texts).plain ∧
      forall name column,
        db'.indexAnswers name column = (afterSql createdAt.toNat texts).indexAnswers name column := by
  have h : (afterSql createdAt.toNat texts).WellFormed := wellFormed_after _ _
  rcases exportable_afterSql createdAt.toNat texts with ⟨hexport, hcreated⟩
  have hword : (afterSql createdAt.toNat texts).createdAt < UInt64.size := by
    rw [hcreated]
    exact createdAt.toNat_lt
  have hencodable := encodable_snapshot h hcounters hword now.toNat_lt
  rcases run_restore_snapshot h hexport now.toNat other with ⟨db', hrun, hplain, h'⟩
  refine ⟨_, db', hencodable.ofJson?_toJson, hrun, hplain, ?_⟩
  intro name column
  exact h.indexAnswers_eq h' hplain name column

def sampleSql : List String := [
  "CREATE TABLE Pets (Id INT PRIMARY KEY, name TEXT)",
  "INSERT INTO pets (name, id) VALUES ('Rex', 7)"]

theorem restore_of_document_sample :
    exists snapshot db',
      Snapshot.ofJson? ((afterSql 5 sampleSql).snapshot 6).toJson = some snapshot ∧
      (restore snapshot).run.run {} = (.ok (), db') ∧
      db'.plain = { tables := [("pets", sampleTable.plain)], createdAt := 5 } ∧
      db'.indexAnswers "PETS" "id" = (afterSql 5 sampleSql).indexAnswers "PETS" "id" := by
  have htables : (afterSql 5 sampleSql).tables = [("pets", sampleTable)] := by decide +kernel
  have hplain : (afterSql 5 sampleSql).plain =
      { tables := [("pets", sampleTable.plain)], createdAt := 5 } := by
    unfold plain
    rw [htables, (exportable_afterSql 5 sampleSql).2]
    rfl
  have hcounters : forall entry, entry ∈ (afterSql 5 sampleSql).tables ->
      entry.2.nextRowId < UInt64.size := by
    rw [htables]
    decide
  rcases restore_of_document 5 6 sampleSql {} hcounters with
    ⟨snapshot, db', hread, hrun, hsame, hindexes⟩
  exact ⟨snapshot, db', hread, hrun, hsame.trans hplain, hindexes "PETS" "id"⟩

end Database
end Tabula
