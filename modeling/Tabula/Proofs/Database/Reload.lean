import Tabula.Proofs.Database.Frame
import Tabula.Proofs.Database.Restore

/-!
# A database and its own snapshot

A column can be named unless there is a dot in its name: a name is looked up without what stands
before its last dot, so a name with a dot is never looked up as it is.  The check of a schema does
not look at dots, and a snapshot writes cells under the names of their columns.  So a database is
brought back by its own snapshot exactly if no table with a row has a column with a dot in its name,
and no row has the id zero.
-/

namespace Tabula

/-!
# Names of columns
-/

namespace Schema

variable {schema : Schema}

/-- A column without a dot in its name is reached by its name, and a column with one is reached by
no name at all. -/
structure ReachedUnlessDotted (schema : Schema) : Prop where
  undotted : forall field, field ∈ schema.fields -> '.' ∉ field.column.name.toList ->
    schema.resolve field.column.name = .ok field
  dotted : forall field, field ∈ schema.fields -> '.' ∈ field.column.name.toList ->
    forall name, schema.resolve name ≠ .ok field

theorem WellFormed.reachedUnlessDotted (h : schema.WellFormed) :
    schema.ReachedUnlessDotted where
  undotted := by
    intro field hfield hdot
    exact h.resolve_name hfield hdot
  dotted := by
    intro field _ hdot name hresolve
    exact dot_not_mem_of_resolve hresolve hdot

end Schema

/-!
# A table and its own snapshot
-/

namespace Table

variable {table : Table}

/-- What loading the rows of a table again takes. -/
def Reloadable (table : Table) : Prop :=
  forall row, row ∈ table.rows ->
    1 <= row.id ∧ forall column, column ∈ table.schema.columns -> '.' ∉ column.name.toList

theorem WellFormed.exportable (h : table.WellFormed) (hreload : table.Reloadable) {row : Row}
    (hrow : row ∈ table.rows) : table.plain.Exportable where
  dot_not_mem := (hreload row hrow).2
  counter_pos := Nat.zero_lt_of_lt (h.allocated row hrow)
  ids_pos other hother := (hreload other hother).1

/-- A table that can be reloaded is rebuilt from its own snapshot. -/
theorem WellFormed.rebuilt_snapshot (h : table.WellFormed) (hreload : table.Reloadable) :
    exists table', table.snapshot.rebuilt = .ok table' ∧ table'.plain = table.plain := by
  have hderived : table.schema.derivePrimaryKey = table.schema := h.sound.primaryKey_derived
  show exists table', ofRows table.schema.derivePrimaryKey (table.rows.map table.namedRow)
    table.nextRowId = .ok table' ∧ _
  rw [hderived]
  cases hrows : table.rows with
  | nil =>
      refine ⟨_, rfl, ?_⟩
      unfold plain
      rw [hrows]
      rfl
  | cons row rest =>
      have hrow : row ∈ table.rows := by
        rw [hrows]
        exact List.mem_cons_self
      rw [← hrows]
      exact h.ofRows_snapshot (h.exportable hreload hrow)

/-- A stored row that can be read has no cell under a name with a dot: what the name reaches is a
column that has a cell of its own. -/
theorem WellFormed.dot_not_mem_of_readable (h : table.WellFormed) {row : Row}
    (hrow : row ∈ table.rows) (hreadable : (table.namedRow row).Readable table.schema)
    {column : Column} (hcolumn : column ∈ table.schema.columns) : '.' ∉ column.name.toList := by
  have hschema : table.schema.WellFormed := h.sound.schema_wellFormed
  have hcells : forall field, field ∈ table.schema.fields ->
      (field.column.name, row.cell field.position) ∈ (table.namedRow row).cells := by
    intro field hfield
    exact (Schema.mem_named_cells hschema (h.sound.typed row hrow)).mpr ⟨field, hfield, rfl⟩
  rcases Schema.exists_field_of_mem hcolumn with ⟨field, hfield, rfl⟩
  rcases hreadable.known _ (hcells field hfield) with ⟨other, hother, hreached⟩
  rcases Schema.exists_field_of_mem hother with ⟨own, hown, rfl⟩
  have hundotted : '.' ∉ own.column.name.toList := by
    intro hdot
    exact Schema.dot_not_mem_unqualified _ (Text.dot_mem_of_alike hreached hdot)
  have hself : own.column.reachedBy (own.column.name, row.cell own.position) = true := by
    unfold Column.reachedBy
    rw [Schema.unqualified_eq_self hundotted]
    exact Text.alike_refl _
  have hsame := hreadable.eq_of_reachedBy hother (hcells field hfield) (hcells own hown) hreached
    hself
  have hname : field.column.name = own.column.name := congrArg Prod.fst hsame
  rw [hname]
  exact hundotted

theorem WellFormed.consistent_snapshot_iff (h : table.WellFormed) :
    table.snapshot.Consistent <-> table.Reloadable := by
  have hschema : table.schema.WellFormed := h.sound.schema_wellFormed
  constructor
  · intro hconsistent row hrow
    have hnamed : table.namedRow row ∈ table.snapshot.rows := List.mem_map_of_mem hrow
    refine ⟨(hconsistent.allocated _ hnamed).1, ?_⟩
    intro column hcolumn
    exact h.dot_not_mem_of_readable hrow (hconsistent.readable _ hnamed) hcolumn
  · intro hreload
    rcases h.rebuilt_snapshot hreload with ⟨table', htable', _⟩
    exact (TableSnapshot.rebuilt_isOk_iff hschema).mp ⟨table', htable'⟩

/-- A snapshot of a table describes the table. -/
theorem WellFormed.describes_snapshot (h : table.WellFormed) (hreload : table.Reloadable) :
    table.snapshot.Describes table := by
  rcases h.rebuilt_snapshot hreload with ⟨table', htable', hplain⟩
  have hdescribes := TableSnapshot.describes_of_rebuilt h.sound.schema_wellFormed htable'
  have hrows : table'.rows = table.rows := congrArg PlainTable.rows hplain
  refine ⟨h.sound.primaryKey_derived.symm, rfl, h.mirrored.ascending, ?_⟩
  rw [← hrows]
  exact hdescribes.mem_rows_iff

end Table

/-!
# A database and its own snapshot
-/

namespace Database

variable {db db' : Database}

def Reloadable (db : Database) : Prop :=
  forall entry, entry ∈ db.tables -> entry.2.Reloadable

theorem WellFormed.consistent_snapshot_iff (h : db.WellFormed) (now : Nat) :
    (db.snapshot now).Consistent <-> db.Reloadable := by
  constructor
  · intro hconsistent entry hentry
    apply (h.wellFormed entry hentry).consistent_snapshot_iff.mp
    exact hconsistent.tables _ (List.mem_map_of_mem hentry)
  · intro hreload
    constructor
    · have hkeys : (db.snapshot now).tables.map (fun entry => entry.2.key) =
          db.tables.map Prod.fst := by
        unfold snapshot
        rw [List.map_map]
        apply List.map_congr_left
        intro entry hentry
        exact (h.keyed entry hentry).symm
      rw [hkeys]
      apply List.pairwise_map.mpr
      exact h.ascending.imp String.ne_of_lt
    · intro entry hentry
      rcases List.mem_map.mp hentry with ⟨own, hown, rfl⟩
      exact (h.wellFormed own hown).consistent_snapshot_iff.mpr (hreload own hown)

theorem WellFormed.describes_snapshot (h : db.WellFormed) (hreload : db.Reloadable) (now : Nat) :
    (db.snapshot now).Describes db := by
  constructor
  · rfl
  · exact h.ascending
  · intro filed hfiled
    refine ⟨(filed.1, filed.2.snapshot), List.mem_map_of_mem hfiled, ?_, ?_⟩
    · exact (h.keyed filed hfiled).symm
    · exact (h.wellFormed filed hfiled).describes_snapshot (hreload filed hfiled)
  · intro entry hentry
    rcases List.mem_map.mp hentry with ⟨own, hown, rfl⟩
    refine ⟨own.2, ?_, (h.wellFormed own hown).describes_snapshot (hreload own hown)⟩
    apply (Keyed.find?_eq_some_iff h.ascending).mpr
    have hkey : own.1 = Text.lowercase own.2.schema.name := h.keyed own hown
    show (Text.lowercase own.2.schema.name, own.2) ∈ db.tables
    rw [← hkey]
    exact hown

/-- Restoring its own snapshot leaves a database as it is, but for its indexes. -/
theorem WellFormed.plain_of_reload (h : db.WellFormed) {now : Nat} {other : Database}
    (hok : (restore (db.snapshot now)).run.run other = (.ok (), db')) :
    db'.plain = db.plain ∧ db'.WellFormed := by
  rcases describes_of_restore hok with ⟨hdescribes, h'⟩
  have hreload := (h.consistent_snapshot_iff now).mp (restore_isOk_iff.mp ⟨db', hok⟩)
  exact ⟨(h.describes_snapshot hreload now).plain_eq hdescribes, h'⟩

/-!
# Which columns can be named
-/

/-- Whatever schemas are created or restored, a column is reached by its own name if there is no dot
in it, and by no name if there is one.  A reachable database is brought back by its own snapshot
exactly if no table has rows beside a column with a dot in its name, or a row with the id zero. -/
theorem columns_are_reached_unless_dotted (createdAt : Nat) (calls : List Call) :
    (forall schema db', (createTable schema).run.run (after createdAt calls) = (.ok (), db') ->
        exists table, db'.table? schema.name = some table ∧
          table.schema = schema.derivePrimaryKey ∧ table.schema.ReachedUnlessDotted) ∧
      (forall snapshot db', (restore snapshot).run.run (after createdAt calls) = (.ok (), db') ->
        forall entry, entry ∈ db'.tables -> entry.2.schema.ReachedUnlessDotted) ∧
      forall now other,
        (exists db',
            (restore ((after createdAt calls).snapshot now)).run.run other = (.ok (), db')) <->
          (after createdAt calls).Reloadable := by
  have h := wellFormed_after createdAt calls
  refine ⟨?_, ?_, ?_⟩
  · intro schema db' hrun
    have h' := (follows_createTable h schema).state h
    rw [hrun] at h'
    rcases createTable_effect h hrun with ⟨_, htable, _⟩
    exact ⟨_, htable, rfl, (h'.of_table htable).1.sound.schema_wellFormed.reachedUnlessDotted⟩
  · intro snapshot db' hrun entry hentry
    have h' := (describes_of_restore hrun).2
    exact (h'.wellFormed entry hentry).sound.schema_wellFormed.reachedUnlessDotted
  · intro now other
    rw [restore_isOk_iff, h.consistent_snapshot_iff]

def dottedSchema : Schema where
  name := "t"
  columns := [⟨"id", .int, []⟩, ⟨"a.b", .int, []⟩]

theorem columns_are_reached_unless_dotted_sample :
    (exists db', (createTable dottedSchema).run.run (after 0 sampleCalls) = (.ok (), db')) ∧
      dottedSchema.derivePrimaryKey.resolve "id" = .ok ⟨0, "id", .int, []⟩ ∧
      (forall name, dottedSchema.derivePrimaryKey.resolve name ≠ .ok ⟨1, "a.b", .int, []⟩) ∧
      exists db', (restore ((after 0 sampleCalls).snapshot 4)).run.run {} = (.ok (), db') := by
  have hcreated : ((createTable dottedSchema).run.run (after 0 sampleCalls)).1 = .ok () := by
    decide +kernel
  have htables : (after 0 sampleCalls).tables = [("pets", sampleTable)] := by decide +kernel
  have hreload : (after 0 sampleCalls).Reloadable := by
    unfold Reloadable
    rw [htables]
    unfold Table.Reloadable
    decide
  rcases columns_are_reached_unless_dotted 0 sampleCalls with ⟨hcreate, _, hrestore⟩
  rcases hcreate dottedSchema _ (Prod.ext hcreated rfl) with ⟨table, _, hschema, hreached⟩
  rw [hschema] at hreached
  refine ⟨⟨_, Prod.ext hcreated rfl⟩, ?_, ?_, (hrestore 4 {}).mpr hreload⟩
  · exact hreached.undotted ⟨0, "id", .int, []⟩ (by decide) (by decide)
  · exact hreached.dotted ⟨1, "a.b", .int, []⟩ (by decide) (by decide)

def dottedCalls : List Call := [
  .createTable dottedSchema,
  .insert "t" ["id"] [.integer 1]]

/-- A schema with a dot in the name of a column is accepted, the column is not found under its name,
and the database refuses its own snapshot once there is a row. -/
theorem dotted_column_not_found :
    ((createTable dottedSchema).run.run {}).1 = .ok () ∧
      dottedSchema.resolve "a.b" = .error (.columnNotFound ⟨some "t", "b"⟩) ∧
      ((restore ((after 0 dottedCalls).snapshot 0)).run.run (after 0 dottedCalls)).1 =
        .error (.invalidSnapshotTable "t" (.columnNotFound ⟨some "t", "b"⟩)) := by
  decide +kernel

end Database
end Tabula
