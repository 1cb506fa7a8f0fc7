import Tabula.Proofs.Database.Restore

/-!
# Row ids

A new row gets the counter of its table for an id, and no step lowers a counter, so ids stay below
it.  The counters of new tables start from one.  A counter that is restored is held against the rows
of its table and nothing else: a snapshot of a table without rows brings any counter in, also zero,
and the next row then gets an id that loading refuses.
-/

namespace Tabula

/-- No table of a snapshot counts its rows from zero. -/
def Snapshot.Positive (snapshot : Snapshot) : Prop :=
  forall entry, entry ∈ snapshot.tables -> 0 < entry.2.nextRowId

namespace Database

variable {db : Database}

def Numbered (db : Database) : Prop :=
  db.plain.All PlainTable.Numbered

theorem numbered_of_rebuild {snapshot : Snapshot} (hpositive : snapshot.Positive)
    {tables : List (String × Table)} (hok : snapshot.rebuild = .ok tables) :
    Numbered { tables, createdAt := snapshot.createdAt } := by
  intro filed hfiled
  rcases List.mem_map.mp hfiled with ⟨own, hown, rfl⟩
  rcases (Snapshot.describes_of_rebuild hok).described own hown with ⟨entry, hentry, _, hdescribes⟩
  have hconsistent := (Snapshot.rebuild_isOk_iff.mp ⟨tables, hok⟩).tables entry hentry
  constructor
  · show 0 < own.2.nextRowId
    rw [hdescribes.nextRowId_eq]
    exact hpositive entry hentry
  · intro row hrow
    rcases (hdescribes.mem_rows_iff row).mp hrow with ⟨named, hnamed, rfl⟩
    exact (hconsistent.allocated named hnamed).1

/-- A change of one table that follows a step which keeps the numbering keeps it. -/
theorem Numbered.onTable {α : Type} (h : db.Numbered) (hwellFormed : db.WellFormed)
    {change : Change Error Table α} {step : PlainTable -> Except Error (α × PlainTable)}
    (hchange : forall table : Table, table.WellFormed ->
      Change.Follows Table.plain table.Keeps table (change.run.run table) (step table.plain))
    (hstep : forall {table a table'}, PlainTable.Numbered table -> step table = .ok (a, table') ->
      PlainTable.Numbered table')
    (name : String) : ((discard (Database.onTable name change)).run.run db).2.Numbered := by
  rw [run_discard]
  apply (follows_onTable hwellFormed hchange name).viewed _ h
  intro a plain hok
  exact (PlainDatabase.all_onTable h hstep hok).1

/-- Every call but one that restores a counter at zero keeps the rows numbered from one. -/
theorem Numbered.perform (h : db.Numbered) (hwellFormed : db.WellFormed) (call : Call)
    (hpositive : forall snapshot tables, call = .restore snapshot ->
      snapshot.rebuild = .ok tables -> snapshot.Positive) :
    (db.perform call).Numbered := by
  have hnew : forall schema : Schema, PlainTable.Numbered { schema } := PlainTable.numbered_new
  unfold Database.perform Numbered
  cases call with
  | createTable schema =>
      apply (follows_createTable hwellFormed schema).viewed _ h
      intro u plain hok
      exact (PlainDatabase.all_createTable h (hnew _) hok).1
  | dropTable name =>
      simp only [Call.change]
      rw [run_dropTable]
      cases db.hasTable name with
      | true =>
          intro filed hfiled
          rcases List.mem_map.mp hfiled with ⟨own, hown, rfl⟩
          exact h _ (List.mem_map_of_mem ((Keyed.erase_sublist _ db.tables).subset hown))
      | false => exact h
  | clear =>
      intro filed hfiled
      cases hfiled
  | insert table columns values =>
      exact h.onTable hwellFormed (fun _ ht => ht.follows_insert columns values)
        PlainTable.kept_numbered.insert table
  | update table assignments keep =>
      exact h.onTable hwellFormed (fun _ ht => ht.follows_update assignments keep)
        PlainTable.kept_numbered.update table
  | delete table keep =>
      exact h.onTable hwellFormed (fun _ ht => ht.follows_delete keep)
        PlainTable.kept_numbered.delete table
  | sql text =>
      simp only [Call.change]
      rw [run_discard]
      apply (follows_executeSql hwellFormed text).viewed _ h
      intro outcome plain hok
      rcases Result.bind_eq_ok_iff.mp hok with ⟨statement, _, hexecute⟩
      apply (PlainDatabase.all_execute PlainTable.kept_numbered h _ hexecute).1
      intro name columns _
      exact hnew _
  | restore snapshot =>
      simp only [Call.change]
      rw [run_restore]
      cases htables : snapshot.rebuild with
      | error e => exact h
      | ok tables => exact numbered_of_rebuild (hpositive snapshot tables rfl htables) htables

theorem numbered_after (createdAt : Nat) (calls : List Call)
    (hpositive : forall snapshot tables, .restore snapshot ∈ calls ->
      snapshot.rebuild = .ok tables -> snapshot.Positive) :
    (after createdAt calls).Numbered := by
  have hrun : forall db : Database, db.WellFormed -> db.Numbered ->
      (calls.foldl Database.perform db).Numbered := by
    induction calls with
    | nil =>
        intro db _ h
        exact h
    | cons call rest ih =>
        intro db hwellFormed h
        apply ih (fun snapshot tables hmem =>
          hpositive snapshot tables (List.mem_cons_of_mem _ hmem))
          (db.perform call) (hwellFormed.perform call)
        apply h.perform hwellFormed call
        intro snapshot tables hcall
        exact hpositive snapshot tables (hcall ▸ List.mem_cons_self)
  apply hrun { createdAt } WellFiled.nil
  intro entry hentry
  cases hentry

/-- In every reachable database the ids of the rows are below the counter of their table.  Unless a
snapshot with a counter at zero was accepted, they are positive too and pass the check that loading
holds the ids of a snapshot against. -/
theorem row_ids_are_allocated (createdAt : Nat) (calls : List Call) {key : String} {table : Table}
    (htable : (key, table) ∈ (after createdAt calls).tables) :
    (forall row, row ∈ table.rows -> row.id < table.nextRowId) ∧
      ((forall snapshot tables, .restore snapshot ∈ calls -> snapshot.rebuild = .ok tables ->
          snapshot.Positive) ->
        0 < table.nextRowId ∧
          (forall row, row ∈ table.rows -> 1 <= row.id) ∧
          forall named, named ∈ table.snapshot.rows ->
            ¬ (named.id = 0 ∨ table.snapshot.nextRowId <= named.id)) := by
  have hallocated := ((wellFormed_after createdAt calls).wellFormed _ htable).allocated
  refine ⟨hallocated, ?_⟩
  intro hpositive
  have hnumbered := numbered_after createdAt calls hpositive _ (List.mem_map_of_mem htable)
  refine ⟨hnumbered.counter_pos, hnumbered.ids_pos, ?_⟩
  intro named hnamed hrange
  rcases List.mem_map.mp hnamed with ⟨row, hrow, rfl⟩
  rcases hrange with hzero | hbeyond
  · exact Nat.ne_of_gt (hnumbered.ids_pos row hrow) hzero
  · exact Nat.not_le_of_lt (hallocated row hrow) hbeyond

theorem row_ids_are_allocated_sample :
    ("pets", sampleTable) ∈ (after 0 sampleCalls).tables ∧
      forall row, row ∈ sampleTable.rows -> 1 <= row.id ∧ row.id < sampleTable.nextRowId := by
  have htable : ("pets", sampleTable) ∈ (after 0 sampleCalls).tables := by decide +kernel
  have hpositive : forall snapshot tables, .restore snapshot ∈ sampleCalls ->
      snapshot.rebuild = .ok tables -> snapshot.Positive := by
    intro snapshot tables hmem
    simp [sampleCalls] at hmem
  rcases row_ids_are_allocated 0 sampleCalls htable with ⟨hbelow, hpos⟩
  exact ⟨htable, fun row hrow => ⟨(hpos hpositive).2.1 row hrow, hbelow row hrow⟩⟩

/-!
# A counter at zero
-/

def zeroCounter : Snapshot where
  version := Snapshot.currentVersion
  tables := [("t", { schema := ⟨"t", [⟨"a", .int, []⟩], none⟩, rows := [], nextRowId := 0 })]
  createdAt := 0
  updatedAt := 0

def zeroCalls : List Call := [
  .restore zeroCounter,
  .insert "t" ["a"] [.integer 5]]

/-- The counter of a table without rows is restored unchecked, so the next row gets the id zero; and
the snapshot of the database is then refused for that id. -/
theorem row_id_zero :
    (after 0 zeroCalls).tables =
        [("t", {
          schema := ⟨"t", [⟨"a", .int, []⟩], none⟩
          rows := [⟨0, [.integer 5]⟩]
          nextRowId := 1
          indexes := [none] })] ∧
      ((restore ((after 0 zeroCalls).snapshot 0)).run.run {}).1 =
        .error (.invalidSnapshotTable "t" (.rowIdOutOfRange 0 "t" 1)) := by
  decide +kernel

end Database
end Tabula
