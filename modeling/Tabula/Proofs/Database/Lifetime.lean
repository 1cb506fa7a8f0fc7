import Tabula.Proofs.Database.Reload

/-!
# The life of a table

A table is used by changes of its rows, which may fail, and the database may be brought back from
its own snapshot in between.  No use gives an id to a second row: what is held later was held before
or had not been reached by the counter, and the counter goes up with every new row and never down.

## Main statements

- `Table.Step`: what one use does to the ids and the counter.
- `pairwise_history`: what a whole run does to them.
- `row_ids_are_never_reused`: the ids of new rows, along every run.
-/

namespace Tabula

/-!
# Uses
-/

namespace Database

inductive Use where
  | insert (columns : List String) (values : List Value)
  | update (assignments : List (String × Value)) (keep : Row -> Bool)
  | delete (keep : Row -> Bool)
  | reload (now : Nat)

/-- A use of the table of a name.  It answers the id of a new row, if there is one. -/
def Use.change (name : String) : Use -> Change Error Database (Option Nat)
  | insert columns values => do
      let id <- onTable name (Table.insert columns values)
      return some id
  | update assignments keep => do
      let _ <- onTable name (Table.update assignments keep)
      return none
  | delete keep => do
      let _ <- onTable name (Table.delete keep)
      return none
  | reload now => do
      let db <- get
      restore (db.snapshot now)
      return none

/-- One use in a run, with the databases before and after it. -/
structure Event where
  use : Use
  before : Database
  answer : Except Error (Option Nat)
  after : Database

/-- The id that a use gave to a new row. -/
def Event.newId? (event : Event) : Option Nat :=
  match event.answer with
  | .ok id => id
  | .error _ => none

/-- The uses of the table of a name one after the other, whether they succeed or fail. -/
def history (name : String) : List Use -> Database -> List Event
  | [], _ => []
  | use :: rest, db =>
      let (answer, next) := (use.change name).run.run db
      ⟨use, db, answer, next⟩ :: history name rest next

end Database

/-!
# Steps of one table
-/

namespace Table

open Database (Use)

def ids (table : Table) : List Nat :=
  table.rows.map Row.id

/-- What a use does to the ids and the counter of a table. -/
inductive Step (table : Table) : Use -> Except Error (Option Nat) -> Table -> Prop where
  | inserted {columns : List String} {values : List Value} {table' : Table}
      (ids_eq : table'.ids = table.ids ++ [table.nextRowId])
      (counter_eq : table'.nextRowId = table.nextRowId + 1) :
      Step table (.insert columns values) (.ok (some table.nextRowId)) table'
  | updated {assignments : List (String × Value)} {keep : Row -> Bool} {table' : Table}
      (ids_eq : table'.ids = table.ids) (counter_eq : table'.nextRowId = table.nextRowId) :
      Step table (.update assignments keep) (.ok none) table'
  | deleted {keep : Row -> Bool} {table' : Table}
      (ids_sublist : table'.ids.Sublist table.ids)
      (counter_eq : table'.nextRowId = table.nextRowId) :
      Step table (.delete keep) (.ok none) table'
  | reloaded {now : Nat} {table' : Table} (plain_eq : table'.plain = table.plain) :
      Step table (.reload now) (.ok none) table'
  | failed (use : Use) (e : Error) : Step table use (.error e) table

/-- What time does to a table: the counter does not go down, and an id that is held later was held
before or had not been reached by the counter. -/
structure Aged (table table' : Table) : Prop where
  counter_le : table.nextRowId <= table'.nextRowId
  held_or_new : forall id, id ∈ table'.ids -> id ∈ table.ids ∨ table.nextRowId <= id

variable {table table' table'' : Table} {use : Use} {answer : Except Error (Option Nat)}

theorem Aged.refl (table : Table) : table.Aged table :=
  ⟨Nat.le_refl _, fun _ hid => Or.inl hid⟩

theorem Aged.trans (h : table.Aged table') (h' : table'.Aged table'') : table.Aged table'' where
  counter_le := Nat.le_trans h.counter_le h'.counter_le
  held_or_new := by
    intro id hid
    rcases h'.held_or_new id hid with hheld | hnew
    · exact h.held_or_new id hheld
    · exact Or.inr (Nat.le_trans h.counter_le hnew)

theorem Aged.of_sublist (hids : table'.ids.Sublist table.ids)
    (hcounter : table'.nextRowId = table.nextRowId) : table.Aged table' :=
  ⟨Nat.le_of_eq hcounter.symm, fun _ hid => Or.inl (hids.subset hid)⟩

theorem Step.aged (h : table.Step use answer table') : table.Aged table' := by
  cases h with
  | inserted ids_eq counter_eq =>
      refine ⟨by omega, ?_⟩
      intro id hid
      rw [ids_eq] at hid
      rcases List.mem_append.mp hid with hheld | hnew
      · exact Or.inl hheld
      · exact Or.inr (Nat.le_of_eq (List.mem_singleton.mp hnew).symm)
  | updated ids_eq counter_eq => exact .of_sublist (ids_eq ▸ .refl _) counter_eq
  | deleted ids_sublist counter_eq => exact .of_sublist ids_sublist counter_eq
  | reloaded plain_eq =>
      have hrows : table'.rows = table.rows := congrArg PlainTable.rows plain_eq
      have hids : table'.ids = table.ids := congrArg (List.map Row.id) hrows
      exact .of_sublist (hids ▸ .refl _) (congrArg PlainTable.nextRowId plain_eq)
  | failed use e => exact .refl table

theorem WellFormed.lt_of_mem_ids (h : table.WellFormed) {id : Nat} (hid : id ∈ table.ids) :
    id < table.nextRowId := by
  rcases List.mem_map.mp hid with ⟨row, hrow, rfl⟩
  exact h.allocated row hrow

end Table

/-!
# Steps of a database
-/

namespace Database

open Table (Step)

variable {α β : Type} {db db' : Database} {name : String} {table : Table}

/-- A change of one table that fails changes nothing, and one that succeeds makes the step that it
follows. -/
theorem onTable_cases (h : db.WellFormed) (htable : db.table? name = some table)
    {change : Change Error Table α} {step : PlainTable -> Except Error (α × PlainTable)}
    (hchange : Change.Follows Table.plain table.Keeps table (change.run.run table)
      (step table.plain))
    (f : α -> β) :
    (exists e, (onTable name change >>= fun a => pure (f a)).run.run db = (.error e, db)) ∨
      exists a table' db', (onTable name change >>= fun a => pure (f a)).run.run db =
          (.ok (f a), db') ∧
        db'.WellFormed ∧ db'.table? name = some table' ∧
        step table.plain = .ok (a, table'.plain) := by
  rw [Change.run_bind, run_onTable, table_eq_ok_iff.mpr htable]
  simp only
  generalize change.run.run table = result at hchange
  generalize step table.plain = expected at hchange
  cases hchange with
  | failed e =>
      rw [Keyed.insert_eq_self h.ascending htable]
      exact Or.inl ⟨e, rfl⟩
  | done a table' hkeeps =>
      refine Or.inr ⟨a, table', _, rfl, ?_, table?_insert db name table', rfl⟩
      apply h.insert hkeeps.wellFormed
      rw [hkeeps.schema_eq]
      exact (h.of_table htable).2

theorem table?_of_plain_eq (hplain : db'.plain = db.plain) (htable : db.table? name = some table) :
    exists table', db'.table? name = some table' ∧ table'.plain = table.plain := by
  have hfound := plain_table? db' name
  rw [hplain, ← plain_table?, htable] at hfound
  exact Option.map_eq_some_iff.mp hfound

/-- Every use of a table is one of the steps, and keeps the database well-formed. -/
theorem step_of_use (h : db.WellFormed) (htable : db.table? name = some table) (use : Use) :
    exists answer db' table', (use.change name).run.run db = (answer, db') ∧ db'.WellFormed ∧
      db'.table? name = some table' ∧ table.Step use answer table' := by
  have hwellFormed := (h.of_table htable).1
  cases use with
  | insert columns values =>
      have hfollows := hwellFormed.follows_insert columns values
      rcases onTable_cases h htable hfollows some with
        ⟨e, hrun⟩ | ⟨id, table', db', hrun, h', htable', hok⟩
      · exact ⟨.error e, db, table, hrun, h, htable, .failed _ e⟩
      · rcases PlainTable.insert_eq_ok_iff.mp hok with ⟨cells, _, _, hid, hplain⟩
        have hrows : table'.rows = table.rows ++ [⟨table.nextRowId, cells⟩] :=
          congrArg PlainTable.rows hplain
        rw [hid] at hrun
        refine ⟨_, db', table', hrun, h', htable', .inserted ?_ ?_⟩
        · unfold Table.ids
          rw [hrows, List.map_append]
          rfl
        · exact congrArg PlainTable.nextRowId hplain
  | update assignments keep =>
      have hfollows := hwellFormed.follows_update assignments keep
      rcases onTable_cases h htable hfollows (fun _ => none) with
        ⟨e, hrun⟩ | ⟨count, table', db', hrun, h', htable', hok⟩
      · exact ⟨.error e, db, table, hrun, h, htable, .failed _ e⟩
      · rcases PlainTable.update_eq_ok_iff.mp hok with ⟨bound, _, _, _, _, hplain⟩
        have hrows : table'.rows = table.rows.map _ := congrArg PlainTable.rows hplain
        refine ⟨_, db', table', hrun, h', htable', .updated ?_ ?_⟩
        · unfold Table.ids
          rw [hrows, List.map_map]
          apply List.map_congr_left
          intro row _
          exact PlainTable.id_ite_assigned bound keep row
        · exact congrArg PlainTable.nextRowId hplain
  | delete keep =>
      have hfollows := hwellFormed.follows_delete keep
      rcases onTable_cases h htable hfollows (fun _ => none) with
        ⟨e, hrun⟩ | ⟨count, table', db', hrun, h', htable', hok⟩
      · exact ⟨.error e, db, table, hrun, h, htable, .failed _ e⟩
      · have hplain := congrArg Prod.snd (Except.ok.inj hok)
        have hrows : table.rows.filter _ = table'.rows := congrArg PlainTable.rows hplain
        refine ⟨_, db', table', hrun, h', htable', .deleted ?_ ?_⟩
        · unfold Table.ids
          rw [← hrows]
          exact List.filter_sublist.map Row.id
        · exact (congrArg PlainTable.nextRowId hplain).symm
  | reload now =>
      have hreload : (Use.change name (.reload now)).run.run db =
          (restore (db.snapshot now) >>= fun _ => pure none).run.run db := rfl
      rw [Change.run_bind, run_restore] at hreload
      cases hrebuild : (db.snapshot now).rebuild with
      | error e =>
          rw [hrebuild] at hreload
          exact ⟨.error e, db, table, hreload, h, htable, .failed _ e⟩
      | ok tables =>
          rw [hrebuild] at hreload
          have hrestore : (restore (db.snapshot now)).run.run db = (.ok (), _) :=
            restore_eq_ok_iff.mpr ⟨tables, hrebuild, rfl⟩
          rcases h.plain_of_reload hrestore with ⟨hplain, h'⟩
          rcases table?_of_plain_eq hplain htable with ⟨table', htable', hsame⟩
          exact ⟨_, _, table', hreload, h', htable', .reloaded hsame⟩

/-!
# Runs
-/

/-- The event takes the table of a name from one state to another. -/
structure Event.Takes (event : Event) (name : String) (old new : Table) : Prop where
  before_eq : event.before.table? name = some old
  after_eq : event.after.table? name = some new
  wellFormed : old.WellFormed
  step : old.Step event.use event.answer new

variable {event earlier later : Event} {old new : Table}

theorem Event.Takes.of_newId (h : event.Takes name old new) {id : Nat}
    (hid : event.newId? = some id) : id = old.nextRowId ∧ new.nextRowId = id + 1 := by
  unfold newId? at hid
  have hstep := h.step
  generalize event.use = use at hstep
  generalize event.answer = answer at hstep hid
  cases hstep with
  | inserted ids_eq counter_eq =>
      cases hid
      exact ⟨rfl, counter_eq⟩
  | updated | deleted | reloaded | failed => cases hid

/-- Every event of a run is a step of the table as it has come to be since the start. -/
theorem takes_of_history (h : db.WellFormed) (htable : db.table? name = some table)
    {uses : List Use} (hevent : event ∈ history name uses db) :
    exists old new, event.Takes name old new ∧ table.Aged old := by
  induction uses generalizing db table with
  | nil => cases hevent
  | cons use rest ih =>
      rcases step_of_use h htable use with ⟨answer, db', table', hrun, h', htable', hstep⟩
      rw [history, hrun] at hevent
      rcases List.mem_cons.mp hevent with rfl | hlater
      · exact ⟨table, table', ⟨htable, htable', (h.of_table htable).1, hstep⟩, .refl table⟩
      · rcases ih h' htable' hlater with ⟨old, new, htakes, haged⟩
        exact ⟨old, new, htakes, hstep.aged.trans haged⟩

/-- The later event finds the table of a name as it has come to be since the earlier one. -/
def Event.Precedes (earlier later : Event) (name : String) : Prop :=
  exists old new old' new', earlier.Takes name old new ∧ later.Takes name old' new' ∧ new.Aged old'

theorem pairwise_history (h : db.WellFormed) (htable : db.table? name = some table)
    (uses : List Use) :
    (history name uses db).Pairwise fun earlier later => earlier.Precedes later name := by
  induction uses generalizing db table with
  | nil => exact List.Pairwise.nil
  | cons use rest ih =>
      rcases step_of_use h htable use with ⟨answer, db', table', hrun, h', htable', hstep⟩
      rw [history, hrun]
      refine List.pairwise_cons.mpr ⟨?_, ih h' htable'⟩
      intro later hlater
      rcases takes_of_history h' htable' hlater with ⟨old', new', htakes, haged⟩
      exact ⟨table, table', old', new', ⟨htable, htable', (h.of_table htable).1, hstep⟩, htakes,
        haged⟩

theorem Event.Takes.aged (h : event.Takes name old new) : old.Aged new :=
  h.step.aged

theorem Event.Takes.held_lt (h : event.Takes name old new) {id : Nat}
    (hid : event.newId? = some id) {held : Nat} (hheld : held ∈ old.ids) : held < id := by
  rw [(h.of_newId hid).1]
  exact h.wellFormed.lt_of_mem_ids hheld

theorem Event.Precedes.newId_lt (h : earlier.Precedes later name) {id id' : Nat}
    (hid : earlier.newId? = some id) (hid' : later.newId? = some id') : id < id' := by
  rcases h with ⟨old, new, old', new', htakes, htakes', haged⟩
  have hnew := (htakes.of_newId hid).2
  have hold' := (htakes'.of_newId hid').1
  have hle := haged.counter_le
  omega

theorem Event.Precedes.held_lt (h : earlier.Precedes later name) {id : Nat}
    (hid : later.newId? = some id) (hold : earlier.before.table? name = some table) {held : Nat}
    (hheld : held ∈ table.ids) : held < id := by
  rcases h with ⟨old, new, old', new', htakes, htakes', haged⟩
  rw [htakes.before_eq] at hold
  cases hold
  have hlt := htakes.wellFormed.lt_of_mem_ids hheld
  have hle := (htakes.aged.trans haged).counter_le
  have hold' := (htakes'.of_newId hid).1
  omega

theorem Event.Precedes.aged (h : earlier.Precedes later name)
    (hold : earlier.before.table? name = some old) (hnew : later.after.table? name = some new) :
    old.Aged new := by
  rcases h with ⟨_, _, _, _, htakes, htakes', haged⟩
  rw [htakes.before_eq] at hold
  rw [htakes'.after_eq] at hnew
  cases hold
  cases hnew
  exact (htakes.aged.trans haged).trans htakes'.aged

/-- Along every run of uses of a table of a reachable database, each use is one of the steps, the
ids of the new rows ascend, each of them is greater than every id that the table has held, and an id
that the table comes to hold had not been reached by its counter.  So an id is never given to a
second row. -/
theorem row_ids_are_never_reused (createdAt : Nat) (calls : List Call)
    (htable : (after createdAt calls).table? name = some table) (uses : List Use) :
    (forall event, event ∈ history name uses (after createdAt calls) ->
        exists old new, event.before.table? name = some old ∧ event.after.table? name = some new ∧
          old.Step event.use event.answer new) ∧
      ((history name uses (after createdAt calls)).filterMap Event.newId?).Pairwise (· < ·) ∧
      (forall past event future,
        history name uses (after createdAt calls) = past ++ event :: future ->
          forall id, event.newId? = some id -> forall earlier, earlier ∈ past ++ [event] ->
            forall old, earlier.before.table? name = some old -> forall held, held ∈ old.ids ->
              held < id) ∧
      (history name uses (after createdAt calls)).Pairwise fun earlier later => forall old new,
        earlier.before.table? name = some old -> later.after.table? name = some new ->
          old.Aged new := by
  have h := wellFormed_after createdAt calls
  have hpairs := pairwise_history h htable uses
  refine ⟨?_, ?_, ?_, ?_⟩
  · intro event hevent
    rcases takes_of_history h htable hevent with ⟨old, new, htakes, _⟩
    exact ⟨old, new, htakes.before_eq, htakes.after_eq, htakes.step⟩
  · apply List.pairwise_filterMap.mpr
    apply hpairs.imp
    intro earlier later hprecedes id hid id' hid'
    exact hprecedes.newId_lt hid hid'
  · intro past event future hhistory id hid earlier hearlier old hold held hheld
    rcases List.mem_append.mp hearlier with hpast | hself
    · rw [hhistory] at hpairs
      have hprecedes := (List.pairwise_append.mp hpairs).2.2 earlier hpast event List.mem_cons_self
      exact hprecedes.held_lt hid hold hheld
    · rw [List.mem_singleton.mp hself] at hold
      have hevent : event ∈ history name uses (after createdAt calls) := by
        rw [hhistory]
        exact List.mem_append_right _ List.mem_cons_self
      rcases takes_of_history h htable hevent with ⟨own, _, htakes, _⟩
      rw [htakes.before_eq] at hold
      cases hold
      exact htakes.held_lt hid hheld
  · apply hpairs.imp
    intro earlier later hprecedes old new hold hnew
    exact hprecedes.aged hold hnew

def sampleUses : List Use := [
  .insert ["id"] [.integer 8],
  .delete fun row => row.id == 2,
  .reload 4,
  .insert ["id"] [.integer 7],
  .insert ["id"] [.integer 8],
  .delete fun _ => true,
  .insert ["id"] [.integer 7]]

/-- The row with the highest id is deleted before a reload, and later all rows are. -/
theorem row_ids_are_never_reused_sample :
    (after 0 sampleCalls).table? "pets" = some sampleTable ∧
      (history "pets" sampleUses (after 0 sampleCalls)).filterMap Event.newId? = [2, 3, 4] ∧
      ((history "pets" sampleUses (after 0 sampleCalls)).filterMap Event.newId?).Pairwise
        (· < ·) := by
  have htable : (after 0 sampleCalls).table? "pets" = some sampleTable := by decide +kernel
  refine ⟨htable, by decide +kernel, ?_⟩
  exact (row_ids_are_never_reused 0 sampleCalls htable sampleUses).2.1

end Database
end Tabula
