import Tabula.Proofs.Database.Reachable
import Tabula.Proofs.Plain.Exact

/-!
# Exact changes

An update goes through exactly if the rows after it obey the constraints, and an insertion exactly if
its values can stand in a row of the table.  Nothing that could be stored is refused, and what is
stored is what was given.

## Main statements

- `update_is_exact`: when an update goes through, and the rows after it.
- `insert_is_exact`: when an insertion goes through, and what a query for everything answers then.
-/

namespace Tabula
namespace Table

/-!
# Updates
-/

/-- An update that gives values to different columns of a well-formed table goes through exactly if
the rows obey the constraints once every kept row has these values.  Then these are the rows after it,
under the same ids; else it violates a constraint and the table stays as it was. -/
theorem update_is_exact {table : Table} (h : table.WellFormed)
    {assignments : List (String × Value)} {given : List (Field × Value)}
    (hgives : table.schema.Gives assignments given) (keep : Row -> Bool) :
    ((exists count, ((update assignments keep).run.run table).1 = .ok count) <->
      table.schema.Obeyed (table.plain.replaced given keep)) ∧
    (table.schema.Obeyed (table.plain.replaced given keep) ->
      exists table', (update assignments keep).run.run table =
          (.ok (table.rows.filter keep).length, table') ∧
        table'.rows = table.plain.replaced given keep ∧
        table'.schema = table.schema ∧ table'.nextRowId = table.nextRowId ∧ table'.WellFormed) ∧
    (¬ table.schema.Obeyed (table.plain.replaced given keep) ->
      exists e, (update assignments keep).run.run table = (.error e, table) ∧
        e.kind = .constraintViolation) := by
  have hfollows := h.follows_update assignments keep
  have hkeeps := hfollows.state ⟨h, rfl⟩
  rcases h.sound.update_eq hgives keep with ⟨hobeyed, hok⟩ | ⟨hbroken, e, herror, hkind⟩
  · rcases hfollows.result_eq hok with ⟨table', hrun, hplain⟩
    rw [hrun] at hkeeps
    refine ⟨⟨fun _ => hobeyed, fun _ => ⟨_, congrArg Prod.fst hrun⟩⟩, ?_,
      fun hbroken => absurd hobeyed hbroken⟩
    intro _
    exact ⟨table', hrun, congrArg PlainTable.rows hplain, hkeeps.schema_eq,
      congrArg PlainTable.nextRowId hplain, hkeeps.wellFormed⟩
  · have hrun := hfollows.error_eq herror
    refine ⟨⟨?_, fun hobeyed => absurd hobeyed hbroken⟩, fun hobeyed => absurd hobeyed hbroken,
      fun _ => ⟨e, hrun, hkind⟩⟩
    intro hok
    rcases hok with ⟨count, hcount⟩
    rw [hrun] at hcount
    cases hcount

def samplePairCalls : List Database.Call := Database.sampleCalls ++ [
  .insert "pets" ["NAME", "pets.id"] [.text "Tim", .integer 8]]

def samplePair : Table where
  schema := Database.sampleTable.schema
  rows := [⟨1, [.integer 7, .text "Rex"]⟩, ⟨2, [.integer 8, .text "Tim"]⟩]
  nextRowId := 3
  indexes := [some { column := "Id", entries := [(.integer 7, [1]), (.integer 8, [2])] }, none]

def sampleKey : List (Field × Value) :=
  [(⟨0, "Id", .int, [.primaryKey]⟩, .integer 9)]

/-- One pet may get a new key; both of them may not get the same one. -/
theorem update_is_exact_sample :
    samplePair.WellFormed ∧ samplePair.schema.Gives [("Pets.ID", .integer 9)] sampleKey ∧
      (exists table',
        (update [("Pets.ID", .integer 9)] fun row => row.id == 2).run.run samplePair =
          (.ok 1, table') ∧
        table'.rows = [⟨1, [.integer 7, .text "Rex"]⟩, ⟨2, [.integer 9, .text "Tim"]⟩]) ∧
      exists e, (update [("Pets.ID", .integer 9)] fun _ => true).run.run samplePair =
          (.error e, samplePair) ∧
        e.kind = .constraintViolation := by
  have hpair : ("pets", samplePair) ∈ (Database.after 0 samplePairCalls).tables := by
    decide +kernel
  have h := (Database.wellFormed_after 0 samplePairCalls).wellFormed _ hpair
  have hgives : samplePair.schema.Gives [("Pets.ID", .integer 9)] sampleKey :=
    ⟨.cons ⟨by decide +kernel, rfl⟩ .nil, by decide, by decide⟩
  rcases update_is_exact h hgives fun row => row.id == 2 with ⟨hone, hdone, _⟩
  rcases update_is_exact h hgives fun _ => true with ⟨hboth, _, hrefused⟩
  have hok : ((update [("Pets.ID", .integer 9)] fun row => row.id == 2).run.run samplePair).1 =
      .ok 1 := by decide +kernel
  have herror : ((update [("Pets.ID", .integer 9)] fun _ => true).run.run samplePair).1 =
      .error (.valueAssignedTwice "Pets" "Id" (.integer 9)) := by decide +kernel
  refine ⟨h, hgives, ?_, ?_⟩
  · rcases hdone (hone.mp ⟨1, hok⟩) with ⟨table', hrun, hrows, _⟩
    exact ⟨table', hrun, hrows⟩
  · apply hrefused
    intro hobeyed
    rcases hboth.mpr hobeyed with ⟨count, hcount⟩
    rw [herror] at hcount
    cases hcount

/-!
# Insertions
-/

/-- The cells make a row with a primary key that shares no value with a stored row which it may not
share. -/
structure Accepts (table : Table) (cells : List Value) : Prop where
  keyed : forall field, field ∈ table.schema.fields -> field.column.isPrimaryKey = true ->
    cells.getD field.position .null ≠ .null
  unique : forall field, field ∈ table.schema.fields -> field.column.isIndexed = true ->
    cells.getD field.position .null ≠ .null ->
      forall row, row ∈ table.rows -> row.cell field.position ≠ cells.getD field.position .null

variable {table : Table}

theorem checkRow_iff_accepts {cells : List Value} :
    table.plain.checkRow cells none = .ok () <-> table.Accepts cells := by
  rw [PlainTable.checkRow_eq_ok_iff]
  constructor
  · intro h
    constructor
    · intro field hfield
      exact (h field hfield).primaryKey
    · intro field hfield hindexed hnull row hrow
      exact (h field hfield).unique hindexed hnull row hrow (Option.some_ne_none _)
  · intro h field hfield
    constructor
    · exact h.keyed field hfield
    · intro hindexed hnull row hrow _
      exact h.unique field hfield hindexed hnull row hrow

/-- A plain table stores a row exactly if its values are given for columns and the row is accepted. -/
theorem plain_insert_eq_ok_iff {columns : List String} {values : List Value} {id : Nat}
    {plain' : PlainTable} :
    table.plain.insert columns values = .ok (id, plain') <->
      columns.length = values.length ∧ exists given,
        table.schema.Gives (columns.zip values) given ∧
        table.Accepts (table.schema.filled given fun _ => .null) ∧
        id = table.nextRowId ∧
        plain' = { table.plain with
          rows := table.rows ++ [⟨table.nextRowId, table.schema.filled given fun _ => .null⟩]
          nextRowId := table.nextRowId + 1 } := by
  rw [PlainTable.insert_eq_ok_iff]
  constructor
  · intro h
    rcases h with ⟨cells, hcomplete, hcheck, hid, hplain⟩
    rcases Schema.complete_eq_ok_iff.mp hcomplete with ⟨hlength, given, hreach, hfitting, hcells⟩
    have hgives := Schema.gives_iff.mpr ⟨hreach, hfitting⟩
    have hfilled := hcells.trans hgives.assign_blankCells
    rw [hfilled] at hcheck hplain
    exact ⟨hlength, given, hgives, checkRow_iff_accepts.mp hcheck, hid, hplain⟩
  · intro h
    rcases h with ⟨hlength, given, hgives, haccepts, hid, hplain⟩
    rcases Schema.gives_iff.mp hgives with ⟨hreach, hfitting⟩
    have hcomplete := Schema.complete_eq_ok_iff.mpr ⟨hlength, given, hreach, hfitting,
      hgives.assign_blankCells.symm⟩
    exact ⟨_, hcomplete, checkRow_iff_accepts.mpr haccepts, hid, hplain⟩

/-- A query for everything answers the cells of all rows in order. -/
theorem WellFormed.selectOne_all (h : table.WellFormed) :
    Database.selectOne table .all none =
      .ok ⟨table.schema.columnNames, table.rows.map Row.cells⟩ := by
  have hcolumns : (table.schema.fields.map fun field => field.column.name) =
      table.schema.columnNames := by
    unfold Schema.columnNames
    rw [← Schema.map_column_fields table.schema, List.map_map]
    rfl
  have hrows : (table.rows.map fun row =>
      table.schema.fields.map fun field => row.cell field.position) = table.rows.map Row.cells := by
    apply List.map_congr_left
    intro row hrow
    exact (Row.cells_eq_map_fields (h.sound.typed row hrow).length_cells).symm
  show Except.ok (project table.schema.fields (table.rows.filter fun _ => true)) = _
  unfold project
  rw [List.filter_true, hcolumns, hrows]

/-- An insertion into a table of a reachable database goes through exactly if there are as many names
as values, the names reach different columns, the values fit them and the row is accepted, with NULL
in the columns that are not named.  Then it answers the counter, and a query for everything answers
one more row than before, behind all others and with each value in the place of its column. -/
theorem insert_is_exact (createdAt : Nat) (calls : List Database.Call) {key : String}
    (htable : (key, table) ∈ (Database.after createdAt calls).tables) (columns : List String)
    (values : List Value) :
    ((exists id, ((insert columns values).run.run table).1 = .ok id) <->
      columns.length = values.length ∧ exists given,
        table.schema.Gives (columns.zip values) given ∧
        table.Accepts (table.schema.filled given fun _ => .null)) ∧
    forall id table', (insert columns values).run.run table = (.ok id, table') ->
      id = table.nextRowId ∧
      exists given set, table.schema.Gives (columns.zip values) given ∧
        Database.selectOne table .all none = .ok set ∧ set.columns = table.schema.columnNames ∧
        Database.selectOne table' .all none =
          .ok { set with rows := set.rows ++ [table.schema.filled given fun _ => .null] } := by
  have h := (Database.wellFormed_after createdAt calls).wellFormed _ htable
  have hfollows := h.follows_insert columns values
  have hkeeps := hfollows.state ⟨h, rfl⟩
  constructor
  · constructor
    · intro hok
      rcases hok with ⟨id, hid⟩
      rcases plain_insert_eq_ok_iff.mp (hfollows.expected_eq hid) with
        ⟨hlength, given, hgives, haccepts, _⟩
      exact ⟨hlength, given, hgives, haccepts⟩
    · intro hparts
      rcases hparts with ⟨hlength, given, hgives, haccepts⟩
      have hok := plain_insert_eq_ok_iff.mpr ⟨hlength, given, hgives, haccepts, rfl, rfl⟩
      rcases hfollows.result_eq hok with ⟨table', hrun, _⟩
      exact ⟨_, congrArg Prod.fst hrun⟩
  · intro id table' hrun
    rw [hrun] at hfollows hkeeps
    rcases plain_insert_eq_ok_iff.mp (hfollows.expected_eq rfl) with
      ⟨_, given, hgives, _, hid, hplain⟩
    have hrows : table'.rows =
        table.rows ++ [⟨table.nextRowId, table.schema.filled given fun _ => .null⟩] :=
      congrArg PlainTable.rows hplain
    refine ⟨hid, given, _, hgives, h.selectOne_all, rfl, ?_⟩
    rw [hkeeps.wellFormed.selectOne_all, hkeeps.schema_eq, hrows, List.map_append]
    rfl

/-- The values come in another order than the columns, and a key that is taken is refused. -/
theorem insert_is_exact_sample :
    ("pets", Database.sampleTable) ∈ (Database.after 0 Database.sampleCalls).tables ∧
      (insert ["NAME", "pets.id"] [.text "Tim", .integer 8]).run.run Database.sampleTable =
        (.ok 2, samplePair) ∧
      Database.selectOne samplePair .all none =
        .ok ⟨["Id", "name"], [[.integer 7, .text "Rex"], [.integer 8, .text "Tim"]]⟩ ∧
      forall given, Database.sampleTable.schema.Gives [("ID", .integer 7)] given ->
        ¬ Database.sampleTable.Accepts
          (Database.sampleTable.schema.filled given fun _ => .null) := by
  have htable : ("pets", Database.sampleTable) ∈ (Database.after 0 Database.sampleCalls).tables := by
    decide +kernel
  have hrun : (insert ["NAME", "pets.id"] [.text "Tim", .integer 8]).run.run Database.sampleTable =
      (.ok 2, samplePair) := Prod.ext (by decide +kernel) (by decide +kernel)
  have htaken : ((insert ["ID"] [.integer 7]).run.run Database.sampleTable).1 =
      .error (.valueTaken true "Pets" "Id" (.integer 7)) := by decide +kernel
  have hstored := (insert_is_exact 0 _ htable ["NAME", "pets.id"] [.text "Tim", .integer 8]).2
    2 samplePair hrun
  refine ⟨htable, hrun, ?_, ?_⟩
  · rcases hstored with ⟨_, given, set, hgives, hset, _, hselect⟩
    have hgiven : given = [(⟨1, "name", .text, []⟩, .text "Tim"),
        (⟨0, "Id", .int, [.primaryKey]⟩, .integer 8)] := by
      have hreach := (Schema.gives_iff.mp hgives).1
      exact (Except.ok.inj hreach).symm
    subst hgiven
    cases hset
    exact hselect
  · intro given hgives haccepts
    rcases (insert_is_exact 0 _ htable ["ID"] [.integer 7]).1.mpr ⟨rfl, given, hgives, haccepts⟩ with
      ⟨id, hid⟩
    rw [htaken] at hid
    cases hid

end Table
end Tabula
