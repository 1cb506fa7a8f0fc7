import Tabula.Proofs.Database.RoundTrip
import Tabula.Proofs.Query.Qualifiers
import Tabula.Shell.Basic

/-!
# Names of output columns

The columns of an answer may share a name: a query can ask for a column twice.  A map from names to
cells has one of them only, so it holds every cell of a row if columns that share a name share their
cells.  They do in every answer but one: all columns of a join of a table with itself are those of
the left row and, under the same names, those of the right row.
-/

namespace Tabula

open Sql (ColumnRef Condition JoinClause Projection Statement)

/-!
# Names with a dot
-/

namespace Text

theorem split_at_dot : forall {a b c d : List Char}, '.' ∉ a -> '.' ∉ c ->
    a ++ '.' :: b = c ++ '.' :: d -> a = c ∧ b = d
  | [], _, [], _, _, _, h => ⟨rfl, (List.cons.inj h).2⟩
  | [], _, _ :: _, _, _, hc, h => absurd ((List.cons.inj h).1 ▸ List.mem_cons_self) hc
  | _ :: _, _, [], _, ha, _, h => absurd ((List.cons.inj h).1 ▸ List.mem_cons_self) ha
  | _ :: _, _, _ :: _, _, ha, hc, h => by
      rcases List.cons.inj h with ⟨hhead, hrest⟩
      rcases split_at_dot (fun hdot => ha (List.mem_cons_of_mem _ hdot))
        (fun hdot => hc (List.mem_cons_of_mem _ hdot)) hrest with ⟨hbefore, hafter⟩
      exact ⟨by rw [hhead, hbefore], hafter⟩

/-- What is joined with a dot comes apart at the first dot. -/
theorem dotted_inj {a b c d : String} (ha : '.' ∉ a.toList) (hc : '.' ∉ c.toList)
    (h : a ++ "." ++ b = c ++ "." ++ d) : a = c ∧ b = d := by
  have hlist : a.toList ++ '.' :: b.toList = c.toList ++ '.' :: d.toList := by
    simpa using congrArg String.toList h
  rcases split_at_dot ha hc hlist with ⟨hbefore, hafter⟩
  exact ⟨String.toList_inj.mp hbefore, String.toList_inj.mp hafter⟩

end Text

/-- No dot stands in the qualifier of the reference or, if it has none, in its name. -/
def Sql.ColumnRef.Undotted (ref : ColumnRef) : Prop :=
  '.' ∉ (ref.table.getD ref.column).toList

theorem Sql.ColumnRef.display_inj {a b : ColumnRef} (ha : a.Undotted) (hb : b.Undotted)
    (h : a.display = b.display) : a = b := by
  have hdot : forall s t : String, '.' ∈ (s ++ "." ++ t).toList := by
    intro s t
    simp
  rcases a with ⟨qualifier, column⟩
  rcases b with ⟨qualifier', column'⟩
  cases qualifier with
  | none =>
      cases qualifier' with
      | none => rw [show column = column' from h]
      | some name' => exact absurd ((show column = _ from h) ▸ hdot name' column') ha
  | some name =>
      cases qualifier' with
      | none => exact absurd ((show _ = column' from h) ▸ hdot name column) hb
      | some name' =>
          rcases @Text.dotted_inj name column name' column' ha hb h with ⟨hname, hcolumn⟩
          rw [hname, hcolumn]

namespace Schema

variable {schema : Schema}

structure Undotted (schema : Schema) : Prop where
  name : '.' ∉ schema.name.toList
  columns : forall column, column ∈ schema.columns -> '.' ∉ column.name.toList

/-- The names of all columns as a join answers them. -/
def qualifiedNames (schema : Schema) : List String :=
  schema.columns.map fun column => schema.name ++ "." ++ column.name

theorem WellFormed.nodup_qualifiedNames (h : schema.WellFormed) :
    schema.qualifiedNames.Nodup := by
  unfold qualifiedNames
  apply List.pairwise_map.mpr
  apply (List.pairwise_map.mp h.names_nodup).imp
  intro a b hne hsame
  apply hne
  exact congrArg Text.lowercase ((String.append_right_inj _).mp hsame)

theorem mem_fields_of_projection {columns : Option (List String)} {fields : List Field}
    (h : schema.projection columns = .ok fields) {field : Field} (hfield : field ∈ fields) :
    field ∈ schema.fields := by
  cases columns with
  | none =>
      cases h
      exact hfield
  | some names =>
      rcases (Result.mapM_eq_ok h).2 field hfield with ⟨_, _, hresolve⟩
      exact (resolve_eq_ok hresolve).1

end Schema

/-!
# Output columns of one name
-/

namespace Sides

variable {sides : Sides}

theorem hasColumn_of_side {ref : ColumnRef} {side : Side} (hbare : ref.table = none)
    (h : sides.side ref = .ok side) : (sides.schema side).hasColumn ref.column = true := by
  unfold Sides.side at h
  rw [hbare, Option.isSome_none, if_neg Bool.false_ne_true] at h
  cases hleft : sides.left.hasColumn ref.column with
  | true =>
      rw [hleft] at h
      cases h
      exact hleft
  | false =>
      cases hright : sides.right.hasColumn ref.column with
      | true =>
          rw [hleft, hright] at h
          cases h
          exact hright
      | false =>
          rw [hleft, hright] at h
          cases h

/-- A reference that reaches a column of tables without dots is undotted. -/
theorem undotted_of_bindRef (hundotted : forall side, (sides.schema side).Undotted)
    {ref : ColumnRef} {column : BoundColumn} (h : sides.bindRef ref = .ok column) :
    ref.Undotted := by
  rcases Result.bind_eq_ok_iff.mp h with ⟨side, hside, _⟩
  intro hdot
  rcases ref with ⟨qualifier, name⟩
  cases qualifier with
  | some qualifier =>
      have halike : Text.alike qualifier (sides.schema side).name = true :=
        refersTo_of_qualifiedSide hside
      exact (hundotted side).name (Text.dot_mem_of_alike halike hdot)
  | none =>
      rcases Option.isSome_iff_exists.mp (hasColumn_of_side rfl hside) with ⟨field, hfield⟩
      rcases Schema.field?_eq_some hfield with ⟨hmem, hanswers⟩
      apply (hundotted side).columns _ (Schema.column_mem_of_mem_fields hmem)
      exact Text.dot_mem_of_alike ((Text.alike_comm _ _).trans hanswers) hdot

theorem mem_outputs_all {name : String} {column : BoundColumn}
    (h : (name, column) ∈ sides.sideColumns .left ++ sides.sideColumns .right) :
    column.field ∈ (sides.schema column.side).fields ∧
      name = (sides.schema column.side).name ++ "." ++ column.field.column.name := by
  rcases List.mem_append.mp h with h | h
  · rcases List.mem_map.mp h with ⟨field, hfield, hsame⟩
    cases hsame
    exact ⟨hfield, rfl⟩
  · rcases List.mem_map.mp h with ⟨field, hfield, hsame⟩
    cases hsame
    exact ⟨hfield, rfl⟩

theorem consistent_all (hundotted : forall side, (sides.schema side).Undotted)
    (hschema : forall side, (sides.schema side).WellFormed)
    (hnames : sides.left.name ≠ sides.right.name) :
    Keyed.Consistent (sides.sideColumns .left ++ sides.sideColumns .right) := by
  intro name a b ha hb
  rcases a with ⟨side, field⟩
  rcases b with ⟨side', field'⟩
  rcases mem_outputs_all ha with ⟨hfield, hname⟩
  rcases mem_outputs_all hb with ⟨hfield', hname'⟩
  rcases Text.dotted_inj (hundotted side).name (hundotted side').name
    (hname.symm.trans hname') with ⟨htable, hcolumn⟩
  have hside : side = side' := by
    cases side with
    | left =>
        cases side' with
        | left => rfl
        | right => exact absurd htable hnames
    | right =>
        cases side' with
        | left => exact absurd htable.symm hnames
        | right => rfl
  subst hside
  rw [show field = field' from (hschema side).position_eq_of_lowercase_eq hfield hfield'
    (congrArg Text.lowercase hcolumn)]

/-- Output columns with one name are one column, except among all columns of a table joined with
itself. -/
theorem consistent_outputs (hundotted : forall side, (sides.schema side).Undotted)
    (hschema : forall side, (sides.schema side).WellFormed) {projection : Projection}
    (hnames : projection = .all -> sides.left.name ≠ sides.right.name)
    {outputs : List (String × BoundColumn)} (h : sides.outputs projection = .ok outputs) :
    Keyed.Consistent outputs := by
  cases projection with
  | all =>
      cases h
      exact consistent_all hundotted hschema (hnames rfl)
  | only refs =>
      have hbound : forall name column, (name, column) ∈ outputs ->
          exists ref : ColumnRef, ref.display = name ∧ sides.bindRef ref = .ok column := by
        intro name column hcolumn
        rcases (Result.mapM_eq_ok h).2 _ hcolumn with ⟨ref, _, href⟩
        rcases Result.bind_eq_ok_iff.mp href with ⟨bound, hbound, hsame⟩
        cases hsame
        exact ⟨ref, rfl, hbound⟩
      intro name a b ha hb
      rcases hbound name a ha with ⟨ref, hname, hrefA⟩
      rcases hbound name b hb with ⟨ref', hname', hrefB⟩
      have hsame : ref = ref' := ColumnRef.display_inj (undotted_of_bindRef hundotted hrefA)
        (undotted_of_bindRef hundotted hrefB) (hname.trans hname'.symm)
      subst hsame
      exact Except.ok.inj (hrefA.symm.trans hrefB)

end Sides

/-!
# Rows as maps
-/

namespace RowSet

variable {set : RowSet}

/-- Every row has a cell for each column, and columns with one name hold the same in it. -/
def Consistent (set : RowSet) : Prop :=
  forall row, row ∈ set.rows ->
    row.length = set.columns.length ∧ Keyed.Consistent (set.columns.zip row)

/-- Every cell of every row is found in the map of the row, under the name of its column. -/
def KeptInMaps (set : RowSet) : Prop :=
  List.Forall₂ (fun row map => forall column v, (column, v) ∈ set.columns.zip row ->
    Keyed.find? column map = some v) set.rows set.toMaps

theorem Consistent.keptInMaps (h : set.Consistent) : set.KeptInMaps := by
  unfold KeptInMaps toMaps
  rw [List.forall₂_map_right_iff, List.forall₂_same]
  intro row hrow column v hcell
  exact (h row hrow).2.find?_ofList hcell

/-- Rows that read their cells off consistent columns are consistent. -/
theorem consistent_of_outputs {α : Type} {outputs : List (String × α)}
    (h : Keyed.Consistent outputs) (hcolumns : set.columns = outputs.map Prod.fst)
    (hrows : forall row, row ∈ set.rows ->
      exists cell : α -> Value, row = outputs.map fun output => cell output.2) :
    set.Consistent := by
  intro row hrow
  rcases hrows row hrow with ⟨cell, hcells⟩
  rw [hcolumns, hcells]
  constructor
  · rw [List.length_map, List.length_map]
  · rw [List.zip_map']
    exact h.map cell

end RowSet

namespace PlainTable

variable {table left right : PlainTable} {projection : Projection} {condition : Option Condition}
  {set : RowSet}

theorem consistent_find (hschema : table.schema.WellFormed) {columns : Option (List String)}
    (h : table.find columns condition = .ok set) : set.Consistent := by
  rcases Result.bind_eq_ok_iff.mp h with ⟨keep, _, hset⟩
  rcases Result.bind_eq_ok_iff.mp hset with ⟨fields, hfields, hset⟩
  cases hset
  have hconsistent : Keyed.Consistent (fields.map fun field => (field.column.name, field)) := by
    intro name a b ha hb
    rcases List.mem_map.mp ha with ⟨field, hfield, hsame⟩
    rcases List.mem_map.mp hb with ⟨field', hfield', hsame'⟩
    rcases Prod.mk.inj hsame with ⟨hname, rfl⟩
    rcases Prod.mk.inj hsame' with ⟨hname', rfl⟩
    exact hschema.position_eq_of_lowercase_eq (Schema.mem_fields_of_projection hfields hfield)
      (Schema.mem_fields_of_projection hfields hfield')
      (congrArg Text.lowercase (hname.trans hname'.symm))
  apply RowSet.consistent_of_outputs hconsistent
  · rw [List.map_map]
    rfl
  · intro row hrow
    rcases List.mem_map.mp hrow with ⟨stored, _, hcells⟩
    refine ⟨fun field => stored.cell field.position, ?_⟩
    rw [← hcells, List.map_map]
    rfl

theorem consistent_select (hschema : table.schema.WellFormed)
    (h : table.select projection condition = .ok set) : set.Consistent := by
  cases projection with
  | all => exact consistent_find hschema h
  | only refs =>
      rcases Result.bind_eq_ok_iff.mp h with ⟨_, _, hfind⟩
      exact consistent_find hschema hfind

theorem consistent_join (hleft : left.schema.WellFormed ∧ left.schema.Undotted)
    (hright : right.schema.WellFormed ∧ right.schema.Undotted)
    (hnames : projection = .all -> left.schema.name ≠ right.schema.name) {clause : JoinClause}
    (h : left.join right clause projection condition = .ok set) : set.Consistent := by
  rcases join_eq_ok h with ⟨_, _, outputs, joined, _, houtputs, _, hcolumns, hrows⟩
  have hboth : forall side, (Sides.schema ⟨left.schema, right.schema⟩ side).WellFormed ∧
      (Sides.schema ⟨left.schema, right.schema⟩ side).Undotted := by
    intro side
    cases side with
    | left => exact hleft
    | right => exact hright
  have hconsistent := Sides.consistent_outputs (fun side => (hboth side).2)
    (fun side => (hboth side).1) hnames houtputs
  apply RowSet.consistent_of_outputs hconsistent hcolumns
  intro row hrow
  rw [hrows] at hrow
  rcases List.mem_map.mp hrow with ⟨pair, _, hcells⟩
  exact ⟨fun column => column.pick pair.1 pair.2, hcells.symm⟩

/-- Rows that hold two rows of a table under the names of its columns, given twice.  The map of each
has the cells of the right row. -/
structure Doubled (table : PlainTable) (set : RowSet) : Prop where
  columns : set.columns = table.schema.qualifiedNames ++ table.schema.qualifiedNames
  rows : List.Forall₂ (fun row map => exists left right,
    left ∈ table.rows ∧ right ∈ table.rows ∧ row = left.cells ++ right.cells ∧
      forall column v, (column, v) ∈ table.schema.qualifiedNames.zip right.cells ->
        Keyed.find? column map = some v) set.rows set.toMaps

theorem doubled_join (hsound : table.Sound) {clause : JoinClause}
    (h : table.join table clause .all condition = .ok set) : table.Doubled set := by
  rcases join_eq_ok h with ⟨_, _, outputs, joined, _, houtputs, _, hcolumns, hrows⟩
  have hnames : set.columns = table.schema.qualifiedNames ++ table.schema.qualifiedNames :=
    hcolumns.trans (Sides.outputs_all_names ⟨table.schema, table.schema⟩ houtputs)
  refine ⟨hnames, ?_⟩
  unfold RowSet.toMaps
  rw [List.forall₂_map_right_iff, List.forall₂_same, hrows]
  intro row hrow
  rcases List.mem_map.mp hrow with ⟨⟨left, right⟩, hpair, hcells⟩
  rcases List.mem_product.mp (List.mem_filter.mp hpair).1 with ⟨hleft, hright⟩
  have hlength : forall stored, stored ∈ table.rows ->
      stored.cells.length = table.schema.columns.length := by
    intro stored hstored
    exact (hsound.typed _ hstored).length_cells
  rw [Sides.outputs_all_cells _ houtputs (hlength _ hleft) (hlength _ hright)] at hcells
  refine ⟨left, right, hleft, hright, hcells.symm, ?_⟩
  intro column v hcell
  have hwidth : table.schema.qualifiedNames.length = table.schema.columns.length :=
    List.length_map _
  have hkeys : ((table.schema.qualifiedNames.zip right.cells).map Prod.fst).Nodup := by
    rw [List.map_fst_zip (by rw [hwidth, hlength _ hright])]
    exact hsound.schema_wellFormed.nodup_qualifiedNames
  rw [hnames, ← hcells, List.zip_append (by rw [hwidth, hlength _ hleft])]
  exact Keyed.find?_ofList_append hkeys hcell

end PlainTable

/-- The JSON of any rows is read back as their maps. -/
theorem Shell.read_jsonRows (set : RowSet) :
    ((Json.read (jsonRows set)).bind Json.array?).bind
      (List.mapM (Json.filed? Value.ofJson?)) = some set.toMaps := by
  have hread : Json.read (jsonRows set) = some (.array (set.toMaps.map fun cells =>
      .record (cells.map fun cell => (cell.1, cell.2.toJson)))) := by
    apply Json.read_pretty
    apply Json.whole_map
    intro cells
    apply Json.whole_record
    intro member hmember
    rcases List.mem_map.mp hmember with ⟨cell, _, rfl⟩
    exact Value.whole_toJson cell.2
  rw [hread]
  apply Json.mapM_map
  intro row hrow
  rcases List.mem_map.mp hrow with ⟨cells, _, hfiled⟩
  apply Json.filed?_record
  · rw [← hfiled]
    exact Keyed.ascending_ofList _
  · intro entry _
    exact Value.ofJson?_toJson entry.2

namespace Database

theorem undotted_of_printable {name : String} {columns : List Column}
    (h : (Statement.createTable name columns).Printable) :
    ({ name, columns } : Schema).derivePrimaryKey.Undotted where
  name := h.1.dot_not_mem
  columns := fun column hcolumn => (h.2.all column hcolumn).name.dot_not_mem

theorem undotted_afterSql (createdAt : Nat) (texts : List String) {name : String} {table : Table}
    (h : (afterSql createdAt texts).table? name = some table) : table.schema.Undotted := by
  have hall := (all_afterSql (PlainTable.kept_of_schema Schema.Undotted) undotted_of_printable
    createdAt texts).1
  exact hall (Text.lowercase name, table.plain)
    (List.mem_map.mpr ⟨(_, table), Keyed.mem_of_find? h, rfl⟩)

/-- In a database that statements have made, columns of an answer that share a name hold the same in
every row, so its maps lose no cell and neither does its JSON, which is read back as the maps.  All
columns of a join of a table with itself are the exception: they are the table's columns twice, and
the maps keep the cells of the right row. -/
theorem columns_of_one_name_agree (createdAt : Nat) (texts : List String) (projection : Projection)
    (name : String) (join : Option JoinClause) (condition : Option Condition) (set : RowSet)
    (hanswer : ((execute (.select projection name join condition)).run.run
      (afterSql createdAt texts)).1 = .ok (.rows set)) :
    (¬ (projection = .all ∧ (Statement.select projection name join condition).JoinsItself) ->
        set.Consistent ∧ set.KeptInMaps) ∧
      ((Json.read (Shell.jsonRows set)).bind Json.array?).bind
        (List.mapM (Json.filed? Value.ofJson?)) = some set.toMaps ∧
      (projection = .all -> (Statement.select projection name join condition).JoinsItself ->
        exists table, (afterSql createdAt texts).table? name = some table ∧
          table.plain.Doubled set) := by
  have hdb : (afterSql createdAt texts).WellFormed := wellFormed_after _ _
  rw [run_select] at hanswer
  rcases Result.map_eq_ok_iff.mp hanswer with ⟨_, hselect, hset⟩
  cases hset
  rcases Result.bind_eq_ok_iff.mp hselect with ⟨table, htable, hrest⟩
  have hfound := table_eq_ok_iff.mp htable
  have hsound := (hdb.of_table hfound).1
  cases join with
  | none =>
      have hplain : table.plain.select projection condition = .ok set :=
        (hsound.mirrored.selectOne_eq projection condition).symm.trans hrest
      have hconsistent : set.Consistent :=
        PlainTable.consistent_select hsound.sound.schema_wellFormed hplain
      exact ⟨fun _ => ⟨hconsistent, hconsistent.keptInMaps⟩, Shell.read_jsonRows set,
        fun _ hself => hself.elim⟩
  | some clause =>
      rcases Result.bind_eq_ok_iff.mp hrest with ⟨right, hright, hjoin⟩
      have hfound' := table_eq_ok_iff.mp hright
      have hsound' := (hdb.of_table hfound').1
      rw [Join.run_eq hsound'.mirrored] at hjoin
      refine ⟨?_, Shell.read_jsonRows set, ?_⟩
      · intro hother
        have hconsistent : set.Consistent := by
          apply PlainTable.consistent_join _ _ _ hjoin
          · exact ⟨hsound.sound.schema_wellFormed, undotted_afterSql createdAt texts hfound⟩
          · exact ⟨hsound'.sound.schema_wellFormed, undotted_afterSql createdAt texts hfound'⟩
          · intro hall hnames
            apply hother ⟨hall, _⟩
            show Text.lowercase clause.table = Text.lowercase name
            rw [(hdb.of_table hfound).2, (hdb.of_table hfound').2]
            exact congrArg Text.lowercase hnames.symm
        exact ⟨hconsistent, hconsistent.keptInMaps⟩
      · intro hall hself
        have hsame : right = table := by
          have hlookup : (afterSql createdAt texts).table? clause.table =
              (afterSql createdAt texts).table? name := congrArg (Keyed.find? · _) hself
          rw [hfound, hfound'] at hlookup
          exact Option.some.inj hlookup
        subst hall hsame
        exact ⟨right, hfound, PlainTable.doubled_join hsound.sound hjoin⟩

/-- The name of a pet is asked for twice. -/
def sampleTwice : RowSet :=
  ⟨["name", "pets.id", "name"], [[.text "Rex", .integer 7, .text "Rex"]]⟩

theorem columns_of_one_name_agree_sample :
    ((execute (.select (.only [⟨none, "name"⟩, ⟨some "pets", "id"⟩, ⟨none, "name"⟩]) "Pets"
        (some ⟨"PETS", ⟨none, "id"⟩, ⟨none, "id"⟩⟩) none)).run.run (afterSql 0 sampleSql)).1 =
        .ok (.rows sampleTwice) ∧
      sampleTwice.Consistent ∧ sampleTwice.KeptInMaps := by
  have hanswer : ((execute (.select (.only [⟨none, "name"⟩, ⟨some "pets", "id"⟩, ⟨none, "name"⟩])
      "Pets" (some ⟨"PETS", ⟨none, "id"⟩, ⟨none, "id"⟩⟩) none)).run.run (afterSql 0 sampleSql)).1 =
      .ok (.rows sampleTwice) := by decide +kernel
  have hagree := (columns_of_one_name_agree 0 sampleSql _ _ _ _ _ hanswer).1
  exact ⟨hanswer, hagree fun hall => by cases hall.1⟩

def sampleSteps : List String := [
  "CREATE TABLE t (a INT, b INT)",
  "INSERT INTO t (a, b) VALUES (1, 2)",
  "INSERT INTO t (a, b) VALUES (2, 3)"]

def sampleStep : RowSet :=
  ⟨["t.a", "t.b", "t.a", "t.b"], [[.integer 1, .integer 2, .integer 2, .integer 3]]⟩

/-- The map of the row has none of the cells of the left row. -/
theorem self_join_drops_cells :
    ((executeSql "SELECT * FROM t INNER JOIN t ON b = a").run.run (afterSql 0 sampleSteps)).1 =
        .ok (.rows sampleStep) ∧
      sampleStep.toMaps = [[("t.a", .integer 2), ("t.b", .integer 3)]] ∧
      ¬ sampleStep.Consistent := by
  have hanswer : ((executeSql "SELECT * FROM t INNER JOIN t ON b = a").run.run
      (afterSql 0 sampleSteps)).1 = .ok (.rows sampleStep) := by decide +kernel
  have hdiffer : ¬ sampleStep.Consistent := by
    intro hconsistent
    have hcells := (hconsistent _ List.mem_cons_self).2 "t.a" (.integer 1) (.integer 2)
      List.mem_cons_self (List.mem_cons_of_mem _ (List.mem_cons_of_mem _ List.mem_cons_self))
    cases hcells
  exact ⟨hanswer, by decide +kernel, hdiffer⟩

end Database
end Tabula
