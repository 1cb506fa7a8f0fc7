import Mathlib.Data.List.ProdSigma
import Tabula.Proofs.Database.Reachable

/-!
# Joins by their definition

A join answers the pairs of the product of its two tables that its keys and its filter admit, in the
order of the product.  Constraints, and with them indexes, have no part in the answer.
-/

namespace Tabula

open Sql (ColumnRef Condition JoinClause Projection)

/-!
# Columns without constraints
-/

def Column.unconstrained (column : Column) : Column :=
  { column with constraints := [] }

def Field.unconstrained (field : Field) : Field :=
  { field with column := field.column.unconstrained }

namespace Schema

/-- A schema as queries read it, without constraints and primary key. -/
def unconstrained (schema : Schema) : Schema where
  name := schema.name
  columns := schema.columns.map Column.unconstrained

theorem fields_unconstrained (schema : Schema) :
    schema.unconstrained.fields = schema.fields.map Field.unconstrained := by
  unfold fields unconstrained
  simp only [List.zipIdx_map, List.map_map]
  rfl

theorem field?_unconstrained (schema : Schema) (name : String) :
    schema.unconstrained.field? name = (schema.field? name).map Field.unconstrained := by
  unfold field?
  rw [fields_unconstrained, List.find?_map]
  rfl

theorem hasColumn_unconstrained (schema : Schema) (name : String) :
    schema.unconstrained.hasColumn name = schema.hasColumn name := by
  unfold hasColumn
  rw [field?_unconstrained, Option.isSome_map]

theorem resolve_unconstrained (schema : Schema) (name : String) :
    schema.unconstrained.resolve name = (schema.resolve name).map Field.unconstrained := by
  simp only [resolve, field?_unconstrained]
  cases schema.field? (unqualified name) with
  | none => rfl
  | some field => rfl

end Schema

def BoundColumn.unconstrained (column : BoundColumn) : BoundColumn :=
  { column with field := column.field.unconstrained }

namespace Sides

def unconstrained (sides : Sides) : Sides :=
  ⟨sides.left.unconstrained, sides.right.unconstrained⟩

theorem schema_unconstrained (sides : Sides) (side : Side) :
    sides.unconstrained.schema side = (sides.schema side).unconstrained := by
  cases side with
  | left => rfl
  | right => rfl

theorem conditionSide?_unconstrained (sides : Sides) (ref : ColumnRef) :
    sides.unconstrained.conditionSide? ref = sides.conditionSide? ref := by
  unfold conditionSide? unconstrained
  simp only [Schema.hasColumn_unconstrained]
  rfl

theorem keys_unconstrained (sides : Sides) (clause : JoinClause) :
    sides.unconstrained.keys clause =
      (sides.keys clause).map fun keys => (keys.1.unconstrained, keys.2.unconstrained) := by
  unfold keys
  simp only [conditionSide?_unconstrained]
  cases sides.conditionSide? clause.left with
  | error e => rfl
  | ok first =>
      cases sides.conditionSide? clause.right with
      | error e => rfl
      | ok second =>
          simp only [Result.ok_bind]
          by_cases hsame : first.isSome ∧ first = second
          · rw [if_pos hsame, if_pos hsame]
            rfl
          · rw [if_neg hsame, if_neg hsame]
            -- Which reference is whose has been settled without looking at a constraint.
            generalize (if first = some .right ∨ second = some .left then (clause.right, clause.left)
              else (clause.left, clause.right)) = refs
            simp only [unconstrained, Schema.resolve_unconstrained]
            cases sides.left.resolve refs.1.column with
            | error e => rfl
            | ok leftKey =>
                cases sides.right.resolve refs.2.column with
                | error e => rfl
                | ok rightKey => rfl

theorem side_unconstrained (sides : Sides) (ref : ColumnRef) :
    sides.unconstrained.side ref = sides.side ref := by
  unfold side unconstrained
  simp only [Schema.hasColumn_unconstrained]
  rfl

theorem bindRef_unconstrained (sides : Sides) (ref : ColumnRef) :
    sides.unconstrained.bindRef ref = (sides.bindRef ref).map BoundColumn.unconstrained := by
  unfold bindRef
  simp only [side_unconstrained, schema_unconstrained, Schema.resolve_unconstrained]
  cases sides.side ref with
  | error e => rfl
  | ok side =>
      simp only [Result.ok_bind]
      cases (sides.schema side).resolve ref.column with
      | error e => rfl
      | ok field => rfl

theorem sideColumns_unconstrained (sides : Sides) (side : Side) :
    sides.unconstrained.sideColumns side =
      (sides.sideColumns side).map (Prod.map id BoundColumn.unconstrained) := by
  unfold sideColumns
  rw [schema_unconstrained, Schema.fields_unconstrained, List.map_map, List.map_map]
  rfl

theorem outputs_unconstrained (sides : Sides) (projection : Projection) :
    sides.unconstrained.outputs projection =
      (sides.outputs projection).map (List.map (Prod.map id BoundColumn.unconstrained)) := by
  cases projection with
  | all =>
      simp only [outputs, sideColumns_unconstrained, ← List.map_append]
      rfl
  | only refs =>
      apply Result.mapM_eq_map
      intro ref
      rw [bindRef_unconstrained]
      cases sides.bindRef ref with
      | error e => rfl
      | ok column => rfl

theorem filter_unconstrained (sides : Sides) (condition : Option Condition) :
    sides.unconstrained.filter condition =
      (sides.filter condition).map (Option.map (Prod.map BoundColumn.unconstrained id)) := by
  cases condition with
  | none => rfl
  | some condition =>
      simp only [filter, bindRef_unconstrained]
      cases sides.bindRef condition.column with
      | error e => rfl
      | ok column => rfl

end Sides

namespace PlainTable

/-- What joins read of a table. -/
def unconstrained (table : PlainTable) : PlainTable where
  schema := table.schema.unconstrained
  rows := table.rows

/-- Joins do not read the constraints of their tables. -/
theorem join_unconstrained (left right : PlainTable) (clause : JoinClause)
    (projection : Projection) (condition : Option Condition) :
    left.unconstrained.join right.unconstrained clause projection condition =
      left.join right clause projection condition := by
  have hkeys := Sides.keys_unconstrained ⟨left.schema, right.schema⟩ clause
  have houtputs := Sides.outputs_unconstrained ⟨left.schema, right.schema⟩ projection
  have hfilter := Sides.filter_unconstrained ⟨left.schema, right.schema⟩ condition
  simp only [Sides.unconstrained] at hkeys houtputs hfilter
  unfold join unconstrained
  simp only [hkeys, houtputs, hfilter]
  cases Sides.keys ⟨left.schema, right.schema⟩ clause with
  | error e => rfl
  | ok keys =>
      cases Sides.outputs ⟨left.schema, right.schema⟩ projection with
      | error e => rfl
      | ok outputs =>
          cases Sides.filter ⟨left.schema, right.schema⟩ condition with
          | error e => rfl
          | ok filter =>
              have hmeets : Join.meets (filter.map (Prod.map BoundColumn.unconstrained id)) =
                  Join.meets filter := by
                cases filter with
                | none => rfl
                | some filter => rfl
              simp only [Except.map, Result.ok_bind, hmeets, List.map_map]
              rfl

end PlainTable

/-!
# Pairs of the product
-/

/-- Two rows that a join answers with: their key columns hold the same value other than NULL, and
the column that the condition reaches holds the condition's value. -/
structure Sides.Joined (sides : Sides) (leftKey rightKey : Field) (condition : Option Condition)
    (left right : Row) : Prop where
  not_null : left.cell leftKey.position ≠ .null
  same : left.cell leftKey.position = right.cell rightKey.position
  meets : forall c, condition = some c ->
    exists column, sides.bindRef c.column = .ok column ∧ column.pick left right = c.value

theorem PlainTable.joins_iff {leftKey rightKey : Field} {left right : Row} :
    joins leftKey rightKey left right = true <->
      left.cell leftKey.position ≠ .null ∧
        left.cell leftKey.position = right.cell rightKey.position := by
  unfold joins
  rw [Bool.and_eq_true, Bool.not_eq_true', beq_iff_eq, ← Bool.not_eq_true, Value.isNull_iff]
  exact and_congr_right fun _ => eq_comm

theorem Join.meets_iff {sides : Sides} {condition : Option Condition}
    {filter : Option (BoundColumn × Value)} (h : sides.filter condition = .ok filter)
    {left right : Row} :
    meets filter (left, right) = true <->
      forall c, condition = some c ->
        exists column, sides.bindRef c.column = .ok column ∧ column.pick left right = c.value := by
  cases condition with
  | none =>
      cases h
      exact ⟨fun _ _ hc => (Option.some_ne_none _ hc.symm).elim, fun _ => rfl⟩
  | some condition =>
      rcases Result.bind_eq_ok_iff.mp h with ⟨column, hcolumn, hfilter⟩
      cases hfilter
      show (column.pick left right == condition.value) = true <-> _
      rw [beq_iff_eq]
      constructor
      · intro hvalue c hc
        cases hc
        exact ⟨column, hcolumn, hvalue⟩
      · intro hall
        rcases hall condition rfl with ⟨other, hother, hvalue⟩
        rw [hcolumn] at hother
        cases hother
        exact hvalue

theorem Sides.filter_isOk_iff {sides : Sides} {condition : Option Condition} :
    (exists filter, sides.filter condition = .ok filter) <->
      forall c, condition = some c -> exists column, sides.bindRef c.column = .ok column := by
  cases condition with
  | none => exact ⟨fun _ _ hc => (Option.some_ne_none _ hc.symm).elim, fun _ => ⟨none, rfl⟩⟩
  | some condition =>
      constructor
      · intro hok c hc
        cases hc
        rcases hok with ⟨_, hfilter⟩
        rcases Result.bind_eq_ok_iff.mp hfilter with ⟨column, hcolumn, _⟩
        exact ⟨column, hcolumn⟩
      · intro hbound
        rcases hbound condition rfl with ⟨column, hcolumn⟩
        exact ⟨_, Result.bind_eq_ok_iff.mpr ⟨column, hcolumn, rfl⟩⟩

/-- Pairing each left row with the right rows that it keeps runs through the product once. -/
theorem Rows.flatMap_filter_eq (left right : List Row) (keep : Row -> Row -> Bool) :
    (left.flatMap fun a => (right.filter (keep a)).map fun b => (a, b)) =
      (left ×ˢ right).filter fun pair => keep pair.1 pair.2 := by
  induction left with
  | nil => rfl
  | cons a rest ih =>
      rw [List.flatMap_cons, List.product_cons, List.filter_append, List.filter_map, ih]
      rfl

/-- A join fails only for a name in its condition, its projection or its filter. -/
theorem PlainTable.join_isOk_iff {left right : PlainTable} {clause : JoinClause}
    {projection : Projection} {condition : Option Condition} :
    (exists set, left.join right clause projection condition = .ok set) <->
      (exists keys, Sides.keys ⟨left.schema, right.schema⟩ clause = .ok keys) ∧
        (exists outputs, Sides.outputs ⟨left.schema, right.schema⟩ projection = .ok outputs) ∧
        forall c, condition = some c ->
          exists column, Sides.bindRef ⟨left.schema, right.schema⟩ c.column = .ok column := by
  rw [← Sides.filter_isOk_iff]
  constructor
  · intro hok
    rcases hok with ⟨set, hset⟩
    rcases Result.bind_eq_ok_iff.mp hset with ⟨keys, hkeys, hset⟩
    rcases Result.bind_eq_ok_iff.mp hset with ⟨outputs, houtputs, hset⟩
    rcases Result.bind_eq_ok_iff.mp hset with ⟨filter, hfilter, _⟩
    exact ⟨⟨keys, hkeys⟩, ⟨outputs, houtputs⟩, filter, hfilter⟩
  · intro hparts
    rcases hparts with ⟨⟨keys, hkeys⟩, ⟨outputs, houtputs⟩, filter, hfilter⟩
    unfold join
    simp only [hkeys, houtputs, hfilter, Result.ok_bind]
    exact ⟨_, rfl⟩

/-- A join by its definition. -/
theorem PlainTable.join_eq_ok {left right : PlainTable} {clause : JoinClause}
    {projection : Projection} {condition : Option Condition} {set : RowSet}
    (h : left.join right clause projection condition = .ok set) :
    exists leftKey rightKey outputs joined,
      Sides.keys ⟨left.schema, right.schema⟩ clause = .ok (leftKey, rightKey) ∧
      Sides.outputs ⟨left.schema, right.schema⟩ projection = .ok outputs ∧
      (forall a b, joined (a, b) = true <->
        Sides.Joined ⟨left.schema, right.schema⟩ leftKey rightKey condition a b) ∧
      set.columns = outputs.map Prod.fst ∧
      set.rows = ((left.rows ×ˢ right.rows).filter joined).map fun pair =>
        outputs.map fun output => output.2.pick pair.1 pair.2 := by
  rcases Result.bind_eq_ok_iff.mp h with ⟨⟨leftKey, rightKey⟩, hkeys, h⟩
  rcases Result.bind_eq_ok_iff.mp h with ⟨outputs, houtputs, h⟩
  rcases Result.bind_eq_ok_iff.mp h with ⟨filter, hfilter, h⟩
  cases h
  refine ⟨leftKey, rightKey, outputs,
    fun pair => Join.meets filter pair && joins leftKey rightKey pair.1 pair.2,
    hkeys, houtputs, ?_, rfl, ?_⟩
  · intro a b
    simp only
    rw [Bool.and_eq_true, Join.meets_iff hfilter, joins_iff]
    constructor
    · intro hparts
      exact ⟨hparts.2.1, hparts.2.2, hparts.1⟩
    · intro hjoined
      exact ⟨hjoined.meets, hjoined.not_null, hjoined.same⟩
  · simp only
    rw [Rows.flatMap_filter_eq, List.filter_filter]

/-- All columns of a join are those of the left table and those of the right table, in declared
order. -/
theorem Sides.outputs_all_names (sides : Sides) {outputs : List (String × BoundColumn)}
    (h : sides.outputs .all = .ok outputs) :
    outputs.map Prod.fst =
      (sides.left.columns.map fun column => sides.left.name ++ "." ++ column.name) ++
        sides.right.columns.map fun column => sides.right.name ++ "." ++ column.name := by
  cases h
  rw [List.map_append, ← Schema.map_column_fields sides.left,
    ← Schema.map_column_fields sides.right]
  unfold sideColumns
  simp only [List.map_map]
  rfl

theorem Sides.outputs_all_cells (sides : Sides) {outputs : List (String × BoundColumn)}
    (h : sides.outputs .all = .ok outputs) {a b : Row}
    (ha : a.cells.length = sides.left.columns.length)
    (hb : b.cells.length = sides.right.columns.length) :
    (outputs.map fun output => output.2.pick a b) = a.cells ++ b.cells := by
  cases h
  rw [List.map_append, Row.cells_eq_map_fields ha, Row.cells_eq_map_fields hb]
  unfold sideColumns
  simp only [List.map_map]
  rfl

/-- The columns of a list are those that its references are bound to, each under the name that the
reference displays. -/
theorem Sides.outputs_only_iff {sides : Sides} {refs : List ColumnRef}
    {outputs : List (String × BoundColumn)} :
    sides.outputs (.only refs) = .ok outputs <->
      List.Forall₂ (fun ref output => output.1 = ref.display ∧ sides.bindRef ref = .ok output.2)
        refs outputs := by
  have hstep : forall (ref : ColumnRef) (output : String × BoundColumn),
      (sides.bindRef ref >>= fun column => pure (ref.display, column)) = .ok output <->
        output.1 = ref.display ∧ sides.bindRef ref = .ok output.2 := by
    intro ref output
    rw [Result.bind_eq_ok_iff]
    constructor
    · intro h
      rcases h with ⟨column, hcolumn, houtput⟩
      cases houtput
      exact ⟨rfl, hcolumn⟩
    · intro h
      refine ⟨output.2, h.2, ?_⟩
      rw [← h.1]
      rfl
  simp only [Sides.outputs, Result.mapM_eq_ok_iff, hstep]

namespace Database

/-!
# Joins of reachable databases
-/

variable {key key' : String} {left right : Table}

/-- A join of two tables of a reachable database fails only for a name that reaches no column.
Otherwise it answers the pairs of the product of their rows that the definition admits, each once and
in the order of the product.  Its columns are all those of the two tables, or one for each reference of
a list.  A right table with the same rows but other constraints, hence other indexes, gets the same
answer. -/
theorem join_is_filtered_product (createdAt : Nat) (calls : List Call)
    (hleft : (key, left) ∈ (after createdAt calls).tables)
    (hright : (key', right) ∈ (after createdAt calls).tables)
    (clause : JoinClause) (projection : Projection) (condition : Option Condition) :
    ((exists set, Join.run ⟨left, right⟩ clause projection condition = .ok set) <->
      (exists keys, Sides.keys ⟨left.schema, right.schema⟩ clause = .ok keys) ∧
        (exists outputs, Sides.outputs ⟨left.schema, right.schema⟩ projection = .ok outputs) ∧
        forall c, condition = some c ->
          exists column, Sides.bindRef ⟨left.schema, right.schema⟩ c.column = .ok column) ∧
    forall set, Join.run ⟨left, right⟩ clause projection condition = .ok set ->
      (exists leftKey rightKey outputs joined,
        Sides.keys ⟨left.schema, right.schema⟩ clause = .ok (leftKey, rightKey) ∧
        (exists leftRef rightRef,
          ((leftRef, rightRef) = (clause.left, clause.right) ∨
            (leftRef, rightRef) = (clause.right, clause.left)) ∧
          left.schema.resolve leftRef.column = .ok leftKey ∧
          right.schema.resolve rightRef.column = .ok rightKey) ∧
        Sides.outputs ⟨left.schema, right.schema⟩ projection = .ok outputs ∧
        (forall a b, joined (a, b) = true <->
          Sides.Joined ⟨left.schema, right.schema⟩ leftKey rightKey condition a b) ∧
        set.columns = outputs.map Prod.fst ∧
        (set.rows = ((left.rows ×ˢ right.rows).filter joined).map fun pair =>
          outputs.map fun output => output.2.pick pair.1 pair.2) ∧
        Rows.Ascending left.rows ∧ Rows.Ascending right.rows ∧
        (projection = .all ->
          (set.columns = (left.schema.columns.map fun column => left.name ++ "." ++ column.name) ++
            right.schema.columns.map fun column => right.name ++ "." ++ column.name) ∧
          set.rows = ((left.rows ×ˢ right.rows).filter joined).map fun pair =>
            pair.1.cells ++ pair.2.cells) ∧
        forall refs, projection = .only refs ->
          List.Forall₂ (fun ref output => output.1 = ref.display ∧
            Sides.bindRef ⟨left.schema, right.schema⟩ ref = .ok output.2) refs outputs) ∧
      (forall createdAt' calls' other right',
        (other, right') ∈ (after createdAt' calls').tables ->
        right'.schema.unconstrained = right.schema.unconstrained -> right'.rows = right.rows ->
          Join.run ⟨left, right'⟩ clause projection condition = .ok set) := by
  have hdb := wellFormed_after createdAt calls
  have hleft' := hdb.wellFormed _ hleft
  have hright' := hdb.wellFormed _ hright
  have hrun := @Join.run_eq ⟨left, right⟩ hright'.mirrored clause projection condition
  rw [hrun]
  refine ⟨PlainTable.join_isOk_iff, ?_⟩
  intro set hok
  constructor
  · rcases PlainTable.join_eq_ok hok with
      ⟨leftKey, rightKey, outputs, joined, hkeys, houtputs, hjoined, hcolumns, hrows⟩
    refine ⟨leftKey, rightKey, outputs, joined, hkeys, Sides.resolve_of_keys hkeys, houtputs,
      hjoined, hcolumns, hrows, hleft'.sound.ascending, hright'.sound.ascending, ?_, ?_⟩
    · intro hall
      subst hall
      constructor
      · rw [hcolumns]
        exact Sides.outputs_all_names _ houtputs
      · rw [hrows]
        apply List.map_congr_left
        intro pair hpair
        have hmem := List.mem_product.mp (List.mem_filter.mp hpair).1
        exact Sides.outputs_all_cells _ houtputs (hleft'.sound.typed _ hmem.1).length_cells
          (hright'.sound.typed _ hmem.2).length_cells
    · intro refs hrefs
      subst hrefs
      exact Sides.outputs_only_iff.mp houtputs
  · intro createdAt' calls' other right' hother hschema hrows
    have hmirrored := ((wellFormed_after createdAt' calls').wellFormed _ hother).mirrored
    have hsame : right'.plain.unconstrained = right.plain.unconstrained := by
      unfold PlainTable.unconstrained Table.plain
      simp only [hschema, hrows]
    rw [Join.run_eq hmirrored, ← PlainTable.join_unconstrained]
    simp only [hsame]
    rw [PlainTable.join_unconstrained]
    exact hok

/-- Visits of a pet, for which the constraints on the pet are left open. -/
def sampleVisitCalls (constraints : List Constraint) : List Call := sampleCalls ++ [
  .createTable ⟨"Visits", [⟨"pet", .int, constraints⟩, ⟨"fee", .int, []⟩], none⟩,
  .insert "Visits" ["pet"] [.integer 7],
  .insert "Visits" ["fee"] [.integer 5]]

def sampleVisits (constraints : List Constraint) (pets : Option Index) : Table where
  schema := ⟨"Visits", [⟨"pet", .int, constraints⟩, ⟨"fee", .int, []⟩], none⟩
  rows := [⟨1, [.integer 7, .null]⟩, ⟨2, [.null, .integer 5]⟩]
  nextRowId := 3
  indexes := [pets, none]

def sampleIndex : Index :=
  { column := "pet", entries := [(.integer 7, [1])] }

def sampleClause : JoinClause :=
  ⟨"visits", ⟨some "visits", "pet"⟩, ⟨none, "id"⟩⟩

def sampleJoined : RowSet :=
  ⟨["Pets.Id", "Pets.name", "Visits.pet", "Visits.fee"],
    [[.integer 7, .text "Rex", .integer 7, .null]]⟩

/-- The references of the condition stand the other way round, and its literal is NULL. -/
theorem join_is_filtered_product_sample :
    ("pets", sampleTable) ∈ (after 0 (sampleVisitCalls [])).tables ∧
      ("visits", sampleVisits [] none) ∈ (after 0 (sampleVisitCalls [])).tables ∧
      (exists joined, sampleJoined.rows =
        ((sampleTable.rows ×ˢ (sampleVisits [] none).rows).filter joined).map fun pair =>
          pair.1.cells ++ pair.2.cells) ∧
      Join.run ⟨sampleTable, sampleVisits [.unique] (some sampleIndex)⟩ sampleClause .all
        (some ⟨⟨none, "fee"⟩, .null⟩) = .ok sampleJoined := by
  have hleft : ("pets", sampleTable) ∈ (after 0 (sampleVisitCalls [])).tables := by decide +kernel
  have hright : ("visits", sampleVisits [] none) ∈ (after 0 (sampleVisitCalls [])).tables := by
    decide +kernel
  have hindexed : ("visits", sampleVisits [.unique] (some sampleIndex)) ∈
      (after 0 (sampleVisitCalls [.unique])).tables := by decide +kernel
  have hok : Join.run ⟨sampleTable, sampleVisits [] none⟩ sampleClause .all
      (some ⟨⟨none, "fee"⟩, .null⟩) = .ok sampleJoined := by decide +kernel
  rcases (join_is_filtered_product 0 (sampleVisitCalls []) hleft hright _ _ _).2 _ hok with
    ⟨⟨_, _, _, joined, _, _, _, _, _, _, _, _, hall, _⟩, hindexes⟩
  exact ⟨hleft, hright, ⟨joined, (hall rfl).2⟩,
    hindexes 0 (sampleVisitCalls [.unique]) "visits" _ hindexed rfl rfl⟩

end Database
end Tabula
