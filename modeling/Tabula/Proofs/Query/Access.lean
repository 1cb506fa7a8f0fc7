import Tabula.Proofs.Table.Refinement
import Tabula.Query.Execute

/-!
# Queries do not show the indexes

What is found through an index that mirrors the rows is what looking at every row finds, in the same
order.  So a query of tables with indexes answers like the query of the plain tables.
-/

namespace Tabula

open Sql (ColumnRef Condition JoinClause Projection)

namespace Schema

theorem mem_fields_of_bindCondition {schema : Schema} {condition : Condition} {filter : Filter}
    (h : schema.bindCondition condition = .ok filter) :
    filter.field ∈ schema.fields ∧ filter.value = condition.value := by
  rcases Result.bind_eq_ok_iff.mp h with ⟨_, _, hfield⟩
  rcases Result.bind_eq_ok_iff.mp hfield with ⟨field, hresolve, hfilter⟩
  cases hfilter
  exact ⟨(resolve_eq_ok hresolve).1, rfl⟩

end Schema

/-- The keys of a join are the columns that the references of its condition reach, one in each
table. -/
theorem Sides.resolve_of_keys {sides : Sides} {clause : JoinClause} {leftKey rightKey : Field}
    (h : sides.keys clause = .ok (leftKey, rightKey)) :
    exists leftRef rightRef,
      ((leftRef, rightRef) = (clause.left, clause.right) ∨
        (leftRef, rightRef) = (clause.right, clause.left)) ∧
      sides.left.resolve leftRef.column = .ok leftKey ∧
      sides.right.resolve rightRef.column = .ok rightKey := by
  rcases Result.bind_eq_ok_iff.mp h with ⟨first, _, h⟩
  rcases Result.bind_eq_ok_iff.mp h with ⟨second, _, h⟩
  by_cases hsame : first.isSome ∧ first = second
  · rw [if_pos hsame] at h
    cases h
  · rw [if_neg hsame] at h
    have hresolve : forall leftRef rightRef : ColumnRef,
        (do
          let leftKey <- sides.left.resolve leftRef.column
          let rightKey <- sides.right.resolve rightRef.column
          return (leftKey, rightKey)) = Except.ok (leftKey, rightKey) ->
        sides.left.resolve leftRef.column = .ok leftKey ∧
          sides.right.resolve rightRef.column = .ok rightKey := by
      intro leftRef rightRef hrefs
      rcases Result.bind_eq_ok_iff.mp hrefs with ⟨left, hleft, hrefs⟩
      rcases Result.bind_eq_ok_iff.mp hrefs with ⟨right, hright, hrefs⟩
      cases hrefs
      exact ⟨hleft, hright⟩
    by_cases hswap : first = some .right ∨ second = some .left
    · simp only [if_pos hswap] at h
      exact ⟨clause.right, clause.left, Or.inr rfl, hresolve _ _ h⟩
    · simp only [if_neg hswap] at h
      exact ⟨clause.left, clause.right, Or.inl rfl, hresolve _ _ h⟩

/-- The columns of a join's keys are columns of the two tables. -/
theorem Sides.mem_fields_of_keys {sides : Sides} {clause : JoinClause} {leftKey rightKey : Field}
    (h : sides.keys clause = .ok (leftKey, rightKey)) :
    leftKey ∈ sides.left.fields ∧ rightKey ∈ sides.right.fields := by
  rcases Sides.resolve_of_keys h with ⟨_, _, _, hleft, hright⟩
  exact ⟨(Schema.resolve_eq_ok hleft).1, (Schema.resolve_eq_ok hright).1⟩

namespace Table

variable {table : Table}

/-- The rows that an index finds are the rows that looking at every row finds. -/
theorem Mirrored.filterMap_lookup (h : table.Mirrored) {field : Field}
    (hfield : field ∈ table.schema.fields) {ix : Index}
    (hix : table.indexAt field.position = some ix) {v : Value} (hv : v ≠ .null) :
    (ix.lookup v).filterMap table.row? =
      table.rows.filter fun row => row.cell field.position == v := by
  rw [(h.mirrors_of_indexAt hfield hix).lookup_eq h.ascending hv]
  apply Rows.filterMap_find h.ascending
  intro row hrow
  exact (List.mem_filter.mp hrow).1

/-!
# One table
-/

theorem Mirrored.find_eq (h : table.Mirrored) (columns : Option (List String))
    (condition : Option Condition) : table.find columns condition = table.plain.find columns condition := by
  cases condition with
  | none => rfl
  | some condition =>
      show (table.schema.bindCondition condition >>= _) =
        ((table.schema.bindCondition condition >>= _) >>= _)
      cases hfilter : table.schema.bindCondition condition with
      | error e => rfl
      | ok filter =>
          have hfield := (Schema.mem_fields_of_bindCondition hfilter).1
          simp only [Result.ok_bind, Result.pure_eq_ok]
          show _ = (table.schema.projection columns >>= _)
          cases hix : table.indexFor filter with
          | none => rfl
          | some ix =>
              unfold indexFor at hix
              by_cases hnull : filter.value.isNull = true
              · rw [if_pos hnull] at hix
                cases hix
              · rw [if_neg hnull] at hix
                have hv : filter.value ≠ .null := fun hv => hnull (Value.isNull_iff.mpr hv)
                simp only [selectIds]
                rw [h.filterMap_lookup hfield hix hv]
                rfl

theorem Mirrored.selectOne_eq (h : table.Mirrored) (projection : Projection)
    (condition : Option Condition) :
    Database.selectOne table projection condition = table.plain.select projection condition := by
  cases projection with
  | all => exact h.find_eq none condition
  | only refs =>
      unfold Database.selectOne PlainTable.select
      simp only
      rw [h.find_eq]
      rfl

end Table

/-!
# Two tables
-/

namespace Join

variable {join : Join}

theorem matching_eq (h : join.right.Mirrored) {rightKey : Field}
    (hfield : rightKey ∈ join.right.schema.fields) {key : Value} (hkey : key ≠ .null) :
    join.matching rightKey key =
      join.right.rows.filter fun row => row.cell rightKey.position == key := by
  unfold matching
  cases hix : join.right.indexAt rightKey.position with
  | none => rfl
  | some ix => exact h.filterMap_lookup hfield hix hkey

theorem pairsOf_eq (h : join.right.Mirrored) {leftKey rightKey : Field}
    (hfield : rightKey ∈ join.right.schema.fields) (left : Row) :
    join.pairsOf leftKey rightKey left =
      (join.right.rows.filter (PlainTable.joins leftKey rightKey left)).map fun right =>
        (left, right) := by
  unfold pairsOf
  by_cases hnull : (left.cell leftKey.position).isNull = true
  · have hnone : join.right.rows.filter (PlainTable.joins leftKey rightKey left) = [] := by
      apply List.filter_eq_nil_iff.mpr
      intro right _
      unfold PlainTable.joins
      rw [hnull]
      exact Bool.false_ne_true
    rw [if_pos hnull, hnone]
    rfl
  · have hkey : left.cell leftKey.position ≠ .null := fun h => hnull (Value.isNull_iff.mpr h)
    rw [if_neg hnull, matching_eq h hfield hkey]
    apply congrArg (List.map fun right => (left, right))
    apply List.filter_congr
    intro right _
    unfold PlainTable.joins
    rw [Bool.eq_false_iff.mpr hnull]
    rfl

theorem run_eq (h : join.right.Mirrored) (clause : JoinClause) (projection : Projection)
    (condition : Option Condition) :
    join.run clause projection condition =
      join.left.plain.join join.right.plain clause projection condition := by
  show (join.sides.keys clause >>= _) = (join.sides.keys clause >>= _)
  cases hkeys : join.sides.keys clause with
  | error e => rfl
  | ok keys =>
      rcases keys with ⟨leftKey, rightKey⟩
      have hfield : rightKey ∈ join.right.schema.fields := (Sides.mem_fields_of_keys hkeys).2
      have hpairs : join.pairsOf leftKey rightKey = fun left =>
          (join.right.rows.filter (PlainTable.joins leftKey rightKey left)).map fun right =>
            (left, right) :=
        funext (pairsOf_eq h hfield)
      simp only [Result.ok_bind, hpairs]
      rfl

end Join
end Tabula
