import Tabula.Sql.Statement
import Tabula.Table.Basic

/-!
# Joins of two tables

A join pairs the rows of a left and a right table whose key cells are equal.  The right rows are
found by the index on their key where there is one, and by looking at every row elsewhere; NULL is
equal to nothing.

## Sides

A qualifier says which side a reference belongs to.  In the join condition an unqualified name goes
to the only table that has it, and where that does not decide, the first reference is the left
table's and the second the right table's.  Elsewhere an unqualified name goes to the left table if it
has such a column and to the right table if not.
-/

namespace Tabula

open Sql (ColumnRef Condition JoinClause Projection)

inductive Side where
  | left
  | right
  deriving DecidableEq

/-- A column of one of the two tables. -/
structure BoundColumn where
  side : Side
  field : Field

namespace BoundColumn

def pick (column : BoundColumn) (left right : Row) : Value :=
  match column.side with
  | .left => left.cell column.field.position
  | .right => right.cell column.field.position

end BoundColumn

/-- The schemas of the two tables of a join. -/
structure Sides where
  left : Schema
  right : Schema

namespace Sides

def schema (sides : Sides) : Side -> Schema
  | .left => sides.left
  | .right => sides.right

/-!
# Binding references
-/

def qualifiedSide (sides : Sides) (ref : ColumnRef) : Except Error Side :=
  if ref.refersTo sides.left.name then .ok .left
  else if ref.refersTo sides.right.name then .ok .right
  else .error (.columnNotFound ref)

/-- The side that a reference of the join condition belongs to, where that can be told. -/
def conditionSide? (sides : Sides) (ref : ColumnRef) : Except Error (Option Side) :=
  if Text.alike sides.left.name sides.right.name then
    .ok none
  else if ref.table.isSome then
    (sides.qualifiedSide ref).map some
  else
    match sides.left.hasColumn ref.column, sides.right.hasColumn ref.column with
    | true, false => .ok (some .left)
    | false, true => .ok (some .right)
    | _, _ => .ok none

/-- The key columns of the left and of the right table. -/
def keys (sides : Sides) (clause : JoinClause) : Except Error (Field × Field) := do
  let first <- sides.conditionSide? clause.left
  let second <- sides.conditionSide? clause.right
  if first.isSome ∧ first = second then
    throw (.oneSidedCondition clause.left clause.right sides.left.name sides.right.name)
  let (leftRef, rightRef) :=
    if first = some .right ∨ second = some .left then (clause.right, clause.left)
    else (clause.left, clause.right)
  let leftKey <- sides.left.resolve leftRef.column
  let rightKey <- sides.right.resolve rightRef.column
  return (leftKey, rightKey)

/-- The side that a reference of the projection or of the filter belongs to. -/
def side (sides : Sides) (ref : ColumnRef) : Except Error Side :=
  if ref.table.isSome then sides.qualifiedSide ref
  else if sides.left.hasColumn ref.column then .ok .left
  else if sides.right.hasColumn ref.column then .ok .right
  else .error (.columnNotFound ref)

def bindRef (sides : Sides) (ref : ColumnRef) : Except Error BoundColumn := do
  let side <- sides.side ref
  let field <- (sides.schema side).resolve ref.column
  return ⟨side, field⟩

/-- All columns of one side under their qualified names. -/
def sideColumns (sides : Sides) (side : Side) : List (String × BoundColumn) :=
  (sides.schema side).fields.map fun field =>
    ((sides.schema side).name ++ "." ++ field.column.name, ⟨side, field⟩)

/-- The output columns with their names. -/
def outputs (sides : Sides) : Projection -> Except Error (List (String × BoundColumn))
  | .all => .ok (sides.sideColumns .left ++ sides.sideColumns .right)
  | .only refs => refs.mapM fun ref => do
      let column <- sides.bindRef ref
      return (ref.display, column)

/-- A condition bound to a column of one of the two tables. -/
def filter (sides : Sides) (condition : Option Condition) :
    Except Error (Option (BoundColumn × Value)) :=
  match condition with
  | none => .ok none
  | some condition => do
      let column <- sides.bindRef condition.column
      return some (column, condition.value)

end Sides

structure Join where
  left : Table
  right : Table

namespace Join

def sides (join : Join) : Sides :=
  ⟨join.left.schema, join.right.schema⟩

/-!
# Pairing rows
-/

/-- The right rows whose key cell is a value, ascending. -/
def matching (join : Join) (rightKey : Field) (key : Value) : List Row :=
  match join.right.indexAt rightKey.position with
  | some ix => (ix.lookup key).filterMap join.right.row?
  | none => join.right.rows.filter fun row => row.cell rightKey.position == key

def pairsOf (join : Join) (leftKey rightKey : Field) (left : Row) : List (Row × Row) :=
  let key := left.cell leftKey.position
  if key.isNull then [] else (join.matching rightKey key).map fun right => (left, right)

def meets (filter : Option (BoundColumn × Value)) (pair : Row × Row) : Bool :=
  match filter with
  | none => true
  | some (column, value) => column.pick pair.1 pair.2 == value

def run (join : Join) (clause : JoinClause) (projection : Projection)
    (condition : Option Condition) : Except Error RowSet := do
  let (leftKey, rightKey) <- join.sides.keys clause
  let outputs <- join.sides.outputs projection
  let filter <- join.sides.filter condition
  let pairs := (join.left.rows.flatMap (join.pairsOf leftKey rightKey)).filter (meets filter)
  return {
    columns := outputs.map Prod.fst
    rows := pairs.map fun pair => outputs.map fun output => output.2.pick pair.1 pair.2 }

end Join
end Tabula
