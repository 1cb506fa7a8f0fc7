import Tabula.Table.Basic

/-!
# Checks before a change

A row that is to be stored is held against the constraints.  Whether another row holds a value is
read from the indexes.
-/

namespace Tabula
namespace Table

/-!
# Constraints
-/

def checkCell (table : Table) (own : Option Nat) (column : Column) (v : Value) :
    Option Index -> Except Error Unit
  | none => .ok ()
  | some ix =>
      if v.isNull then
        if column.isPrimaryKey then .error (.nullPrimaryKey column.name) else .ok ()
      else if ix.heldByOther v own then
        .error (.valueTaken column.isPrimaryKey table.name column.name v)
      else
        .ok ()

/-- The constraints on a row to be stored; `own` is the id under which it is stored already. -/
def checkConstraints (table : Table) (cells : List Value) (own : Option Nat) : Except Error Unit :=
  (table.schema.columns.zip (cells.zip table.indexes)).forM fun (column, v, ix) =>
    table.checkCell own column v ix

/-- The claims of an update on values that no two rows may share, after one more row is assigned. -/
def claim (table : Table) (claimed bound : List (Field × Value)) :
    Except Error (List (Field × Value)) :=
  bound.foldlM
    (fun claimed (field, v) =>
      if v.isNull || (table.indexAt field.position).isNone then
        .ok claimed
      else if claimed.contains (field, v) then
        .error (.valueAssignedTwice table.name field.column.name v)
      else
        .ok ((field, v) :: claimed))
    claimed

/-- The rows of an update as they will be, or the first constraint that one of them breaks. -/
def plan (table : Table) (bound claimed : List (Field × Value)) :
    List Row -> Except Error (List Row)
  | [] => .ok []
  | row :: rest => do
      let cells := Schema.assign row.cells bound
      table.checkConstraints cells (some row.id)
      let claimed <- table.claim claimed bound
      let planned <- table.plan bound claimed rest
      return ⟨row.id, cells⟩ :: planned

end Table
end Tabula
