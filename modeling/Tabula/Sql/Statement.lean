import Tabula.Column
import Tabula.Sql.ColumnRef

/-!
# Statements

The statements of the language, as trees.
-/

namespace Tabula
namespace Sql

/-- The columns that a query answers: all of them or the named ones. -/
inductive Projection where
  | all
  | only (refs : List ColumnRef)
  deriving DecidableEq

/-- A second table and the two columns that must hold the same value. -/
structure JoinClause where
  table : String
  left : ColumnRef
  right : ColumnRef
  deriving DecidableEq

/-- A column that must hold a value. -/
structure Condition where
  column : ColumnRef
  value : Value
  deriving DecidableEq

inductive Statement where
  | createTable (table : String) (columns : List Column)
  | insert (table : String) (columns : List String) (values : List Value)
  | select (projection : Projection) (table : String) (join : Option JoinClause)
      (condition : Option Condition)
  | update (table : String) (assignments : List (String × Value)) (condition : Option Condition)
  | delete (table : String) (condition : Option Condition)
  | showTables
  | describe (table : String)
  deriving DecidableEq

namespace Statement

/-- The statements that change a table or the set of tables. -/
def isMutation : Statement -> Bool
  | createTable _ _ | insert _ _ _ | update _ _ _ | delete _ _ => true
  | select _ _ _ _ | showTables | describe _ => false

end Statement
end Sql
end Tabula
