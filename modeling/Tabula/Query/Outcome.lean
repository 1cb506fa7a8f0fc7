import Tabula.Keyed
import Tabula.Table.Basic

/-!
# Outcomes of statements

A query answers rows; every other statement answers what it did.
-/

namespace Tabula

inductive Outcome where
  | rows (set : RowSet)
  | created (table : String)
  | inserted (table : String)
  | updated (count : Nat) (table : String)
  | deleted (count : Nat) (table : String)
  deriving DecidableEq

namespace Outcome

def countRows (n : Nat) : String :=
  if n = 1 then "1 row" else s!"{n} rows"

def message? : Outcome -> Option String
  | rows _ => none
  | created table => some s!"Table '{table}' created"
  | inserted table => some s!"Inserted 1 row into {table}"
  | updated count table => some s!"Updated {countRows count} in {table}"
  | deleted count table => some s!"Deleted {countRows count} from {table}"

/-- The number of rows that a statement changed. -/
def affectedRows : Outcome -> Nat
  | rows _ | created _ => 0
  | inserted _ => 1
  | updated count _ | deleted count _ => count

/-- The number of rows that a statement answers or changed. -/
def rowCount : Outcome -> Nat
  | rows set => set.rows.length
  | outcome => outcome.affectedRows

end Outcome

namespace RowSet

/-- Each row as its column names with their cells; of equal names the last counts. -/
def toMaps (set : RowSet) : List (List (String × Value)) :=
  set.rows.map fun row => Keyed.ofList (set.columns.zip row)

end RowSet
end Tabula
