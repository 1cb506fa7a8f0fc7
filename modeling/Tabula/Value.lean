import Tabula.Text.Decimal

/-!
# Cell values

A cell holds an integer, a text, a truth value or nothing.  A column admits the values of its own
type; NULL fits every column.
-/

namespace Tabula

inductive ColumnType where
  | int
  | text
  | bool
  deriving DecidableEq

namespace ColumnType

def display : ColumnType -> String
  | int => "INT"
  | text => "TEXT"
  | bool => "BOOL"

def all : List ColumnType :=
  [int, text, bool]

end ColumnType

inductive Value where
  | integer (n : Int64)
  | text (s : String)
  | boolean (b : Bool)
  | null
  deriving DecidableEq

namespace Value

instance : Inhabited Value := ⟨null⟩

def isNull : Value -> Bool
  | null => true
  | _ => false

theorem isNull_iff {v : Value} : v.isNull = true <-> v = null := by
  cases v <;> simp [isNull]

/-- The name of a value's kind in messages. -/
def kind : Value -> String
  | integer _ => "integer"
  | text _ => "text"
  | boolean _ => "boolean"
  | null => "null"

/-- The only column type that a value other than NULL fits. -/
def type? : Value -> Option ColumnType
  | integer _ => some .int
  | text _ => some .text
  | boolean _ => some .bool
  | null => none

def fits (v : Value) (type : ColumnType) : Bool :=
  match v.type? with
  | none => true
  | some own => own == type

@[simp] theorem fits_null (type : ColumnType) : null.fits type = true := rfl

theorem fits_iff {v : Value} {type : ColumnType} :
    v.fits type = true <-> v = null ∨ v.type? = some type := by
  cases v <;> simp [fits, type?]

def display : Value -> String
  | integer n => String.ofList (Text.decimal n.toInt)
  | text s => s
  | boolean true => "true"
  | boolean false => "false"
  | null => "NULL"

end Value
end Tabula
