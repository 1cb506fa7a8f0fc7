import Tabula.Text.Decimal

/-!
# JSON values

A JSON value as a tree.  An object keeps its members in the order of the text, repeated names
included.

## Strings

The escapes of a JSON string can spell half of a surrogate pair.  Such a string is no text; the tree
holds `none` in its place.

## Numbers

A number written without fraction and exponent is an integer, except a zero with a minus sign.  Every
other number is kept as it is written.
-/

namespace Tabula

inductive Json where
  | null
  | boolean (b : Bool)
  | integer (n : Int)
  | decimal (written : List Char)
  | string (s : Option String)
  | array (items : List Json)
  | object (members : List (Option String × Json))

namespace Json

/-!
# Building
-/

def text (s : String) : Json :=
  string (some s)

def natural (n : Nat) : Json :=
  integer n

/-- An object with the given members. -/
def record (members : List (String × Json)) : Json :=
  object (members.map fun (name, j) => (some name, j))

/-!
# Taking apart
-/

def text? : Json -> Option String
  | string s => s
  | _ => none

def boolean? : Json -> Option Bool
  | boolean b => some b
  | _ => none

/-- An integer of 64 bits with a sign. -/
def word? : Json -> Option Int64
  | integer n => Text.toWord n
  | _ => none

/-- An integer of 64 bits without a sign. -/
def natural? : Json -> Option Nat
  | integer n => if 0 <= n ∧ n.toNat < UInt64.size then some n.toNat else none
  | _ => none

def array? : Json -> Option (List Json)
  | array items => some items
  | _ => none

/-- The members of an object all of whose names are texts. -/
def members? : Json -> Option (List (String × Json))
  | object members => members.mapM fun (name, j) => name.map fun name => (name, j)
  | _ => none

/-- `null` as nothing, and everything else as `read` has it. -/
def nullable? {α : Type} (read : Json -> Option α) : Json -> Option (Option α)
  | null => some none
  | j => (read j).map some

/-- One of several names, written as a string or as an object that maps the name to `null`. -/
def choice? {α : Type} (choices : List (String × α)) : Json -> Option α
  | string (some name) => choices.lookup name
  | object [(some name, null)] => choices.lookup name
  | _ => none

/-- The fields of a record with the given names, in their order.  The record is an object, where no
field may be given twice and other members are passed over unless `closed`, or an array that gives
the first fields by position. -/
def fields? (names : List String) (closed : Bool) : Json -> Option (List (Option Json))
  | array items =>
      if items.length <= names.length then
        some (items.map some ++ List.replicate (names.length - items.length) none)
      else
        none
  | j => do
      let members <- j.members?
      let given := members.map Prod.fst
      if names.any (fun name => 1 < given.count name) then
        none
      else if closed && given.any (fun name => !names.contains name) then
        none
      else
        some (names.map fun name => members.lookup name)

end Json
end Tabula
