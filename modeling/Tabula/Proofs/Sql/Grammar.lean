import Tabula.Sql.Statement
import Tabula.Sql.Token

/-!
# The grammar of statements

Each production of the grammar has a type, the values of which are its derivations.  A derivation
derives the kinds of tokens from left to right and stands for a tree.

```
statement    := create_table | insert | select | update | delete | show_tables | describe
create_table := CREATE TABLE ident '(' column_def (',' column_def)* ')'
column_def   := ident type constraint*
type         := INT | TEXT | BOOL
constraint   := PRIMARY KEY | UNIQUE
insert       := INSERT INTO ident '(' ident (',' ident)* ')' VALUES '(' value (',' value)* ')'
select       := SELECT (col_ref (',' col_ref)* | '*') FROM ident join? where?
join         := INNER JOIN ident ON col_ref '=' col_ref
where        := WHERE col_ref '=' value
update       := UPDATE ident SET assignment (',' assignment)* where?
assignment   := ident '=' value
delete       := DELETE FROM ident where?
show_tables  := SHOW TABLES
describe     := DESCRIBE ident
col_ref      := ident ('.' ident)?
```

Several derivations may stand for one tree: a reserved word used as a name stands for the name that is
spelled like it in lowercase, and a constraint that is given again adds nothing.
-/

namespace Tabula
namespace Sql
namespace Grammar

/-!
# Single tokens
-/

/-- A name, or a reserved word as a name. -/
inductive Ident where
  | name (s : String)
  | keyword (k : Keyword)
  | boolean (b : Bool)
  deriving DecidableEq

namespace Ident

def kind : Ident -> TokenKind
  | name s => .name s
  | keyword k => .keyword k
  | boolean b => .boolean b

def spelling : Ident -> String
  | name s => s
  | keyword k => k.word
  | boolean true => "true"
  | boolean false => "false"

end Ident

inductive Literal where
  | number (n : Int64)
  | text (s : String)
  | boolean (b : Bool)
  | null
  deriving DecidableEq

namespace Literal

def kind : Literal -> TokenKind
  | number n => .number n
  | text s => .text s
  | boolean b => .boolean b
  | null => .keyword .NULL

def value : Literal -> Value
  | number n => .integer n
  | text s => .text s
  | boolean b => .boolean b
  | null => .null

end Literal

def typeKind : ColumnType -> TokenKind
  | .int => .keyword .INT
  | .text => .keyword .TEXT
  | .bool => .keyword .BOOL

/-!
# Lists
-/

/-- One or more items with commas between them. -/
structure Separated (α : Type) where
  first : α
  rest : List α
  deriving DecidableEq

namespace Separated

variable {α β : Type}

def kinds (item : α -> List TokenKind) (list : Separated α) : List TokenKind :=
  item list.first ++ list.rest.flatMap fun a => .symbol .comma :: item a

def values (value : α -> β) (list : Separated α) : List β :=
  value list.first :: list.rest.map value

theorem kinds_cons (item : α -> List TokenKind) (first second : α) (rest : List α) :
    kinds item ⟨first, second :: rest⟩ =
      item first ++ .symbol .comma :: kinds item ⟨second, rest⟩ := by
  simp only [kinds, List.flatMap_cons, List.cons_append]

theorem kinds_singleton (item : α -> List TokenKind) (last : α) :
    kinds item ⟨last, []⟩ = item last :=
  List.append_nil _

def parenthesized (item : α -> List TokenKind) (list : Separated α) : List TokenKind :=
  .symbol .leftParen :: (list.kinds item ++ [.symbol .rightParen])

end Separated

/-!
# Parts of statements
-/

def constraintKinds : Constraint -> List TokenKind
  | .primaryKey => [.keyword .PRIMARY, .keyword .KEY]
  | .unique => [.keyword .UNIQUE]

structure ColumnDef where
  name : Ident
  type : ColumnType
  constraints : List Constraint
  deriving DecidableEq

namespace ColumnDef

def kinds (d : ColumnDef) : List TokenKind :=
  d.name.kind :: typeKind d.type :: d.constraints.flatMap constraintKinds

/-- The column has each constraint once, in the order of their first occurrences. -/
def column (d : ColumnDef) : Column where
  name := d.name.spelling
  type := d.type
  constraints := d.constraints.eraseDups

end ColumnDef

structure ColRef where
  first : Ident
  second : Option Ident
  deriving DecidableEq

namespace ColRef

def kinds (ref : ColRef) : List TokenKind :=
  ref.first.kind ::
    match ref.second with
    | some column => [.symbol .dot, column.kind]
    | none => []

def tree (ref : ColRef) : ColumnRef :=
  match ref.second with
  | some column => { table := some ref.first.spelling, column := column.spelling }
  | none => { column := ref.first.spelling }

end ColRef

structure Where where
  column : ColRef
  value : Literal
  deriving DecidableEq

namespace Where

def kinds (clause : Where) : List TokenKind :=
  .keyword .WHERE :: (clause.column.kinds ++ [.symbol .equal, clause.value.kind])

def tree (clause : Where) : Condition where
  column := clause.column.tree
  value := clause.value.value

end Where

structure Join where
  table : Ident
  left : ColRef
  right : ColRef
  deriving DecidableEq

namespace Join

def kinds (clause : Join) : List TokenKind :=
  .keyword .INNER :: .keyword .JOIN :: clause.table.kind :: .keyword .ON ::
    (clause.left.kinds ++ .symbol .equal :: clause.right.kinds)

def tree (clause : Join) : JoinClause where
  table := clause.table.spelling
  left := clause.left.tree
  right := clause.right.tree

end Join

/-- A part that may be left out. -/
def optional {α : Type} (kinds : α -> List TokenKind) (part : Option α) : List TokenKind :=
  part.elim [] kinds

inductive Columns where
  | all
  | only (refs : Separated ColRef)
  deriving DecidableEq

namespace Columns

def kinds : Columns -> List TokenKind
  | all => [.symbol .star]
  | only refs => refs.kinds ColRef.kinds

def tree : Columns -> Projection
  | all => .all
  | only refs => .only (refs.values ColRef.tree)

end Columns

structure Assignment where
  column : Ident
  value : Literal
  deriving DecidableEq

namespace Assignment

def kinds (a : Assignment) : List TokenKind :=
  [a.column.kind, .symbol .equal, a.value.kind]

def pair (a : Assignment) : String × Value :=
  (a.column.spelling, a.value.value)

end Assignment

/-!
# Statements
-/

inductive Derivation where
  | createTable (table : Ident) (columns : Separated ColumnDef)
  | insert (table : Ident) (columns : Separated Ident) (values : Separated Literal)
  | select (columns : Columns) (table : Ident) (join : Option Join) (condition : Option Where)
  | update (table : Ident) (assignments : Separated Assignment) (condition : Option Where)
  | delete (table : Ident) (condition : Option Where)
  | showTables
  | describe (table : Ident)
  deriving DecidableEq

namespace Derivation

def kinds : Derivation -> List TokenKind
  | createTable table columns =>
      .keyword .CREATE :: .keyword .TABLE :: table.kind :: columns.parenthesized ColumnDef.kinds
  | insert table columns values =>
      .keyword .INSERT :: .keyword .INTO :: table.kind ::
        (columns.parenthesized (fun column => [column.kind]) ++
          .keyword .VALUES :: values.parenthesized fun v => [v.kind])
  | select columns table join condition =>
      .keyword .SELECT ::
        (columns.kinds ++ .keyword .FROM :: table.kind ::
          (optional Join.kinds join ++ optional Where.kinds condition))
  | update table assignments condition =>
      .keyword .UPDATE :: table.kind :: .keyword .SET ::
        (assignments.kinds Assignment.kinds ++ optional Where.kinds condition)
  | delete table condition =>
      .keyword .DELETE :: .keyword .FROM :: table.kind :: optional Where.kinds condition
  | showTables => [.keyword .SHOW, .keyword .TABLES]
  | describe table => [.keyword .DESCRIBE, table.kind]

def statement : Derivation -> Statement
  | createTable table columns => .createTable table.spelling (columns.values ColumnDef.column)
  | insert table columns values =>
      .insert table.spelling (columns.values Ident.spelling) (values.values Literal.value)
  | select columns table join condition =>
      .select columns.tree table.spelling (join.map Join.tree) (condition.map Where.tree)
  | update table assignments condition =>
      .update table.spelling (assignments.values Assignment.pair) (condition.map Where.tree)
  | delete table condition => .delete table.spelling (condition.map Where.tree)
  | showTables => .showTables
  | describe table => .describe table.spelling

/-- The keyword that announces a statement. -/
def keyword : Derivation -> Keyword
  | createTable _ _ => .CREATE
  | insert _ _ _ => .INSERT
  | select _ _ _ _ => .SELECT
  | update _ _ _ => .UPDATE
  | delete _ _ => .DELETE
  | showTables => .SHOW
  | describe _ => .DESCRIBE

theorem exists_kinds_eq (d : Derivation) : exists rest, d.kinds = .keyword d.keyword :: rest := by
  cases d <;> exact ⟨_, rfl⟩

/-- The derivation derives the kinds of a text's tokens, less a semicolon at the end. -/
def Derives (d : Derivation) (kinds : List TokenKind) : Prop :=
  kinds = d.kinds ∨ kinds = d.kinds ++ [.symbol .semicolon]

end Derivation
end Grammar
end Sql
end Tabula
