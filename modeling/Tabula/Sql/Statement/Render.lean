import Tabula.Sql.Statement.Read

/-!
# Text of statements

A statement is spelled lexeme by lexeme, keywords in capitals and names as they are.  One space parts
two lexemes; a layout may leave it out next to a symbol.

## Printable statements

Not every tree has a spelling: names must be words, a reserved word is a name in lowercase only,
lists have at least one item, and no column names a constraint twice.
-/

namespace Tabula
namespace Sql

/-!
# Single lexemes
-/

namespace Lexeme

def keyword (k : Keyword) : Lexeme :=
  ⟨.keyword k, k.word.toList.map Char.toUpper⟩

def symbol (s : Symbol) : Lexeme :=
  ⟨.symbol s, s.spelling.toList⟩

/-- A word as a name; what kind of token it is depends on whether it is reserved. -/
def name (s : String) : Lexeme :=
  ⟨TokenKind.ofWord s.toList, s.toList⟩

def literal : Value -> Lexeme
  | .integer n => ⟨.number n, Text.decimal n.toInt⟩
  | .text s => ⟨.text s, Text.Quoted.quote :: Text.Quoted.encode s.toList ++ [Text.Quoted.quote]⟩
  | .boolean true => ⟨.boolean true, "TRUE".toList⟩
  | .boolean false => ⟨.boolean false, "FALSE".toList⟩
  | .null => keyword .NULL

def columnType : ColumnType -> Lexeme
  | .int => keyword .INT
  | .text => keyword .TEXT
  | .bool => keyword .BOOL

def isSymbol (lexeme : Lexeme) : Bool :=
  match lexeme.kind with
  | .symbol _ => true
  | _ => false

end Lexeme

/-!
# Texts
-/

/-- Where two lexemes, one of them a symbol, have no space between them. -/
abbrev Layout :=
  Lexeme -> Lexeme -> Bool

def gap (layout : Layout) (first second : Lexeme) : List Char :=
  if (first.isSymbol || second.isSymbol) && layout first second then [] else [' ']

def spellAll (layout : Layout) : List Lexeme -> List Char
  | [] => []
  | [last] => last.text
  | first :: second :: rest =>
      first.text ++ gap layout first second ++ spellAll layout (second :: rest)

/-!
# Lexemes of statements
-/

namespace Lexemes

def constraint : Constraint -> List Lexeme
  | .primaryKey => [.keyword .PRIMARY, .keyword .KEY]
  | .unique => [.keyword .UNIQUE]

def columnDefinition (column : Column) : List Lexeme :=
  .name column.name :: .columnType column.type :: column.constraints.flatMap constraint

def columnRef (ref : ColumnRef) : List Lexeme :=
  match ref.table with
  | some table => [.name table, .symbol .dot, .name ref.column]
  | none => [.name ref.column]

def assignment (pair : String × Value) : List Lexeme :=
  [.name pair.1, .symbol .equal, .literal pair.2]

def commaList {α : Type} (item : α -> List Lexeme) : List α -> List Lexeme
  | [] => []
  | [last] => item last
  | first :: second :: rest => item first ++ .symbol .comma :: commaList item (second :: rest)

def parenthesized {α : Type} (item : α -> List Lexeme) (items : List α) : List Lexeme :=
  .symbol .leftParen :: (commaList item items ++ [.symbol .rightParen])

def condition : Option Condition -> List Lexeme
  | some c => .keyword .WHERE :: (columnRef c.column ++ [.symbol .equal, .literal c.value])
  | none => []

def joinClause : Option JoinClause -> List Lexeme
  | some join =>
      .keyword .INNER :: .keyword .JOIN :: .name join.table :: .keyword .ON ::
        (columnRef join.left ++ .symbol .equal :: columnRef join.right)
  | none => []

def projection : Projection -> List Lexeme
  | .all => [.symbol .star]
  | .only refs => commaList columnRef refs

end Lexemes

open Lexemes in
/-- The lexemes of a statement without a semicolon. -/
def Statement.lexemes : Statement -> List Lexeme
  | .createTable table columns =>
      .keyword .CREATE :: .keyword .TABLE :: .name table :: parenthesized columnDefinition columns
  | .insert table columns values =>
      .keyword .INSERT :: .keyword .INTO :: .name table ::
        (parenthesized (fun column => [.name column]) columns ++
          .keyword .VALUES :: parenthesized (fun v => [.literal v]) values)
  | .select columns table join c =>
      .keyword .SELECT ::
        (projection columns ++ .keyword .FROM :: .name table :: (joinClause join ++ condition c))
  | .update table assignments c =>
      .keyword .UPDATE :: .name table :: .keyword .SET ::
        (commaList assignment assignments ++ condition c)
  | .delete table c => .keyword .DELETE :: .keyword .FROM :: .name table :: condition c
  | .showTables => [.keyword .SHOW, .keyword .TABLES]
  | .describe table => [.keyword .DESCRIBE, .name table]

/-- The lexemes of a statement, with a semicolon if asked for. -/
def Statement.ended (statement : Statement) (semicolon : Bool) : List Lexeme :=
  statement.lexemes ++ if semicolon then [.symbol .semicolon] else []

def Statement.render (statement : Statement) (layout : Layout) (semicolon : Bool) : String :=
  String.ofList (spellAll layout (statement.ended semicolon))

/-!
# Printable statements
-/

/-- A word of ASCII letters, digits and underscores that is no reserved word in another case. -/
structure PrintableName (s : String) : Prop where
  word : exists c rest, s.toList = c :: rest ∧ isWordStart c = true ∧
    forall d, d ∈ rest -> isWordPart d = true
  lower : forall kind, TokenKind.ofWord? s = some kind -> kind.word? = some s

structure ColumnRef.Printable (ref : ColumnRef) : Prop where
  table : forall table, ref.table = some table -> PrintableName table
  column : PrintableName ref.column

structure JoinClause.Printable (clause : JoinClause) : Prop where
  table : PrintableName clause.table
  left : clause.left.Printable
  right : clause.right.Printable

structure PrintableColumn (column : Column) : Prop where
  name : PrintableName column.name
  constraints_nodup : column.constraints.Nodup

/-- A list with an item, all items of which have a property. -/
structure NonEmptyOf {α : Type} (property : α -> Prop) (items : List α) : Prop where
  ne_nil : items ≠ []
  all : forall a, a ∈ items -> property a

def PrintableCondition (condition : Option Condition) : Prop :=
  forall c, condition = some c -> c.column.Printable

def Projection.Printable : Projection -> Prop
  | .all => True
  | .only refs => NonEmptyOf ColumnRef.Printable refs

def Statement.Printable : Statement -> Prop
  | .createTable table columns => PrintableName table ∧ NonEmptyOf PrintableColumn columns
  | .insert table columns values =>
      PrintableName table ∧ NonEmptyOf PrintableName columns ∧ values ≠ []
  | .select columns table join c =>
      columns.Printable ∧ PrintableName table ∧
        (forall clause, join = some clause -> clause.Printable) ∧ PrintableCondition c
  | .update table assignments c =>
      PrintableName table ∧ NonEmptyOf (fun pair => PrintableName pair.1) assignments ∧
        PrintableCondition c
  | .delete table c => PrintableName table ∧ PrintableCondition c
  | .showTables => True
  | .describe table => PrintableName table

end Sql
end Tabula
