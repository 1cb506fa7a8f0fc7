import Mathlib.Data.PFun
import Tabula.Sql.Statement.Read

/-!
# Statements under a cursor

The statements of tokens once more, read by a cursor that moves over a list of tokens.  The cursor looks
at the token of its place and steps on behind a token that fits; it does not ask whether there is a
next place, but stays where it is at the last token.

## What may go wrong

A look at a place that holds no token is a fault of its own.  A list of items is read by a loop that
goes on behind every comma, constraints by one that goes on behind every constraint.  Nothing counts
the rounds of a loop, so what a cursor comes to is a partial value: a loop that does not come to an end
has no result at all.
-/

namespace Tabula
namespace Sql

/-- Why a cursor stops before it has read a statement. -/
inductive Stop where
  | malformed (error : SyntaxError)
  /-- The place holds no token. -/
  | outside (place : Nat)
  deriving DecidableEq

/-- What a cursor does on a list of tokens, from one place to another. -/
abbrev Cursor (α : Type) :=
  ReaderT (List Token) (StateT Nat (ExceptT Stop Part)) α

namespace Cursor

/-- What a cursor comes to from a place on, and the place where it stands then. -/
def outcome {α : Type} (cursor : Cursor α) (tokens : List Token) (place : Nat) :
    Part (Except Stop (α × Nat)) :=
  ((cursor.run tokens).run place).run

/-!
# Single tokens
-/

def current : Cursor Token := do
  let place <- get
  match (<- read)[place]? with
  | some token => return token
  | none => throw (.outside place)

/-- Step on, but not off the last token. -/
def advance : Cursor Unit := do
  let tokens <- read
  modify fun place => if place + 1 < tokens.length then place + 1 else place

/-- Stop at the current token. -/
def refuse {α : Type} (expected : Expectation) : Cursor α := do
  let token <- current
  throw (.malformed ⟨.unexpectedToken expected token.kind, token.position⟩)

/-- Step over the current token if it is of this kind, and tell whether it was. -/
def accept (kind : TokenKind) : Cursor Bool := do
  if (<- current).kind = kind then
    advance
    return true
  else
    return false

def expect (kind : TokenKind) : Cursor Unit := do
  unless <- accept kind do
    refuse (.exactly kind)

/-- Step over a token that has a meaning. -/
def take {α : Type} (expected : Expectation) (meaning : TokenKind -> Option α) : Cursor α := do
  match meaning (<- current).kind with
  | some a =>
      advance
      return a
  | none => refuse expected

def nameOf? : TokenKind -> Option String
  | .name s => some s
  | kind => kind.word?

def valueOf? : TokenKind -> Option Value
  | .number n => some (.integer n)
  | .text s => some (.text s)
  | .boolean b => some (.boolean b)
  | .keyword .NULL => some .null
  | _ => none

def typeOf? : TokenKind -> Option ColumnType
  | .keyword .INT => some .int
  | .keyword .TEXT => some .text
  | .keyword .BOOL => some .bool
  | _ => none

def name : Cursor String :=
  take .name nameOf?

def literal : Cursor Value :=
  take .literal valueOf?

def columnType : Cursor ColumnType :=
  take .columnType typeOf?

/-!
# Loops
-/

/-- How a loop goes on when a round has come to this: it ends with a result or where the round stops,
or another round begins at another place. -/
def proceed {α β : Type} :
    Except Stop ((β ⊕ α) × Nat) -> Except Stop (β × Nat) ⊕ (α × Nat)
  | .ok (.inl b, place) => .inl (.ok (b, place))
  | .ok (.inr a, place) => .inr (a, place)
  | .error stop => .inl (.error stop)

/-- Rounds, one after the other, until one of them ends the loop. -/
def loop {α β : Type} (start : α) (round : α -> Cursor (β ⊕ α)) : Cursor β :=
  fun tokens place =>
    PFun.fix (fun (a, place) => ((round a).outcome tokens place).map proceed) (start, place)

/-- One more item behind a comma, or the end of a list. -/
def more {α : Type} (item : Cursor α) (items : List α) : Cursor (List α ⊕ List α) := do
  if <- accept (.symbol .comma) then
    return .inr (items ++ [<- item])
  else
    return .inl items

/-- One or more items with commas between them; the loop goes on behind every comma. -/
def commaList {α : Type} (item : Cursor α) : Cursor (List α) := do
  let first <- item
  loop [first] (more item)

/-- The constraints behind a column's type, each declared on the column; the loop goes on behind every
constraint. -/
def constraints (column : Column) : Cursor Column :=
  loop column fun column => do
    if <- accept (.keyword .PRIMARY) then
      expect (.keyword .KEY)
      return .inr (column.declare .primaryKey)
    else if <- accept (.keyword .UNIQUE) then
      return .inr (column.declare .unique)
    else
      return .inl column

def parenthesized {α : Type} (item : Cursor α) : Cursor (List α) := do
  expect (.symbol .leftParen)
  let items <- commaList item
  expect (.symbol .rightParen)
  return items

/-!
# Parts of statements
-/

def columnDefinition : Cursor Column := do
  let name <- name
  let type <- columnType
  constraints { name, type }

def columnRef : Cursor ColumnRef := do
  let first <- name
  if <- accept (.symbol .dot) then
    return { table := some first, column := <- name }
  else
    return { column := first }

def assignment : Cursor (String × Value) := do
  let column <- name
  expect (.symbol .equal)
  return (column, <- literal)

def condition : Cursor (Option Condition) := do
  if <- accept (.keyword .WHERE) then
    let column <- columnRef
    expect (.symbol .equal)
    return some { column, value := <- literal }
  else
    return none

def joinClause : Cursor (Option JoinClause) := do
  if <- accept (.keyword .INNER) then
    expect (.keyword .JOIN)
    let table <- name
    expect (.keyword .ON)
    let left <- columnRef
    expect (.symbol .equal)
    return some { table, left, right := <- columnRef }
  else
    return none

def projection : Cursor Projection := do
  if <- accept (.symbol .star) then
    return .all
  else
    return .only (<- commaList columnRef)

/-!
# Statements
-/

def createTable : Cursor Statement := do
  expect (.keyword .CREATE)
  expect (.keyword .TABLE)
  let table <- name
  return .createTable table (<- parenthesized columnDefinition)

def insert : Cursor Statement := do
  expect (.keyword .INSERT)
  expect (.keyword .INTO)
  let table <- name
  let columns <- parenthesized name
  expect (.keyword .VALUES)
  return .insert table columns (<- parenthesized literal)

def select : Cursor Statement := do
  expect (.keyword .SELECT)
  let columns <- projection
  expect (.keyword .FROM)
  let table <- name
  let join <- joinClause
  return .select columns table join (<- condition)

def update : Cursor Statement := do
  expect (.keyword .UPDATE)
  let table <- name
  expect (.keyword .SET)
  let assignments <- commaList assignment
  return .update table assignments (<- condition)

def delete : Cursor Statement := do
  expect (.keyword .DELETE)
  expect (.keyword .FROM)
  let table <- name
  return .delete table (<- condition)

def showTables : Cursor Statement := do
  expect (.keyword .SHOW)
  expect (.keyword .TABLES)
  return .showTables

def describe : Cursor Statement := do
  expect (.keyword .DESCRIBE)
  return .describe (<- name)

/-- The statement that the first keyword announces. -/
def statement : Cursor Statement := do
  match (<- current).kind with
  | .keyword .CREATE => createTable
  | .keyword .INSERT => insert
  | .keyword .SELECT => select
  | .keyword .UPDATE => update
  | .keyword .DELETE => delete
  | .keyword .SHOW => showTables
  | .keyword .DESCRIBE => describe
  | _ => refuse .statement

/-- One statement, perhaps a semicolon, and the end. -/
def complete : Cursor Statement := do
  let result <- statement
  let _ <- accept (.symbol .semicolon)
  if (<- current).kind = .endOfInput then
    return result
  else
    refuse .endOfStatement

end Cursor

/-- The tokens with an end mark behind them, unless the last of them is one. -/
def ended (tokens : List Token) : List Token :=
  if tokens.getLast?.map Token.kind = some .endOfInput then
    tokens
  else
    tokens ++ [⟨.endOfInput, endPosition tokens⟩]

/-- The statement that a cursor reads from the first token on, if it comes to an end. -/
def Statement.walk (tokens : List Token) : Part (Except Stop Statement) :=
  (Cursor.complete.outcome (ended tokens) 0).map fun result => result.map Prod.fst

end Sql
end Tabula
