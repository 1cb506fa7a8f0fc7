import Tabula.Error
import Tabula.Sql.Statement
import Tabula.Sql.Token.Scan

/-!
# Statements of tokens

A reader takes tokens off the front of a list, or refuses and says what it was looking for and which
tokens it had in front of it.  One token of lookahead decides everything.

## The end

A list that holds no end mark ends at the place of its last token.  An end mark is never taken off,
so nothing behind the first one is looked at.
-/

namespace Tabula
namespace Sql

/-- What a reader was looking for and the tokens it did not read. -/
structure Refusal where
  expected : Expectation
  rest : List Token

abbrev Reader (α : Type) :=
  StateT (List Token) (Except Refusal) α

namespace Reader

/-!
# Single tokens
-/

def refuse {α : Type} (expected : Expectation) : Reader α := fun tokens =>
  .error ⟨expected, tokens⟩

/-- Take the next token if it is of this kind, and tell whether it was. -/
def accept (kind : TokenKind) : Reader Bool := fun tokens =>
  match tokens with
  | token :: rest => if token.kind = kind then .ok (true, rest) else .ok (false, tokens)
  | [] => .ok (false, [])

def expect (kind : TokenKind) : Reader Unit := do
  unless <- accept kind do
    refuse (.exactly kind)

/-- A name, or a reserved word used as a name. -/
def name : Reader String := fun tokens =>
  match tokens with
  | ⟨.name s, _⟩ :: rest => .ok (s, rest)
  | ⟨.keyword k, _⟩ :: rest => .ok (k.word, rest)
  | ⟨.boolean true, _⟩ :: rest => .ok ("true", rest)
  | ⟨.boolean false, _⟩ :: rest => .ok ("false", rest)
  | _ => refuse .name tokens

def literal : Reader Value := fun tokens =>
  match tokens with
  | ⟨.number n, _⟩ :: rest => .ok (.integer n, rest)
  | ⟨.text s, _⟩ :: rest => .ok (.text s, rest)
  | ⟨.boolean b, _⟩ :: rest => .ok (.boolean b, rest)
  | ⟨.keyword .NULL, _⟩ :: rest => .ok (.null, rest)
  | _ => refuse .literal tokens

def columnType : Reader ColumnType := fun tokens =>
  match tokens with
  | ⟨.keyword .INT, _⟩ :: rest => .ok (.int, rest)
  | ⟨.keyword .TEXT, _⟩ :: rest => .ok (.text, rest)
  | ⟨.keyword .BOOL, _⟩ :: rest => .ok (.bool, rest)
  | _ => refuse .columnType tokens

/-!
# Progress

What a reader leaves is never longer than what it was given, and shorter where it reads a part of a
list.
-/

def Keeps {α : Type} (reader : Reader α) : Prop :=
  forall tokens a rest, reader tokens = .ok (a, rest) -> rest.length <= tokens.length

def Shrinks {α : Type} (reader : Reader α) : Prop :=
  forall tokens a rest, reader tokens = .ok (a, rest) -> rest.length < tokens.length

theorem Shrinks.keeps {α : Type} {reader : Reader α} (h : Shrinks reader) : Keeps reader :=
  fun tokens a rest read => Nat.le_of_lt (h tokens a rest read)

theorem keeps_pure {α : Type} (a : α) : Keeps (pure a : Reader α) := by
  intro tokens b rest read
  cases read
  exact Nat.le_refl _

theorem keeps_refuse {α : Type} (expected : Expectation) : Keeps (refuse expected : Reader α) := by
  intro tokens a rest read
  cases read

theorem bind_eq_ok {α β : Type} {first : Reader α} {next : α -> Reader β} {tokens rest : List Token}
    {b : β} (read : (first >>= next) tokens = .ok (b, rest)) :
    exists a middle, first tokens = .ok (a, middle) ∧ next a middle = .ok (b, rest) := by
  simp only [bind, StateT.bind, Except.bind] at read
  split at read
  · cases read
  · next result found => exact ⟨result.1, result.2, found, read⟩

theorem keeps_bind {α β : Type} {first : Reader α} {next : α -> Reader β} (h : Keeps first)
    (k : forall a, Keeps (next a)) : Keeps (first >>= next) := by
  intro tokens b rest read
  obtain ⟨a, middle, head, tail⟩ := bind_eq_ok read
  exact Nat.le_trans (k a _ _ _ tail) (h _ _ _ head)

theorem shrinks_bind {α β : Type} {first : Reader α} {next : α -> Reader β} (h : Shrinks first)
    (k : forall a, Keeps (next a)) : Shrinks (first >>= next) := by
  intro tokens b rest read
  obtain ⟨a, middle, head, tail⟩ := bind_eq_ok read
  exact Nat.lt_of_le_of_lt (k a _ _ _ tail) (h _ _ _ head)

theorem keeps_accept (kind : TokenKind) : Keeps (accept kind) := by
  intro tokens a rest read
  unfold accept at read
  split at read
  · split at read <;> cases read
    · exact Nat.le_succ _
    · exact Nat.le_refl _
  · cases read
    exact Nat.le_refl _

theorem keeps_expect (kind : TokenKind) : Keeps (expect kind) := by
  refine keeps_bind (keeps_accept kind) fun found => ?_
  cases found
  · exact keeps_refuse _
  · exact keeps_pure _

theorem shrinks_name : Shrinks name := by
  intro tokens a rest read
  unfold name at read
  split at read <;> cases read <;> exact Nat.lt_succ_self _

theorem shrinks_literal : Shrinks literal := by
  intro tokens a rest read
  unfold literal at read
  split at read <;> cases read <;> exact Nat.lt_succ_self _

theorem keeps_columnType : Keeps columnType := by
  intro tokens a rest read
  unfold columnType at read
  split at read <;> cases read <;> exact Nat.le_succ _

/-!
# Lists
-/

/-- One or more items with commas between them. -/
def commaList {α : Type} (item : Reader α) (shrinks : Shrinks item) (tokens : List Token) :
    Except Refusal (List α × List Token) :=
  match _ : item tokens with
  | .error refusal => .error refusal
  | .ok (a, ⟨.symbol .comma, _⟩ :: rest) =>
      (commaList item shrinks rest).map fun (more, rest) => (a :: more, rest)
  | .ok (a, rest) => .ok ([a], rest)
termination_by tokens.length
decreasing_by
  have shorter := shrinks _ _ _ ‹item tokens = _›
  exact Nat.lt_of_succ_lt shorter

def parenthesized {α : Type} (item : Reader α) (shrinks : Shrinks item) : Reader (List α) := do
  expect (.symbol .leftParen)
  let items <- (commaList item shrinks : Reader (List α))
  expect (.symbol .rightParen)
  return items

/-- The constraints behind a column's type, each declared on the column. -/
def constraints (column : Column) : List Token -> Except Refusal (Column × List Token)
  | ⟨.keyword .UNIQUE, _⟩ :: rest => constraints (column.declare .unique) rest
  | ⟨.keyword .PRIMARY, _⟩ :: ⟨.keyword .KEY, _⟩ :: rest =>
      constraints (column.declare .primaryKey) rest
  | ⟨.keyword .PRIMARY, _⟩ :: rest => .error ⟨.exactly (.keyword .KEY), rest⟩
  | tokens => .ok (column, tokens)

/-!
# Parts of statements
-/

def columnDefinition : Reader Column := do
  let name <- name
  let type <- columnType
  (constraints { name, type } : Reader Column)

theorem keeps_constraints (column : Column) : Keeps (constraints column : Reader Column) := by
  intro tokens
  induction column, tokens using constraints.induct with
  | case1 column _ rest ih =>
      intro a left read
      simp only [constraints] at read
      exact Nat.le_succ_of_le (ih a left read)
  | case2 column _ _ rest ih =>
      intro a left read
      simp only [constraints] at read
      exact Nat.le_succ_of_le (Nat.le_succ_of_le (ih a left read))
  | case3 column _ rest noKey =>
      intro a left read
      rw [constraints] at read
      · cases read
      · exact noKey
  | case4 column tokens noUnique noPrimaryKey noPrimary =>
      intro a left read
      rw [constraints] at read
      · cases read
        exact Nat.le_refl _
      · exact noUnique
      · exact noPrimaryKey
      · exact noPrimary

theorem shrinks_columnDefinition : Shrinks columnDefinition :=
  shrinks_bind shrinks_name fun _ => keeps_bind keeps_columnType fun _ => keeps_constraints _

def columnRef : Reader ColumnRef := do
  let first <- name
  if <- accept (.symbol .dot) then
    return { table := some first, column := <- name }
  else
    return { column := first }

theorem shrinks_columnRef : Shrinks columnRef := by
  refine shrinks_bind shrinks_name fun _ => keeps_bind (keeps_accept _) fun dotted => ?_
  cases dotted
  · exact keeps_pure _
  · exact keeps_bind shrinks_name.keeps fun _ => keeps_pure _

def assignment : Reader (String × Value) := do
  let column <- name
  expect (.symbol .equal)
  return (column, <- literal)

theorem shrinks_assignment : Shrinks assignment :=
  shrinks_bind shrinks_name fun _ => keeps_bind (keeps_expect _) fun _ =>
    keeps_bind shrinks_literal.keeps fun _ => keeps_pure _

def condition : Reader (Option Condition) := do
  if <- accept (.keyword .WHERE) then
    let column <- columnRef
    expect (.symbol .equal)
    return some { column, value := <- literal }
  else
    return none

def joinClause : Reader (Option JoinClause) := do
  if <- accept (.keyword .INNER) then
    expect (.keyword .JOIN)
    let table <- name
    expect (.keyword .ON)
    let left <- columnRef
    expect (.symbol .equal)
    return some { table, left, right := <- columnRef }
  else
    return none

def projection : Reader Projection := do
  if <- accept (.symbol .star) then
    return .all
  else
    return .only (<- (commaList columnRef shrinks_columnRef : Reader (List ColumnRef)))

/-!
# Statements
-/

def createTable : Reader Statement := do
  expect (.keyword .CREATE)
  expect (.keyword .TABLE)
  let table <- name
  return .createTable table (<- parenthesized columnDefinition shrinks_columnDefinition)

def insert : Reader Statement := do
  expect (.keyword .INSERT)
  expect (.keyword .INTO)
  let table <- name
  let columns <- parenthesized name shrinks_name
  expect (.keyword .VALUES)
  return .insert table columns (<- parenthesized literal shrinks_literal)

def select : Reader Statement := do
  expect (.keyword .SELECT)
  let columns <- projection
  expect (.keyword .FROM)
  let table <- name
  let join <- joinClause
  return .select columns table join (<- condition)

def update : Reader Statement := do
  expect (.keyword .UPDATE)
  let table <- name
  expect (.keyword .SET)
  let assignments <- (commaList assignment shrinks_assignment : Reader (List (String × Value)))
  return .update table assignments (<- condition)

def delete : Reader Statement := do
  expect (.keyword .DELETE)
  expect (.keyword .FROM)
  let table <- name
  return .delete table (<- condition)

def showTables : Reader Statement := do
  expect (.keyword .SHOW)
  expect (.keyword .TABLES)
  return .showTables

def describe : Reader Statement := do
  expect (.keyword .DESCRIBE)
  return .describe (<- name)

/-- The kind of the next token; a list without tokens is at its end. -/
def nextKind (tokens : List Token) : TokenKind :=
  match tokens with
  | token :: _ => token.kind
  | [] => .endOfInput

/-- The statement that the first keyword announces. -/
def statement : Reader Statement := fun tokens =>
  match nextKind tokens with
  | .keyword .CREATE => createTable tokens
  | .keyword .INSERT => insert tokens
  | .keyword .SELECT => select tokens
  | .keyword .UPDATE => update tokens
  | .keyword .DELETE => delete tokens
  | .keyword .SHOW => showTables tokens
  | .keyword .DESCRIBE => describe tokens
  | _ => refuse .statement tokens

/-- One statement, perhaps a semicolon, and the end. -/
def complete : Reader Statement := do
  let result <- statement
  let _ <- accept (.symbol .semicolon)
  if nextKind (<- get) = .endOfInput then
    return result
  else
    refuse .endOfStatement

end Reader

/-!
# Entry points
-/

/-- The place where a list of tokens without an end mark ends. -/
def endPosition (tokens : List Token) : Position :=
  match tokens.getLast? with
  | some token => token.position
  | none => Position.start

/-- A refusal as an error at the token that was refused. -/
def Refusal.toSyntaxError (refusal : Refusal) (finish : Position) : SyntaxError :=
  match refusal.rest with
  | token :: _ => ⟨.unexpectedToken refusal.expected token.kind, token.position⟩
  | [] => ⟨.unexpectedToken refusal.expected .endOfInput, finish⟩

def Statement.ofTokens (tokens : List Token) : Except SyntaxError Statement :=
  match Reader.complete tokens with
  | .ok (result, _) => .ok result
  | .error refusal => .error (refusal.toSyntaxError (endPosition tokens))

/-- The statement that a text spells. -/
def Statement.parse (sql : String) : Except Error Statement :=
  ((tokenize sql).bind Statement.ofTokens).mapError .malformed

end Sql
end Tabula
