import Tabula.Text.Case
import Tabula.Value

/-!
# SQL tokens

The lexical units of a statement.  A word is a keyword in any letter case; TRUE and FALSE are
literals; every other word is a name.

## Descriptions

`TokenKind.describe` is how a message calls a token, `TokenKind.word?` the lowercase spelling under
which a reserved word is accepted as a name.
-/

namespace Tabula
namespace Sql

/-!
# Positions
-/

/-- A place in a text, both counts starting at one. -/
structure Position where
  line : Nat
  column : Nat
  deriving DecidableEq

namespace Position

def start : Position := ⟨1, 1⟩

/-- The place behind a character. -/
def after (p : Position) (c : Char) : Position :=
  if c = '\n' then ⟨p.line + 1, 1⟩ else ⟨p.line, p.column + 1⟩

def advance (p : Position) (cs : List Char) : Position :=
  cs.foldl after p

@[simp] theorem advance_nil (p : Position) : p.advance [] = p := rfl

@[simp] theorem advance_cons (p : Position) (c : Char) (cs : List Char) :
    p.advance (c :: cs) = (p.after c).advance cs := rfl

theorem advance_append (p : Position) (cs ds : List Char) :
    p.advance (cs ++ ds) = (p.advance cs).advance ds := by
  simp [advance]

end Position

/-!
# Keywords and symbols
-/

inductive Keyword where
  | CREATE | TABLE | INSERT | INTO | VALUES | SELECT | FROM | WHERE | UPDATE | SET | DELETE
  | INNER | JOIN | ON | PRIMARY | KEY | UNIQUE | NULL | SHOW | TABLES | DESCRIBE
  | AND | OR | NOT | DROP | INT | TEXT | BOOL
  deriving DecidableEq

namespace Keyword

def word : Keyword -> String
  | CREATE => "create"
  | TABLE => "table"
  | INSERT => "insert"
  | INTO => "into"
  | VALUES => "values"
  | SELECT => "select"
  | FROM => "from"
  | WHERE => "where"
  | UPDATE => "update"
  | SET => "set"
  | DELETE => "delete"
  | INNER => "inner"
  | JOIN => "join"
  | ON => "on"
  | PRIMARY => "primary"
  | KEY => "key"
  | UNIQUE => "unique"
  | NULL => "null"
  | SHOW => "show"
  | TABLES => "tables"
  | DESCRIBE => "describe"
  | AND => "and"
  | OR => "or"
  | NOT => "not"
  | DROP => "drop"
  | INT => "int"
  | TEXT => "text"
  | BOOL => "bool"

def all : List Keyword :=
  [CREATE, TABLE, INSERT, INTO, VALUES, SELECT, FROM, WHERE, UPDATE, SET, DELETE, INNER, JOIN, ON,
    PRIMARY, KEY, UNIQUE, NULL, SHOW, TABLES, DESCRIBE, AND, OR, NOT, DROP, INT, TEXT, BOOL]

end Keyword

inductive Symbol where
  | equal | notEqual | less | greater | lessEqual | greaterEqual
  | leftParen | rightParen | comma | semicolon | dot | star
  deriving DecidableEq

namespace Symbol

def spelling : Symbol -> String
  | equal => "="
  | notEqual => "<>"
  | less => "<"
  | greater => ">"
  | lessEqual => "<="
  | greaterEqual => ">="
  | leftParen => "("
  | rightParen => ")"
  | comma => ","
  | semicolon => ";"
  | dot => "."
  | star => "*"

end Symbol

/-!
# Tokens
-/

inductive TokenKind where
  | keyword (k : Keyword)
  | symbol (s : Symbol)
  | number (n : Int64)
  | text (s : String)
  | name (s : String)
  | boolean (b : Bool)
  | endOfInput
  deriving DecidableEq

structure Token where
  kind : TokenKind
  position : Position
  deriving DecidableEq

namespace TokenKind

/-- The reserved word spelled by a word in any letter case. -/
def ofWord? (word : String) : Option TokenKind :=
  let lower := Text.lowercase word
  if lower = "true" then
    some (boolean true)
  else if lower = "false" then
    some (boolean false)
  else
    (Keyword.all.find? fun k => k.word == lower).map keyword

/-- The lowercase spelling of a reserved word. -/
def word? : TokenKind -> Option String
  | keyword k => some k.word
  | boolean true => some "true"
  | boolean false => some "false"
  | _ => none

def describe : TokenKind -> String
  | keyword k => String.ofList (k.word.toList.map Char.toUpper)
  | symbol s => "'" ++ s.spelling ++ "'"
  | number n => "number " ++ String.ofList (Text.decimal n.toInt)
  | text s => "string '" ++ s ++ "'"
  | name s => "identifier '" ++ s ++ "'"
  | boolean true => "TRUE"
  | boolean false => "FALSE"
  | endOfInput => "end of input"

end TokenKind

/-!
# Faults
-/

/-- What a reader of tokens was looking for when it stopped. -/
inductive Expectation where
  | statement
  | endOfStatement
  | exactly (kind : TokenKind)
  | columnType
  | name
  | literal
  deriving DecidableEq

namespace Expectation

def message : Expectation -> String
  | statement => "Expected CREATE, INSERT, SELECT, UPDATE, DELETE, SHOW or DESCRIBE"
  | endOfStatement => "Unexpected input after end of statement"
  | exactly kind => "Expected " ++ kind.describe
  | columnType => "Expected column type INT, TEXT or BOOL"
  | name => "Expected identifier"
  | literal => "Expected a literal value"

end Expectation

inductive SyntaxFault where
  | unexpectedCharacter (c : Char)
  | unterminatedText
  | integerOutOfRange (digits : List Char)
  | unexpectedToken (expected : Expectation) (found : TokenKind)
  deriving DecidableEq

namespace SyntaxFault

def message : SyntaxFault -> String
  | unexpectedCharacter c => "Unexpected character '" ++ String.singleton c ++ "'"
  | unterminatedText => "Unterminated string literal"
  | integerOutOfRange digits => "Integer out of range: " ++ String.ofList digits
  | unexpectedToken expected found => expected.message ++ ", found " ++ found.describe

end SyntaxFault

structure SyntaxError where
  fault : SyntaxFault
  position : Position
  deriving DecidableEq

end Sql
end Tabula
