import Tabula.Json.Basic

/-!
# Printing JSON

Values are printed over several lines with two blanks for every level, and empty arrays and objects
as a pair of brackets.  In strings only quotes, backslashes and control characters are escaped.
-/

namespace Tabula
namespace Json

/-!
# Strings
-/

def hexDigit (n : Nat) : Char :=
  Nat.digitChar n

def escape (c : Char) : List Char :=
  if c = '"' then ['\\', '"']
  else if c = '\\' then ['\\', '\\']
  else if c = '\n' then ['\\', 'n']
  else if c = '\r' then ['\\', 'r']
  else if c = '\t' then ['\\', 't']
  else if c.toNat = 8 then ['\\', 'b']
  else if c.toNat = 12 then ['\\', 'f']
  else if c.toNat < 0x20 then
    ['\\', 'u', '0', '0', hexDigit (c.toNat / 16), hexDigit (c.toNat % 16)]
  else [c]

/-- A string in quotes.  One that is no text is printed as half of a surrogate pair. -/
def quoted : Option String -> List Char
  | some s => '"' :: s.toList.flatMap escape ++ ['"']
  | none => "\"\\ud800\"".toList

/-!
# Values
-/

def newline (level : Nat) : List Char :=
  '\n' :: List.replicate (2 * level) ' '

mutual

/-- A value whose first line stands behind `level` levels of blanks. -/
def print (level : Nat) : Json -> List Char
  | .null => "null".toList
  | .boolean true => "true".toList
  | .boolean false => "false".toList
  | .integer n => Text.decimal n
  | .decimal written => written
  | .string s => quoted s
  | .array [] => "[]".toList
  | .array (j :: rest) =>
      '[' :: newline (level + 1) ++ print (level + 1) j ++ printItems (level + 1) rest ++
        newline level ++ [']']
  | .object [] => ['{', '}']
  | .object ((name, j) :: rest) =>
      '{' :: newline (level + 1) ++ quoted name ++ [':', ' '] ++ print (level + 1) j ++
        printMembers (level + 1) rest ++ newline level ++ ['}']

/-- The items of an array behind the first. -/
def printItems (level : Nat) : List Json -> List Char
  | [] => []
  | j :: rest => ',' :: newline level ++ print level j ++ printItems level rest

/-- The members of an object behind the first. -/
def printMembers (level : Nat) : List (Option String × Json) -> List Char
  | [] => []
  | (name, j) :: rest =>
      ',' :: newline level ++ quoted name ++ [':', ' '] ++ print level j ++
        printMembers level rest

end

def pretty (j : Json) : String :=
  String.ofList (print 0 j)

end Json
end Tabula
