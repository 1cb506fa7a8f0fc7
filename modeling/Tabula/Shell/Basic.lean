import Tabula.Json.Print
import Tabula.Session
import Tabula.Shell.Grid
import Tabula.Text.Blank
import Tabula.Text.Lines

/-!
# The shell

A shell reads lines.  Outside a statement, a line that starts with a dot is a command to the shell
itself.  All other lines are collected, without the blanks at their ends, until one ends with a
semicolon; then the collected text is executed.
-/

namespace Tabula

variable {m : Type -> Type} [Monad m] [Host m]

/-!
# State
-/

inductive OutputMode where
  | table
  | json
  deriving DecidableEq

/-- A piece of text for one of the two outputs. -/
inductive Printed where
  | output (s : String)
  | error (s : String)
  deriving DecidableEq

structure Shell where
  session : Session := {}
  mode : OutputMode := .table
  /-- The lines of the statement that is not complete yet. -/
  statement : String := ""
  /-- What has been printed, the last piece first. -/
  printed : List Printed := []
  deriving DecidableEq

abbrev ShellM (m : Type -> Type) (α : Type) :=
  StateT Shell m α

/-!
# Complaints
-/

/-- An outcome other than rows with the names of its parts, and its message in quotes. -/
def Outcome.spelled? (outcome : Outcome) : Option String :=
  outcome.message?.map fun message =>
    let quoted := String.ofList (Json.quoted (some message))
    match outcome with
    | .created _ => "Definition \x7b message: " ++ quoted ++ " \x7d"
    | _ => "Modification \x7b message: " ++ quoted ++ ", affected_rows: " ++
        toString outcome.affectedRows ++ " \x7d"

/-- Why a command is not carried out. -/
inductive Complaint where
  | failed (error : Error)
  /-- A DESCRIBE statement has answered something else than rows. -/
  | unexpectedOutcome (outcome : Outcome)
  | modeUsage
  | unknownCommand (input : String)

namespace Complaint

def message : Complaint -> String
  | failed error => error.message
  | unexpectedOutcome outcome => "unexpected DESCRIBE result: " ++ outcome.spelled?.getD ""
  | modeUsage => "usage: .mode table|json"
  | unknownCommand input => s!"Unknown command: {input} (type '.help')"

end Complaint

namespace Shell

/-!
# Output
-/

def print (piece : Printed) : ShellM m Unit :=
  modify fun shell => { shell with printed := piece :: shell.printed }

def printLine (s : String) : ShellM m Unit :=
  print (.output (s ++ "\n"))

def printError (s : String) : ShellM m Unit :=
  print (.error (s ++ "\n"))

def printRows (set : RowSet) : ShellM m Unit :=
  (Grid.draw set).forM printLine

/-- Rows as a JSON array of objects with their names in ascending order. -/
def jsonRows (set : RowSet) : String :=
  Json.pretty (.array (set.toMaps.map fun row =>
    .record (row.map fun (name, v) => (name, v.toJson))))

def printOutcome (outcome : Outcome) : ShellM m Unit := do
  match outcome, (<- get).mode with
  | .rows set, .table => printRows set
  | .rows set, .json => printLine (jsonRows set)
  | other, _ => printLine (other.message?.getD "")

/-!
# Statements
-/

def onSession {α : Type} (action : SessionM m α) : ExceptT Complaint (StateT Shell m) α :=
  ExceptT.mk do
    let (result, session) <- liftM (action.run.run (<- get).session)
    modify fun shell => { shell with session }
    return result.mapError .failed

/-- Execute a complete statement and print its outcome. -/
def runStatement (sql : String) : ShellM m Unit := do
  match <- (onSession (Session.execute sql)).run with
  | .ok outcome => printOutcome outcome
  | .error complaint => printError ("Error: " ++ complaint.message)

/-!
# Commands
-/

def helpText : String :=
  "
Meta commands:
  .help                 Show this help
  .exit, .quit          Leave the shell
  .tables               List tables
  .schema [table]       Show one or every table's columns
  .save [path]          Save a snapshot (default: configured data path)
  .load [path]          Load a snapshot (default: configured data path)
  .mode table|json      Choose result output format

Statements end with ';' and may span lines:
  CREATE TABLE users (id INT PRIMARY KEY, email TEXT UNIQUE, active BOOL);
  INSERT INTO users (id, email, active) VALUES (1, 'a@example.com', TRUE);
  SELECT * FROM users WHERE id = 1;
  SELECT users.email, orders.total FROM users INNER JOIN orders ON users.id = orders.user_id;
  UPDATE users SET active = FALSE WHERE email = 'a@example.com';
  DELETE FROM users WHERE id = 1;
  SHOW TABLES;
  DESCRIBE users;
"

def listTables : ShellM m Unit := do
  match (<- get).session.database.tableNames with
  | [] => printLine "No tables found"
  | names => names.forM fun name => printLine ("  " ++ name)

/-- The rows that a DESCRIBE statement answers. -/
def describe (name : String) : ExceptT Complaint (StateT Shell m) RowSet := do
  match <- onSession (Session.execute ("DESCRIBE " ++ name)) with
  | .rows set => return set
  | other => throw (.unexpectedOutcome other)

/-- Print the columns of the table that a DESCRIBE statement finds under a name. -/
def showSchema (name : String) : ExceptT Complaint (StateT Shell m) Unit := do
  let set <- describe name
  match (<- get).session.database.table name with
  | .error error => throw (.failed error)
  | .ok table =>
      liftM (printLine (m := m) ("Table: " ++ table.name))
      liftM (printRows (m := m) set)

def showSchemas : ExceptT Complaint (StateT Shell m) Unit := do
  match (<- get).session.database.tableNames with
  | [] => liftM (printLine (m := m) "No tables found")
  | names => names.forM fun name => do
      showSchema name
      liftM (printLine (m := m) "")

def setMode (mode : OutputMode) : ExceptT Complaint (StateT Shell m) Unit :=
  modify fun shell => { shell with mode }

/-- What a command other than leaving does; the input is the line it stands on. -/
def command (input name : String) (argument : Option String) :
    ExceptT Complaint (StateT Shell m) Unit :=
  match name, argument with
  | ".help", _ => liftM (printLine (m := m) helpText)
  | ".tables", _ => liftM (listTables (m := m))
  | ".schema", none => showSchemas
  | ".schema", some table => showSchema table
  | ".save", none => onSession Session.save
  | ".save", some path => onSession (Session.saveTo path)
  | ".load", none => onSession Session.load
  | ".load", some path => onSession (Session.loadFrom path)
  | ".mode", some "table" => setMode .table
  | ".mode", some "json" => setMode .json
  | ".mode", _ => throw .modeUsage
  | _, _ => throw (.unknownCommand input)

/-- Carry out the command on a line; the answer is whether to go on reading. -/
def runCommand (input : List Char) : ShellM m Bool := do
  let (name, rest) := Text.firstWord input
  let name := String.ofList name
  if name = ".exit" ∨ name = ".quit" then
    return false
  let argument := match (Text.firstWord rest).1 with
    | [] => none
    | word => some (String.ofList word)
  match <- (command (String.ofList input) name argument).run with
  | .ok () =>
      if name = ".save" ∨ name = ".load" then
        printLine "OK"
  | .error complaint => printError ("Error: " ++ complaint.message)
  return true

/-!
# Lines
-/

/-- Read one line; the answer is whether to go on reading. -/
def readLine (line : List Char) : ShellM m Bool := do
  let input := Text.trim line
  let shell <- get
  if shell.statement = "" ∧ input.head? = some '.' then
    runCommand input
  else if input = [] then
    return true
  else
    let statement := shell.statement ++ String.ofList input ++ "\n"
    if input.getLast? = some ';' then
      modify fun shell => { shell with statement := "" }
      runStatement statement
    else
      modify fun shell => { shell with statement }
    return true

def prompt : ShellM m Unit := do
  print (.output (if (<- get).statement = "" then "quill> " else "    -> "))

/-- Read lines to the end or to a command to leave, with a prompt for each if asked for. -/
def readLines (interactive : Bool) : List (List Char) -> ShellM m Unit
  | [] => do
      if interactive then
        prompt
  | line :: rest => do
      if interactive then
        prompt
      if <- readLine line then
        readLines interactive rest

/-- Warn of a statement that the end of the lines leaves incomplete. -/
def finish : ShellM m Unit := do
  if (<- get).statement ≠ "" then
    printError "Warning: incomplete statement discarded (missing ';')"

/-- Read a whole text. -/
def readText (interactive : Bool) (text : String) : ShellM m Unit := do
  readLines interactive (Text.lines text.toList)
  finish

end Shell
end Tabula
