import Tabula.Shell.Basic

/-!
# The command line

The program is started with options, opens a session and reads statements from a file or from its
standard input.
-/

namespace Tabula

variable {m : Type -> Type} [Monad m] [Host m]

/-!
# Options
-/

structure Options where
  config : Option String := none
  data : Option String := none
  file : Option String := none
  autosave : Bool := false
  verbose : Bool := false
  deriving DecidableEq

inductive UsageError where
  | unexpectedArgument (argument : String)
  | missingValue (option : String)
  | repeatedOption (option : String)

namespace UsageError

def message : UsageError -> String
  | unexpectedArgument argument => s!"error: unexpected argument '{argument}' found"
  | missingValue option => s!"error: a value is required for '{option}' but none was supplied"
  | repeatedOption option => s!"error: the argument '{option}' cannot be used multiple times"

end UsageError

namespace Options

inductive Name where
  | config
  | data
  | file
  | autosave
  | verbose
  deriving DecidableEq

def longName? : List Char -> Option Name := fun word =>
  [("config", Name.config), ("data", .data), ("file", .file), ("autosave", .autosave),
    ("verbose", .verbose)].lookup (String.ofList word)

def shortName? : Char -> Option Name := fun c =>
  [('c', Name.config), ('d', .data), ('f', .file), ('v', .verbose)].lookup c

def Name.display : Name -> String
  | config => "--config"
  | data => "--data"
  | file => "--file"
  | autosave => "--autosave"
  | verbose => "--verbose"

def Name.takesValue : Name -> Bool
  | config | data | file => true
  | autosave | verbose => false

/-- Give an option its value, once. -/
def assign (options : Options) (name : Name) (value : String) : Except UsageError Options :=
  if name.takesValue ∧ value = "" then
    .error (.missingValue name.display)
  else
    match name, options with
    | .config, { config := none, .. } => .ok { options with config := some value }
    | .data, { data := none, .. } => .ok { options with data := some value }
    | .file, { file := none, .. } => .ok { options with file := some value }
    | .autosave, { autosave := false, .. } => .ok { options with autosave := true }
    | .verbose, { verbose := false, .. } => .ok { options with verbose := true }
    | name, _ => .error (.repeatedOption name.display)

/-- Read the letters behind one dash.  The letters behind an option with a value are its value; an
option at the end that lacks its value is answered. -/
def readLetters (options : Options) : List Char -> Except UsageError (Options × Option Name)
  | [] => .ok (options, none)
  | c :: rest =>
      match shortName? c with
      | none => .error (.unexpectedArgument (String.ofList ['-', c]))
      | some name =>
          if name.takesValue then
            match rest with
            | [] => .ok (options, some name)
            | '=' :: value =>
                (options.assign name (String.ofList value)).map fun options => (options, none)
            | value => (options.assign name (String.ofList value)).map fun options => (options, none)
          else
            match options.assign name "" with
            | .ok options => readLetters options rest
            | .error error => .error error

/-- Read the word behind two dashes, which may hold a value behind an equals sign. -/
def readWord (options : Options) (word : List Char) :
    Except UsageError (Options × Option Name) :=
  let (long, value) := word.span fun c => c != '='
  match longName? long, value with
  | none, _ => .error (.unexpectedArgument ("--" ++ String.ofList word))
  | some name, [] =>
      if name.takesValue then .ok (options, some name)
      else (options.assign name "").map fun options => (options, none)
  | some name, _ :: value =>
      if name.takesValue then
        (options.assign name (String.ofList value)).map fun options => (options, none)
      else
        .error (.unexpectedArgument ("--" ++ String.ofList word))

/-- Read one argument; `awaited` is the option whose value it must be. -/
def readArgument (options : Options) (awaited : Option Name) (argument : String) :
    Except UsageError (Options × Option Name) :=
  match awaited, argument.toList with
  | some name, '-' :: _ :: _ => .error (.missingValue name.display)
  | some name, _ => (options.assign name argument).map fun options => (options, none)
  | none, '-' :: '-' :: word => options.readWord word
  | none, '-' :: letters@(_ :: _) => options.readLetters letters
  | none, _ => .error (.unexpectedArgument argument)

/-- Read arguments up to two dashes that stand alone; the options end there and nothing may follow. -/
def readArguments (options : Options) (awaited : Option Name) :
    List String -> Except UsageError (Options × Option Name)
  | [] => .ok (options, awaited)
  | "--" :: [] => .ok (options, awaited)
  | "--" :: argument :: _ => .error (.unexpectedArgument argument)
  | argument :: rest => do
      let (options, awaited) <- options.readArgument awaited argument
      options.readArguments awaited rest

def parse (arguments : List String) : Except UsageError Options := do
  let (options, awaited) <- readArguments {} none arguments
  match awaited with
  | some name => throw (.missingValue name.display)
  | none => return options

end Options

/-!
# Starting
-/

namespace Shell

/-- Why the program does not start or cannot go on. -/
inductive StartError where
  | config (error : Error)
  | database (error : Error)
  | script (path cause : String)
  | reading (cause : String)

namespace StartError

def message : StartError -> String
  | config error => error.message
  | database error => "failed to open database: " ++ error.message
  | script path cause => s!"cannot open {path}: {cause}"
  | reading cause => cause

end StartError

/-- The configuration that the options ask for. -/
def configure (options : Options) : ExceptT Error m Config := do
  let config <- match options.config with
    | some path => Config.load path
    | none => pure {}
  return {
    config with
    dataPath := options.data <|> config.dataPath
    autosave := options.autosave || config.autosave }

/-- A shell on the session that the options ask for. -/
def start (options : Options) : m (Except StartError Shell) := do
  match <- (configure (m := m) options).run with
  | .error error => return .error (.config error)
  | .ok config =>
      match <- (Session.create (m := m) config).run with
      | .error error => return .error (.database error)
      | .ok session => return .ok { session }

/-- The text of the script at a path. -/
def readScript (path : String) : m (Except StartError String) := do
  match <- Host.read path with
  | .ok text => return .ok text
  | .error cause =>
      if <- Host.exists? path then
        return .error (.reading cause)
      else
        return .error (.script path cause)

/-- What is printed before the first prompt. -/
def banner : ShellM m Unit := do
  printLine "QuillDB v0.1.0"
  printLine ("Database: " ++ ((<- get).session.config.dataPath.getD "in-memory"))
  printLine "Type '.help' for help, '.exit' to quit"
  printLine ""

/-!
# The program
-/

/-- What a run of the program leaves: its exit code and everything printed, in order. -/
structure Run where
  exitCode : Nat
  printed : List Printed

namespace Run

def failed (message : String) : Run where
  exitCode := 1
  printed := [.error ("Error: " ++ message ++ "\n")]

def ended (shell : Shell) : Run where
  exitCode := 0
  printed := shell.printed.reverse

end Run

/-- Run the program on given arguments and a given standard input. -/
def run (arguments : List String) (input : String) : m Run := do
  match Options.parse arguments with
  | .error error => return { exitCode := 2, printed := [.error (error.message ++ "\n")] }
  | .ok options =>
      match <- start options with
      | .error error => return .failed error.message
      | .ok shell =>
          match options.file with
          | some path =>
              match <- readScript path with
              | .error error => return .failed error.message
              | .ok script => return .ended (<- (readText false script).run shell).2
          | none => return .ended (<- (banner *> readText true input).run shell).2

end Shell
end Tabula
