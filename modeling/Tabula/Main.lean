import Std.Time.DateTime.Timestamp
import Tabula.Shell.Program

/-!
# The program

The shell on the files, the clock and the streams of the machine.
-/

namespace Tabula
namespace Program

/-- The cause of a failure as a value. -/
def attempt {α : Type} (action : IO α) : IO (Except String α) := do
  try
    return .ok (<- action)
  catch error =>
    return .error (toString error)

instance : Host IO where
  now := do return (<- Std.Time.Timestamp.now).toMillisecondsSinceUnixEpoch.val.toNat
  exists? path := do return (<- attempt (IO.FS.realPath path)).toOption.isSome
  read path := attempt (IO.FS.readFile path)
  createDirectory path := attempt (IO.FS.createDirAll path)
  write path text := attempt (IO.FS.writeFile path text)
  rename source target := attempt (IO.FS.rename source target)
  remove path := attempt (IO.FS.removeFile path)

def emit (piece : Printed) : IO Unit := do
  match piece with
  | .output s =>
      let stream <- IO.getStdout
      stream.putStr s
      stream.flush
  | .error s => (<- IO.getStderr).putStr s

/-- Take a step of the shell and print what it prints. -/
def take {α : Type} (step : ShellM IO α) (shell : Shell) : IO (α × Shell) := do
  let (a, shell) <- step.run shell
  shell.printed.reverse.forM emit
  return (a, { shell with printed := [] })

/-- Read a script line by line. -/
def readScript (shell : Shell) : List (List Char) -> IO Shell
  | [] => return shell
  | line :: rest => do
      let (go, shell) <- take (Shell.readLine line) shell
      if go then readScript shell rest else return shell

/-- Read the standard input line by line with a prompt for each. -/
partial def readInput (shell : Shell) : IO Shell := do
  let (_, shell) <- take Shell.prompt shell
  let line <- (<- IO.getStdin).getLine
  if line.isEmpty then
    return shell
  let (go, shell) <- take (Shell.readLine line.toList) shell
  if go then readInput shell else return shell

def fail (message : String) : IO UInt32 := do
  emit (.error ("Error: " ++ message ++ "\n"))
  return 1

def start (options : Options) : IO UInt32 := do
  match <- Shell.start (m := IO) options with
  | .error error => fail error.message
  | .ok shell =>
      match options.file with
      | some path =>
          match <- Shell.readScript (m := IO) path with
          | .error error => fail error.message
          | .ok script =>
              let shell <- readScript shell (Text.lines script.toList)
              let _ <- take Shell.finish shell
              return 0
      | none =>
          let (_, shell) <- take Shell.banner shell
          let shell <- readInput shell
          let _ <- take Shell.finish shell
          return 0

/-- Run the program; a stream that cannot be read ends it. -/
def run (options : Options) : IO UInt32 := do
  match <- attempt (start options) with
  | .ok code => return code
  | .error cause => fail cause

end Program
end Tabula

def main (arguments : List String) : IO UInt32 := do
  match Tabula.Options.parse arguments with
  | .error error =>
      Tabula.Program.emit (.error (error.message ++ "\n"))
      return 2
  | .ok options => Tabula.Program.run options
