import Tabula.Change
import Tabula.Host.Basic
import Tabula.Host.Path

/-!
# Disks

A host whose files are a value.  Absolute paths start at the root, which every disk has, and
relative paths at the working directory.  Above the root there is nothing but the root.

## Limits

A name has at most 255 bytes and a path at most 4095; a path with a NUL character leads nowhere.

## Failures

A call that would change the disk can fail for reasons of its own and then leaves the files as they
are.  `Disk.failures` says call by call which ones do; past its end none does.
-/

namespace Tabula

inductive DiskEntry where
  | directory
  | file (bytes : ByteArray)

structure Disk where
  /-- The files and directories below the root, each under the names on the way to it. -/
  entries : List (List String × DiskEntry) := []
  /-- The working directory. -/
  home : List String := []
  clock : Nat := 0
  failures : List Bool := []

namespace Disk

/-!
# Causes
-/

def notFound : String :=
  "No such file or directory (os error 2)"

def fileExists : String :=
  "File exists (os error 17)"

def notADirectory : String :=
  "Not a directory (os error 20)"

def isADirectory : String :=
  "Is a directory (os error 21)"

def nameTooLong : String :=
  "File name too long (os error 36)"

def embeddedNul : String :=
  "file name contained an unexpected NUL byte"

def notUtf8 : String :=
  "stream did not contain valid UTF-8"

def failure : String :=
  "Input/output error (os error 5)"

/-!
# Limits
-/

def longestName : Nat :=
  255

def longestPath : Nat :=
  4095

def checkName (name : String) : Except String Unit :=
  if longestName < name.utf8ByteSize then .error nameTooLong else .ok ()

def checkPath (path : String) : Except String Unit :=
  if path.toList.contains (Char.ofNat 0) then .error embeddedNul
  else if longestPath < path.utf8ByteSize then .error nameTooLong
  else .ok ()

/-!
# Looking
-/

def entryAt (disk : Disk) (place : List String) : Option DiskEntry :=
  match place with
  | [] => some .directory
  | _ => disk.entries.lookup place

def isDirectory (disk : Disk) (place : List String) : Bool :=
  match disk.entryAt place with
  | some .directory => true
  | _ => false

/-- The place that pieces of a path lead to from a place.  Everything on the way is a directory; what
the last piece names need not be there. -/
def walk (disk : Disk) (place : List String) : List (List Char) -> Except String (List String)
  | [] => .ok place
  | piece :: rest =>
      match disk.entryAt place with
      | none => .error notFound
      | some (.file _) => .error notADirectory
      | some .directory =>
          if piece = [] ∨ piece = ['.'] then disk.walk place rest
          else if piece = ['.', '.'] then disk.walk place.dropLast rest
          else do
            checkName (String.ofList piece)
            disk.walk (place ++ [String.ofList piece]) rest

/-- Where a path starts. -/
def start (disk : Disk) (path : String) : List String :=
  match Path.pieces path with
  | [] :: _ => []
  | _ => disk.home

def place (disk : Disk) (path : String) : Except String (List String) := do
  if path = "" then
    throw notFound
  checkPath path
  disk.walk (disk.start path) (Path.pieces path)

def find (disk : Disk) (path : String) : Except String DiskEntry := do
  let place <- disk.place path
  match disk.entryAt place with
  | some entry => return entry
  | none => throw notFound

def readText (disk : Disk) (path : String) : Except String String := do
  match <- disk.find path with
  | .directory => throw isADirectory
  | .file bytes =>
      match String.fromUTF8? bytes with
      | some s => return s
      | none => throw notUtf8

/-!
# Changing
-/

def put (disk : Disk) (place : List String) (entry : DiskEntry) : Disk :=
  { disk with entries := (place, entry) :: disk.entries.filter fun e => e.1 != place }

def drop (disk : Disk) (place : List String) : Disk :=
  { disk with entries := disk.entries.filter fun e => e.1 != place }

/-- Create the directories that pieces of a path lead through from a place, one after the other. -/
def createFrom (place : List String) : List (List Char) -> Change String Disk Unit
  | [] => return
  | piece :: rest =>
      if piece = [] ∨ piece = ['.'] then createFrom place rest
      else if piece = ['.', '.'] then createFrom place.dropLast rest
      else do
        let name := String.ofList piece
        checkName name
        let inner := place ++ [name]
        match (<- get).entryAt inner with
        | some .directory => createFrom inner rest
        | some (.file _) => throw (if rest = [] then fileExists else notADirectory)
        | none =>
            modify fun disk => disk.put inner .directory
            createFrom inner rest

def createDirectory (path : String) : Change String Disk Unit := do
  checkPath path
  createFrom ((<- get).start path) (Path.pieces path)

def writeBytes (path : String) (bytes : ByteArray) : Change String Disk Unit := do
  let disk <- get
  let place <- disk.place path
  if disk.isDirectory place then
    throw isADirectory
  if disk.isDirectory place.dropLast then
    set (disk.put place (.file bytes))
  else
    throw notFound

def rename (source target : String) : Change String Disk Unit := do
  let disk <- get
  let sourcePlace <- disk.place source
  let targetPlace <- disk.place target
  match disk.entryAt sourcePlace with
  | none => throw notFound
  | some entry =>
      if disk.isDirectory targetPlace then
        throw isADirectory
      if disk.isDirectory targetPlace.dropLast then
        set ((disk.drop sourcePlace).put targetPlace entry)
      else
        throw notFound

def remove (path : String) : Change String Disk Unit := do
  let disk <- get
  let place <- disk.place path
  match disk.entryAt place with
  | some (.file _) => set (disk.drop place)
  | some .directory => throw isADirectory
  | none => throw notFound

/-!
# The disk as a host
-/

/-- Make a call that would change the disk, unless it is the turn of a failure. -/
def attempt (change : Change String Disk Unit) : StateM Disk (Except String Unit) := fun disk =>
  let rest := { disk with failures := disk.failures.tail }
  if disk.failures.head?.getD false then
    (.error failure, rest)
  else
    change.run.run rest

instance : Host (StateM Disk) where
  now := do return (<- get).clock
  exists? path := do return (<- get).find path |>.toOption.isSome
  read path := do return (<- get).readText path
  createDirectory path := attempt (createDirectory path)
  write path text := attempt (writeBytes path text.toUTF8)
  rename source target := attempt (rename source target)
  remove path := attempt (remove path)

end Disk
end Tabula
