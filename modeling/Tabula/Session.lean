import Tabula.Config
import Tabula.Database.Document
import Tabula.Host.Path
import Tabula.Query.Execute

/-!
# Sessions

A session owns a database and knows from its configuration where the snapshot of it lives.

## Saving

A snapshot is written to a temporary file first, which then takes the place of the old one, so the
file at the path is an old snapshot or a new one and never a part of one.
-/

namespace Tabula

variable {m : Type -> Type} [Monad m] [Host m]

/-!
# Snapshot files
-/

namespace Database

def save (db : Database) (path : String) : ExceptT Error m Unit := do
  if path = "" then
    throw .noSnapshotPath
  if let some parent := Path.parent? path then
    if let .error cause <- Host.createDirectory parent then
      throw (.cannotCreateDirectory parent cause)
  let document := (db.snapshot (<- Host.now)).encode
  let temporary := Path.temporary path
  if let .error cause <- Host.write temporary document then
    throw (.cannotWrite temporary cause)
  if let .error cause <- Host.rename temporary path then
    let _ <- Host.remove temporary
    throw (.cannotReplace path cause)

/-- The snapshot in the file at a path. -/
def readSnapshot (path : String) : ExceptT Error m Snapshot := do
  if path = "" then
    throw .noSnapshotPath
  unless <- Host.exists? path do
    throw (.snapshotNotFound path)
  match <- Host.read path with
  | .error cause => throw (.cannotRead path cause)
  | .ok document =>
      match Snapshot.decode? document with
      | some snapshot => return snapshot
      | none => throw (.undecodableSnapshot path "not a snapshot document")

def empty : ExceptT Error m Database := do
  return { createdAt := <- Host.now }

/-- The database in the snapshot file at a path, or an empty one where there is no file. -/
def openFile (path : String) : ExceptT Error m Database := do
  let db <- empty
  if <- Host.exists? path then
    let snapshot <- readSnapshot path
    let (result, restored) := (restore snapshot).run.run db
    match result with
    | .ok () => return restored
    | .error error => throw error
  else
    return db

end Database

/-!
# Sessions
-/

structure Session where
  database : Database := {}
  config : Config := {}
  deriving DecidableEq

/-- What a session does; a failure keeps the session as it stands. -/
abbrev SessionM (m : Type -> Type) (α : Type) :=
  ExceptT Error (StateT Session m) α

namespace Session

/-- Do something that does not change the session. -/
def onHost {α : Type} (action : ExceptT Error m α) : SessionM m α :=
  ExceptT.mk (liftM action.run)

/-- Change the database. -/
def onDatabase {α : Type} (change : Change Error Database α) : SessionM m α := do
  let session <- get
  let (result, database) := change.run.run session.database
  modify fun session => { session with database }
  match result with
  | .ok a => return a
  | .error error => throw error

/-- A session whose database is loaded from the configured file if there is one. -/
def create (config : Config) : ExceptT Error m Session := do
  match config.loadOnOpen, config.dataPath with
  | true, some path => return { database := <- Database.openFile path, config }
  | _, _ => return { database := <- Database.empty, config }

def saveTo (path : String) : SessionM m Unit := do
  onHost ((<- get).database.save path)

def loadFrom (path : String) : SessionM m Unit := do
  let snapshot <- onHost (Database.readSnapshot path)
  onDatabase (Database.restore snapshot)

def configuredPath : SessionM m String := do
  match (<- get).config.dataPath with
  | some path => return path
  | none => throw .noConfiguredPath

def save : SessionM m Unit := do
  saveTo (<- configuredPath)

def load : SessionM m Unit := do
  loadFrom (<- configuredPath)

/-- Keep the snapshot in another file from now on. -/
def setDataPath (path : String) : SessionM m Unit :=
  modify fun session => { session with config := { session.config with dataPath := some path } }

/-- Save a change if the configuration asks for it. -/
def autosave : SessionM m Unit := do
  let session <- get
  if session.config.autosave then
    if let some path := session.config.dataPath then
      saveTo path

/-- Execute the text of one statement.  A change that cannot be saved stays in the database. -/
def execute (sql : String) : SessionM m Outcome := do
  match Sql.Statement.parse sql with
  | .error error => throw error
  | .ok statement =>
      let outcome <- onDatabase (Database.execute statement)
      if statement.isMutation then
        autosave
      return outcome

end Session
end Tabula
