import Tabula.Error
import Tabula.Host.Basic
import Tabula.Json.Read

/-!
# Configurations

Where a session keeps its snapshot and when it reads and writes it.  A configuration is a JSON
document; a field that is left out has its default, and a field that is not known is refused.
-/

namespace Tabula

structure Config where
  dataPath : Option String := none
  /-- Save after every successful change. -/
  autosave : Bool := false
  /-- Load the snapshot on opening if it exists. -/
  loadOnOpen : Bool := true
  deriving DecidableEq

namespace Config

def ofJson? (j : Json) : Option Config := do
  let [dataPath, autosave, loadOnOpen] <-
    j.fields? ["data_path", "autosave", "load_on_open"] true | none
  let defaults : Config := {}
  let dataPath <- dataPath.elim (some defaults.dataPath) (Json.nullable? Json.text?)
  let autosave <- autosave.elim (some defaults.autosave) Json.boolean?
  let loadOnOpen <- loadOnOpen.elim (some defaults.loadOnOpen) Json.boolean?
  return { dataPath, autosave, loadOnOpen }

def decode? (s : String) : Option Config := do
  ofJson? (<- Json.read s)

/-- Read the configuration file at a path. -/
def load {m : Type -> Type} [Monad m] [Host m] (path : String) : ExceptT Error m Config := do
  match <- Host.read path with
  | .error cause => throw (.unreadableConfig path cause)
  | .ok s =>
      match decode? s with
      | some config => return config
      | none => throw (.invalidConfig path "not a configuration document")

end Config
end Tabula
