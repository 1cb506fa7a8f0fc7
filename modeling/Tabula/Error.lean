import Tabula.Sql.ColumnRef
import Tabula.Sql.Token

/-!
# Errors

Everything that can go wrong, by cause.  Each cause belongs to one kind, and a message is the
heading of the kind followed by the detail of the cause.
-/

namespace Tabula

open Sql (ColumnRef Position SyntaxError)

/-!
# Kinds
-/

inductive ErrorKind where
  | syntaxError (position : Position)
  | schema
  | constraintViolation
  | typeMismatch
  | tableNotFound
  | columnNotFound
  | invalidArgument
  | persistence
  | io
  | serialization
  deriving DecidableEq

namespace ErrorKind

def heading : ErrorKind -> String
  | syntaxError p => s!"Syntax error at line {p.line}, column {p.column}"
  | schema => "Schema error"
  | constraintViolation => "Constraint violation"
  | typeMismatch => "Type mismatch"
  | tableNotFound => "Table not found"
  | columnNotFound => "Column not found"
  | invalidArgument => "Invalid argument"
  | persistence => "Persistence error"
  | io => "IO error"
  | serialization => "Serialization error"

def message (kind : ErrorKind) (detail : String) : String :=
  kind.heading ++ ": " ++ detail

/-- The kinds that say a named table or column does not exist. -/
def isReference : ErrorKind -> Bool
  | tableNotFound | columnNotFound => true
  | _ => false

end ErrorKind

/-!
# Causes
-/

inductive Error where
  /-- The text is no statement. -/
  | malformed (error : SyntaxError)
  | noColumns (table : String)
  | duplicateColumn (column table : String)
  | severalPrimaryKeys (table : String) (count : Nat)
  | tableExists (table : String)
  | nullPrimaryKey (column : String)
  /-- Another row holds the value already. -/
  | valueTaken (primaryKey : Bool) (table column : String) (value : Value)
  /-- One update would give the value to two rows. -/
  | valueAssignedTwice (table column : String) (value : Value)
  | typeMismatch (column : String) (type : ColumnType) (value : Value)
  | tableNotFound (name : String)
  | columnNotFound (ref : ColumnRef)
  | countMismatch (columns values : Nat)
  | columnRepeated (column : String)
  | columnAssignedTwice (column : String)
  | rowIdOutOfRange (id : Nat) (table : String) (nextRowId : Nat)
  | duplicateRowId (id : Nat) (table : String)
  | rowSetsColumnTwice (id : Nat) (table column : String)
  /-- Both sides of a join condition belong to one table. -/
  | oneSidedCondition (first second : ColumnRef) (left right : String)
  | unreadableConfig (path cause : String)
  | invalidConfig (path cause : String)
  | noSnapshotPath
  | noConfiguredPath
  | snapshotNotFound (path : String)
  | cannotCreateDirectory (path cause : String)
  | cannotWrite (path cause : String)
  | cannotReplace (path cause : String)
  | cannotRead (path cause : String)
  | undecodableSnapshot (path cause : String)
  /-- The snapshot decodes, but the table filed under this name breaks a rule. -/
  | invalidSnapshotTable (name : String) (cause : Error)
  | repeatedSnapshotTable (table : String)
  deriving DecidableEq

namespace Error

def kind : Error -> ErrorKind
  | malformed error => .syntaxError error.position
  | noColumns _ | duplicateColumn _ _ | severalPrimaryKeys _ _ | tableExists _ => .schema
  | nullPrimaryKey _ | valueTaken _ _ _ _ | valueAssignedTwice _ _ _ => .constraintViolation
  | typeMismatch _ _ _ => .typeMismatch
  | tableNotFound _ => .tableNotFound
  | columnNotFound _ => .columnNotFound
  | countMismatch _ _ | columnRepeated _ | columnAssignedTwice _ | rowIdOutOfRange _ _ _
  | duplicateRowId _ _ | rowSetsColumnTwice _ _ _ | oneSidedCondition _ _ _ _
  | unreadableConfig _ _ | invalidConfig _ _ => .invalidArgument
  | noSnapshotPath | noConfiguredPath | snapshotNotFound _ | cannotCreateDirectory _ _
  | cannotWrite _ _ | cannotReplace _ _ | cannotRead _ _ | undecodableSnapshot _ _
  | invalidSnapshotTable _ _ | repeatedSnapshotTable _ => .persistence

/-- The message without its heading. -/
def detail : Error -> String
  | malformed error => error.fault.message
  | noColumns table => s!"Table '{table}' must have at least one column"
  | duplicateColumn column table => s!"Duplicate column name '{column}' in table '{table}'"
  | severalPrimaryKeys table count =>
      s!"Table '{table}' declares {count} primary keys; composite primary keys are not supported"
  | tableExists table => s!"Table '{table}' already exists"
  | nullPrimaryKey column => s!"Primary key column '{column}' cannot be NULL"
  | valueTaken primaryKey table column value =>
      (if primaryKey then "Primary key" else "Unique") ++
        s!" constraint violated: {table}.{column} = {value.display} already exists"
  | valueAssignedTwice table column value =>
      s!"Unique constraint violated: {table}.{column} = {value.display}" ++
        " would be assigned to more than one row"
  | typeMismatch column type value =>
      s!"Column '{column}' expects {type.display}, got {value.kind} value {value.display}"
  | tableNotFound name => name
  | columnNotFound ref => ref.display
  | countMismatch columns values =>
      s!"Column count mismatch: {columns} columns, {values} values"
  | columnRepeated column => s!"Column '{column}' specified more than once"
  | columnAssignedTwice column => s!"Column '{column}' assigned more than once"
  | rowIdOutOfRange id table nextRowId =>
      s!"Row id {id} in table '{table}' is outside the allocated range (next row id {nextRowId})"
  | duplicateRowId id table => s!"Duplicate row id {id} in table '{table}'"
  | rowSetsColumnTwice id table column =>
      s!"Row {id} in table '{table}' sets column '{column}' more than once"
  | oneSidedCondition first second left right =>
      s!"Join condition {first.display} = {second.display} must reference both {left} and {right}"
  | unreadableConfig path cause => s!"Cannot read config {path}: {cause}"
  | invalidConfig path cause => s!"Invalid config {path}: {cause}"
  | noSnapshotPath => "No snapshot path specified"
  | noConfiguredPath => "No path configured"
  | snapshotNotFound path => s!"Snapshot file not found: {path}"
  | cannotCreateDirectory path cause => s!"Cannot create directory {path}: {cause}"
  | cannotWrite path cause => s!"Cannot write {path}: {cause}"
  | cannotReplace path cause => s!"Cannot replace {path}: {cause}"
  | cannotRead path cause => s!"Cannot read {path}: {cause}"
  | undecodableSnapshot path cause => s!"Invalid snapshot {path}: {cause}"
  | invalidSnapshotTable name cause =>
      s!"Invalid snapshot: table '{name}': " ++ cause.kind.message cause.detail
  | repeatedSnapshotTable table => s!"Invalid snapshot: table '{table}' appears more than once"

def message (error : Error) : String :=
  error.kind.message error.detail

end Error
end Tabula
