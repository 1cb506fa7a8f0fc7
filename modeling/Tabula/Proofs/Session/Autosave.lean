import Tabula.Proofs.Database.Frame
import Tabula.Proofs.Database.RoundTrip
import Tabula.Proofs.Session.Running

/-!
# Autosave

A session that saves after every change, on a disk whose calls can fail.  The file at the path of the
session holds the database as it was after the last change whose save succeeded, and there is no file
before.  Texts that fail and statements that only look change neither the file nor the database.

## Main statements

- `World`: a session, its disk and the database that was saved last.
- `Performs`: what one text can do.
- `Session.autosave_is_durable`: what every run of texts comes to.
-/

namespace Tabula

open Sql (Statement)

/-!
# Databases in files
-/

namespace Database

variable {db : Database} {disk : Disk} {path : String}

/-- A database whose snapshot can be restored. -/
structure Storable (db : Database) : Prop where
  wellFormed : db.WellFormed
  exportable : db.plain.Exportable
  createdAt_lt : db.createdAt < UInt64.size

theorem storable_new (createdAt : UInt64) : Storable { createdAt := createdAt.toNat } where
  wellFormed := WellFiled.nil
  exportable := by
    intro entry hentry
    cases hentry
  createdAt_lt := createdAt.toNat_lt

theorem Storable.execute (h : db.Storable) {text : String} {statement : Statement}
    (hparse : Statement.parse text = .ok statement) :
    ((execute statement).run.run db).2.Storable := by
  have hfollows := follows_execute h.wellFormed statement
  have hkept := hfollows.viewed (fun plain => plain.Exportable ∧ plain.createdAt = db.createdAt)
    ⟨h.exportable, rfl⟩ fun outcome plain hok =>
      PlainDatabase.exportable_execute h.exportable (Statement.parse_printable hparse) hok
  refine ⟨hfollows.state h.wellFormed, hkept.1, ?_⟩
  exact Nat.lt_of_le_of_lt (Nat.le_of_eq hkept.2) h.createdAt_lt

/-- Every counter fits into its word. -/
def Counted (db : Database) : Prop :=
  forall entry, entry ∈ db.tables -> entry.2.nextRowId < UInt64.size

/-- The file at the path is read as a snapshot that restores to the database, whatever the database
it is restored in the place of. -/
def ComesBack (db : Database) (disk : Disk) (path : String) : Prop :=
  exists snapshot,
    (readSnapshot path : Change Error Disk Snapshot).run.run disk = (.ok snapshot, disk) ∧
    forall other, exists db',
      (restore snapshot).run.run other = (.ok (), db') ∧ db'.plain = db.plain ∧
      forall name column, db'.indexAnswers name column = db.indexAnswers name column

theorem Storable.comesBack (h : db.Storable) (hcounted : db.Counted) (hpath : path ≠ "")
    {now : UInt64} (hfile : disk.fileAt path = some (db.snapshot now.toNat).encode.toUTF8) :
    db.ComesBack disk path := by
  have hencodable := encodable_snapshot h.wellFormed hcounted h.createdAt_lt now.toNat_lt
  have hfind := Disk.find_eq_ok_iff.mpr (Disk.fileAt_eq_some_iff.mp hfile)
  refine ⟨db.snapshot now.toNat, ?_, ?_⟩
  · rw [run_readSnapshot hpath, hfind]
    dsimp only
    rw [fromUTF8?_toUTF8]
    dsimp only
    rw [hencodable.decode?_encode]
  · intro other
    rcases run_restore_snapshot h.wellFormed h.exportable now.toNat other with
      ⟨db', hrun, hplain, h'⟩
    exact ⟨db', hrun, hplain, fun name column =>
      h.wellFormed.indexAnswers_eq h' hplain name column⟩

end Database

/-!
# Runs
-/

/-- A text, with the time at which it is executed and the calls to the disk that fail meanwhile. -/
structure Session.Call where
  text : String
  now : UInt64
  failures : List Bool

/-- A session on a disk, with the database right after the last change whose save succeeded. -/
structure Session.World where
  session : Session
  disk : Disk
  saved : Option Database

namespace Session

/-- The disk that a call finds: its files are those there are. -/
def Call.begin (call : Call) (disk : Disk) : Disk :=
  { disk with clock := call.now.toNat, failures := call.failures }

def Call.isMutation (call : Call) : Bool :=
  match Statement.parse call.text with
  | .ok statement => statement.isMutation
  | .error _ => false

namespace World

def answer (world : World) (call : Call) : (Except Error Outcome × Session) × Disk :=
  runOn (execute call.text) world.session (call.begin world.disk)

/-- The world after a call.  A mutation that is answered with its outcome has been saved. -/
def perform (world : World) (call : Call) : World :=
  match world.answer call with
  | ((.ok _, session), disk) =>
      { session, disk, saved := if call.isMutation then some session.database else world.saved }
  | ((.error _, session), disk) => { session, disk, saved := world.saved }

/-- The world after calls one after the other. -/
def run (world : World) (calls : List Call) : World :=
  calls.foldl perform world

end World

/-- What a call can answer and make of the world.  A text that is no statement, one that is refused
and one that only looks leave the database and the files as they are.  A mutation is saved, or it
stays in the database and the file at the path stays what it is. -/
inductive Performs (path : String) (world : World) (call : Call) :
    Except Error Outcome -> World -> Prop where
  | malformed (error : Error) (hparse : Statement.parse call.text = .error error) :
      Performs path world call (.error error) { world with disk := call.begin world.disk }
  | refused (statement : Statement) (error : Error)
      (hparse : Statement.parse call.text = .ok statement)
      (hexecute : (Database.execute statement).run.run world.session.database =
        (.error error, world.session.database)) :
      Performs path world call (.error error) { world with disk := call.begin world.disk }
  | looked (statement : Statement) (outcome : Outcome)
      (hparse : Statement.parse call.text = .ok statement) (hmutation : statement.isMutation = false)
      (hexecute : (Database.execute statement).run.run world.session.database =
        (.ok outcome, world.session.database)) :
      Performs path world call (.ok outcome) { world with disk := call.begin world.disk }
  | saved (statement : Statement) (outcome : Outcome) (database : Database) (disk : Disk)
      (hparse : Statement.parse call.text = .ok statement) (hmutation : statement.isMutation = true)
      (hexecute : (Database.execute statement).run.run world.session.database =
        (.ok outcome, database))
      (hsave : (database.save path : Change Error Disk Unit).run.run (call.begin world.disk) =
        (.ok (), disk)) :
      Performs path world call (.ok outcome)
        { session := { world.session with database }, disk, saved := some database }
  | unsaved (statement : Statement) (outcome : Outcome) (database : Database) (disk : Disk)
      (error : Error) (hparse : Statement.parse call.text = .ok statement)
      (hmutation : statement.isMutation = true)
      (hexecute : (Database.execute statement).run.run world.session.database =
        (.ok outcome, database))
      (hsave : (database.save path : Change Error Disk Unit).run.run (call.begin world.disk) =
        (.error error, disk))
      (hkind : error.kind = .persistence) (hfile : disk.fileAt path = world.disk.fileAt path) :
      Performs path world call (.error error)
        { session := { world.session with database }, disk, saved := world.saved }

/-!
# The invariant of every run
-/

/-- The file at the path holds what was saved last; while nothing has been saved, the disk is one that
failing saves make of the first disk. -/
structure Kept (path : String) (first : Disk) (world : World) : Prop where
  autosave : world.session.config.autosave = true
  dataPath : world.session.config.dataPath = some path
  storable : world.session.database.Storable
  absent : world.saved = none -> Disk.Reached path first world.disk
  present : forall db, world.saved = some db -> db.Storable ∧ exists now : UInt64,
    world.disk.fileAt path = some (db.snapshot now.toNat).encode.toUTF8

variable {first disk : Disk} {world : World} {call : Call}

theorem keeps_begin (path : String) (call : Call) (disk : Disk) :
    Disk.Keeps path disk (call.begin disk) :=
  Disk.Keeps.of_entryAt_eq rfl fun _ => rfl

/-- Steps that keep the file keep what it holds, whatever becomes of the database. -/
theorem Kept.of_keeps (h : Kept path first world) (hkeeps : Disk.Keeps path world.disk disk)
    {database : Database} (hstorable : database.Storable) :
    Kept path first { world with session := { world.session with database }, disk } where
  autosave := h.autosave
  dataPath := h.dataPath
  storable := hstorable
  absent := fun hsaved => hkeeps.reached first (h.absent hsaved)
  present := by
    intro db hsaved
    rcases h.present db hsaved with ⟨hdb, now, hfile⟩
    exact ⟨hdb, now, hkeeps.fileAt _ hfile⟩

/-- A step that keeps the file leaves it as it is, absent or present. -/
theorem Kept.fileAt_eq (h : Kept path first world) (hvacant : first.Vacant path)
    (hkeeps : Disk.Keeps path world.disk disk) : disk.fileAt path = world.disk.fileAt path := by
  cases hsaved : world.saved with
  | none =>
      have hreached := h.absent hsaved
      rw [hreached.fileAt_eq_none hvacant, (hkeeps.reached first hreached).fileAt_eq_none hvacant]
  | some db =>
      rcases h.present db hsaved with ⟨_, now, hfile⟩
      rw [hfile, hkeeps.fileAt _ hfile]

theorem perform_of_answer_error {error : Error} {session : Session}
    (hanswer : world.answer call = ((.error error, session), disk)) :
    world.perform call = { session, disk, saved := world.saved } := by
  unfold World.perform
  rw [hanswer]

theorem perform_of_answer_ok {outcome : Outcome} {session : Session} {statement : Statement}
    (hparse : Statement.parse call.text = .ok statement)
    (hanswer : world.answer call = ((.ok outcome, session), disk)) :
    world.perform call = { session, disk, saved :=
      if statement.isMutation then some session.database else world.saved } := by
  unfold World.perform Call.isMutation
  rw [hanswer, hparse]

/-- A mutation that is executed is saved or fails to be saved. -/
theorem Kept.perform_mutation (h : Kept path first world) (hvacant : first.Vacant path)
    (hpath : path ≠ "") {statement : Statement} {outcome : Outcome} {database : Database}
    (hparse : Statement.parse call.text = .ok statement) (hmutation : statement.isMutation = true)
    (hexecute : (Database.execute statement).run.run world.session.database =
      (.ok outcome, database)) :
    Performs path world call (world.answer call).1.1 (world.perform call) ∧
      Kept path first (world.perform call) := by
  have hstorable := h.storable.execute hparse
  have hrun := runOn_execute h.autosave h.dataPath call.text (call.begin world.disk)
  have hsaves := Database.saves_save database hpath (call.begin world.disk)
  rw [hexecute] at hstorable
  rw [hparse] at hrun
  dsimp only at hrun
  rw [hexecute] at hrun
  dsimp only at hrun
  rw [if_pos hmutation] at hrun
  cases hsave : (database.save path : Change Error Disk Unit).run.run (call.begin world.disk) with
  | mk result disk =>
      rw [hsave] at hsaves hrun
      cases hsaves with
      | done _ hfile =>
          have hanswer : world.answer call =
              ((.ok outcome, { world.session with database }), disk) := hrun
          rw [perform_of_answer_ok hparse hanswer, if_pos hmutation, hanswer]
          refine ⟨.saved statement outcome database disk hparse hmutation hexecute hsave, ?_⟩
          refine ⟨h.autosave, h.dataPath, hstorable, nofun, ?_⟩
          intro db hdb
          cases hdb
          exact ⟨hstorable, call.now, hfile⟩
      | failed error _ hkind hkeeps =>
          have hanswer : world.answer call =
              ((.error error, { world.session with database }), disk) := hrun
          have hkept := (keeps_begin path call world.disk).trans hkeeps
          rw [perform_of_answer_error hanswer, hanswer]
          exact ⟨.unsaved statement outcome database disk error hparse hmutation hexecute hsave hkind
            (h.fileAt_eq hvacant hkept), h.of_keeps hkept hstorable⟩

/-- Every call performs one of the steps and keeps the invariant. -/
theorem Kept.perform (h : Kept path first world) (hvacant : first.Vacant path)
    (hpath : path ≠ "") (call : Call) :
    Performs path world call (world.answer call).1.1 (world.perform call) ∧
      Kept path first (world.perform call) := by
  have hrun := runOn_execute h.autosave h.dataPath call.text (call.begin world.disk)
  have hsame := h.of_keeps (keeps_begin path call world.disk) h.storable
  cases hparse : Statement.parse call.text with
  | error error =>
      rw [hparse] at hrun
      have hanswer : world.answer call = ((.error error, world.session), call.begin world.disk) :=
        hrun
      rw [perform_of_answer_error hanswer, hanswer]
      exact ⟨.malformed error hparse, hsame⟩
  | ok statement =>
      rw [hparse] at hrun
      dsimp only at hrun
      cases hexecute : (Database.execute statement).run.run world.session.database with
      | mk result database =>
          rw [hexecute] at hrun
          cases result with
          | error error =>
              have hdatabase : database = world.session.database := by
                have hfollows := Database.follows_execute h.storable.wellFormed statement
                rw [hexecute] at hfollows
                exact hfollows.eq_of_error rfl
              subst hdatabase
              have hanswer : world.answer call =
                  ((.error error, world.session), call.begin world.disk) := hrun
              rw [perform_of_answer_error hanswer, hanswer]
              exact ⟨.refused statement error hparse hexecute, hsame⟩
          | ok outcome =>
              cases hmutation : statement.isMutation with
              | true => exact h.perform_mutation hvacant hpath hparse hmutation hexecute
              | false =>
                  have heffect := Database.execute_effect h.storable.wellFormed hexecute
                  have hdatabase : database = world.session.database :=
                    heffect.eq_of_not_mutation hmutation
                  subst hdatabase
                  dsimp only at hrun
                  rw [hmutation] at hrun
                  have hanswer : world.answer call =
                      ((.ok outcome, world.session), call.begin world.disk) := hrun
                  rw [perform_of_answer_ok hparse hanswer, hmutation, hanswer]
                  exact ⟨.looked statement outcome hparse hmutation hexecute, hsame⟩

theorem Kept.run (h : Kept path first world) (hvacant : first.Vacant path) (hpath : path ≠ "")
    (calls : List Call) : Kept path first (world.run calls) := by
  induction calls generalizing world with
  | nil => exact h
  | cons call rest ih => exact ih (h.perform hvacant hpath call).2

theorem kept_create {config : Config} {session : Session} {now : UInt64} {disk' : Disk}
    (hautosave : config.autosave = true) (hdataPath : config.dataPath = some path)
    (hvacant : disk.Vacant path)
    (hcreate : (create config : Change Error Disk Session).run.run
      { disk with clock := now.toNat } = (.ok session, disk')) :
    Kept path disk { session, disk := disk', saved := none } := by
  have hsame : Disk.More disk { disk with clock := now.toNat } :=
    Disk.More.of_entryAt_eq rfl fun _ => rfl
  rcases create_eq_new hdataPath (hvacant _ hsame) hcreate with ⟨rfl, rfl⟩
  exact {
    autosave := hautosave
    dataPath := hdataPath
    storable := Database.storable_new now
    absent := fun _ => ⟨_, hsame, Disk.SameBeside.refl _ _⟩
    present := nofun }

/-!
# Durability
-/

/-- What the file at a path is to hold: nothing before the first save, and then the database that was
saved last. -/
def World.Holds (world : World) (path : String) : Prop :=
  match world.saved with
  | none => world.disk.fileAt path = none
  | some db => db.Counted -> db.ComesBack world.disk path

theorem Kept.holds (h : Kept path first world) (hvacant : first.Vacant path) (hpath : path ≠ "") :
    world.Holds path := by
  unfold World.Holds
  cases hsaved : world.saved with
  | none => exact (h.absent hsaved).fileAt_eq_none hvacant
  | some db =>
      intro hcounted
      rcases h.present db hsaved with ⟨hstorable, now, hfile⟩
      exact hstorable.comesBack hcounted hpath hfile

/-- A session that saves after every change is opened where there is no file and none comes to light
when missing directories are created.  After every run of texts, whichever calls to the disk fail,
there is no file if no save has succeeded, and otherwise the file restores to the database right after
the last change whose save succeeded; and whatever is called next performs one of the steps. -/
theorem autosave_is_durable (config : Config) (path : String) (disk : Disk) (opened : UInt64)
    (calls : List Call) {session : Session} {disk' : Disk} (hautosave : config.autosave = true)
    (hdataPath : config.dataPath = some path) (hpath : path ≠ "") (hvacant : disk.Vacant path)
    (hcreate : (create config : Change Error Disk Session).run.run
      { disk with clock := opened.toNat } = (.ok session, disk')) :
    let world : World := { session, disk := disk', saved := none }
    (world.run calls).Holds path ∧ forall call,
      Performs path (world.run calls) call ((world.run calls).answer call).1.1
        ((world.run calls).perform call) := by
  have hkept := (kept_create hautosave hdataPath hvacant hcreate).run hvacant hpath calls
  exact ⟨hkept.holds hvacant hpath, fun call => (hkept.perform hvacant hpath call).1⟩

/-!
# A small run

The first save cannot write, the second succeeds and the third cannot rename, so the row is gone from
the database and still there in the file.
-/

def sampleConfig : Config where
  dataPath := some "s"
  autosave := true

def sampleWorld : World where
  session := { database := { createdAt := 5 }, config := sampleConfig }
  disk := { clock := 5 }
  saved := none

def sampleTexts : List Call := [
  ⟨"CREATE TABLE Pets (Id INT PRIMARY KEY, name TEXT)", 6, [true]⟩,
  ⟨"INSERT INTO pets (name, id) VALUES ('Rex', 7)", 7, []⟩,
  ⟨"DELETE FROM pets", 8, [false, true]⟩]

def sampleSaved : Database where
  tables := [("pets", Database.sampleTable)]
  createdAt := 5

theorem autosave_is_durable_sample :
    (sampleWorld.run sampleTexts).saved = some sampleSaved ∧
      sampleSaved.ComesBack (sampleWorld.run sampleTexts).disk "s" := by
  have hsaved : (sampleWorld.run sampleTexts).saved = some sampleSaved := by decide +kernel
  have hplace : ({} : Disk).place "s" = .ok ["s"] := rfl
  have hcreate : (create sampleConfig : Change Error Disk Session).run.run
      { clock := (5 : UInt64).toNat } = (.ok sampleWorld.session, sampleWorld.disk) := rfl
  have hholds : (sampleWorld.run sampleTexts).Holds "s" :=
    (autosave_is_durable sampleConfig "s" {} 5 sampleTexts rfl rfl (by decide)
      (Disk.vacant_of_place hplace rfl) hcreate).1
  unfold World.Holds at hholds
  rw [hsaved] at hholds
  refine ⟨hsaved, hholds ?_⟩
  intro entry hentry
  rw [List.mem_singleton.mp hentry]
  decide

/-!
# A file that comes to light

A path can lead through a directory that is missing and back to a file that is there.  The save
creates the directory, and then the old file is at the path although nothing has been saved.
-/

def buriedDisk : Disk where
  entries := [(["f"], .file "old".toUTF8), (["f.tmp"], .directory)]

def buriedConfig : Config where
  dataPath := some "d/../f"
  autosave := true

def buriedWorld : World where
  session := { database := { createdAt := 5 }, config := buriedConfig }
  disk := { buriedDisk with clock := 5 }
  saved := none

def buriedCall : Call where
  text := "CREATE TABLE t (a INT)"
  now := 6
  failures := []

theorem file_comes_to_light :
    buriedDisk.fileAt "d/../f" = none ∧
      (create buriedConfig : Change Error Disk Session).run.run { buriedDisk with clock := 5 } =
        (.ok buriedWorld.session, buriedWorld.disk) ∧
      (buriedWorld.perform buriedCall).saved = none ∧
      ¬(buriedWorld.perform buriedCall).Holds "d/../f" := by
  have hsaved : (buriedWorld.perform buriedCall).saved = none := by decide +kernel
  have hfile : ((buriedWorld.perform buriedCall).disk.fileAt "d/../f").isSome = true := by
    decide +kernel
  refine ⟨rfl, rfl, hsaved, ?_⟩
  intro hholds
  unfold World.Holds at hholds
  rw [hsaved] at hholds
  rw [hholds] at hfile
  cases hfile

end Session
end Tabula
