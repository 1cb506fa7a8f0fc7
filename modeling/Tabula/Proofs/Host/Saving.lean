import Tabula.Proofs.Host.Calls
import Tabula.Session

/-!
# Saving on a disk

Saving makes up to four calls, each of which can fail.  Until the last one succeeds the file at the
path stays what it was: the directories that are created have nothing to do with it, and what is
written is under another name.

## Main statements

- `Reached`: the disks that saves which have not succeeded can make of a disk.
- `Keeps`: a step that is part of such saves and leaves the file at the path alone.
- `Database.saves_save`: a save succeeds and the file holds the document, or it fails and keeps.
-/

namespace Tabula
namespace Disk

variable {disk disk' disk'' : Disk} {path : String}

/-!
# Saves that have not succeeded
-/

/-- Directories have been created, and anything may be under the temporary name. -/
def Reached (path : String) (disk disk' : Disk) : Prop :=
  exists between, More disk between ∧ SameBeside (Path.temporary path) between disk'

theorem Reached.fileAt_eq_none (h : Reached path disk disk') (hvacant : disk.Vacant path) :
    disk'.fileAt path = none := by
  rcases h with ⟨between, hmore, hsame⟩
  rw [hsame.fileAt_of_temporary]
  exact hvacant between hmore

structure Keeps (path : String) (disk disk' : Disk) : Prop where
  reached : forall first, Reached path first disk -> Reached path first disk'
  fileAt : forall bytes, disk.fileAt path = some bytes -> disk'.fileAt path = some bytes

namespace Keeps

theorem of_sameBeside (h : SameBeside (Path.temporary path) disk disk') : Keeps path disk disk' := by
  constructor
  · intro first hfirst
    rcases hfirst with ⟨between, hmore, hsame⟩
    exact ⟨between, hmore, hsame.trans h⟩
  · intro bytes hbytes
    rw [h.fileAt_of_temporary]
    exact hbytes

theorem of_entryAt_eq (hhome : disk'.home = disk.home)
    (hentries : forall place, disk'.entryAt place = disk.entryAt place) : Keeps path disk disk' :=
  of_sameBeside (SameBeside.of_entryAt_eq hhome hentries)

theorem refl (path : String) (disk : Disk) : Keeps path disk disk :=
  of_entryAt_eq rfl fun _ => rfl

theorem trans (h : Keeps path disk disk') (h' : Keeps path disk' disk'') : Keeps path disk disk'' :=
  ⟨fun first hfirst => h'.reached first (h.reached first hfirst),
    fun bytes hbytes => h'.fileAt bytes (h.fileAt bytes hbytes)⟩

end Keeps

/-- The directory is only created while the temporary name leads nowhere, and then nothing has been
written under it yet. -/
theorem keeps_createDirectory {parent : String} (hparent : Path.parent? path = some parent)
    (disk : Disk) : Keeps path disk ((createDirectory parent).run.run disk).2 := by
  cases hplace : disk.place (Path.temporary path) with
  | ok place =>
      rw [createDirectory_eq_self hparent hplace]
      exact Keeps.refl path disk
  | error cause =>
      have hmore := more_createDirectory parent disk
      constructor
      · intro first hfirst
        rcases hfirst with ⟨between, hbetween, hsame⟩
        have hentries : forall place, disk.entryAt place = between.entryAt place := by
          intro place
          apply hsame.entryAt_eq
          intro htemporary
          rw [← hsame.place_iff, hplace] at htemporary
          cases htemporary
        have hwritten := More.of_entryAt_eq hsame.home_eq hentries
        exact ⟨_, (hbetween.trans hwritten).trans hmore, SameBeside.refl _ _⟩
      · intro bytes hbytes
        exact hmore.fileAt hbytes

/-!
# Calls that can fail
-/

/-- The disk on which a call is made. -/
def begun (disk : Disk) : Disk :=
  { disk with failures := disk.failures.tail }

theorem attempt_cases (change : Change String Disk Unit) (disk : Disk) :
    attempt change disk = (.error failure, disk.begun) ∨
      attempt change disk = change.run.run disk.begun := by
  unfold attempt
  dsimp only
  split
  · exact Or.inl rfl
  · exact Or.inr rfl

theorem keeps_begun (path : String) (disk : Disk) : Keeps path disk disk.begun :=
  Keeps.of_entryAt_eq rfl fun _ => rfl

theorem keeps_attempt {change : Change String Disk Unit}
    (h : forall disk, Keeps path disk (change.run.run disk).2) (disk : Disk) :
    Keeps path disk (attempt change disk).2 := by
  rcases attempt_cases change disk with hfailed | hmade
  · rw [hfailed]
    exact keeps_begun path disk
  · rw [hmade]
    exact (keeps_begun path disk).trans (h disk.begun)

theorem run_of_attempt {change : Change String Disk Unit}
    (hok : attempt change disk = (.ok (), disk')) : change.run.run disk.begun = (.ok (), disk') := by
  rcases attempt_cases change disk with hfailed | hmade
  · rw [hfailed] at hok
    cases hok
  · rw [← hmade]
    exact hok

theorem keeps_attempt_createDirectory {parent : String} (hparent : Path.parent? path = some parent)
    (disk : Disk) : Keeps path disk (attempt (createDirectory parent) disk).2 :=
  keeps_attempt (keeps_createDirectory hparent) disk

theorem clock_attempt_createDirectory (parent : String) (disk : Disk) :
    (attempt (createDirectory parent) disk).2.clock = disk.clock := by
  rcases attempt_cases (createDirectory parent) disk with hfailed | hmade
  · rw [hfailed]
    rfl
  · rw [hmade, clock_createDirectory]
    rfl

theorem keeps_attempt_writeBytes (path : String) (bytes : ByteArray) (disk : Disk) :
    Keeps path disk (attempt (writeBytes (Path.temporary path) bytes) disk).2 :=
  keeps_attempt (fun disk => Keeps.of_sameBeside (sameBeside_writeBytes _ bytes disk)) disk

theorem keeps_attempt_remove (path : String) (disk : Disk) :
    Keeps path disk (attempt (remove (Path.temporary path)) disk).2 :=
  keeps_attempt (fun disk => Keeps.of_sameBeside (sameBeside_remove _ disk)) disk

theorem keeps_of_attempt_rename {source target cause : String}
    (herror : attempt (rename source target) disk = (.error cause, disk')) :
    Keeps path disk disk' := by
  rcases attempt_cases (rename source target) disk with hfailed | hmade
  · rw [hfailed] at herror
    cases herror
    exact keeps_begun path disk
  · rw [hmade] at herror
    rw [rename_eq_self_of_error herror]
    exact keeps_begun path disk

/-- A file that is written under the temporary name and renamed is the one at the path. -/
theorem fileAt_of_attempts {bytes : ByteArray}
    (hwrite : attempt (writeBytes (Path.temporary path) bytes) disk = (.ok (), disk'))
    (hrename : attempt (rename (Path.temporary path) path) disk' = (.ok (), disk'')) :
    disk''.fileAt path = some bytes := by
  have hwritten := fileAt_writeBytes (run_of_attempt hwrite)
  have hbegun : More disk' disk'.begun := More.of_entryAt_eq rfl fun _ => rfl
  exact fileAt_rename (hbegun.fileAt hwritten) (run_of_attempt hrename)

end Disk

/-!
# Saving
-/

namespace Database

open Disk (attempt createDirectory writeBytes rename remove Keeps)

variable {path : String} {disk : Disk}

/-- A save either succeeds and the file at the path holds the document, or it fails with an error of
its kind and keeps what was there. -/
inductive Saves (db : Database) (path : String) (disk : Disk) : Except Error Unit × Disk -> Prop where
  | done (disk' : Disk) (h : disk'.fileAt path = some (db.snapshot disk.clock).encode.toUTF8) :
      Saves db path disk (.ok (), disk')
  | failed (error : Error) (disk' : Disk) (hkind : error.kind = .persistence)
      (h : Keeps path disk disk') : Saves db path disk (.error error, disk')

theorem run_createDirectory (path : String) (disk : Disk) :
    (Host.createDirectory path : Change Error Disk (Except String Unit)).run.run disk =
      (.ok (attempt (createDirectory path) disk).1, (attempt (createDirectory path) disk).2) := rfl

theorem run_write (path text : String) (disk : Disk) :
    (Host.write path text : Change Error Disk (Except String Unit)).run.run disk =
      (.ok (attempt (writeBytes path text.toUTF8) disk).1,
        (attempt (writeBytes path text.toUTF8) disk).2) := rfl

theorem run_rename (source target : String) (disk : Disk) :
    (Host.rename source target : Change Error Disk (Except String Unit)).run.run disk =
      (.ok (attempt (rename source target) disk).1, (attempt (rename source target) disk).2) := rfl

theorem run_now (disk : Disk) :
    (Host.now : Change Error Disk Nat).run.run disk = (.ok disk.clock, disk) := rfl

/-- What is left of a save once the directory is there. -/
def replaceFile (db : Database) (path : String) : Change Error Disk Unit := do
  let document := (db.snapshot (<- Host.now)).encode
  let temporary := Path.temporary path
  if let .error cause <- Host.write temporary document then
    throw (.cannotWrite temporary cause)
  if let .error cause <- Host.rename temporary path then
    let _ <- Host.remove temporary
    throw (.cannotReplace path cause)

theorem saves_replaceFile (db : Database) (path : String) (disk : Disk) :
    Saves db path disk ((db.replaceFile path).run.run disk) := by
  unfold replaceFile
  rw [Change.run_bind, run_now]
  dsimp only
  rw [Change.run_bind, run_write]
  have hwritten := Disk.keeps_attempt_writeBytes path (db.snapshot disk.clock).encode.toUTF8 disk
  cases hwrite : attempt (writeBytes (Path.temporary path) (db.snapshot disk.clock).encode.toUTF8)
      disk with
  | mk result disk' =>
      rw [hwrite] at hwritten
      cases result with
      | error cause => exact .failed _ disk' rfl hwritten
      | ok =>
          dsimp only
          rw [Change.run_bind, run_rename]
          cases hrename : attempt (rename (Path.temporary path) path) disk' with
          | mk result disk'' =>
              cases result with
              | error cause =>
                  have hrenamed : Keeps path disk' disk'' :=
                    Disk.keeps_of_attempt_rename hrename
                  have hremoved := Disk.keeps_attempt_remove path disk''
                  exact .failed _ _ rfl ((hwritten.trans hrenamed).trans hremoved)
              | ok => exact .done disk'' (Disk.fileAt_of_attempts hwrite hrename)

theorem Saves.of_keeps {db : Database} {disk disk' : Disk} {result : Except Error Unit × Disk}
    (h : Saves db path disk' result) (hkeeps : Keeps path disk disk')
    (hclock : disk'.clock = disk.clock) : Saves db path disk result := by
  cases h with
  | done disk'' hfile =>
      rw [hclock] at hfile
      exact .done disk'' hfile
  | failed error disk'' hkind hrest => exact .failed error disk'' hkind (hkeeps.trans hrest)

theorem saves_save (db : Database) (h : path ≠ "") (disk : Disk) :
    Saves db path disk ((db.save path : Change Error Disk Unit).run.run disk) := by
  unfold Database.save
  rw [if_neg h]
  cases hparent : Path.parent? path with
  | none => exact saves_replaceFile db path disk
  | some parent =>
      dsimp only
      rw [Change.run_bind, run_createDirectory]
      have hkeeps := Disk.keeps_attempt_createDirectory hparent disk
      have hclock := Disk.clock_attempt_createDirectory parent disk
      cases hcreate : attempt (createDirectory parent) disk with
      | mk result disk' =>
          rw [hcreate] at hkeeps hclock
          cases result with
          | error cause => exact .failed _ disk' rfl hkeeps
          | ok => exact (saves_replaceFile db path disk').of_keeps hkeeps hclock

/-!
# Reading
-/

theorem run_exists? (path : String) (disk : Disk) :
    (Host.exists? path : Change Error Disk Bool).run.run disk =
      (.ok (disk.find path).toOption.isSome, disk) := rfl

theorem run_read (path : String) (disk : Disk) :
    (Host.read path : Change Error Disk (Except String String)).run.run disk =
      (.ok (disk.readText path), disk) := rfl

theorem run_readSnapshot (h : path ≠ "") (disk : Disk) :
    (readSnapshot path : Change Error Disk Snapshot).run.run disk =
      match disk.find path with
      | .error _ => (.error (.snapshotNotFound path), disk)
      | .ok .directory => (.error (.cannotRead path Disk.isADirectory), disk)
      | .ok (.file bytes) =>
          match String.fromUTF8? bytes with
          | none => (.error (.cannotRead path Disk.notUtf8), disk)
          | some document =>
              match Snapshot.decode? document with
              | none => (.error (.undecodableSnapshot path "not a snapshot document"), disk)
              | some snapshot => (.ok snapshot, disk) := by
  unfold readSnapshot
  rw [if_neg h, Change.run_bind, run_exists?]
  dsimp only
  cases hfind : disk.find path with
  | error cause => rfl
  | ok entry =>
      show ((Host.read path : Change Error Disk (Except String String)) >>= _).run.run disk = _
      rw [Change.run_bind, run_read]
      unfold Disk.readText
      rw [hfind, Result.ok_bind]
      cases entry with
      | directory => rfl
      | file bytes =>
          dsimp only
          cases String.fromUTF8? bytes with
          | none => rfl
          | some document =>
              simp only [Result.pure_eq_ok]
              cases Snapshot.decode? document with
              | none => rfl
              | some snapshot => rfl

theorem fromUTF8?_toUTF8 (s : String) : String.fromUTF8? s.toUTF8 = some s := by
  unfold String.fromUTF8? String.toUTF8
  rw [dif_pos s.isValidUTF8]
  rfl

theorem run_openFile_of_no_file {db : Database} {disk' : Disk} (hfile : disk.fileAt path = none)
    (hok : (openFile path : Change Error Disk Database).run.run disk = (.ok db, disk')) :
    db = { createdAt := disk.clock } ∧ disk' = disk := by
  have hempty : (empty : Change Error Disk Database).run.run disk =
      (.ok { createdAt := disk.clock }, disk) := rfl
  unfold openFile at hok
  rw [Change.run_bind, hempty] at hok
  dsimp only at hok
  rw [Change.run_bind, run_exists?] at hok
  dsimp only at hok
  cases hfind : disk.find path with
  | error cause =>
      rw [hfind] at hok
      cases hok
      exact ⟨rfl, rfl⟩
  | ok entry =>
      rcases Disk.find_eq_ok_iff.mp hfind with ⟨place, hplace, hentry⟩
      have hpath : path ≠ "" := (Disk.place_eq_ok_iff.mp hplace).1
      cases entry with
      | file bytes =>
          rw [Disk.fileAt_eq_some_iff.mpr ⟨place, hplace, hentry⟩] at hfile
          cases hfile
      | directory =>
          have hthere : (disk.find path).toOption.isSome = true := by
            rw [hfind]
            rfl
          rw [if_pos hthere, Change.run_bind, run_readSnapshot hpath, hfind] at hok
          cases hok

end Database
end Tabula
