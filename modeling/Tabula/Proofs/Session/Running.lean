import Tabula.Proofs.Host.Saving

/-!
# Running sessions

What an action of a session makes of the session and of the disk that it is on.
-/

namespace Tabula

open Sql (Statement)

/-!
# Actions that can fail
-/

section

variable {m : Type -> Type} [Monad m] [LawfulMonad m] {σ ε α β : Type}

theorem run_get_except (s : σ) :
    (get : ExceptT ε (StateT σ m) σ).run.run s = pure (.ok s, s) := by
  show (Except.ok <$> (get : StateT σ m σ)).run s = _
  rw [StateT.run_map, StateT.run_get, map_pure]

theorem run_modify_except (f : σ -> σ) (s : σ) :
    (modify f : ExceptT ε (StateT σ m) PUnit).run.run s = pure (.ok (), f s) := by
  show (Except.ok <$> (modify f : StateT σ m PUnit)).run s = _
  rw [StateT.run_map, StateT.run_modify, map_pure]

theorem run_bind_except_of_ok {first : ExceptT ε (StateT σ m) α}
    {next : α -> ExceptT ε (StateT σ m) β} {s between : σ} {a : α}
    (h : first.run.run s = pure (.ok a, between)) :
    (first >>= next).run.run s = (next a).run.run between := by
  rw [ExceptT.run_bind, StateT.run_bind, h, pure_bind]

theorem run_lift_except {action : StateT σ m α} {s s' : σ} {a : α}
    (h : action.run s = pure (a, s')) :
    (liftM action : ExceptT ε (StateT σ m) α).run.run s = pure (.ok a, s') := by
  show (Except.ok <$> action).run s = _
  rw [StateT.run_map, h, map_pure]

end

namespace Session

theorem run_onDatabase {m : Type -> Type} [Monad m] [LawfulMonad m] {α : Type}
    (change : Change Error Database α) (session : Session) :
    (onDatabase (m := m) change).run.run session =
      pure ((change.run.run session.database).1,
        { session with database := (change.run.run session.database).2 }) := by
  unfold onDatabase
  rw [run_bind_except_of_ok (run_get_except session)]
  rcases change.run.run session.database with ⟨result, database⟩
  dsimp only
  rw [run_bind_except_of_ok (run_modify_except _ session)]
  cases result with
  | ok a => rfl
  | error e => rfl

/-!
# On a disk
-/

variable {path : String}

def runOn {α : Type} (action : SessionM (StateM Disk) α) (session : Session) (disk : Disk) :
    (Except Error α × Session) × Disk :=
  (action.run.run session).run disk

theorem runOn_bind {α β : Type} (first : SessionM (StateM Disk) α)
    (next : α -> SessionM (StateM Disk) β) (session : Session) (disk : Disk) :
    runOn (first >>= next) session disk =
      match runOn first session disk with
      | ((.ok a, session), disk) => runOn (next a) session disk
      | ((.error e, session), disk) => ((.error e, session), disk) := by
  unfold runOn
  rw [ExceptT.run_bind, StateT.run_bind, StateT.run_bind]
  rcases (first.run.run session).run disk with ⟨⟨result, session'⟩, disk'⟩
  cases result with
  | ok a => rfl
  | error e => rfl

theorem runOn_onDatabase {α : Type} (change : Change Error Database α) (session : Session)
    (disk : Disk) :
    runOn (onDatabase change) session disk =
      (((change.run.run session.database).1,
        { session with database := (change.run.run session.database).2 }), disk) := by
  have hget : runOn get session disk = ((.ok session, session), disk) := rfl
  unfold onDatabase
  rw [runOn_bind, hget]
  dsimp only
  rcases change.run.run session.database with ⟨result, database⟩
  cases result with
  | ok a => rfl
  | error e => rfl

theorem runOn_autosave (session : Session) (hautosave : session.config.autosave = true)
    (hpath : session.config.dataPath = some path) (disk : Disk) :
    runOn autosave session disk =
      ((((session.database.save path : Change Error Disk Unit).run.run disk).1, session),
        ((session.database.save path : Change Error Disk Unit).run.run disk).2) := by
  unfold autosave
  rw [runOn_bind]
  show runOn (if session.config.autosave = true then _ else _) session disk = _
  rw [if_pos hautosave, hpath]
  rfl

/-- What executing a text comes to: it is parsed, its statement is executed on the database and a
mutation is saved. -/
theorem runOn_execute {session : Session} (hautosave : session.config.autosave = true)
    (hpath : session.config.dataPath = some path) (text : String) (disk : Disk) :
    runOn (execute text) session disk =
      match Statement.parse text with
      | .error error => ((.error error, session), disk)
      | .ok statement =>
          match (Database.execute statement).run.run session.database with
          | (.error error, database) => ((.error error, { session with database }), disk)
          | (.ok outcome, database) =>
              if statement.isMutation then
                match (database.save path : Change Error Disk Unit).run.run disk with
                | (.error error, disk) => ((.error error, { session with database }), disk)
                | (.ok (), disk) => ((.ok outcome, { session with database }), disk)
              else
                ((.ok outcome, { session with database }), disk) := by
  unfold execute
  cases Statement.parse text with
  | error error => rfl
  | ok statement =>
      dsimp only
      rw [runOn_bind, runOn_onDatabase]
      rcases (Database.execute statement).run.run session.database with ⟨result, database⟩
      cases result with
      | error error => rfl
      | ok outcome =>
          dsimp only
          cases statement.isMutation with
          | false => rfl
          | true =>
              rw [if_pos rfl, if_pos rfl, runOn_bind,
                runOn_autosave { session with database } hautosave hpath]
              rcases (database.save path : Change Error Disk Unit).run.run disk with ⟨saved, disk'⟩
              cases saved with
              | error error => rfl
              | ok => rfl

/-- A session that does not save leaves the disk alone. -/
theorem runOn_execute_quiet {session : Session} (hquiet : session.config.autosave = false)
    {text : String} {statement : Statement} (hparse : Statement.parse text = .ok statement)
    (disk : Disk) :
    runOn (execute text) session disk =
      ((((Database.execute statement).run.run session.database).1,
        { session with database := ((Database.execute statement).run.run session.database).2 }),
        disk) := by
  have hautosave : forall database, runOn autosave { session with database } disk =
      ((.ok (), { session with database }), disk) := by
    intro database
    unfold autosave
    rw [runOn_bind]
    show runOn (if session.config.autosave = true then _ else _) { session with database } disk = _
    rw [if_neg (Bool.eq_false_iff.mp hquiet)]
    rfl
  unfold execute
  rw [hparse]
  dsimp only
  rw [runOn_bind, runOn_onDatabase]
  rcases (Database.execute statement).run.run session.database with ⟨result, database⟩
  cases result with
  | error error => rfl
  | ok outcome =>
      dsimp only
      cases statement.isMutation with
      | false => rfl
      | true =>
          rw [if_pos rfl, runOn_bind, hautosave]
          rfl

/-- A session is created with a new database where there is no file. -/
theorem create_eq_new {config : Config} {session : Session} {disk disk' : Disk}
    (hpath : config.dataPath = some path) (hfile : disk.fileAt path = none)
    (hcreate : (create config : Change Error Disk Session).run.run disk = (.ok session, disk')) :
    session = { database := { createdAt := disk.clock }, config } ∧ disk' = disk := by
  unfold create at hcreate
  rw [hpath] at hcreate
  cases hload : config.loadOnOpen with
  | false =>
      rw [hload] at hcreate
      cases hcreate
      exact ⟨rfl, rfl⟩
  | true =>
      rw [hload] at hcreate
      rcases Change.run_bind_eq_ok_iff.mp hcreate with ⟨db, between, hopen, hreturn⟩
      rcases Database.run_openFile_of_no_file hfile hopen with ⟨rfl, rfl⟩
      cases hreturn
      exact ⟨rfl, rfl⟩

end Session

end Tabula
