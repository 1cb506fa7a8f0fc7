import Tabula.Proofs.Database.Reachable
import Tabula.Proofs.Database.RoundTrip
import Tabula.Proofs.Shell.Statements
import Tabula.Shell.Program

/-!
# Reachable shells

A shell is started and then reads lines: statements, commands, among them those that load a snapshot,
and lines that are neither.  Whatever it reads, and whatever the world that it runs in answers, its
database stays well-formed.

## Main statements

- `Reachable`: the shells that a run of the program comes to.
- `Reachable.wellFormed`: their databases are well-formed.
-/

namespace Tabula

/-!
# Properties of a state that actions keep
-/

section

variable {World σ ε α β : Type}

/-- Whatever the world answers, the action keeps the property of the state. -/
def Preserves (property : σ -> Prop) (action : StateT σ (StateM World) α) : Prop :=
  forall s world, property s -> property ((action.run s).run world).1.2

variable {property : σ -> Prop}

theorem preserves_pure (a : α) :
    Preserves property (pure a : StateT σ (StateM World) α) :=
  fun _ _ hs => hs

theorem preserves_bind {first : StateT σ (StateM World) α} {next : α -> StateT σ (StateM World) β}
    (h : Preserves property first) (hnext : forall a, Preserves property (next a)) :
    Preserves property (first >>= next) := by
  intro s world hs
  rw [StateT.run_bind]
  exact hnext _ _ _ (h s world hs)

theorem preserves_get : Preserves property (get : StateT σ (StateM World) σ) :=
  fun _ _ hs => hs

theorem preserves_modify {f : σ -> σ} (h : forall s, property s -> property (f s)) :
    Preserves property (modify f : StateT σ (StateM World) Unit) :=
  fun s _ hs => h s hs

theorem preserves_lift (action : StateM World α) :
    Preserves property (liftM action : StateT σ (StateM World) α) :=
  fun _ _ hs => hs

theorem preserves_get_except :
    Preserves property (get : ExceptT ε (StateT σ (StateM World)) σ).run :=
  fun _ _ hs => hs

theorem preserves_throw (e : ε) :
    Preserves property (throw e : ExceptT ε (StateT σ (StateM World)) α).run :=
  fun _ _ hs => hs

theorem preserves_of_run {action : StateT σ (StateM World) α} (h : Preserves property action) :
    Preserves property (liftM action : ExceptT ε (StateT σ (StateM World)) α).run :=
  fun s world hs => h s world hs

theorem preserves_forM {action : α -> StateT σ (StateM World) Unit} {items : List α}
    (h : forall a, Preserves property (action a)) : Preserves property (items.forM action) := by
  induction items with
  | nil => exact preserves_pure ()
  | cons a rest ih => exact preserves_bind (h a) fun _ => ih

theorem preserves_bind_except {first : ExceptT ε (StateT σ (StateM World)) α}
    {next : α -> ExceptT ε (StateT σ (StateM World)) β} (h : Preserves property first.run)
    (hnext : forall a, Preserves property (next a).run) :
    Preserves property (first >>= next).run := by
  rw [ExceptT.run_bind]
  apply preserves_bind h
  intro result
  cases result with
  | ok a => exact hnext a
  | error e => exact preserves_pure _

theorem preserves_forM_except {action : α -> ExceptT ε (StateT σ (StateM World)) Unit}
    {items : List α} (h : forall a, Preserves property (action a).run) :
    Preserves property (items.forM action).run := by
  induction items with
  | nil => exact preserves_pure _
  | cons a rest ih => exact preserves_bind_except (h a) fun _ => ih

end

/-!
# Sessions
-/

namespace Session

variable {World α : Type}

/-- A session with a well-formed database. -/
def WellFormed (session : Session) : Prop :=
  session.database.WellFormed

theorem preserves_onDatabase {change : Change Error Database α}
    (h : forall db : Database, db.WellFormed -> (change.run.run db).2.WellFormed) :
    Preserves WellFormed (onDatabase (m := StateM World) change).run := by
  intro session world hsession
  rw [run_onDatabase]
  exact h session.database hsession

theorem preserves_onHost (action : ExceptT Error (StateM World) α) :
    Preserves WellFormed (onHost action).run :=
  preserves_lift action.run

theorem preserves_configuredPath :
    Preserves WellFormed (configuredPath (m := StateM World)).run := by
  refine preserves_bind_except preserves_get_except ?_
  intro session
  cases session.config.dataPath with
  | some path => exact preserves_pure _
  | none => exact preserves_throw _

variable [Host (StateM World)]

theorem preserves_saveTo (path : String) :
    Preserves WellFormed (saveTo (m := StateM World) path).run :=
  preserves_bind_except preserves_get_except fun _ => preserves_onHost _

theorem preserves_save : Preserves WellFormed (save (m := StateM World)).run :=
  preserves_bind_except preserves_configuredPath preserves_saveTo

theorem preserves_loadFrom (path : String) :
    Preserves WellFormed (loadFrom (m := StateM World) path).run := by
  refine preserves_bind_except (preserves_onHost _) ?_
  intro snapshot
  apply preserves_onDatabase
  intro db hdb
  exact hdb.perform (.restore snapshot)

theorem preserves_load : Preserves WellFormed (load (m := StateM World)).run :=
  preserves_bind_except preserves_configuredPath preserves_loadFrom

theorem preserves_autosave : Preserves WellFormed (autosave (m := StateM World)).run := by
  refine preserves_bind_except preserves_get_except ?_
  intro session
  split
  · split
    · exact preserves_saveTo _
    · exact preserves_pure _
  · exact preserves_pure _

theorem preserves_execute (sql : String) :
    Preserves WellFormed (execute (m := StateM World) sql).run := by
  unfold execute
  cases Sql.Statement.parse sql with
  | error error => exact preserves_throw _
  | ok statement =>
      apply preserves_bind_except
      · apply preserves_onDatabase
        intro db hdb
        exact (Database.follows_execute hdb statement).state hdb
      · intro outcome
        dsimp only
        split
        · exact preserves_bind_except preserves_autosave fun _ => preserves_pure _
        · exact preserves_pure _

end Session

/-!
# Shells
-/

namespace Shell

variable {World α : Type}

/-- A shell on a well-formed database. -/
def WellFormed (shell : Shell) : Prop :=
  shell.session.WellFormed

theorem preserves_print (piece : Printed) :
    Preserves WellFormed (print (m := StateM World) piece) :=
  preserves_modify fun _ hshell => hshell

theorem preserves_printRows (set : RowSet) :
    Preserves WellFormed (printRows (m := StateM World) set) :=
  preserves_forM fun line => preserves_print (.output (line ++ "\n"))

theorem preserves_printOutcome (outcome : Outcome) :
    Preserves WellFormed (printOutcome (m := StateM World) outcome) := by
  refine preserves_bind preserves_get ?_
  intro shell
  cases outcome with
  | rows set =>
      cases shell.mode with
      | table => exact preserves_printRows set
      | json => exact preserves_print _
  | _ => exact preserves_print _

theorem preserves_onSession {action : SessionM (StateM World) α}
    (h : Preserves Session.WellFormed action.run) :
    Preserves WellFormed (onSession action).run := by
  intro shell world hshell
  exact h shell.session world hshell

theorem preserves_listTables : Preserves WellFormed (listTables (m := StateM World)) := by
  refine preserves_bind preserves_get ?_
  intro shell
  split
  · exact preserves_print _
  · exact preserves_forM fun _ => preserves_print _

theorem preserves_setMode (mode : OutputMode) :
    Preserves WellFormed (setMode (m := StateM World) mode).run :=
  fun _ _ hshell => hshell

variable [Host (StateM World)]

theorem preserves_runStatement (sql : String) :
    Preserves WellFormed (runStatement (m := StateM World) sql) := by
  refine preserves_bind (preserves_onSession (Session.preserves_execute sql)) ?_
  intro result
  cases result with
  | ok outcome => exact preserves_printOutcome outcome
  | error complaint => exact preserves_print _

theorem preserves_describe (name : String) :
    Preserves WellFormed (describe (m := StateM World) name).run := by
  refine preserves_bind_except (preserves_onSession (Session.preserves_execute _)) ?_
  intro outcome
  cases outcome with
  | rows set => exact preserves_pure _
  | _ => exact preserves_throw _

theorem preserves_showSchema (name : String) :
    Preserves WellFormed (showSchema (m := StateM World) name).run := by
  refine preserves_bind_except (preserves_describe name) ?_
  intro set
  refine preserves_bind_except preserves_get_except ?_
  intro shell
  cases shell.session.database.table name with
  | error error => exact preserves_throw _
  | ok table =>
      exact preserves_bind_except (preserves_of_run (preserves_print _)) fun _ =>
        preserves_of_run (preserves_printRows set)

theorem preserves_showSchemas : Preserves WellFormed (showSchemas (m := StateM World)).run := by
  refine preserves_bind_except preserves_get_except ?_
  intro shell
  split
  · exact preserves_of_run (preserves_print _)
  · apply preserves_forM_except
    intro name
    exact preserves_bind_except (preserves_showSchema name) fun _ =>
      preserves_of_run (preserves_print _)

theorem preserves_command (input name : String) (argument : Option String) :
    Preserves WellFormed (command (m := StateM World) input name argument).run := by
  unfold command
  split
  · exact preserves_of_run (preserves_print _)
  · exact preserves_of_run preserves_listTables
  · exact preserves_showSchemas
  · exact preserves_showSchema _
  · exact preserves_onSession Session.preserves_save
  · exact preserves_onSession (Session.preserves_saveTo _)
  · exact preserves_onSession Session.preserves_load
  · exact preserves_onSession (Session.preserves_loadFrom _)
  · exact preserves_setMode _
  · exact preserves_setMode _
  · exact preserves_throw _
  · exact preserves_throw _

theorem preserves_runCommand (input : List Char) :
    Preserves WellFormed (runCommand (m := StateM World) input) := by
  unfold runCommand
  dsimp only
  split
  · exact preserves_pure _
  · refine preserves_bind (preserves_command _ _ _) ?_
    intro result
    cases result with
    | ok done =>
        dsimp only
        split
        · exact preserves_bind (preserves_print _) fun _ => preserves_pure _
        · exact preserves_pure _
    | error complaint => exact preserves_bind (preserves_print _) fun _ => preserves_pure _

/-- Whatever line a shell reads, its database stays well-formed. -/
theorem preserves_readLine (line : List Char) :
    Preserves WellFormed (readLine (m := StateM World) line) := by
  refine preserves_bind preserves_get ?_
  intro shell
  dsimp only
  split
  · exact preserves_runCommand _
  · split
    · exact preserves_pure _
    · split
      · refine preserves_bind (preserves_modify fun _ hshell => hshell) ?_
        intro _
        refine preserves_bind (preserves_runStatement _) ?_
        intro _
        exact preserves_pure _
      · refine preserves_bind (preserves_modify fun _ hshell => hshell) ?_
        intro _
        exact preserves_pure _

/-!
# Starting
-/

theorem wellFormed_empty {db : Database} {world world' : World}
    (h : (Database.empty : Change Error World Database).run.run world = (.ok db, world')) :
    db.WellFormed := by
  rcases Change.run_bind_eq_ok_iff.mp h with ⟨createdAt, _, _, hreturn⟩
  cases hreturn
  exact WellFiled.nil

theorem wellFormed_openFile {path : String} {db : Database} {world world' : World}
    (h : (Database.openFile path : Change Error World Database).run.run world = (.ok db, world')) :
    db.WellFormed := by
  rcases Change.run_bind_eq_ok_iff.mp h with ⟨new, _, hempty, h⟩
  have hnew := wellFormed_empty hempty
  rcases Change.run_bind_eq_ok_iff.mp h with ⟨found, _, _, h⟩
  split at h
  · rcases Change.run_bind_eq_ok_iff.mp h with ⟨snapshot, _, _, h⟩
    have hrestored : ((Database.restore snapshot).run.run new).2.WellFormed :=
      hnew.perform (.restore snapshot)
    rcases hrestore : (Database.restore snapshot).run.run new with ⟨result, restored⟩
    rw [hrestore] at h hrestored
    cases result with
    | error error => cases h
    | ok done =>
        cases h
        exact hrestored
  · cases h
    exact hnew

theorem wellFormed_create {config : Config} {session : Session} {world world' : World}
    (h : (Session.create config : Change Error World Session).run.run world =
      (.ok session, world')) : session.WellFormed := by
  unfold Session.create at h
  split at h
  · rcases Change.run_bind_eq_ok_iff.mp h with ⟨db, _, hopen, hreturn⟩
    cases hreturn
    exact wellFormed_openFile hopen
  · rcases Change.run_bind_eq_ok_iff.mp h with ⟨db, _, hempty, hreturn⟩
    cases hreturn
    exact wellFormed_empty hempty

theorem wellFormed_start {options : Options} {shell : Shell} {world world' : World}
    (h : (start (m := StateM World) options).run world = (.ok shell, world')) :
    shell.WellFormed := by
  unfold start at h
  rw [StateT.run_bind] at h
  rcases hconfigure : (configure (m := StateM World) options).run.run world with ⟨result, next⟩
  rw [hconfigure] at h
  cases result with
  | error error => cases h
  | ok config =>
      change StateT.run (_ >>= _) next = _ at h
      rw [StateT.run_bind] at h
      rcases hcreate : (Session.create (m := StateM World) config).run.run next with ⟨made, last⟩
      rw [hcreate] at h
      cases made with
      | error error => cases h
      | ok session =>
          cases h
          exact wellFormed_create hcreate

/-!
# Runs
-/

variable (World) in
/-- The shells that a run of the program comes to: one that is started, and one that has read a
line.  The world may be another one at each line. -/
inductive Reachable : Shell -> Prop where
  | start {options : Options} {shell : Shell} {world world' : World}
      (hstart : (start (m := StateM World) options).run world = (.ok shell, world')) :
      Reachable shell
  | read {shell : Shell} (h : Reachable shell) (line : List Char) (world : World) :
      Reachable (((readLine (m := StateM World) line).run shell).run world).1.2

/-- The database of a shell is well-formed, whatever has been read. -/
theorem Reachable.wellFormed {shell : Shell} (h : Reachable World shell) : shell.WellFormed := by
  induction h with
  | start hstart => exact wellFormed_start hstart
  | read _ line world ih => exact preserves_readLine line _ world ih

/-!
# Loading
-/

end Shell

/-- A file with a snapshot that restores is loaded. -/
theorem Session.runOn_loadFrom {path : String} (hpath : path ≠ "") {snapshot : Snapshot}
    (hsnapshot : snapshot.Encodable) {tables : List (String × Table)}
    (htables : snapshot.rebuild = .ok tables) {disk : Disk}
    (hfile : disk.fileAt path = some snapshot.encode.toUTF8) (session : Session) :
    runOn (loadFrom path) session disk =
      ((.ok (), { session with database := { tables, createdAt := snapshot.createdAt } }), disk) := by
  have hfind := Disk.find_eq_ok_iff.mpr (Disk.fileAt_eq_some_iff.mp hfile)
  have hread := Database.run_readSnapshot hpath disk
  rw [hfind] at hread
  dsimp only at hread
  rw [Database.fromUTF8?_toUTF8] at hread
  dsimp only at hread
  rw [hsnapshot.decode?_encode] at hread
  have hhost : runOn (onHost (Database.readSnapshot path)) session disk =
      ((.ok snapshot, session), disk) := by
    show ((((Database.readSnapshot path : Change Error Disk Snapshot).run.run disk).1, session),
      ((Database.readSnapshot path : Change Error Disk Snapshot).run.run disk).2) = _
    rw [hread]
  unfold loadFrom
  rw [runOn_bind, hhost]
  dsimp only
  rw [runOn_onDatabase, Database.run_restore, htables]

namespace Shell

theorem run_onSession_of_eq {action : SessionM (StateM World) α} {shell : Shell}
    {session : Session} {result : Except Error α} {world world' : World}
    (h : (action.run.run shell.session).run world = ((result, session), world')) :
    ((onSession action).run.run shell).run world =
      ((result.mapError .failed, { shell with session }), world') := by
  rw [run_onSession, StateT.run_bind, h]
  rfl

/-- The argument of a command, in what follows its name. -/
def argument? (rest : List Char) : Option String :=
  match (Text.firstWord rest).1 with
  | [] => none
  | word => some (String.ofList word)

/-- What is printed when a command has been carried out or not. -/
def acknowledgement (name : String) : Except Complaint Unit -> List Printed
  | .ok () => if name = ".save" ∨ name = ".load" then [.output "OK\n"] else []
  | .error complaint => [.error ("Error: " ++ complaint.message ++ "\n")]

/-- A command is carried out and acknowledged, and the shell goes on. -/
theorem run_runCommand {m : Type -> Type} [Monad m] [LawfulMonad m] [Host m] {input rest : List Char}
    {name : String} (hword : Text.firstWord input = (name.toList, rest))
    (hstays : ¬ (name = ".exit" ∨ name = ".quit")) (shell : Shell) :
    (runCommand (m := m) input).run shell =
      (command (String.ofList input) name (argument? rest)).run.run shell >>= fun (result, shell) =>
        pure (true, shell.printing (acknowledgement name result)) := by
  unfold runCommand
  rw [hword]
  dsimp only
  rw [String.ofList_toList, if_neg hstays, StateT.run_bind]
  apply bind_congr
  intro answer
  rcases answer with ⟨result, shell⟩
  cases result with
  | ok done =>
      unfold acknowledgement
      dsimp only
      split
      · rw [StateT.run_bind, printLine, run_print, pure_bind]
        rfl
      · rfl
  | error complaint =>
      dsimp only
      rw [StateT.run_bind, printError, run_print, pure_bind]
      rfl

/-- A shell that has loaded a snapshot and nothing else. -/
def loaded (tables : List (String × Table)) (createdAt : Nat) : Shell where
  session := { database := { tables, createdAt } }
  printed := [.output "OK\n"]

/-- Every snapshot that restores can be loaded. -/
theorem reachable_of_snapshot {snapshot : Snapshot} (hsnapshot : snapshot.Encodable)
    {tables : List (String × Table)} (htables : snapshot.rebuild = .ok tables) :
    Reachable Disk (loaded tables snapshot.createdAt) := by
  let disk : Disk := { entries := [(["s.json"], .file snapshot.encode.toUTF8)] }
  have hstart : (start (m := StateM Disk) {}).run disk = (.ok {}, disk) := rfl
  have hload := Session.runOn_loadFrom (by decide) hsnapshot htables
    (rfl : disk.fileAt "s.json" = some snapshot.encode.toUTF8) {}
  have hline : Text.trim ".load s.json".toList = ".load s.json".toList := by decide
  have hword : Text.firstWord ".load s.json".toList = (".load".toList, " s.json".toList) := by
    decide
  have hargument : argument? " s.json".toList = some "s.json" := by decide
  have hrun : ((runCommand (m := StateM Disk) ".load s.json".toList).run {}).run disk =
      ((true, loaded tables snapshot.createdAt), disk) := by
    have hcommand : ((command (m := StateM Disk) (String.ofList ".load s.json".toList) ".load"
        (some "s.json")).run.run {}).run disk = _ := run_onSession_of_eq hload
    rw [run_runCommand hword (by decide), hargument]
    -- What the name of the command stands for must not be looked up again.
    generalize command (m := StateM Disk) _ ".load" (some "s.json") = action at hcommand ⊢
    rw [StateT.run_bind, hcommand]
    rfl
  have hread := (Reachable.start hstart).read ".load s.json".toList disk
  rw [run_readLine, if_pos ⟨rfl, by rw [hline]; rfl⟩, hline, hrun] at hread
  exact hread

end Shell
end Tabula
