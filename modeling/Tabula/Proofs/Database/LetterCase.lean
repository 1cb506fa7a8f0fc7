import Mathlib.Data.List.Forall2
import Tabula.Proofs.Database.Reachable
import Tabula.Proofs.Query.LetterCase

/-!
# Letter case in the text of a statement is ignored

Two texts with one folded form do the same to a database and answer the same, but for the names of
columns in what a join answers: these are shown as they were written.  A table that is created is
named as its statement names it, so there the case of letters counts.

## Main statements

- `letter_case_is_ignored`: the effect and the answer of a statement do not depend on the case of the
  letters outside its literals.
-/

namespace Tabula

open Result (Agree agree_error)
open Sql (Condition Statement foldedAssignment foldedText)

variable {σ τ α β : Type}

/-!
# Changes up to the texts of their errors
-/

namespace Change

/-- From every state the same state, and the same result or an error of the same kind. -/
def Agree (change change' : Change Error σ α) : Prop :=
  forall s : σ, Result.Agree (change.run.run s).1 (change'.run.run s).1 ∧
    (change.run.run s).2 = (change'.run.run s).2

theorem Agree.refl (change : Change Error σ α) : Agree change change :=
  fun _ => ⟨.of_eq rfl, rfl⟩

theorem agree_lift {result result' : Except Error α} (h : Result.Agree result result') :
    Agree (liftM result : Change Error σ α) (liftM result') :=
  fun _ => ⟨h, rfl⟩

theorem Agree.bind {first first' : Change Error σ α} {next next' : α -> Change Error σ β}
    (h : Agree first first') (hnext : forall a, Agree (next a) (next' a)) :
    Agree (first >>= next) (first' >>= next') := by
  intro s
  have hfirst := h s
  rw [run_bind, run_bind]
  rcases hrun : first.run.run s with ⟨result, t⟩
  rcases hrun' : first'.run.run s with ⟨result', t'⟩
  rw [hrun, hrun'] at hfirst
  rcases hfirst with ⟨hresult, hstate⟩
  subst hstate
  cases result with
  | error e =>
      cases result' with
      | error e' => exact ⟨agree_error (Except.error.inj hresult), rfl⟩
      | ok a' => cases hresult
  | ok a =>
      cases result' with
      | error e' => cases hresult
      | ok a' =>
          cases hresult
          exact hnext a t

theorem Agree.within {change change' : Change Error τ α} (h : Agree change change') (part : τ)
    (replace : τ -> σ -> σ) : Agree (change.within part replace) (change'.within part replace) := by
  intro s
  rw [run_within, run_within, (h part).2]
  exact ⟨(h part).1, rfl⟩

end Change

/-!
# Changes
-/

namespace Table

theorem insert_folded (columns : List String) (values : List Value) :
    Change.Agree (insert (columns.map Text.folded) values) (insert columns values) := by
  refine (Change.Agree.refl get).bind fun table => ?_
  exact (Change.agree_lift (table.schema.complete_folded columns values)).bind fun _ => .refl _

theorem update_folded (assignments : List (String × Value)) (keep : Row -> Bool) :
    Change.Agree (update (assignments.map foldedAssignment) keep) (update assignments keep) := by
  refine (Change.Agree.refl get).bind fun table => ?_
  exact (Change.agree_lift (table.schema.bind_folded _ assignments)).bind fun _ => .refl _

end Table

namespace Database

theorem onTable_folded {change change' : Change Error Table α} (h : Change.Agree change change')
    (name : String) : Change.Agree (onTable (Text.folded name) change) (onTable name change') := by
  refine (Change.Agree.refl get).bind fun db => ?_
  refine (Change.agree_lift (db.table_folded name)).bind fun table => ?_
  rw [Text.lowercase_folded]
  exact h.within table _

theorem onRows_folded {change change' : (Row -> Bool) -> Change Error Table α}
    (h : forall keep, Change.Agree (change keep) (change' keep)) (name : String)
    (condition : Option Condition) :
    Change.Agree (onRows (Text.folded name) (condition.map Condition.folded) change)
      (onRows name condition change') := by
  refine (Change.Agree.refl get).bind fun db => ?_
  refine (Change.agree_lift (db.table_folded name)).bind fun table => ?_
  refine (Change.agree_lift (table.schema.rowFilter_folded condition)).bind fun keep => ?_
  exact (onTable_folded (h keep) name).bind fun _ => .refl _

end Database

/-!
# Statements
-/

namespace Sql
namespace Statement

def isCreateTable : Statement -> Bool
  | createTable _ _ => true
  | _ => false

def isJoin : Statement -> Bool
  | select _ _ join _ => join.isSome
  | _ => false

theorem isCreateTable_folded (statement : Statement) :
    statement.folded.isCreateTable = statement.isCreateTable := by
  cases statement <;> rfl

theorem isJoin_folded (statement : Statement) : statement.folded.isJoin = statement.isJoin := by
  cases statement with
  | select projection name join condition => exact Option.isSome_map
  | _ => rfl

end Statement
end Sql

/-- An outcome with the names of answered columns folded. -/
def Outcome.folded : Outcome -> Outcome
  | .rows set => .rows set.folded
  | outcome => outcome

namespace Database

/-- A statement that neither creates a table nor joins two has the effect and the answer of the folded
statement. -/
theorem execute_folded {statement : Statement} (hcreate : statement.isCreateTable = false)
    (hjoin : statement.isJoin = false) :
    Change.Agree (execute statement.folded) (execute statement) := by
  cases statement with
  | createTable name columns => cases hcreate
  | insert name columns values =>
      refine (Change.Agree.refl get).bind fun db => ?_
      refine (Change.agree_lift (db.table_folded name)).bind fun table => ?_
      exact (onTable_folded (Table.insert_folded columns values) name).bind fun _ => .refl _
  | select projection name join condition =>
      cases join with
      | some clause => cases hjoin
      | none =>
          refine (Change.Agree.refl get).bind fun db => ?_
          exact (Change.agree_lift (db.select_folded_single projection name condition)).bind
            fun _ => .refl _
  | update name assignments condition =>
      exact (onRows_folded (Table.update_folded assignments) name condition).bind fun _ => .refl _
  | delete name condition =>
      exact (onRows_folded (fun keep => .refl _) name condition).bind fun _ => .refl _
  | showTables => exact .refl _
  | describe name =>
      refine (Change.Agree.refl get).bind fun db => ?_
      exact (Change.agree_lift (db.describe_folded name)).bind fun _ => .refl _

/-- Up to the case of column names every statement but one that creates a table has the effect and the
answer of the folded statement. -/
theorem execute_folded_names (db : Database) {statement : Statement}
    (hcreate : statement.isCreateTable = false) :
    Agree (((execute statement.folded).run.run db).1.map Outcome.folded)
        (((execute statement).run.run db).1.map Outcome.folded) ∧
      ((execute statement.folded).run.run db).2 = ((execute statement).run.run db).2 := by
  by_cases hjoin : statement.isJoin = true
  · cases statement with
    | select projection name join condition =>
        have hrows : forall result : Except Error RowSet,
            (result.map Outcome.rows).map Outcome.folded =
              (result.map RowSet.folded).map Outcome.rows := by
          intro result
          rw [Result.map_map, Result.map_map]
          rfl
        unfold Statement.folded
        rw [run_select, run_select, hrows, hrows]
        exact ⟨(db.select_folded projection name join condition).map Outcome.rows, rfl⟩
    | _ => cases hjoin
  · rcases execute_folded hcreate (Bool.eq_false_iff.mpr hjoin) db with ⟨hresult, hstate⟩
    exact ⟨hresult.map Outcome.folded, hstate⟩

end Database

/-!
# Texts
-/

/-- The same outcome, or the same rows under the same names up to their case. -/
inductive Outcome.Alike : Outcome -> Outcome -> Prop where
  | same (outcome : Outcome) : Alike outcome outcome
  | rows {columns columns' : List String} (cells : List (List Value))
      (hcolumns : List.Forall₂ (fun a b => Text.alike a b = true) columns columns') :
      Alike (.rows ⟨columns, cells⟩) (.rows ⟨columns', cells⟩)

/-- Errors of the same kind, or outcomes that are alike. -/
inductive AnswersAlike : Except Error Outcome -> Except Error Outcome -> Prop where
  | failed {error error' : Error} (hkind : error.kind = error'.kind) :
      AnswersAlike (.error error) (.error error')
  | done {outcome outcome' : Outcome} (houtcome : outcome.Alike outcome') :
      AnswersAlike (.ok outcome) (.ok outcome')

theorem Outcome.alike_of_folded_eq {outcome outcome' : Outcome}
    (h : outcome.folded = outcome'.folded) : outcome.Alike outcome' := by
  cases outcome with
  | rows set =>
      cases outcome' with
      | rows set' =>
          rcases set with ⟨columns, cells⟩
          rcases set' with ⟨columns', cells'⟩
          rcases RowSet.mk.inj (Outcome.rows.inj h) with ⟨hcolumns, rfl⟩
          refine .rows cells ?_
          rw [← List.forall₂_eq_eq_eq, List.forall₂_map_left_iff, List.forall₂_map_right_iff]
            at hcolumns
          exact hcolumns.imp fun _ _ hname => Text.alike_iff_folded.mpr hname
      | _ => cases h
  | _ =>
      cases outcome' with
      | rows set' => cases h
      | _ => cases h <;> exact .same _

theorem AnswersAlike.of_agree {answer answer' : Except Error Outcome}
    (h : Agree (answer.map Outcome.folded) (answer'.map Outcome.folded)) :
    AnswersAlike answer answer' := by
  cases answer with
  | error error =>
      cases answer' with
      | error error' => exact .failed (Except.error.inj h)
      | ok outcome' => cases h
  | ok outcome =>
      cases answer' with
      | error error' => cases h
      | ok outcome' => exact .done (Outcome.alike_of_folded_eq (Except.ok.inj h))

/-- Texts with one folded form have their fault at one place, or spell statements with one folded form. -/
theorem Sql.Statement.parse_of_foldedText_eq {sql sql' : String}
    (htexts : foldedText sql = foldedText sql') :
    (exists error error', parse sql = .error error ∧ parse sql' = .error error' ∧
        error.kind = error'.kind) ∨
      exists statement statement', parse sql = .ok statement ∧ parse sql' = .ok statement' ∧
        statement.folded = statement'.folded := by
  have hparse := parse_foldedText sql
  rw [htexts, parse_foldedText sql'] at hparse
  cases hplain : parse sql with
  | error error =>
      cases hplain' : parse sql' with
      | error error' =>
          rw [hplain, hplain'] at hparse
          exact Or.inl ⟨error, error', rfl, rfl, (Except.error.inj hparse).symm⟩
      | ok statement' =>
          rw [hplain, hplain'] at hparse
          cases hparse
  | ok statement =>
      cases hplain' : parse sql' with
      | error error' =>
          rw [hplain, hplain'] at hparse
          cases hparse
      | ok statement' =>
          rw [hplain, hplain'] at hparse
          exact Or.inr ⟨statement, statement', rfl, rfl, (Except.ok.inj hparse).symm⟩

namespace Database

theorem run_executeSql_ok (db : Database) {sql : String} {statement : Statement}
    (h : Statement.parse sql = .ok statement) :
    (executeSql sql).run.run db = (execute statement).run.run db := by
  show ((liftM (Statement.parse sql) : Change Error Database Statement) >>= execute).run.run db = _
  rw [h]
  rfl

theorem run_executeSql_error (db : Database) {sql : String} {error : Error}
    (h : Statement.parse sql = .error error) :
    (executeSql sql).run.run db = (.error error, db) := by
  show ((liftM (Statement.parse sql) : Change Error Database Statement) >>= execute).run.run db = _
  rw [h]
  rfl

/-- The case of letters outside literals does not matter.  Unless it creates a table, a text leaves
the same database as every text with the same folded form, and both fail with errors of one kind or
both answer the same; only where two tables are joined may the names of answered columns differ in
case. -/
theorem letter_case_is_ignored (db : Database) (sql sql' : String)
    (htexts : foldedText sql = foldedText sql')
    (hcreate : forall statement, Statement.parse sql = .ok statement ->
      statement.isCreateTable = false) :
    ((executeSql sql).run.run db).2 = ((executeSql sql').run.run db).2 ∧
      AnswersAlike ((executeSql sql).run.run db).1 ((executeSql sql').run.run db).1 ∧
      ((forall statement, Statement.parse sql = .ok statement -> statement.isJoin = false) ->
        Agree ((executeSql sql).run.run db).1 ((executeSql sql').run.run db).1) := by
  rcases Statement.parse_of_foldedText_eq htexts with
    ⟨error, error', hparse, hparse', hkind⟩ | ⟨statement, statement', hparse, hparse', hfolded⟩
  · rw [run_executeSql_error db hparse, run_executeSql_error db hparse']
    exact ⟨rfl, .failed hkind, fun _ => agree_error hkind⟩
  · have hplain := hcreate statement hparse
    have hplain' : statement'.isCreateTable = false := by
      rw [← Statement.isCreateTable_folded, ← hfolded, Statement.isCreateTable_folded]
      exact hplain
    rw [run_executeSql_ok db hparse, run_executeSql_ok db hparse']
    rcases execute_folded_names db hplain with ⟨hanswer, hstate⟩
    rcases execute_folded_names db hplain' with ⟨hanswer', hstate'⟩
    rw [hfolded] at hanswer hstate
    refine ⟨hstate.symm.trans hstate', .of_agree (hanswer.symm.trans hanswer'), ?_⟩
    intro hsingle
    have hone := hsingle statement hparse
    have hone' : statement'.isJoin = false := by
      rw [← Statement.isJoin_folded, ← hfolded, Statement.isJoin_folded]
      exact hone
    have hresult := (execute_folded hplain hone db).1
    rw [hfolded] at hresult
    exact hresult.symm.trans (execute_folded hplain' hone' db).1

/-- A text that gives Rex another name, but for the case of its letters. -/
def renameRex : String :=
  "UPDATE Pets SET Name = 'Tim' WHERE pets.ID = 7 -- It's"

def renameRexSmall : String :=
  "update PETS set name = 'Tim' where PETS.iD = 7 -- it'S"

theorem letter_case_is_ignored_sample :
    foldedText renameRex = foldedText renameRexSmall ∧
      ((executeSql renameRexSmall).run.run { tables := [("pets", sampleTable)] }).1 =
        .ok (.updated 1 "Pets") ∧
      ((executeSql renameRex).run.run { tables := [("pets", sampleTable)] }).2 =
        ((executeSql renameRexSmall).run.run { tables := [("pets", sampleTable)] }).2 := by
  have htexts : foldedText renameRex = foldedText renameRexSmall := by decide +kernel
  have hparse : Statement.parse renameRex = .ok (.update "Pets" [("Name", .text "Tim")]
      (some ⟨⟨some "pets", "ID"⟩, .integer 7⟩)) := by decide +kernel
  have hanswer : ((executeSql renameRex).run.run { tables := [("pets", sampleTable)] }).1 =
      .ok (.updated 1 "Pets") := by decide +kernel
  have hcreate : forall statement, Statement.parse renameRex = .ok statement ->
      statement.isCreateTable = false := by
    intro statement h
    rw [hparse] at h
    cases h
    rfl
  have hjoin : forall statement, Statement.parse renameRex = .ok statement ->
      statement.isJoin = false := by
    intro statement h
    rw [hparse] at h
    cases h
    rfl
  rcases letter_case_is_ignored { tables := [("pets", sampleTable)] } renameRex renameRexSmall
    htexts hcreate with ⟨hstate, _, hsame⟩
  have hagree := hsame hjoin
  unfold Agree at hagree
  rw [hanswer] at hagree
  exact ⟨htexts, Result.mapError_eq_ok_iff.mp hagree.symm, hstate⟩

end Database
end Tabula
