import Tabula.Proofs.Database.RoundTrip
import Tabula.Proofs.Database.Runs
import Tabula.Proofs.Plain.Exact

/-!
# Updates made twice

An update leaves rows that it assigns nothing new: a row that it kept holds the given values already,
and a row that it passed over is passed over again, whatever the condition finds the second time.  So
the rows obey the constraints once more, and the same update goes through and changes nothing.
-/

namespace Tabula

open Sql (Condition Statement)

namespace Schema

variable {schema : Schema} {named : List (String × Value)} {given : List (Field × Value)}

theorem filled_filled (given : List (Field × Value)) (before : Field -> Value) :
    schema.filled given (fun field => (given.lookup field).getD (before field)) =
      schema.filled given before := by
  apply List.map_congr_left
  intro field _
  simp only
  cases given.lookup field with
  | none => rfl
  | some v => rfl

theorem Gives.assigned_assigned (h : schema.Gives named given) {row : Row}
    (hlength : row.cells.length = schema.columns.length) :
    PlainTable.assigned given (PlainTable.assigned given row) = PlainTable.assigned given row := by
  have hassigned : (PlainTable.assigned given row).cells.length = schema.columns.length :=
    (length_assign row.cells given).trans hlength
  have hcells : (schema.filled given fun field =>
      (PlainTable.assigned given row).cell field.position) =
        schema.filled given fun field => row.cell field.position := by
    rw [← filled_filled given fun field => row.cell field.position]
    apply List.map_congr_left
    intro field hfield
    simp only
    rw [h.cell_assigned hlength hfield]
  rw [h.assigned_eq hassigned, hcells, h.assigned_eq hlength]

end Schema

/-!
# One table
-/

namespace PlainTable

variable {table table' : PlainTable} {assignments : List (String × Value)}
variable {keep : Row -> Bool} {count : Nat}

theorem schema_eq_of_update (hok : table.update assignments keep = .ok (count, table')) :
    table'.schema = table.schema := by
  rcases update_eq_ok_iff.mp hok with ⟨_, _, _, _, _, htable⟩
  rw [htable]

/-- The rows after an update are the rows that the same update asks for. -/
theorem Sound.replaced_eq_rows (h : table.Sound) {given : List (Field × Value)}
    (hgives : table.schema.Gives assignments given)
    (hok : table.update assignments keep = .ok (count, table')) :
    table'.replaced given keep = table'.rows := by
  have hgives' : table'.schema.Gives assignments given := schema_eq_of_update hok ▸ hgives
  rcases update_eq_ok_iff.mp hok with ⟨bound, hreach, _, _, _, htable⟩
  have hbound : bound = given := by
    rw [(Schema.gives_iff.mp hgives).1] at hreach
    exact (Except.ok.inj hreach).symm
  rw [← (h.update hok).map_assigned_eq hgives', htable, hbound, List.map_map]
  apply List.map_congr_left
  intro row hrow
  have hagain := hgives.assigned_assigned (h.typed row hrow).length_cells
  simp only [Function.comp_apply]
  cases hkeep : keep row with
  | false => rw [if_neg Bool.false_ne_true, hkeep, if_neg Bool.false_ne_true]
  | true =>
      -- the assigned row may be kept again or not
      rw [if_pos rfl, hagain, ite_self]

/-- An update that went through goes through again and changes nothing. -/
theorem Sound.update_again (h : table.Sound)
    (hok : table.update assignments keep = .ok (count, table')) :
    table'.update assignments keep = .ok ((table'.rows.filter keep).length, table') := by
  rcases update_eq_ok_iff.mp hok with ⟨given, hreach, hfitting, _⟩
  have hgives : table.schema.Gives assignments given := Schema.gives_iff.mpr ⟨hreach, hfitting⟩
  have hgives' : table'.schema.Gives assignments given := schema_eq_of_update hok ▸ hgives
  have hrows := h.replaced_eq_rows hgives hok
  have hsound := h.update hok
  rcases hsound.update_eq hgives' keep with hdone | hrefused
  · rw [hrows] at hdone
    exact hdone.2
  · rw [hrows] at hrefused
    exact absurd hsound.obeyed hrefused.1

end PlainTable

/-!
# Statements
-/

namespace PlainDatabase

variable {db db' : PlainDatabase} {name : String} {assignments : List (String × Value)}
variable {condition : Option Condition} {outcome : Outcome}

theorem update_again (hascending : Keyed.Ascending db.tables)
    (hsound : forall table, db.table name = .ok table -> table.Sound)
    (hok : db.execute (.update name assignments condition) = .ok (outcome, db')) :
    exists outcome', db'.execute (.update name assignments condition) = .ok (outcome', db') := by
  rcases Result.bind_eq_ok_iff.mp hok with ⟨answer, honRows, hpair⟩
  cases hpair
  rcases Result.bind_eq_ok_iff.mp honRows with ⟨table, htable, hrest⟩
  rcases Result.bind_eq_ok_iff.mp hrest with ⟨keep, hkeep, _⟩
  rw [onRows_eq htable hkeep] at honRows
  rcases Result.map_eq_ok_iff.mp honRows with ⟨⟨count, table'⟩, hupdate, hanswer⟩
  cases hanswer
  have hfound : PlainDatabase.table
      { db with tables := Keyed.insert (Text.lowercase name) table' db.tables } name =
        .ok table' := by
    unfold PlainDatabase.table
    rw [Keyed.find?_insert_self]
  have hkeep' : table'.schema.rowFilter condition = .ok keep := by
    rw [PlainTable.schema_eq_of_update hupdate]
    exact hkeep
  have honRows' := onRows_eq hfound hkeep' (PlainTable.update assignments)
  -- the table of the second run is filed already
  simp only [(hsound table htable).update_again hupdate, Except.map,
    Keyed.insert_insert hascending] at honRows'
  refine ⟨.updated (table'.rows.filter keep).length table'.schema.name, ?_⟩
  simp only [execute, honRows']
  rfl

end PlainDatabase

namespace Database

/-- In every reachable database an update that goes through goes through again, and then leaves every
table with the rows and the counter that it has, and every index with the answers that it gives. -/
theorem update_is_idempotent (createdAt : Nat) (calls : List Call) {name : String}
    {assignments : List (String × Value)} {condition : Option Condition} {outcome : Outcome}
    {db' : Database}
    (hrun : (execute (.update name assignments condition)).run.run (after createdAt calls) =
      (.ok outcome, db')) :
    exists outcome' db'',
      (execute (.update name assignments condition)).run.run db' = (.ok outcome', db'') ∧
      db''.plain = db'.plain ∧
      forall table column, db''.indexAnswers table column = db'.indexAnswers table column := by
  have h := wellFormed_after createdAt calls
  have hfollows := follows_execute h (.update name assignments condition)
  have h' := hfollows.state h
  rw [hrun] at hfollows h'
  have hsound : forall table, (after createdAt calls).plain.table name = .ok table ->
      table.Sound := by
    intro table htable
    rw [plain_table] at htable
    rcases Result.map_eq_ok_iff.mp htable with ⟨own, hown, rfl⟩
    exact (h.of_table (table_eq_ok_iff.mp hown)).1.sound
  rcases PlainDatabase.update_again (Keyed.ascending_map h.ascending) hsound
    (hfollows.expected_eq rfl) with ⟨outcome', hagain⟩
  have hfollows' := follows_execute h' (.update name assignments condition)
  have h'' := hfollows'.state h'
  rcases hfollows'.result_eq hagain with ⟨db'', hrun', hplain⟩
  rw [hrun'] at h''
  exact ⟨outcome', db'', hrun', hplain, h'.indexAnswers_eq h'' hplain⟩

def sampleUpdate : Statement :=
  .update "pets" [("Pets.ID", .integer 9)] (some ⟨⟨none, "id"⟩, .integer 7⟩)

/-- The second update finds no row, for the first one has given the pet another key. -/
theorem update_is_idempotent_sample :
    exists db' db'',
      (execute sampleUpdate).run.run (after 0 sampleCalls) = (.ok (.updated 1 "Pets"), db') ∧
      (execute sampleUpdate).run.run db' = (.ok (.updated 0 "Pets"), db'') ∧
      db''.plain = db'.plain ∧ db''.indexAnswers "pets" "id" = db'.indexAnswers "pets" "id" := by
  have hfirst : ((execute sampleUpdate).run.run (after 0 sampleCalls)).1 =
      .ok (.updated 1 "Pets") := by decide +kernel
  have hsecond : ((execute sampleUpdate).run.run
      ((execute sampleUpdate).run.run (after 0 sampleCalls)).2).1 = .ok (.updated 0 "Pets") := by
    decide +kernel
  have hdone : exists db', (execute sampleUpdate).run.run (after 0 sampleCalls) =
      (.ok (.updated 1 "Pets"), db') := ⟨_, Prod.ext hfirst rfl⟩
  rcases hdone with ⟨db', hrun⟩
  rcases update_is_idempotent 0 sampleCalls hrun with ⟨outcome', db'', hagain, hplain, hindexes⟩
  rw [hrun] at hsecond
  have houtcome : Except.ok outcome' = .ok (.updated 0 "Pets") :=
    (congrArg Prod.fst hagain).symm.trans hsecond
  cases houtcome
  exact ⟨db', db'', hrun, hagain, hplain, hindexes "pets" "id"⟩

end Database
end Tabula
