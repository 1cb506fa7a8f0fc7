import Tabula.Proofs.Schema.Lookup
import Tabula.Proofs.Table.Refinement

/-!
# Columns named twice in a change

An insertion and an update refuse a second value for a column.  Each looks whether the column is bound
already, and no other check of theirs reports this error, so it is given exactly when two of the
names reach one column.
-/

namespace Tabula
namespace Table

variable {table : Table}

theorem checkCell_error_kind {own : Option Nat} {column : Column} {v : Value} {ix : Option Index}
    {e : Error} (h : table.checkCell own column v ix = .error e) :
    e.kind = .constraintViolation := by
  cases ix with
  | none => cases h
  | some ix =>
      simp only [checkCell] at h
      split at h
      · split at h
        · cases h
          rfl
        · cases h
      · split at h
        · cases h
          rfl
        · cases h

theorem checkConstraints_error_kind {cells : List Value} {own : Option Nat} {e : Error}
    (h : table.checkConstraints cells own = .error e) : e.kind = .constraintViolation := by
  rcases Result.forM_eq_error h with ⟨⟨column, v, ix⟩, _, hcell⟩
  exact checkCell_error_kind hcell

theorem claim_error_kind {claimed bound : List (Field × Value)} {e : Error}
    (h : table.claim claimed bound = .error e) : e.kind = .constraintViolation := by
  rcases Result.foldlM_eq_error_iff.mp h with ⟨before, ⟨field, v⟩, after, claimed', _, _, hstep⟩
  simp only at hstep
  split at hstep
  · cases hstep
  · split at hstep
    · cases hstep
      rfl
    · cases hstep

theorem plan_error_kind {bound claimed : List (Field × Value)} {rows : List Row} {e : Error}
    (h : table.plan bound claimed rows = .error e) : e.kind = .constraintViolation := by
  induction rows generalizing claimed with
  | nil => cases h
  | cons row rest ih =>
      rw [plan, Result.bind_eq_error_iff] at h
      rcases h with hrow | ⟨_, _, h⟩
      · exact checkConstraints_error_kind hrow
      · rcases Result.bind_eq_error_iff.mp h with hclaim | ⟨claimed', _, h⟩
        · exact claim_error_kind hclaim
        · rcases Result.bind_eq_error_iff.mp h with hrest | ⟨_, _, hdone⟩
          · exact ih hrest
          · cases hdone

theorem reportsRepeat_columnRepeated : Schema.ReportsRepeat .columnRepeated where
  kind_eq := fun _ => rfl
  column_eq := Error.columnRepeated.inj

theorem reportsRepeat_columnAssignedTwice : Schema.ReportsRepeat .columnAssignedTwice where
  kind_eq := fun _ => rfl
  column_eq := Error.columnAssignedTwice.inj

theorem complete_eq_columnRepeated_iff {schema : Schema} {columns : List String}
    {values : List Value} {column : String} :
    schema.complete columns values = .error (.columnRepeated column) <->
      columns.length = values.length ∧ schema.NamesTwice (columns.zip values) column := by
  unfold Schema.complete
  by_cases hlength : columns.length = values.length
  · rw [if_neg (fun h => h hlength), ← reportsRepeat_columnRepeated.bind_eq_error_iff,
      and_iff_right hlength]
    constructor
    · intro h
      rcases Result.bind_eq_error_iff.mp h with hbind | ⟨_, _, hdone⟩
      · exact hbind
      · cases hdone
    · intro hbind
      exact Result.bind_eq_error_iff.mpr (Or.inl hbind)
  · rw [if_pos hlength]
    constructor
    · intro h
      cases h
    · intro h
      exact absurd h.1 hlength

theorem insert_eq_columnRepeated_iff {columns : List String} {values : List Value}
    {column : String} :
    ((insert columns values).run.run table).1 = .error (.columnRepeated column) <->
      columns.length = values.length ∧ table.schema.NamesTwice (columns.zip values) column := by
  rw [run_insert, ← complete_eq_columnRepeated_iff]
  cases hcells : table.schema.complete columns values with
  | error e => simp only [Except.error.injEq]
  | ok cells =>
      constructor
      · intro h
        simp only at h
        split at h
        · next e hcheck =>
            have hkind := checkConstraints_error_kind hcheck
            cases h
            cases hkind
        · cases h
      · intro h
        cases h

theorem update_eq_columnAssignedTwice_iff {assignments : List (String × Value)}
    {keep : Row -> Bool} {column : String} :
    ((update assignments keep).run.run table).1 = .error (.columnAssignedTwice column) <->
      table.schema.NamesTwice assignments column := by
  rw [run_update, ← reportsRepeat_columnAssignedTwice.bind_eq_error_iff]
  cases hbind : table.schema.bind (Schema.admitOnce .columnAssignedTwice) assignments with
  | error e => simp only [Except.error.injEq]
  | ok bound =>
      constructor
      · intro h
        simp only at h
        split at h
        · next e hplan =>
            have hkind := plan_error_kind hplan
            cases h
            cases hkind
        · cases h
      · intro h
        cases h

/-!
# Lookup in checked schemas
-/

/-- Texts that are alike have one lowercase form, so in a schema that passes its check every name
has one column at most and the declared names tell the columns apart.  An insertion or an update
reports a repeated column exactly when a name reaches a column that a name before it reaches. -/
theorem columns_unambiguous {schema : Schema} (h : schema.check = .ok ()) :
    (forall a b, Text.alike a b = true -> Text.lowercase a = Text.lowercase b) ∧
      schema.Unambiguous ∧
      forall table : Table,
        (forall columns values column,
          ((insert columns values).run.run { table with schema }).1 =
              .error (.columnRepeated column) <->
            columns.length = values.length ∧
              schema.NamesTwice (columns.zip values) column) ∧
        (forall assignments keep column,
          ((update assignments keep).run.run { table with schema }).1 =
              .error (.columnAssignedTwice column) <->
            schema.NamesTwice assignments column) := by
  refine ⟨fun _ _ => Text.lowercase_eq_of_alike, (Schema.check_eq_ok_iff.mp h).unambiguous, ?_⟩
  intro table
  constructor
  · intro columns values column
    exact insert_eq_columnRepeated_iff
  · intro assignments keep column
    exact update_eq_columnAssignedTwice_iff

/-- Three names that only a full lowercase form and a lookup by letters read differently. -/
def sampleNames : Schema where
  name := "words"
  columns := [⟨"Id", .int, [.primaryKey]⟩, ⟨"ΟΔΟΣ", .text, []⟩, ⟨"\u212A", .text, []⟩]

theorem columns_unambiguous_sample :
    sampleNames.check = .ok () ∧ sampleNames.Unambiguous ∧
      sampleNames.NamesTwice [("ID", .integer 1), ("words.iD", .text "x")] "Id" := by
  have hcheck : sampleNames.check = .ok () := by decide +kernel
  rcases columns_unambiguous hcheck with ⟨_, hunambiguous, hchanges⟩
  have hexact := (hchanges (Table.new sampleNames)).1 ["ID", "words.iD"]
    [.integer 1, .text "x"] "Id"
  exact ⟨hcheck, hunambiguous, (hexact.mp (by decide +kernel)).2⟩

end Table
end Tabula
