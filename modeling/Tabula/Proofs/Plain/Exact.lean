import Mathlib.Data.List.Forall2
import Mathlib.Data.List.Nodup
import Mathlib.Data.List.Pairwise
import Tabula.Proofs.Keyed
import Tabula.Proofs.Plain.Sound

/-!
# Changes by their end states

The checks before a change take its rows one by one and look at what the other rows hold before the
change.  They let through exactly the changes after which the rows obey the constraints.
-/

namespace Tabula
namespace Schema

/-!
# Values given by name
-/

/-- Values given by names for different columns, each of them NULL or of its column's type. -/
structure Gives (schema : Schema) (named : List (String × Value))
    (given : List (Field × Value)) : Prop where
  reached : List.Forall₂
    (fun cell entry => schema.field? (unqualified cell.1) = some entry.1 ∧ cell.2 = entry.2)
    named given
  distinct : (given.map Prod.fst).Nodup
  fits : forall entry, entry ∈ given -> entry.2 = .null ∨ entry.2.type? = some entry.1.column.type

variable {schema : Schema} {named : List (String × Value)} {given : List (Field × Value)}

theorem reach_eq_ok_iff_forall₂ :
    schema.reach named = .ok given <-> List.Forall₂
      (fun cell entry => schema.field? (unqualified cell.1) = some entry.1 ∧ cell.2 = entry.2)
      named given := by
  induction named generalizing given with
  | nil =>
      constructor
      · intro h
        cases h
        exact .nil
      · intro h
        cases h
        rfl
  | cons cell rest ih =>
      rcases cell with ⟨name, v⟩
      rw [reach_cons_eq_ok_iff]
      simp only [resolve_eq_ok_iff, ih]
      constructor
      · intro h
        rcases h with ⟨field, others, hfield, hothers, rfl⟩
        exact .cons ⟨hfield, rfl⟩ hothers
      · intro h
        cases h with
        | cons hcell hrest =>
            rename_i entry others
            rcases hcell with ⟨hfield, hvalue⟩
            refine ⟨entry.1, others, hfield, hrest, ?_⟩
            rw [show v = entry.2 from hvalue]

theorem nodup_positions_iff (hfields : forall entry, entry ∈ given -> entry.1 ∈ schema.fields) :
    (given.map fun entry => entry.1.position).Nodup <-> (given.map Prod.fst).Nodup := by
  have hmap : (given.map fun entry => entry.1.position) =
      (given.map Prod.fst).map Field.position := by
    rw [List.map_map]
    rfl
  rw [hmap]
  constructor
  · exact List.Nodup.of_map Field.position
  · intro h
    apply h.map_on
    intro a ha b hb hposition
    rcases List.mem_map.mp ha with ⟨entry, hentry, rfl⟩
    rcases List.mem_map.mp hb with ⟨other, hother, rfl⟩
    exact eq_of_position_eq (hfields entry hentry) (hfields other hother) hposition

theorem gives_iff : schema.Gives named given <-> schema.reach named = .ok given ∧ Fitting given := by
  constructor
  · intro h
    have hreach := reach_eq_ok_iff_forall₂.mpr h.reached
    have hfields := fun entry => @mem_fields_of_reach schema named given hreach entry
    refine ⟨hreach, (nodup_positions_iff hfields).mpr h.distinct, ?_⟩
    intro entry hentry
    exact Value.fits_iff.mpr (h.fits entry hentry)
  · intro h
    rcases h with ⟨hreach, hfitting⟩
    have hfields := fun entry => @mem_fields_of_reach schema named given hreach entry
    refine ⟨reach_eq_ok_iff_forall₂.mp hreach,
      (nodup_positions_iff hfields).mp hfitting.positions_nodup, ?_⟩
    intro entry hentry
    exact Value.fits_iff.mp (hfitting.fits entry hentry)

theorem Gives.mem_fields (h : schema.Gives named given) {entry : Field × Value}
    (hentry : entry ∈ given) : entry.1 ∈ schema.fields :=
  mem_fields_of_reach (gives_iff.mp h).1 hentry

/-- Cells in declared order: what is given for a column, and else what stood there before. -/
def filled (schema : Schema) (given : List (Field × Value)) (before : Field -> Value) :
    List Value :=
  schema.fields.map fun field => (given.lookup field).getD (before field)

theorem Gives.cell_assigned (h : schema.Gives named given) {row : Row}
    (hlength : row.cells.length = schema.columns.length) {field : Field}
    (hfield : field ∈ schema.fields) :
    (PlainTable.assigned given row).cell field.position =
      (given.lookup field).getD (row.cell field.position) := by
  have hfitting := (gives_iff.mp h).2
  cases hlookup : given.lookup field with
  | some v =>
      have hentry : (field, v) ∈ given := Keyed.mem_of_lookup hlookup
      apply PlainTable.cell_assigned_of_mem hfitting hentry
      rw [hlength]
      exact position_lt_of_mem_fields hfield
  | none =>
      apply PlainTable.cell_assigned_of_not_mem
      intro hposition
      rcases List.mem_map.mp hposition with ⟨entry, hentry, hsame⟩
      have hfound := Keyed.lookup_of_mem h.distinct hentry
      rw [eq_of_position_eq (h.mem_fields hentry) hfield hsame, hlookup] at hfound
      cases hfound

theorem Gives.assigned_eq (h : schema.Gives named given) {row : Row}
    (hlength : row.cells.length = schema.columns.length) :
    PlainTable.assigned given row =
      ⟨row.id, schema.filled given fun field => row.cell field.position⟩ := by
  have hassigned : (PlainTable.assigned given row).cells.length = schema.columns.length :=
    (length_assign row.cells given).trans hlength
  have hcells : (PlainTable.assigned given row).cells =
      schema.filled given fun field => row.cell field.position := by
    rw [Row.cells_eq_map_fields hassigned]
    apply List.map_congr_left
    intro field hfield
    exact h.cell_assigned hlength hfield
  rw [← hcells]
  rfl

theorem Gives.assign_blankCells (h : schema.Gives named given) :
    assign schema.blankCells given = schema.filled given fun _ => .null := by
  have hassigned := @Gives.assigned_eq schema named given h ⟨0, schema.blankCells⟩
    schema.length_blankCells
  simp only [Row.cell_blank] at hassigned
  exact congrArg Row.cells hassigned

end Schema

/-!
# Rows that obey constraints
-/

/-- No primary key is NULL, and no two rows hold the same value other than NULL in a column with a
constraint. -/
structure Schema.Obeyed (schema : Schema) (rows : List Row) : Prop where
  keyed : forall row, row ∈ rows -> forall field, field ∈ schema.fields ->
    field.column.isPrimaryKey = true -> row.cell field.position ≠ .null
  unique : forall field, field ∈ schema.fields -> field.column.isIndexed = true ->
    rows.Pairwise fun a b =>
      a.cell field.position ≠ .null -> a.cell field.position ≠ b.cell field.position

theorem Rows.Ascending.unique_iff {rows : List Row} (h : Ascending rows) {position : Nat} :
    (rows.Pairwise fun a b => a.cell position ≠ .null -> a.cell position ≠ b.cell position) <->
      forall a, a ∈ rows -> forall b, b ∈ rows -> a.cell position ≠ .null ->
        a.cell position = b.cell position -> a = b := by
  constructor
  · intro hpairwise a ha b hb hnull hsame
    by_contra hne
    have hsymm : Std.Symm fun a b : Row =>
        a.cell position ≠ .null -> a.cell position ≠ b.cell position := by
      constructor
      intro a b hdiffer hnull hsame
      exact hdiffer (hsame ▸ hnull) hsame.symm
    exact hpairwise.forall ha hb hne hnull hsame
  · intro hunique
    apply List.Pairwise.imp_of_mem _ h
    intro a b ha hb hlt hnull hsame
    rw [hunique a ha b hb hnull hsame] at hlt
    exact Nat.lt_irrefl _ hlt

namespace PlainTable

variable {table : PlainTable} {assignments : List (String × Value)} {given : List (Field × Value)}
variable {keep : Row -> Bool}

theorem Sound.obeyed (h : table.Sound) : table.schema.Obeyed table.rows where
  keyed := h.keyed
  unique := by
    intro field hfield hindexed
    exact h.ascending.unique_iff.mpr (h.unique field hfield hindexed)

/-!
# Rows after an update
-/

/-- The rows after every row that a predicate keeps has the given values. -/
def replaced (table : PlainTable) (given : List (Field × Value)) (keep : Row -> Bool) : List Row :=
  table.rows.map fun row =>
    if keep row then ⟨row.id, table.schema.filled given fun field => row.cell field.position⟩
    else row

theorem Sound.map_assigned_eq (h : table.Sound) (hgives : table.schema.Gives assignments given) :
    (table.rows.map fun row => if keep row then assigned given row else row) =
      table.replaced given keep := by
  apply List.map_congr_left
  intro row hrow
  rw [hgives.assigned_eq (h.typed row hrow).length_cells]

section

variable (h : table.Sound) (hgives : table.schema.Gives assignments given)
variable (hobeyed : table.schema.Obeyed (table.replaced given keep))

include h hgives hobeyed

/-- Different rows hold different values after the update. -/
theorem Sound.eq_of_obeyed {field : Field} (hfield : field ∈ table.schema.fields)
    (hindexed : field.column.isIndexed = true) {a b : Row} (ha : a ∈ table.rows)
    (hb : b ∈ table.rows)
    (hnull : (if keep a then assigned given a else a).cell field.position ≠ .null)
    (hsame : (if keep a then assigned given a else a).cell field.position =
      (if keep b then assigned given b else b).cell field.position) : a = b := by
  rw [← h.map_assigned_eq hgives] at hobeyed
  have hascending := h.ascending.map (id_ite_assigned given keep)
  have hrows := hascending.unique_iff.mp (hobeyed.unique field hfield hindexed)
    _ (List.mem_map_of_mem ha) _ (List.mem_map_of_mem hb) hnull hsame
  apply h.ascending.eq_of_id_eq ha hb
  rw [← id_ite_assigned given keep a, hrows, id_ite_assigned]

theorem Sound.admits_of_obeyed {row : Row} (hrow : row ∈ table.rows) (hkeep : keep row = true)
    {field : Field} (hfield : field ∈ table.schema.fields) :
    table.Admits (some row.id) field ((assigned given row).cell field.position) := by
  constructor
  · intro hkey
    rw [← h.map_assigned_eq hgives] at hobeyed
    have hkeyed := hobeyed.keyed _ (List.mem_map_of_mem hrow) field hfield hkey
    rw [if_pos hkeep] at hkeyed
    exact hkeyed
  · intro hindexed hnull other hother hid hheld
    have hdifferent : row ≠ other := by
      intro hsame
      exact hid (congrArg (fun row => some row.id) hsame.symm)
    -- what the other row held before is what it holds after, or both rows keep their own cells
    have hcells := fun row hrow => hgives.cell_assigned (h.typed row hrow).length_cells hfield
    apply hdifferent
    cases hlookup : given.lookup field with
    | none =>
        rw [hcells row hrow, hlookup] at hnull hheld
        exact h.unique field hfield hindexed row hrow other hother hnull hheld.symm
    | some v =>
        apply h.eq_of_obeyed hgives hobeyed hfield hindexed hrow hother
        · rw [if_pos hkeep]
          exact hnull
        · rw [if_pos hkeep]
          cases hkeepOther : keep other with
          | false => exact hheld.symm
          | true =>
              rw [if_pos rfl, hcells row hrow, hcells other hother, hlookup]
              rfl

/-- Where a value is given that no two rows may share, at most one row gets it. -/
theorem Sound.length_filter_le_one (entry : Field × Value) (hentry : entry ∈ given)
    (hclaims : claims entry = true) : (table.rows.filter keep).length <= 1 := by
  rcases claims_iff.mp hclaims with ⟨hnull, hindexed⟩
  have hfield := hgives.mem_fields hentry
  have hcell : forall row, row ∈ table.rows -> keep row = true ->
      (if keep row then assigned given row else row).cell entry.1.position = entry.2 := by
    intro row hrow hkeep
    rw [if_pos hkeep, hgives.cell_assigned (h.typed row hrow).length_cells hfield,
      Keyed.lookup_of_mem hgives.distinct hentry]
    rfl
  have hsame : forall a, a ∈ table.rows.filter keep -> forall b, b ∈ table.rows.filter keep ->
      a = b := by
    intro a ha b hb
    rcases List.mem_filter.mp ha with ⟨ha, hkeepA⟩
    rcases List.mem_filter.mp hb with ⟨hb, hkeepB⟩
    apply h.eq_of_obeyed hgives hobeyed hfield hindexed ha hb
    · rw [hcell a ha hkeepA]
      exact hnull
    · rw [hcell a ha hkeepA, hcell b hb hkeepB]
  have hnodup := (h.ascending.filter keep).nodup
  cases hkept : table.rows.filter keep with
  | nil => exact Nat.zero_le 1
  | cons first rest =>
      rw [hkept] at hsame hnodup
      cases rest with
      | nil => exact Nat.le_refl 1
      | cons second rest =>
          have hfirst := hsame first List.mem_cons_self second
            (List.mem_cons_of_mem first List.mem_cons_self)
          rw [hfirst] at hnodup
          exact absurd List.mem_cons_self (List.nodup_cons.mp hnodup).1

theorem Sound.checkRows_of_obeyed :
    table.checkRows given [] (table.rows.filter keep) = .ok () := by
  apply (checkRows_eq_ok_iff (Schema.gives_iff.mp hgives).2.nodup).mpr
  constructor
  · intro row hrow
    rcases List.mem_filter.mp hrow with ⟨hrow, hkeep⟩
    apply checkRow_eq_ok_iff.mpr
    intro field hfield
    exact h.admits_of_obeyed hgives hobeyed hrow hkeep hfield
  · intro entry hentry hclaims
    exact ⟨h.length_filter_le_one hgives hobeyed entry hentry hclaims, fun _ => List.not_mem_nil⟩

end

/-!
# Refused updates
-/

theorem checkCell_error_kind {own : Option Nat} {field : Field} {v : Value} {e : Error}
    (h : table.checkCell own field v = .error e) : e.kind = .constraintViolation := by
  unfold checkCell at h
  split at h
  · split at h
    · split at h
      · cases h
        rfl
      · cases h
    · split at h
      · cases h
        rfl
      · cases h
  · cases h

theorem claim_error_kind {claimed bound : List (Field × Value)} {e : Error}
    (h : table.claim claimed bound = .error e) : e.kind = .constraintViolation := by
  induction bound generalizing claimed with
  | nil => cases h
  | cons entry rest ih =>
      rw [claim_cons] at h
      split at h
      · split at h
        · cases h
          rfl
        · exact ih h
      · exact ih h

theorem checkRows_error_kind {bound claimed : List (Field × Value)} {rows : List Row} {e : Error}
    (h : table.checkRows bound claimed rows = .error e) : e.kind = .constraintViolation := by
  induction rows generalizing claimed with
  | nil => cases h
  | cons row rest ih =>
      rw [checkRows, Result.bind_eq_error_iff] at h
      rcases h with hrow | ⟨_, _, h⟩
      · rcases Result.forM_eq_error hrow with ⟨field, _, hcell⟩
        exact checkCell_error_kind hcell
      · rcases Result.bind_eq_error_iff.mp h with hclaim | ⟨claimed', _, hrest⟩
        · exact claim_error_kind hclaim
        · exact ih hrest

/-- An update with values for different columns goes through exactly if the rows after it obey the
constraints, and breaks a constraint else. -/
theorem Sound.update_eq (h : table.Sound) (hgives : table.schema.Gives assignments given)
    (keep : Row -> Bool) :
    (table.schema.Obeyed (table.replaced given keep) ∧
      table.update assignments keep = .ok ((table.rows.filter keep).length,
        { table with rows := table.replaced given keep })) ∨
    (¬ table.schema.Obeyed (table.replaced given keep) ∧
      exists e, table.update assignments keep = .error e ∧ e.kind = .constraintViolation) := by
  rcases Schema.gives_iff.mp hgives with ⟨hreach, hfitting⟩
  cases hcheck : table.checkRows given [] (table.rows.filter keep) with
  | ok u =>
      have hok := update_eq_ok_iff.mpr ⟨given, hreach, hfitting, hcheck, rfl, rfl⟩
      rw [h.map_assigned_eq hgives] at hok
      exact Or.inl ⟨(h.update hok).obeyed, hok⟩
  | error e =>
      refine Or.inr ⟨?_, e, ?_, checkRows_error_kind hcheck⟩
      · intro hobeyed
        rw [h.checkRows_of_obeyed hgives hobeyed] at hcheck
        cases hcheck
      · have hbind := (Schema.bind_eq_ok_iff (Schema.judges_admitOnce .columnAssignedTwice)).mpr
          ⟨hreach, hfitting⟩
        unfold PlainTable.update
        rw [hbind, Result.ok_bind, hcheck]
        rfl

end PlainTable
end Tabula
