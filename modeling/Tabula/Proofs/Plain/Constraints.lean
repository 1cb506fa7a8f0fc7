import Tabula.Proofs.Plain.Table
import Tabula.Proofs.Result

/-!
# What the checks of a plain table accept

A row passes the checks if its primary key is not NULL and no other row holds a value of it in a
column with a constraint.  The rows of an update pass if each of them does, and if only one row is
assigned where a value is one that no two rows may share.
-/

namespace Tabula

theorem Column.isIndexed_of_isPrimaryKey {column : Column} (h : column.isPrimaryKey = true) :
    column.isIndexed = true := by
  unfold Column.isIndexed
  rw [h]
  rfl

namespace PlainTable

variable {table : PlainTable} {own : Option Nat}

/-!
# One row
-/

/-- A column of the row stored under `own` may hold this value. -/
structure Admits (table : PlainTable) (own : Option Nat) (field : Field) (v : Value) : Prop where
  primaryKey : field.column.isPrimaryKey = true -> v ≠ .null
  unique : field.column.isIndexed = true -> v ≠ .null ->
    forall row, row ∈ table.rows -> some row.id ≠ own -> row.cell field.position ≠ v

theorem heldByOther_eq_true_iff {position : Nat} {v : Value} :
    table.heldByOther position v own = true <->
      exists row, row ∈ table.rows ∧ some row.id ≠ own ∧ row.cell position = v := by
  unfold heldByOther
  rw [List.any_eq_true]
  apply exists_congr
  intro row
  rw [Bool.and_eq_true, bne_iff_ne, beq_iff_eq]

theorem checkCell_eq_ok_iff {field : Field} {v : Value} :
    table.checkCell own field v = .ok () <-> table.Admits own field v := by
  unfold checkCell
  cases hindexed : field.column.isIndexed with
  | false =>
      rw [if_neg Bool.false_ne_true]
      constructor
      · intro _
        constructor
        · intro hkey
          rw [Column.isIndexed_of_isPrimaryKey hkey] at hindexed
          cases hindexed
        · intro hindexed'
          rw [hindexed] at hindexed'
          cases hindexed'
      · intro _
        rfl
  | true =>
      rw [if_pos rfl]
      by_cases hnull : v = .null
      · rw [if_pos (Value.isNull_iff.mpr hnull)]
        cases hkey : field.column.isPrimaryKey with
        | true =>
            constructor
            · intro h
              cases h
            · intro h
              exact absurd hnull (h.primaryKey hkey)
        | false =>
            constructor
            · intro _
              constructor
              · intro hkey'
                rw [hkey] at hkey'
                cases hkey'
              · intro _ hv
                exact absurd hnull hv
            · intro _
              rfl
      · rw [if_neg (fun h => hnull (Value.isNull_iff.mp h))]
        by_cases hheld : table.heldByOther field.position v own = true
        · rw [if_pos hheld]
          constructor
          · intro h
            cases h
          · intro h
            rcases heldByOther_eq_true_iff.mp hheld with ⟨row, hrow, hown, hcell⟩
            exact absurd hcell (h.unique hindexed hnull row hrow hown)
        · rw [if_neg hheld]
          constructor
          · intro _
            constructor
            · intro _
              exact hnull
            · intro _ _ row hrow hown hcell
              exact hheld (heldByOther_eq_true_iff.mpr ⟨row, hrow, hown, hcell⟩)
          · intro _
            rfl

theorem checkRow_eq_ok_iff {cells : List Value} :
    table.checkRow cells own = .ok () <->
      forall field, field ∈ table.schema.fields ->
        table.Admits own field (cells.getD field.position .null) := by
  unfold checkRow
  rw [Result.forM_eq_ok_iff]
  apply forall_congr'
  intro field
  rw [checkCell_eq_ok_iff]

/-!
# The rows of an update
-/

theorem claims_iff {entry : Field × Value} :
    claims entry = true <-> entry.2 ≠ .null ∧ entry.1.column.isIndexed = true := by
  unfold claims
  rw [Bool.and_eq_true, Bool.not_eq_true', Bool.eq_false_iff, ne_eq, Value.isNull_iff]

theorem claim_cons (claimed : List (Field × Value)) (entry : Field × Value)
    (rest : List (Field × Value)) :
    table.claim claimed (entry :: rest) =
      if claims entry = true then
        if entry ∈ claimed then
          .error (.valueAssignedTwice table.schema.name entry.1.column.name entry.2)
        else
          table.claim (entry :: claimed) rest
      else
        table.claim claimed rest := by
  unfold claim
  rw [List.foldlM_cons]
  cases hclaims : claims entry with
  | false => rfl
  | true =>
      by_cases hclaimed : entry ∈ claimed
      · rw [if_pos rfl, if_pos hclaimed, if_neg (by simp), if_pos (List.contains_iff_mem.mpr hclaimed)]
        rfl
      · rw [if_pos rfl, if_neg hclaimed, if_neg (by simp),
          if_neg (fun h => hclaimed (List.contains_iff_mem.mp h))]
        rfl

/-- Claiming goes through exactly if nothing is claimed twice. -/
theorem claim_eq_ok_iff {claimed bound result : List (Field × Value)} (hbound : bound.Nodup) :
    table.claim claimed bound = .ok result <->
      (forall entry, entry ∈ bound -> claims entry = true -> entry ∉ claimed) ∧
        result = (bound.filter claims).reverse ++ claimed := by
  induction bound generalizing claimed with
  | nil =>
      constructor
      · intro h
        cases h
        refine ⟨?_, rfl⟩
        intro entry hentry
        cases hentry
      · intro h
        rw [h.2]
        rfl
  | cons first rest ih =>
      rcases List.nodup_cons.mp hbound with ⟨hfirst, hrest⟩
      rw [claim_cons, List.forall_mem_cons]
      by_cases hclaims : claims first = true
      · rw [if_pos hclaims, List.filter_cons_of_pos hclaims, List.reverse_cons]
        by_cases hclaimed : first ∈ claimed
        · rw [if_pos hclaimed]
          constructor
          · intro h
            cases h
          · intro h
            exact absurd hclaimed (h.1.1 hclaims)
        · rw [if_neg hclaimed, ih hrest, List.append_assoc]
          constructor
          · intro h
            refine ⟨⟨fun _ => hclaimed, ?_⟩, h.2⟩
            intro entry hentry hentryClaims hentryClaimed
            exact h.1 entry hentry hentryClaims (List.mem_cons_of_mem _ hentryClaimed)
          · intro h
            refine ⟨?_, h.2⟩
            intro entry hentry hentryClaims hentryClaimed
            rcases List.mem_cons.mp hentryClaimed with hsame | hentryClaimed
            · exact hfirst (hsame ▸ hentry)
            · exact h.1.2 entry hentry hentryClaims hentryClaimed
      · rw [if_neg hclaims, List.filter_cons_of_neg hclaims, ih hrest]
        constructor
        · intro h
          exact ⟨⟨fun h' => absurd h' hclaims, h.1⟩, h.2⟩
        · intro h
          exact ⟨h.1.2, h.2⟩

theorem checkRows_cons_eq_ok_iff {bound claimed : List (Field × Value)} {row : Row}
    {rest : List Row} :
    table.checkRows bound claimed (row :: rest) = .ok () <->
      table.checkRow (Schema.assign row.cells bound) (some row.id) = .ok () ∧
        exists claimed', table.claim claimed bound = .ok claimed' ∧
          table.checkRows bound claimed' rest = .ok () := by
  rw [checkRows, Result.bind_eq_ok_iff]
  constructor
  · intro h
    rcases h with ⟨_, hrow, hrest⟩
    exact ⟨hrow, Result.bind_eq_ok_iff.mp hrest⟩
  · intro h
    exact ⟨(), h.1, Result.bind_eq_ok_iff.mpr h.2⟩

/-- The rows of an update pass exactly if each of them passes and nothing is claimed twice. -/
theorem checkRows_eq_ok_iff {bound claimed : List (Field × Value)} (hbound : bound.Nodup)
    {rows : List Row} :
    table.checkRows bound claimed rows = .ok () <->
      (forall row, row ∈ rows ->
          table.checkRow (Schema.assign row.cells bound) (some row.id) = .ok ()) ∧
        forall entry, entry ∈ bound -> claims entry = true ->
          rows.length <= 1 ∧ (rows ≠ [] -> entry ∉ claimed) := by
  induction rows generalizing claimed with
  | nil =>
      constructor
      · intro _
        refine ⟨?_, fun _ _ _ => ⟨Nat.zero_le 1, fun h => absurd rfl h⟩⟩
        intro row hrow
        cases hrow
      · intro _
        rfl
  | cons row rest ih =>
      rw [checkRows_cons_eq_ok_iff, List.forall_mem_cons, List.length_cons]
      constructor
      · intro h
        rcases h with ⟨hrow, claimed', hclaim, hrest⟩
        rcases (claim_eq_ok_iff hbound).mp hclaim with ⟨hnew, hclaimed⟩
        rcases ih.mp hrest with ⟨hrows, hclaims⟩
        refine ⟨⟨hrow, hrows⟩, ?_⟩
        intro entry hentry hentryClaims
        refine ⟨?_, fun _ => hnew entry hentry hentryClaims⟩
        -- a second row would find the claims of the first
        by_cases hnil : rest = []
        · rw [hnil]
          exact Nat.le_refl 1
        · have hfree := (hclaims entry hentry hentryClaims).2 hnil
          rw [hclaimed, List.mem_append, List.mem_reverse, List.mem_filter] at hfree
          exact absurd (Or.inl ⟨hentry, hentryClaims⟩) hfree
      · intro h
        rcases h with ⟨⟨hrow, hrows⟩, hclaims⟩
        refine ⟨hrow, _, (claim_eq_ok_iff hbound).mpr ⟨?_, rfl⟩, ih.mpr ⟨hrows, ?_⟩⟩
        · intro entry hentry hentryClaims
          exact (hclaims entry hentry hentryClaims).2 (List.cons_ne_nil row rest)
        · intro entry hentry hentryClaims
          have hlength := (hclaims entry hentry hentryClaims).1
          have hnil : rest = [] := List.eq_nil_of_length_eq_zero (by omega)
          rw [hnil]
          exact ⟨Nat.zero_le 1, fun h => absurd rfl h⟩

end PlainTable
end Tabula
