import Tabula.Table.Basic

/-!
# Ascending rows

A table keeps its rows in strictly ascending order of their ids, so a list of rows is known once its
members are known.
-/

namespace Tabula

/-!
# Cells
-/

namespace Row

theorem cell_eq_getD_getElem? (row : Row) (position : Nat) :
    row.cell position = (row.cells[position]?).getD .null :=
  List.getD_eq_getElem?_getD

theorem getElem?_eq_cell {row : Row} {position : Nat} (h : position < row.cells.length) :
    row.cells[position]? = some (row.cell position) := by
  rw [cell_eq_getD_getElem?, List.getElem?_eq_getElem h]
  rfl

end Row

/-!
# Order
-/

namespace Rows

def Ascending (rows : List Row) : Prop :=
  rows.Pairwise fun a b => a.id < b.id

namespace Ascending

theorem eq_of_id_eq {rows : List Row} (h : Ascending rows) {a b : Row} (ha : a ∈ rows)
    (hb : b ∈ rows) (hid : a.id = b.id) : a = b := by
  induction rows with
  | nil => cases ha
  | cons first rest ih =>
      rcases List.pairwise_cons.mp h with ⟨hfirst, hrest⟩
      rcases List.mem_cons.mp ha with hheadA | htailA
      · rcases List.mem_cons.mp hb with hheadB | htailB
        · rw [hheadA, hheadB]
        · have hlt := hfirst b htailB
          rw [← hheadA, hid] at hlt
          exact absurd hlt (Nat.lt_irrefl _)
      · rcases List.mem_cons.mp hb with hheadB | htailB
        · have hlt := hfirst a htailA
          rw [← hheadB, hid] at hlt
          exact absurd hlt (Nat.lt_irrefl _)
        · exact ih hrest htailA htailB

theorem nodup {rows : List Row} (h : Ascending rows) : rows.Nodup := by
  refine h.imp ?_
  intro a b hlt hab
  rw [hab] at hlt
  exact Nat.lt_irrefl _ hlt

/-- Ascending lists with the same members are the same list. -/
theorem ext {rows others : List Row} (h : Ascending rows) (h' : Ascending others)
    (hmem : forall row, row ∈ rows <-> row ∈ others) : rows = others := by
  have hperm := (List.perm_ext_iff_of_nodup h.nodup h'.nodup).mpr hmem
  refine List.Perm.eq_of_pairwise ?_ h h' hperm
  intro a b _ _ hab hba
  exact absurd hba (Nat.lt_asymm hab)

theorem filter {rows : List Row} (h : Ascending rows) (keep : Row -> Bool) :
    Ascending (rows.filter keep) :=
  h.sublist List.filter_sublist

theorem map {rows : List Row} (h : Ascending rows) {f : Row -> Row}
    (hid : forall row, (f row).id = row.id) : Ascending (rows.map f) := by
  refine List.pairwise_map.mpr (h.imp ?_)
  intro a b hlt
  rw [hid, hid]
  exact hlt

theorem map_id {rows : List Row} (h : Ascending rows) : (rows.map Row.id).Pairwise (· < ·) :=
  List.pairwise_map.mpr h

end Ascending

/-!
# Finding rows by id
-/

theorem find_eq_some_iff {rows : List Row} (h : Ascending rows) {id : Nat} {row : Row} :
    rows.find? (fun row => row.id == id) = some row <-> row ∈ rows ∧ row.id = id := by
  constructor
  · intro hfound
    refine ⟨List.mem_of_find?_eq_some hfound, ?_⟩
    have hid := List.find?_some hfound
    simpa using hid
  · intro hparts
    rcases hparts with ⟨hmem, hid⟩
    cases hfound : rows.find? (fun row => row.id == id) with
    | none =>
        have habsent := List.find?_eq_none.mp hfound row hmem
        simp [hid] at habsent
    | some other =>
        have hother := List.find?_some hfound
        have hsame : other.id = row.id := by
          rw [hid]
          simpa using hother
        rw [h.eq_of_id_eq (List.mem_of_find?_eq_some hfound) hmem hsame]

/-- Rows are found again by their ids, in the order of the ids. -/
theorem filterMap_find {rows picked : List Row} (h : Ascending rows)
    (hsub : forall row, row ∈ picked -> row ∈ rows) :
    (picked.map Row.id).filterMap (fun id => rows.find? fun row => row.id == id) = picked := by
  induction picked with
  | nil => rfl
  | cons row rest ih =>
      have hfound := (find_eq_some_iff h).mpr ⟨hsub row List.mem_cons_self, rfl⟩
      rw [List.map_cons, List.filterMap_cons, hfound,
        ih (fun other hmem => hsub other (List.mem_cons_of_mem _ hmem))]

/-!
# Putting a row in its place
-/

theorem mem_insertInto {row : Row} {rows : List Row} (h : Ascending rows) {x : Row} :
    x ∈ row.insertInto rows <-> x = row ∨ (x ∈ rows ∧ x.id ≠ row.id) := by
  induction rows with
  | nil => simp [Row.insertInto]
  | cons other rest ih =>
      rcases List.pairwise_cons.mp h with ⟨hother, hrest⟩
      unfold Row.insertInto
      split
      · next hlt =>
          have hgreater : forall y, y ∈ other :: rest -> y.id ≠ row.id := by
            intro y hy
            rcases List.mem_cons.mp hy with rfl | hy
            · omega
            · have := hother y hy
              omega
          rw [List.mem_cons]
          exact ⟨Or.imp_right fun hx => ⟨hx, hgreater x hx⟩, Or.imp_right And.left⟩
      · split
        · next hsame =>
            rw [List.mem_cons, List.mem_cons]
            constructor
            · intro hcase
              rcases hcase with rfl | hx
              · exact Or.inl rfl
              · have := hother x hx
                exact Or.inr ⟨Or.inr hx, by omega⟩
            · intro hcase
              rcases hcase with rfl | ⟨rfl | hx, hne⟩
              · exact Or.inl rfl
              · exact absurd hsame.symm hne
              · exact Or.inr hx
        · next hdiffer =>
            rw [List.mem_cons, List.mem_cons, ih hrest]
            constructor
            · intro hcase
              rcases hcase with rfl | rfl | ⟨hx, hne⟩
              · exact Or.inr ⟨Or.inl rfl, fun hid => hdiffer hid.symm⟩
              · exact Or.inl rfl
              · exact Or.inr ⟨Or.inr hx, hne⟩
            · intro hcase
              rcases hcase with rfl | ⟨rfl | hx, hne⟩
              · exact Or.inr (Or.inl rfl)
              · exact Or.inl rfl
              · exact Or.inr (Or.inr ⟨hx, hne⟩)

theorem ascending_insertInto {row : Row} {rows : List Row} (h : Ascending rows) :
    Ascending (row.insertInto rows) := by
  induction rows with
  | nil => exact List.pairwise_singleton _ _
  | cons other rest ih =>
      rcases List.pairwise_cons.mp h with ⟨hother, hrest⟩
      unfold Row.insertInto
      split
      · next hlt =>
          refine List.pairwise_cons.mpr ⟨?_, h⟩
          intro x hx
          rcases List.mem_cons.mp hx with rfl | hx
          · exact hlt
          · exact Nat.lt_trans hlt (hother x hx)
      · split
        · next hsame =>
            refine List.pairwise_cons.mpr ⟨?_, hrest⟩
            intro x hx
            rw [hsame]
            exact hother x hx
        · next hlt hdiffer =>
            refine List.pairwise_cons.mpr ⟨?_, ih hrest⟩
            intro x hx
            rcases (mem_insertInto hrest).mp hx with rfl | ⟨hx, _⟩
            · omega
            · exact hother x hx

theorem insertInto_eq_append {row : Row} {rows : List Row}
    (h : forall other, other ∈ rows -> other.id < row.id) : row.insertInto rows = rows ++ [row] := by
  induction rows with
  | nil => rfl
  | cons other rest ih =>
      have hlt := h other List.mem_cons_self
      unfold Row.insertInto
      rw [if_neg (by omega), if_neg (by omega),
        ih (fun x hx => h x (List.mem_cons_of_mem _ hx))]
      rfl

/-!
# Replacing and removing several rows
-/

theorem mem_foldl_insertInto {rows planned : List Row} (h : Ascending rows)
    (hplanned : Ascending planned) {x : Row} :
    x ∈ planned.foldl (fun rows row => row.insertInto rows) rows <->
      x ∈ planned ∨ (x ∈ rows ∧ forall row, row ∈ planned -> x.id ≠ row.id) := by
  induction planned generalizing rows with
  | nil => simp
  | cons first rest ih =>
      rcases List.pairwise_cons.mp hplanned with ⟨hfirst, hrest⟩
      rw [List.foldl_cons, ih (ascending_insertInto h) hrest, mem_insertInto h, List.mem_cons,
        List.forall_mem_cons]
      constructor
      · intro hcase
        rcases hcase with hx | ⟨rfl | ⟨hx, hne⟩, hothers⟩
        · exact Or.inl (Or.inr hx)
        · exact Or.inl (Or.inl rfl)
        · exact Or.inr ⟨hx, hne, hothers⟩
      · intro hcase
        rcases hcase with (rfl | hx) | ⟨hx, hne, hothers⟩
        · exact Or.inr ⟨Or.inl rfl, fun row hrow => Nat.ne_of_lt (hfirst row hrow)⟩
        · exact Or.inl hx
        · exact Or.inr ⟨Or.inr ⟨hx, hne⟩, hothers⟩

theorem ascending_foldl_insertInto {rows : List Row} (h : Ascending rows) (planned : List Row) :
    Ascending (planned.foldl (fun rows row => row.insertInto rows) rows) := by
  induction planned generalizing rows with
  | nil => exact h
  | cons row rest ih => exact ih (ascending_insertInto h)

/-- Replacing kept rows one by one replaces exactly these. -/
theorem foldl_insertInto_eq_map {rows : List Row} (h : Ascending rows) (keep : Row -> Bool)
    {f : Row -> Row} (hid : forall row, (f row).id = row.id) :
    ((rows.filter keep).map f).foldl (fun rows row => row.insertInto rows) rows =
      rows.map fun row => if keep row then f row else row := by
  have hplanned : Ascending ((rows.filter keep).map f) := (h.filter keep).map hid
  have hmapped : forall row, (if keep row then f row else row).id = row.id := by
    intro row
    split
    · exact hid row
    · rfl
  apply (ascending_foldl_insertInto h _).ext (h.map hmapped)
  intro x
  rw [mem_foldl_insertInto h hplanned, List.mem_map, List.mem_map]
  constructor
  · intro hcase
    rcases hcase with ⟨row, hrow, rfl⟩ | ⟨hx, hothers⟩
    · rcases List.mem_filter.mp hrow with ⟨hmem, hkeep⟩
      exact ⟨row, hmem, if_pos hkeep⟩
    · refine ⟨x, hx, if_neg ?_⟩
      intro hkeep
      apply hothers (f x) (List.mem_map.mpr ⟨x, List.mem_filter.mpr ⟨hx, hkeep⟩, rfl⟩)
      exact (hid x).symm
  · intro hparts
    rcases hparts with ⟨row, hrow, rfl⟩
    by_cases hkeep : keep row = true
    · rw [if_pos hkeep]
      exact Or.inl ⟨row, List.mem_filter.mpr ⟨hrow, hkeep⟩, rfl⟩
    · rw [if_neg hkeep]
      refine Or.inr ⟨hrow, ?_⟩
      intro other hother hsame
      rcases List.mem_map.mp hother with ⟨source, hsource, rfl⟩
      rcases List.mem_filter.mp hsource with ⟨hmem, hkept⟩
      rw [hid] at hsame
      exact hkeep (h.eq_of_id_eq hrow hmem hsame ▸ hkept)

theorem foldl_filter_eq {rows doomed : List Row} :
    doomed.foldl (fun rows row => rows.filter fun other => other.id != row.id) rows =
      rows.filter fun row => doomed.all fun other => row.id != other.id := by
  induction doomed generalizing rows with
  | nil => exact (List.filter_eq_self.mpr fun _ _ => rfl).symm
  | cons first rest ih =>
      rw [List.foldl_cons, ih, List.filter_filter]
      apply List.filter_congr
      intro row _
      rw [List.all_cons, Bool.and_comm]

/-- Removing kept rows one by one leaves exactly the others. -/
theorem foldl_filter_eq_filter {rows : List Row} (h : Ascending rows) (keep : Row -> Bool) :
    (rows.filter keep).foldl (fun rows row => rows.filter fun other => other.id != row.id) rows =
      rows.filter fun row => !keep row := by
  rw [foldl_filter_eq]
  apply List.filter_congr
  intro row hrow
  rw [Bool.eq_iff_iff, List.all_eq_true]
  constructor
  · intro hall
    rw [Bool.not_eq_true']
    apply Bool.eq_false_iff.mpr
    intro hkeep
    have hne := hall row (List.mem_filter.mpr ⟨hrow, hkeep⟩)
    simp at hne
  · intro hkeep other hother
    rcases List.mem_filter.mp hother with ⟨hmem, hkept⟩
    rw [bne_iff_ne]
    intro hid
    rw [h.eq_of_id_eq hrow hmem hid, hkept] at hkeep
    cases hkeep

end Rows
end Tabula
