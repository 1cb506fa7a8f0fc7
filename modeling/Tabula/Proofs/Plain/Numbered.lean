import Tabula.Proofs.Plain.Kept

/-!
# Rows numbered from one

A table whose counter has started from one numbers its rows from one: no step hands out the id zero.
A counter can start from zero only by being loaded.
-/

namespace Tabula
namespace PlainTable

structure Numbered (table : PlainTable) : Prop where
  counter_pos : 0 < table.nextRowId
  ids_pos : forall row, row ∈ table.rows -> 0 < row.id

variable {table table' : PlainTable}

theorem numbered_new (schema : Schema) : Numbered { schema } where
  counter_pos := Nat.one_pos
  ids_pos := by
    intro row hrow
    cases hrow

theorem Numbered.insert (h : table.Numbered) {columns : List String} {values : List Value}
    {id : Nat} (hok : table.insert columns values = .ok (id, table')) : table'.Numbered := by
  rcases insert_eq_ok_iff.mp hok with ⟨cells, _, _, _, htable⟩
  subst htable
  refine ⟨Nat.succ_pos _, ?_⟩
  intro row hrow
  rcases List.mem_append.mp hrow with hold | hnew
  · exact h.ids_pos row hold
  · rw [List.mem_singleton.mp hnew]
    exact h.counter_pos

theorem Numbered.update (h : table.Numbered) {assignments : List (String × Value)}
    {keep : Row -> Bool} {count : Nat}
    (hok : table.update assignments keep = .ok (count, table')) : table'.Numbered := by
  rcases update_eq_ok_iff.mp hok with ⟨bound, _, _, _, _, htable⟩
  subst htable
  refine ⟨h.counter_pos, ?_⟩
  intro x hx
  rcases List.mem_map.mp hx with ⟨row, hrow, rfl⟩
  rw [id_ite_assigned]
  exact h.ids_pos row hrow

theorem Numbered.delete (h : table.Numbered) {keep : Row -> Bool} {count : Nat}
    (hok : table.delete keep = .ok (count, table')) : table'.Numbered := by
  cases hok
  refine ⟨h.counter_pos, ?_⟩
  intro row hrow
  exact h.ids_pos row (List.mem_filter.mp hrow).1

theorem kept_numbered : Kept Numbered where
  insert h hok := h.insert hok
  update h hok := h.update hok
  delete h hok := h.delete hok

end PlainTable
end Tabula
