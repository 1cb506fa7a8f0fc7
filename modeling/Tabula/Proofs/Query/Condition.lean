import Tabula.Proofs.Query.Exchange

/-!
# Join conditions read from either end

The two references of a join condition are given to the two tables by what they tell of themselves,
and by their places only where neither of them tells anything.  So a condition of which one
reference tells its side means the same when its references change places.
-/

namespace Tabula

open Sql (ColumnRef Condition JoinClause Projection)

namespace Sides

variable {sides : Sides}

/-- The side of a reference can be told: it has a qualifier, or one of the two tables has a column
of its name and the other one has not. -/
def Tells (sides : Sides) (ref : ColumnRef) : Prop :=
  ref.table.isSome = true ∨ sides.left.hasColumn ref.column ≠ sides.right.hasColumn ref.column

/-- A reference that tells its side is given to a side or refused. -/
theorem Tells.isSome_of_conditionSide? {ref : ColumnRef} (h : sides.Tells ref)
    (hnames : Text.alike sides.left.name sides.right.name = false) {told : Option Side}
    (hside : sides.conditionSide? ref = .ok told) : told.isSome = true := by
  cases hqualified : ref.table.isSome with
  | true =>
      rw [conditionSide?_of_qualified hnames hqualified] at hside
      rcases Result.map_eq_ok_iff.mp hside with ⟨side, _, hsome⟩
      rw [← hsome]
      rfl
  | false =>
      have hdiffer : sides.left.hasColumn ref.column ≠ sides.right.hasColumn ref.column := by
        rcases h with hqualifier | hdiffer
        · rw [hqualified] at hqualifier
          cases hqualifier
        · exact hdiffer
      unfold conditionSide? at hside
      rw [hnames, hqualified, if_neg Bool.false_ne_true, if_neg Bool.false_ne_true] at hside
      cases hleft : sides.left.hasColumn ref.column with
      | true =>
          cases hright : sides.right.hasColumn ref.column with
          | true => exact absurd (hleft.trans hright.symm) hdiffer
          | false =>
              rw [hleft, hright] at hside
              cases hside
              rfl
      | false =>
          cases hright : sides.right.hasColumn ref.column with
          | true =>
              rw [hleft, hright] at hside
              cases hside
              rfl
          | false => exact absurd (hleft.trans hright.symm) hdiffer

/-- Of two references one of which has a side, each is given to the same table whichever of them
comes first. -/
theorem keys_swapped {first second : ColumnRef} {told told' : Option Side}
    (hfirst : sides.conditionSide? first = .ok told)
    (hsecond : sides.conditionSide? second = .ok told')
    (htold : told.isSome = true ∨ told'.isSome = true) {table : String} {keys : Field × Field}
    (hkeys : sides.keys ⟨table, first, second⟩ = .ok keys) :
    sides.keys ⟨table, second, first⟩ = .ok keys := by
  unfold Sides.keys at hkeys ⊢
  simp only [hfirst, hsecond, Result.ok_bind] at hkeys ⊢
  cases told with
  | none =>
      cases told' with
      | none => simp at htold
      | some side' => cases side' <;> simpa using hkeys
  | some side =>
      cases told' with
      | none => cases side <;> simpa using hkeys
      | some side' =>
          -- References of one side are refused from both ends.
          cases side with
          | left =>
              cases side' with
              | left => simp at hkeys
              | right => simpa using hkeys
          | right =>
              cases side' with
              | left => simpa using hkeys
              | right => simp at hkeys

/-- A condition finds its keys exactly if it does from its other end, and finds the same. -/
theorem keys_swapped_iff (hnames : Text.alike sides.left.name sides.right.name = false)
    {first second : ColumnRef} (htells : sides.Tells first ∨ sides.Tells second) {table : String}
    {keys : Field × Field} :
    sides.keys ⟨table, first, second⟩ = .ok keys <->
      sides.keys ⟨table, second, first⟩ = .ok keys := by
  have hswapped : forall first second, sides.Tells first ∨ sides.Tells second ->
      sides.keys ⟨table, first, second⟩ = .ok keys ->
        sides.keys ⟨table, second, first⟩ = .ok keys := by
    intro first second htells hkeys
    rcases Result.bind_eq_ok_iff.mp hkeys with ⟨told, hfirst, hrest⟩
    rcases Result.bind_eq_ok_iff.mp hrest with ⟨told', hsecond, _⟩
    apply keys_swapped hfirst hsecond _ hkeys
    rcases htells with htells | htells
    · exact Or.inl (htells.isSome_of_conditionSide? hnames hfirst)
    · exact Or.inr (htells.isSome_of_conditionSide? hnames hsecond)
  exact ⟨hswapped first second htells, hswapped second first htells.symm⟩

end Sides

namespace Join

/-- In a join of two tables with different names it does not matter which reference of the condition
comes first, as long as one of them has a qualifier or a name that only one of the tables has: from
both ends the join succeeds with the same columns and the same rows in the same order, or with
neither. -/
theorem condition_order_is_immaterial (join : Join)
    (hnames : Text.alike join.left.name join.right.name = false) (first second : ColumnRef)
    (htells : join.sides.Tells first ∨ join.sides.Tells second) (table : String)
    (projection : Projection) (condition : Option Condition) (set : RowSet) :
    join.run ⟨table, first, second⟩ projection condition = .ok set <->
      join.run ⟨table, second, first⟩ projection condition = .ok set := by
  unfold run
  rw [Result.bind_eq_ok_iff, Result.bind_eq_ok_iff]
  apply exists_congr
  intro keys
  exact and_congr_left fun _ => @Sides.keys_swapped_iff join.sides hnames _ _ htells _ keys

/-- The qualified reference belongs to the right table and the other one, by its name, to the left
table. -/
theorem condition_order_is_immaterial_sample :
    Join.run ⟨Database.sampleTable, Database.sampleVisits [] none⟩
        ⟨"visits", ⟨some "visits", "pet"⟩, ⟨none, "id"⟩⟩ .all (some ⟨⟨none, "fee"⟩, .null⟩) =
        .ok Database.sampleJoined ∧
      Join.run ⟨Database.sampleTable, Database.sampleVisits [] none⟩
        ⟨"visits", ⟨none, "id"⟩, ⟨some "visits", "pet"⟩⟩ .all (some ⟨⟨none, "fee"⟩, .null⟩) =
        .ok Database.sampleJoined := by
  have hok : Join.run ⟨Database.sampleTable, Database.sampleVisits [] none⟩
      ⟨"visits", ⟨some "visits", "pet"⟩, ⟨none, "id"⟩⟩ .all (some ⟨⟨none, "fee"⟩, .null⟩) =
      .ok Database.sampleJoined := by
    decide +kernel
  exact ⟨hok, (condition_order_is_immaterial _ (by decide +kernel) _ _ (Or.inl (Or.inl rfl)) _ _ _
    _).mp hok⟩

end Join
end Tabula
