import Tabula.Proofs.Schema
import Tabula.Schema.Binding

/-!
# Bound values

Values bind to columns if every name reaches a column, no two names reach the same one and every
value fits its column.  Assigning bound values changes the cells of their columns and no others.
-/

namespace Tabula
namespace Schema

/-!
# Judges
-/

/-- A judge that accepts the values of a column's type for columns that are not bound yet. -/
def Judges (judge : Field -> Value -> Bool -> Except Error Unit) : Prop :=
  forall field v taken,
    judge field v taken = .ok () <-> taken = false ∧ v.fits field.column.type = true

theorem checkType_eq_ok_iff {column : Column} {v : Value} :
    checkType column v = .ok () <-> v.fits column.type = true := by
  unfold checkType
  cases v.fits column.type with
  | false => simp
  | true => simp

theorem judges_admitOnce (repeated : String -> Error) : Judges (admitOnce repeated) := by
  intro field v taken
  unfold admitOnce
  cases taken with
  | false => simp [checkType_eq_ok_iff]
  | true => simp

/-!
# Fitting values
-/

/-- The values go to different columns and fit them. -/
structure Fitting (bound : List (Field × Value)) : Prop where
  positions_nodup : (bound.map fun entry => entry.1.position).Nodup
  fits : forall entry, entry ∈ bound -> entry.2.fits entry.1.column.type = true

theorem fitting_nil : Fitting [] where
  positions_nodup := List.nodup_nil
  fits := by
    intro entry hentry
    cases hentry

theorem binds_eq_false_iff {bound : List (Field × Value)} {field : Field} :
    binds bound field = false <-> field.position ∉ bound.map fun entry => entry.1.position := by
  unfold binds
  rw [List.any_eq_false, List.mem_map]
  constructor
  · intro h hposition
    rcases hposition with ⟨entry, hentry, hsame⟩
    exact h entry hentry (beq_iff_eq.mpr hsame)
  · intro h entry hentry hsame
    exact h ⟨entry, hentry, beq_iff_eq.mp hsame⟩

theorem fitting_snoc_iff {bound : List (Field × Value)} {field : Field} {v : Value} :
    Fitting (bound ++ [(field, v)]) <->
      Fitting bound ∧ binds bound field = false ∧ v.fits field.column.type = true := by
  rw [binds_eq_false_iff]
  constructor
  · intro h
    have hpositions := h.positions_nodup
    rw [List.map_append, List.nodup_append] at hpositions
    refine ⟨⟨hpositions.1, ?_⟩, ?_, ?_⟩
    · intro entry hentry
      exact h.fits entry (List.mem_append_left _ hentry)
    · intro htaken
      exact hpositions.2.2 _ htaken _ List.mem_cons_self rfl
    · exact h.fits (field, v) (List.mem_append_right _ List.mem_cons_self)
  · intro h
    rcases h with ⟨hbound, hnew, hfits⟩
    constructor
    · rw [List.map_append, List.nodup_append]
      refine ⟨hbound.positions_nodup, List.pairwise_singleton _ _, ?_⟩
      intro a ha b hb hab
      rw [List.map_singleton, List.mem_singleton] at hb
      exact hnew (hb ▸ hab ▸ ha)
    · intro entry hentry
      rcases List.mem_append.mp hentry with hentry | hentry
      · exact hbound.fits entry hentry
      · rw [List.mem_singleton.mp hentry]
        exact hfits

theorem Fitting.nodup {bound : List (Field × Value)} (h : Fitting bound) : bound.Nodup := by
  apply (List.pairwise_map.mp h.positions_nodup).imp
  intro a b hne hab
  exact hne (congrArg (fun entry => entry.1.position) hab)

theorem Fitting.of_append {bound more : List (Field × Value)} (h : Fitting (bound ++ more)) :
    Fitting bound := by
  have hpositions := h.positions_nodup
  rw [List.map_append] at hpositions
  refine ⟨(List.nodup_append.mp hpositions).1, ?_⟩
  intro entry hentry
  exact h.fits entry (List.mem_append_left _ hentry)

/-!
# Binding
-/

/-- Each name with the column that it reaches. -/
def reach (schema : Schema) : List (String × Value) -> Except Error (List (Field × Value))
  | [] => .ok []
  | (name, v) :: rest => do
      let field <- schema.resolve name
      let others <- schema.reach rest
      return (field, v) :: others

theorem reach_cons_eq_ok_iff {schema : Schema} {name : String} {v : Value}
    {rest : List (String × Value)} {bound : List (Field × Value)} :
    schema.reach ((name, v) :: rest) = .ok bound <->
      exists field others, schema.resolve name = .ok field ∧ schema.reach rest = .ok others ∧
        bound = (field, v) :: others := by
  rw [reach, Result.bind_eq_ok_iff]
  constructor
  · intro h
    rcases h with ⟨field, hfield, hrest⟩
    rcases Result.bind_eq_ok_iff.mp hrest with ⟨others, hothers, hcons⟩
    cases hcons
    exact ⟨field, others, hfield, hothers, rfl⟩
  · intro h
    rcases h with ⟨field, others, hfield, hothers, hbound⟩
    refine ⟨field, hfield, ?_⟩
    rw [hothers, hbound]
    rfl

theorem mem_of_reach {schema : Schema} {cells : List (String × Value)}
    {bound : List (Field × Value)} (h : schema.reach cells = .ok bound) {entry : Field × Value}
    (hentry : entry ∈ bound) :
    exists name, (name, entry.2) ∈ cells ∧ schema.resolve name = .ok entry.1 := by
  induction cells generalizing bound with
  | nil =>
      cases h
      cases hentry
  | cons cell rest ih =>
      rcases cell with ⟨name, v⟩
      rcases reach_cons_eq_ok_iff.mp h with ⟨field, others, hfield, hothers, hbound⟩
      rw [hbound] at hentry
      rcases List.mem_cons.mp hentry with hentry | hentry
      · rw [hentry]
        exact ⟨name, List.mem_cons_self, hfield⟩
      · rcases ih hothers hentry with ⟨other, hother, hresolve⟩
        exact ⟨other, List.mem_cons_of_mem _ hother, hresolve⟩

theorem mem_fields_of_reach {schema : Schema} {cells : List (String × Value)}
    {bound : List (Field × Value)} (h : schema.reach cells = .ok bound) {entry : Field × Value}
    (hentry : entry ∈ bound) : entry.1 ∈ schema.fields := by
  rcases mem_of_reach h hentry with ⟨name, _, hresolve⟩
  exact (resolve_eq_ok hresolve).1

/-- A cell with the column that its name reaches. -/
def reached (schema : Schema) (cell : String × Value) : Option (Field × Value) :=
  (schema.field? (unqualified cell.1)).map fun field => (field, cell.2)

theorem reach_eq_ok_iff {schema : Schema} {cells : List (String × Value)}
    {bound : List (Field × Value)} :
    schema.reach cells = .ok bound <->
      (forall cell, cell ∈ cells -> (schema.reached cell).isSome = true) ∧
        bound = cells.filterMap schema.reached := by
  induction cells generalizing bound with
  | nil =>
      constructor
      · intro h
        cases h
        exact ⟨fun _ hcell => absurd hcell List.not_mem_nil, rfl⟩
      · intro h
        rw [h.2]
        rfl
  | cons cell rest ih =>
      rcases cell with ⟨name, v⟩
      rw [reach_cons_eq_ok_iff, List.forall_mem_cons]
      simp only [resolve_eq_ok_iff, ih]
      cases hfield : schema.field? (unqualified name) with
      | none => simp [reached, hfield]
      | some field =>
          have hreached : schema.reached (name, v) = some (field, v) := by
            unfold reached
            rw [hfield]
            rfl
          rw [List.filterMap_cons_some hreached, hreached]
          constructor
          · intro h
            rcases h with ⟨_, _, hsame, ⟨hrest, hothers⟩, hbound⟩
            rw [← Option.some.inj hsame, hothers] at hbound
            exact ⟨⟨rfl, hrest⟩, hbound⟩
          · intro h
            exact ⟨field, _, rfl, ⟨h.1.2, rfl⟩, h.2⟩

/-- Binding that goes on after some values are bound. -/
def bindAfter (schema : Schema) (judge : Field -> Value -> Bool -> Except Error Unit)
    (bound : List (Field × Value)) (cells : List (String × Value)) :
    Except Error (List (Field × Value)) :=
  cells.foldlM
    (fun bound (name, v) => do
      let field <- schema.resolve name
      judge field v (binds bound field)
      return bound ++ [(field, v)])
    bound

theorem bindAfter_cons (schema : Schema) (judge : Field -> Value -> Bool -> Except Error Unit)
    (bound : List (Field × Value)) (name : String) (v : Value) (rest : List (String × Value)) :
    schema.bindAfter judge bound ((name, v) :: rest) =
      schema.resolve name >>= fun field =>
        judge field v (binds bound field) >>= fun _ =>
          schema.bindAfter judge (bound ++ [(field, v)]) rest := by
  unfold bindAfter
  rw [List.foldlM_cons, bind_assoc]
  apply bind_congr
  intro field
  rw [bind_assoc]
  rfl

theorem bindAfter_cons_eq_ok_iff {schema : Schema}
    {judge : Field -> Value -> Bool -> Except Error Unit} {bound result : List (Field × Value)}
    {name : String} {v : Value} {rest : List (String × Value)} :
    schema.bindAfter judge bound ((name, v) :: rest) = .ok result <->
      exists field, schema.resolve name = .ok field ∧ judge field v (binds bound field) = .ok () ∧
        schema.bindAfter judge (bound ++ [(field, v)]) rest = .ok result := by
  rw [bindAfter_cons, Result.bind_eq_ok_iff]
  apply exists_congr
  intro field
  apply and_congr_right
  intro _
  rw [Result.bind_eq_ok_iff]
  constructor
  · intro h
    rcases h with ⟨_, hverdict, hrest⟩
    exact ⟨hverdict, hrest⟩
  · intro h
    exact ⟨(), h.1, h.2⟩

/-- What binding leads to: the names reach columns and the values fit them. -/
theorem bindAfter_eq_ok_iff {schema : Schema}
    {judge : Field -> Value -> Bool -> Except Error Unit} (hjudge : Judges judge)
    {bound result : List (Field × Value)} (hbound : Fitting bound)
    {cells : List (String × Value)} :
    schema.bindAfter judge bound cells = .ok result <->
      exists more, schema.reach cells = .ok more ∧ result = bound ++ more ∧ Fitting result := by
  induction cells generalizing bound with
  | nil =>
      constructor
      · intro h
        cases h
        exact ⟨[], rfl, (List.append_nil _).symm, hbound⟩
      · intro h
        rcases h with ⟨more, hmore, hresult, _⟩
        cases hmore
        rw [hresult, List.append_nil]
        rfl
  | cons cell rest ih =>
      rcases cell with ⟨name, v⟩
      rw [bindAfter_cons_eq_ok_iff]
      constructor
      · intro h
        rcases h with ⟨field, hfield, hverdict, hrest⟩
        have hnow := fitting_snoc_iff.mpr ⟨hbound, (hjudge field v _).mp hverdict⟩
        rcases (ih hnow).mp hrest with ⟨more, hmore, hresult, hfitting⟩
        rw [List.append_assoc] at hresult
        exact ⟨(field, v) :: more, reach_cons_eq_ok_iff.mpr ⟨field, more, hfield, hmore, rfl⟩,
          hresult, hfitting⟩
      · intro h
        rcases h with ⟨more, hmore, hresult, hfitting⟩
        rcases reach_cons_eq_ok_iff.mp hmore with ⟨field, others, hfield, hothers, hcons⟩
        have hmoved : result = (bound ++ [(field, v)]) ++ others := by
          rw [hresult, hcons, List.append_assoc]
          rfl
        have hnow := (hmoved ▸ hfitting).of_append
        refine ⟨field, hfield, (hjudge field v _).mpr (fitting_snoc_iff.mp hnow).2, ?_⟩
        exact (ih hnow).mpr ⟨others, hothers, hmoved, hfitting⟩

/-- Binding goes through exactly if the names reach columns and the values fit them. -/
theorem bind_eq_ok_iff {schema : Schema} {judge : Field -> Value -> Bool -> Except Error Unit}
    (hjudge : Judges judge) {cells : List (String × Value)} {bound : List (Field × Value)} :
    schema.bind judge cells = .ok bound <-> schema.reach cells = .ok bound ∧ Fitting bound := by
  show schema.bindAfter judge [] cells = .ok bound <-> _
  rw [bindAfter_eq_ok_iff hjudge fitting_nil]
  constructor
  · intro h
    rcases h with ⟨more, hmore, hbound, hfitting⟩
    rw [List.nil_append] at hbound
    exact ⟨hbound ▸ hmore, hfitting⟩
  · intro h
    exact ⟨bound, h.1, rfl, h.2⟩

/-!
# Assigning
-/

@[simp] theorem assign_nil (cells : List Value) : assign cells [] = cells := rfl

@[simp] theorem assign_cons (cells : List Value) (entry : Field × Value)
    (bound : List (Field × Value)) :
    assign cells (entry :: bound) = assign (cells.set entry.1.position entry.2) bound := rfl

@[simp] theorem length_assign (cells : List Value) (bound : List (Field × Value)) :
    (assign cells bound).length = cells.length := by
  induction bound generalizing cells with
  | nil => rfl
  | cons entry rest ih => rw [assign_cons, ih, List.length_set]

@[simp] theorem length_blankCells (schema : Schema) :
    schema.blankCells.length = schema.columns.length :=
  List.length_replicate

theorem getElem?_assign_of_not_mem {bound : List (Field × Value)} {position : Nat}
    (h : position ∉ bound.map fun entry => entry.1.position) (cells : List Value) :
    (assign cells bound)[position]? = cells[position]? := by
  induction bound generalizing cells with
  | nil => rfl
  | cons entry rest ih =>
      rw [List.map_cons, List.mem_cons, not_or] at h
      rw [assign_cons, ih h.2, List.getElem?_set_ne (Ne.symm h.1)]

theorem getElem?_assign_of_mem {bound : List (Field × Value)}
    (h : (bound.map fun entry => entry.1.position).Nodup) {entry : Field × Value}
    (hentry : entry ∈ bound) {cells : List Value} (hlt : entry.1.position < cells.length) :
    (assign cells bound)[entry.1.position]? = some entry.2 := by
  induction bound generalizing cells with
  | nil => cases hentry
  | cons first rest ih =>
      rw [List.map_cons, List.nodup_cons] at h
      rw [assign_cons]
      rcases List.mem_cons.mp hentry with hfirst | hrest
      · cases hfirst
        rw [getElem?_assign_of_not_mem h.1, List.getElem?_set_self hlt]
      · apply ih h.2 hrest
        rw [List.length_set]
        exact hlt

/-- Values for every position make up all of the cells. -/
theorem assign_blankCells_eq {schema : Schema} {bound : List (Field × Value)}
    (h : (bound.map fun entry => entry.1.position).Nodup) {cells : List Value}
    (hlength : cells.length = schema.columns.length)
    (hvalues : forall position, position < schema.columns.length ->
      exists entry, entry ∈ bound ∧ entry.1.position = position ∧ cells[position]? = some entry.2) :
    assign schema.blankCells bound = cells := by
  apply List.ext_getElem?
  intro position
  by_cases hlt : position < schema.columns.length
  · rcases hvalues position hlt with ⟨entry, hentry, hposition, hvalue⟩
    have hroom : entry.1.position < schema.blankCells.length := by
      rw [hposition, length_blankCells]
      exact hlt
    have hassigned := getElem?_assign_of_mem h hentry hroom
    rw [hposition] at hassigned
    rw [hassigned, hvalue]
  · rw [List.getElem?_eq_none (by rw [length_assign, length_blankCells]; omega),
      List.getElem?_eq_none (by omega)]

/-!
# New rows
-/

theorem complete_eq_ok_iff {schema : Schema} {columns : List String} {values cells : List Value} :
    schema.complete columns values = .ok cells <->
      columns.length = values.length ∧ exists bound,
        schema.reach (columns.zip values) = .ok bound ∧ Fitting bound ∧
          cells = assign schema.blankCells bound := by
  unfold complete
  by_cases hlength : columns.length = values.length
  · rw [if_neg (fun h => h hlength), Result.bind_eq_ok_iff]
    constructor
    · intro h
      rcases h with ⟨bound, hbound, hcells⟩
      rcases (bind_eq_ok_iff (judges_admitOnce _)).mp hbound with ⟨hreach, hfitting⟩
      cases hcells
      exact ⟨hlength, bound, hreach, hfitting, rfl⟩
    · intro h
      rcases h with ⟨_, bound, hreach, hfitting, hcells⟩
      refine ⟨bound, (bind_eq_ok_iff (judges_admitOnce _)).mpr ⟨hreach, hfitting⟩, ?_⟩
      rw [hcells]
      rfl
  · rw [if_pos hlength]
    constructor
    · intro h
      cases h
    · intro h
      exact absurd h.1 hlength

end Schema
end Tabula
