import Mathlib.Data.Multiset.Bind
import Tabula.Proofs.Query.Join

/-!
# Joins with their tables exchanged

A qualified reference means the same column whichever table of a join is the left one.  So where every
reference is qualified, exchanging the two tables exchanges the two rows of every pair that is
answered: the answer has the same columns and the same rows, in another order.
-/

namespace Tabula

open Sql (ColumnRef Condition JoinClause Projection)

/-!
# Sides exchanged
-/

def Side.other : Side -> Side
  | .left => .right
  | .right => .left

namespace BoundColumn

/-- The column when the two tables are exchanged. -/
def exchanged (column : BoundColumn) : BoundColumn :=
  ⟨column.side.other, column.field⟩

theorem pick_exchanged (column : BoundColumn) (left right : Row) :
    column.exchanged.pick right left = column.pick left right := by
  rcases column with ⟨side, field⟩
  cases side with
  | left => rfl
  | right => rfl

end BoundColumn

theorem Sql.ColumnRef.alike_of_refersTo {ref : ColumnRef} {a b : String}
    (ha : ref.refersTo a = true) (hb : ref.refersTo b = true) : Text.alike a b = true := by
  unfold refersTo at ha hb
  cases htable : ref.table with
  | none =>
      rw [htable] at ha
      cases ha
  | some qualifier =>
      rw [htable] at ha hb
      exact Text.alike_trans ((Text.alike_comm a qualifier).trans ha) hb

namespace Sides

def exchanged (sides : Sides) : Sides :=
  ⟨sides.right, sides.left⟩

theorem schema_exchanged (sides : Sides) (side : Side) :
    sides.exchanged.schema side.other = sides.schema side := by
  cases side with
  | left => rfl
  | right => rfl

variable {sides : Sides}

/-- A qualifier names at most one of two tables whose names are not alike. -/
theorem qualifiedSide_exchanged (hnames : Text.alike sides.left.name sides.right.name = false)
    (ref : ColumnRef) :
    sides.exchanged.qualifiedSide ref = (sides.qualifiedSide ref).map Side.other := by
  unfold qualifiedSide exchanged
  simp only
  by_cases hleft : ref.refersTo sides.left.name = true
  · have hright : ¬ ref.refersTo sides.right.name = true := by
      intro hright
      rw [ColumnRef.alike_of_refersTo hleft hright] at hnames
      cases hnames
    rw [if_pos hleft, if_neg hright, if_pos hleft]
    rfl
  · rw [if_neg hleft, if_neg hleft]
    by_cases hright : ref.refersTo sides.right.name = true
    · rw [if_pos hright, if_pos hright]
      rfl
    · rw [if_neg hright, if_neg hright]
      rfl

theorem bindRef_exchanged (hnames : Text.alike sides.left.name sides.right.name = false)
    {ref : ColumnRef} (href : ref.table.isSome = true) :
    sides.exchanged.bindRef ref = (sides.bindRef ref).map BoundColumn.exchanged := by
  unfold bindRef side
  rw [if_pos href, if_pos href, qualifiedSide_exchanged hnames]
  cases sides.qualifiedSide ref with
  | error e => rfl
  | ok side =>
      show ((sides.exchanged.schema side.other).resolve ref.column >>= _) =
        Except.map _ ((sides.schema side).resolve ref.column >>= _)
      rw [schema_exchanged]
      cases (sides.schema side).resolve ref.column with
      | error e => rfl
      | ok field => rfl

theorem outputs_exchanged (hnames : Text.alike sides.left.name sides.right.name = false)
    {refs : List ColumnRef} (hrefs : forall ref, ref ∈ refs -> ref.table.isSome = true) :
    sides.exchanged.outputs (.only refs) =
      (sides.outputs (.only refs)).map (List.map (Prod.map id BoundColumn.exchanged)) := by
  apply Result.mapM_eq_map_of_mem
  intro ref href
  rw [bindRef_exchanged hnames (hrefs ref href)]
  cases sides.bindRef ref with
  | error e => rfl
  | ok column => rfl

/-!
# Keys exchanged
-/

theorem conditionSide?_of_qualified (hnames : Text.alike sides.left.name sides.right.name = false)
    {ref : ColumnRef} (href : ref.table.isSome = true) :
    sides.conditionSide? ref = (sides.qualifiedSide ref).map some := by
  unfold conditionSide?
  rw [hnames, if_neg Bool.false_ne_true, if_pos href]

/-- Qualified references are keys if one names the left table and the other one the right table. -/
theorem keys_eq_ok_iff_of_qualified
    (hnames : Text.alike sides.left.name sides.right.name = false) {clause : JoinClause}
    (hfirst : clause.left.table.isSome = true) (hsecond : clause.right.table.isSome = true)
    {leftKey rightKey : Field} :
    sides.keys clause = .ok (leftKey, rightKey) <->
      exists leftRef rightRef,
        ((leftRef, rightRef) = (clause.left, clause.right) ∨
          (leftRef, rightRef) = (clause.right, clause.left)) ∧
        sides.qualifiedSide leftRef = .ok .left ∧ sides.qualifiedSide rightRef = .ok .right ∧
        sides.left.resolve leftRef.column = .ok leftKey ∧
        sides.right.resolve rightRef.column = .ok rightKey := by
  unfold keys
  rw [conditionSide?_of_qualified hnames hfirst, conditionSide?_of_qualified hnames hsecond]
  simp only [Prod.mk.injEq, or_and_right, exists_or, and_assoc, exists_and_left, exists_eq_left]
  cases sides.qualifiedSide clause.left with
  | error e => simp [Except.map]
  | ok first =>
      cases sides.qualifiedSide clause.right with
      | error e => cases first <;> simp [Except.map]
      | ok second =>
          cases first with
          | left =>
              cases second with
              | left => simp [Except.map]
              | right => simp [Except.map, Result.bind_eq_ok_iff]
          | right =>
              cases second with
              | left => simp [Except.map, Result.bind_eq_ok_iff]
              | right => simp [Except.map]

theorem keys_exchanged (hnames : Text.alike sides.left.name sides.right.name = false)
    {first second : ColumnRef} (hfirst : first.table.isSome = true)
    (hsecond : second.table.isSome = true) {leftKey rightKey : Field} {table : String}
    (table' : String) (hkeys : sides.keys ⟨table, first, second⟩ = .ok (leftKey, rightKey)) :
    sides.exchanged.keys ⟨table', first, second⟩ = .ok (rightKey, leftKey) := by
  have hnames' : Text.alike sides.exchanged.left.name sides.exchanged.right.name = false :=
    (Text.alike_comm sides.right.name sides.left.name).trans hnames
  rcases (keys_eq_ok_iff_of_qualified hnames hfirst hsecond).mp hkeys with
    ⟨leftRef, rightRef, hrefs, hleft, hright, hleftKey, hrightKey⟩
  apply (keys_eq_ok_iff_of_qualified hnames' hfirst hsecond).mpr
  refine ⟨rightRef, leftRef, ?_, ?_, ?_, hrightKey, hleftKey⟩
  · rcases hrefs with hrefs | hrefs
    · cases hrefs
      exact Or.inr rfl
    · cases hrefs
      exact Or.inl rfl
  · rw [qualifiedSide_exchanged hnames, hright]
    rfl
  · rw [qualifiedSide_exchanged hnames, hleft]
    rfl

/-- A pair of rows is joined exactly if it is with the tables and the rows exchanged. -/
theorem joined_exchanged (hnames : Text.alike sides.left.name sides.right.name = false)
    {leftKey rightKey : Field} {condition : Option Condition}
    (hcondition : forall c, condition = some c -> c.column.table.isSome = true) {left right : Row}
    (h : sides.Joined leftKey rightKey condition left right) :
    sides.exchanged.Joined rightKey leftKey condition right left where
  not_null := by
    rw [← h.same]
    exact h.not_null
  same := h.same.symm
  meets := by
    intro c hc
    rcases h.meets c hc with ⟨column, hcolumn, hvalue⟩
    refine ⟨column.exchanged, ?_, (column.pick_exchanged left right).trans hvalue⟩
    rw [bindRef_exchanged hnames (hcondition c hc), hcolumn]
    rfl

end Sides

/-!
# Pairs exchanged
-/

/-- The product of two lists of rows is the product of the exchanged lists, in another order. -/
theorem Rows.product_perm (left right : List Row) :
    (right ×ˢ left).Perm ((left ×ˢ right).map Prod.swap) := by
  apply Multiset.coe_eq_coe.mp
  rw [← Multiset.map_coe, ← Multiset.coe_product, ← Multiset.coe_product,
    Multiset.map_swap_product]

/-- A join that succeeds succeeds with its tables exchanged, and answers the same columns and rows,
in another order. -/
theorem PlainTable.join_exchanged {left right : PlainTable}
    (hnames : Text.alike left.schema.name right.schema.name = false)
    {first second : ColumnRef} (hfirst : first.table.isSome = true)
    (hsecond : second.table.isSome = true) {refs : List ColumnRef}
    (hrefs : forall ref, ref ∈ refs -> ref.table.isSome = true) {condition : Option Condition}
    (hcondition : forall c, condition = some c -> c.column.table.isSome = true)
    {table : String} (table' : String) {set : RowSet}
    (hjoin : left.join right ⟨table, first, second⟩ (.only refs) condition = .ok set) :
    exists set', right.join left ⟨table', first, second⟩ (.only refs) condition = .ok set' ∧
      set'.columns = set.columns ∧ set'.rows.Perm set.rows := by
  rcases PlainTable.join_isOk_iff.mp ⟨set, hjoin⟩ with ⟨_, _, hbound⟩
  rcases PlainTable.join_eq_ok hjoin with
    ⟨leftKey, rightKey, outputs, joined, hkeys, houtputs, hjoined, hcolumns, hrows⟩
  have hkeys' := Sides.keys_exchanged hnames hfirst hsecond table' hkeys
  have houtputs' := @Sides.outputs_exchanged ⟨left.schema, right.schema⟩ hnames refs hrefs
  rw [houtputs] at houtputs'
  have hok : exists set', right.join left ⟨table', first, second⟩ (.only refs) condition =
      .ok set' := by
    apply PlainTable.join_isOk_iff.mpr
    refine ⟨⟨_, hkeys'⟩, ⟨_, houtputs'⟩, ?_⟩
    intro c hc
    rcases hbound c hc with ⟨column, hcolumn⟩
    have hexchanged := @Sides.bindRef_exchanged ⟨left.schema, right.schema⟩ hnames c.column
      (hcondition c hc)
    rw [hcolumn] at hexchanged
    exact ⟨_, hexchanged⟩
  rcases hok with ⟨set', hjoin'⟩
  refine ⟨set', hjoin', ?_⟩
  rcases PlainTable.join_eq_ok hjoin' with
    ⟨leftKey', rightKey', outputs', joined', hkeysAgain, houtputsAgain, hjoined', hcolumns', hrows'⟩
  cases hkeys'.symm.trans hkeysAgain
  cases houtputs'.symm.trans houtputsAgain
  have hnames' : Text.alike right.schema.name left.schema.name = false :=
    (Text.alike_comm _ _).trans hnames
  have hsame : forall pair, (joined' ∘ Prod.swap) pair = joined pair := by
    intro pair
    rcases pair with ⟨a, b⟩
    rw [Bool.eq_iff_iff, hjoined a b]
    refine (hjoined' b a).trans ⟨?_, ?_⟩
    · exact @Sides.joined_exchanged ⟨right.schema, left.schema⟩ hnames' _ _ _ hcondition b a
    · exact @Sides.joined_exchanged ⟨left.schema, right.schema⟩ hnames _ _ _ hcondition a b
  constructor
  · rw [hcolumns', hcolumns, List.map_map]
    rfl
  · rw [hrows', hrows]
    refine (((Rows.product_perm left.rows right.rows).filter joined').map _).trans ?_
    rw [List.filter_map, List.map_map, List.filter_congr fun pair _ => hsame pair]
    apply List.Perm.of_eq
    apply List.map_congr_left
    intro pair _
    simp only [Function.comp_apply, List.map_map, Prod.fst_swap, Prod.snd_swap]
    apply List.map_congr_left
    intro output _
    exact output.2.pick_exchanged pair.1 pair.2

namespace Database

/-!
# Tables of a database exchanged
-/

/-- The answer to a query that joins two tables, with the references of the condition. -/
def joinAnswer (db : Database) (first second : String) (on : ColumnRef × ColumnRef)
    (refs : List ColumnRef) (condition : Option Condition) : Except Error Outcome :=
  ((execute (.select (.only refs) first (some ⟨second, on.1, on.2⟩) condition)).run.run db).1

variable {db : Database} {first second : String} {on : ColumnRef × ColumnRef}
variable {refs : List ColumnRef} {condition : Option Condition} {outcome : Outcome}

theorem WellFormed.joinAnswer_eq_ok_iff (h : db.WellFormed) :
    db.joinAnswer first second on refs condition = .ok outcome <->
      exists left right set, db.table? first = some left ∧ db.table? second = some right ∧
        left.plain.join right.plain ⟨second, on.1, on.2⟩ (.only refs) condition = .ok set ∧
        outcome = .rows set := by
  unfold joinAnswer
  rw [run_select, Result.map_eq_ok_iff]
  simp only [select, Result.bind_eq_ok_iff, table_eq_ok_iff]
  constructor
  · intro hanswer
    rcases hanswer with ⟨set, ⟨left, hleft, right, hright, hjoin⟩, houtcome⟩
    rw [Join.run_eq (h.of_table hright).1.mirrored] at hjoin
    exact ⟨left, right, set, hleft, hright, hjoin, houtcome.symm⟩
  · intro hanswer
    rcases hanswer with ⟨left, right, set, hleft, hright, hjoin, houtcome⟩
    refine ⟨set, ⟨left, hleft, right, hright, ?_⟩, houtcome.symm⟩
    rw [Join.run_eq (h.of_table hright).1.mirrored]
    exact hjoin

theorem WellFormed.names_not_alike (h : db.WellFormed) {left right : Table}
    (hdifferent : Text.lowercase first ≠ Text.lowercase second)
    (hleft : db.table? first = some left) (hright : db.table? second = some right) :
    Text.alike left.schema.name right.schema.name = false := by
  apply Bool.eq_false_iff.mpr
  intro halike
  apply hdifferent
  rw [(h.of_table hleft).2, (h.of_table hright).2]
  exact Text.lowercase_eq_of_alike halike

theorem WellFormed.joinAnswer_exchanged (h : db.WellFormed)
    (hdifferent : Text.lowercase first ≠ Text.lowercase second)
    (hon : on.1.table.isSome = true ∧ on.2.table.isSome = true)
    (hrefs : forall ref, ref ∈ refs -> ref.table.isSome = true)
    (hcondition : forall c, condition = some c -> c.column.table.isSome = true)
    (hanswer : db.joinAnswer first second on refs condition = .ok outcome) :
    exists set set', outcome = .rows set ∧
      db.joinAnswer second first on refs condition = .ok (.rows set') ∧
      set'.columns = set.columns ∧ set'.rows.Perm set.rows := by
  rcases h.joinAnswer_eq_ok_iff.mp hanswer with ⟨left, right, set, hleft, hright, hjoin, houtcome⟩
  have hnames : Text.alike left.plain.schema.name right.plain.schema.name = false :=
    h.names_not_alike hdifferent hleft hright
  rcases PlainTable.join_exchanged hnames hon.1 hon.2 hrefs hcondition first hjoin with
    ⟨set', hjoin', hsame⟩
  refine ⟨set, set', houtcome, ?_, hsame⟩
  exact h.joinAnswer_eq_ok_iff.mpr ⟨right, left, set', hright, hleft, hjoin', rfl⟩

/-- In every reachable database a join of two different tables whose references are all qualified
succeeds exactly if it does with the tables exchanged.  Both answers then have the same columns and,
up to their order, the same rows. -/
theorem join_order_permutes_rows (createdAt : Nat) (calls : List Call) (first second : String)
    (hdifferent : Text.lowercase first ≠ Text.lowercase second) (on : ColumnRef × ColumnRef)
    (hon : on.1.table.isSome = true ∧ on.2.table.isSome = true) (refs : List ColumnRef)
    (hrefs : forall ref, ref ∈ refs -> ref.table.isSome = true) (condition : Option Condition)
    (hcondition : forall c, condition = some c -> c.column.table.isSome = true) :
    ((exists outcome,
        (after createdAt calls).joinAnswer first second on refs condition = .ok outcome) <->
      exists outcome,
        (after createdAt calls).joinAnswer second first on refs condition = .ok outcome) ∧
    forall outcome outcome',
      (after createdAt calls).joinAnswer first second on refs condition = .ok outcome ->
      (after createdAt calls).joinAnswer second first on refs condition = .ok outcome' ->
      exists set set', outcome = .rows set ∧ outcome' = .rows set' ∧
        set'.columns = set.columns ∧ set'.rows.Perm set.rows := by
  have hdb := wellFormed_after createdAt calls
  constructor
  · constructor
    · intro hanswer
      rcases hanswer with ⟨outcome, hanswer⟩
      rcases hdb.joinAnswer_exchanged hdifferent hon hrefs hcondition hanswer with
        ⟨_, set', _, hanswer', _⟩
      exact ⟨.rows set', hanswer'⟩
    · intro hanswer
      rcases hanswer with ⟨outcome, hanswer⟩
      rcases hdb.joinAnswer_exchanged hdifferent.symm hon hrefs hcondition hanswer with
        ⟨_, set', _, hanswer', _⟩
      exact ⟨.rows set', hanswer'⟩
  · intro outcome outcome' hanswer hanswer'
    rcases hdb.joinAnswer_exchanged hdifferent hon hrefs hcondition hanswer with
      ⟨set, set', houtcome, hexchanged, hsame⟩
    rw [hanswer'] at hexchanged
    exact ⟨set, set', houtcome, Except.ok.inj hexchanged, hsame⟩

/-- Visits of two pets, the later one by the pet that came first. -/
def sampleExchangeCalls : List Call := sampleVisitCalls [] ++ [
  .insert "Pets" ["Id", "name"] [.integer 8, .text "Tim"],
  .insert "Visits" ["pet", "fee"] [.integer 8, .integer 9],
  .insert "Visits" ["pet", "fee"] [.integer 7, .integer 5]]

def sampleOn : ColumnRef × ColumnRef :=
  (⟨some "VISITS", "pet"⟩, ⟨some "pets", "id"⟩)

def sampleRefs : List ColumnRef :=
  [⟨some "pets", "name"⟩, ⟨some "visits", "fee"⟩]

def sampleFees : RowSet :=
  ⟨["pets.name", "visits.fee"],
    [[.text "Rex", .null], [.text "Rex", .integer 5], [.text "Tim", .integer 9]]⟩

def sampleFeesExchanged : RowSet :=
  ⟨["pets.name", "visits.fee"],
    [[.text "Rex", .null], [.text "Tim", .integer 9], [.text "Rex", .integer 5]]⟩

/-- Only the key of the pets is indexed, and the rows come in another order. -/
theorem join_order_permutes_rows_sample :
    (after 0 sampleExchangeCalls).joinAnswer "Pets" "Visits" sampleOn sampleRefs none =
        .ok (.rows sampleFees) ∧
      (after 0 sampleExchangeCalls).joinAnswer "Visits" "Pets" sampleOn sampleRefs none =
        .ok (.rows sampleFeesExchanged) ∧
      sampleFeesExchanged.rows ≠ sampleFees.rows ∧
      sampleFeesExchanged.rows.Perm sampleFees.rows := by
  have hdifferent : Text.lowercase "Pets" ≠ Text.lowercase "Visits" := by decide +kernel
  have hanswer : (after 0 sampleExchangeCalls).joinAnswer "Pets" "Visits" sampleOn sampleRefs none =
      .ok (.rows sampleFees) := by decide +kernel
  have hanswer' : (after 0 sampleExchangeCalls).joinAnswer "Visits" "Pets" sampleOn sampleRefs none =
      .ok (.rows sampleFeesExchanged) := by decide +kernel
  rcases (join_order_permutes_rows 0 sampleExchangeCalls "Pets" "Visits" hdifferent sampleOn
    ⟨rfl, rfl⟩ sampleRefs (by decide) none (by simp)).2 _ _ hanswer hanswer' with
    ⟨set, set', hset, hset', _, hperm⟩
  cases hset
  cases hset'
  exact ⟨hanswer, hanswer', by decide, hperm⟩

end Database
end Tabula
