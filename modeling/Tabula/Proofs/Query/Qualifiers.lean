import Tabula.Proofs.Query.Exchange

/-!
# Qualifiers

A qualifier is held against the declared names of the tables that a statement works on, where only
the case of ASCII letters is passed over.  One that none of these names meets is refused, whether it
stands in the output columns, in the condition on rows or in the condition of a join.  The condition
of a join of a table with itself is the exception: its references are told apart by their places,
and nobody looks at their qualifiers.

## Names of tables

A table is found under every name with the lowercase form of its own.  Its names as a qualifier are
among them but, outside of ASCII, need not be all of them.
-/

namespace Tabula

open Sql (ColumnRef Condition JoinClause Projection Statement)

/-!
# References of a statement
-/

namespace Sql

def Projection.refs : Projection -> List ColumnRef
  | .all => []
  | .only refs => refs

def conditionRefs (condition : Option Condition) : List ColumnRef :=
  (condition.map Condition.column).toList

theorem eq_some_of_mem_conditionRefs {ref : ColumnRef} {condition : Option Condition}
    (h : ref ∈ conditionRefs condition) : exists c, condition = some c ∧ c.column = ref :=
  Option.map_eq_some_iff.mp (Option.mem_toList.mp h)

namespace Statement

/-- The names under which a query, an update or a deletion looks up its tables. -/
def tableNames : Statement -> List String
  | select _ name join _ => name :: (join.map JoinClause.table).toList
  | update name _ _ | delete name _ => [name]
  | createTable _ _ | insert _ _ _ | showTables | describe _ => []

/-- The references of a statement outside of a join condition. -/
def rowRefs : Statement -> List ColumnRef
  | select projection _ _ condition => projection.refs ++ conditionRefs condition
  | update _ _ condition | delete _ condition => conditionRefs condition
  | createTable _ _ | insert _ _ _ | showTables | describe _ => []

/-- The references of the condition that a query joins its tables on. -/
def joinRefs : Statement -> List ColumnRef
  | select _ _ (some clause) _ => [clause.left, clause.right]
  | _ => []

/-- The query looks up one table twice. -/
def JoinsItself : Statement -> Prop
  | select _ name (some clause) _ => Text.lowercase clause.table = Text.lowercase name
  | _ => False

end Statement

namespace ColumnRef

def bare (ref : ColumnRef) : ColumnRef :=
  { ref with table := none }

/-- The reference is qualified with a name that is like none of the given ones. -/
def Foreign (ref : ColumnRef) (names : List String) : Prop :=
  exists qualifier, ref.table = some qualifier ∧
    forall name, name ∈ names -> Text.alike qualifier name = false

variable {ref : ColumnRef} {names : List String}

theorem Foreign.isSome (h : ref.Foreign names) : ref.table.isSome = true := by
  rcases h with ⟨qualifier, htable, _⟩
  rw [htable]
  rfl

theorem Foreign.refersTo_eq_false (h : ref.Foreign names) {name : String} (hname : name ∈ names) :
    ref.refersTo name = false := by
  rcases h with ⟨qualifier, htable, hnone⟩
  unfold refersTo
  rw [htable]
  exact hnone name hname

end ColumnRef

/-- The join clause with the qualifiers of its condition left out. -/
def JoinClause.bare (clause : JoinClause) : JoinClause :=
  { clause with left := clause.left.bare, right := clause.right.bare }

def Statement.withBareJoin : Statement -> Statement
  | .select projection name join condition =>
      .select projection name (join.map JoinClause.bare) condition
  | statement => statement

end Sql

/-!
# Foreign qualifiers
-/

namespace Schema

variable {schema : Schema} {ref : ColumnRef}

theorem checkQualifier_of_foreign (h : ref.Foreign [schema.name]) :
    schema.checkQualifier ref = .error (.columnNotFound ref) := by
  have hnone : ref.table.isNone = false := by
    rw [← Option.not_isSome, h.isSome]
    rfl
  unfold checkQualifier
  rw [hnone, h.refersTo_eq_false List.mem_cons_self]
  rfl

theorem checkQualifier_eq_ok_iff {qualifier column : String} :
    schema.checkQualifier ⟨some qualifier, column⟩ = .ok () <->
      Text.alike qualifier schema.name = true := by
  show (if Text.alike qualifier schema.name then Except.ok ()
    else Except.error (Error.columnNotFound ⟨some qualifier, column⟩)) = _ <-> _
  cases Text.alike qualifier schema.name with
  | true => exact ⟨fun _ => rfl, fun _ => rfl⟩
  | false => exact ⟨fun h => absurd h (by simp), fun h => absurd h Bool.false_ne_true⟩

theorem bindCondition_of_foreign {condition : Condition}
    (h : condition.column.Foreign [schema.name]) :
    schema.bindCondition condition = .error (.columnNotFound condition.column) := by
  unfold bindCondition
  rw [checkQualifier_of_foreign h]
  rfl

theorem rowFilter_of_foreign (h : ref.Foreign [schema.name]) {condition : Option Condition}
    (href : ref ∈ Sql.conditionRefs condition) :
    schema.rowFilter condition = .error (.columnNotFound ref) := by
  rcases Sql.eq_some_of_mem_conditionRefs href with ⟨c, hcondition, hcolumn⟩
  subst hcondition hcolumn
  unfold rowFilter
  simp only
  rw [bindCondition_of_foreign h]
  rfl

end Schema

theorem Table.find_of_foreign {table : Table} {ref : ColumnRef}
    (h : ref.Foreign [table.schema.name]) {condition : Option Condition}
    (href : ref ∈ Sql.conditionRefs condition) (columns : Option (List String)) :
    table.find columns condition = .error (.columnNotFound ref) := by
  rcases Sql.eq_some_of_mem_conditionRefs href with ⟨c, hcondition, hcolumn⟩
  subst hcondition hcolumn
  unfold find
  simp only
  rw [Schema.bindCondition_of_foreign h]
  rfl

namespace Sides

variable {sides : Sides} {ref : ColumnRef}

theorem qualifiedSide_of_foreign (h : ref.Foreign [sides.left.name, sides.right.name]) :
    sides.qualifiedSide ref = .error (.columnNotFound ref) := by
  unfold qualifiedSide
  rw [h.refersTo_eq_false List.mem_cons_self,
    h.refersTo_eq_false (List.mem_cons_of_mem _ List.mem_cons_self)]
  rfl

theorem refersTo_of_qualifiedSide {side : Side} (h : sides.qualifiedSide ref = .ok side) :
    ref.refersTo (sides.schema side).name = true := by
  unfold qualifiedSide at h
  cases hleft : ref.refersTo sides.left.name with
  | true =>
      rw [hleft] at h
      cases h
      exact hleft
  | false =>
      cases hright : ref.refersTo sides.right.name with
      | true =>
          rw [hleft, hright] at h
          cases h
          exact hright
      | false =>
          rw [hleft, hright] at h
          cases h

theorem qualifiedSide_eq_left_iff :
    sides.qualifiedSide ref = .ok .left <-> ref.refersTo sides.left.name = true := by
  constructor
  · exact refersTo_of_qualifiedSide
  · intro hleft
    unfold qualifiedSide
    rw [if_pos hleft]

theorem qualifiedSide_eq_right_iff (hnames : Text.alike sides.left.name sides.right.name = false) :
    sides.qualifiedSide ref = .ok .right <-> ref.refersTo sides.right.name = true := by
  constructor
  · exact refersTo_of_qualifiedSide
  · intro hright
    have hleft : ¬ ref.refersTo sides.left.name = true := by
      intro hleft
      rw [ColumnRef.alike_of_refersTo hleft hright] at hnames
      cases hnames
    unfold qualifiedSide
    rw [if_neg hleft, if_pos hright]

theorem bindRef_of_foreign (h : ref.Foreign [sides.left.name, sides.right.name]) :
    sides.bindRef ref = .error (.columnNotFound ref) := by
  unfold bindRef side
  rw [if_pos h.isSome, qualifiedSide_of_foreign h]
  rfl

theorem keys_of_foreign (hnames : Text.alike sides.left.name sides.right.name = false)
    (h : ref.Foreign [sides.left.name, sides.right.name]) {clause : JoinClause}
    (href : ref ∈ [clause.left, clause.right]) : exists e, sides.keys clause = .error e := by
  have hside : sides.conditionSide? ref = .error (.columnNotFound ref) := by
    rw [conditionSide?_of_qualified hnames h.isSome, qualifiedSide_of_foreign h]
    rfl
  rcases List.mem_cons.mp href with hfirst | hsecond
  · rw [hfirst] at hside
    unfold keys
    rw [hside]
    exact ⟨_, rfl⟩
  · rw [List.mem_singleton.mp hsecond] at hside
    apply Result.exists_error_bind
    intro first _
    rw [hside]
    exact ⟨_, rfl⟩

theorem outputs_of_foreign (h : ref.Foreign [sides.left.name, sides.right.name])
    {projection : Projection} (href : ref ∈ projection.refs) :
    exists e, sides.outputs projection = .error e := by
  cases projection with
  | all => cases href
  | only refs =>
      cases houtputs : sides.outputs (.only refs) with
      | error e => exact ⟨e, rfl⟩
      | ok outputs =>
          rcases (Result.mapM_eq_ok houtputs).1 ref href with ⟨_, _, hbound⟩
          rw [bindRef_of_foreign h] at hbound
          cases hbound

theorem filter_of_foreign (h : ref.Foreign [sides.left.name, sides.right.name])
    {condition : Option Condition} (href : ref ∈ Sql.conditionRefs condition) :
    exists e, sides.filter condition = .error e := by
  rcases Sql.eq_some_of_mem_conditionRefs href with ⟨c, hcondition, hcolumn⟩
  subst hcondition hcolumn
  unfold filter
  simp only
  rw [bindRef_of_foreign h]
  exact ⟨_, rfl⟩

/-- The condition of a join of two tables with one name is read without its qualifiers. -/
theorem keys_bare (hnames : Text.alike sides.left.name sides.right.name = true)
    (clause : JoinClause) : sides.keys clause = sides.keys clause.bare := by
  have hside : forall ref, sides.conditionSide? ref = .ok none := by
    intro ref
    unfold conditionSide?
    rw [if_pos hnames]
  unfold keys
  simp only [hside, Result.ok_bind, Option.isSome_none, Bool.false_eq_true, false_and, if_false]
  rfl

end Sides

namespace Join

variable {join : Join} {ref : ColumnRef}

theorem run_of_foreign {clause : JoinClause} {projection : Projection}
    {condition : Option Condition}
    (h : ref.Foreign [join.left.name, join.right.name])
    (href : ref ∈ projection.refs ++ Sql.conditionRefs condition ∨
      (ref ∈ [clause.left, clause.right] ∧
        Text.alike join.left.name join.right.name = false)) :
    exists e, join.run clause projection condition = .error e := by
  rcases href with hrow | ⟨hkey, hnames⟩
  · apply Result.exists_error_bind
    intro keys _
    rcases List.mem_append.mp hrow with hprojection | hcondition
    · rcases @Sides.outputs_of_foreign join.sides ref h _ hprojection with ⟨e, herror⟩
      rw [herror]
      exact ⟨e, rfl⟩
    · apply Result.exists_error_bind
      intro outputs _
      rcases @Sides.filter_of_foreign join.sides ref h _ hcondition with ⟨e, herror⟩
      rw [herror]
      exact ⟨e, rfl⟩
  · rcases @Sides.keys_of_foreign join.sides ref hnames h _ hkey with ⟨e, herror⟩
    unfold run
    rw [herror]
    exact ⟨e, rfl⟩

theorem run_bare (hnames : Text.alike join.left.name join.right.name = true) (clause : JoinClause)
    (projection : Projection) (condition : Option Condition) :
    join.run clause projection condition = join.run clause.bare projection condition := by
  have hkeys := @Sides.keys_bare join.sides hnames clause
  unfold run
  rw [hkeys]

end Join

namespace Database

variable {db : Database} {ref : ColumnRef}

/-- The declared names of the tables that are found under the given names. -/
def declaredNames (db : Database) (names : List String) : List String :=
  (names.filterMap db.table?).map Table.name

theorem declaredNames_cons {name : String} {table : Table} (h : db.table? name = some table)
    (names : List String) :
    db.declaredNames (name :: names) = table.schema.name :: db.declaredNames names := by
  unfold declaredNames
  rw [List.filterMap_cons_some h]
  rfl

theorem selectOne_of_foreign {table : Table} (h : ref.Foreign [table.schema.name])
    {projection : Projection} {condition : Option Condition}
    (href : ref ∈ projection.refs ++ Sql.conditionRefs condition) :
    exists e, selectOne table projection condition = .error e := by
  rcases List.mem_append.mp href with hprojection | hcondition
  · cases projection with
    | all => cases hprojection
    | only refs =>
        cases hchecked : refs.forM table.schema.checkQualifier with
        | error e =>
            unfold selectOne
            simp only
            rw [hchecked]
            exact ⟨e, rfl⟩
        | ok _ =>
            have hnamed := Result.forM_eq_ok_iff.mp hchecked ref hprojection
            rw [Schema.checkQualifier_of_foreign h] at hnamed
            cases hnamed
  · cases projection with
    | all => exact ⟨_, Table.find_of_foreign h hcondition none⟩
    | only refs =>
        exact Result.exists_error_bind fun _ _ => ⟨_, Table.find_of_foreign h hcondition _⟩

/-- A query with a foreign qualifier fails: in a well-formed database two tables have names that are
not alike, so a join of them looks at the qualifiers of its condition, too. -/
theorem WellFormed.select_of_foreign (hdb : db.WellFormed) {projection : Projection}
    {name : String} {join : Option JoinClause} {condition : Option Condition}
    (h : ref.Foreign
      (db.declaredNames (Statement.select projection name join condition).tableNames))
    (href : ref ∈ (Statement.select projection name join condition).rowRefs ∨
      (ref ∈ (Statement.select projection name join condition).joinRefs ∧
        ¬ (Statement.select projection name join condition).JoinsItself)) :
    exists e, db.select projection name join condition = .error e := by
  apply Result.exists_error_bind
  intro table htable
  have hfound := table_eq_ok_iff.mp htable
  cases join with
  | none =>
      rcases href with hrow | ⟨hkey, _⟩
      · have hnames := declaredNames_cons hfound []
        exact selectOne_of_foreign (hnames ▸ h) hrow
      · cases hkey
  | some clause =>
      apply Result.exists_error_bind
      intro right hright
      have hfound' := table_eq_ok_iff.mp hright
      have hnames : db.declaredNames [name, clause.table] =
          [table.schema.name, right.schema.name] := by
        rw [declaredNames_cons hfound, declaredNames_cons hfound']
        rfl
      apply Join.run_of_foreign (hnames ▸ h)
      rcases href with hrow | ⟨hkey, hdifferent⟩
      · exact Or.inl hrow
      · exact Or.inr ⟨hkey, hdb.names_not_alike (Ne.symm hdifferent) hfound hfound'⟩

theorem select_bare (projection : Projection) (name : String) {clause : JoinClause}
    (hsame : Text.lowercase clause.table = Text.lowercase name) (condition : Option Condition) :
    db.select projection name (some clause) condition =
      db.select projection name (some clause.bare) condition := by
  unfold select
  cases htable : db.table name with
  | error e => rfl
  | ok table =>
      have hright : db.table clause.table = .ok table := by
        apply table_eq_ok_iff.mpr
        rw [← table_eq_ok_iff.mp htable]
        unfold table?
        rw [hsame]
      show (db.table clause.table >>= _) = (db.table clause.table >>= _)
      rw [hright]
      exact @Join.run_bare ⟨table, table⟩ (Text.alike_refl _) clause projection condition

theorem run_onRows_of_foreign {α : Type} {name : String} {condition : Option Condition}
    (h : ref.Foreign (db.declaredNames [name]))
    (href : ref ∈ Sql.conditionRefs condition)
    (change : (Row -> Bool) -> Change Error Table α) :
    exists e, (onRows name condition change).run.run db = (.error e, db) := by
  unfold onRows
  simp only [Change.run_bind, Change.run_get, Change.run_lift]
  cases htable : db.table name with
  | error e => exact ⟨e, rfl⟩
  | ok table =>
      have hnames := declaredNames_cons (table_eq_ok_iff.mp htable) []
      have hfilter := Schema.rowFilter_of_foreign (hnames ▸ h) href
      simp only [hfilter]
      exact ⟨_, rfl⟩

/-- In every reachable database a statement with a qualifier that meets none of its tables fails and
changes nothing.  The one way past is the condition of a join of a table with itself, which means
the same without its qualifiers. -/
theorem foreign_qualifiers_are_refused (createdAt : Nat) (calls : List Call)
    (statement : Statement) :
    (forall ref : ColumnRef,
        ref.Foreign ((after createdAt calls).declaredNames statement.tableNames) ->
        ref ∈ statement.rowRefs ∨ (ref ∈ statement.joinRefs ∧ ¬ statement.JoinsItself) ->
        exists e, (execute statement).run.run (after createdAt calls) =
          (.error e, after createdAt calls)) ∧
      (statement.JoinsItself ->
        (execute statement).run.run (after createdAt calls) =
          (execute statement.withBareJoin).run.run (after createdAt calls)) := by
  have hdb := wellFormed_after createdAt calls
  constructor
  · intro ref hforeign href
    -- Only the statements that bind references have any.
    cases statement with
    | select projection name join condition =>
        rcases hdb.select_of_foreign hforeign href with ⟨e, herror⟩
        rw [run_select, herror]
        exact ⟨e, rfl⟩
    | update name assignments condition =>
        rcases href with hrow | ⟨hkey, _⟩
        · rcases run_onRows_of_foreign hforeign hrow (Table.update assignments) with ⟨e, herror⟩
          simp only [execute, Change.run_bind, herror]
          exact ⟨e, rfl⟩
        · cases hkey
    | delete name condition =>
        rcases href with hrow | ⟨hkey, _⟩
        · rcases run_onRows_of_foreign hforeign hrow Table.delete with ⟨e, herror⟩
          simp only [execute, Change.run_bind, herror]
          exact ⟨e, rfl⟩
        · cases hkey
    | createTable name columns => rcases href with hrow | ⟨hkey, _⟩ <;> contradiction
    | insert name columns values => rcases href with hrow | ⟨hkey, _⟩ <;> contradiction
    | showTables => rcases href with hrow | ⟨hkey, _⟩ <;> contradiction
    | describe name => rcases href with hrow | ⟨hkey, _⟩ <;> contradiction
  · intro hself
    cases statement with
    | select projection name join condition =>
        cases join with
        | none => cases hself
        | some clause =>
            show _ = (execute (.select projection name (some clause.bare) condition)).run.run _
            rw [run_select, run_select, select_bare projection name hself]
    | createTable name columns => cases hself
    | insert name columns values => cases hself
    | update name assignments condition => cases hself
    | delete name condition => cases hself
    | showTables => cases hself
    | describe name => cases hself

/-- A query that joins the pets on a reference and a qualifier that is no table's name. -/
def samplePhantom (table : String) (ref : ColumnRef) : Statement :=
  .select .all "pets" (some ⟨table, ref, ⟨some "phantom", "id"⟩⟩) none

theorem foreign_qualifiers_are_refused_sample :
    (exists e, (execute (samplePhantom "visits" ⟨some "visits", "pet"⟩)).run.run
        (after 0 (sampleVisitCalls [])) = (.error e, after 0 (sampleVisitCalls []))) ∧
      (execute (samplePhantom "PETS" ⟨none, "id"⟩)).run.run (after 0 sampleCalls) =
        (execute (samplePhantom "PETS" ⟨none, "id"⟩).withBareJoin).run.run
          (after 0 sampleCalls) := by
  have hdifferent : ¬ (samplePhantom "visits" ⟨some "visits", "pet"⟩).JoinsItself := by
    show ¬ Text.lowercase "visits" = Text.lowercase "pets"
    decide +kernel
  have hself : (samplePhantom "PETS" ⟨none, "id"⟩).JoinsItself := by
    show Text.lowercase "PETS" = Text.lowercase "pets"
    decide +kernel
  constructor
  · apply (foreign_qualifiers_are_refused 0 (sampleVisitCalls []) _).1 ⟨some "phantom", "id"⟩
    · exact ⟨"phantom", rfl, by decide +kernel⟩
    · exact Or.inr ⟨List.mem_cons_of_mem _ List.mem_cons_self, hdifferent⟩
  · exact (foreign_qualifiers_are_refused 0 sampleCalls _).2 hself

/-- Neither of the two names in the condition is a table's, and the rows are answered. -/
theorem foreign_qualifier_answered :
    (⟨some "ghost", "id"⟩ : ColumnRef).Foreign
        ((after 0 sampleCalls).declaredNames
          (samplePhantom "PETS" ⟨some "ghost", "id"⟩).tableNames) ∧
      ⟨some "ghost", "id"⟩ ∈ (samplePhantom "PETS" ⟨some "ghost", "id"⟩).joinRefs ∧
      ((execute (samplePhantom "PETS" ⟨some "ghost", "id"⟩)).run.run (after 0 sampleCalls)).1 =
        .ok (.rows ⟨["Pets.Id", "Pets.name", "Pets.Id", "Pets.name"],
          [[.integer 7, .text "Rex", .integer 7, .text "Rex"]]⟩) := by
  constructor
  · exact ⟨"ghost", rfl, by decide +kernel⟩
  · exact ⟨List.mem_cons_self, by decide +kernel⟩

/-!
# Names of a table
-/

theorem WellFormed.table?_eq_some_iff (h : db.WellFormed) {key : String} {table : Table}
    (htable : (key, table) ∈ db.tables) {name : String} :
    db.table? name = some table <->
      Text.lowercase name = Text.lowercase table.schema.name := by
  have hkey : key = Text.lowercase table.schema.name := h.keyed _ htable
  constructor
  · intro hfound
    exact (h.of_table hfound).2
  · intro hname
    unfold table?
    rw [hname, ← hkey]
    exact (Keyed.find?_eq_some_iff h.ascending).mpr htable

/-- In every reachable database each check of a qualifier takes it for a table exactly if it is like
the declared name of the table: the check on one table, and the checks on both tables of a join.
The table is found under every such name, and under no other name if both names are ASCII. -/
theorem qualifiers_follow_ascii_case (createdAt : Nat) (calls : List Call) {key : String}
    {table : Table} (htable : (key, table) ∈ (after createdAt calls).tables) (name : String) :
    (forall column, table.schema.checkQualifier ⟨some name, column⟩ = .ok () <->
        Text.alike name table.schema.name = true) ∧
      (forall right column,
        Sides.qualifiedSide ⟨table.schema, right⟩ ⟨some name, column⟩ = .ok .left <->
          Text.alike name table.schema.name = true) ∧
      (forall other left, (other, left) ∈ (after createdAt calls).tables -> other ≠ key ->
        forall column,
          Sides.qualifiedSide ⟨left.schema, table.schema⟩ ⟨some name, column⟩ = .ok .right <->
            Text.alike name table.schema.name = true) ∧
      (Text.alike name table.schema.name = true ->
        (after createdAt calls).table? name = some table) ∧
      (Text.IsAscii name -> Text.IsAscii table.schema.name ->
        (after createdAt calls).table? name = some table ->
          Text.alike name table.schema.name = true) := by
  have hdb := wellFormed_after createdAt calls
  refine ⟨fun column => Schema.checkQualifier_eq_ok_iff,
    fun right column => Sides.qualifiedSide_eq_left_iff, ?_, ?_, ?_⟩
  · intro other left hleft hdifferent column
    apply Sides.qualifiedSide_eq_right_iff
    apply Bool.eq_false_iff.mpr
    intro halike
    apply hdifferent
    have hother : other = Text.lowercase left.schema.name := hdb.keyed _ hleft
    have hkey : key = Text.lowercase table.schema.name := hdb.keyed _ htable
    rw [hother, hkey]
    exact Text.lowercase_eq_of_alike halike
  · intro halike
    exact (hdb.table?_eq_some_iff htable).mpr (Text.lowercase_eq_of_alike halike)
  · intro hname hdeclared hfound
    exact hname.alike_of_lowercase_eq hdeclared ((hdb.table?_eq_some_iff htable).mp hfound)

/-- The pets are the right table of a join with the visits. -/
theorem qualifiers_follow_ascii_case_sample :
    Sides.qualifiedSide ⟨(sampleVisits [] none).schema, sampleTable.schema⟩ ⟨some "PETS", "id"⟩ =
        .ok .right ∧
      (after 0 (sampleVisitCalls [])).table? "PETS" = some sampleTable ∧
      Text.alike "PETS" sampleTable.schema.name = true := by
  have htable : ("pets", sampleTable) ∈ (after 0 (sampleVisitCalls [])).tables := by decide +kernel
  have hother : ("visits", sampleVisits [] none) ∈ (after 0 (sampleVisitCalls [])).tables := by
    decide +kernel
  have hfound : (after 0 (sampleVisitCalls [])).table? "PETS" = some sampleTable := by
    decide +kernel
  have hascii : Text.IsAscii "PETS" ∧ Text.IsAscii sampleTable.schema.name := by
    decide +kernel
  rcases qualifiers_follow_ascii_case 0 (sampleVisitCalls []) htable "PETS" with
    ⟨_, _, hright, hlike, hlooked⟩
  have halike := hlooked hascii.1 hascii.2 hfound
  exact ⟨(hright _ _ hother (by decide) "id").mpr halike, hlike halike, halike⟩

/-- The table is named with the sign of the unit kelvin, whose lowercase form is a plain letter. -/
def sampleKelvin : Schema where
  name := "\u212a"
  columns := [⟨"a", .int, []⟩]

theorem lowercase_name_not_recognised :
    (after 0 [.createTable sampleKelvin]).table? "k" = some (.new sampleKelvin) ∧
      sampleKelvin.checkQualifier ⟨some "k", "a"⟩ = .error (.columnNotFound ⟨some "k", "a"⟩) ∧
      Sides.qualifiedSide ⟨sampleKelvin, sampleKelvin⟩ ⟨some "k", "a"⟩ =
        .error (.columnNotFound ⟨some "k", "a"⟩) := by
  decide +kernel

end Database
end Tabula
