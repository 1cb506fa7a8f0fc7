import Tabula.Proofs.Result
import Tabula.Proofs.Sql.Folded
import Tabula.Query.Execute

/-!
# Letter case in the names of a statement

A name is looked up by its lowercase form or compared up to the case of ASCII letters, so a folded
name finds what the name finds.  An error may show the name as it was written, so errors are compared
by their kinds.
-/

namespace Tabula

open Sql (ColumnRef Condition JoinClause Projection Statement foldedAssignment)

variable {α β : Type}

/-!
# Results up to the texts of their errors
-/

namespace Result

/-- The same result, or errors of the same kind. -/
def Agree (result result' : Except Error α) : Prop :=
  result.mapError Error.kind = result'.mapError Error.kind

theorem Agree.of_eq {result result' : Except Error α} (h : result = result') :
    Agree result result' :=
  congrArg (Except.mapError Error.kind) h

theorem agree_error {error error' : Error} (h : error.kind = error'.kind) :
    Agree (.error error : Except Error α) (.error error') :=
  congrArg Except.error h

theorem agree_columnNotFound (ref ref' : ColumnRef) :
    Agree (.error (.columnNotFound ref) : Except Error α) (.error (.columnNotFound ref')) :=
  agree_error rfl

theorem Agree.bind {first first' : Except Error α} {next next' : α -> Except Error β}
    (h : Agree first first') (hnext : forall a, Agree (next a) (next' a)) :
    Agree (first >>= next) (first' >>= next') := by
  unfold Agree at *
  rw [mapError_bind, mapError_bind, h]
  exact congrArg (Except.bind _) (funext hnext)

/-- What follows may depend on a part of the first result only. -/
theorem Agree.bind_of {γ : Type} {f : α -> γ} {first first' : Except Error α}
    {next next' : α -> Except Error β} (h : Agree (first.map f) (first'.map f))
    (hnext : forall a a', f a = f a' -> Agree (next a) (next' a')) :
    Agree (first >>= next) (first' >>= next') := by
  cases first with
  | error e =>
      cases first' with
      | error e' => exact agree_error (Except.error.inj h)
      | ok a' => cases h
  | ok a =>
      cases first' with
      | error e' => cases h
      | ok a' => exact hnext a a' (Except.ok.inj h)

theorem Agree.map {result result' : Except Error α} (h : Agree result result') (f : α -> β) :
    Agree (result.map f) (result'.map f) := by
  unfold Agree at *
  rw [mapError_map, mapError_map, h]

theorem agree_mapM {γ : Type} {f : α -> Except Error γ} {f' : β -> Except Error γ} {g : α -> β}
    (h : forall a, Agree (f' (g a)) (f a)) (items : List α) :
    Agree ((items.map g).mapM f') (items.mapM f) := by
  induction items with
  | nil => exact .of_eq rfl
  | cons a rest ih =>
      rw [List.map_cons, List.mapM_cons, List.mapM_cons]
      exact (h a).bind fun c => ih.bind fun cs => .of_eq rfl

theorem agree_forM {f : α -> Except Error Unit} {f' : β -> Except Error Unit} {g : α -> β}
    (h : forall a, Agree (f' (g a)) (f a)) (items : List α) :
    Agree ((items.map g).forM f') (items.forM f) := by
  induction items with
  | nil => exact .of_eq rfl
  | cons a rest ih => exact (h a).bind fun _ => ih

theorem agree_foldlM {γ : Type} {f : γ -> α -> Except Error γ} {f' : γ -> β -> Except Error γ}
    {g : α -> β} (h : forall c a, Agree (f' c (g a)) (f c a)) (items : List α) (c : γ) :
    Agree ((items.map g).foldlM f' c) (items.foldlM f c) := by
  induction items generalizing c with
  | nil => exact .of_eq rfl
  | cons a rest ih =>
      rw [List.map_cons, List.foldlM_cons, List.foldlM_cons]
      exact (h c a).bind ih

end Result

open Result (Agree agree_error agree_columnNotFound)

/-!
# Columns of one table
-/

namespace Schema

theorem field?_folded (schema : Schema) (name : String) :
    schema.field? (Text.folded name) = schema.field? name := by
  have hanswers : forall field : Field,
      field.column.answersTo (Text.folded name) = field.column.answersTo name := by
    intro field
    unfold Column.answersTo Text.alike
    rw [Text.fold_folded]
  unfold field?
  simp only [hanswers]

theorem hasColumn_folded (schema : Schema) (name : String) :
    schema.hasColumn (Text.folded name) = schema.hasColumn name := by
  unfold hasColumn
  rw [field?_folded]

theorem unqualified_folded (name : String) :
    unqualified (Text.folded name) = Text.folded (unqualified name) := by
  have hdot : (fun c : Char => c != '.') ∘ Char.toLower = fun c => c != '.' := by
    funext c
    show (c.toLower != '.') = (c != '.')
    rw [Bool.eq_iff_iff, bne_iff_ne, bne_iff_ne, ne_eq, ne_eq, Sql.toLower_eq_iff rfl]
  unfold unqualified Text.folded Text.fold
  simp only [String.toList_ofList]
  rw [← List.map_reverse, List.takeWhile_map, hdot, List.map_reverse]

theorem resolve_folded (schema : Schema) (name : String) :
    Agree (schema.resolve (Text.folded name)) (schema.resolve name) := by
  unfold resolve
  simp only [unqualified_folded, field?_folded]
  cases schema.field? (unqualified name) with
  | none => exact agree_columnNotFound _ _
  | some field => exact .of_eq rfl

theorem bind_folded (schema : Schema) (judge : Field -> Value -> Bool -> Except Error Unit)
    (cells : List (String × Value)) :
    Agree (schema.bind judge (cells.map foldedAssignment)) (schema.bind judge cells) := by
  apply Result.agree_foldlM
  intro bound cell
  exact (schema.resolve_folded cell.1).bind fun field => .of_eq rfl

theorem complete_folded (schema : Schema) (columns : List String) (values : List Value) :
    Agree (schema.complete (columns.map Text.folded) values) (schema.complete columns values) := by
  have hcells : (columns.map Text.folded).zip values =
      (columns.zip values).map foldedAssignment := by
    rw [List.zip_map_left]
    rfl
  unfold complete
  rw [List.length_map, hcells]
  by_cases hlength : columns.length = values.length
  · rw [if_neg (not_not_intro hlength), if_neg (not_not_intro hlength)]
    exact (schema.bind_folded _ _).bind fun _ => .of_eq rfl
  · rw [if_pos hlength, if_pos hlength]
    exact .of_eq rfl

theorem projection_folded (schema : Schema) (columns : Option (List String)) :
    Agree (schema.projection (columns.map (List.map Text.folded))) (schema.projection columns) := by
  cases columns with
  | none => exact .of_eq rfl
  | some names => exact Result.agree_mapM schema.resolve_folded names

/-!
# Conditions on one table
-/

theorem refersTo_folded (ref : ColumnRef) (table : String) :
    ref.folded.refersTo table = ref.refersTo table := by
  rcases ref with ⟨qualifier, column⟩
  cases qualifier with
  | none => rfl
  | some qualifier =>
      show Text.alike (Text.folded qualifier) table = Text.alike qualifier table
      unfold Text.alike
      rw [Text.fold_folded]

theorem checkQualifier_folded (schema : Schema) (ref : ColumnRef) :
    Agree (schema.checkQualifier ref.folded) (schema.checkQualifier ref) := by
  have hnone : ref.folded.table.isNone = ref.table.isNone := Option.isNone_map
  unfold checkQualifier
  rw [hnone, refersTo_folded]
  split
  · exact .of_eq rfl
  · exact agree_columnNotFound _ _

theorem bindCondition_folded (schema : Schema) (condition : Condition) :
    Agree (schema.bindCondition condition.folded) (schema.bindCondition condition) := by
  refine (schema.checkQualifier_folded condition.column).bind fun _ => ?_
  exact (schema.resolve_folded condition.column.column).bind fun field => .of_eq rfl

theorem rowFilter_folded (schema : Schema) (condition : Option Condition) :
    Agree (schema.rowFilter (condition.map Condition.folded)) (schema.rowFilter condition) := by
  cases condition with
  | none => exact .of_eq rfl
  | some condition => exact (schema.bindCondition_folded condition).bind fun filter => .of_eq rfl

end Schema

namespace Table

theorem select_folded (table : Table) (columns : Option (List String)) (keep : Row -> Bool) :
    Agree (table.select (columns.map (List.map Text.folded)) keep) (table.select columns keep) :=
  (table.schema.projection_folded columns).bind fun _ => .of_eq rfl

theorem selectIds_folded (table : Table) (columns : Option (List String)) (ids : List Nat) :
    Agree (table.selectIds (columns.map (List.map Text.folded)) ids)
      (table.selectIds columns ids) :=
  (table.schema.projection_folded columns).bind fun _ => .of_eq rfl

theorem find_folded (table : Table) (columns : Option (List String))
    (condition : Option Condition) :
    Agree (table.find (columns.map (List.map Text.folded)) (condition.map Condition.folded))
      (table.find columns condition) := by
  cases condition with
  | none => exact table.select_folded columns _
  | some condition =>
      refine (table.schema.bindCondition_folded condition).bind fun filter => ?_
      split
      · exact table.selectIds_folded columns _
      · exact table.select_folded columns _

end Table

/-!
# Columns of a join
-/

namespace Sides

theorem qualifiedSide_folded (sides : Sides) (ref : ColumnRef) :
    Agree (sides.qualifiedSide ref.folded) (sides.qualifiedSide ref) := by
  unfold qualifiedSide
  rw [Schema.refersTo_folded, Schema.refersTo_folded]
  split
  · exact .of_eq rfl
  · split
    · exact .of_eq rfl
    · exact agree_columnNotFound _ _

theorem conditionSide?_folded (sides : Sides) (ref : ColumnRef) :
    Agree (sides.conditionSide? ref.folded) (sides.conditionSide? ref) := by
  have hsome : ref.folded.table.isSome = ref.table.isSome := Option.isSome_map
  unfold conditionSide?
  rw [hsome]
  split
  · exact .of_eq rfl
  · split
    · exact (sides.qualifiedSide_folded ref).map some
    · have hcolumn : ref.folded.column = Text.folded ref.column := rfl
      apply Agree.of_eq
      simp only [hcolumn, Schema.hasColumn_folded]

theorem keys_folded (sides : Sides) (clause : JoinClause) :
    Agree (sides.keys clause.folded) (sides.keys clause) := by
  refine (sides.conditionSide?_folded clause.left).bind fun first => ?_
  refine (sides.conditionSide?_folded clause.right).bind fun second => ?_
  by_cases hsame : first.isSome ∧ first = second
  · rw [if_pos hsame, if_pos hsame]
    exact agree_error rfl
  · rw [if_neg hsame, if_neg hsame]
    by_cases hswap : first = some .right ∨ second = some .left
    · simp only [if_pos hswap]
      exact (sides.left.resolve_folded _).bind fun _ =>
        (sides.right.resolve_folded _).bind fun _ => .of_eq rfl
    · simp only [if_neg hswap]
      exact (sides.left.resolve_folded _).bind fun _ =>
        (sides.right.resolve_folded _).bind fun _ => .of_eq rfl

theorem side_folded (sides : Sides) (ref : ColumnRef) :
    Agree (sides.side ref.folded) (sides.side ref) := by
  have hsome : ref.folded.table.isSome = ref.table.isSome := Option.isSome_map
  have hcolumn : ref.folded.column = Text.folded ref.column := rfl
  unfold side
  rw [hsome, hcolumn, Schema.hasColumn_folded, Schema.hasColumn_folded]
  split
  · exact sides.qualifiedSide_folded ref
  · split
    · exact .of_eq rfl
    · split
      · exact .of_eq rfl
      · exact agree_columnNotFound _ _

theorem bindRef_folded (sides : Sides) (ref : ColumnRef) :
    Agree (sides.bindRef ref.folded) (sides.bindRef ref) := by
  refine (sides.side_folded ref).bind fun side => ?_
  exact ((sides.schema side).resolve_folded ref.column).bind fun _ => .of_eq rfl

theorem filter_folded (sides : Sides) (condition : Option Condition) :
    Agree (sides.filter (condition.map Condition.folded)) (sides.filter condition) := by
  cases condition with
  | none => exact .of_eq rfl
  | some condition => exact (sides.bindRef_folded condition.column).bind fun _ => .of_eq rfl

/-- An output column with its name folded. -/
def foldedOutput (output : String × BoundColumn) : String × BoundColumn :=
  (Text.folded output.1, output.2)

theorem folded_display (ref : ColumnRef) :
    Text.folded ref.folded.display = Text.folded ref.display := by
  rcases ref with ⟨qualifier, column⟩
  cases qualifier with
  | none => exact Text.folded_folded column
  | some qualifier =>
      show Text.folded (Text.folded qualifier ++ "." ++ Text.folded column) =
        Text.folded (qualifier ++ "." ++ column)
      simp only [Text.folded_append, Text.folded_folded]

/-- The output columns are the same up to the case of their names. -/
theorem outputs_folded (sides : Sides) (projection : Projection) :
    Agree ((sides.outputs projection.folded).map (List.map foldedOutput))
      ((sides.outputs projection).map (List.map foldedOutput)) := by
  cases projection with
  | all => exact .of_eq rfl
  | only refs =>
      unfold outputs Projection.folded
      simp only [← Result.mapM_eq_map fun _ => rfl]
      apply Result.agree_mapM
      intro ref
      rw [Result.map_bind, Result.map_bind]
      refine (sides.bindRef_folded ref).bind fun column => .of_eq ?_
      exact congrArg (fun name => Except.ok (name, column)) (folded_display ref)

end Sides

/-!
# Queries
-/

/-- Rows with the names of their columns folded. -/
def RowSet.folded (set : RowSet) : RowSet :=
  { set with columns := set.columns.map Text.folded }

theorem Join.run_folded (join : Join) (clause : JoinClause) (projection : Projection)
    (condition : Option Condition) :
    Agree ((join.run clause.folded projection.folded (condition.map Condition.folded)).map
        RowSet.folded)
      ((join.run clause projection condition).map RowSet.folded) := by
  unfold run
  simp only [Result.map_bind]
  refine (join.sides.keys_folded clause).bind fun keys => ?_
  refine (join.sides.outputs_folded projection).bind_of fun outputs outputs' houtputs => ?_
  refine (join.sides.filter_folded condition).bind fun filter => .of_eq ?_
  have hnames : (outputs.map Prod.fst).map Text.folded =
      (outputs'.map Prod.fst).map Text.folded := by
    have h := congrArg (List.map Prod.fst) houtputs
    rw [List.map_map, List.map_map] at h ⊢
    exact h
  have hcells : forall pair : Row × Row, (outputs.map fun output => output.2.pick pair.1 pair.2) =
      outputs'.map fun output => output.2.pick pair.1 pair.2 := by
    intro pair
    have h := congrArg (List.map fun output => output.2.pick pair.1 pair.2) houtputs
    rw [List.map_map, List.map_map] at h
    exact h
  simp only [Result.pure_eq_ok, Except.map, RowSet.folded, hnames, hcells]

namespace Database

theorem table_folded (db : Database) (name : String) :
    Agree (db.table (Text.folded name)) (db.table name) := by
  unfold table table?
  rw [Text.lowercase_folded]
  split
  · exact .of_eq rfl
  · exact agree_error rfl

theorem selectOne_folded (table : Table) (projection : Projection)
    (condition : Option Condition) :
    Agree (selectOne table projection.folded (condition.map Condition.folded))
      (selectOne table projection condition) := by
  cases projection with
  | all => exact table.find_folded none condition
  | only refs =>
      refine (Result.agree_forM table.schema.checkQualifier_folded refs).bind fun _ => ?_
      have hcolumns : (refs.map ColumnRef.folded).map ColumnRef.column =
          (refs.map ColumnRef.column).map Text.folded := by
        rw [List.map_map, List.map_map]
        rfl
      rw [hcolumns]
      exact table.find_folded (some (refs.map ColumnRef.column)) condition

/-- A query of one table answers the same rows under the same names. -/
theorem select_folded_single (db : Database) (projection : Projection) (name : String)
    (condition : Option Condition) :
    Agree (db.select projection.folded (Text.folded name) none (condition.map Condition.folded))
      (db.select projection name none condition) :=
  (db.table_folded name).bind fun table => selectOne_folded table projection condition

theorem select_folded (db : Database) (projection : Projection) (name : String)
    (join : Option JoinClause) (condition : Option Condition) :
    Agree
      ((db.select projection.folded (Text.folded name) (join.map JoinClause.folded)
        (condition.map Condition.folded)).map RowSet.folded)
      ((db.select projection name join condition).map RowSet.folded) := by
  cases join with
  | none => exact (db.select_folded_single projection name condition).map RowSet.folded
  | some clause =>
      unfold select
      simp only [Option.map_some, Result.map_bind]
      refine (db.table_folded name).bind fun left => ?_
      refine (db.table_folded clause.table).bind fun right => ?_
      exact Join.run_folded ⟨left, right⟩ clause projection condition

theorem describe_folded (db : Database) (name : String) :
    Agree (db.describe (Text.folded name)) (db.describe name) :=
  (db.table_folded name).bind fun _ => .of_eq rfl

end Database
end Tabula
