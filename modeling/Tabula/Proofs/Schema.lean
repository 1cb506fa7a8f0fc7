import Tabula.Proofs.Result
import Tabula.Proofs.Text.Case
import Tabula.Schema

/-!
# Checked schemas

A schema passes its check exactly if it has a column, its lowercase column names differ and at most
one column is a primary key.  Then a name reaches at most one column, whichever letter case it is
written in, and a column is reached by its own name.
-/

namespace Tabula
namespace Schema

structure WellFormed (schema : Schema) : Prop where
  columns_ne_nil : schema.columns ≠ []
  names_nodup : (schema.columns.map fun column => Text.lowercase column.name).Nodup
  one_primaryKey : schema.columns.countP Column.isPrimaryKey <= 1

/-!
# The check
-/

theorem repeatedColumn?_eq_none_iff {seen : List String} {columns : List Column} :
    repeatedColumn? seen columns = none <->
      (columns.map fun column => Text.lowercase column.name).Nodup ∧
        forall column, column ∈ columns -> Text.lowercase column.name ∉ seen := by
  induction columns generalizing seen with
  | nil => simp [repeatedColumn?]
  | cons column rest ih =>
      unfold repeatedColumn?
      by_cases hseen : Text.lowercase column.name ∈ seen
      · rw [if_pos hseen]
        constructor
        · intro h
          cases h
        · intro h
          exact absurd hseen (h.2 column List.mem_cons_self)
      · rw [if_neg hseen, ih, List.map_cons, List.nodup_cons, List.forall_mem_cons]
        simp only [List.mem_cons, not_or, List.mem_map, not_exists, not_and]
        constructor
        · intro hparts
          rcases hparts with ⟨hrest, hnew⟩
          exact ⟨⟨fun c hc => (hnew c hc).1, hrest⟩, hseen, fun c hc => (hnew c hc).2⟩
        · intro hparts
          rcases hparts with ⟨⟨hfresh, hrest⟩, _, hother⟩
          exact ⟨hrest, fun c hc => ⟨hfresh c hc, hother c hc⟩⟩

theorem check_eq_ok_iff {schema : Schema} : schema.check = .ok () <-> schema.WellFormed := by
  unfold check
  constructor
  · intro h
    by_cases hnil : schema.columns = []
    · rw [if_pos hnil] at h
      cases h
    rw [if_neg hnil] at h
    cases hrepeated : repeatedColumn? [] schema.columns with
    | some column =>
        rw [hrepeated] at h
        cases h
    | none =>
        rw [hrepeated] at h
        by_cases hkeys : 1 < schema.columns.countP Column.isPrimaryKey
        · simp [hkeys] at h
        · exact ⟨hnil, (repeatedColumn?_eq_none_iff.mp hrepeated).1, Nat.not_lt.mp hkeys⟩
  · intro hparts
    rcases hparts with ⟨hnil, hnames, hkeys⟩
    have hrepeated : repeatedColumn? [] schema.columns = none :=
      repeatedColumn?_eq_none_iff.mpr ⟨hnames, fun _ _ => List.not_mem_nil⟩
    simp [hnil, hrepeated, Nat.not_lt.mpr hkeys]

@[simp] theorem columns_derivePrimaryKey (schema : Schema) :
    schema.derivePrimaryKey.columns = schema.columns := rfl

@[simp] theorem name_derivePrimaryKey (schema : Schema) :
    schema.derivePrimaryKey.name = schema.name := rfl

theorem wellFormed_derivePrimaryKey {schema : Schema} (h : schema.WellFormed) :
    schema.derivePrimaryKey.WellFormed :=
  ⟨h.columns_ne_nil, h.names_nodup, h.one_primaryKey⟩

/-!
# Fields
-/

theorem getElem?_fields (schema : Schema) (position : Nat) :
    schema.fields[position]? = (schema.columns[position]?).map fun column => ⟨position, column⟩ := by
  unfold fields
  rw [List.getElem?_map, List.getElem?_zipIdx]
  cases schema.columns[position]? <;> simp

@[simp] theorem length_fields (schema : Schema) : schema.fields.length = schema.columns.length := by
  simp [fields]

@[simp] theorem map_column_fields (schema : Schema) :
    schema.fields.map Field.column = schema.columns := by
  unfold fields
  rw [List.map_map]
  exact List.zipIdx_map_fst 0 schema.columns

theorem getElem_fields {schema : Schema} {position : Nat} (h : position < schema.fields.length)
    (hcolumn : position < schema.columns.length) :
    schema.fields[position] = ⟨position, schema.columns[position]⟩ := by
  simp [fields]

theorem mem_fields_iff {schema : Schema} {field : Field} :
    field ∈ schema.fields <-> schema.columns[field.position]? = some field.column := by
  rw [List.mem_iff_getElem?]
  constructor
  · intro hparts
    rcases hparts with ⟨position, hfield⟩
    rw [getElem?_fields] at hfield
    rcases Option.map_eq_some_iff.mp hfield with ⟨column, hcolumn, rfl⟩
    exact hcolumn
  · intro hcolumn
    refine ⟨field.position, ?_⟩
    rw [getElem?_fields, hcolumn]
    rfl

theorem column_mem_of_mem_fields {schema : Schema} {field : Field} (h : field ∈ schema.fields) :
    field.column ∈ schema.columns :=
  List.mem_of_getElem? (mem_fields_iff.mp h)

theorem exists_field_of_mem {schema : Schema} {column : Column} (h : column ∈ schema.columns) :
    exists field, field ∈ schema.fields ∧ field.column = column := by
  rcases List.mem_iff_getElem?.mp h with ⟨position, hcolumn⟩
  exact ⟨⟨position, column⟩, mem_fields_iff.mpr hcolumn, rfl⟩

theorem position_lt_of_mem_fields {schema : Schema} {field : Field} (h : field ∈ schema.fields) :
    field.position < schema.columns.length := by
  rcases List.getElem?_eq_some_iff.mp (mem_fields_iff.mp h) with ⟨hlt, _⟩
  exact hlt

/-- A position has one field. -/
theorem eq_of_position_eq {schema : Schema} {a b : Field} (ha : a ∈ schema.fields)
    (hb : b ∈ schema.fields) (h : a.position = b.position) : a = b := by
  rcases a with ⟨position, column⟩
  rcases b with ⟨other, column'⟩
  have hcolumn := mem_fields_iff.mp ha
  have hcolumn' := mem_fields_iff.mp hb
  simp only at h hcolumn hcolumn'
  subst h
  rw [hcolumn] at hcolumn'
  rw [Option.some.inj hcolumn']

/-!
# Names
-/

theorem field?_eq_some {schema : Schema} {name : String} {field : Field}
    (h : schema.field? name = some field) :
    field ∈ schema.fields ∧ field.column.answersTo name = true :=
  ⟨List.mem_of_find?_eq_some h,
    List.find?_some (p := fun field : Field => field.column.answersTo name) h⟩

theorem WellFormed.position_eq_of_lowercase_eq {schema : Schema} (h : schema.WellFormed)
    {a b : Field} (ha : a ∈ schema.fields) (hb : b ∈ schema.fields)
    (hname : Text.lowercase a.column.name = Text.lowercase b.column.name) : a = b := by
  have hcolumn : (schema.columns.map fun column => Text.lowercase column.name)[a.position]? =
      (schema.columns.map fun column => Text.lowercase column.name)[b.position]? := by
    rw [List.getElem?_map, List.getElem?_map, mem_fields_iff.mp ha, mem_fields_iff.mp hb]
    exact congrArg some hname
  apply eq_of_position_eq ha hb
  exact (List.getElem?_inj (by simpa using position_lt_of_mem_fields ha) h.names_nodup).mp hcolumn

/-- A name reaches one column at most. -/
theorem WellFormed.eq_of_answersTo {schema : Schema} (h : schema.WellFormed) {name : String}
    {a b : Field} (ha : a ∈ schema.fields) (hb : b ∈ schema.fields)
    (hnameA : a.column.answersTo name = true) (hnameB : b.column.answersTo name = true) : a = b := by
  apply h.position_eq_of_lowercase_eq ha hb
  apply Text.lowercase_eq_of_alike
  unfold Column.answersTo at hnameA hnameB
  rw [Text.alike_comm] at hnameB
  exact Text.alike_trans hnameA hnameB

theorem WellFormed.field?_of_answersTo {schema : Schema} (h : schema.WellFormed) {name : String}
    {field : Field} (hfield : field ∈ schema.fields) (hname : field.column.answersTo name = true) :
    schema.field? name = some field := by
  cases hfound : schema.field? name with
  | none => exact absurd hname (List.find?_eq_none.mp hfound field hfield)
  | some other =>
      rcases field?_eq_some hfound with ⟨hother, hanswers⟩
      rw [h.eq_of_answersTo hother hfield hanswers hname]

theorem WellFormed.field?_name {schema : Schema} (h : schema.WellFormed) {field : Field}
    (hfield : field ∈ schema.fields) : schema.field? field.column.name = some field :=
  h.field?_of_answersTo hfield (Text.alike_refl _)

theorem resolve_eq_ok_iff {schema : Schema} {name : String} {field : Field} :
    schema.resolve name = .ok field <-> schema.field? (unqualified name) = some field := by
  simp only [resolve]
  cases schema.field? (unqualified name) with
  | none => simp
  | some found => simp

theorem resolve_eq_ok {schema : Schema} {name : String} {field : Field}
    (h : schema.resolve name = .ok field) :
    field ∈ schema.fields ∧ field.column.answersTo (unqualified name) = true :=
  field?_eq_some (resolve_eq_ok_iff.mp h)

theorem unqualified_eq_self {name : String} (h : '.' ∉ name.toList) : unqualified name = name := by
  have hall : forall c, c ∈ name.toList.reverse -> (c != '.') = true := by
    intro c hc
    rw [bne_iff_ne]
    intro hdot
    exact h (hdot ▸ List.mem_reverse.mp hc)
  have htake : (name.toList.reverse ++ []).takeWhile (fun c => c != '.') =
      name.toList.reverse ++ [].takeWhile (fun c => c != '.') :=
    List.takeWhile_append_of_pos hall
  rw [List.takeWhile_nil, List.append_nil] at htake
  unfold unqualified
  rw [htake, List.reverse_reverse, String.ofList_toList]

theorem dot_not_mem_unqualified (name : String) : '.' ∉ (unqualified name).toList := by
  intro hdot
  unfold unqualified at hdot
  rw [String.toList_ofList, List.mem_reverse] at hdot
  have hall := @List.all_takeWhile Char (fun c => c != '.') name.toList.reverse
  exact bne_iff_ne.mp (List.all_eq_true.mp hall '.' hdot) rfl

theorem WellFormed.resolve_name {schema : Schema} (h : schema.WellFormed) {field : Field}
    (hfield : field ∈ schema.fields) (hname : '.' ∉ field.column.name.toList) :
    schema.resolve field.column.name = .ok field := by
  simp only [resolve, unqualified_eq_self hname, h.field?_name hfield]

/-- What a name reaches has no dot in its own name, for a name is looked up without its qualifier. -/
theorem dot_not_mem_of_resolve {schema : Schema} {name : String} {field : Field}
    (h : schema.resolve name = .ok field) : '.' ∉ field.column.name.toList := by
  intro hdot
  exact dot_not_mem_unqualified name (Text.dot_mem_of_alike (resolve_eq_ok h).2 hdot)

/-!
# The primary key
-/

theorem WellFormed.primaryKey_unique {schema : Schema} (h : schema.WellFormed) {a b : Column}
    (ha : a ∈ schema.columns) (hb : b ∈ schema.columns) (hkeyA : a.isPrimaryKey = true)
    (hkeyB : b.isPrimaryKey = true) : a = b := by
  have hlength := h.one_primaryKey
  rw [List.countP_eq_length_filter] at hlength
  have ha' := List.mem_filter.mpr ⟨ha, hkeyA⟩
  have hb' := List.mem_filter.mpr ⟨hb, hkeyB⟩
  cases hkeys : schema.columns.filter Column.isPrimaryKey with
  | nil =>
      rw [hkeys] at ha'
      cases ha'
  | cons key rest =>
      rw [hkeys, List.length_cons] at hlength
      have hrest : rest = [] := List.eq_nil_of_length_eq_zero (by omega)
      rw [hkeys, hrest, List.mem_singleton] at ha' hb'
      rw [ha', hb']

/-- The recorded primary key is the name of the one column with this constraint. -/
theorem WellFormed.primaryKey_eq_some_iff {schema : Schema} (h : schema.WellFormed)
    {name : String} :
    schema.derivePrimaryKey.primaryKey = some name <->
      exists column, column ∈ schema.columns ∧ column.isPrimaryKey = true ∧ column.name = name := by
  unfold derivePrimaryKey
  rw [Option.map_eq_some_iff]
  constructor
  · intro hparts
    rcases hparts with ⟨column, hfound, hname⟩
    exact ⟨column, List.mem_of_find?_eq_some hfound, List.find?_some hfound, hname⟩
  · intro hparts
    rcases hparts with ⟨column, hmem, hkey, hname⟩
    cases hfound : schema.columns.find? Column.isPrimaryKey with
    | none => exact absurd hkey (List.find?_eq_none.mp hfound column hmem)
    | some other =>
        have hsame := h.primaryKey_unique (List.mem_of_find?_eq_some hfound) hmem
          (List.find?_some hfound) hkey
        exact ⟨other, rfl, hsame ▸ hname⟩

end Schema
end Tabula
