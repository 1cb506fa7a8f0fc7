import Tabula.Proofs.Plain.Exact

/-!
# Looking columns up

The check of a schema tells column names apart by their Unicode lowercase forms, and a lookup compares
a name with them letter by letter up to the case of ASCII letters.  Texts that are alike in this
sense have one lowercase form, so a lookup in a checked schema is never coarser than the check: a
name has one column at most, and columns can be told apart by their declared names.
-/

namespace Tabula
namespace Schema

variable {schema : Schema}

/-!
# One column for a name
-/

theorem WellFormed.lowercase_ne (h : schema.WellFormed) :
    schema.columns.Pairwise fun a b => Text.lowercase a.name ≠ Text.lowercase b.name :=
  List.pairwise_map.mp h.names_nodup

theorem WellFormed.countP_answersTo_le_one (h : schema.WellFormed) (name : String) :
    schema.columns.countP (fun column => column.answersTo name) <= 1 := by
  have hdiffer := h.lowercase_ne.filter fun column => column.answersTo name
  have hanswers : forall column, column ∈ schema.columns.filter (fun c => c.answersTo name) ->
      Text.lowercase column.name = Text.lowercase name := by
    intro column hcolumn
    exact Text.lowercase_eq_of_alike (List.mem_filter.mp hcolumn).2
  rw [List.countP_eq_length_filter]
  cases hfound : schema.columns.filter fun column => column.answersTo name with
  | nil => exact Nat.zero_le 1
  | cons a rest =>
      cases rest with
      | nil => exact Nat.le_refl 1
      | cons b more =>
          rw [hfound] at hdiffer hanswers
          have hne := List.rel_of_pairwise_cons hdiffer (List.mem_cons_self (a := b))
          have ha := hanswers a List.mem_cons_self
          have hb := hanswers b (List.mem_cons_of_mem a List.mem_cons_self)
          exact absurd (ha.trans hb.symm) hne

theorem WellFormed.field?_eq_some_iff (h : schema.WellFormed) {name : String} {field : Field} :
    schema.field? name = some field <->
      field ∈ schema.fields ∧ field.column.answersTo name = true := by
  constructor
  · exact field?_eq_some
  · rintro ⟨hfield, hanswers⟩
    exact h.field?_of_answersTo hfield hanswers

theorem hasColumn_iff {name : String} :
    schema.hasColumn name = true <->
      exists column, column ∈ schema.columns ∧ column.answersTo name = true := by
  unfold hasColumn field?
  rw [List.find?_isSome]
  constructor
  · rintro ⟨field, hfield, hanswers⟩
    exact ⟨field.column, column_mem_of_mem_fields hfield, hanswers⟩
  · rintro ⟨column, hcolumn, hanswers⟩
    rcases exists_field_of_mem hcolumn with ⟨field, hfield, rfl⟩
    exact ⟨field, hfield, hanswers⟩

/-!
# Columns told apart by their declared names
-/

theorem WellFormed.eq_of_name_eq (h : schema.WellFormed) {a b : Field} (ha : a ∈ schema.fields)
    (hb : b ∈ schema.fields) (hname : a.column.name = b.column.name) : a = b :=
  h.position_eq_of_lowercase_eq ha hb (congrArg Text.lowercase hname)

/-- Whether a value is bound to a column with exactly this declared name. -/
def bindsName (bound : List (Field × Value)) (name : String) : Bool :=
  bound.any fun entry => entry.1.column.name == name

/-- A search by a key that tells the field from those of the bound values finds the field itself. -/
theorem any_key_iff {κ : Type} [BEq κ] [LawfulBEq κ] (key : Field -> κ)
    {bound : List (Field × Value)} {field : Field}
    (hkey : forall entry, entry ∈ bound -> key entry.1 = key field -> entry.1 = field) :
    (bound.any fun entry => key entry.1 == key field) = true <-> field ∈ bound.map Prod.fst := by
  rw [List.any_eq_true, List.mem_map]
  constructor
  · rintro ⟨entry, hentry, hsame⟩
    exact ⟨entry, hentry, hkey entry hentry (beq_iff_eq.mp hsame)⟩
  · rintro ⟨entry, hentry, rfl⟩
    exact ⟨entry, hentry, beq_self_eq_true _⟩

theorem binds_iff {bound : List (Field × Value)}
    (hbound : forall entry, entry ∈ bound -> entry.1 ∈ schema.fields) {field : Field}
    (hfield : field ∈ schema.fields) :
    binds bound field = true <-> field ∈ bound.map Prod.fst := by
  apply any_key_iff Field.position
  intro entry hentry
  exact eq_of_position_eq (hbound entry hentry) hfield

theorem WellFormed.bindsName_iff (h : schema.WellFormed) {bound : List (Field × Value)}
    (hbound : forall entry, entry ∈ bound -> entry.1 ∈ schema.fields) {field : Field}
    (hfield : field ∈ schema.fields) :
    bindsName bound field.column.name = true <-> field ∈ bound.map Prod.fst := by
  apply any_key_iff fun field => field.column.name
  intro entry hentry
  exact h.eq_of_name_eq (hbound entry hentry) hfield

/-- What every name and every list of names finds in a schema. -/
structure Unambiguous (schema : Schema) : Prop where
  one_column : forall name, schema.columns.countP (fun column => column.answersTo name) <= 1
  field?_iff : forall name field, schema.field? name = some field <->
    field ∈ schema.fields ∧ field.column.answersTo name = true
  hasColumn_iff : forall name, schema.hasColumn name = true <->
    exists column, column ∈ schema.columns ∧ column.answersTo name = true
  eq_of_name_eq : forall name other a b, schema.field? name = some a ->
    schema.field? other = some b -> a.column.name = b.column.name -> a = b
  bindsName_iff : forall cells bound name field, schema.reach cells = .ok bound ->
    schema.resolve name = .ok field ->
      (bindsName bound field.column.name = true <-> field ∈ bound.map Prod.fst)
  binds_eq : forall cells bound name field, schema.reach cells = .ok bound ->
    schema.resolve name = .ok field -> binds bound field = bindsName bound field.column.name

theorem WellFormed.unambiguous (h : schema.WellFormed) : schema.Unambiguous where
  one_column := h.countP_answersTo_le_one
  field?_iff := fun _ _ => h.field?_eq_some_iff
  hasColumn_iff := fun _ => Schema.hasColumn_iff
  eq_of_name_eq := by
    intro name other a b ha hb hname
    exact h.eq_of_name_eq (field?_eq_some ha).1 (field?_eq_some hb).1 hname
  bindsName_iff := by
    intro cells bound name field hreach hresolve
    exact h.bindsName_iff (fun entry => mem_fields_of_reach hreach) (resolve_eq_ok hresolve).1
  binds_eq := by
    intro cells bound name field hreach hresolve
    have hbound := fun entry => @mem_fields_of_reach schema cells bound hreach entry
    have hfield := (resolve_eq_ok hresolve).1
    rw [Bool.eq_iff_iff, binds_iff hbound hfield, h.bindsName_iff hbound hfield]

/-!
# Columns named twice
-/

/-- Values are given by names up to one that names a column a second time. -/
def NamesTwice (schema : Schema) (cells : List (String × Value)) (column : String) : Prop :=
  exists before name v after given field,
    cells = before ++ (name, v) :: after ∧ schema.Gives before given ∧
      schema.resolve name = .ok field ∧ field ∈ given.map Prod.fst ∧ field.column.name = column

theorem resolve_error_kind {name : String} {e : Error} (h : schema.resolve name = .error e) :
    e.kind = .columnNotFound := by
  simp only [resolve] at h
  split at h
  · cases h
  · cases h
    rfl

theorem checkType_error_kind {column : Column} {v : Value} {e : Error}
    (h : checkType column v = .error e) : e.kind = .typeMismatch := by
  unfold checkType at h
  split at h
  · cases h
  · cases h
    rfl

/-- Errors about a repeated column name this column and are neither of the other two errors. -/
structure ReportsRepeat (repeated : String -> Error) : Prop where
  kind_eq : forall column, (repeated column).kind = .invalidArgument
  column_eq : forall {column other}, repeated column = repeated other -> column = other

variable {repeated : String -> Error}

theorem ReportsRepeat.admitOnce_eq_error_iff (h : ReportsRepeat repeated) {field : Field} {v : Value}
    {taken : Bool} {column : String} :
    admitOnce repeated field v taken = .error (repeated column) <->
      taken = true ∧ field.column.name = column := by
  unfold admitOnce
  cases taken with
  | true =>
      rw [if_pos rfl, Result.throw_eq_error, Result.error_bind, Except.error.injEq]
      constructor
      · intro hsame
        exact ⟨rfl, h.column_eq hsame⟩
      · rintro ⟨_, rfl⟩
        rfl
  | false =>
      constructor
      · intro hcheck
        have hkind := checkType_error_kind hcheck
        rw [h.kind_eq] at hkind
        cases hkind
      · rintro ⟨htaken, _⟩
        cases htaken

theorem ReportsRepeat.bind_eq_error_iff (h : ReportsRepeat repeated)
    {cells : List (String × Value)} {column : String} :
    schema.bind (admitOnce repeated) cells = .error (repeated column) <->
      schema.NamesTwice cells column := by
  constructor
  · intro hbind
    rcases Result.foldlM_eq_error_iff.mp hbind with
      ⟨before, ⟨name, v⟩, after, given, hcells, hbefore, hstep⟩
    have hgives := gives_iff.mpr ((bind_eq_ok_iff (judges_admitOnce repeated)).mp hbefore)
    rcases Result.bind_eq_error_iff.mp hstep with hresolve | ⟨field, hresolve, hrest⟩
    · have hkind := resolve_error_kind hresolve
      rw [h.kind_eq] at hkind
      cases hkind
    · rcases Result.bind_eq_error_iff.mp hrest with hjudge | ⟨_, _, hdone⟩
      · rcases h.admitOnce_eq_error_iff.mp hjudge with ⟨htaken, hname⟩
        have hmem := (binds_iff (fun _ => hgives.mem_fields) (resolve_eq_ok hresolve).1).mp htaken
        exact ⟨before, name, v, after, given, field, hcells, hgives, hresolve, hmem, hname⟩
      · cases hdone
  · rintro ⟨before, name, v, after, given, field, hcells, hgives, hresolve, hmem, hname⟩
    have hbefore := (bind_eq_ok_iff (judges_admitOnce repeated)).mpr (gives_iff.mp hgives)
    have htaken := (binds_iff (fun _ => hgives.mem_fields) (resolve_eq_ok hresolve).1).mpr hmem
    apply Result.foldlM_eq_error_iff.mpr
    refine ⟨before, (name, v), after, given, hcells, hbefore, ?_⟩
    simp only [hresolve, Result.ok_bind, h.admitOnce_eq_error_iff.mpr ⟨htaken, hname⟩,
      Result.error_bind]

end Schema
end Tabula
