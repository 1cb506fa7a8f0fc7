import Mathlib.Data.Finset.Sort
import Tabula.Proofs.Index

/-!
# Runs of calls on an index

The calls on an index that starts empty add a pair of value and row id, remove one, or clear the
index.  The same calls make a finite relation by plain insertion and deletion, and after every run
of calls the index answers each question as this relation does.
-/

namespace Tabula
namespace Index

inductive Call where
  | add (v : Value) (id : Nat)
  | remove (v : Value) (id : Nat)
  | clear
  deriving DecidableEq

def perform (ix : Index) : Call -> Index
  | .add v id => ix.add v id
  | .remove v id => ix.remove v id
  | .clear => ix.clear

def run (column : String) (calls : List Call) : Index :=
  calls.foldl perform { column }

/-!
# The relation of a run
-/

def relate (related : Finset (Value × Nat)) : Call -> Finset (Value × Nat)
  | .add v id => insert (v, id) related
  | .remove v id => related.erase (v, id)
  | .clear => ∅

def relation (calls : List Call) : Finset (Value × Nat) :=
  calls.foldl relate ∅

structure Represents (ix : Index) (related : Finset (Value × Nat)) : Prop where
  wellFormed : ix.WellFormed
  mem_lookup_iff : forall {v id}, id ∈ ix.lookup v <-> (v, id) ∈ related

variable {ix : Index} {related : Finset (Value × Nat)}

theorem represents_empty (column : String) : ({ column } : Index).Represents ∅ where
  wellFormed := wellFormed_empty column
  mem_lookup_iff := by
    intro v id
    simp [lookup]

theorem Represents.add (h : ix.Represents related) (v : Value) (id : Nat) :
    (ix.add v id).Represents (insert (v, id) related) where
  wellFormed := h.wellFormed.add v id
  mem_lookup_iff := by
    intro w other
    rw [mem_lookup_add, h.mem_lookup_iff, Finset.mem_insert, Prod.mk.injEq]

theorem Represents.remove (h : ix.Represents related) (v : Value) (id : Nat) :
    (ix.remove v id).Represents (related.erase (v, id)) where
  wellFormed := h.wellFormed.remove v id
  mem_lookup_iff := by
    intro w other
    rw [h.wellFormed.mem_lookup_remove, h.mem_lookup_iff, Finset.mem_erase, ne_eq, Prod.mk.injEq]
    exact and_comm

theorem Represents.perform (h : ix.Represents related) (call : Call) :
    (ix.perform call).Represents (relate related call) := by
  cases call with
  | add v id => exact h.add v id
  | remove v id => exact h.remove v id
  | clear => exact represents_empty ix.column

theorem Represents.foldl (h : ix.Represents related) (calls : List Call) :
    (calls.foldl Index.perform ix).Represents (calls.foldl relate related) := by
  induction calls generalizing ix related with
  | nil => exact h
  | cons call rest ih => exact ih (h.perform call)

theorem represents_run (column : String) (calls : List Call) :
    (run column calls).Represents (relation calls) :=
  (represents_empty column).foldl calls

/-!
# What an index answers
-/

/-- The ids that a value is related to. -/
def idsOf (related : Finset (Value × Nat)) (v : Value) : Finset Nat :=
  (related.filter fun pair => pair.1 = v).image Prod.snd

theorem mem_idsOf_iff {v : Value} {id : Nat} : id ∈ idsOf related v <-> (v, id) ∈ related := by
  unfold idsOf
  rw [Finset.mem_image]
  constructor
  · rintro ⟨⟨w, other⟩, hpair, rfl⟩
    rcases Finset.mem_filter.mp hpair with ⟨hmem, rfl⟩
    exact hmem
  · intro hmem
    exact ⟨(v, id), Finset.mem_filter.mpr ⟨hmem, rfl⟩, rfl⟩

/-- Every question about an index, asked of a relation. -/
structure AnswersAs (ix : Index) (related : Finset (Value × Nat)) : Prop where
  lookup_eq : forall v, ix.lookup v = (idsOf related v).sort
  has_iff : forall v, ix.has v = true <-> ix.lookup v ≠ []
  size_eq : ix.size = (related.image Prod.fst).card
  isEmpty_iff : ix.isEmpty = true <-> related = ∅
  heldByOther_iff : forall v own,
    ix.heldByOther v own = true <-> exists id, (v, id) ∈ related ∧ some id ≠ own

theorem Represents.lookup_eq (h : ix.Represents related) (v : Value) :
    ix.lookup v = (idsOf related v).sort := by
  have hascending : (ix.lookup v).Pairwise (· < ·) := h.wellFormed.lookup_ascending v
  have hids : (ix.lookup v).toFinset = idsOf related v := by
    ext id
    rw [List.mem_toFinset, h.mem_lookup_iff, mem_idsOf_iff]
  have hnodup : (ix.lookup v).Nodup := hascending.imp Nat.ne_of_lt
  rw [← hids, (List.toFinset_sort _ hnodup).mpr (hascending.imp Nat.le_of_lt)]

/-- A value has an entry exactly when it occurs in the relation. -/
theorem Represents.lookup_ne_nil_iff (h : ix.Represents related) {v : Value} :
    ix.lookup v ≠ [] <-> v ∈ related.image Prod.fst := by
  rw [Finset.mem_image]
  constructor
  · intro hne
    rcases List.exists_mem_of_ne_nil _ hne with ⟨id, hid⟩
    exact ⟨(v, id), h.mem_lookup_iff.mp hid, rfl⟩
  · rintro ⟨⟨w, id⟩, hmem, rfl⟩
    exact List.ne_nil_of_mem (h.mem_lookup_iff.mpr hmem)

theorem Represents.size_eq (h : ix.Represents related) :
    ix.size = (related.image Prod.fst).card := by
  rw [← Finset.length_toList]
  apply h.wellFormed.size_eq (Finset.nodup_toList _)
  intro v
  rw [Finset.mem_toList, h.lookup_ne_nil_iff]

theorem Represents.isEmpty_iff (h : ix.Represents related) :
    ix.isEmpty = true <-> related = ∅ := by
  have hsize : ix.isEmpty = true <-> ix.size = 0 := by
    rw [isEmpty, size, List.isEmpty_iff_length_eq_zero]
  rw [hsize, h.size_eq, Finset.card_eq_zero, Finset.image_eq_empty]

theorem Represents.answersAs (h : ix.Represents related) : ix.AnswersAs related where
  lookup_eq := h.lookup_eq
  has_iff := fun _ => h.wellFormed.has_iff
  size_eq := h.size_eq
  isEmpty_iff := h.isEmpty_iff
  heldByOther_iff := by
    intro v own
    rw [Index.heldByOther_iff]
    exact exists_congr fun id => and_congr_left' h.mem_lookup_iff

/-!
# Values of different kinds
-/

/-- Clearing an index concerns every kind. -/
def Call.concerns (kind : String) : Call -> Bool
  | .add v _ => v.kind == kind
  | .remove v _ => v.kind == kind
  | .clear => true

section

variable {v : Value} {id : Nat} {other : Finset (Value × Nat)}

theorem Represents.lookup_eq_of_mem_iff {that : Index} (h : ix.Represents related)
    (hthat : that.Represents other) (hsame : forall id, (v, id) ∈ related <-> (v, id) ∈ other) :
    ix.lookup v = that.lookup v := by
  rw [h.lookup_eq, hthat.lookup_eq]
  congr 1
  ext id
  rw [mem_idsOf_iff, mem_idsOf_iff, hsame]

theorem mem_relate_congr (call : Call) (hsame : (v, id) ∈ related <-> (v, id) ∈ other) :
    (v, id) ∈ relate related call <-> (v, id) ∈ relate other call := by
  cases call with
  | add w id => rw [relate, relate, Finset.mem_insert, Finset.mem_insert, hsame]
  | remove w id => rw [relate, relate, Finset.mem_erase, Finset.mem_erase, hsame]
  | clear => rfl

/-- A call of another kind names another pair, whatever the two values spell. -/
theorem mem_relate_of_not_concerns {call : Call} (h : call.concerns v.kind ≠ true) :
    (v, id) ∈ relate related call <-> (v, id) ∈ related := by
  have hne : forall {w other}, (w.kind == v.kind) ≠ true -> (v, id) ≠ (w, other) := by
    intro w other hkind hpair
    cases hpair
    exact hkind (beq_self_eq_true _)
  cases call with
  | add w other => rw [relate, Finset.mem_insert, or_iff_right (hne h)]
  | remove w other => rw [relate, Finset.mem_erase, and_iff_right (hne h)]
  | clear => exact absurd rfl h

theorem mem_foldl_filter_concerns (calls : List Call)
    (hsame : (v, id) ∈ related <-> (v, id) ∈ other) :
    (v, id) ∈ calls.foldl relate related <->
      (v, id) ∈ (calls.filter (Call.concerns v.kind)).foldl relate other := by
  induction calls generalizing related other with
  | nil => exact hsame
  | cons call rest ih =>
      by_cases hconcerns : call.concerns v.kind = true
      · rw [List.filter_cons_of_pos hconcerns]
        exact ih (mem_relate_congr call hsame)
      · rw [List.filter_cons_of_neg hconcerns]
        exact ih ((mem_relate_of_not_concerns hconcerns).trans hsame)

end

/-- Two indexes give the same answers to every question about one value. -/
structure AgreeOn (v : Value) (ix that : Index) : Prop where
  lookup_eq : ix.lookup v = that.lookup v
  has_eq : ix.has v = that.has v
  heldByOther_eq : forall own, ix.heldByOther v own = that.heldByOther v own

theorem WellFormed.agreeOn {that : Index} {v : Value} (h : ix.WellFormed) (hthat : that.WellFormed)
    (hlookup : ix.lookup v = that.lookup v) : AgreeOn v ix that where
  lookup_eq := hlookup
  has_eq := by rw [Bool.eq_iff_iff, h.has_iff, hthat.has_iff, hlookup]
  heldByOther_eq := by
    intro own
    rw [heldByOther, heldByOther, hlookup]

/-- After every run of calls an index answers as the relation that the calls make, and what it
answers about a value does not depend on the calls with values of other kinds. -/
theorem run_answersAs_relation (column : String) (calls : List Call) :
    (run column calls).AnswersAs (relation calls) ∧
      forall v, AgreeOn v (run column calls) (run column (calls.filter (Call.concerns v.kind))) := by
  have hrun : (run column calls).Represents (relation calls) := represents_run column calls
  refine ⟨hrun.answersAs, ?_⟩
  intro v
  have hkind := represents_run column (calls.filter (Call.concerns v.kind))
  apply hrun.wellFormed.agreeOn hkind.wellFormed
  apply hrun.lookup_eq_of_mem_iff hkind
  intro id
  exact mem_foldl_filter_concerns calls Iff.rfl

example :
    (run "k" [.add (.integer 1) 1, .add (.text "1") 2, .add (.boolean true) 3,
      .add (.text "true") 4, .add .null 5, .add .null 1]).size = 5 := by
  decide

end Index
end Tabula
