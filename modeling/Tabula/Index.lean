import Tabula.Value

/-!
# Equality indexes

An index answers which rows hold a value in one column.  It keeps one entry for every value held,
with the ids of its rows in ascending order; an entry goes with its last id.

## The relation behind an index

`Index.pairs` lists the pairs of value and row id that an index stands for.
-/

namespace Tabula

/-!
# Ascending id lists
-/

namespace Ids

def insert (id : Nat) : List Nat -> List Nat
  | [] => [id]
  | other :: rest =>
      if id < other then id :: other :: rest
      else if id = other then other :: rest
      else other :: insert id rest

theorem mem_insert {id x : Nat} {ids : List Nat} : x ∈ insert id ids <-> x = id ∨ x ∈ ids := by
  induction ids with
  | nil => simp [insert]
  | cons other rest ih =>
      unfold insert
      split
      · simp
      · split
        · next same => simp [same]
        · simp only [List.mem_cons, ih]
          exact or_left_comm

theorem sorted_insert {id : Nat} {ids : List Nat} (sorted : ids.Pairwise (· < ·)) :
    (insert id ids).Pairwise (· < ·) := by
  induction ids with
  | nil => simp [insert]
  | cons other rest ih =>
      obtain ⟨least, sortedRest⟩ := List.pairwise_cons.mp sorted
      unfold insert
      split
      · next before =>
          refine List.pairwise_cons.mpr ⟨?_, sorted⟩
          intro x hx
          cases List.mem_cons.mp hx with
          | inl same => exact same ▸ before
          | inr inRest => exact Nat.lt_trans before (least x inRest)
      · split
        · exact sorted
        · next notBefore differ =>
            refine List.pairwise_cons.mpr ⟨?_, ih sortedRest⟩
            intro x hx
            cases mem_insert.mp hx with
            | inl same => omega
            | inr inRest => exact least x inRest

end Ids

structure Index where
  column : String
  entries : List (Value × List Nat) := []
  deriving DecidableEq

namespace Index

/-!
# Changes
-/

def addTo (v : Value) (id : Nat) : List (Value × List Nat) -> List (Value × List Nat)
  | [] => [(v, [id])]
  | (w, ids) :: rest =>
      if w = v then (w, Ids.insert id ids) :: rest else (w, ids) :: addTo v id rest

def removeFrom (v : Value) (id : Nat) : List (Value × List Nat) -> List (Value × List Nat)
  | [] => []
  | (w, ids) :: rest =>
      if w = v then
        match ids.filter fun other => other != id with
        | [] => rest
        | left => (w, left) :: rest
      else
        (w, ids) :: removeFrom v id rest

def add (ix : Index) (v : Value) (id : Nat) : Index :=
  { ix with entries := addTo v id ix.entries }

def remove (ix : Index) (v : Value) (id : Nat) : Index :=
  { ix with entries := removeFrom v id ix.entries }

def clear (ix : Index) : Index :=
  { ix with entries := [] }

/-- Add a row's value; NULL is not indexed. -/
def addCell (ix : Index) (v : Value) (id : Nat) : Index :=
  if v.isNull then ix else ix.add v id

def removeCell (ix : Index) (v : Value) (id : Nat) : Index :=
  if v.isNull then ix else ix.remove v id

/-!
# Questions
-/

/-- The ids of the rows that hold a value, ascending. -/
def lookup (ix : Index) (v : Value) : List Nat :=
  (ix.entries.lookup v).getD []

def has (ix : Index) (v : Value) : Bool :=
  (ix.entries.lookup v).isSome

/-- Whether a row other than `own` holds a value. -/
def heldByOther (ix : Index) (v : Value) (own : Option Nat) : Bool :=
  (ix.lookup v).any fun id => some id != own

def size (ix : Index) : Nat :=
  ix.entries.length

def isEmpty (ix : Index) : Bool :=
  ix.entries.isEmpty

def pairs (ix : Index) : List (Value × Nat) :=
  ix.entries.flatMap fun (v, ids) => ids.map fun id => (v, id)

theorem lookup_addTo (v w : Value) (id : Nat) (entries : List (Value × List Nat)) :
    (addTo v id entries).lookup w =
      if w = v then some (Ids.insert id ((entries.lookup v).getD [])) else entries.lookup w := by
  induction entries with
  | nil =>
      by_cases same : w = v
      · simp [addTo, same, Ids.insert]
      · simp [addTo, same]
  | cons entry rest ih =>
      obtain ⟨u, ids⟩ := entry
      unfold addTo
      by_cases here : u = v
      · subst here
        by_cases same : w = u
        · simp [same]
        · simp [same, List.lookup_cons, beq_eq_false_iff_ne.mpr same]
      · rw [if_neg here, List.lookup_cons, List.lookup_cons, List.lookup_cons, ih]
        by_cases same : w = v
        · subst same
          simp [beq_eq_false_iff_ne.mpr (Ne.symm here)]
        · simp [same]

theorem mem_lookup_add {ix : Index} {v w : Value} {id x : Nat} :
    x ∈ (ix.add v id).lookup w <-> (w = v ∧ x = id) ∨ x ∈ ix.lookup w := by
  unfold lookup add
  rw [lookup_addTo]
  by_cases same : w = v
  · simp [same, Ids.mem_insert]
  · simp [same]

end Index
end Tabula
