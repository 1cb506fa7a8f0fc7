import Tabula.Index
import Tabula.Proofs.Keyed

/-!
# Indexes as relations

An index stands for a relation between values and row ids.  A well-formed index has one entry for
each value that is related to an id, and the ids of an entry are ascending; adding and removing a
pair keep it so and change the relation by exactly this pair.
-/

namespace Tabula
namespace Index

structure WellFormed (ix : Index) : Prop where
  keys_nodup : (ix.entries.map Prod.fst).Nodup
  ids_ne_nil : forall entry, entry ∈ ix.entries -> entry.2 ≠ []
  ids_ascending : forall entry, entry ∈ ix.entries -> entry.2.Pairwise (· < ·)

theorem wellFormed_empty (column : String) : ({ column } : Index).WellFormed where
  keys_nodup := List.nodup_nil
  ids_ne_nil := by
    intro entry hmem
    cases hmem
  ids_ascending := by
    intro entry hmem
    cases hmem

/-!
# Questions
-/

theorem lookup_eq_nil_or_mem (ix : Index) (v : Value) :
    ix.lookup v = [] ∨ (v, ix.lookup v) ∈ ix.entries := by
  unfold lookup
  cases hfound : ix.entries.lookup v with
  | none => exact Or.inl rfl
  | some ids => exact Or.inr (Keyed.mem_of_lookup hfound)

theorem WellFormed.lookup_ascending {ix : Index} (h : ix.WellFormed) (v : Value) :
    (ix.lookup v).Pairwise (· < ·) := by
  rcases ix.lookup_eq_nil_or_mem v with hnil | hmem
  · rw [hnil]
    exact List.Pairwise.nil
  · exact h.ids_ascending _ hmem

theorem WellFormed.has_iff {ix : Index} (h : ix.WellFormed) {v : Value} :
    ix.has v = true <-> ix.lookup v ≠ [] := by
  unfold has lookup
  cases hfound : ix.entries.lookup v with
  | none => simp
  | some ids =>
      have hne : ids ≠ [] := h.ids_ne_nil _ (Keyed.mem_of_lookup hfound)
      simp [hne]

theorem WellFormed.mem_keys_iff {ix : Index} (h : ix.WellFormed) {v : Value} :
    v ∈ ix.entries.map Prod.fst <-> ix.lookup v ≠ [] := by
  constructor
  · intro hmem
    rcases List.mem_map.mp hmem with ⟨⟨w, ids⟩, hentry, rfl⟩
    unfold lookup
    rw [Keyed.lookup_of_mem h.keys_nodup hentry]
    exact h.ids_ne_nil _ hentry
  · intro hne
    rcases ix.lookup_eq_nil_or_mem v with hnil | hmem
    · exact absurd hnil hne
    · exact List.mem_map.mpr ⟨_, hmem, rfl⟩

/-- The size is the number of values that are related to an id. -/
theorem WellFormed.size_eq {ix : Index} (h : ix.WellFormed) {values : List Value}
    (hnodup : values.Nodup) (hvalues : forall v, v ∈ values <-> ix.lookup v ≠ []) :
    ix.size = values.length := by
  have hperm : (ix.entries.map Prod.fst).Perm values := by
    rw [List.perm_ext_iff_of_nodup h.keys_nodup hnodup]
    intro v
    rw [h.mem_keys_iff, hvalues]
  unfold size
  rw [← hperm.length_eq, List.length_map]

theorem heldByOther_iff {ix : Index} {v : Value} {own : Option Nat} :
    ix.heldByOther v own = true <-> exists id, id ∈ ix.lookup v ∧ some id ≠ own := by
  simp [heldByOther]

/-!
# Adding a pair
-/

theorem mem_addTo {v : Value} {id : Nat} {entries : List (Value × List Nat)}
    {entry : Value × List Nat} (h : entry ∈ addTo v id entries) :
    entry ∈ entries ∨
      exists ids, (ids = [] ∨ (v, ids) ∈ entries) ∧ entry = (v, Ids.insert id ids) := by
  induction entries with
  | nil => exact Or.inr ⟨[], Or.inl rfl, List.mem_singleton.mp h⟩
  | cons first rest ih =>
      rcases first with ⟨w, ids⟩
      unfold addTo at h
      split at h
      · next hsame =>
          subst hsame
          rcases List.mem_cons.mp h with hhead | hrest
          · exact Or.inr ⟨ids, Or.inr List.mem_cons_self, hhead⟩
          · exact Or.inl (List.mem_cons_of_mem _ hrest)
      · rcases List.mem_cons.mp h with hhead | hrest
        · exact Or.inl (hhead ▸ List.mem_cons_self)
        · rcases ih hrest with hold | ⟨others, hsource, hentry⟩
          · exact Or.inl (List.mem_cons_of_mem _ hold)
          · exact Or.inr ⟨others, hsource.imp_right (List.mem_cons_of_mem _), hentry⟩

theorem nodup_keys_addTo {v : Value} {id : Nat} {entries : List (Value × List Nat)}
    (h : (entries.map Prod.fst).Nodup) : ((addTo v id entries).map Prod.fst).Nodup := by
  induction entries with
  | nil => simp [addTo]
  | cons first rest ih =>
      rcases first with ⟨w, ids⟩
      rw [List.map_cons, List.nodup_cons] at h
      unfold addTo
      split
      · exact List.nodup_cons.mpr h
      · next hne =>
          refine List.nodup_cons.mpr ⟨?_, ih h.2⟩
          intro hmem
          rcases List.mem_map.mp hmem with ⟨entry, hentry, hkey⟩
          rcases mem_addTo hentry with hold | ⟨others, _, rfl⟩
          · exact h.1 (List.mem_map.mpr ⟨entry, hold, hkey⟩)
          · exact hne hkey.symm

theorem insert_ne_nil (id : Nat) (ids : List Nat) : Ids.insert id ids ≠ [] := by
  intro hnil
  have hmem : id ∈ Ids.insert id ids := Ids.mem_insert.mpr (Or.inl rfl)
  rw [hnil] at hmem
  cases hmem

theorem WellFormed.add {ix : Index} (h : ix.WellFormed) (v : Value) (id : Nat) :
    (ix.add v id).WellFormed where
  keys_nodup := nodup_keys_addTo h.keys_nodup
  ids_ne_nil := by
    intro entry hmem
    rcases mem_addTo hmem with hold | ⟨ids, _, rfl⟩
    · exact h.ids_ne_nil entry hold
    · exact insert_ne_nil id ids
  ids_ascending := by
    intro entry hmem
    rcases mem_addTo hmem with hold | ⟨ids, hsource, rfl⟩
    · exact h.ids_ascending entry hold
    · rcases hsource with rfl | hsource
      · exact Ids.sorted_insert List.Pairwise.nil
      · exact Ids.sorted_insert (h.ids_ascending _ hsource)

/-!
# Removing a pair
-/

theorem mem_removeFrom {v : Value} {id : Nat} {entries : List (Value × List Nat)}
    {entry : Value × List Nat} (h : entry ∈ removeFrom v id entries) :
    entry ∈ entries ∨
      exists ids, (v, ids) ∈ entries ∧ entry = (v, ids.filter fun other => other != id) ∧
        entry.2 ≠ [] := by
  induction entries with
  | nil => cases h
  | cons first rest ih =>
      rcases first with ⟨w, ids⟩
      unfold removeFrom at h
      split at h
      · next hsame =>
          subst hsame
          split at h
          · exact Or.inl (List.mem_cons_of_mem _ h)
          · next hleft =>
              rcases List.mem_cons.mp h with hhead | hrest
              · refine Or.inr ⟨ids, List.mem_cons_self, hhead, ?_⟩
                rw [hhead]
                exact hleft
              · exact Or.inl (List.mem_cons_of_mem _ hrest)
      · rcases List.mem_cons.mp h with hhead | hrest
        · exact Or.inl (hhead ▸ List.mem_cons_self)
        · rcases ih hrest with hold | ⟨others, hsource, hentry⟩
          · exact Or.inl (List.mem_cons_of_mem _ hold)
          · exact Or.inr ⟨others, List.mem_cons_of_mem _ hsource, hentry⟩

theorem keys_removeFrom_sublist (v : Value) (id : Nat) (entries : List (Value × List Nat)) :
    ((removeFrom v id entries).map Prod.fst).Sublist (entries.map Prod.fst) := by
  induction entries with
  | nil => exact List.Sublist.refl _
  | cons first rest ih =>
      rcases first with ⟨w, ids⟩
      unfold removeFrom
      split
      · split
        · exact List.sublist_cons_self _ _
        · exact List.Sublist.refl _
      · exact ih.cons_cons _

theorem WellFormed.remove {ix : Index} (h : ix.WellFormed) (v : Value) (id : Nat) :
    (ix.remove v id).WellFormed where
  keys_nodup := h.keys_nodup.sublist (keys_removeFrom_sublist v id ix.entries)
  ids_ne_nil := by
    intro entry hmem
    rcases mem_removeFrom hmem with hold | ⟨ids, _, _, hne⟩
    · exact h.ids_ne_nil entry hold
    · exact hne
  ids_ascending := by
    intro entry hmem
    rcases mem_removeFrom hmem with hold | ⟨ids, hsource, hentry, _⟩
    · exact h.ids_ascending entry hold
    · rw [hentry]
      exact (h.ids_ascending _ hsource).sublist List.filter_sublist

/-- An entry goes with its last id, so what is found under its value afterwards is an empty list. -/
theorem lookup_removeFrom {v w : Value} {id : Nat} {entries : List (Value × List Nat)}
    (h : (entries.map Prod.fst).Nodup) :
    ((removeFrom v id entries).lookup w).getD [] =
      if w = v then ((entries.lookup v).getD []).filter fun other => other != id
      else (entries.lookup w).getD [] := by
  induction entries with
  | nil => simp [removeFrom]
  | cons first rest ih =>
      rcases first with ⟨u, ids⟩
      rw [List.map_cons, List.nodup_cons] at h
      have hrest := ih h.2
      have habsent : rest.lookup u = none := by
        rw [List.lookup_eq_none_iff]
        intro entry hentry
        rw [bne_iff_ne]
        intro hkey
        exact h.1 (List.mem_map.mpr ⟨entry, hentry, hkey.symm⟩)
      unfold removeFrom
      by_cases huv : u = v
      · subst huv
        rw [if_pos rfl]
        by_cases hwu : w = u
        · subst hwu
          rw [if_pos rfl, List.lookup_cons_self]
          split
          · next hnil => simp [habsent, hnil]
          · next hleft => simp
        · rw [if_neg hwu, List.lookup_cons, beq_eq_false_iff_ne.mpr hwu]
          split
          · rfl
          · rw [List.lookup_cons, beq_eq_false_iff_ne.mpr hwu]
      · rw [if_neg huv, List.lookup_cons, List.lookup_cons (k := u), List.lookup_cons (k := u)]
        by_cases hwu : w = u
        · subst hwu
          simp [huv]
        · rw [beq_eq_false_iff_ne.mpr hwu, beq_eq_false_iff_ne.mpr (Ne.symm huv)]
          exact hrest

theorem WellFormed.mem_lookup_remove {ix : Index} (h : ix.WellFormed) {v w : Value} {id x : Nat} :
    x ∈ (ix.remove v id).lookup w <-> x ∈ ix.lookup w ∧ ¬ (w = v ∧ x = id) := by
  unfold lookup Index.remove
  rw [lookup_removeFrom h.keys_nodup]
  by_cases hwv : w = v
  · subst hwv
    simp
  · simp [hwv]

/-!
# Removing what was added
-/

theorem filter_insert {id : Nat} {ids : List Nat} (h : id ∉ ids) :
    (Ids.insert id ids).filter (fun other => other != id) = ids := by
  induction ids with
  | nil => simp [Ids.insert]
  | cons first rest ih =>
      have hkept : (first :: rest).filter (fun other => other != id) = first :: rest := by
        apply List.filter_eq_self.mpr
        intro other hother
        exact bne_iff_ne.mpr fun hsame => h (hsame ▸ hother)
      rw [List.mem_cons, not_or] at h
      unfold Ids.insert
      split
      · rw [List.filter_cons, if_neg (by simp), hkept]
      · rw [if_neg h.1, List.filter_cons, if_pos (bne_iff_ne.mpr (Ne.symm h.1)), ih h.2]

/-- The entry of a value that had no id goes again, and an entry that was there gets its ids back. -/
theorem removeFrom_addTo {v : Value} {id : Nat} {entries : List (Value × List Nat)}
    (h : forall ids, (v, ids) ∈ entries -> ids ≠ [] ∧ id ∉ ids) :
    removeFrom v id (addTo v id entries) = entries := by
  induction entries with
  | nil => simp [addTo, removeFrom]
  | cons first rest ih =>
      rcases first with ⟨w, ids⟩
      unfold addTo
      by_cases hsame : w = v
      · subst hsame
        rcases h ids List.mem_cons_self with ⟨hne, hnew⟩
        rw [if_pos rfl, removeFrom, if_pos rfl, filter_insert hnew]
        split
        · exact absurd rfl hne
        · rfl
      · rw [if_neg hsame, removeFrom, if_neg hsame,
          ih fun others hothers => h others (List.mem_cons_of_mem _ hothers)]

theorem WellFormed.removeCell_addCell {ix : Index} (h : ix.WellFormed) {v : Value} {id : Nat}
    (hnew : id ∉ ix.lookup v) : (ix.addCell v id).removeCell v id = ix := by
  unfold addCell removeCell
  cases v.isNull with
  | true => rfl
  | false =>
      have hentries : removeFrom v id (addTo v id ix.entries) = ix.entries := by
        apply removeFrom_addTo
        intro ids hids
        refine ⟨h.ids_ne_nil _ hids, ?_⟩
        unfold lookup at hnew
        rw [Keyed.lookup_of_mem h.keys_nodup hids] at hnew
        exact hnew
      show { ix with entries := removeFrom v id (addTo v id ix.entries) } = ix
      rw [hentries]

end Index
end Tabula
