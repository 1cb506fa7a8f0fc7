import Tabula.Keyed

/-!
# Ascending keyed lists

The lists that filing produces have their keys in strictly ascending order, so a key is filed at
most once, an entry can be found under its key, and a list that is ascending already is left as it
is when its entries are filed again.
-/

namespace Tabula
namespace Keyed

variable {α β : Type}

/-!
# Entries under different keys
-/

section

variable {κ : Type} [BEq κ] [LawfulBEq κ] {entries : List (κ × α)} {key : κ} {a : α}

theorem mem_of_lookup (h : entries.lookup key = some a) : (key, a) ∈ entries := by
  rcases List.lookup_eq_some_iff.mp h with ⟨before, after, rfl, _⟩
  exact List.mem_append_right _ List.mem_cons_self

theorem lookup_of_mem (hkeys : (entries.map Prod.fst).Nodup) (h : (key, a) ∈ entries) :
    entries.lookup key = some a := by
  induction entries with
  | nil => cases h
  | cons entry rest ih =>
      rcases entry with ⟨other, b⟩
      rw [List.map_cons, List.nodup_cons] at hkeys
      rcases List.mem_cons.mp h with hhead | hrest
      · cases hhead
        exact List.lookup_cons_self
      · have hne : key ≠ other := by
          intro hsame
          exact hkeys.1 (List.mem_map.mpr ⟨(key, a), hrest, hsame⟩)
        rw [List.lookup_cons, beq_eq_false_iff_ne.mpr hne]
        exact ih hkeys.2 hrest

end

/-!
# Ascending keys
-/

def Ascending (entries : List (String × α)) : Prop :=
  entries.Pairwise fun a b => a.1 < b.1

theorem lt_of_not_lt_of_ne {a b : String} (hlt : ¬ a < b) (hne : a ≠ b) : b < a := by
  apply Decidable.byContradiction
  intro hba
  exact hne (String.le_antisymm (String.not_lt.mp hba) (String.not_lt.mp hlt))

theorem Ascending.tail {entry : String × α} {entries : List (String × α)}
    (h : Ascending (entry :: entries)) : Ascending entries :=
  (List.pairwise_cons.mp h).2

theorem Ascending.head_lt {entry other : String × α} {entries : List (String × α)}
    (h : Ascending (entry :: entries)) (hmem : other ∈ entries) : entry.1 < other.1 :=
  (List.pairwise_cons.mp h).1 other hmem

theorem Ascending.eq_of_key_eq {entries : List (String × α)} (h : Ascending entries)
    {a b : String × α} (ha : a ∈ entries) (hb : b ∈ entries) (hkey : a.1 = b.1) : a = b := by
  induction entries with
  | nil => cases ha
  | cons entry rest ih =>
      rcases List.mem_cons.mp ha with hhead | hrest
      · rcases List.mem_cons.mp hb with hhead' | hrest'
        · rw [hhead, hhead']
        · exact absurd (hhead ▸ hkey) (String.ne_of_lt (h.head_lt hrest'))
      · rcases List.mem_cons.mp hb with hhead' | hrest'
        · exact absurd (hhead' ▸ hkey.symm) (String.ne_of_lt (h.head_lt hrest))
        · exact ih h.tail hrest hrest'

/-- Ascending lists with the same entries are equal. -/
theorem Ascending.ext {entries others : List (String × α)} (h : Ascending entries)
    (h' : Ascending others) (hmem : forall entry, entry ∈ entries <-> entry ∈ others) :
    entries = others := by
  have hnodup : forall {entries : List (String × α)}, Ascending entries -> entries.Nodup := by
    intro entries h
    apply h.imp
    intro a b hlt hab
    exact String.ne_of_lt hlt (congrArg Prod.fst hab)
  have hperm := (List.perm_ext_iff_of_nodup (hnodup h) (hnodup h')).mpr hmem
  apply List.Perm.eq_of_pairwise _ h h' hperm
  intro a b _ _ hab hba
  exact absurd hba (String.lt_asymm hab)

/-!
# Finding
-/

theorem mem_of_find? {key : String} {a : α} {entries : List (String × α)}
    (h : find? key entries = some a) : (key, a) ∈ entries := by
  induction entries with
  | nil => cases h
  | cons entry rest ih =>
      rcases entry with ⟨other, b⟩
      unfold find? at h
      split at h
      · next hkey =>
          cases h
          rw [hkey]
          exact List.mem_cons_self
      · exact List.mem_cons_of_mem _ (ih h)

theorem find?_isSome_of_mem {entry : String × α} {entries : List (String × α)}
    (h : entry ∈ entries) : (find? entry.1 entries).isSome = true := by
  induction entries with
  | nil => cases h
  | cons first rest ih =>
      unfold find?
      split
      · rfl
      · next hkey =>
          rcases List.mem_cons.mp h with rfl | hrest
          · exact absurd rfl hkey
          · exact ih hrest

theorem find?_eq_some_iff {entries : List (String × α)} (h : Ascending entries) {key : String}
    {a : α} : find? key entries = some a <-> (key, a) ∈ entries := by
  constructor
  · exact mem_of_find?
  · intro hmem
    have hfound := find?_isSome_of_mem hmem
    rcases Option.isSome_iff_exists.mp hfound with ⟨b, hb⟩
    have heq := h.eq_of_key_eq (mem_of_find? hb) hmem rfl
    rw [hb, (Prod.mk.inj heq).2]

theorem find?_eq_none_iff {entries : List (String × α)} {key : String} :
    find? key entries = none <-> forall entry, entry ∈ entries -> entry.1 ≠ key := by
  constructor
  · intro hnone entry hmem hkey
    have hfound := find?_isSome_of_mem hmem
    rw [hkey, hnone] at hfound
    cases hfound
  · intro habsent
    cases hfind : find? key entries with
    | none => rfl
    | some a => exact absurd rfl (habsent _ (mem_of_find? hfind))

/-!
# Filing
-/

theorem mem_insert {key : String} {a : α} {entries : List (String × α)} (h : Ascending entries)
    {entry : String × α} :
    entry ∈ insert key a entries <-> entry = (key, a) ∨ (entry ∈ entries ∧ entry.1 ≠ key) := by
  induction entries with
  | nil => simp [insert]
  | cons first rest ih =>
      rcases first with ⟨other, b⟩
      unfold insert
      split
      · next hlt =>
          -- Every entry has a greater key than the new one.
          have hother : forall x, x ∈ (other, b) :: rest -> x.1 ≠ key := by
            intro x hx hkey
            rcases List.mem_cons.mp hx with rfl | hx
            · exact String.ne_of_lt hlt hkey.symm
            · exact String.ne_of_lt (String.lt_trans hlt (h.head_lt hx)) hkey.symm
          rw [List.mem_cons]
          constructor
          · intro hcase
            rcases hcase with rfl | hx
            · exact Or.inl rfl
            · exact Or.inr ⟨hx, hother _ hx⟩
          · intro hcase
            rcases hcase with rfl | ⟨hx, _⟩
            · exact Or.inl rfl
            · exact Or.inr hx
      · split
        · next hsame =>
            subst hsame
            rw [List.mem_cons, List.mem_cons]
            constructor
            · intro hcase
              rcases hcase with rfl | hx
              · exact Or.inl rfl
              · exact Or.inr ⟨Or.inr hx, (String.ne_of_lt (h.head_lt hx)).symm⟩
            · intro hcase
              rcases hcase with rfl | ⟨rfl | hx, hne⟩
              · exact Or.inl rfl
              · exact absurd rfl hne
              · exact Or.inr hx
        · next hdiffer =>
            rw [List.mem_cons, List.mem_cons, ih h.tail]
            constructor
            · intro hcase
              rcases hcase with rfl | rfl | ⟨hx, hne⟩
              · exact Or.inr ⟨Or.inl rfl, fun hkey => hdiffer hkey.symm⟩
              · exact Or.inl rfl
              · exact Or.inr ⟨Or.inr hx, hne⟩
            · intro hcase
              rcases hcase with rfl | ⟨rfl | hx, hne⟩
              · exact Or.inr (Or.inl rfl)
              · exact Or.inl rfl
              · exact Or.inr (Or.inr ⟨hx, hne⟩)

theorem mem_of_mem_insert {key : String} {a : α} {entries : List (String × α)}
    {entry : String × α} (h : entry ∈ insert key a entries) :
    entry = (key, a) ∨ entry ∈ entries := by
  induction entries with
  | nil => exact Or.inl (List.mem_singleton.mp h)
  | cons first rest ih =>
      unfold insert at h
      split at h
      · exact List.mem_cons.mp h
      · split at h
        · rcases List.mem_cons.mp h with hnew | hold
          · exact Or.inl hnew
          · exact Or.inr (List.mem_cons_of_mem _ hold)
        · rcases List.mem_cons.mp h with hfirst | hrest
          · exact Or.inr (List.mem_cons.mpr (Or.inl hfirst))
          · exact (ih hrest).imp_right (List.mem_cons_of_mem _)

theorem ascending_insert {key : String} {a : α} {entries : List (String × α)}
    (h : Ascending entries) : Ascending (insert key a entries) := by
  induction entries with
  | nil => exact List.pairwise_singleton _ _
  | cons first rest ih =>
      rcases first with ⟨other, b⟩
      unfold insert
      split
      · next hlt =>
          refine List.pairwise_cons.mpr ⟨?_, h⟩
          intro x hx
          rcases List.mem_cons.mp hx with rfl | hx
          · exact hlt
          · exact String.lt_trans hlt (h.head_lt hx)
      · split
        · next hsame =>
            subst hsame
            exact List.pairwise_cons.mpr ⟨fun x hx => h.head_lt hx, h.tail⟩
        · next hlt hdiffer =>
            refine List.pairwise_cons.mpr ⟨?_, ih h.tail⟩
            intro x hx
            rcases (mem_insert h.tail).mp hx with rfl | ⟨hx, _⟩
            · exact lt_of_not_lt_of_ne hlt hdiffer
            · exact h.head_lt hx

theorem insert_eq_append {key : String} {a : α} {entries : List (String × α)}
    (h : forall entry, entry ∈ entries -> entry.1 < key) :
    insert key a entries = entries ++ [(key, a)] := by
  induction entries with
  | nil => rfl
  | cons first rest ih =>
      rcases first with ⟨other, b⟩
      have hother : other < key := h _ List.mem_cons_self
      unfold insert
      rw [if_neg (String.lt_asymm hother), if_neg (String.ne_of_lt hother).symm,
        ih (fun entry hmem => h entry (List.mem_cons_of_mem _ hmem))]
      rfl

/-- Filing again what is filed already changes nothing. -/
theorem insert_eq_self {key : String} {a : α} {entries : List (String × α)} (h : Ascending entries)
    (hfound : find? key entries = some a) : insert key a entries = entries := by
  have hmem := mem_of_find? hfound
  apply (ascending_insert h).ext h
  intro entry
  rw [mem_insert h]
  constructor
  · intro hentry
    rcases hentry with hsame | hother
    · rw [hsame]
      exact hmem
    · exact hother.1
  · intro hentry
    by_cases hkey : entry.1 = key
    · exact Or.inl (h.eq_of_key_eq hentry hmem hkey)
    · exact Or.inr ⟨hentry, hkey⟩

theorem find?_insert_self (key : String) (a : α) (entries : List (String × α)) :
    find? key (insert key a entries) = some a := by
  rw [find?_insert, if_pos rfl]

/-- Of two entries filed under one key the last stays. -/
theorem insert_insert {key : String} {entries : List (String × α)} (h : Ascending entries) (a b : α) :
    insert key b (insert key a entries) = insert key b entries := by
  have h' : Ascending (insert key a entries) := ascending_insert h
  apply (ascending_insert h').ext (ascending_insert h)
  intro entry
  rw [mem_insert h', mem_insert h, mem_insert h]
  apply or_congr_right
  constructor
  · intro hparts
    rcases hparts with ⟨hnew | hold, hkey⟩
    · exact absurd (congrArg Prod.fst hnew) hkey
    · exact hold
  · intro hold
    exact ⟨Or.inr hold, hold.2⟩

/-!
# Changing what is filed
-/

theorem find?_map (f : α -> β) (key : String) (entries : List (String × α)) :
    find? key (entries.map fun entry => (entry.1, f entry.2)) = (find? key entries).map f := by
  induction entries with
  | nil => rfl
  | cons entry rest ih =>
      rw [List.map_cons, find?, find?, ih]
      by_cases hkey : entry.1 = key
      · rw [if_pos hkey, if_pos hkey]
        rfl
      · rw [if_neg hkey, if_neg hkey]

theorem insert_map (f : α -> β) (key : String) (a : α) (entries : List (String × α)) :
    insert key (f a) (entries.map fun entry => (entry.1, f entry.2)) =
      (insert key a entries).map fun entry => (entry.1, f entry.2) := by
  induction entries with
  | nil => rfl
  | cons entry rest ih =>
      rw [List.map_cons, insert, insert, ih]
      by_cases hlt : key < entry.1
      · rw [if_pos hlt, if_pos hlt]
        rfl
      · rw [if_neg hlt, if_neg hlt]
        by_cases hkey : key = entry.1
        · rw [if_pos hkey, if_pos hkey]
          rfl
        · rw [if_neg hkey, if_neg hkey]
          rfl

theorem ascending_map {f : α -> β} {entries : List (String × α)} (h : Ascending entries) :
    Ascending (entries.map fun entry => (entry.1, f entry.2)) :=
  List.pairwise_map.mpr h

/-!
# Erasing
-/

theorem erase_sublist (key : String) (entries : List (String × α)) :
    (erase key entries).Sublist entries := by
  induction entries with
  | nil => exact List.Sublist.refl _
  | cons first rest ih =>
      rcases first with ⟨other, b⟩
      unfold erase
      split
      · exact List.sublist_cons_self _ _
      · exact ih.cons_cons _

theorem ascending_erase {key : String} {entries : List (String × α)} (h : Ascending entries) :
    Ascending (erase key entries) :=
  h.sublist (erase_sublist key entries)

/-!
# Filing one after the other
-/

theorem ofList_append_of_ascending {filed entries : List (String × α)}
    (h : Ascending (filed ++ entries)) :
    entries.foldl (fun filed (key, a) => insert key a filed) filed = filed ++ entries := by
  induction entries generalizing filed with
  | nil => simp
  | cons entry rest ih =>
      rcases entry with ⟨key, a⟩
      have hbefore : forall x, x ∈ filed -> x.1 < key := by
        intro x hx
        exact (List.pairwise_append.mp h).2.2 x hx (key, a) List.mem_cons_self
      have hmoved : filed ++ (key, a) :: rest = (filed ++ [(key, a)]) ++ rest := by simp
      show List.foldl _ (insert key a filed) rest = _
      rw [insert_eq_append hbefore, hmoved]
      exact ih (hmoved ▸ h)

theorem ofList_of_ascending {entries : List (String × α)} (h : Ascending entries) :
    ofList entries = entries := by
  show entries.foldl _ [] = [] ++ entries
  exact ofList_append_of_ascending h

theorem mem_foldl_insert {filed entries : List (String × α)} (h : Ascending filed)
    (hkeys : (entries.map Prod.fst).Nodup)
    (hnew : forall entry, entry ∈ entries -> forall other, other ∈ filed -> other.1 ≠ entry.1)
    {entry : String × α} :
    entry ∈ entries.foldl (fun filed (key, a) => insert key a filed) filed <->
      entry ∈ filed ∨ entry ∈ entries := by
  induction entries generalizing filed with
  | nil => simp
  | cons first rest ih =>
      rcases first with ⟨key, a⟩
      rw [List.map_cons, List.nodup_cons] at hkeys
      have hlater : forall x, x ∈ rest -> forall other, other ∈ insert key a filed ->
          other.1 ≠ x.1 := by
        intro x hx other hother
        rcases mem_of_mem_insert hother with hsame | hold
        · rw [hsame]
          intro hkey
          exact hkeys.1 (hkey ▸ List.mem_map_of_mem hx)
        · exact hnew x (List.mem_cons_of_mem _ hx) other hold
      show entry ∈ rest.foldl (fun filed (key, a) => insert key a filed) (insert key a filed) <-> _
      rw [ih (ascending_insert h) hkeys.2 hlater, mem_insert h, List.mem_cons]
      constructor
      · intro hentry
        rcases hentry with (hfirst | hold) | hrest
        · exact Or.inr (Or.inl hfirst)
        · exact Or.inl hold.1
        · exact Or.inr (Or.inr hrest)
      · intro hentry
        rcases hentry with hold | hfirst | hrest
        · exact Or.inl (Or.inr ⟨hold, hnew (key, a) List.mem_cons_self entry hold⟩)
        · exact Or.inl (Or.inl hfirst)
        · exact Or.inr hrest

/-- Filing entries with different keys keeps each of them. -/
theorem mem_ofList {entries : List (String × α)} (hkeys : (entries.map Prod.fst).Nodup)
    {entry : String × α} : entry ∈ ofList entries <-> entry ∈ entries := by
  unfold ofList
  rw [mem_foldl_insert List.Pairwise.nil hkeys]
  · simp
  · intro _ _ other hother
    cases hother

theorem ascending_ofList (entries : List (String × α)) : Ascending (ofList entries) := by
  have hall : forall filed : List (String × α), Ascending filed ->
      Ascending (entries.foldl (fun filed (key, a) => insert key a filed) filed) := by
    induction entries with
    | nil =>
        intro filed hfiled
        exact hfiled
    | cons entry rest ih =>
        intro filed hfiled
        exact ih _ (ascending_insert hfiled)
  exact hall [] List.Pairwise.nil

/-!
# Entries filed under one key
-/

theorem find?_foldl_insert (key : String) (filed entries : List (String × α)) :
    find? key (entries.foldl (fun filed (key, a) => insert key a filed) filed) =
      (entries.reverse.lookup key).or (find? key filed) := by
  induction entries generalizing filed with
  | nil => rfl
  | cons entry rest ih =>
      rcases entry with ⟨other, a⟩
      show find? key (rest.foldl _ (insert other a filed)) = _
      rw [ih, find?_insert, List.reverse_cons, List.lookup_append, Option.or_assoc]
      apply congrArg
      by_cases hsame : other = key
      · rw [if_pos hsame, hsame, List.lookup_cons_self]
        rfl
      · rw [if_neg hsame, List.lookup_cons, beq_eq_false_iff_ne.mpr (Ne.symm hsame)]
        rfl

/-- The last entry under a key is found. -/
theorem find?_ofList (key : String) (entries : List (String × α)) :
    find? key (ofList entries) = entries.reverse.lookup key := by
  unfold ofList
  rw [find?_foldl_insert]
  exact Option.or_none

/-- Later entries with different keys are found, whatever stands before them. -/
theorem find?_ofList_append {entries later : List (String × α)}
    (hkeys : (later.map Prod.fst).Nodup) {key : String} {a : α} (h : (key, a) ∈ later) :
    find? key (ofList (entries ++ later)) = some a := by
  have hreverse : (later.reverse.map Prod.fst).Nodup := by
    rw [List.map_reverse]
    exact List.pairwise_reverse.mpr (hkeys.imp Ne.symm)
  rw [find?_ofList, List.reverse_append, List.lookup_append,
    lookup_of_mem hreverse (List.mem_reverse.mpr h)]
  rfl

/-- Entries with one key hold the same. -/
def Consistent (entries : List (String × α)) : Prop :=
  forall key a b, (key, a) ∈ entries -> (key, b) ∈ entries -> a = b

theorem Consistent.map {entries : List (String × α)} (h : Consistent entries) (f : α -> β) :
    Consistent (entries.map fun entry => (entry.1, f entry.2)) := by
  intro key a b ha hb
  rcases List.mem_map.mp ha with ⟨⟨key, a'⟩, ha', hsame⟩
  cases hsame
  rcases List.mem_map.mp hb with ⟨⟨key', b'⟩, hb', hsame⟩
  cases hsame
  rw [h _ a' b' ha' hb']

/-- Filing consistent entries loses none of them. -/
theorem Consistent.find?_ofList {entries : List (String × α)} (h : Consistent entries)
    {key : String} {a : α} (hmem : (key, a) ∈ entries) : find? key (ofList entries) = some a := by
  rw [Keyed.find?_ofList]
  cases hfound : entries.reverse.lookup key with
  | none =>
      have hne := List.lookup_eq_none_iff.mp hfound (key, a) (List.mem_reverse.mpr hmem)
      exact absurd rfl (bne_iff_ne.mp hne)
  | some b =>
      rw [h key a b hmem (List.mem_reverse.mp (mem_of_lookup hfound))]

end Keyed
end Tabula
