import Tabula.Database.Document
import Tabula.Proofs.Keyed

/-!
# Reading what was written

An object that is written with different names has every field read back, a list has every item read
back, and a number has its value read back if it fits into a word.
-/

namespace Tabula
namespace Json

variable {α β : Type}

/-!
# Items
-/

theorem mapM_map {write : α -> β} {read : β -> Option α} {items : List α}
    (h : forall a, a ∈ items -> read (write a) = some a) :
    (items.map write).mapM read = some items := by
  induction items with
  | nil => rfl
  | cons a rest ih =>
      have hrest := ih fun b hb => h b (List.mem_cons_of_mem _ hb)
      rw [List.map_cons, List.mapM_cons, h a List.mem_cons_self, hrest]
      rfl

theorem natural?_natural {n : Nat} (h : n < UInt64.size) : (natural n).natural? = some n := by
  have hrange : (0 : Int) <= n ∧ (n : Int).toNat < UInt64.size := by
    rw [Int.toNat_natCast]
    exact ⟨Int.natCast_nonneg n, h⟩
  unfold natural natural?
  simp only
  rw [if_pos hrange, Int.toNat_natCast]

/-!
# Members
-/

theorem members?_record (members : List (String × Json)) :
    (record members).members? = some members := by
  apply mapM_map
  intro member _
  rfl

theorem map_lookup_names {members : List (String × Json)} (h : (members.map Prod.fst).Nodup) :
    (members.map Prod.fst).map (fun name => members.lookup name) =
      members.map fun member => some member.2 := by
  rw [List.map_map]
  apply List.map_congr_left
  intro member hmember
  exact Keyed.lookup_of_mem h hmember

/-- The fields of a record that has each of them and nothing else. -/
theorem fields?_record {members : List (String × Json)} {names : List String}
    (hnames : members.map Prod.fst = names) (h : names.Nodup) (closed : Bool) :
    (record members).fields? names closed = some (members.map fun member => some member.2) := by
  subst hnames
  have hcount : ((members.map Prod.fst).any fun name =>
      1 < (members.map Prod.fst).count name) = false := by
    apply List.any_eq_false.mpr
    intro name _
    have hcount := List.nodup_iff_count.mp h name
    simpa using hcount
  have hknown : ((members.map Prod.fst).any fun name =>
      !(members.map Prod.fst).contains name) = false := by
    apply List.any_eq_false.mpr
    intro name hname
    simpa using hname
  have hrest : (if (members.map Prod.fst).any fun name => 1 < (members.map Prod.fst).count name then
        none
      else if closed && (members.map Prod.fst).any fun name =>
          !(members.map Prod.fst).contains name then
        none
      else
        some ((members.map Prod.fst).map fun name => members.lookup name)) =
      some (members.map fun member => some member.2) := by
    rw [hcount, hknown, Bool.and_false, if_neg Bool.false_ne_true, if_neg Bool.false_ne_true,
      map_lookup_names h]
  exact Option.bind_eq_some_iff.mpr ⟨members, members?_record members, hrest⟩

/-- Entries under ascending names are filed as they are. -/
theorem filed?_record {write : α -> Json} {read : Json -> Option α} {entries : List (String × α)}
    (hascending : Keyed.Ascending entries)
    (h : forall entry, entry ∈ entries -> read (write entry.2) = some entry.2) :
    (record (entries.map fun entry => (entry.1, write entry.2))).filed? read = some entries := by
  have hentries : (entries.map fun entry => (entry.1, write entry.2)).mapM
      (fun member => (read member.2).map fun a => (member.1, a)) = some entries := by
    apply mapM_map
    intro entry hentry
    rw [h entry hentry]
    rfl
  apply Option.bind_eq_some_iff.mpr
  refine ⟨_, members?_record _, ?_⟩
  apply Option.bind_eq_some_iff.mpr
  exact ⟨entries, hentries, congrArg some (Keyed.ofList_of_ascending hascending)⟩

end Json
end Tabula
