import Tabula.Text.Case

/-!
# The two readings of letter case

Lowercasing looks at a character and at its neighbours, and each look is blind to the case of an
ASCII letter.  So texts that are alike have one lowercase form.
-/

namespace Tabula
namespace Text

/-!
# Single characters
-/

def capitals : List Char :=
  "ABCDEFGHIJKLMNOPQRSTUVWXYZ".toList

theorem toLower_cases (c : Char) : c.toLower = c ∨ c ∈ capitals := by
  unfold Char.toLower
  split
  · next hcapital =>
      right
      have hlow : 65 <= c.toNat := hcapital.1
      have hhigh : c.toNat <= 90 := hcapital.2
      have hall : forall n, n ∈ List.range' 65 26 -> Char.ofNat n ∈ capitals := by
        decide +kernel
      rw [← Char.ofNat_toNat c]
      apply hall
      rw [List.mem_range'_1]
      omega
  · exact Or.inl rfl

/-- A property of characters that does not tell a capital from its small letter tells no character
from its small letter. -/
theorem apply_toLower {α : Type} (f : Char -> α)
    (h : capitals.map (fun c => f c.toLower) = capitals.map f) (c : Char) : f c.toLower = f c := by
  rcases toLower_cases c with hsame | hcapital
  · rw [hsame]
  · exact List.map_inj_left.mp h c hcapital

theorem isCased_toLower (c : Char) : isCased c.toLower = isCased c :=
  apply_toLower isCased (by decide +kernel) c

theorem isCaseIgnorable_toLower (c : Char) : isCaseIgnorable c.toLower = isCaseIgnorable c :=
  apply_toLower isCaseIgnorable (by decide +kernel) c

theorem lowercaseChar_toLower (c : Char) : lowercaseChar c.toLower = lowercaseChar c :=
  apply_toLower lowercaseChar (by decide +kernel) c

theorem toLower_eq_sigma_iff (c : Char) : c.toLower = 'Σ' <-> c = 'Σ' := by
  have h := apply_toLower (fun c => decide (c = 'Σ')) (by decide +kernel) c
  simpa using h

theorem toLower_eq_dot_iff (c : Char) : c.toLower = '.' <-> c = '.' := by
  have h := apply_toLower (fun c => decide (c = '.')) (by decide +kernel) c
  simpa using h

/-!
# Texts
-/

theorem meetsCased_toLower (cs : List Char) : meetsCased (cs.map Char.toLower) = meetsCased cs := by
  have hskip : isCaseIgnorable ∘ Char.toLower = isCaseIgnorable := funext isCaseIgnorable_toLower
  unfold meetsCased
  rw [List.dropWhile_map, hskip]
  cases cs.dropWhile isCaseIgnorable with
  | nil => rfl
  | cons c rest => exact isCased_toLower c

theorem sigma_toLower (before after : List Char) :
    sigma (before.map Char.toLower) (after.map Char.toLower) = sigma before after := by
  unfold sigma
  rw [meetsCased_toLower, meetsCased_toLower]

theorem lowercaseFrom_toLower (before cs : List Char) :
    lowercaseFrom (before.map Char.toLower) (cs.map Char.toLower) = lowercaseFrom before cs := by
  induction cs generalizing before with
  | nil => rfl
  | cons c rest ih =>
      have hrest := ih (c :: before)
      rw [List.map_cons] at hrest
      rw [List.map_cons, lowercaseFrom_cons, lowercaseFrom_cons, hrest]
      simp only [toLower_eq_sigma_iff, sigma_toLower, lowercaseChar_toLower]

theorem lowercase_eq_of_alike {a b : String} (h : alike a b = true) : lowercase a = lowercase b := by
  have hfold : a.toList.map Char.toLower = b.toList.map Char.toLower := alike_iff.mp h
  unfold lowercase
  rw [← lowercaseFrom_toLower [] a.toList, hfold]
  exact congrArg String.ofList (lowercaseFrom_toLower [] b.toList)

/-!
# ASCII texts
-/

def IsAscii (s : String) : Prop :=
  forall c, c ∈ s.toList -> c.toNat < 128

instance (s : String) : Decidable (IsAscii s) :=
  List.decidableBAll (fun c : Char => c.toNat < 128) s.toList

theorem lowercaseFrom_of_ascii {cs : List Char} (h : forall c, c ∈ cs -> c.toNat < 128)
    (before : List Char) : lowercaseFrom before cs = cs.map Char.toLower := by
  induction cs generalizing before with
  | nil => rfl
  | cons c rest ih =>
      have hc : c.toNat < 128 := h c List.mem_cons_self
      have hsigma : c ≠ 'Σ' := by
        intro hsigma
        rw [hsigma] at hc
        exact absurd hc (by decide)
      have hchar : lowercaseChar c = [c.toLower] := if_pos hc
      rw [lowercaseFrom_cons, if_neg hsigma, hchar, ih (fun d hd => h d (List.mem_cons_of_mem _ hd)),
        List.map_cons]
      rfl

theorem IsAscii.lowercase_eq {s : String} (h : IsAscii s) : lowercase s = String.ofList (fold s) :=
  congrArg String.ofList (lowercaseFrom_of_ascii h [])

/-- In ASCII texts the two readings of letter case are one. -/
theorem IsAscii.alike_of_lowercase_eq {a b : String} (ha : IsAscii a) (hb : IsAscii b)
    (h : lowercase a = lowercase b) : alike a b = true := by
  rw [ha.lowercase_eq, hb.lowercase_eq] at h
  exact alike_iff.mpr (String.ofList_injective h)

/-!
# Lengths
-/

theorem length_fold (s : String) : (fold s).length = s.toList.length :=
  List.length_map _

theorem lowercaseChar_ne_nil (c : Char) : lowercaseChar c ≠ [] := by
  unfold lowercaseChar
  split
  · exact List.cons_ne_nil _ _
  · split
    · exact List.cons_ne_nil _ _
    · split
      · exact List.cons_ne_nil _ _
      · exact List.cons_ne_nil _ _

/-- No character is lost in lowercase. -/
theorem length_le_lowercaseFrom (before cs : List Char) :
    cs.length <= (lowercaseFrom before cs).length := by
  induction cs generalizing before with
  | nil => exact Nat.le_refl _
  | cons c rest ih =>
      have hrest := ih (c :: before)
      have hhead : 0 < (if c = 'Σ' then [sigma before rest] else lowercaseChar c).length := by
        split
        · exact Nat.one_pos
        · exact List.length_pos_iff.mpr (lowercaseChar_ne_nil c)
      rw [lowercaseFrom_cons, List.length_append, List.length_cons]
      omega

theorem length_le_lowercase (s : String) :
    s.toList.length <= (lowercase s).toList.length := by
  unfold lowercase
  rw [String.toList_ofList]
  exact length_le_lowercaseFrom [] s.toList

/-!
# Dots
-/

theorem dot_mem_of_alike {a b : String} (h : alike a b = true) (hdot : '.' ∈ a.toList) :
    '.' ∈ b.toList := by
  have hfold : a.toList.map Char.toLower = b.toList.map Char.toLower := alike_iff.mp h
  have hlower : '.' ∈ a.toList.map Char.toLower :=
    List.mem_map.mpr ⟨'.', hdot, (toLower_eq_dot_iff '.').mpr rfl⟩
  rw [hfold] at hlower
  rcases List.mem_map.mp hlower with ⟨c, hc, hsame⟩
  rw [← (toLower_eq_dot_iff c).mp hsame]
  exact hc

end Text
end Tabula
