import Mathlib.Data.List.Basic
import Tabula.Host.Path

/-!
# Pieces of paths

A path and its temporary name differ in their last piece only, and the directory that a path is in
has the pieces of the path up to some piece before the last.
-/

namespace Tabula
namespace Path

/-!
# Splitting and joining
-/

theorem split_of_plain {piece : List Char} (h : '/' ∉ piece) : split piece = [piece] := by
  induction piece with
  | nil => rfl
  | cons c rest ih =>
      rcases List.ne_and_not_mem_of_not_mem_cons h with ⟨hc, hrest⟩
      rw [split, if_neg (Ne.symm hc), ih hrest]

theorem split_cons_slash {piece : List Char} (h : '/' ∉ piece) (rest : List Char) :
    split (piece ++ '/' :: rest) = piece :: split rest := by
  induction piece with
  | nil => rfl
  | cons c others ih =>
      rcases List.ne_and_not_mem_of_not_mem_cons h with ⟨hc, hothers⟩
      rw [List.cons_append, split, if_neg (Ne.symm hc), ih hothers]

/-- Pieces without slashes are what their join is split into. -/
theorem split_join {pieces : List (List Char)} (hne : pieces ≠ [])
    (h : forall piece, piece ∈ pieces -> '/' ∉ piece) : split (join pieces) = pieces := by
  induction pieces with
  | nil => exact absurd rfl hne
  | cons piece rest ih =>
      rcases List.forall_mem_cons.mp h with ⟨hpiece, hrest⟩
      cases rest with
      | nil =>
          unfold join
          rw [List.intercalate_singleton]
          exact split_of_plain hpiece
      | cons next others =>
          have hjoin : join (piece :: next :: others) = piece ++ '/' :: join (next :: others) := by
            unfold join
            rw [List.intercalate_cons_cons, List.append_assoc]
            rfl
          rw [hjoin, split_cons_slash hpiece, ih nofun hrest]

theorem slash_not_mem_of_mem_split {cs piece : List Char} (h : piece ∈ split cs) : '/' ∉ piece := by
  induction cs generalizing piece with
  | nil =>
      rw [List.mem_singleton.mp h]
      exact List.not_mem_nil
  | cons c rest ih =>
      unfold split at h
      split at h
      · rcases List.mem_cons.mp h with rfl | hrest
        · exact List.not_mem_nil
        · exact ih hrest
      · next hc =>
          split at h
          · rw [List.mem_singleton.mp h]
            exact fun hmem => hc (List.mem_singleton.mp hmem).symm
          · next first others hsplit =>
              rw [hsplit] at ih
              rcases List.mem_cons.mp h with rfl | hothers
              · intro hmem
                rcases List.mem_cons.mp hmem with hslash | hfirst
                · exact hc hslash.symm
                · exact ih List.mem_cons_self hfirst
              · exact ih (List.mem_cons_of_mem _ hothers)

/-- What is written behind a path belongs to its last piece. -/
theorem split_append {cs : List Char} {tail : List Char} (h : '/' ∉ tail) :
    exists before last, split cs = before ++ [last] ∧
      split (cs ++ tail) = before ++ [last ++ tail] := by
  induction cs with
  | nil => exact ⟨[], [], rfl, split_of_plain h⟩
  | cons c rest ih =>
      rcases ih with ⟨before, last, hsplit, happend⟩
      rw [List.cons_append, split, split, hsplit, happend]
      by_cases hc : c = '/'
      · rw [if_pos hc, if_pos hc]
        exact ⟨[] :: before, last, rfl, rfl⟩
      · rw [if_neg hc, if_neg hc]
        cases before with
        | nil => exact ⟨[], c :: last, rfl, rfl⟩
        | cons first others => exact ⟨(c :: first) :: others, last, rfl, rfl⟩

/-- The suffix of a temporary name. -/
def suffix : List Char :=
  ['.', 't', 'm', 'p']

theorem pieces_temporary (path : String) :
    exists before last, pieces path = before ++ [last] ∧
      pieces (temporary path) = before ++ [last ++ suffix] := by
  have htail : ".tmp".toList = suffix := rfl
  have hslash : '/' ∉ suffix := by decide
  unfold pieces temporary
  rw [String.toList_append, htail]
  exact split_append hslash

/-!
# The directory that a path is in
-/

theorem upToNamed_prefix (pieces : List (List Char)) :
    exists more, pieces = upToNamed pieces ++ more := by
  rcases List.dropWhile_suffix (fun piece => piece == [] || piece == ['.']) (l := pieces.reverse) with
    ⟨front, hfront⟩
  refine ⟨front.reverse, ?_⟩
  unfold upToNamed
  rw [← List.reverse_append, hfront, List.reverse_reverse]

/-- There is a piece behind those of the directory, if any piece names something. -/
theorem parentPieces_prefix {pieces : List (List Char)} (h : upToNamed pieces ≠ []) :
    exists more, more ≠ [] ∧ pieces = parentPieces pieces ++ more := by
  rcases upToNamed_prefix pieces with ⟨more, hmore⟩
  rcases upToNamed_prefix (upToNamed pieces).dropLast with ⟨dots, hdots⟩
  refine ⟨dots ++ [(upToNamed pieces).getLast h] ++ more, ?_, ?_⟩
  · simp
  · unfold parentPieces
    rw [← List.append_assoc, ← List.append_assoc, ← hdots, List.dropLast_append_getLast]
    exact hmore

theorem slash_not_mem_of_mem_parentPieces {pieces : List (List Char)} (h : upToNamed pieces ≠ [])
    (hplain : forall piece, piece ∈ pieces -> '/' ∉ piece) {piece : List Char}
    (hpiece : piece ∈ parentPieces pieces) : '/' ∉ piece := by
  rcases parentPieces_prefix h with ⟨more, _, hmore⟩
  apply hplain
  rw [hmore]
  exact List.mem_append_left _ hpiece

theorem pieces_ofList_join {kept : List (List Char)} (hne : kept ≠ [])
    (hplain : forall piece, piece ∈ kept -> '/' ∉ piece) :
    pieces (String.ofList (join kept)) = kept := by
  unfold pieces
  rw [String.toList_ofList, split_join hne hplain]

theorem pieces_ofList_absolute (kept : List (List Char)) :
    pieces (String.ofList ('/' :: join kept)) = [] :: split (join kept) := by
  unfold pieces
  rw [String.toList_ofList]
  rfl

/-- The pieces of the directory lead to the path with at least one more piece, or name nothing. -/
theorem pieces_parent {path parent : String} (h : parent? path = some parent) :
    pieces parent = [[], []] ∨
      exists more, more ≠ [] ∧ pieces path = pieces parent ++ more := by
  have hplain : forall piece, piece ∈ pieces path -> '/' ∉ piece :=
    fun piece => slash_not_mem_of_mem_split
  unfold parent? at h
  -- An absolute path, one that starts with a dot, and one that does neither.
  split at h
  · next rest hpieces =>
      split at h
      · cases h
      · next hnamed =>
          rcases parentPieces_prefix hnamed with ⟨more, hmore, hrest⟩
          rw [hpieces] at hplain
          have hkept : forall piece, piece ∈ parentPieces rest -> '/' ∉ piece := fun piece =>
            slash_not_mem_of_mem_parentPieces hnamed (List.forall_mem_cons.mp hplain).2
          rw [← Option.some.inj h, pieces_ofList_absolute]
          by_cases hroot : parentPieces rest = []
          · left
            rw [hroot]
            rfl
          · right
            refine ⟨more, hmore, ?_⟩
            rw [hpieces, split_join hroot hkept, List.cons_append, ← hrest]
  · next rest hpieces =>
      split at h
      · cases h
      · next hnamed =>
          rcases parentPieces_prefix hnamed with ⟨more, hmore, hrest⟩
          rw [hpieces] at hplain
          rcases List.forall_mem_cons.mp hplain with ⟨hdot, hplain⟩
          have hkept : forall piece, piece ∈ ['.'] :: parentPieces rest -> '/' ∉ piece :=
            List.forall_mem_cons.mpr ⟨hdot, fun piece =>
              slash_not_mem_of_mem_parentPieces hnamed hplain⟩
          right
          refine ⟨more, hmore, ?_⟩
          rw [← Option.some.inj h, pieces_ofList_join (List.cons_ne_nil _ _) hkept, hpieces,
            List.cons_append, ← hrest]
  · split at h
    · cases h
    · next hnonempty =>
        have hnamed : upToNamed (pieces path) ≠ [] := by
          intro hnil
          apply hnonempty
          unfold parentPieces
          rw [hnil]
          rfl
        rcases parentPieces_prefix hnamed with ⟨more, hmore, hrest⟩
        have hkept : forall piece, piece ∈ parentPieces (pieces path) -> '/' ∉ piece :=
          fun piece => slash_not_mem_of_mem_parentPieces hnamed hplain
        right
        refine ⟨more, hmore, ?_⟩
        rw [← Option.some.inj h, pieces_ofList_join hnonempty hkept]
        exact hrest

/-- So they lead to the temporary name as well. -/
theorem pieces_temporary_of_parent {path parent : String} (h : parent? path = some parent) :
    pieces parent = [[], []] ∨
      exists more, more ≠ [] ∧ pieces (temporary path) = pieces parent ++ more := by
  rcases pieces_parent h with hroot | ⟨more, hmore, hpath⟩
  · exact Or.inl hroot
  · right
    rcases pieces_temporary path with ⟨before, last, hpieces, htemporary⟩
    have hlast : before = pieces parent ++ more.dropLast := by
      have hboth := congrArg List.dropLast (hpieces.symm.trans hpath)
      rw [List.dropLast_concat, List.dropLast_append_of_ne_nil hmore] at hboth
      exact hboth
    refine ⟨more.dropLast ++ [last ++ suffix], by simp, ?_⟩
    rw [htemporary, hlast, List.append_assoc]

theorem eq_empty_of_pieces {path : String} (h : pieces path = [[]]) : path = "" := by
  unfold pieces at h
  cases hcs : path.toList with
  | nil => exact String.toList_eq_nil_iff.mp hcs
  | cons c rest =>
      rw [hcs, split] at h
      split at h
      · exact absurd (List.cons.inj h).2 (split_ne_nil rest)
      · split at h
        · cases h
        · cases h

end Path
end Tabula
