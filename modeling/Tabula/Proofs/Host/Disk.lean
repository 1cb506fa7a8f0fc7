import Mathlib.Data.List.Basic
import Tabula.Host.Disk
import Tabula.Proofs.Change
import Tabula.Proofs.Host.Path
import Tabula.Proofs.Result

/-!
# Entries of a disk and where paths lead

An entry that is put at a place or dropped from it changes nothing at another place.  Where a path leads
depends on the directories it passes and on nothing else, so it goes on leading there when directories
are added.

## Main statements

- `fileAt`: the bytes that are found at a path.
- `entryAt_put_self`, `entryAt_put_of_ne`, `entryAt_drop_self`, `entryAt_drop_of_ne`: the entries behind
  a change.
- `place_eq_ok_iff`: where a path leads, in terms of its pieces.
- `place_mono`: more directories, the same place.
- `place_temporary_ne`: a path and its temporary name lead to different places.
-/

namespace Tabula
namespace Disk

variable {disk disk' disk'' : Disk}

/-!
# Entries
-/

/-- The bytes of the file at a path, if there is a file. -/
def fileAt (disk : Disk) (path : String) : Option ByteArray :=
  match disk.find path with
  | .ok (.file bytes) => some bytes
  | _ => none

theorem find_eq_ok_iff {path : String} {entry : DiskEntry} :
    disk.find path = .ok entry <->
      exists place, disk.place path = .ok place ∧ disk.entryAt place = some entry := by
  unfold find
  rw [Result.bind_eq_ok_iff]
  apply exists_congr
  intro place
  apply and_congr_right
  intro _
  cases disk.entryAt place with
  | none => exact iff_of_false nofun nofun
  | some found =>
      show (Except.ok found : Except String DiskEntry) = .ok entry <-> _
      rw [Except.ok.injEq, Option.some.injEq]

theorem fileAt_eq_some_iff {path : String} {bytes : ByteArray} :
    disk.fileAt path = some bytes <->
      exists place, disk.place path = .ok place ∧ disk.entryAt place = some (.file bytes) := by
  rw [← find_eq_ok_iff]
  unfold fileAt
  constructor
  · intro h
    split at h
    · next found hfind =>
        rw [hfind, Option.some.inj h]
    · cases h
  · intro h
    rw [h]

theorem isDirectory_iff {place : List String} :
    disk.isDirectory place = true <-> disk.entryAt place = some .directory := by
  unfold isDirectory
  split
  · next h => exact iff_of_true rfl h
  · next h => exact iff_of_false Bool.false_ne_true h

theorem isDirectory_eq_of_entryAt_eq {place : List String}
    (h : disk'.entryAt place = disk.entryAt place) :
    disk'.isDirectory place = disk.isDirectory place := by
  unfold isDirectory
  rw [h]

theorem entryAt_of_ne_nil {place : List String} (h : place ≠ []) :
    disk.entryAt place = disk.entries.lookup place := by
  cases place with
  | nil => exact absurd rfl h
  | cons name rest => rfl

theorem ne_nil_of_not_directory {place : List String} (h : disk.isDirectory place = false) :
    place ≠ [] := by
  intro hroot
  rw [hroot] at h
  cases h

theorem lookup_filter_self (entries : List (List String × DiskEntry)) (place : List String) :
    (entries.filter fun e => e.1 != place).lookup place = none := by
  induction entries with
  | nil => rfl
  | cons entry rest ih =>
      rw [List.filter_cons]
      split
      · next hentry =>
          rw [List.lookup_cons, beq_eq_false_iff_ne.mpr (Ne.symm (bne_iff_ne.mp hentry))]
          exact ih
      · exact ih

theorem lookup_filter_of_ne {place other : List String} (h : other ≠ place)
    (entries : List (List String × DiskEntry)) :
    (entries.filter fun e => e.1 != place).lookup other = entries.lookup other := by
  induction entries with
  | nil => rfl
  | cons entry rest ih =>
      rw [List.filter_cons]
      split
      · rw [List.lookup_cons, List.lookup_cons, ih]
      · next hentry =>
          have hplace : entry.1 = place := by simpa using hentry
          rw [List.lookup_cons, hplace, beq_eq_false_iff_ne.mpr h]
          exact ih

theorem entryAt_put_self {place : List String} (h : place ≠ []) (entry : DiskEntry) :
    (disk.put place entry).entryAt place = some entry := by
  rw [entryAt_of_ne_nil h]
  exact List.lookup_cons_self

theorem entryAt_put_of_ne {place other : List String} (h : other ≠ place) (entry : DiskEntry) :
    (disk.put place entry).entryAt other = disk.entryAt other := by
  cases other with
  | nil => rfl
  | cons name rest =>
      show ((place, entry) :: disk.entries.filter _).lookup (name :: rest) = _
      rw [List.lookup_cons, beq_eq_false_iff_ne.mpr h]
      exact lookup_filter_of_ne h disk.entries

theorem entryAt_drop_self {place : List String} (h : place ≠ []) :
    (disk.drop place).entryAt place = none := by
  rw [entryAt_of_ne_nil h]
  exact lookup_filter_self disk.entries place

theorem entryAt_drop_of_ne {place other : List String} (h : other ≠ place) :
    (disk.drop place).entryAt other = disk.entryAt other := by
  cases other with
  | nil => rfl
  | cons name rest => exact lookup_filter_of_ne h disk.entries

/-!
# Where paths lead
-/

/-- Where one piece of a path leads from a directory. -/
def follow (place : List String) (piece : List Char) : Except String (List String) :=
  if piece = [] ∨ piece = ['.'] then .ok place
  else if piece = ['.', '.'] then .ok place.dropLast
  else do
    checkName (String.ofList piece)
    return place ++ [String.ofList piece]

/-- Pieces lead from a place to a place: all places but the last one are directories. -/
inductive Leads (disk : Disk) : List String -> List (List Char) -> List String -> Prop where
  | nil (place : List String) : Leads disk place [] place
  | cons {place next target : List String} {piece : List Char} {rest : List (List Char)}
      (hdirectory : disk.isDirectory place = true) (hfollow : follow place piece = .ok next)
      (h : Leads disk next rest target) : Leads disk place (piece :: rest) target

theorem walk_cons (place : List String) (piece : List Char) (rest : List (List Char)) :
    disk.walk place (piece :: rest) =
      match disk.entryAt place with
      | none => .error notFound
      | some (.file _) => .error notADirectory
      | some .directory => follow place piece >>= fun next => disk.walk next rest := by
  unfold follow
  rw [walk]
  cases disk.entryAt place with
  | none => rfl
  | some entry =>
      cases entry with
      | file bytes => rfl
      | directory =>
          by_cases hdot : piece = [] ∨ piece = ['.']
          · rw [if_pos hdot, if_pos hdot]
            rfl
          · rw [if_neg hdot, if_neg hdot]
            by_cases hup : piece = ['.', '.']
            · rw [if_pos hup, if_pos hup]
              rfl
            · rw [if_neg hup, if_neg hup]
              cases checkName (String.ofList piece) with
              | error cause => rfl
              | ok => rfl

theorem walk_eq_ok_iff {place target : List String} {pieces : List (List Char)} :
    disk.walk place pieces = .ok target <-> Leads disk place pieces target := by
  induction pieces generalizing place with
  | nil =>
      rw [walk, Except.ok.injEq]
      constructor
      · intro h
        rw [h]
        exact .nil target
      · intro h
        cases h
        rfl
  | cons piece rest ih =>
      rw [walk_cons]
      constructor
      · intro h
        split at h
        · cases h
        · cases h
        · next hentry =>
            rcases Result.bind_eq_ok_iff.mp h with ⟨next, hfollow, hrest⟩
            exact .cons (isDirectory_iff.mpr hentry) hfollow (ih.mp hrest)
      · intro h
        cases h with
        | cons hdirectory hfollow hrest =>
            rw [isDirectory_iff.mp hdirectory]
            exact Result.bind_eq_ok_iff.mpr ⟨_, hfollow, ih.mpr hrest⟩

theorem Leads.mono {place target : List String} {pieces : List (List Char)}
    (h : Leads disk place pieces target)
    (hmore : forall place, disk.isDirectory place = true -> disk'.isDirectory place = true) :
    Leads disk' place pieces target := by
  induction h with
  | nil place => exact .nil place
  | cons hdirectory hfollow _ ih => exact .cons (hmore _ hdirectory) hfollow ih

theorem leads_append_iff {place target : List String} {pieces more : List (List Char)} :
    Leads disk place (pieces ++ more) target <->
      exists between, Leads disk place pieces between ∧ Leads disk between more target := by
  induction pieces generalizing place with
  | nil =>
      constructor
      · intro h
        exact ⟨place, .nil place, h⟩
      · intro h
        rcases h with ⟨between, hnil, hmore⟩
        cases hnil
        exact hmore
  | cons piece rest ih =>
      constructor
      · intro h
        cases h with
        | cons hdirectory hfollow hrest =>
            rcases ih.mp hrest with ⟨between, hfirst, hmore⟩
            exact ⟨between, .cons hdirectory hfollow hfirst, hmore⟩
      · intro h
        rcases h with ⟨between, hfirst, hmore⟩
        cases hfirst with
        | cons hdirectory hfollow hrest =>
            exact .cons hdirectory hfollow (ih.mpr ⟨between, hrest, hmore⟩)

/-- A place that pieces lead on from is a directory. -/
theorem Leads.isDirectory {place target : List String} {pieces : List (List Char)}
    (h : Leads disk place pieces target) (hne : pieces ≠ []) : disk.isDirectory place = true := by
  cases h with
  | nil => exact absurd rfl hne
  | cons hdirectory _ _ => exact hdirectory

theorem place_eq_ok_iff {path : String} {target : List String} :
    disk.place path = .ok target <->
      path ≠ "" ∧ checkPath path = .ok () ∧ Leads disk (disk.start path) (Path.pieces path) target := by
  unfold place
  rw [← walk_eq_ok_iff]
  by_cases hempty : path = ""
  · rw [if_pos hempty]
    exact iff_of_false nofun fun h => h.1 hempty
  · rw [if_neg hempty]
    show (checkPath path >>= fun _ => disk.walk (disk.start path) (Path.pieces path)) = _ <-> _
    rw [Result.bind_eq_ok_iff]
    constructor
    · intro h
      rcases h with ⟨_, hcheck, hwalk⟩
      exact ⟨hempty, hcheck, hwalk⟩
    · intro h
      exact ⟨(), h.2.1, h.2.2⟩

theorem start_eq_of_home_eq (h : disk'.home = disk.home) (path : String) :
    disk'.start path = disk.start path := by
  unfold start
  rw [h]

/-- A path goes on leading where it leads when directories are added. -/
theorem place_mono {path : String} {target : List String} (h : disk.place path = .ok target)
    (hhome : disk'.home = disk.home)
    (hmore : forall place, disk.isDirectory place = true -> disk'.isDirectory place = true) :
    disk'.place path = .ok target := by
  rw [place_eq_ok_iff] at *
  rw [start_eq_of_home_eq hhome]
  exact ⟨h.1, h.2.1, h.2.2.mono hmore⟩

theorem Leads.unique {place target target' : List String} {pieces : List (List Char)}
    (h : Leads disk place pieces target) (h' : Leads disk place pieces target') :
    target = target' := by
  rw [← walk_eq_ok_iff] at h h'
  exact Except.ok.inj (h.symm.trans h')

/-!
# Temporary names
-/

theorem append_suffix_ne {last piece : List Char} (h : piece.length < Path.suffix.length) :
    last ++ Path.suffix ≠ piece := by
  intro hsame
  rw [← hsame, List.length_append] at h
  exact absurd h (Nat.not_lt.mpr (Nat.le_add_left _ _))

theorem start_temporary {path : String} (h : path ≠ "") :
    disk.start (Path.temporary path) = disk.start path := by
  rcases Path.pieces_temporary path with ⟨before, last, hpath, htemporary⟩
  unfold start
  rw [hpath, htemporary]
  cases before with
  | nil =>
      cases last with
      | nil => exact absurd (Path.eq_empty_of_pieces hpath) h
      | cons c rest => rfl
  | cons first rest =>
      cases first with
      | nil => rfl
      | cons c others => rfl

theorem follow_append_suffix {place next : List String} {last : List Char}
    (h : follow place (last ++ Path.suffix) = .ok next) :
    next = place ++ [String.ofList (last ++ Path.suffix)] := by
  have hempty : last ++ Path.suffix ≠ [] := append_suffix_ne (by decide)
  have hdot : last ++ Path.suffix ≠ ['.'] := append_suffix_ne (by decide)
  have hup : last ++ Path.suffix ≠ ['.', '.'] := append_suffix_ne (by decide)
  unfold follow at h
  rw [if_neg (not_or.mpr ⟨hempty, hdot⟩), if_neg hup] at h
  rcases Result.bind_eq_ok_iff.mp h with ⟨_, _, hnext⟩
  exact (Except.ok.inj hnext).symm

/-- No piece leads where the piece with the suffix leads. -/
theorem append_suffix_ne_follow {place next : List String} {last : List Char}
    (h : follow place last = .ok next) : place ++ [String.ofList (last ++ Path.suffix)] ≠ next := by
  have hlonger : forall {names : List String} {name : String}, names.length <= place.length ->
      place ++ [name] ≠ names := by
    intro names name hlength hsame
    rw [← hsame, List.length_append] at hlength
    exact absurd hlength (Nat.not_le.mpr (Nat.lt_add_one _))
  unfold follow at h
  split at h
  · rw [← Except.ok.inj h]
    exact hlonger (Nat.le_refl _)
  · split at h
    · rw [← Except.ok.inj h]
      exact hlonger (by rw [List.length_dropLast]; exact Nat.sub_le _ _)
    · rcases Result.bind_eq_ok_iff.mp h with ⟨_, _, hnext⟩
      rw [← Except.ok.inj hnext]
      intro hsame
      have hname := String.ofList_inj.mp (List.singleton_inj.mp (List.append_cancel_left hsame))
      have hlength := congrArg List.length hname
      rw [List.length_append] at hlength
      exact absurd hlength (Nat.ne_of_gt (Nat.lt_add_of_pos_right (by decide)))

/-- A path and its temporary name lead to different places. -/
theorem place_temporary_ne {path : String} {target temporary : List String}
    (h : disk.place path = .ok target)
    (htemporary : disk.place (Path.temporary path) = .ok temporary) : temporary ≠ target := by
  rcases Path.pieces_temporary path with ⟨before, last, hpath, hpieces⟩
  rw [place_eq_ok_iff] at h htemporary
  rcases h with ⟨hnonempty, _, hleads⟩
  rcases htemporary with ⟨_, _, hleads'⟩
  rw [start_temporary hnonempty, hpieces, leads_append_iff] at hleads'
  rw [hpath, leads_append_iff] at hleads
  rcases hleads with ⟨place, hbefore, hlast⟩
  rcases hleads' with ⟨place', hbefore', hlast'⟩
  have hplace := hbefore'.unique hbefore
  subst hplace
  cases hlast with
  | cons _ hfollow hnil =>
      cases hnil
      cases hlast' with
      | cons _ hfollow' hnil' =>
          cases hnil'
          rw [follow_append_suffix hfollow']
          exact append_suffix_ne_follow hfollow

end Disk
end Tabula
