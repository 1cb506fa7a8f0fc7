import Tabula.Proofs.Host.Disk

/-!
# What calls do to the files of a disk

Writing and removing a file changes no directory, so every path goes on leading where it leads and
only what is found at the one place differs.  Creating a directory adds directories where there was
nothing and changes nothing that was there.

## Main statements

- `More`: a disk with more directories and all else as it was.
- `SameBeside`: two disks that differ at most in the file at a path.
- `more_createDirectory`, `createDirectory_eq_self`, `sameBeside_writeBytes`, `fileAt_rename`,
  `sameBeside_remove`: what each call does.
-/

namespace Tabula
namespace Disk

variable {disk disk' disk'' : Disk} {path : String}

/-!
# Disks with more directories
-/

structure More (disk disk' : Disk) : Prop where
  home_eq : disk'.home = disk.home
  entryAt : forall place, disk'.entryAt place = disk.entryAt place ∨
    disk.entryAt place = none ∧ disk'.entryAt place = some .directory

namespace More

theorem of_entryAt_eq (hhome : disk'.home = disk.home)
    (hentries : forall place, disk'.entryAt place = disk.entryAt place) : More disk disk' :=
  ⟨hhome, fun place => Or.inl (hentries place)⟩

theorem refl (disk : Disk) : More disk disk :=
  of_entryAt_eq rfl fun _ => rfl

theorem trans (h : More disk disk') (h' : More disk' disk'') : More disk disk'' := by
  refine ⟨h'.home_eq.trans h.home_eq, ?_⟩
  intro place
  rcases h.entryAt place with hsame | ⟨hnone, hdirectory⟩
  · rw [← hsame]
    exact h'.entryAt place
  · rcases h'.entryAt place with hsame | ⟨hnone', _⟩
    · exact Or.inr ⟨hnone, hsame.trans hdirectory⟩
    · rw [hdirectory] at hnone'
      cases hnone'

theorem isDirectory (h : More disk disk') (place : List String)
    (hdirectory : disk.isDirectory place = true) : disk'.isDirectory place = true := by
  rcases h.entryAt place with hsame | ⟨_, hnew⟩
  · rw [isDirectory_eq_of_entryAt_eq hsame]
    exact hdirectory
  · exact isDirectory_iff.mpr hnew

theorem fileAt (h : More disk disk') {bytes : ByteArray} (hfile : disk.fileAt path = some bytes) :
    disk'.fileAt path = some bytes := by
  rw [fileAt_eq_some_iff] at *
  rcases hfile with ⟨place, hplace, hentry⟩
  refine ⟨place, place_mono hplace h.home_eq h.isDirectory, ?_⟩
  rcases h.entryAt place with hsame | ⟨hnone, _⟩
  · exact hsame.trans hentry
  · rw [hentry] at hnone
    cases hnone

theorem put_directory {place : List String} (h : disk.entryAt place = none) :
    More disk (disk.put place .directory) := by
  refine ⟨rfl, ?_⟩
  intro other
  by_cases hother : other = place
  · subst hother
    have hne : other ≠ [] := by
      intro hroot
      rw [hroot] at h
      cases h
    exact Or.inr ⟨h, entryAt_put_self hne .directory⟩
  · exact Or.inl (entryAt_put_of_ne hother .directory)

end More

/-- There is no file at a path, and none comes to light when directories are created. -/
def Vacant (disk : Disk) (path : String) : Prop :=
  forall disk', More disk disk' -> disk'.fileAt path = none

theorem vacant_of_place {place : List String} (hplace : disk.place path = .ok place)
    (hfile : disk.fileAt path = none) : disk.Vacant path := by
  intro disk' hmore
  rw [Option.eq_none_iff_forall_ne_some] at *
  intro bytes hbytes
  rcases fileAt_eq_some_iff.mp hbytes with ⟨place', hplace', hentry⟩
  rw [place_mono hplace hmore.home_eq hmore.isDirectory] at hplace'
  cases hplace'
  apply hfile bytes
  refine fileAt_eq_some_iff.mpr ⟨place, hplace, ?_⟩
  rcases hmore.entryAt place with hsame | ⟨_, hdirectory⟩
  · exact hsame.symm.trans hentry
  · rw [hentry] at hdirectory
    cases hdirectory

/-!
# Disks that differ in one file
-/

structure SameBeside (path : String) (disk disk' : Disk) : Prop where
  home_eq : disk'.home = disk.home
  isDirectory_eq : forall place, disk'.isDirectory place = disk.isDirectory place
  entryAt_eq : forall place, disk.place path ≠ .ok place ->
    disk'.entryAt place = disk.entryAt place

namespace SameBeside

theorem of_entryAt_eq (hhome : disk'.home = disk.home)
    (hentries : forall place, disk'.entryAt place = disk.entryAt place) :
    SameBeside path disk disk' :=
  ⟨hhome, fun place => isDirectory_eq_of_entryAt_eq (hentries place), fun place _ => hentries place⟩

theorem refl (path : String) (disk : Disk) : SameBeside path disk disk :=
  of_entryAt_eq rfl fun _ => rfl

theorem place_iff (h : SameBeside path disk disk') {other : String} {place : List String} :
    disk'.place other = .ok place <-> disk.place other = .ok place := by
  constructor
  · intro hplace
    apply place_mono hplace h.home_eq.symm
    intro place hdirectory
    rw [← h.isDirectory_eq]
    exact hdirectory
  · intro hplace
    apply place_mono hplace h.home_eq
    intro place hdirectory
    rw [h.isDirectory_eq]
    exact hdirectory

theorem trans (h : SameBeside path disk disk') (h' : SameBeside path disk' disk'') :
    SameBeside path disk disk'' := by
  refine ⟨h'.home_eq.trans h.home_eq, ?_, ?_⟩
  · intro place
    rw [h'.isDirectory_eq, h.isDirectory_eq]
  · intro place hplace
    rw [h'.entryAt_eq place (fun hsame => hplace (h.place_iff.mp hsame)), h.entryAt_eq place hplace]

/-- The file at a path is not the one at the temporary name. -/
theorem fileAt_of_temporary (h : SameBeside (Path.temporary path) disk disk') :
    disk'.fileAt path = disk.fileAt path := by
  apply Option.ext
  intro bytes
  rw [fileAt_eq_some_iff, fileAt_eq_some_iff]
  apply exists_congr
  intro place
  rw [h.place_iff]
  apply and_congr_right
  intro hplace
  rw [h.entryAt_eq place fun htemporary => place_temporary_ne hplace htemporary rfl]

theorem of_not_directory {place : List String} (hplace : disk.place path = .ok place)
    (hfile : disk.isDirectory place = false) (hfile' : disk'.isDirectory place = false)
    (hhome : disk'.home = disk.home)
    (hentries : forall other, other ≠ place -> disk'.entryAt other = disk.entryAt other) :
    SameBeside path disk disk' := by
  refine ⟨hhome, ?_, ?_⟩
  · intro other
    by_cases hother : other = place
    · rw [hother, hfile, hfile']
    · exact isDirectory_eq_of_entryAt_eq (hentries other hother)
  · intro other hother
    apply hentries
    intro hsame
    rw [hsame] at hother
    exact hother hplace

theorem put_file {place : List String} (hplace : disk.place path = .ok place)
    (hfile : disk.isDirectory place = false) (bytes : ByteArray) :
    SameBeside path disk (disk.put place (.file bytes)) := by
  have hfile' : (disk.put place (.file bytes)).isDirectory place = false := by
    unfold isDirectory
    rw [entryAt_put_self (ne_nil_of_not_directory hfile)]
  exact of_not_directory hplace hfile hfile' rfl fun _ hother => entryAt_put_of_ne hother _

theorem drop {place : List String} (hplace : disk.place path = .ok place)
    (hfile : disk.isDirectory place = false) : SameBeside path disk (disk.drop place) := by
  have hfile' : (disk.drop place).isDirectory place = false := by
    unfold isDirectory
    rw [entryAt_drop_self (ne_nil_of_not_directory hfile)]
  exact of_not_directory hplace hfile hfile' rfl fun _ hother => entryAt_drop_of_ne hother

end SameBeside

/-!
# Creating directories
-/

theorem run_createFrom_name {place : List String} {piece : List Char} {rest : List (List Char)}
    (hdot : ¬(piece = [] ∨ piece = ['.'])) (hup : piece ≠ ['.', '.']) (disk : Disk) :
    (createFrom place (piece :: rest)).run.run disk =
      match checkName (String.ofList piece) with
      | .error cause => (.error cause, disk)
      | .ok () =>
          match disk.entryAt (place ++ [String.ofList piece]) with
          | some .directory => (createFrom (place ++ [String.ofList piece]) rest).run.run disk
          | some (.file _) => (.error (if rest = [] then fileExists else notADirectory), disk)
          | none =>
              (createFrom (place ++ [String.ofList piece]) rest).run.run
                (disk.put (place ++ [String.ofList piece]) .directory) := by
  rw [createFrom, if_neg hdot, if_neg hup]
  dsimp only
  rw [Change.run_bind, Change.run_lift]
  cases checkName (String.ofList piece) with
  | error cause => rfl
  | ok =>
      dsimp only
      rw [Change.run_get_bind]
      cases disk.entryAt (place ++ [String.ofList piece]) with
      | none => rfl
      | some entry =>
          cases entry with
          | directory => rfl
          | file bytes => rfl

/-- What relates every disk to itself, and still relates after one more directory is created first,
relates a disk to the one that all creations leave. -/
theorem createFrom_related {related : Disk -> Disk -> Prop} (hrefl : forall disk, related disk disk)
    (hput : forall disk disk' place, disk.entryAt place = none ->
      related (disk.put place .directory) disk' -> related disk disk')
    (place : List String) (pieces : List (List Char)) (disk : Disk) :
    related disk ((createFrom place pieces).run.run disk).2 := by
  induction pieces generalizing place disk with
  | nil => exact hrefl disk
  | cons piece rest ih =>
      by_cases hdot : piece = [] ∨ piece = ['.']
      · rw [createFrom, if_pos hdot]
        exact ih place disk
      · by_cases hup : piece = ['.', '.']
        · rw [createFrom, if_neg hdot, if_pos hup]
          exact ih place.dropLast disk
        · rw [run_createFrom_name hdot hup]
          split
          · exact hrefl disk
          · split
            · exact ih _ disk
            · exact hrefl disk
            · next hnone => exact hput disk _ _ hnone (ih _ _)

theorem more_createFrom (place : List String) (pieces : List (List Char)) (disk : Disk) :
    More disk ((createFrom place pieces).run.run disk).2 :=
  createFrom_related More.refl
    (fun _ _ _ hnone hmore => (More.put_directory hnone).trans hmore) place pieces disk

theorem clock_createFrom (place : List String) (pieces : List (List Char)) (disk : Disk) :
    ((createFrom place pieces).run.run disk).2.clock = disk.clock :=
  @createFrom_related (fun disk disk' => disk'.clock = disk.clock) (fun _ => rfl)
    (fun _ _ _ _ hclock => hclock) place pieces disk

/-- Nothing is created on a way that leads on. -/
theorem createFrom_eq_self {place target : List String} {pieces more : List (List Char)}
    (h : Leads disk place (pieces ++ more) target) (hmore : more ≠ []) :
    (createFrom place pieces).run.run disk = (.ok (), disk) := by
  induction pieces generalizing place with
  | nil => rfl
  | cons piece rest ih =>
      cases h with
      | cons hdirectory hfollow hrest =>
          have hnext := hrest.isDirectory (List.append_ne_nil_of_right_ne_nil rest hmore)
          have hdone := ih hrest
          unfold follow at hfollow
          split at hfollow
          · next hdot =>
              cases hfollow
              rw [createFrom, if_pos hdot]
              exact hdone
          · next hdot =>
              split at hfollow
              · next hup =>
                  cases hfollow
                  rw [createFrom, if_neg hdot, if_pos hup]
                  exact hdone
              · next hup =>
                  rcases Result.bind_eq_ok_iff.mp hfollow with ⟨_, hcheck, hname⟩
                  cases hname
                  rw [run_createFrom_name hdot hup, hcheck, isDirectory_iff.mp hnext]
                  exact hdone

theorem run_createDirectory (path : String) (disk : Disk) :
    (createDirectory path).run.run disk =
      match checkPath path with
      | .error cause => (.error cause, disk)
      | .ok () => (createFrom (disk.start path) (Path.pieces path)).run.run disk := by
  unfold createDirectory
  cases checkPath path with
  | error cause => rfl
  | ok => rfl

theorem more_createDirectory (path : String) (disk : Disk) :
    More disk ((createDirectory path).run.run disk).2 := by
  rw [run_createDirectory]
  split
  · exact More.refl disk
  · exact more_createFrom _ _ disk

theorem clock_createDirectory (path : String) (disk : Disk) :
    ((createDirectory path).run.run disk).2.clock = disk.clock := by
  rw [run_createDirectory]
  split
  · rfl
  · exact clock_createFrom _ _ disk

/-- The directory that a path is in is there once its temporary name leads somewhere. -/
theorem createDirectory_eq_self {parent : String} {place : List String}
    (hparent : Path.parent? path = some parent)
    (hplace : disk.place (Path.temporary path) = .ok place) :
    ((createDirectory parent).run.run disk).2 = disk := by
  rw [run_createDirectory]
  split
  · rfl
  · rcases Path.pieces_temporary_of_parent hparent with hroot | ⟨more, hmore, hpieces⟩
    · rw [hroot]
      rfl
    · have hstart : disk.start (Path.temporary path) = disk.start parent := by
        unfold start
        rw [hpieces]
        cases hfirst : Path.pieces parent with
        | nil => exact absurd hfirst (Path.split_ne_nil _)
        | cons piece rest =>
            cases piece with
            | nil => rfl
            | cons c others => rfl
      have hleads := (place_eq_ok_iff.mp hplace).2.2
      rw [hstart, hpieces] at hleads
      rw [createFrom_eq_self hleads hmore]

/-!
# Writing, renaming and removing files
-/

theorem writeBytes_cases (path : String) (bytes : ByteArray) (disk : Disk) :
    (exists cause, (writeBytes path bytes).run.run disk = (.error cause, disk)) ∨
      exists place, disk.place path = .ok place ∧ disk.isDirectory place = false ∧
        (writeBytes path bytes).run.run disk = (.ok (), disk.put place (.file bytes)) := by
  unfold writeBytes
  rw [Change.run_get_bind, Change.run_bind]
  cases hplace : disk.place path with
  | error cause => exact Or.inl ⟨cause, rfl⟩
  | ok place =>
      rw [Change.run_lift]
      dsimp only
      cases hdirectory : disk.isDirectory place with
      | true => exact Or.inl ⟨isADirectory, rfl⟩
      | false =>
          cases disk.isDirectory place.dropLast with
          | false => exact Or.inl ⟨notFound, rfl⟩
          | true => exact Or.inr ⟨place, rfl, hdirectory, rfl⟩

/-- Only the file at the path is written. -/
theorem sameBeside_writeBytes (path : String) (bytes : ByteArray) (disk : Disk) :
    SameBeside path disk ((writeBytes path bytes).run.run disk).2 := by
  rcases writeBytes_cases path bytes disk with ⟨cause, hrun⟩ | ⟨place, hplace, hfile, hrun⟩
  · rw [hrun]
    exact SameBeside.refl path disk
  · rw [hrun]
    exact SameBeside.put_file hplace hfile bytes

theorem fileAt_writeBytes {bytes : ByteArray}
    (hok : (writeBytes path bytes).run.run disk = (.ok (), disk')) :
    disk'.fileAt path = some bytes := by
  rcases writeBytes_cases path bytes disk with ⟨cause, hrun⟩ | ⟨place, hplace, hfile, hrun⟩
  · rw [hrun] at hok
    cases hok
  · have hsame := sameBeside_writeBytes path bytes disk
    rw [hok] at hsame
    rw [hrun] at hok
    cases hok
    apply fileAt_eq_some_iff.mpr
    refine ⟨place, hsame.place_iff.mpr hplace, ?_⟩
    exact entryAt_put_self (ne_nil_of_not_directory hfile) (.file bytes)

theorem rename_cases (source target : String) (disk : Disk) :
    (exists cause, (rename source target).run.run disk = (.error cause, disk)) ∨
      exists sourcePlace targetPlace entry,
        disk.place source = .ok sourcePlace ∧ disk.place target = .ok targetPlace ∧
        disk.entryAt sourcePlace = some entry ∧ disk.isDirectory targetPlace = false ∧
        (rename source target).run.run disk =
          (.ok (), (disk.drop sourcePlace).put targetPlace entry) := by
  unfold rename
  rw [Change.run_get_bind, Change.run_bind]
  cases hsource : disk.place source with
  | error cause => exact Or.inl ⟨cause, rfl⟩
  | ok sourcePlace =>
      rw [Change.run_lift]
      dsimp only
      rw [Change.run_bind]
      cases htarget : disk.place target with
      | error cause => exact Or.inl ⟨cause, rfl⟩
      | ok targetPlace =>
          rw [Change.run_lift]
          dsimp only
          cases hentry : disk.entryAt sourcePlace with
          | none => exact Or.inl ⟨notFound, rfl⟩
          | some entry =>
              dsimp only
              cases hfile : disk.isDirectory targetPlace with
              | true => exact Or.inl ⟨isADirectory, rfl⟩
              | false =>
                  cases disk.isDirectory targetPlace.dropLast with
                  | false => exact Or.inl ⟨notFound, rfl⟩
                  | true =>
                      exact Or.inr ⟨sourcePlace, targetPlace, entry, rfl, rfl, hentry, hfile, rfl⟩

theorem rename_eq_self_of_error {source target cause : String}
    (herror : (rename source target).run.run disk = (.error cause, disk')) : disk' = disk := by
  rcases rename_cases source target disk with ⟨cause', hrun⟩ | ⟨_, _, _, _, _, _, _, hrun⟩
  · rw [hrun] at herror
    exact (Prod.mk.inj herror).2.symm
  · rw [hrun] at herror
    cases herror

/-- A file that is renamed is found whole under its new name. -/
theorem fileAt_rename {source target : String} {bytes : ByteArray}
    (hfile : disk.fileAt source = some bytes)
    (hok : (rename source target).run.run disk = (.ok (), disk')) :
    disk'.fileAt target = some bytes := by
  rcases fileAt_eq_some_iff.mp hfile with ⟨place, hplace, hbytes⟩
  rcases rename_cases source target disk with
    ⟨cause, hrun⟩ | ⟨sourcePlace, targetPlace, entry, hsource, htarget, hentry, hfree, hrun⟩
  · rw [hrun] at hok
    cases hok
  · rw [hrun] at hok
    cases hok
    rw [hplace] at hsource
    cases hsource
    rw [hbytes] at hentry
    cases hentry
    apply fileAt_eq_some_iff.mpr
    refine ⟨targetPlace, place_mono htarget rfl ?_, ?_⟩
    · intro other hother
      have hne : forall {file : List String}, disk.isDirectory file = false -> other ≠ file := by
        intro file hnot hsame
        rw [hsame, hnot] at hother
        cases hother
      have hplaceFile : disk.isDirectory place = false := by
        unfold isDirectory
        rw [hbytes]
      have hentry : ((disk.drop place).put targetPlace (.file bytes)).entryAt other =
          disk.entryAt other := by
        rw [entryAt_put_of_ne (hne hfree), entryAt_drop_of_ne (hne hplaceFile)]
      rw [isDirectory_eq_of_entryAt_eq hentry]
      exact hother
    · exact entryAt_put_self (ne_nil_of_not_directory hfree) (.file bytes)

/-- Only the file at the path is removed. -/
theorem sameBeside_remove (path : String) (disk : Disk) :
    SameBeside path disk ((remove path).run.run disk).2 := by
  unfold remove
  rw [Change.run_get_bind, Change.run_bind]
  cases hplace : disk.place path with
  | error cause => exact SameBeside.refl path disk
  | ok place =>
      rw [Change.run_lift]
      dsimp only
      cases hentry : disk.entryAt place with
      | none => exact SameBeside.refl path disk
      | some entry =>
          cases entry with
          | directory => exact SameBeside.refl path disk
          | file bytes =>
              have hfile : disk.isDirectory place = false := by
                unfold isDirectory
                rw [hentry]
              exact SameBeside.drop hplace hfile

end Disk
end Tabula
