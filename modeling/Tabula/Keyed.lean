/-!
# Keyed lists

Lists of values filed under texts, in ascending order of the texts.  Filing under a key that is taken
replaces what was there.
-/

namespace Tabula
namespace Keyed

variable {α β : Type}

def find? (key : String) : List (String × α) -> Option α
  | [] => none
  | (other, a) :: rest => if other = key then some a else find? key rest

def insert (key : String) (a : α) : List (String × α) -> List (String × α)
  | [] => [(key, a)]
  | (other, b) :: rest =>
      if key < other then (key, a) :: (other, b) :: rest
      else if key = other then (key, a) :: rest
      else (other, b) :: insert key a rest

def erase (key : String) : List (String × α) -> List (String × α)
  | [] => []
  | (other, a) :: rest => if other = key then rest else (other, a) :: erase key rest

/-- File entries one after the other; the last entry under a key counts. -/
def ofList (entries : List (String × α)) : List (String × α) :=
  entries.foldl (fun filed (key, a) => insert key a filed) []

theorem find?_insert (key other : String) (a : α) (entries : List (String × α)) :
    find? other (insert key a entries) =
      if key = other then some a else find? other entries := by
  induction entries with
  | nil => simp [insert, find?]
  | cons entry rest ih =>
      obtain ⟨k, b⟩ := entry
      unfold insert
      split
      · simp [find?]
      · split
        · next same =>
            subst same
            by_cases h : key = other <;> simp [find?, h]
        · next differ =>
            by_cases h : k = other
            · have : key ≠ other := fun same => differ (same.trans h.symm)
              simp [find?, h, this]
            · simp [find?, h, ih]

end Keyed
end Tabula
