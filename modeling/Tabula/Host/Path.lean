/-!
# Paths

A path is a text whose pieces are separated by slashes.  A leading slash makes it absolute.  Empty
pieces name nothing, and neither do dots except at the start of a relative path.
-/

namespace Tabula
namespace Path

def join (pieces : List (List Char)) : List Char :=
  ['/'].intercalate pieces

/-- The pieces between slashes; there is one more than slashes. -/
def split : List Char -> List (List Char)
  | [] => [[]]
  | c :: rest =>
      if c = '/' then
        [] :: split rest
      else
        match split rest with
        | [] => [[c]]
        | piece :: more => (c :: piece) :: more

theorem split_ne_nil (cs : List Char) : split cs ≠ [] := by
  cases cs with
  | nil => simp [split]
  | cons c rest =>
      unfold split
      split
      · simp
      · split <;> simp

def pieces (path : String) : List (List Char) :=
  split path.toList

/-- The pieces up to the last one that names something. -/
def upToNamed (pieces : List (List Char)) : List (List Char) :=
  (pieces.reverse.dropWhile fun piece => piece == [] || piece == ['.']).reverse

/-- The pieces of the directory that the last named piece is in. -/
def parentPieces (pieces : List (List Char)) : List (List Char) :=
  upToNamed (upToNamed pieces).dropLast

/-- The directory that the last piece of a path is in, unless it is the working directory or the path
has no such piece. -/
def parent? (path : String) : Option String :=
  match pieces path with
  | [] :: rest =>
      if upToNamed rest = [] then none else some (String.ofList ('/' :: join (parentPieces rest)))
  | ['.'] :: rest =>
      if upToNamed rest = [] then none
      else some (String.ofList (join (['.'] :: parentPieces rest)))
  | relative =>
      match parentPieces relative with
      | [] => none
      | kept => some (String.ofList (join kept))

/-- Where a file is written before it takes the place of the file at a path. -/
def temporary (path : String) : String :=
  path ++ ".tmp"

end Path
end Tabula
