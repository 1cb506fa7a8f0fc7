/-!
# Lines

A text is taken apart at its line feeds.  A line feed ends a line, so a text that ends with one has no
empty line behind it.
-/

namespace Tabula
namespace Text

def lines : List Char -> List (List Char)
  | [] => []
  | c :: rest =>
      if c = '\n' then
        [] :: lines rest
      else
        match lines rest with
        | [] => [[c]]
        | line :: more => (c :: line) :: more

end Text
end Tabula
