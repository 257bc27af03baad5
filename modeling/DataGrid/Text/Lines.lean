/-!
# Lines of a text

A line ends at a line feed or at the end of the text; one carriage return before the line feed
belongs to the line's end.  No empty line follows a line feed that ends the text.
-/

namespace DataGrid.Text

/-- The line whose characters have been read, the latest first, when a line feed ends it. -/
def closeLine : List Char → List Char
  | '\r' :: read => read.reverse
  | read => read.reverse

/-- The lines of a text whose first line has already been read in part, the latest character
first. -/
def linesFrom (read : List Char) : List Char → List (List Char)
  | [] => if read.isEmpty then [] else [read.reverse]
  | c :: rest =>
    if c = '\n' then closeLine read :: linesFrom [] rest else linesFrom (c :: read) rest

/-- The lines of a text. -/
def lines (text : List Char) : List (List Char) := linesFrom [] text

end DataGrid.Text
