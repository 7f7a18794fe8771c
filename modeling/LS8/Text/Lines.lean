/-!
# Lines

A line ends with a line feed, before which one carriage return is dropped, or with the text.
After a final line feed there is no further line.  A carriage return anywhere else belongs to its
line.
-/

namespace LS8.Text

/-- Drops one carriage return at the head. -/
def dropReturn : List Char → List Char
  | '\r' :: rest => rest
  | cs => cs

/-- The lines of a text after a line that has begun with the characters of `begun`, which are in
reverse order. -/
def linesAfter (begun : List Char) : List Char → List (List Char)
  | [] => if begun.isEmpty then [] else [begun.reverse]
  | '\n' :: rest => (dropReturn begun).reverse :: linesAfter [] rest
  | c :: rest => linesAfter (c :: begun) rest

/-- The lines of a text, without what ends them. -/
def lines (cs : List Char) : List (List Char) :=
  linesAfter [] cs

end LS8.Text
