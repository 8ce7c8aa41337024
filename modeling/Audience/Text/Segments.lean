/-!
# Segments of a text

* **`Text.segments`**: the parts of a text between the places where a mark stands; there is one more
  of them than there are marks.
-/

namespace Audience.Text

/-- The parts of a text between marks. -/
def charSegments (mark : Char) : List Char → List (List Char)
  | [] => [[]]
  | c :: rest =>
      match charSegments mark rest with
      | [] => [[c]]
      | first :: others => if c = mark then [] :: first :: others else (c :: first) :: others

/-- The parts of a text between marks. -/
def segments (mark : Char) (text : String) : List String :=
  (charSegments mark text.toList).map String.ofList

example : segments '.' "a..bc." = ["a", "", "bc", ""] := by decide

end Audience.Text
