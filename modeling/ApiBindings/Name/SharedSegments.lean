import ApiBindings.Text.Pieces

/-!
# The segments that paths share

Paths are compared segment by segment. A column holds the segments that stand at one position;
the shared segments are those of the leading columns in which all agree. A path that is too
short for a column does not take part in it.
-/
namespace ApiBindings.SharedSegments

def segments (path : String) : List (List Char) := Text.cut '/' path.toList

/-- The segments at one position. -/
def column (paths : List (List (List Char))) (position : Nat) : List (List Char) :=
  paths.filterMap fun path => path[position]?

/-- The segment all of a column agree on. -/
def agreed? (column : List (List Char)) : Option (List Char) :=
  match column with
  | [] => none
  | segment :: rest => if rest.all (· == segment) then some segment else none

/-- The agreed segments from a position on, until a column does not agree. -/
def sharedFrom (paths : List (List (List Char))) : Nat → Nat → List (List Char)
  | 0, _ => []
  | fuel + 1, position =>
    match agreed? (column paths position) with
    | some segment => segment :: sharedFrom paths fuel (position + 1)
    | none => []

/-- The number of columns. -/
def width (paths : List (List (List Char))) : Nat :=
  (paths.map List.length).foldl max 0

/-- The shared segments; there are no more than the longest path has. -/
def shared (paths : List String) : List (List Char) :=
  let split := paths.map segments
  sharedFrom split (width split) 0

/-- The shared segments joined and closed by a slash. -/
def base (paths : List String) : String :=
  String.ofList (Text.join ['/'] (shared paths) ++ ['/'])

end ApiBindings.SharedSegments
