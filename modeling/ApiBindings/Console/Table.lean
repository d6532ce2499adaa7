import ApiBindings.Console.Markup
import ApiBindings.Console.Wrap
import ApiBindings.Number.Binary64

/-!
# Tables on the console

A table has a title, named columns and rows of styled text. Columns are as wide as their longest
cell and a blank on each side; if they do not fit together, the widest columns give way and
their cells are broken into lines.
-/
namespace ApiBindings.Console

structure Table where
  title : String
  columns : List String
  rows : List (List String)
  deriving Repr

/-- Columns of the console. -/
def lineWidth : Nat := 240

/-- The lines of a table: the left end, what stands between columns, and the right end. -/
structure Rule where
  left : Char
  line : Char
  joint : Char
  right : Char

namespace Rule

def top : Rule := ⟨'┏', '━', '┳', '┓'⟩
def underHead : Rule := ⟨'┡', '━', '╇', '┩'⟩
def bottom : Rule := ⟨'└', '─', '┴', '┘'⟩

def render (rule : Rule) (widths : List Nat) : List Char :=
  rule.left :: Text.join [rule.joint] (widths.map fun width => List.replicate width rule.line)
    ++ [rule.right]

end Rule

namespace Table

/-- Blanks on both sides of a cell. -/
def padding : Nat := 2

/-- The width of a cell by its longest line. -/
def cellWidth (cell : List Char) : Nat :=
  padding + ((Text.cut '\n' cell).map Text.width).foldl max 0

/-- The widest of the cells at each position. -/
def naturalWidths : List (List (List Char)) → List Nat
  | [] => []
  | [row] => row.map cellWidth
  | row :: rest => List.zipWith max (row.map cellWidth) (naturalWidths rest)

/-- Takes an excess from columns, evenly; each gives at most its share, and one without a share
gives nothing. `count` is the number of columns that still give. -/
def shrink : Nat → Nat → List (Nat × Nat) → List Nat
  | _, _, [] => []
  | excess, count, (share, width) :: rest =>
    if share = 0 then width :: shrink excess count rest
    else
      let given := min share (Binary64.roundedQuotient excess count)
      (width - given) :: shrink (excess - given) (count - 1) rest

def total (widths : List Nat) : Nat := widths.foldl (· + ·) 0

/-- Takes from the widest columns until all fit, the widest first down to the next one. -/
def fit (limit : Nat) : Nat → List Nat → List Nat
  | 0, widths => widths
  | fuel + 1, widths =>
    let excess := total widths - limit
    if excess = 0 then widths
    else
      let widest := widths.foldl max 0
      let next := (widths.filter (· != widest)).foldl max 0
      let share := min excess (widest - next)
      fit limit fuel (shrink excess (widths.count widest)
        (widths.map fun width => (if width = widest then share else 0, width)))

/-- The lines of a cell in a column, with the blanks around them. -/
def cellLines (width : Nat) (cell : List Char) : List (List Char) :=
  (wrap (width - padding) false cell).map fun line =>
    ' ' :: Text.fill (width - padding) (Text.shortened (width - padding) line) ++ [' ']

/-- A row as lines. Cells with fewer lines than others end in empty ones. -/
def rowLines (edge : Char) (widths : List Nat) (row : List (List Char)) : List (List Char) :=
  let cells := List.zipWith cellLines widths row
  let height := (cells.map List.length).foldl max 0
  (List.range height).map fun position =>
    edge :: Text.join [edge] (List.zipWith (fun width lines =>
      lines.getD position (List.replicate width ' ')) widths cells) ++ [edge]

/-- The lines of a table whose cells are plain. -/
def plainLines (title : List Char) (head : List (List Char)) (rows : List (List (List Char))) :
    List (List Char) :=
  let limit := lineWidth - (head.length + 1)
  let natural := (naturalWidths (head :: rows)).map (min limit)
  let widths := fit limit (total natural) natural
  let whole := total widths + widths.length + 1
  Text.centred whole title :: Rule.top.render widths :: rowLines '┃' widths head
    ++ Rule.underHead.render widths :: rows.flatMap (rowLines '│' widths)
    ++ [Rule.bottom.render widths]

/-- The lines of a table. -/
def lines (table : Table) : Except UnmatchedTag (List String) := do
  let head ← table.columns.mapM plain
  let rows ← table.rows.mapM fun row => row.mapM plain
  return (plainLines table.title.toList head rows).map String.ofList

end Table

/-- The lines a styled text is printed as. -/
def lines (text : String) : Except UnmatchedTag (List String) := do
  return (wrap lineWidth true (← plain text)).map String.ofList

end ApiBindings.Console
