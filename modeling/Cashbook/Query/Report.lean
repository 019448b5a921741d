import Cashbook.Query.Diagnostic
import Cashbook.Text.Width

/-!
# The report of a query that could not be read

`ParseError.report` shows what is wrong with a query and where: a headline, the line and the column,
and the lines of the query that the fault lies in, with the faulty characters underlined and an
arrow from them to a remark.

* A fault within one line is underlined, and the arrow leaves the underline in its middle.  A fault
  that has no characters, at the end of the query, is marked by a bar.
* A fault that runs over several lines, as a quoted text with a line break can, is embraced by a bar
  on the left, from its first line to its last.  The lines in between are left out but for a gap in
  the bar.

A report may be coloured.  Then each character of the query is painted by itself, the faulty ones in
the colour of an error and the others in the colour of text.
-/

namespace Cashbook.Query

/-! ## The lines of a text -/

/-- One line of a text. -/
structure Line where
  /-- The position of its first character. -/
  offset : Nat
  /-- How many characters it has, the line break included. -/
  length : Nat
  /-- Its characters up to the last one that is not blank. -/
  shown : List Char

namespace Line

/-- The line that begins at `offset` and has the characters `read`, latest first. -/
def ofRead (offset : Nat) (read : List Char) : Line :=
  ⟨offset, read.length, (read.dropWhile Text.isBlank).reverse⟩

/-- Whether a line ends with `c`. -/
def isBreak (c : Char) : Bool :=
  c = '\r' || c = '\n' || c = '\x0b' || c = '\x0c' || c = '\u0085' || c = '\u2028' || c = '\u2029'

/-- The lines of the rest of a text, if the line that begins at `offset` has the characters `read`
before it, latest first.  A carriage return and a line feed after it are one line break. -/
def split (offset : Nat) (read : List Char) : List Char → List Line
  | [] => if read.isEmpty then [] else [ofRead offset read]
  | '\r' :: '\n' :: cs =>
      let line := ofRead offset ('\n' :: '\r' :: read)
      line :: split (offset + line.length) [] cs
  | c :: cs =>
      if isBreak c then
        let line := ofRead offset (c :: read)
        line :: split (offset + line.length) [] cs
      else split offset (c :: read) cs

/-- The number of the line that the position `k` lies in, from 0. -/
def numberAt (lines : List Line) (k : Nat) : Nat := lines.countP (·.offset ≤ k) - 1

/-- How wide a tab stop is. -/
def tabStop : Nat := 4

/-- How the character `c` is shown in the column `col`, and how many cells it takes. -/
def cell (c : Char) (col : Nat) : Char × Nat :=
  if c = '\t' then (' ', tabStop - col % tabStop)
  else if Text.isBlank c then (' ', 1)
  else (c, Text.width c)

/-- How many cells each of the first `n` columns takes; one after the end of the line. -/
def cellWidths (line : Line) (n : Nat) : List Nat :=
  ((line.shown.take n).zipIdx.map fun (c, col) => (cell c col).2) ++
    List.replicate (n - line.shown.length) 1

end Line

/-! ## Painting -/

/-- The roles that are told apart by colour. -/
inductive Colour
  /-- What is wrong. -/
  | fault
  /-- The frame, and the numbers of the lines. -/
  | frame
  /-- The frame beside rows that are no lines of the query. -/
  | dim
  /-- The query where nothing is wrong. -/
  | text
  deriving DecidableEq, Repr

/-- The sequence that sets a colour. -/
def Colour.code : Colour → String
  | .fault => "31"
  | .frame => "38;5;246"
  | .dim => "38;5;240"
  | .text => "38;5;249"

/-- A piece of text with its colour, if it has one. -/
structure Paint where
  /-- The colour. -/
  colour : Option Colour
  /-- The text. -/
  text : List Char

namespace Paint

/-- Text without a colour. -/
def plain (text : List Char) : Paint := ⟨none, text⟩

/-- The colour of a fault on one character. -/
def faulty (c : Char) : Paint := ⟨some .fault, [c]⟩

/-- A blank. -/
def blank : Paint := plain [' ']

/-- The characters of a piece, between the sequences that set its colour and take it back. -/
def toChars (coloured : Bool) (p : Paint) : List Char :=
  match p.colour with
  | some c =>
      if coloured then
        "\x1b[".toList ++ c.code.toList ++ 'm' :: p.text ++ "\x1b[0m".toList
      else p.text
  | none => p.text

end Paint

/-! ## The rows of a report -/

/-- A row: its pieces from left to right. -/
abbrev Row := List Paint

/-- A cell of a row: the piece in its first place, and the piece in each place after it. -/
structure Cell where
  /-- The piece in the first place. -/
  head : Paint
  /-- The piece in each place after it. -/
  tail : Paint

/-- The same piece in every place. -/
def Cell.all (p : Paint) : Cell := ⟨p, p⟩

/-- A row of cells below the first `n` columns of a line, each as wide as its column. -/
def cellsBelow (line : Line) (n : Nat) (cellAt : Nat → Cell) : Row :=
  (line.cellWidths n).zipIdx.flatMap fun (width, col) =>
    let cell := cellAt col
    (List.replicate width cell.tail).modifyHead fun _ => cell.head

/-- Whether the position `k` lies in the span. -/
def Span.contains (s : Span) (k : Nat) : Bool := s.start ≤ k && k < s.stop

/-- The characters of a line, the faulty ones painted as such. -/
def textRow (fault : Span) (line : Line) : Row :=
  line.shown.zipIdx.flatMap fun (c, col) =>
    let colour := if fault.contains (line.offset + col) then Colour.fault else Colour.text
    let (shown, width) := Line.cell c col
    List.replicate (if shown = ' ' then width else 1) ⟨some colour, [shown]⟩

/-- The left margin of the line with the number `n`, from 0, if numbers have `width` digits. -/
def lineMargin (width n : Nat) : Row :=
  let digits := Nat.toDigits 10 (n + 1)
  [.blank, ⟨some .frame, List.replicate (width - digits.length) ' ' ++ digits ++ [' ', '│']⟩,
    .blank]

/-- The left margin of a row that is no line, with the given bar. -/
def rowMargin (width : Nat) (bar : Char) : Row :=
  [.blank, ⟨some .dim, List.replicate (width + 1) ' ' ++ [bar]⟩, .blank]

/-- The rows that mark a fault within one line. -/
def inlineRows (width : Nat) (fault : Span) (label : List Char) (line : Line) : List Row :=
  let middle := (fault.start + fault.stop) / 2 - line.offset
  let stop := fault.stop - line.offset + 2
  let underline := cellsBelow line stop fun col =>
    let inside := fault.contains (line.offset + col)
    if col = middle then
      if inside then ⟨.faulty '┬', .faulty '─'⟩ else ⟨.faulty '│', .faulty ' '⟩
    else if inside then .all (.faulty '─')
    else .all .blank
  let arrow := cellsBelow line stop fun col =>
    if col = middle then ⟨.faulty '╰', .faulty '─'⟩
    else if middle < col then .all (.faulty '─')
    else .all .blank
  [rowMargin width '│' ++ underline, rowMargin width '│' ++ arrow ++ [.plain (' ' :: label)]]

/-- The rows of a fault within the line with the number `n`. -/
def inlineFault (width n : Nat) (fault : Span) (label : List Char) (line : Line) : List Row :=
  (lineMargin width n ++ textRow fault line) :: inlineRows width fault label line

/-- The first row of a fault that runs over several lines. -/
def firstRow (width n : Nat) (fault : Span) (line : Line) : Row :=
  lineMargin width n ++ [.faulty '╭', .faulty '─', .faulty '▶', .faulty ' '] ++ textRow fault line

/-- The row that stands for all lines between the first and the last one. -/
def gapRow (width : Nat) : Row := rowMargin width '┆' ++ [.faulty '┆', .blank, .blank, .blank]

/-- The last rows of a fault that runs over several lines. -/
def lastRows (width n : Nat) (fault : Span) (label : List Char) (line : Line) : List Row :=
  [ lineMargin width n ++ [.faulty '├', .faulty '─', .faulty '▶', .faulty ' '] ++
      textRow fault line,
    rowMargin width '│' ++ [.faulty '│', .blank, .blank, .blank] ++
      cellsBelow line (line.length + 2) (fun _ => .all .blank),
    rowMargin width '│' ++ [.faulty '╰', .faulty '─', .faulty '─', .faulty '─'] ++
      cellsBelow line (line.length + 2) (fun _ => .all (.faulty '─')) ++ [.plain (' ' :: label)] ]

/-- The rows between the frame of a report. -/
def bodyRows (width : Nat) (lines : List Line) (fault : Span) (label : List Char) : List Row :=
  let n := Line.numberAt lines fault.start
  let m := Line.numberAt lines (max (fault.stop - 1) fault.start)
  match lines[n]?, lines[m]? with
  | some first, some last =>
      if n = m then inlineFault width n fault label first
      else
        firstRow width n fault first :: (if n + 1 < m then [gapRow width] else []) ++
          lastRows width m fault label last
  | _, _ => []

/-- The rows of the report of a fault in a text. -/
def reportRows (text : String) (fault : Located Fault) : List Row :=
  let lines := Line.split 0 [] text.toList
  let n := Line.numberAt lines fault.span.start
  let m := Line.numberAt lines (max (fault.span.stop - 1) fault.span.start)
  let column := fault.span.start - ((lines[n]?.map (·.offset)).getD 0)
  let width := (Nat.toDigits 10 (m + 1)).length
  let indent := Paint.plain (List.replicate (width + 2) ' ')
  let place := s!"<unknown>:{n + 1}:{column + 1}"
  let frame (c : Char) : Paint := ⟨some .frame, [c]⟩
  [ [⟨some .fault, "Error:".toList⟩, .plain (' ' :: fault.item.message.toList)],
    [indent, frame '╭', frame '─', frame '[', .plain place.toList, frame ']'],
    [indent, frame '│'] ] ++
    bodyRows width lines fault.span fault.item.label.toList ++
    [ [⟨some .frame, List.replicate (width + 2) '─' ++ ['╯']⟩] ]

/-- The report of a query that could not be read. -/
def ParseError.report (e : ParseError) (coloured : Bool) : String :=
  String.ofList ((reportRows e.text e.fault).flatMap fun row =>
    row.flatMap (·.toChars coloured) ++ ['\n'])

end Cashbook.Query
