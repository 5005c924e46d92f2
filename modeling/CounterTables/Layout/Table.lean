import CounterTables.Layout.Line
import CounterTables.Text.Blank

/-!
# Tables

A product's table has four sections, each with a comment that names it, one line
per record, and an empty line at its end. Every part of the output is a list of
lines; a line that is `none` could not be laid out, and output ends before it.

## Main definitions

* `licenseLines`, `locationLines`, `aliasLines`, `productLines`,
  `architectureLines`.
* `piecesOf`, `textOf`, `render` — the pieces and the text of a list of lines.

## Main statements

* `eventLine_mem_productLines`, `metricLine_mem_productLines`,
  `groupLine_mem_productLines` — every record has its line among those of its
  product.
-/

namespace CounterTables.Layout

open CounterTables.Text (splitLines)

/-- Lines of output, each with its line end. -/
abbrev Lines := List (Option Line)

/-- Whether all lines can be laid out. -/
def areLaidOut (lines : Lines) : Bool :=
  lines.all Option.isSome

/-- The pieces of the lines before the first that cannot be laid out. -/
def piecesOf (lines : Lines) : List String :=
  (lines.takeWhile Option.isSome).flatMap fun line => line.getD []

/-- The text of the lines before the first that cannot be laid out. -/
def textOf (lines : Lines) : String :=
  String.join (piecesOf lines)

/-- The text of all lines; `none` if one of them cannot be laid out. -/
def render (lines : Lines) : Option String :=
  if areLaidOut lines then some (textOf lines) else none

/-- Lines that can be laid out are written in all their pieces. -/
theorem piecesOf_map_some (lines : List Line) :
    piecesOf (lines.map some) = lines.flatten := by
  induction lines with
  | nil => rfl
  | cons line rest ih => simpa [piecesOf] using ih

/-! ## Comments -/

def comment (text : String) : Option Line :=
  some ["// ", text, "\n"]

def emptyLine : Option Line :=
  some ["\n"]

/-- A line of the licence as a comment; an empty one is a bare comment mark. -/
def licenseLine (line : List Char) : Option Line :=
  if line.isEmpty then some ["//\n"] else comment (String.ofList line)

/-- The lines of the licence as comments, and an empty line. -/
def licenseLines (text : String) : Lines :=
  (splitLines text.toList).map licenseLine ++ [emptyLine]

/-- Where a product comes from. -/
def locationLines (location : String) : Lines :=
  [comment location]

def aliasLines (product target : String) : Lines :=
  [some (aliasLine product target), emptyLine]

/-! ## Products -/

/-- A section: its title, its lines, and an empty line. -/
def sectionLines (title product : String) (lines : Lines) : Lines :=
  comment (title ++ " for: " ++ product) :: lines ++ [emptyLine]

/-- The names of the configuration's columns, and the configuration. -/
def configLines (config : Configuration) : Lines :=
  [comment (",".intercalate ("name" :: config.keys)), some (configLine config)]

/-- The four sections of a product. -/
def productLines (tables : ProductTables) : Lines :=
  let widths := Widths.measure tables
  let product := tables.product
  sectionLines "Product configuration" product (tables.config.elim [] configLines)
    ++ sectionLines "Events" product
      (tables.events.map (eventLine product widths.events))
    ++ sectionLines "Metrics" product
      (tables.metrics.map (metricLine product widths.metrics))
    ++ sectionLines "Metric Groups" product
      (tables.groups.map (groupLine product widths.groups))

theorem eventLine_mem_productLines {tables : ProductTables} {event : Event}
    (h : event ∈ tables.events) :
    eventLine tables.product (Widths.measure tables).events event ∈
      productLines tables := by
  simp only [productLines, sectionLines, List.mem_append, List.mem_cons]
  exact .inl (.inl (.inr (.inl (.inr (List.mem_map_of_mem h)))))

theorem metricLine_mem_productLines {tables : ProductTables} {metric : Metric}
    (h : metric ∈ tables.metrics) :
    metricLine tables.product (Widths.measure tables).metrics metric ∈
      productLines tables := by
  simp only [productLines, sectionLines, List.mem_append, List.mem_cons]
  exact .inl (.inr (.inl (.inr (List.mem_map_of_mem h))))

theorem groupLine_mem_productLines {tables : ProductTables} {group : MetricGroup}
    (h : group ∈ tables.groups) :
    groupLine tables.product (Widths.measure tables).groups group ∈
      productLines tables := by
  simp only [productLines, sectionLines, List.mem_append, List.mem_cons]
  exact .inr (.inl (.inr (List.mem_map_of_mem h)))

/-! ## Architecture -/

def architectureLines (events : List Event) : Lines :=
  events.map architectureLine

end CounterTables.Layout
