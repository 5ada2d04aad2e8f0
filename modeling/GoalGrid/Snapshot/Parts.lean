import GoalGrid.Snapshot.Format
import GoalGrid.Card.Free
import GoalGrid.Grid.Line
/-!
# Snapshots — positions, sizes, lines, cells and items

The formats of what configurations and cards are made of.
-/

namespace GoalGrid.Snapshot

open GoalGrid.Json (Reader Shape Variant required readRecord readVariant)

/-! ## Positions, sizes and names -/

/-- A position is written as its number. -/
def position : Format Position where
  read cs := do
    let (n, rest) ← count.read cs
    return (⟨n⟩, rest)
  write p := .number p.index

/-- A size is written as its side length; the number has to fit a byte. -/
def gridSize : Format GridSize where
  read cs := do
    let (n, rest) ← Json.readBelow 256 cs
    return (← checked (GridSize.ofSide n), rest)
  write size := .number size.side

/-- The FREE cell: `disabled`, or `enabled` over a position. -/
def freeSpace : Format (Option Position) where
  read := readVariant [.unit "disabled" none, .over "enabled" fun cs => do
    let (p, rest) ← position.read cs
    return (some p, rest)]
  write
    | none => .string "disabled"
    | some p => .object [("enabled", position.write p)]

/-- A phase is written as its name. -/
def phase : Format Phase where
  read := readVariant [.unit "draft" .draft, .unit "finalized" .finalized]
  write phase := .string phase.name

/-- The direction of a line is written as its name. -/
def lineKind : Format LineKind where
  read := readVariant [.unit "row" .row, .unit "column" .column, .unit "diagonal" .diagonal]
  write kind := .string kind.name

/-- A cell: `Empty`, `Free`, or `Item` over the number of the item. -/
def cell : Format Cell where
  read := readVariant [.unit "Empty" .empty, .unit "Free" .free, .over "Item" fun cs => do
    let (n, rest) ← count.read cs
    return (.item n, rest)]
  write
    | .empty => .string "Empty"
    | .free => .string "Free"
    | .item n => .object [("Item", count.write n)]

/-! ## Lines -/

/-- The parts of a line as they are gathered. -/
structure LineParts where
  kind : Option LineKind := none
  index : Option Nat := none

/-- The fields of a line. -/
def lineShape : Shape LineParts Line where
  fields := [
    lineKind.field "kind" LineParts.kind fun parts x => { parts with kind := some x },
    count.field "index" LineParts.index fun parts x => { parts with index := some x }]
  start := {}
  finish parts := do
    let kind ← required "kind" parts.kind
    let index ← required "index" parts.index
    return { kind, index }

/-- A line: its direction and its number. -/
def line : Format Line where
  read := readRecord lineShape
  write line := .object [("kind", lineKind.write line.kind), ("index", count.write line.index)]

/-! ## Items -/

/-- The parts of an item as they are gathered. -/
structure ItemParts where
  position : Option Position := none
  content : Option String := none
  completed : Option Bool := none

/-- The fields of an item; one that is not marked is not completed, and its
text must not be blank. -/
def itemShape : Shape ItemParts Item where
  fields := [
    position.field "position" ItemParts.position fun parts x => { parts with position := some x },
    text.field "content" ItemParts.content fun parts x => { parts with content := some x },
    { flag.field "is_completed" ItemParts.completed
        fun parts x => { parts with completed := some x }
      with isOptional := true }]
  start := {}
  finish parts := do
    let position ← required "position" parts.position
    let content ← required "content" parts.content
    checked (Item.checked { position, content, completed := parts.completed.getD false })

/-- An item: its position, its text and its mark. -/
def item : Format Item where
  read := readRecord itemShape
  write item := .object [("position", position.write item.position),
    ("content", text.write item.content), ("is_completed", flag.write item.completed)]

/-! ## Displacements -/

/-- The parts of a displacement as they are gathered. -/
structure DisplacementParts where
  content : Option String := none
  source : Option Position := none
  target : Option Position := none

/-- The fields of a displacement. -/
def displacementShape : Shape DisplacementParts Displacement where
  fields := [
    text.field "content" DisplacementParts.content fun parts x => { parts with content := some x },
    position.field "from" DisplacementParts.source fun parts x => { parts with source := some x },
    position.field "to" DisplacementParts.target fun parts x => { parts with target := some x }]
  start := {}
  finish parts := do
    let content ← required "content" parts.content
    let source ← required "from" parts.source
    let target ← required "to" parts.target
    return { content, source, target }

/-- A displacement: the text of the item and the two cells. -/
def displacement : Format Displacement where
  read := readRecord displacementShape
  write d := .object [("content", text.write d.content), ("from", position.write d.source),
    ("to", position.write d.target)]

end GoalGrid.Snapshot
