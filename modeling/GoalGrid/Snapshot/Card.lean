import GoalGrid.Snapshot.Parts
import GoalGrid.Card.Copy
/-!
# Snapshots — configurations and cards

The formats of configurations, of cards, and of what edits and copies
give. A configuration is checked as it is read, and its header comes out
in normal form; the items of a card are not compared with its grid.
-/

namespace GoalGrid.Snapshot

open GoalGrid.Json (Shape required readRecord)

/-! ## Configurations -/

/-- The parts of a configuration as they are gathered. -/
structure ConfigParts where
  size : Option GridSize := none
  header : Option String := none
  free : Option (Option Position) := none
  phase : Option Phase := none

/-- The fields of a configuration; without a phase it is a draft. -/
def configShape : Shape ConfigParts Config where
  fields := [
    gridSize.field "grid_size" ConfigParts.size fun parts x => { parts with size := some x },
    text.field "header_text" ConfigParts.header fun parts x => { parts with header := some x },
    freeSpace.field "free_space" ConfigParts.free fun parts x => { parts with free := some x },
    { phase.field "phase" ConfigParts.phase fun parts x => { parts with phase := some x }
      with isOptional := true }]
  start := {}
  finish parts := do
    let size ← required "grid_size" parts.size
    let header ← required "header_text" parts.header
    let free ← required "free_space" parts.free
    checked (Config.ofParts size header free (parts.phase.getD .draft))

/-- A configuration: size, header, FREE and phase. -/
def config : Format Config where
  read := readRecord configShape
  write c := .object [("grid_size", gridSize.write c.size), ("header_text", text.write c.header),
    ("free_space", freeSpace.write c.free), ("phase", phase.write c.phase)]

/-! ## Cards -/

/-- The parts of a card, of a change or of a copy as they are gathered. -/
structure CardParts where
  config : Option Config := none
  items : Option (List Item) := none
  displaced : Option (Option Displacement) := none
  truncated : Option Bool := none

/-- The field with the configuration. -/
def configField : Json.Field CardParts :=
  config.field "config" CardParts.config fun parts x => { parts with config := some x }

/-- The field with the items. -/
def itemsField : Json.Field CardParts :=
  item.list.field "items" CardParts.items fun parts x => { parts with items := some x }

/-- The members that every record with a card begins with. -/
def cardMembers (c : Card) : List (String × Json) :=
  [("config", config.write c.config), ("items", item.list.write c.items)]

/-- The card that the parts hold; its items have to be given. -/
def cardOfParts (parts : CardParts) : Except Json.Error Card := do
  let config ← required "config" parts.config
  let items ← required "items" parts.items
  return { config, items }

/-- A saved card; one without items may leave them out. -/
def card : Format Card where
  read := readRecord {
    fields := [configField, { itemsField with isOptional := true }]
    start := {}
    finish := fun parts => cardOfParts { parts with items := some (parts.items.getD []) } }
  write c := .object (cardMembers c)

/-- A card after a change of layout, with its items. -/
def layout : Format Card where
  read := readRecord {
    fields := [configField, itemsField]
    start := {}
    finish := cardOfParts }
  write c := .object (cardMembers c)

/-- A card after an edit of FREE, with the item that gave way; an object may
leave that out. -/
def change : Format Change where
  read := readRecord {
    fields := [configField, itemsField,
      displacement.optional.field "displaced" CardParts.displaced
        fun parts x => { parts with displaced := some x }]
    start := {}
    finish := fun parts => do
      let card ← cardOfParts parts
      return { card, displaced := parts.displaced.getD none } }
  write c :=
    .object (cardMembers c.card ++ [("displaced", displacement.optional.write c.displaced)])

/-- A copy of a card, and whether goals were left out. -/
def cardCopy : Format CardCopy where
  read := readRecord {
    fields := [configField, itemsField,
      flag.field "truncated" CardParts.truncated fun parts x => { parts with truncated := some x }]
    start := {}
    finish := fun parts => do
      let card ← cardOfParts parts
      let truncated ← required "truncated" parts.truncated
      return { card, truncated } }
  write c := .object (cardMembers c.card ++ [("truncated", flag.write c.truncated)])

end GoalGrid.Snapshot
