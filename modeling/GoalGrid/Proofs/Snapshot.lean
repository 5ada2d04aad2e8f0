import GoalGrid.Snapshot.Card
import GoalGrid.Proofs.Json.Compound
import GoalGrid.Proofs.Configurations
/-!
# Snapshots — decoding what was encoded

Each format reads back what it writes, from the compact and from the
pretty text (`decode_encode`). Reading checks configurations and items
once more, so this needs that they pass: the header of every
configuration that is ever made is in normal form and its FREE is on the
grid (`Config.Produced.valid`).
-/

namespace GoalGrid

/-! ## Values of the right extent

Numbers are written as they are and read when they fit a word. -/

/-- The number of the position fits a word. -/
def Position.FitsWord (p : Position) : Prop :=
  p.index < Text.wordLimit

instance (p : Position) : Decidable p.FitsWord :=
  inferInstanceAs (Decidable (p.index < Text.wordLimit))

/-- The number of the item in the cell fits a word. -/
def Cell.FitsWord : Cell → Prop
  | .empty | .free => True
  | .item n => n < Text.wordLimit

/-- The item may be saved: it has a text, and its position fits a word. -/
structure Item.Proper (item : Item) : Prop where
  position : item.position.FitsWord
  notBlank : Text.isBlankText item.content = false

/-- Both positions fit a word. -/
structure Displacement.Proper (d : Displacement) : Prop where
  source : d.source.FitsWord
  target : d.target.FitsWord

/-- The card may be saved: its configuration has been made by the library
and its items may be saved. How they lie on the grid does not matter. -/
structure Card.Proper (card : Card) : Prop where
  config : card.config.Produced
  items : ∀ item ∈ card.items, item.Proper

/-- The card and the displacement may be saved. -/
structure Change.Proper (change : Change) : Prop where
  card : change.card.Proper
  displaced : ∀ d ∈ change.displaced, d.Proper

theorem GridSize.fitsWord_of_contains {size : GridSize} {p : Position}
    (h : size.contains p = true) : p.FitsWord := by
  have hp : p.index < size.total := by simpa [contains] using h
  have hsize : size.total < Text.wordLimit := by cases size <;> decide
  exact Nat.lt_trans hp hsize

namespace Snapshot

open Json (Reads Written)

variable {α ρ : Type} {fmt : Format α} {x : α}

/-! ## Formats -/

/-- What the format writes for `x` is read as `x`. -/
def Format.Restores (fmt : Format α) (x : α) : Prop :=
  Reads fmt.read (fmt.write x) x

namespace Format.Restores

theorem compact (h : fmt.Restores x) : fmt.decode (fmt.compact x) = .ok x :=
  h.readAll (Json.written_compactText _)

theorem pretty (h : fmt.Restores x) : fmt.decode (fmt.pretty x) = .ok x :=
  h.readAll (Json.written_prettyText 0 _)

theorem list {xs : List α} (h : ∀ x ∈ xs, fmt.Restores x) : fmt.list.Restores xs :=
  Json.reads_readList h

/-- A value that may be absent is restored when it is not written as null. -/
theorem optional {x : Option α} (h : ∀ y ∈ x, fmt.Restores y ∧ fmt.write y ≠ .null) :
    fmt.optional.Restores x := by
  cases x with
  | none => exact Json.reads_readOptional_null fmt.read
  | some y => exact (h y rfl).1.readOptional (h y rfl).2

/-- A value that is restored can be put into another one, such as the parts
of a record. -/
theorem put (h : fmt.Restores x) {put : α → ρ} :
    Reads (fun cs => do let (x, rest) ← fmt.read cs; return (put x, rest)) (fmt.write x)
      (put x) := by
  intro gap cs rest hgap hcs hrest
  simp only [h gap cs rest hgap hcs hrest, bind, Except.bind, pure, Except.pure]

/-- A field is filled with what its format restores, … -/
theorem fill (h : fmt.Restores x) {name : String} {get : ρ → Option α} {put : ρ → α → ρ}
    {parts : ρ} : Reads ((fmt.field name get put).fill parts) (fmt.write x) (put parts x) :=
  h.put

/-- … and so is a field that may be left out. -/
theorem fillOptional (h : fmt.Restores x) {name : String} {get : ρ → Option α} {put : ρ → α → ρ}
    {parts : ρ} : Reads ({ fmt.field name get put with isOptional := true }.fill parts)
      (fmt.write x) (put parts x) :=
  h.put

end Format.Restores

theorem restores_text (s : String) : text.Restores s :=
  Json.reads_readText s

theorem restores_flag (b : Bool) : flag.Restores b :=
  Json.reads_readBool b

theorem restores_count {n : Nat} (h : n < Text.wordLimit) : count.Restores n :=
  Json.reads_readBelow (Nat.le_refl _) h

/-! ## Positions, sizes and names -/

theorem restores_position {p : Position} (h : p.FitsWord) : position.Restores p :=
  (restores_count h).put

theorem restores_gridSize (size : GridSize) : gridSize.Restores size := by
  have hlimit : size.side < 256 := by cases size <;> decide
  intro gap cs rest hgap hcs hrest
  have hread := Json.reads_readBelow (by decide) hlimit gap cs rest hgap hcs hrest
  simp only [gridSize, hread, bind, Except.bind]
  cases size <;> rfl

theorem restores_freeSpace {free : Option Position} (h : ∀ p ∈ free, p.FitsWord) :
    freeSpace.Restores free := by
  cases free with
  | none => exact Json.reads_unit rfl
  | some p => exact (restores_position (h p rfl)).put.over rfl

theorem restores_phase (p : Phase) : phase.Restores p := by
  cases p <;> exact Json.reads_unit rfl

theorem restores_lineKind (kind : LineKind) : lineKind.Restores kind := by
  cases kind <;> exact Json.reads_unit rfl

theorem restores_cell {c : Cell} (h : c.FitsWord) : cell.Restores c := by
  cases c with
  | empty => exact Json.reads_unit rfl
  | free => exact Json.reads_unit rfl
  | item n => exact (restores_count h).put.over rfl

/-! ## Records -/

theorem restores_line {l : Line} (h : l.index < Text.wordLimit) : line.Restores l :=
  Json.Shape.Makes.reads ⟨_, .cons rfl rfl (restores_lineKind l.kind).fill <|
    .cons rfl rfl (restores_count h).fill <| .nil _, rfl⟩

theorem restores_item {i : Item} (h : i.Proper) : item.Restores i := by
  refine Json.Shape.Makes.reads ⟨_, .cons rfl rfl (restores_position h.position).fill <|
    .cons rfl rfl (restores_text i.content).fill <|
    .cons rfl rfl (restores_flag i.completed).fillOptional <| .nil _, ?_⟩
  show checked i.checked = .ok i
  rw [Item.checked_eq_ok_iff.2 ⟨h.notBlank, rfl⟩]
  rfl

theorem restores_displacement {d : Displacement} (h : d.Proper) : displacement.Restores d :=
  Json.Shape.Makes.reads ⟨_, .cons rfl rfl (restores_text d.content).fill <|
    .cons rfl rfl (restores_position h.source).fill <|
    .cons rfl rfl (restores_position h.target).fill <| .nil _, rfl⟩

theorem restores_config {c : Config} (h : c.Valid) : config.Restores c := by
  have hfree : ∀ p ∈ c.free, p.FitsWord := fun p hp => GridSize.fitsWord_of_contains (h.free p hp)
  -- the configuration is made anew of the parts that are read
  refine Json.Shape.Makes.reads ⟨_, .cons rfl rfl (restores_gridSize c.size).fill <|
    .cons rfl rfl (restores_text c.header).fill <|
    .cons rfl rfl (restores_freeSpace hfree).fill <|
    .cons rfl rfl (restores_phase c.phase).fillOptional <| .nil _, ?_⟩
  simp [configShape, Json.required, bind, Except.bind, h.ofParts, checked, Except.mapError]

theorem restores_card {c : Card} (h : c.Proper) : card.Restores c :=
  Json.Shape.Makes.reads ⟨_, .cons rfl rfl (restores_config h.config.valid).fill <|
    .cons rfl rfl (Format.Restores.list fun i hi => restores_item (h.items i hi)).fillOptional <|
    .nil _, rfl⟩

theorem restores_layout {c : Card} (h : c.Proper) : layout.Restores c :=
  Json.Shape.Makes.reads ⟨_, .cons rfl rfl (restores_config h.config.valid).fill <|
    .cons rfl rfl (Format.Restores.list fun i hi => restores_item (h.items i hi)).fill <| .nil _,
    rfl⟩

theorem restores_change {c : Change} (h : c.Proper) : change.Restores c := by
  have hdisplaced : displacement.optional.Restores c.displaced :=
    Format.Restores.optional fun d hd => ⟨restores_displacement (h.displaced d hd), nofun⟩
  exact Json.Shape.Makes.reads ⟨_, .cons rfl rfl (restores_config h.card.config.valid).fill <|
    .cons rfl rfl (Format.Restores.list fun i hi => restores_item (h.card.items i hi)).fill <|
    .cons rfl rfl hdisplaced.fill <| .nil _, rfl⟩

theorem restores_cardCopy {c : CardCopy} (h : c.card.Proper) : cardCopy.Restores c :=
  Json.Shape.Makes.reads ⟨_, .cons rfl rfl (restores_config h.config.valid).fill <|
    .cons rfl rfl (Format.Restores.list fun i hi => restores_item (h.items i hi)).fill <|
    .cons rfl rfl (restores_flag c.truncated).fill <| .nil _, rfl⟩

/-! ## All kinds of values -/

/-- The kinds of values that have a format of their own. -/
inductive Kind where
  | card
  | config
  | item
  | position
  | gridSize
  | freeSpace
  | phase
  | lineKind
  | line
  | cell
  | displacement
  | change
  | layout
  | cardCopy

namespace Kind

/-- The values of a kind. -/
abbrev Value : Kind → Type
  | card | layout => Card
  | config => Config
  | item => Item
  | position => Position
  | gridSize => GridSize
  | freeSpace => Option Position
  | phase => Phase
  | lineKind => LineKind
  | line => Line
  | cell => Cell
  | displacement => Displacement
  | change => Change
  | cardCopy => CardCopy

/-- The format of a kind. -/
def format : (kind : Kind) → Format kind.Value
  | card => Snapshot.card
  | config => Snapshot.config
  | item => Snapshot.item
  | position => Snapshot.position
  | gridSize => Snapshot.gridSize
  | freeSpace => Snapshot.freeSpace
  | phase => Snapshot.phase
  | lineKind => Snapshot.lineKind
  | line => Snapshot.line
  | cell => Snapshot.cell
  | displacement => Snapshot.displacement
  | change => Snapshot.change
  | layout => Snapshot.layout
  | cardCopy => Snapshot.cardCopy

/-- What the values of a kind have to be: numbers fit a word, items have a
text, and configurations have been made by the library. -/
def Proper : (kind : Kind) → kind.Value → Prop
  | card, c | layout, c => Card.Proper c
  | config, c => Config.Produced c
  | item, i => Item.Proper i
  | position, p => Position.FitsWord p
  | freeSpace, free => ∀ p ∈ free, Position.FitsWord p
  | line, l => Line.index l < Text.wordLimit
  | cell, c => Cell.FitsWord c
  | displacement, d => Displacement.Proper d
  | change, c => Change.Proper c
  | cardCopy, c => Card.Proper (CardCopy.card c)
  | gridSize, _ | phase, _ | lineKind, _ => True

theorem restores : (kind : Kind) → {x : kind.Value} → kind.Proper x → kind.format.Restores x
  | card, _, h => restores_card h
  | config, _, h => restores_config (Config.Produced.valid h)
  | item, _, h => restores_item h
  | position, _, h => restores_position h
  | gridSize, size, _ => restores_gridSize size
  | freeSpace, _, h => restores_freeSpace h
  | phase, p, _ => restores_phase p
  | lineKind, kind, _ => restores_lineKind kind
  | line, _, h => restores_line h
  | cell, _, h => restores_cell h
  | displacement, _, h => restores_displacement h
  | change, _, h => restores_change h
  | layout, _, h => restores_layout h
  | cardCopy, _, h => restores_cardCopy h

end Kind

/-- **Decoding undoes encoding**: of every kind, what is read from the
compact text of a value and from its pretty text is the value. -/
theorem decode_encode (kind : Kind) (x : kind.Value) (hx : kind.Proper x) :
    kind.format.decode (kind.format.compact x) = .ok x ∧
      kind.format.decode (kind.format.pretty x) = .ok x :=
  ⟨(kind.restores hx).compact, (kind.restores hx).pretty⟩

/-- A card with two items in one cell off its grid, with quotes, a
backslash, a control character and a character of four bytes. -/
theorem decode_encode_escapes :
    let saved : Card := ⟨⟨.two, "S\"", some ⟨3⟩, .finalized⟩,
      [⟨⟨9⟩, "a\\\"b\n\x01 𝄞", true⟩, ⟨⟨9⟩, "ß", false⟩]⟩
    card.decode (card.compact saved) = .ok saved ∧ card.decode (card.pretty saved) = .ok saved := by
  intro saved
  have hconfig : Config.ofParts .two " s\" " (some ⟨3⟩) .finalized = .ok saved.config := by
    decide +kernel
  have hitems : ∀ item ∈ saved.items, item.Proper := by
    intro item hitem
    simp only [saved, List.mem_cons, List.not_mem_nil, or_false] at hitem
    rcases hitem with rfl | rfl
    · exact ⟨by decide +kernel, by decide +kernel⟩
    · exact ⟨by decide +kernel, by decide +kernel⟩
  exact decode_encode .card saved ⟨.ofParts hconfig, hitems⟩

end Snapshot

end GoalGrid
