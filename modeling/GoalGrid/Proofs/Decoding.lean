import GoalGrid.Proofs.Json.Gives
import GoalGrid.Proofs.Snapshot
/-!
# Decoding — what a text can stand for

A text may have been written by anyone. Whatever it is, a value that is
decoded from it could have been encoded: its configuration is made as it
is read, of the parts that the text gives, its items are checked for a
text, and its numbers fit a word (`proper_of_decode`). So encoding such a
value and decoding it again gives the value back (`decoded_is_normal`).
-/

namespace GoalGrid

namespace Snapshot

open Json (gives_of_forall gives_readBelow gives_readRecord gives_readVariant required)

variable {α ρ : Type} {fmt : Format α} {P : α → Prop}

/-! ## Formats -/

/-- Whatever is decoded has the property. -/
def Format.Gives (fmt : Format α) (P : α → Prop) : Prop :=
  Json.Gives fmt.read P

/-- A field keeps an invariant of the parts when every value of it does. -/
theorem Format.Gives.fill (h : fmt.Gives P) {name : String} {get : ρ → Option α} {put : ρ → α → ρ}
    {I : ρ → Prop} {parts : ρ} (hput : ∀ x, P x → I (put parts x)) :
    Json.Gives ((fmt.field name get put).fill parts) I :=
  h.put hput

theorem forall_mem_some {x : α} (h : P x) : ∀ y ∈ some x, P y :=
  fun _ hy => Option.mem_some.1 hy ▸ h

theorem required_eq_ok_iff {name : String} {part : Option α} {x : α} :
    required name part = .ok x ↔ part = some x := by
  cases part <;> simp [required]

theorem checked_eq_ok_iff {result : Except CardError α} {x : α} :
    checked result = .ok x ↔ result = .ok x := by
  cases result <;> simp [checked, Except.mapError]

/-! ## Values without parts -/

theorem gives_count : count.Gives (· < Text.wordLimit) :=
  gives_readBelow _

theorem gives_position : position.Gives Position.FitsWord :=
  gives_count.put fun _ hn => hn

theorem gives_freeSpace : freeSpace.Gives fun free => ∀ p ∈ free, p.FitsWord := by
  refine gives_readVariant (List.forall_mem_cons.2 ⟨nofun, List.forall_mem_singleton.2 ?_⟩)
  exact gives_position.put fun p hp => forall_mem_some hp

theorem gives_cell : cell.Gives Cell.FitsWord :=
  gives_readVariant <| List.forall_mem_cons.2 ⟨trivial, List.forall_mem_cons.2 ⟨trivial,
    List.forall_mem_singleton.2 (gives_count.put fun _ hn => hn)⟩⟩

/-! ## Records -/

/-- A field of which the invariant says nothing. -/
theorem Format.fill_keeps {name : String} {get : ρ → Option α} {put : ρ → α → ρ} {I : ρ → Prop}
    {parts : ρ} (hput : ∀ x, I (put parts x)) :
    Json.Gives ((fmt.field name get put).fill parts) I :=
  Gives.fill (gives_of_forall fun _ => trivial) fun x (_ : True) => hput x

theorem gives_line : line.Gives fun l => l.index < Text.wordLimit := by
  refine gives_readRecord (I := fun parts => ∀ n ∈ parts.index, n < Text.wordLimit) nofun ?_ ?_
  · simp only [lineShape, List.forall_mem_cons]
    refine ⟨fun parts h => Format.fill_keeps fun _ => h, fun parts h => ?_, nofun⟩
    exact gives_count.fill fun n hn => forall_mem_some hn
  · intro parts l hparts hfinish
    obtain ⟨kind, -, hfinish⟩ := bind_eq_ok_iff.1 hfinish
    obtain ⟨index, hindex, hfinish⟩ := bind_eq_ok_iff.1 hfinish
    obtain rfl := return_eq_ok_iff.1 hfinish
    exact hparts index (required_eq_ok_iff.1 hindex)

theorem gives_item : item.Gives Item.Proper := by
  refine gives_readRecord (I := fun parts => ∀ p ∈ parts.position, p.FitsWord) nofun ?_ ?_
  · simp only [itemShape, List.forall_mem_cons]
    refine ⟨fun parts h => ?_, fun parts h => Format.fill_keeps fun _ => h,
      fun parts h => Format.fill_keeps fun _ => h, nofun⟩
    exact gives_position.fill fun p hp => forall_mem_some hp
  · intro parts i hparts hfinish
    obtain ⟨p, hp, hfinish⟩ := bind_eq_ok_iff.1 hfinish
    obtain ⟨content, -, hfinish⟩ := bind_eq_ok_iff.1 hfinish
    obtain ⟨hblank, rfl⟩ := Item.checked_eq_ok_iff.1 (checked_eq_ok_iff.1 hfinish)
    exact ⟨hparts p (required_eq_ok_iff.1 hp), hblank⟩

theorem gives_displacement : displacement.Gives Displacement.Proper := by
  refine gives_readRecord (I := fun parts =>
    (∀ p ∈ parts.source, p.FitsWord) ∧ ∀ p ∈ parts.target, p.FitsWord) ⟨nofun, nofun⟩ ?_ ?_
  · simp only [displacementShape, List.forall_mem_cons]
    refine ⟨fun parts h => Format.fill_keeps fun _ => h, fun parts h => ?_, fun parts h => ?_, nofun⟩
    · exact gives_position.fill fun p hp => ⟨forall_mem_some hp, h.2⟩
    · exact gives_position.fill fun p hp => ⟨h.1, forall_mem_some hp⟩
  · intro parts d hparts hfinish
    obtain ⟨content, -, hfinish⟩ := bind_eq_ok_iff.1 hfinish
    obtain ⟨source, hsource, hfinish⟩ := bind_eq_ok_iff.1 hfinish
    obtain ⟨target, htarget, hfinish⟩ := bind_eq_ok_iff.1 hfinish
    obtain rfl := return_eq_ok_iff.1 hfinish
    exact ⟨hparts.1 source (required_eq_ok_iff.1 hsource),
      hparts.2 target (required_eq_ok_iff.1 htarget)⟩

/-- **A configuration is made as it is read**, whatever its parts are. -/
theorem gives_config : config.Gives Config.Produced := by
  refine gives_readRecord (I := fun _ => True) trivial
    (fun field _ parts _ => gives_of_forall fun _ => trivial) fun parts c _ hfinish => ?_
  obtain ⟨size, -, hfinish⟩ := bind_eq_ok_iff.1 hfinish
  obtain ⟨header, -, hfinish⟩ := bind_eq_ok_iff.1 hfinish
  obtain ⟨free, -, hfinish⟩ := bind_eq_ok_iff.1 hfinish
  exact .ofParts (checked_eq_ok_iff.1 hfinish)

/-! ## Cards -/

/-- The parts of a card that are there may be saved. -/
structure CardParts.Proper (parts : CardParts) : Prop where
  config : ∀ c ∈ parts.config, c.Produced
  items : ∀ items ∈ parts.items, ∀ i ∈ items, i.Proper
  displaced : ∀ displaced ∈ parts.displaced, ∀ d ∈ displaced, d.Proper

theorem properParts_start : CardParts.Proper {} :=
  ⟨nofun, nofun, nofun⟩

theorem gives_configField (parts : CardParts) (h : parts.Proper) :
    Json.Gives (configField.fill parts) CardParts.Proper :=
  gives_config.fill fun _ hc => ⟨forall_mem_some hc, h.items, h.displaced⟩

theorem gives_itemsField (parts : CardParts) (h : parts.Proper) :
    Json.Gives (itemsField.fill parts) CardParts.Proper := by
  have hlist : item.list.Gives fun items => ∀ i ∈ items, i.Proper := Json.Gives.readList gives_item
  exact hlist.fill fun _ hitems => ⟨h.config, forall_mem_some hitems, h.displaced⟩

theorem proper_of_cardOfParts {parts : CardParts} {c : Card} (h : parts.Proper)
    (hcard : cardOfParts parts = .ok c) : c.Proper := by
  obtain ⟨config, hconfig, hcard⟩ := bind_eq_ok_iff.1 hcard
  obtain ⟨items, hitems, hcard⟩ := bind_eq_ok_iff.1 hcard
  obtain rfl := return_eq_ok_iff.1 hcard
  exact ⟨h.config config (required_eq_ok_iff.1 hconfig),
    h.items items (required_eq_ok_iff.1 hitems)⟩

theorem gives_card : card.Gives Card.Proper := by
  refine gives_readRecord properParts_start ?_ fun parts c h hcard => ?_
  · simp only [List.forall_mem_cons]
    exact ⟨gives_configField, gives_itemsField, nofun⟩
  · -- without items, it is a card with none
    have hitems : ∀ i ∈ parts.items.getD [], i.Proper := by
      cases hitems : parts.items with
      | none => exact nofun
      | some items => exact h.items items hitems
    have hparts : CardParts.Proper { parts with items := some (parts.items.getD []) } :=
      ⟨h.config, forall_mem_some hitems, h.displaced⟩
    exact proper_of_cardOfParts hparts hcard

theorem gives_layout : layout.Gives Card.Proper := by
  refine gives_readRecord properParts_start ?_ fun parts c h => proper_of_cardOfParts h
  simp only [List.forall_mem_cons]
  exact ⟨gives_configField, gives_itemsField, nofun⟩

theorem gives_change : change.Gives Change.Proper := by
  refine gives_readRecord properParts_start ?_ fun parts c h hfinish => ?_
  · have hoptional : displacement.optional.Gives fun displaced => ∀ d ∈ displaced, d.Proper :=
      Json.Gives.readOptional gives_displacement
    simp only [List.forall_mem_cons]
    exact ⟨gives_configField, gives_itemsField,
      fun parts h => hoptional.fill fun _ hd => ⟨h.config, h.items, forall_mem_some hd⟩, nofun⟩
  · obtain ⟨card, hcard, hfinish⟩ := bind_eq_ok_iff.1 hfinish
    obtain rfl := return_eq_ok_iff.1 hfinish
    refine ⟨proper_of_cardOfParts h hcard, ?_⟩
    cases hdisplaced : parts.displaced with
    | none => exact nofun
    | some displaced => exact h.displaced displaced hdisplaced

theorem gives_cardCopy : cardCopy.Gives fun c => c.card.Proper := by
  refine gives_readRecord properParts_start ?_ fun parts c h hfinish => ?_
  · simp only [List.forall_mem_cons]
    exact ⟨gives_configField, gives_itemsField,
      fun parts h => Format.fill_keeps fun _ => ⟨h.config, h.items, h.displaced⟩, nofun⟩
  · obtain ⟨card, hcard, hfinish⟩ := bind_eq_ok_iff.1 hfinish
    obtain ⟨truncated, -, hfinish⟩ := bind_eq_ok_iff.1 hfinish
    obtain rfl := return_eq_ok_iff.1 hfinish
    exact proper_of_cardOfParts h hcard

/-! ## All kinds of values -/

namespace Kind

theorem gives : (kind : Kind) → kind.format.Gives kind.Proper
  | card => gives_card
  | config => gives_config
  | item => gives_item
  | position => gives_position
  | freeSpace => gives_freeSpace
  | line => gives_line
  | cell => gives_cell
  | displacement => gives_displacement
  | change => gives_change
  | layout => gives_layout
  | cardCopy => gives_cardCopy
  | gridSize | phase | lineKind => gives_of_forall fun _ => trivial

/-- The configuration that a value has in it. -/
def configs : (kind : Kind) → kind.Value → List Config
  | config, c => [c]
  | card, c | layout, c => [Card.config c]
  | change, c => [(Change.card c).config]
  | cardCopy, c => [(CardCopy.card c).config]
  | _, _ => []

/-- The items that a value has in it. -/
def items : (kind : Kind) → kind.Value → List Item
  | item, i => [i]
  | card, c | layout, c => Card.items c
  | change, c => (Change.card c).items
  | cardCopy, c => (CardCopy.card c).items
  | _, _ => []

end Kind

/-- **What is decoded could have been encoded**: of every kind, a value that
a text stands for is what the values of that kind have to be. -/
theorem proper_of_decode {kind : Kind} {text : String} {x : kind.Value}
    (h : kind.format.decode text = .ok x) : kind.Proper x :=
  kind.gives.readAll h

theorem Kind.produced_of_mem_configs {kind : Kind} {x : kind.Value} (h : kind.Proper x) :
    ∀ c ∈ kind.configs x, c.Produced := by
  cases kind with
  | config => exact List.forall_mem_singleton.2 h
  | card | layout | cardCopy => exact List.forall_mem_singleton.2 (Card.Proper.config h)
  | change => exact List.forall_mem_singleton.2 (Change.Proper.card h).config
  | _ => exact nofun

theorem Kind.proper_of_mem_items {kind : Kind} {x : kind.Value} (h : kind.Proper x) :
    ∀ i ∈ kind.items x, i.Proper := by
  cases kind with
  | item => exact List.forall_mem_singleton.2 h
  | card | layout | cardCopy => exact Card.Proper.items h
  | change => exact (Change.Proper.card h).items
  | _ => exact nofun

/-- **Every decoded value is in normal form**, whatever the text is: a
configuration in it is made of its own parts, with its header in normal
form and FREE on the grid; an item in it has a text left when that is
trimmed; and both encodings of the value are decoded as the value, so that
encoding it once more gives the same text. -/
theorem decoded_is_normal {kind : Kind} {text : String} {x : kind.Value}
    (h : kind.format.decode text = .ok x) :
    (∀ c ∈ kind.configs x, Config.ofParts c.size c.header c.free c.phase = .ok c ∧
      c.size.NormalHeader c.header ∧ c.FreeOnGrid) ∧
    (∀ i ∈ kind.items x, Text.trim i.content ≠ "") ∧
    ∀ encode ∈ [kind.format.compact, kind.format.pretty],
      kind.format.decode (encode x) = .ok x ∧
        (kind.format.decode (encode x)).map encode = .ok (encode x) := by
  have hproper := proper_of_decode h
  refine ⟨fun c hc => ?_, fun i hi => ?_, fun encode hencode => ?_⟩
  · have hvalid := (Kind.produced_of_mem_configs hproper c hc).valid
    exact ⟨hvalid.ofParts, hvalid.header, hvalid.free⟩
  · exact Text.trim_ne_empty (Kind.proper_of_mem_items hproper i hi).notBlank
  · obtain ⟨hcompact, hpretty⟩ := decode_encode kind x hproper
    have hdecode : kind.format.decode (encode x) = .ok x := by
      simp only [List.mem_cons, List.not_mem_nil, or_false] at hencode
      rcases hencode with rfl | rfl
      · exact hcompact
      · exact hpretty
    exact ⟨hdecode, by rw [hdecode]; rfl⟩

/-- A card whose configuration is given as an array, with its header in
lowercase between blanks, and with the fields of its item out of order and a
stranger among them. -/
theorem decoded_is_normal_tampered :
    let text := "\x7b\"items\": [\x7b\"x\": [1e9], \"content\": \" ß \", \"position\": 9\x7d], " ++
      "\"config\": [3, \" aß \", \x7b\"enabled\": 8\x7d]\x7d"
    let read : Card := ⟨⟨.three, "ASS", some ⟨8⟩, .draft⟩, [⟨⟨9⟩, " ß ", false⟩]⟩
    card.decode text = .ok read ∧
      Config.ofParts .three "ASS" (some ⟨8⟩) .draft = .ok read.config ∧
      Text.trim " ß " ≠ "" ∧
      card.decode (card.pretty read) = .ok read := by
  intro text read
  have hread : card.decode text = .ok read := by decide +kernel
  obtain ⟨hconfigs, hitems, hencoded⟩ := @decoded_is_normal .card text read hread
  refine ⟨hread, (hconfigs read.config ?_).1, hitems ⟨⟨9⟩, " ß ", false⟩ ?_, (hencoded card.pretty ?_).1⟩
  · exact List.mem_singleton.2 rfl
  · exact List.mem_singleton.2 rfl
  · exact List.mem_cons_of_mem _ (List.mem_singleton.2 rfl)

end Snapshot

end GoalGrid
