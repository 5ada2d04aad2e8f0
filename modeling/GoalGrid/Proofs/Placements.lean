import GoalGrid.Proofs.Copies
import GoalGrid.Proofs.Picks
/-!
# Placements — where the goals of a copy can go

The cells of the goals of a copy are picked from the open cells of its
configuration by the numbers that are drawn once this one is made, one number
a goal (`map_position_of_copyIn`). So the numbers and the placements of the
goals correspond one to one (`Config.bijOn_placements`), and no placement is
out of reach: when FREE of the copy has its cell before anything is drawn,
every placement is the one that some words lead to
(`copied_to_every_placement`).
-/

namespace GoalGrid

open Edit (Still Sure Yields)

/-- An edit that draws nothing and is never refused gives a result. -/
theorem Edit.exists_eq_pure {α : Type} {e : Edit α} (hstill : e.Still) (hsure : e.Sure) :
    ∃ x, e = pure x := by
  obtain ⟨result, h⟩ := hstill
  obtain ⟨start⟩ : Nonempty Generator := inferInstance
  obtain ⟨x, hx⟩ := hsure start
  rw [h] at hx
  obtain rfl : result = .ok x := hx
  exact ⟨x, funext h⟩

namespace Config

variable {config : Config} {size : GridSize} {header : Option String} {hasFree : Bool}

/-- Cells for `k` goals, one after another: different open ones. -/
structure Placement (config : Config) (k : Nat) (cells : List Position) : Prop where
  length : cells.length = k
  distinct : cells.Nodup
  admitted : ∀ p ∈ cells, config.admits p = true

/-- **Numbers and placements correspond one to one.** -/
theorem bijOn_placements (hfree : config.FreeOnGrid) (k : Nat) :
    Set.BijOn (Random.pick · config.openPositions) (Random.SlotLists config.capacity k)
      {cells | config.Placement k cells} := by
  have hpicks := Random.bijOn_pick config.nodup_openPositions k
  rw [length_openPositions hfree] at hpicks
  have hplacements : {cells | config.Placement k cells} =
      {cells | cells.length = k ∧ cells.Nodup ∧ cells ⊆ config.openPositions} := by
    ext cells
    constructor
    · rintro ⟨hlength, hdistinct, hadmits⟩
      exact ⟨hlength, hdistinct, fun p hp => mem_openPositions.2 (hadmits p hp)⟩
    · rintro ⟨hlength, hdistinct, hsubset⟩
      exact ⟨hlength, hdistinct, fun p hp => mem_openPositions.1 (hsubset hp)⟩
  rw [hplacements]
  exact hpicks

/-- FREE has its cell before anything is drawn: the center, if it is wanted. -/
theorem free_of_yields_create (hfixed : size.side % 2 = 1 ∨ hasFree = false)
    (h : (create size header (some hasFree)).Yields config) :
    config.free = if hasFree then size.center else none := by
  obtain ⟨text, -, h⟩ := Yields.of_bind h
  split at h
  · rename_i hwanted
    rw [Option.getD_some] at hwanted
    have hodd : size.side % 2 = 1 := hfixed.resolve_right (by simp [hwanted])
    obtain ⟨center, hcenter⟩ := GridSize.exists_center_iff.2 hodd
    obtain ⟨target, htarget, h⟩ := h.of_bind
    rw [freeTarget, hcenter] at htarget
    obtain rfl := Edit.yields_pure.1 htarget
    obtain rfl := Edit.yields_pure.1 h
    rw [if_pos hwanted, hcenter]
  · rename_i hunwanted
    rw [Option.getD_some] at hunwanted
    obtain rfl := Edit.yields_pure.1 h
    rw [if_neg hunwanted]

end Config

namespace Card

variable {card : Card} {config : Config}

/-- **Every goal that is taken goes to the cell that its number picks.** -/
theorem map_position_copiedGoals (hfree : config.FreeOnGrid) (g : Generator) :
    (card.copiedGoals config g).map Item.position =
      Random.pick (Random.slots (min card.items.length config.capacity) config.capacity g).1
        config.openPositions := by
  have hopen := Config.length_openPositions hfree
  have hgoals : ((byPosition card.items).take config.capacity).length =
      min card.items.length config.capacity := by
    rw [List.length_take, (byPosition_perm card.items).length_eq, Nat.min_comm]
  have hbelow := Random.slotsBelow_slots (Nat.min_le_right card.items.length config.capacity) g
  rw [← hopen] at hbelow
  have hpicked := Random.length_pick hbelow
  rw [Random.length_slots] at hpicked
  rw [copiedGoals, map_position_placedGoals, ← Config.openPositions, hgoals, ← hopen]
  exact List.take_of_length_le (Nat.le_of_eq hpicked)

/-- **The cells of a copy are drawn after its configuration**, from the
generator that this one leaves. -/
theorem outcome_copyIn {size : GridSize} {hasFree : Bool} {g rest : Generator}
    (hboard : ∃ board, Board.ofCard card = .ok board) (build : Build)
    (hconfig : (card.copyConfig size hasFree).outcome g = (.ok config, rest)) :
    ((card.copyIn build size hasFree).outcome g).1 =
      .ok ⟨⟨config, card.copiedGoals config rest⟩, config.capacity < card.items.length⟩ := by
  obtain ⟨board, hboard⟩ := hboard
  have hyields : (card.copyConfig size hasFree).Yields config := ⟨g, by rw [hconfig]⟩
  obtain ⟨-, rfl, -⟩ := Config.of_yields_create hyields
  rw [copyIn_eq build, ← copyIn_eq .release, copyIn, hboard, Edit.outcome_bind,
    Edit.outcome_ofExcept]
  dsimp only
  rw [Edit.outcome_bind, ← copyConfig, hconfig]
  rfl

/-- **The numbers drawn pick the cells of a copy**, one for each goal that it
takes. -/
theorem map_position_of_copyIn {build : Build} {size : GridSize} {hasFree : Bool} {g : Generator}
    {copy : CardCopy} (hboard : ∃ board, Board.ofCard card = .ok board)
    (hcopy : ((card.copyIn build size hasFree).outcome g).1 = .ok copy) :
    copy.card.items.map Item.position =
      Random.pick (Random.slots (min card.items.length copy.card.config.capacity)
        copy.card.config.capacity ((card.copyConfig size hasFree).outcome g).2).1
        copy.card.config.openPositions := by
  obtain ⟨config, hconfig⟩ := card.sure_copyConfig size hasFree g
  have houtcome : (card.copyConfig size hasFree).outcome g =
      (.ok config, ((card.copyConfig size hasFree).outcome g).2) := by
    rw [← hconfig]
  rw [outcome_copyIn hboard build houtcome] at hcopy
  obtain rfl := Except.ok.inj hcopy
  exact map_position_copiedGoals (Config.valid_of_yields_create ⟨g, hconfig⟩).free _

/-- **No placement is out of reach** when FREE has its cell before anything is
drawn. -/
theorem exists_words_of_placement (hboard : ∃ board, Board.ofCard card = .ok board) (build : Build)
    {size : GridSize} {hasFree : Bool} (hfixed : size.side % 2 = 1 ∨ hasFree = false) :
    ∃ target : Config, target.size = size ∧
      target.free = (if hasFree then size.center else none) ∧
      ∀ cells, target.Placement (min card.items.length target.capacity) cells →
        ∃ words copy,
          ((card.copyIn build size hasFree).outcome (Generator.ofWords words)).1 = .ok copy ∧
          copy.card.config = target ∧ copy.card.items.map Item.position = cells := by
  obtain ⟨target, hconfig⟩ :=
    Edit.exists_eq_pure (Config.still_create hfixed) (card.sure_copyConfig size hasFree)
  have hyields := Edit.yields_pure.2 (rfl : target = target)
  rw [← hconfig] at hyields
  obtain ⟨-, hsize, -⟩ := Config.of_yields_create hyields
  have hfree := (Config.valid_of_yields_create hyields).free
  refine ⟨target, hsize, Config.free_of_yields_create hfixed hyields, fun cells hcells => ?_⟩
  obtain ⟨slots, ⟨hlength, hbelow⟩, hpicked⟩ := (Config.bijOn_placements hfree _).surjOn hcells
  have hrange : 25 ≤ DrawWidth.bits64.range := by decide
  obtain ⟨words, hwords⟩ := Random.exists_slots hbelow (target.capacity_le.trans hrange)
  have hslots := hwords _ (Generator.begins_ofWords words)
  rw [hlength] at hslots
  -- nothing is drawn for the configuration, so the words are those for the cells
  have houtcome : (card.copyConfig size hasFree).outcome (Generator.ofWords words) =
      (.ok target, Generator.ofWords words) := by
    rw [copyConfig, hconfig]
    rfl
  refine ⟨words, _, outcome_copyIn hboard build houtcome, rfl, ?_⟩
  rw [map_position_copiedGoals hfree, hslots]
  exact hpicked

/-- **The goals of a copy can go everywhere, each way by one list of numbers.**
For every configuration with FREE on its grid the lists of `k` numbers
correspond one to one to the placements of `k` goals. The goals of a copy are
where the numbers lead that are drawn after its configuration is made; and
where FREE of the copy is not left to chance, each placement is the one of
the copy that some words lead to. -/
theorem copied_to_every_placement (hboard : ∃ board, Board.ofCard card = .ok board)
    (build : Build) (size : GridSize) (hasFree : Bool) :
    (∀ config : Config, config.FreeOnGrid → ∀ k,
      Set.BijOn (Random.pick · config.openPositions) (Random.SlotLists config.capacity k)
        {cells | config.Placement k cells}) ∧
    (∀ g copy, ((card.copyIn build size hasFree).outcome g).1 = .ok copy →
      let config := copy.card.config
      let goals := min card.items.length config.capacity
      let drawn := (Random.slots goals config.capacity
        ((card.copyConfig size hasFree).outcome g).2).1
      drawn ∈ Random.SlotLists config.capacity goals ∧
        copy.card.items.map Item.position = Random.pick drawn config.openPositions) ∧
    (size.side % 2 = 1 ∨ hasFree = false → ∃ target : Config, target.size = size ∧
      target.free = (if hasFree then size.center else none) ∧
      ∀ cells, target.Placement (min card.items.length target.capacity) cells →
        ∃ words copy,
          ((card.copyIn build size hasFree).outcome (Generator.ofWords words)).1 = .ok copy ∧
          copy.card.config = target ∧ copy.card.items.map Item.position = cells) := by
  refine ⟨fun config hfree k => Config.bijOn_placements hfree k, fun g copy hcopy => ?_,
    fun hfixed => exists_words_of_placement hboard build hfixed⟩
  intro config goals drawn
  have hbelow : Random.SlotsBelow config.capacity drawn :=
    Random.slotsBelow_slots (Nat.min_le_right ..) _
  exact ⟨⟨Random.length_slots .., hbelow⟩, map_position_of_copyIn hboard hcopy⟩

/-- Two goals of a small card: a copy of them on a larger one, and some words
that put them into its corners, the first one into the last of them. -/
theorem copied_to_every_placement_corners :
    let g := Generator.ofWords []
    let card : Card := ⟨⟨.two, "OK", some ⟨0⟩, .draft⟩, [⟨⟨3⟩, "run", true⟩, ⟨⟨1⟩, "swim", false⟩]⟩
    let copy : CardCopy := ⟨⟨⟨.three, "OK", some ⟨4⟩, .draft⟩,
      [⟨⟨0⟩, "swim", false⟩, ⟨⟨8⟩, "run", false⟩]⟩, false⟩
    card.config.FreeOnGrid ∧
      Set.BijOn (Random.pick · card.config.openPositions) (Random.SlotLists 3 2)
        {cells | card.config.Placement 2 cells} ∧
      ((card.copy .three true).outcome g).1 = .ok copy ∧
      copy.card.items.map Item.position =
        Random.pick (Random.slots 2 8 g).1 copy.card.config.openPositions ∧
      ∃ words copy, ((card.copy .three true).outcome (Generator.ofWords words)).1 = .ok copy ∧
        copy.card.items.map Item.position = [⟨8⟩, ⟨0⟩] := by
  intro g card copy
  have hfree : card.config.FreeOnGrid := Config.freeOnGrid_of_free rfl rfl
  have hboard : ∃ board, Board.ofCard card = .ok board := ⟨_, rfl⟩
  have hcopy : ((card.copy .three true).outcome g).1 = .ok copy := by decide +kernel
  obtain ⟨hbij, hdrawn, hreach⟩ := copied_to_every_placement hboard .debug .three true
  obtain ⟨result, hstill⟩ : (card.copyConfig .three true).Still := Config.still_create (.inl rfl)
  have hpicked := (hdrawn g copy hcopy).2
  rw [hstill g] at hpicked
  obtain ⟨target, hsize, hcenter, hreach⟩ := hreach (.inl rfl)
  have hcapacity : target.capacity = 8 := by
    rw [Config.capacity, Config.hasFree, hsize, hcenter]
    rfl
  have hcorners : target.Placement (min card.items.length target.capacity) [⟨8⟩, ⟨0⟩] := by
    refine ⟨by rw [hcapacity]; rfl, by decide, ?_⟩
    simp only [Config.admits, Config.isFree, hsize, hcenter]
    decide
  obtain ⟨words, reached, hreached, -, hcells⟩ := hreach _ hcorners
  exact ⟨hfree, hbij card.config hfree 2, hcopy, hpicked, words, reached, hreached, hcells⟩

end Card

end GoalGrid
