import GoalGrid.CommandLine.Parse
import GoalGrid.Proofs.Numerals
import Mathlib.Data.List.Perm.Basic
import Mathlib.Data.List.Nodup
/-!
# Command lines — every command can be written

A command is written by its name: options with their values after an equals
sign, and positional arguments behind two dashes. Neither can be taken for
anything else, whatever the values are. What is attached to an option belongs to
it (`take_optionWord`), so a row of options is read one after another
(`scan_options`), and behind the dashes words fill the places of the command in
order (`scan_places`). The arguments that come of it are all different, so they
can be looked up wherever they stand, and they build the command again
(`build_eq`): in particular the options of the program may stand before the
name of the command or after it (`parse_written`).
-/

namespace GoalGrid

namespace CommandLine

/-! ## Writing arguments -/

/-- The name of an argument, under which it is given when it is an option. -/
def Argument.name : Argument → String
  | .config => "config"
  | .card => "card"
  | .size => "size"
  | .header => "header"
  | .noFree => "no-free"
  | .force => "force"
  | .content => "content"
  | .position => "position"
  | .undo => "undo"
  | .text => "text"
  | .first => "a"
  | .second => "b"
  | .out => "out"

/-- A value as it is written; that a flag is set is written by its name alone. -/
def Value.written? : Value → Option String
  | .set => none
  | .text s => some s
  | .number n => some (toString n)

/-- An argument that is given by its name: after two dashes, and with its value
after an equals sign unless it is a flag. -/
def optionWord (entry : Argument × Value) : String :=
  match entry.2.written? with
  | some value => "--" ++ entry.1.name ++ "=" ++ value
  | none => "--" ++ entry.1.name

/-- An argument that is given by its place: its value alone. -/
def placeWord (entry : Argument × Value) : String :=
  entry.2.written?.getD ""

/-- The argument with this value, if there is one. -/
def given? (argument : Argument) (value : Option Value) : Given :=
  value.toList.map (argument, ·)

/-- The flag, if it is set. -/
def flag (argument : Argument) (set : Bool) : Given :=
  given? argument (if set then some .set else none)

end CommandLine

open CommandLine (Argument Value Given given? flag optionWord placeWord CommandName)

/-! ## Writing commands -/

namespace Command

/-- The name of the command. -/
def name : Command → CommandName
  | .create .. => .create
  | .print => .print
  | .add .. => .add
  | .remove _ => .remove
  | .complete .. => .complete
  | .header _ => .header
  | .resize _ => .resize
  | .enableFree => .enableFree
  | .disableFree => .disableFree
  | .moveFree _ => .moveFree
  | .shuffle => .shuffle
  | .swap .. => .swap
  | .bingos => .bingos
  | .finalize => .finalize
  | .copy .. => .copy

/-- The arguments of the command that have names. -/
def named : Command → Given
  | .create size text noFree force =>
    given? .size (size.map .number) ++ given? .header (text.map .text) ++
      flag .noFree noFree ++ flag .force force
  | .add _ position => given? .position (position.map (.number ·.index))
  | .complete _ undo => flag .undo undo
  | .copy out size noFree =>
    (.out, .text out) :: given? .size (size.map .number) ++ flag .noFree noFree
  | _ => []

/-- The arguments of the command that have places, in order. -/
def placed : Command → Given
  | .add content _ => [(.content, .text content)]
  | .remove p | .complete p _ | .moveFree p => [(.position, .number p.index)]
  | .header text => [(.text, .text text)]
  | .resize size => [(.size, .number size)]
  | .swap a b => [(.first, .number a.index), (.second, .number b.index)]
  | _ => []

/-- Sizes fit a byte and positions a word, and no path is empty. -/
def Expressible : Command → Prop
  | .create size _ _ _ => ∀ n ∈ size, n < 256
  | .add _ position => ∀ p ∈ position, p.index < Text.wordLimit
  | .remove p | .complete p _ | .moveFree p => p.index < Text.wordLimit
  | .resize size => size < 256
  | .swap a b => a.index < Text.wordLimit ∧ b.index < Text.wordLimit
  | .copy out size _ => out ≠ "" ∧ ∀ n ∈ size, n < 256
  | _ => True

end Command

namespace CommandLine

/-- The command is expressible, and no path is empty. -/
structure Expressible (line : CommandLine) : Prop where
  config : line.config ≠ ""
  card : line.card ≠ ""
  command : line.command.Expressible

/-- The arguments for the program itself. -/
def shared (line : CommandLine) : Given :=
  [(.config, .text line.config), (.card, .text line.card)]

/-! ## Looking up arguments -/

section

variable {entry : Argument × Value} {given other before after : Given} {argument : Argument}
variable {value : Value}

/-- Arguments that are all different are looked up where they are. -/
theorem lookup_eq_some_iff_mem (h : (given.map Prod.fst).Nodup) :
    given.lookup argument = some value ↔ (argument, value) ∈ given := by
  induction given with
  | nil => simp
  | cons entry given ih =>
    obtain ⟨known, kept⟩ := entry
    obtain ⟨hfirst, hrest⟩ := List.nodup_cons.1 h
    rw [List.lookup_cons, List.mem_cons, Prod.mk.injEq]
    split
    · rename_i hsame
      obtain rfl := eq_of_beq hsame
      have hother : (argument, value) ∉ given :=
        fun hmem => hfirst (List.mem_map.2 ⟨_, hmem, rfl⟩)
      simp [hother, eq_comm]
    · rename_i hne
      rw [ih hrest, or_iff_right fun hsame => ne_of_beq_false hne hsame.1]

/-- Their order makes no difference. -/
theorem lookup_eq_of_perm (hperm : given.Perm other) (h : (given.map Prod.fst).Nodup) :
    given.lookup argument = other.lookup argument := by
  refine Option.ext fun value => ?_
  rw [lookup_eq_some_iff_mem h, lookup_eq_some_iff_mem ((hperm.map Prod.fst).nodup_iff.1 h),
    hperm.mem_iff]

theorem lookup_eq_none_of_nodup (h : ((before ++ entry :: after).map Prod.fst).Nodup) :
    before.lookup entry.1 = none := by
  rw [List.map_append, List.map_cons] at h
  rw [List.lookup_eq_none_iff]
  intro known hknown
  have hne := List.disjoint_of_nodup_append h (List.mem_map_of_mem hknown)
  exact bne_iff_ne.2 fun heq => hne (heq ▸ List.mem_cons_self)

end

/-! ## Reading the word of an option -/

/-- A word for an argument of this kind that is read as the value. -/
def ValueKind.Reads (kind : ValueKind) (value : Value) : Prop :=
  ∃ word, value.written? = some word ∧ kind.value word = .ok value

/-- An option with this role is given so. -/
def OptionRole.Takes (entry : Argument × Value) : OptionRole → Prop
  | .flag argument => entry = (argument, .set)
  | .valued argument kind => entry.1 = argument ∧ kind.Reads entry.2
  | .help | .version => False

/-- The level has an option that is given so. -/
def Level.Takes (level : Level) (entry : Argument × Value) : Prop :=
  ∃ rule, level.options.find? (·.long = entry.1.name) = some rule ∧ rule.role.Takes entry

section

variable {level : Level} {entry : Argument × Value} {entries : Given} {p : Progress}
variable {word : String} {words : List String}

theorem exists_name_eq_cons (argument : Argument) : ∃ c cs, argument.name.toList = c :: cs := by
  cases argument <;> exact ⟨_, _, rfl⟩

theorem equals_not_mem_name (argument : Argument) : '=' ∉ argument.name.toList := by
  cases argument <;> decide

/-- What stands after the two dashes. -/
def optionBody (entry : Argument × Value) : List Char :=
  entry.1.name.toList ++ (entry.2.written?.map fun value => '=' :: value.toList).getD []

theorem toList_optionWord (entry : Argument × Value) :
    (optionWord entry).toList = '-' :: '-' :: optionBody entry := by
  rw [optionWord, optionBody]
  split <;> simp [*]

theorem ne_optionWord (h : word.toList.head? ≠ some '-') : word ≠ optionWord entry := by
  rintro rfl
  rw [toList_optionWord] at h
  exact h rfl

/-- The word of an option is no name of a command. -/
theorem command?_optionWord : p.command? level (optionWord entry) words = none := by
  have hhelp : optionWord entry ≠ helpWord := (ne_optionWord (by decide)).symm
  have hnames : ∀ name : CommandName, name.text.toList.head? ≠ some '-' := by
    intro name
    cases name <;> decide
  have hname : CommandName.ofText? (optionWord entry) = none :=
    List.find?_eq_none.2 fun name _ htext =>
      ne_optionWord (hnames name) (of_decide_eq_true htext)
  rw [Progress.command?, if_neg hhelp, hname, Option.map_none, ite_self]

namespace Progress

theorem record_eq {argument : Argument} {value : Value} (h : p.given.lookup argument = none) :
    p.record argument (.ok value) = .ok { p with given := p.given ++ [(argument, value)] } := by
  rw [record, h]
  rfl

/-- The word that was kept is read. -/
theorem settle_eq {given : Given} {argument : Argument} {kind : ValueKind} {value : Value}
    {placed : Nat} {trailing : Bool} (hvalue : kind.value word = .ok value)
    (hnew : given.lookup argument = none) :
    (Progress.mk given (some ⟨argument, kind, some word⟩) placed trailing).settle =
      .ok ⟨given ++ [(argument, value)], none, placed, trailing⟩ := by
  change (Progress.mk given none placed trailing).record argument (kind.value word) = _
  rw [hvalue]
  exact record_eq hnew

theorem settle_of_pending_eq_none (h : p.pending = none) : p.settle = .ok p := by
  rw [settle, h]

/-- The name and the value are found again. -/
theorem takeLong_optionBody {rule : OptionRule}
    (h : level.options.find? (·.long = entry.1.name) = some rule) :
    p.takeLong level (optionBody entry) = p.takeOption rule.role entry.2.written? := by
  have hname : ∀ c ∈ entry.1.name.toList, (decide (c ≠ '=')) = true :=
    fun c hc => decide_eq_true fun hequals => equals_not_mem_name entry.1 (hequals ▸ hc)
  rw [takeLong, optionBody, List.takeWhile_append_of_pos hname, List.dropWhile_append_of_pos hname]
  cases entry.2.written? with
  | none => simp [h]
  | some value => simp [h]

theorem take_eq_takeLong (htrailing : p.trailing = false) :
    p.take level (optionWord entry) = p.takeLong level (optionBody entry) := by
  obtain ⟨c, cs, hname⟩ := exists_name_eq_cons entry.1
  rw [take, htrailing, toList_optionWord, optionBody, hname]
  rfl

theorem takeOption_eq {role : OptionRole} (h : role.Takes entry) (hpending : p.pending = none)
    (hnew : p.given.lookup entry.1 = none) :
    p.takeOption role entry.2.written? = .ok { p with given := p.given ++ [entry] } := by
  obtain ⟨argument, value⟩ := entry
  cases role with
  | flag =>
    obtain ⟨rfl, rfl⟩ := Prod.mk.inj h
    rw [Value.written?, takeOption, settle_of_pending_eq_none hpending]
    exact record_eq hnew
  | valued =>
    obtain ⟨rfl, word, hword, hvalue⟩ := h
    simp only [hword, takeOption, settle_of_pending_eq_none hpending, hvalue]
    exact record_eq hnew
  | help | version => exact h.elim

/-- **An option is read with its value**, when it is new. -/
theorem take_optionWord (hlevel : level.Takes entry) (hpending : p.pending = none)
    (htrailing : p.trailing = false) (hnew : p.given.lookup entry.1 = none) :
    p.take level (optionWord entry) = .ok { p with given := p.given ++ [entry] } := by
  obtain ⟨rule, hrule, htakes⟩ := hlevel
  rw [take_eq_takeLong htrailing, takeLong_optionBody hrule]
  exact takeOption_eq htakes hpending hnew

end Progress

theorem scan_cons (hcommand : p.command? level word words = none) {next : Progress}
    (htake : p.take level word = .ok next) :
    scan level p (word :: words) = scan level next words := by
  rw [scan, hcommand, htake]
  rfl

/-- **So is a row of options**, one after another. -/
theorem scan_options (hlevel : ∀ entry ∈ entries, level.Takes entry) (hpending : p.pending = none)
    (htrailing : p.trailing = false) (hdistinct : ((p.given ++ entries).map Prod.fst).Nodup) :
    scan level p (entries.map optionWord ++ words) =
      scan level { p with given := p.given ++ entries } words := by
  induction entries generalizing p with
  | nil => simp
  | cons entry entries ih =>
    have hnew : p.given.lookup entry.1 = none := lookup_eq_none_of_nodup hdistinct
    have htake := Progress.take_optionWord (hlevel entry List.mem_cons_self) hpending htrailing hnew
    rw [List.map_cons, List.cons_append, scan_cons command?_optionWord htake, ih]
    · simp
    · exact fun other hother => hlevel other (List.mem_cons_of_mem entry hother)
    · exact hpending
    · exact htrailing
    · simpa using hdistinct

/-- From the beginning of a level, that is all it takes. -/
theorem scan_options_start (hlevel : ∀ entry ∈ entries, level.Takes entry)
    (hdistinct : (entries.map Prod.fst).Nodup) :
    scan level {} (entries.map optionWord ++ words) = scan level { given := entries } words :=
  scan_options hlevel rfl rfl hdistinct

/-! ## Reading positional arguments -/

/-- The word for a place is kept until the next one, or the end. -/
theorem take_placeWord {given after : Given} {pending : Option Pending} {placed : Nat}
    {place : Place} (hplace : level.places[placed]? = some place)
    (hsettle : (Progress.mk given pending placed true).settle = .ok ⟨after, none, placed, true⟩) :
    (Progress.mk given pending placed true).take level word =
      .ok ⟨after, some ⟨place.argument, place.kind, some word⟩, placed + 1, true⟩ := by
  rw [Progress.take, if_pos rfl, Progress.takePlace]
  simp only [hplace, hsettle]
  rfl

/-- **Positional arguments are read in the order of their places.** -/
theorem scan_places (hlevel : level.hasCommands = false) {given after : Given}
    {pending : Option Pending} {placed : Nat}
    (hsettle : (Progress.mk given pending placed true).settle = .ok ⟨after, none, placed, true⟩)
    (hentries : List.Forall₂ (fun place entry =>
      Place.argument place = Prod.fst entry ∧ place.kind.Reads entry.2)
      (level.places.drop placed) entries)
    (hdistinct : ((after ++ entries).map Prod.fst).Nodup) :
    ∃ last, scan level ⟨given, pending, placed, true⟩ (entries.map placeWord) = .ok (last, .done) ∧
      last.settle = .ok ⟨after ++ entries, none, placed + entries.length, true⟩ := by
  induction entries generalizing given after pending placed with
  | nil =>
    refine ⟨_, rfl, ?_⟩
    rw [List.append_nil]
    exact hsettle
  | cons entry entries ih =>
    obtain ⟨place, places, ⟨hargument, word, hword, hvalue⟩, hrest, hplaces⟩ :=
      List.forall₂_cons_right_iff.1 hentries
    have hplace : level.places[placed]? = some place := by
      rw [← List.head?_drop, hplaces, List.head?_cons]
    have hnext : level.places.drop (placed + 1) = places := by
      rw [← List.tail_drop, hplaces, List.tail_cons]
    have hcommand : (Progress.mk given pending placed true).command? level (placeWord entry)
        (entries.map placeWord) = none := by
      rw [Progress.command?, hlevel]
      rfl
    have hwritten : placeWord entry = word := by
      rw [placeWord, hword, Option.getD_some]
    have hnew : after.lookup entry.1 = none := lookup_eq_none_of_nodup hdistinct
    have hread : (Progress.mk after (some ⟨place.argument, place.kind, some (placeWord entry)⟩)
        (placed + 1) true).settle = .ok ⟨after ++ [entry], none, placed + 1, true⟩ := by
      rw [hargument, hwritten]
      exact Progress.settle_eq hvalue hnew
    rw [← hnext] at hrest
    have hlater := ih hread hrest (by rwa [List.append_assoc, List.singleton_append])
    rw [List.append_assoc, List.singleton_append, Nat.add_assoc, Nat.add_comm 1] at hlater
    rw [List.map_cons, scan_cons hcommand (take_placeWord hplace hsettle)]
    exact hlater

end

/-! ## Values -/

theorem reads_text (s : String) : ValueKind.text.Reads (.text s) :=
  ⟨s, rfl, rfl⟩

theorem reads_path {s : String} (h : s ≠ "") : ValueKind.path.Reads (.text s) := by
  refine ⟨s, rfl, ?_⟩
  rw [ValueKind.value, if_neg (by simpa using h)]

theorem reads_byte {n : Nat} (h : n < 256) : ValueKind.byte.Reads (.number n) := by
  refine ⟨toString n, rfl, ?_⟩
  rw [ValueKind.value, Text.readSigned_toString h]

theorem reads_word {n : Nat} (h : n < Text.wordLimit) : ValueKind.word.Reads (.number n) := by
  refine ⟨toString n, rfl, ?_⟩
  rw [ValueKind.value, Text.readUnsigned_toString h]

/-! ## Commands -/

variable {line : CommandLine} {command : Command} {name : CommandName} {given other : Given}

/-- **The options of the program are taken on both sides**: before the name of a
command, and by every command after it. -/
theorem takes_shared (hline : line.Expressible) : ∀ entry ∈ line.shared,
    topLevel.Takes entry ∧ ∀ name : CommandName, name.level.Takes entry := by
  intro entry hentry
  simp only [shared, List.mem_cons, List.not_mem_nil, or_false] at hentry
  rcases hentry with rfl | rfl
  · have hreads : (OptionRole.valued .config .path).Takes (.config, .text line.config) :=
      ⟨rfl, reads_path hline.config⟩
    refine ⟨⟨⟨"config", none, _⟩, rfl, hreads⟩, fun name => ⟨⟨"config", none, _⟩, ?_, hreads⟩⟩
    cases name <;> rfl
  · have hreads : (OptionRole.valued .card .path).Takes (.card, .text line.card) :=
      ⟨rfl, reads_path hline.card⟩
    refine ⟨⟨⟨"card", none, _⟩, rfl, hreads⟩, fun name => ⟨⟨"card", none, _⟩, ?_, hreads⟩⟩
    cases name <;> rfl

theorem forall_mem_given? {α : Type} {argument : Argument} {value : Option α} {f : α → Value}
    {P : Argument × Value → Prop} :
    (∀ entry ∈ given? argument (value.map f), P entry) ↔ ∀ v ∈ value, P (argument, f v) := by
  cases value <;> simp [given?]

theorem forall_mem_flag {argument : Argument} {set : Bool} {P : Argument × Value → Prop} :
    (∀ entry ∈ flag argument set, P entry) ↔ (set = true → P (argument, .set)) := by
  cases set <;> simp [flag, given?]

/-- **Every command takes its own options.** -/
theorem takes_named (hcommand : command.Expressible) :
    ∀ entry ∈ command.named, command.name.level.Takes entry := by
  cases command with
  | create size text noFree force =>
    simp only [Command.named, List.forall_mem_append, forall_mem_given?, forall_mem_flag]
    exact ⟨⟨⟨fun n hn => ⟨_, rfl, rfl, reads_byte (hcommand n hn)⟩,
      fun s _ => ⟨_, rfl, rfl, reads_text s⟩⟩, fun _ => ⟨_, rfl, rfl⟩⟩, fun _ => ⟨_, rfl, rfl⟩⟩
  | add content position =>
    exact forall_mem_given?.2 fun p hp => ⟨_, rfl, rfl, reads_word (hcommand p hp)⟩
  | complete position undo => exact forall_mem_flag.2 fun _ => ⟨_, rfl, rfl⟩
  | copy out size noFree =>
    simp only [Command.named, List.cons_append, List.forall_mem_cons, List.forall_mem_append,
      forall_mem_given?, forall_mem_flag]
    exact ⟨⟨_, rfl, rfl, reads_path hcommand.1⟩,
      fun n hn => ⟨_, rfl, rfl, reads_byte (hcommand.2 n hn)⟩, fun _ => ⟨_, rfl, rfl⟩⟩
  | _ => exact fun _ h => absurd h List.not_mem_nil

/-- **And has a place for each of its positional arguments.** -/
theorem places_placed (hcommand : command.Expressible) :
    List.Forall₂ (fun place entry => Place.argument place = Prod.fst entry ∧
      place.kind.Reads entry.2) command.name.level.places command.placed := by
  cases command with
  | add content | header content => exact .cons ⟨rfl, reads_text content⟩ .nil
  | remove | complete | moveFree => exact .cons ⟨rfl, reads_word hcommand⟩ .nil
  | resize => exact .cons ⟨rfl, reads_byte hcommand⟩ .nil
  | swap =>
    exact .cons ⟨rfl, reads_word hcommand.1⟩ (.cons ⟨rfl, reads_word hcommand.2⟩ .nil)
  | _ => exact .nil

/-- A command is built of its own arguments, and of nothing else. -/
theorem build_congr (h : ∀ argument, argument ≠ .config → argument ≠ .card →
    given.lookup argument = other.lookup argument) : name.build given = name.build other := by
  cases name <;>
    simp [CommandName.build, Given.position?, Given.number?, Given.text?, Given.isSet, h]

theorem build_arguments (command : Command) :
    command.name.build (command.named ++ command.placed) = some command := by
  cases command with
  | create size text noFree force =>
    cases size <;> cases text <;> cases noFree <;> cases force <;> rfl
  | add content position => cases position <;> rfl
  | complete position undo => cases undo <;> rfl
  | copy out size noFree => cases size <;> cases noFree <;> rfl
  | _ => rfl

/-- No argument is given twice. -/
theorem nodup_arguments (line : CommandLine) :
    ((line.shared ++ (line.command.named ++ line.command.placed)).map Prod.fst).Nodup := by
  obtain ⟨config, card, command⟩ := line
  cases command with
  | create size text noFree force =>
    cases size <;> cases text <;> cases noFree <;> cases force <;>
      simp [shared, Command.named, Command.placed, given?, flag]
  | add content position =>
    cases position <;> simp [shared, Command.named, Command.placed, given?]
  | complete position undo =>
    cases undo <;> simp [shared, Command.named, Command.placed, given?, flag]
  | copy out size noFree =>
    cases size <;> cases noFree <;>
      simp [shared, Command.named, Command.placed, given?, flag]
  | _ => simp [shared, Command.named, Command.placed]

/-! ## Whole command lines -/

/-- The words that give positional arguments: they stand after two dashes, which
may be left out when there are none. -/
def IsPlacing (entries : Given) (words : List String) : Prop :=
  words = "--" :: entries.map placeWord ∨ entries = [] ∧ words = []

theorem scan_name {p : Progress} {words : List String} (hpending : p.pending = none)
    (htrailing : p.trailing = false) :
    scan topLevel p (name.text :: words) = .ok (p, .command name words) := by
  have hcommand : p.command? topLevel name.text words = some (.command name words) := by
    rw [Progress.command?, Progress.isWaiting, hpending, htrailing]
    cases name <;> rfl
  rw [scan, hcommand]

theorem hasCommands_level (name : CommandName) : name.level.hasCommands = false := by
  cases name <;> rfl

/-- The positional arguments follow the options. -/
theorem scan_placing {words : List String} (hcommand : command.Expressible)
    (hwords : IsPlacing command.placed words)
    (hdistinct : ((given ++ command.placed).map Prod.fst).Nodup) :
    ∃ last settled, scan command.name.level { given } words = .ok (last, .done) ∧
      last.settle = .ok settled ∧ settled.given = given ++ command.placed := by
  have hlevel : command.name.level.hasCommands = false := hasCommands_level _
  rcases hwords with rfl | ⟨hnone, rfl⟩
  · have hplaces := places_placed hcommand
    rw [← List.drop_zero (l := command.name.level.places)] at hplaces
    obtain ⟨last, hscan, hsettle⟩ :=
      scan_places hlevel (Progress.settle_of_pending_eq_none rfl) hplaces hdistinct
    refine ⟨last, _, ?_, hsettle, rfl⟩
    have hdashes : (Progress.mk given none 0 false).command? command.name.level "--"
        (command.placed.map placeWord) = none := by
      rw [Progress.command?, hlevel]
      rfl
    rw [scan_cons hdashes rfl]
    exact hscan
  · exact ⟨_, _, rfl, Progress.settle_of_pending_eq_none rfl, by rw [hnone, List.append_nil]⟩

/-- **A command is read back from its arguments**, together with options of the
program that stand among its own. -/
theorem parseCommand_eq {after : Given} {words : List String} (hcommand : command.Expressible)
    (hafter : ∀ entry ∈ after, command.name.level.Takes entry)
    (hwords : IsPlacing command.placed words)
    (hdistinct : ((after ++ command.placed).map Prod.fst).Nodup)
    (hbuild : command.name.build (after ++ command.placed) = some command) :
    parseCommand command.name (after.map optionWord ++ words) =
      .ok (command, after ++ command.placed) := by
  obtain ⟨last, settled, hscan, hsettle, hgiven⟩ := scan_placing hcommand hwords hdistinct
  have hoptions : (after.map Prod.fst).Nodup := by
    rw [List.map_append] at hdistinct
    exact hdistinct.of_append_left
  have hread : scan command.name.level {} (after.map optionWord ++ words) = .ok (last, .done) :=
    (scan_options_start hafter hoptions).trans hscan
  rw [parseCommand, hread]
  simp only [bind, Except.bind, hsettle, hgiven, hbuild]
  rfl

/-- Arguments for the program itself do not hide those of a command. -/
theorem lookup_append_of_subset_shared {argument : Argument} (h : other ⊆ line.shared)
    (hconfig : argument ≠ .config) (hcard : argument ≠ .card) :
    (other ++ given).lookup argument = given.lookup argument := by
  have hnone : other.lookup argument = none := by
    rw [List.lookup_eq_none_iff]
    intro entry hentry
    have hmem := h hentry
    simp only [shared, List.mem_cons, List.not_mem_nil, or_false] at hmem
    rcases hmem with rfl | rfl
    · exact bne_iff_ne.2 hconfig
    · exact bne_iff_ne.2 hcard
  rw [List.lookup_append, hnone, Option.none_or]

/-- Of the arguments of a line, those of the command build it, in whatever order
they stand among them. -/
theorem build_eq (hother : other ⊆ line.shared)
    (hperm : (other ++ given).Perm (line.shared ++ (line.command.named ++ line.command.placed))) :
    line.command.name.build given = some line.command := by
  rw [← build_arguments line.command]
  refine build_congr fun argument hconfig hcard => ?_
  have hdistinct := (hperm.map Prod.fst).nodup_iff.2 (nodup_arguments line)
  calc given.lookup argument
    _ = (other ++ given).lookup argument :=
      (lookup_append_of_subset_shared hother hconfig hcard).symm
    _ = (line.shared ++ (line.command.named ++ line.command.placed)).lookup argument :=
      lookup_eq_of_perm hperm hdistinct
    _ = (line.command.named ++ line.command.placed).lookup argument :=
      lookup_append_of_subset_shared (List.Subset.refl _) hconfig hcard

/-- A text counts on whichever side of the command it is given. -/
theorem text?_or_text? {argument : Argument} {s : String}
    (h : (given ++ other).lookup argument = some (.text s)) :
    (given.text? argument).or (other.text? argument) = some s := by
  rw [List.lookup_append] at h
  rw [Given.text?, Given.text?]
  cases hfirst : given.lookup argument with
  | some value =>
    rw [hfirst] at h
    obtain rfl := Option.some.inj h
    rfl
  | none =>
    rw [hfirst, Option.none_or] at h
    rw [h]
    rfl

theorem path_eq {argument : Argument} {s : String}
    (hperm : (other ++ given).Perm (line.shared ++ (line.command.named ++ line.command.placed)))
    (hmem : (argument, .text s) ∈ line.shared) :
    (given.text? argument).or (other.text? argument) = some s := by
  have hswap := List.perm_append_comm.trans hperm
  have hdistinct := (hswap.map Prod.fst).nodup_iff.2 (nodup_arguments line)
  refine text?_or_text? ((lookup_eq_some_iff_mem hdistinct).2 ?_)
  exact hswap.mem_iff.2 (List.mem_append_left _ hmem)

/-- **Every command can be written.** Options come with their values attached, in
any order, those of the program itself on either side of the name of the
command; positional arguments come last, behind two dashes. Whatever texts and
numbers these are, reading gives back the command with its paths. -/
theorem parse_written {before after : Given} {words : List String} (hline : line.Expressible)
    (hbefore : before ⊆ line.shared)
    (hoptions : (before ++ after).Perm (line.shared ++ line.command.named))
    (hplaces : IsPlacing line.command.placed words) :
    parse (before.map optionWord ++ line.command.name.text :: (after.map optionWord ++ words)) =
      .ok line := by
  have htop : ∀ entry ∈ before, topLevel.Takes entry :=
    fun entry hentry => (takes_shared hline entry (hbefore hentry)).1
  have hafter : ∀ entry ∈ after, line.command.name.level.Takes entry := by
    intro entry hentry
    rcases List.mem_append.1 (hoptions.subset (List.mem_append_right before hentry)) with h | h
    · exact (takes_shared hline entry h).2 _
    · exact takes_named hline.command entry h
  have hperm : (before ++ (after ++ line.command.placed)).Perm
      (line.shared ++ (line.command.named ++ line.command.placed)) := by
    rw [← List.append_assoc, ← List.append_assoc]
    exact hoptions.append_right _
  have hdistinct := (hperm.map Prod.fst).nodup_iff.2 (nodup_arguments line)
  rw [List.map_append] at hdistinct
  have hcommand := parseCommand_eq hline.command hafter hplaces hdistinct.of_append_right
    (build_eq hbefore hperm)
  rw [parse, scan_options_start htop hdistinct.of_append_left, scan_name rfl rfl]
  simp only [bind, Except.bind, hcommand, Progress.settle_of_pending_eq_none,
    path_eq hperm List.mem_cons_self, path_eq hperm (List.mem_cons_of_mem _ List.mem_cons_self),
    Option.getD_some]
  rfl

/-- Values that look like options are no trouble, nor is a path on each side. -/
theorem parse_written_dashes :
    parse ["--card=-c", "add", "--position=7", "--config=--", "--", "--help"] =
      .ok { config := "--", card := "-c", command := .add "--help" (some ⟨7⟩) } := by
  have hline : Expressible { config := "--", card := "-c", command := .add "--help" (some ⟨7⟩) } :=
    ⟨by decide, by decide, by simp [Command.Expressible, Text.wordLimit]⟩
  exact @parse_written _ [(.card, .text "-c")] [(.position, .number 7), (.config, .text "--")]
    ["--", "--help"] hline (by simp [shared]) (by decide) (.inl rfl)

end CommandLine

end GoalGrid
