import GoalGrid.Proofs.Frozen
/-!
# Frames — what commands leave alone

A text that is written goes to the one place that its path leads to
(`sameExcept_of_writeText`), and `Writes` says which path that can be: the
one of the card file, or for a copy the one that the copy goes to. So a
command leaves every other place alone (`frame_execute`), and so does a run
of commands (`find?_run`). Where nothing may be there before the write,
nothing that was there changes at all (`SameExcept.keeps`).
-/

namespace GoalGrid

/-! ## Trees that differ in one place -/

namespace FileTree

variable {t t' : FileTree} {path text : String}

/-- The trees differ at most where the path leads. -/
structure SameExcept (t t' : FileTree) (path : String) : Prop where
  here : t'.here = t.here
  find? : ∀ location, t.locate path ≠ .ok location → t'.find? location = t.find? location

/-- What was there is there as it was. -/
def Keeps (t t' : FileTree) : Prop :=
  ∀ location entry, t.find? location = some entry → t'.find? location = some entry

theorem SameExcept.refl (t : FileTree) (path : String) : SameExcept t t path :=
  ⟨rfl, fun _ _ => rfl⟩

theorem Keeps.refl (t : FileTree) : Keeps t t :=
  fun _ _ h => h

/-- **A text goes to one place**, the one that its path leads to. -/
theorem sameExcept_of_writeText (h : t.writeText path text = .ok t') :
    SameExcept t t' path := by
  obtain ⟨place, hplace, hfind, rfl⟩ := writeBytes_eq_ok_iff.1 h
  refine ⟨rfl, fun location hother => ?_⟩
  rw [find?_put (ne_nil_of_find? hfind), if_neg]
  rintro rfl
  exact hother (locate_of_locateFile hplace)

/-- Trees that differ in a place where there was nothing. -/
theorem SameExcept.keeps (h : SameExcept t t' path) (hnew : t.exists? path = false) :
    Keeps t t' := by
  intro location entry hentry
  have hother : t.locate path ≠ .ok location := by
    intro hplace
    simp [exists?, hplace, hentry] at hnew
  rw [h.find? location hother, hentry]

theorem SameDirectories.symm (h : SameDirectories t t') : SameDirectories t' t :=
  ⟨h.here.symm, fun location => (h.directory location).symm⟩

end FileTree

open FileTree (SameExcept Keeps sameExcept_of_writeText)

/-! ## One command -/

namespace Command

variable {command : Command} {operation : Except CardError Operation} {path : String}
  {t t' : FileTree}

/-- The path that a command for a card file writes to, if it writes. -/
def target (path : String) : Command → String
  | .copy out _ _ => out
  | _ => path

/-- The command looks at the card and does nothing to it. -/
def Reads : Command → Prop
  | .print | .bingos => True
  | _ => False

/-- The command is for a card that is not there yet. -/
def Adds : Command → Prop
  | .create _ _ _ force => force = false
  | .copy _ _ _ => True
  | _ => False

theorem target_of_operation? (h : command.operation? = some operation) :
    command.target path = path := by
  cases command with
  | copy => cases h
  | _ => rfl

theorem not_reads_of_operation? (h : command.operation? = some operation) : ¬ command.Reads := by
  cases command with
  | print | bingos => cases h
  | _ => exact id

theorem not_adds_of_operation? (h : command.operation? = some operation) : ¬ command.Adds := by
  cases command with
  | create | copy => cases h
  | _ => exact id

namespace Writes

theorem sameExcept (h : command.Writes path t t') : SameExcept t t' (command.target path) := by
  cases h with
  | nothing => exact .refl t _
  | created _ hwrite | copied _ hwrite => exact sameExcept_of_writeText hwrite
  | edited hcommand _ _ hwrite =>
    rw [target_of_operation? hcommand]
    exact sameExcept_of_writeText hwrite

theorem eq_of_reads (h : command.Writes path t t') (hreads : command.Reads) : t' = t := by
  cases h with
  | nothing => rfl
  | created | copied => exact hreads.elim
  | edited hcommand => exact absurd hreads (not_reads_of_operation? hcommand)

theorem keeps (h : command.Writes path t t') (hadds : command.Adds) : Keeps t t' := by
  cases h with
  | nothing => exact .refl t
  | created hnew hwrite => exact (sameExcept_of_writeText hwrite).keeps (hnew hadds)
  | copied hnew hwrite => exact (sameExcept_of_writeText hwrite).keeps hnew
  | edited hcommand => exact absurd hadds (not_adds_of_operation? hcommand)

end Writes

end Command

namespace Settings

/-- **A command touches one file.** Whatever the files are and whatever comes
of the command, the working directory is the same, and so is every place but
the one that the path of the card file leads to; for a copy, but the one that
the path of the copy leads to. Printing the card or its bingos changes
nothing at all, and a copy, or a new card that is not forced, nothing that
was there, be it the card that is copied. -/
theorem frame_execute (s : Settings) (path : String) (command : Command) (w : World) :
    let after := ((s.execute path command).outcome w).2.files
    w.files.SameExcept after (command.target path) ∧
      (command.Reads → after = w.files) ∧ (command.Adds → w.files.Keeps after) := by
  have hwrites := writes_execute s path command w
  exact ⟨hwrites.sameExcept, hwrites.eq_of_reads, hwrites.keeps⟩

/-- A copy onto the card that is copied, under another path, which is refused;
a copy that is made; a header, which leaves a file next to the card alone; and
the bingos. -/
theorem frame_execute_source :
    let files : FileTree := { entries := [(["card.json"], .file
        "[[2, \"BI\", \x7b\"enabled\": 0\x7d], [[1, \"run\"]]]".toUTF8),
      (["b.json"], .file "no card".toUTF8)] }
    let result (command : Command) :=
      (({} : Settings).execute "card.json" command).outcome ⟨files, .ofWords [7]⟩
    let onto := result (.copy "./card.json" none false)
    let made := result (.copy "c.json" none false)
    let headed := result (.header "qs")
    onto.1 = .error (.copyExists "./card.json") ∧ files.Keeps onto.2.files ∧
      (made.2.files.find? ["c.json"]).isSome = true ∧ files.Keeps made.2.files ∧
      headed.1.isOk = true ∧ headed.2.files.find? ["b.json"] = files.find? ["b.json"] ∧
      (result .bingos).2.files = files := by
  intro files result onto made headed
  have hframe := fun command => frame_execute {} "card.json" command ⟨files, .ofWords [7]⟩
  have hother : files.locate "card.json" ≠ .ok ["b.json"] := by decide +kernel
  exact ⟨by decide +kernel, (hframe _).2.2 trivial, by decide +kernel, (hframe _).2.2 trivial,
    by decide +kernel, (hframe (.header "qs")).1.find? ["b.json"] hother,
    (hframe .bingos).2.1 trivial⟩

end Settings

/-! ## Runs -/

namespace World

variable {w : World} {calls : List Call} {location : Location}

/-- **A run leaves alone every place that none of its commands is for.** -/
theorem find?_run
    (h : ∀ call ∈ calls, w.files.locate (call.command.target call.path) ≠ .ok location) :
    (w.run calls).files.find? location = w.files.find? location := by
  induction calls generalizing w with
  | nil => rfl
  | cons call calls ih =>
    have hwrites := w.writes_after call
    have hfirst : (w.after call).files.find? location = w.files.find? location :=
      hwrites.sameExcept.find? location (h call List.mem_cons_self)
    -- no write moves a directory, so that the paths lead where they led at the start
    have hrest : ∀ later ∈ calls,
        (w.after call).files.locate (later.command.target later.path) ≠ .ok location :=
      fun later hlater hplace => h later (List.mem_cons_of_mem call hlater)
        (hwrites.grows.toSameDirectories.symm.locate hplace)
    exact (ih hrest).trans hfirst

end World

end GoalGrid
