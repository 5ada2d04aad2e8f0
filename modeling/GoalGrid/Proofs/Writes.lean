import GoalGrid.Proofs.Commands
/-!
# Writes — what a command does to the files

Whatever comes of a command, it has written one card at most: a new card, a
card that an operation has changed, or a copy. `Command.Writes` lists what
can be written and where, and `writes_execute` says that the list is
complete, so that what commands keep of the files is read off it. The first
such fact is that no command takes anything away (`grows_execute`).
-/

namespace GoalGrid

/-- What a command for the card file under a path can make of the files: a
command writes one card at most, and unless a new card is forced, it is
the edited card in place of the old one, or it goes where there was nothing. -/
inductive Command.Writes (path : String) (t : FileTree) : Command → FileTree → Prop where
  | nothing {command : Command} : Writes path t command t
  | created {size : Option Nat} {header : Option String} {noFree force : Bool} {card : Card}
      {t' : FileTree} : (force = false → t.exists? path = false) →
      t.writeText path (Snapshot.card.pretty card) = .ok t' →
      Writes path t (.create size header noFree force) t'
  | edited {command : Command} {operation : Operation} {card : Card} {change : Change}
      {t' : FileTree} : command.operation? = some (.ok operation) → t.card path = .ok card →
      (operation.apply card).Yields change →
      t.writeText path (Snapshot.card.pretty change.card) = .ok t' → Writes path t command t'
  | copied {out : String} {size : Option Nat} {noFree : Bool} {card : Card} {t' : FileTree} :
      t.exists? out = false → t.writeText out (Snapshot.card.pretty card) = .ok t' →
      Writes path t (.copy out size noFree) t'

theorem Command.Writes.grows {path : String} {t t' : FileTree} {command : Command}
    (h : command.Writes path t t') : FileTree.Grows t t' := by
  cases h with
  | nothing => exact .refl _
  | created _ hwrite | edited _ _ _ hwrite | copied _ hwrite => exact .of_writeBytes hwrite

namespace Settings

open GoalGrid.Action (outcome_bind outcome_load)

variable {s : Settings} {path : String} {card : Card} {command : Command} {t : FileTree} {w : World}

/-- Saving and showing a card writes it, or nothing. -/
theorem writes_saveAndShow {place : String} (hfiles : w.files = t)
    (h : ∀ t', t.writeText place (Snapshot.card.pretty card) = .ok t' → command.Writes path t t') :
    command.Writes path t ((s.saveAndShow place card).outcome w).2.files := by
  subst hfiles
  rw [outcome_saveAndShow]
  rcases hwrite : w.files.writeText place (Snapshot.card.pretty card) with cause | files
  · exact .nothing
  · exact h files hwrite

theorem writes_create {size : Option Nat} {header : Option String} {noFree force : Bool} :
    (Command.create size header noFree force).Writes path w.files
      ((s.create path size header noFree force).outcome w).2.files := by
  rw [outcome_create]
  split
  · exact .nothing
  · rename_i hallowed
    have hnew : force = false → w.files.exists? path = false := by
      rintro rfl
      simpa using hallowed
    split
    · exact .nothing
    · split
      · exact .nothing
      · exact writes_saveAndShow rfl fun _ hwrite => .created hnew hwrite

theorem writes_edit {operation : Except CardError Operation} {remark : Change → String}
    (hcommand : command.operation? = some operation) :
    command.Writes path w.files ((s.edit path operation remark).outcome w).2.files := by
  rw [outcome_edit]
  split
  · exact .nothing
  · exact .nothing
  · rename_i card operation hcard
    split
    · exact .nothing
    · rename_i change generator hchange
      have hyields : (operation.apply card).Yields change :=
        ⟨w.generator, congrArg Prod.fst hchange⟩
      have hwrites : command.Writes path w.files
          ((s.saveAndShow path change.card).outcome { w with generator }).2.files :=
        writes_saveAndShow rfl fun _ hwrite => .edited hcommand hcard hyields hwrite
      split
      · rename_i hshown
        rwa [hshown] at hwrites
      · rename_i hshown
        rwa [hshown] at hwrites

theorem writes_copy {out : String} {size : Option Nat} {noFree : Bool} :
    (Command.copy out size noFree).Writes path w.files
      ((s.copy path out size noFree).outcome w).2.files := by
  rw [outcome_copy]
  split
  · exact .nothing
  · split
    · exact .nothing
    · split
      · exact .nothing
      · rename_i copy generator _
        split
        · exact .nothing
        · rename_i hnew
          have hwrites : (Command.copy out size noFree).Writes path w.files
              ((s.saveAndShow out copy.card).outcome { w with generator }).2.files :=
            writes_saveAndShow rfl fun _ hwrite => .copied (by simpa using hnew) hwrite
          split
          · rename_i hshown
            rwa [hshown] at hwrites
          · rename_i hshown
            rwa [hshown] at hwrites

/-- **What a command does to the files** is on the list. -/
theorem writes_execute (s : Settings) (path : String) (command : Command) (w : World) :
    command.Writes path w.files ((s.execute path command).outcome w).2.files := by
  cases command with
  | create size header noFree force => exact writes_create
  | copy out size noFree => exact writes_copy
  | print | bingos =>
    rw [execute, outcome_bind, outcome_load]
    cases w.files.card path <;> exact .nothing
  | _ => exact writes_edit rfl

/-- **No command takes anything away**: directories stay, and what was
there is there. -/
theorem grows_execute (command : Command) (w : World) :
    FileTree.Grows w.files ((s.execute path command).outcome w).2.files :=
  (writes_execute s path command w).grows

end Settings

end GoalGrid
