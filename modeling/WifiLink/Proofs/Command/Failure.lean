import WifiLink.Proofs.Command.Question
import WifiLink.Proofs.Command.Steps

/-!
# What a failed command leaves

A command first finds out all that its question needs. Only then does it print or save, so a
command that something is wrong with leaves nothing behind. What can still fail are the files
themselves: the table of a sweep, and its figure with what a figure alone needs, its axis and its
format. The title of the figure is made after the table is saved, and can fail where no mode is
swept and the width is an empty list of values, which only an earlier argument parser makes of it.
-/

namespace WifiLink.Command

/-! ## Settings -/

/-- Saves the table of a sweep if a file is named for it. -/
def saveTable (options : Options) (rows : List (SweepRow Float)) : Action Unit :=
  match options.out with
  | some place => do
      saveIn place (.text (SweepRow.csv rows))
      printLines ["Saved " ++ toString rows.length ++ " rows to " ++ place.text]
  | none => pure ()

/-- What was printed and what lies in files and folders is as it was. -/
structure Untouched (before after : Session) : Prop where
  printed : after.printed = before.printed
  storage : after.storage = before.storage

/-- Making a file of a sweep fails: the table, or the figure after the table if there is one. -/
inductive WritingFails (options : Options) (rows : List (SweepRow Float)) (begun : Session) :
    Failure → Prop
  | table {place : Location} {failure : Failure} {after : Session} :
      options.out = some place →
        (saveIn place (.text (SweepRow.csv rows))).run.run begun = (.error failure, after) →
          WritingFails options rows begun failure
  | figure {place : Location} {title : String} {before after : Session} {failure : Failure} :
      options.plot = some place → (saveTable options rows).run.run begun = (.ok (), before) →
        options.figureTitle = .ok title →
        (saveFigure place (figure rows title)).run.run before = (.error failure, after) →
          WritingFails options rows begun failure

/-- A title is made unless the width is missing. -/
private theorem figureTitle_eq_error_iff {options : Options} {fault : Fault Float} :
    options.figureTitle = .error fault ↔
      options.width = none ∧ fault = .valueMissing .widthInTitle := by
  rw [Options.figureTitle]
  cases options.width with
  | none =>
      constructor
      · rintro ⟨⟩
        exact ⟨rfl, rfl⟩
      · rintro ⟨_, rfl⟩
        rfl
  | some width =>
      constructor
      · rintro ⟨⟩
      · rintro ⟨⟨⟩, _⟩

/-- Nothing is wrong with a command, but making the files of its sweep fails. -/
def FailsInWriting (arguments : List String) (dashes : AttachedDashes) (session : Session)
    (failure : Failure) : Prop :=
  ∃ options settings rows begun, Commands arguments dashes session.storage options settings ∧
    options.table = false ∧ options.sweep ≠ "" ∧ Swept options settings rows ∧
    Untouched session begun ∧ WritingFails options rows begun failure

/-- Nothing is wrong with a command, but its sweep is one of no modes, which has a table saved ahead
of a figure, and making the title of this figure fails for want of the width. -/
def FailsInTitle (arguments : List String) (dashes : AttachedDashes) (session : Session)
    (failure : Failure) : Prop :=
  failure = .fault (.valueMissing .widthInTitle) ∧
    ∃ options settings rows, Commands arguments dashes session.storage options settings ∧
      options.table = false ∧ options.sweep ≠ "" ∧ Swept options settings rows ∧
      options.sweepNames = [] ∧ options.out.isSome ∧ options.Untitled

section Sound

variable {arguments : List String} {dashes : AttachedDashes} {session : Session}
  {failure : Failure}

private theorem WritingFails.titled {options : Options} {rows : List (SweepRow Float)}
    {begun : Session} (fails : WritingFails options rows begun failure)
    (untabled : options.out = none) : ¬options.Untitled := by
  intro untitled
  cases fails with
  | table named _ => cases untabled.symm.trans named
  | figure _ _ titled _ =>
      have unmade := figureTitle_eq_error_iff.mpr ⟨untitled.width, rfl⟩
      cases titled.symm.trans unmade

theorem FailsInWriting.not_flawed (fails : FailsInWriting arguments dashes session failure) :
    ¬Flawed arguments dashes session.storage := by
  obtain ⟨options, settings, rows, begun, commands, _, sweeps, swept, _, writing⟩ := fails
  exact commands.not_flawed (fun _ _ => ⟨swept.not_sweepFlaw, writing.titled⟩)
    (fun _ noSweep => absurd noSweep sweeps)

theorem FailsInTitle.not_flawed (fails : FailsInTitle arguments dashes session failure) :
    ¬Flawed arguments dashes session.storage := by
  obtain ⟨_, options, settings, rows, commands, _, sweeps, swept, _, tabled, _⟩ := fails
  refine commands.not_flawed (fun _ _ => ⟨swept.not_sweepFlaw, fun untabled => ?_⟩)
    (fun _ noSweep => absurd noSweep sweeps)
  rw [untabled] at tabled
  cases tabled

end Sound

section Running

variable {arguments : List String} {dashes : AttachedDashes} {session : Session}

end Running

end WifiLink.Command
