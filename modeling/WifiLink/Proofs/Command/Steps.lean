import WifiLink.Proofs.Text.Columns
import WifiLink.Command.Run

/-!
# Steps of a command

What a step does to the state of a command. Calculations and readings leave the state as it is,
whether they come to a value or end the command; only printing, logging and storing change it.
-/

namespace WifiLink.Command

section Steps

variable {β γ : Type}

/-- The step comes to a value and leaves the state as it is. -/
def Finds (action : Action β) (session : Session) (value : β) : Prop :=
  action.run.run session = (.ok value, session)

/-- The step ends the command and leaves the state as it is. -/
def Stops (action : Action β) (session : Session) : Prop :=
  ∃ failure, action.run.run session = (.error failure, session)

theorem run_bind (action : Action β) (next : β → Action γ) (session : Session) :
    (action >>= next).run.run session =
      match action.run.run session with
      | (.ok value, after) => (next value).run.run after
      | (.error failure, after) => (.error failure, after) := by
  rw [ExceptT.run_bind, StateT.run_bind]
  rcases action.run.run session with ⟨answer, after⟩
  cases answer <;> rfl

/-- A chain of two steps fails in the first or, after that one, in the second. -/
theorem run_bind_eq_error_iff {action : Action β} {next : β → Action γ} {session after : Session}
    {failure : Failure} :
    (action >>= next).run.run session = (.error failure, after) ↔
      action.run.run session = (.error failure, after) ∨
        ∃ value between, action.run.run session = (.ok value, between) ∧
          (next value).run.run between = (.error failure, after) := by
  rw [run_bind]
  rcases action.run.run session with ⟨answer, between⟩
  cases answer with
  | error cause =>
      constructor
      · rintro ⟨⟩
        exact .inl rfl
      · rintro (⟨⟨⟩⟩ | ⟨_, _, ⟨⟩, _⟩)
        rfl
  | ok value =>
      constructor
      · exact fun failed => .inr ⟨value, between, rfl, failed⟩
      · rintro (⟨⟨⟩⟩ | ⟨_, _, ⟨⟩, failed⟩)
        exact failed

theorem Finds.run_bind {action : Action β} {session : Session} {value : β}
    (finds : Finds action session value) (next : β → Action γ) :
    (action >>= next).run.run session = (next value).run.run session := by
  rw [Command.run_bind, finds]

theorem Stops.bind {action : Action β} {session : Session} (stops : Stops action session)
    (next : β → Action γ) : Stops (action >>= next) session := by
  obtain ⟨failure, ended⟩ := stops
  exact ⟨failure, run_bind_eq_error_iff.mpr (.inl ended)⟩

theorem run_readFile (place : Location) (session : Session) :
    (readFile place).run.run session =
      ((session.storage.read place).mapError Failure.storage, session) := by
  have current : (get : Action Session).run.run session = (.ok session, session) := rfl
  rw [readFile, run_bind, current]
  dsimp only
  cases session.storage.read place <;> rfl

theorem run_printTable_of_lines {rows : List (List String)} {lines : List String}
    (shown : (Text.columnLines rows : Except (Fault Float) (List String)) = .ok lines)
    (session : Session) :
    (printTable rows).run.run session =
      (.ok (), { session with printed := session.printed ++ Text.unlines lines }) := by
  rw [printTable, shown]
  rfl

end Steps

end WifiLink.Command
