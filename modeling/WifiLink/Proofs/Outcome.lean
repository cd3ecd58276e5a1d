import WifiLink.Fault

/-!
# Answers and failures

How a chain of calculations comes to its answer or to its first failure, and which failures refuse
the question that was asked.
-/

namespace WifiLink

section Chains

variable {ε β γ : Type}

@[simp]
theorem ok_bind (value : β) (next : β → Except ε γ) :
    (Except.ok value >>= next) = next value :=
  rfl

@[simp]
theorem error_bind (fault : ε) (next : β → Except ε γ) :
    ((Except.error fault : Except ε β) >>= next) = .error fault :=
  rfl

theorem bind_eq_ok_iff
    {first : Except ε β} {next : β → Except ε γ} {result : γ} :
    (first >>= next) = .ok result ↔
      ∃ value, first = .ok value ∧ next value = .ok result := by
  cases first with
  | error fault => simp
  | ok value => simp

end Chains

section Lifting

variable {α β : Type}

@[simp]
theorem lift_ok (value : β) :
    (liftM (Except.ok value : Except ArithmeticFault β) : Except (Fault α) β) = .ok value :=
  rfl

@[simp]
theorem lift_error (cause : ArithmeticFault) :
    (liftM (Except.error cause : Except ArithmeticFault β) : Except (Fault α) β) =
      .error (.arithmetic cause) :=
  rfl

end Lifting

/-- Nothing but a calculation can keep the answer back. -/
def Calculates {α β : Type} (answer : Except (Fault α) β) : Prop :=
  ∀ fault, answer = .error fault → ∃ cause, fault = .arithmetic cause

namespace Calculates

variable {α β γ : Type}

theorem ok (value : β) : Calculates (.ok value : Except (Fault α) β) :=
  nofun

theorem lift (answer : Except ArithmeticFault β) :
    Calculates (liftM answer : Except (Fault α) β) := by
  intro fault failed
  cases answer with
  | ok value => cases failed
  | error cause => exact ⟨cause, (Except.error.inj failed).symm⟩

theorem bind {first : Except (Fault α) β} {next : β → Except (Fault α) γ}
    (calculates : Calculates first) (onwards : ∀ value, Calculates (next value)) :
    Calculates (first >>= next) := by
  intro fault failed
  cases first with
  | ok value => exact onwards value fault failed
  | error cause =>
      cases failed
      exact calculates fault rfl

end Calculates

/-- Whether a failure says that the question is no valid one. The others are those of a
calculation, of a text that names nothing, and of a table or file that lacks something. -/
def Fault.refusesQuestion {α : Type} : Fault α → Bool
  | .arithmetic _ | .unknownCodeRate _ | .unknownField _ | .stepNotPositive | .stopBelowStart
  | .settingsNotUtf8 _ | .cellMissing | .valueMissing _ => false
  | _ => true

/-- The question is turned down as invalid. -/
def Refused {α β : Type} (answer : Except (Fault α) β) : Prop :=
  ∃ fault : Fault α, answer = .error fault ∧ fault.refusesQuestion

theorem refused_error {α β : Type} {fault : Fault α}
    (refuses : fault.refusesQuestion) :
    Refused (.error fault : Except (Fault α) β) :=
  ⟨fault, rfl, refuses⟩

@[simp]
theorem not_refused_ok {α β : Type} (value : β) :
    ¬Refused (.ok value : Except (Fault α) β) := by
  rintro ⟨fault, equality, _⟩
  cases equality

theorem not_refused_of_eq_ok {α β : Type} {answer : Except (Fault α) β} {value : β}
    (answered : answer = .ok value) : ¬Refused answer := by
  rw [answered]
  exact not_refused_ok value

/-- A refusal ends the chain that it stands in. -/
theorem Refused.bind {α β γ : Type} {first : Except (Fault α) β}
    (refused : Refused first) (next : β → Except (Fault α) γ) :
    Refused (first >>= next) := by
  obtain ⟨fault, rfl, refuses⟩ := refused
  exact ⟨fault, rfl, refuses⟩

end WifiLink
