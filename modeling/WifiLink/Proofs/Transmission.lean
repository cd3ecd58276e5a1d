import WifiLink.Transmission
import WifiLink.Proofs.Mode.Rate

/-!
# Rates of a transmission's fields

A field is sent at the rate of the headers, at the rate of its station's payload, or has no rate
because the station takes no part. Which of the three holds depends on neither width, streams
nor guard interval.
-/

namespace WifiLink

variable {α : Type} [Scalar α]

namespace WifiMode

theorem sameAs_spec {mode other : WifiMode α} (same : mode.sameAs other) :
    other.modulation = mode.modulation ∧ other.constellation = mode.constellation := by
  simp only [sameAs, Bool.and_eq_true, beq_iff_eq] at same
  exact ⟨same.1.1.1.2.symm, same.1.1.2.symm⟩

omit [Scalar α] in
theorem isCodedOfdm_ne_fixed {mode : WifiMode α} (coded : mode.isCodedOfdm) :
    mode.modulation ≠ .dsss ∧ mode.modulation ≠ .hrDsss := by
  constructor <;>
  · intro old
    rw [isCodedOfdm, old] at coded
    exact absurd coded (by decide)

/-- The rate of a coded mode follows from class and constellation. -/
theorem phyRate_congr
    {mode other : WifiMode α} (coded : mode.isCodedOfdm)
    (modulation : other.modulation = mode.modulation)
    (constellation : other.constellation = mode.constellation)
    (width : α) (streams guardInterval : Int) :
    other.phyRate width streams guardInterval = mode.phyRate width streams guardInterval := by
  have classes := isCodedOfdm_ne_fixed coded
  unfold phyRate phyRateWith bitsPerSymbol
  rw [modulation, constellation]
  grind

theorem phyRate_of_sameAs
    {mode other : WifiMode α} (coded : mode.isCodedOfdm) (same : mode.sameAs other)
    (width : α) (streams guardInterval : Int) :
    other.phyRate width streams guardInterval = mode.phyRate width streams guardInterval :=
  phyRate_congr coded (sameAs_spec same).1 (sameAs_spec same).2 width streams guardInterval

end WifiMode

namespace Transmission

variable (tx : Transmission α) (mode : WifiMode α) (station : Int)

/-- The station is one of a multi-user transmission, or the transmission is for any station. -/
def Knows : Prop := tx.isMultiUser → ∃ entry ∈ tx.stations, entry.1 = station

/-- A field that is common to all stations, or in another mode than its station's payload. -/
def SentAsHeader : Prop :=
  (tx.isMultiUser ∧ station = commonStation) ∨
    ∃ payload, tx.modeFor station = .ok payload ∧ ¬mode.sameAs payload

variable {tx mode station}

theorem modeFor_of_knows (known : tx.Knows station) :
    ∃ payload, tx.modeFor station = .ok payload := by
  unfold modeFor
  split_ifs with many
  · cases found : tx.stations.find? (·.1 == station) with
    | some entry => exact ⟨entry.2, rfl⟩
    | none =>
        obtain ⟨entry, member, equality⟩ := known many
        have differs := List.find?_eq_none.mp found entry member
        simp [equality] at differs
  · exact ⟨_, rfl⟩

theorem modeFor_of_not_knows (unknown : ¬tx.Knows station) :
    tx.modeFor station = .error (.unknownStation station) := by
  rw [Knows, Classical.not_imp] at unknown
  obtain ⟨many, absent⟩ := unknown
  unfold modeFor
  rw [if_pos many]
  cases found : tx.stations.find? (·.1 == station) with
  | none => rfl
  | some entry =>
      have equality : entry.1 = station := by
        simpa using List.find?_some found
      exact absurd ⟨entry, List.mem_of_find?_eq_some found, equality⟩ absent

/-- Headers have one stream and the standard guard interval. -/
theorem effectiveRate_header
    (header : tx.SentAsHeader mode station) (settings : Settings α) :
    tx.effectiveRate mode station settings = mode.phyRate (tx.headerWidth settings) := by
  have basis : tx.rateBasis mode station = .ok .header := by
    unfold rateBasis
    rcases header with common | ⟨payload, found, differs⟩
    · rw [if_pos common]
    · split_ifs
      · rfl
      · rw [found, ok_bind, if_neg differs]
        rfl
  rw [effectiveRate, basis, ok_bind]
  rfl

/-- A payload is sent as its station's own mode is. -/
theorem exists_effectiveRate_eq_of_payload
    (known : tx.Knows station) (payload : ¬tx.SentAsHeader mode station) (settings : Settings α) :
    ∃ own, mode.sameAs own ∧
      tx.effectiveRate mode station settings =
        own.phyRate tx.width tx.streams tx.guardInterval := by
  obtain ⟨own, found⟩ := modeFor_of_knows known
  rw [SentAsHeader, not_or, not_exists] at payload
  have same : mode.sameAs own := by
    by_contra differs
    exact payload.2 own ⟨found, differs⟩
  have basis : tx.rateBasis mode station = .ok .payload := by
    rw [rateBasis, if_neg payload.1, found, ok_bind, if_pos same]
    rfl
  refine ⟨own, same, ?_⟩
  rw [effectiveRate, basis, ok_bind, rateOn, phyRate, found, ok_bind]

theorem effectiveRate_payload
    (coded : mode.isCodedOfdm) (known : tx.Knows station)
    (payload : ¬tx.SentAsHeader mode station) (settings : Settings α) :
    tx.effectiveRate mode station settings =
      mode.phyRate tx.width tx.streams tx.guardInterval := by
  obtain ⟨own, same, sent⟩ := exists_effectiveRate_eq_of_payload known payload settings
  rw [sent, WifiMode.phyRate_of_sameAs coded same]

theorem effectiveRate_unknown
    (unknown : ¬tx.Knows station) (individual : ¬tx.SentAsHeader mode station)
    (settings : Settings α) :
    tx.effectiveRate mode station settings = .error (.unknownStation station) := by
  rw [SentAsHeader, not_or] at individual
  rw [effectiveRate, rateBasis, if_neg individual.1, modeFor_of_not_knows unknown]
  rfl

theorem effectiveRate_eq_ok
    (coded : mode.isCodedOfdm) {settings : Settings α} {rate : α}
    (answered : tx.effectiveRate mode station settings = .ok rate) :
    (tx.SentAsHeader mode station ∧ mode.phyRate (tx.headerWidth settings) = .ok rate) ∨
      (¬tx.SentAsHeader mode station ∧
        mode.phyRate tx.width tx.streams tx.guardInterval = .ok rate) := by
  by_cases header : tx.SentAsHeader mode station
  · rw [effectiveRate_header header] at answered
    exact Or.inl ⟨header, answered⟩
  by_cases known : tx.Knows station
  · rw [effectiveRate_payload coded known header] at answered
    exact Or.inr ⟨header, answered⟩
  · rw [effectiveRate_unknown known header] at answered
    cases answered

/-! ## Single-user transmissions -/

/-- A transmission of one mode on a channel of positive width. -/
def single
    (mode : WifiMode α) (width : α) (streams guardInterval : Int) (wide : ¬width ≤ 0.0) :
    Transmission α :=
  ⟨width, [(commonStation, mode)], false, streams, guardInterval, wide, List.cons_ne_nil _ _⟩

section Single

variable {mode : WifiMode α} {width : α} {streams guardInterval : Int}

variable (mode streams guardInterval) in
theorem singleUser_of_wide (wide : ¬width ≤ 0.0) :
    singleUser mode width streams guardInterval =
      .ok (single mode width streams guardInterval wide) := by
  simp [singleUser, make, single, wide, assignAll, assign]

theorem eq_single_of_singleUser {tx : Transmission α}
    (made : singleUser mode width streams guardInterval = .ok tx) :
    ∃ wide, tx = single mode width streams guardInterval wide := by
  by_cases wide : width ≤ 0.0
  · simp [singleUser, make, wide] at made
  · rw [singleUser_of_wide mode streams guardInterval wide] at made
    exact ⟨wide, (Except.ok.inj made).symm⟩

variable (wide : ¬width ≤ 0.0)

/-- The station does not matter. -/
@[simp]
theorem modeFor_single (station : Int) :
    (single mode width streams guardInterval wide).modeFor station = .ok mode :=
  rfl

/-- A mode that is the same as itself is sent as the payload of its own transmission. -/
theorem effectiveRate_single
    (own : mode.sameAs mode) (station : Int) (settings : Settings α) :
    (single mode width streams guardInterval wide).effectiveRate mode station settings =
      mode.phyRate width streams guardInterval := by
  simp [effectiveRate, rateBasis, rateOn, phyRate, single, modeFor, own]

end Single

end Transmission

end WifiLink
