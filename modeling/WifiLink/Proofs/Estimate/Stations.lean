import WifiLink.Proofs.Estimate.Outcome

/-!
# What an estimate does not depend on

An estimate for a station of a multi-user transmission looks up the mode of that station and no
other one; one for the common fields looks up none, and has neither streams nor guard interval;
and one for a single-user transmission looks at the first station, whichever is asked for.
-/

namespace WifiLink

/-! ## Look-ups -/

section Assign

variable {κ β : Type} [DecidableEq κ]

/-- The value that pairs mention last for a key. -/
def lastValue? (key : κ) (pairs : List (κ × β)) : Option β :=
  (pairs.reverse.find? (·.1 == key)).map (·.2)

private theorem assignAll_concat (pairs : List (κ × β)) (pair : κ × β) :
    assignAll (pairs ++ [pair]) = assign pair.1 pair.2 (assignAll pairs) := by
  simp [assignAll]

private theorem find?_assign (key other : κ) (value : β) (entries : List (κ × β)) :
    ((assign key value entries).find? (·.1 == other)).map (·.2) =
      if key = other then some value else (entries.find? (·.1 == other)).map (·.2) := by
  induction entries with
  | nil => by_cases same : key = other <;> simp [assign, same]
  | cons entry rest inductionHypothesis =>
      by_cases replaced : entry.1 = key
      · subst replaced
        by_cases same : entry.1 = other <;> simp [assign, same]
      · rw [assign, if_neg replaced]
        by_cases same : entry.1 = other
        · have different : key ≠ other := fun equal => replaced (same.trans equal.symm)
          simp [same, different]
        · simp [same, inductionHypothesis]

private theorem find?_assignAll (key : κ) (pairs : List (κ × β)) :
    ((assignAll pairs).find? (·.1 == key)).map (·.2) = lastValue? key pairs := by
  induction pairs using List.reverseRecOn with
  | nil => rfl
  | append_singleton pairs pair inductionHypothesis =>
      rw [assignAll_concat, find?_assign, inductionHypothesis, lastValue?, lastValue?,
        List.reverse_append, List.reverse_singleton, List.singleton_append]
      by_cases same : pair.1 = key <;> simp [same]

private theorem head?_assign (key : κ) (value : β) (entries : List (κ × β)) :
    (assign key value entries).head?.map (·.1) = some ((entries.head?.map (·.1)).getD key) := by
  cases entries with
  | nil => rfl
  | cons entry rest =>
      by_cases replaced : entry.1 = key <;> simp [assign, replaced]

private theorem head?_assignAll (pairs : List (κ × β)) :
    (assignAll pairs).head?.map (·.1) = pairs.head?.map (·.1) := by
  induction pairs using List.reverseRecOn with
  | nil => rfl
  | append_singleton pairs pair inductionHypothesis =>
      rw [assignAll_concat, head?_assign, inductionHypothesis]
      cases pairs <;> rfl

end Assign

variable {α : Type} [Scalar α]

namespace Transmission

variable {tx tx' : Transmission α}

/-- The mode of a station, if it takes part. -/
def modeOf? (tx : Transmission α) (station : Int) : Option (WifiMode α) :=
  (tx.stations.find? (·.1 == station)).map (·.2)

def firstMode (tx : Transmission α) : WifiMode α := (tx.stations.head tx.stations_nonempty).2

section Make

variable {width : α} {stations : List (Int × WifiMode α)} {isMultiUser : Bool}
  {streams guardInterval : Int}

private theorem exists_make (wide : ¬width ≤ 0.0) (first : Int × WifiMode α)
    (rest : List (Int × WifiMode α)) (isMultiUser : Bool) (streams guardInterval : Int) :
    ∃ tx, make width (first :: rest) isMultiUser streams guardInterval = .ok tx := by
  have assigned : assignAll (first :: rest) ≠ [] := by
    intro none
    have head := head?_assignAll (first :: rest)
    rw [none] at head
    cases head
  rw [make, dif_neg wide, dif_neg assigned]
  exact ⟨_, rfl⟩

variable (made : make width stations isMultiUser streams guardInterval = .ok tx)
include made

private theorem spec_of_make :
    tx.width = width ∧ tx.stations = assignAll stations ∧ tx.isMultiUser = isMultiUser ∧
      tx.streams = streams ∧ tx.guardInterval = guardInterval := by
  unfold make at made
  split_ifs at made
  cases made
  exact ⟨rfl, rfl, rfl, rfl, rfl⟩

/-- Of a station that is mentioned repeatedly the last mode counts. -/
theorem modeOf?_of_make (station : Int) : tx.modeOf? station = lastValue? station stations := by
  rw [modeOf?, (spec_of_make made).2.1, find?_assignAll]

private theorem firstMode_of_make :
    (stations.head?.bind fun first => lastValue? first.1 stations) = some tx.firstMode := by
  have assigned := (spec_of_make made).2.1
  have first := head?_assignAll stations
  rw [← assigned] at first
  cases listed : tx.stations with
  | nil => exact absurd listed tx.stations_nonempty
  | cons entry rest =>
      cases stations with
      | nil =>
        rw [listed] at first
        cases first
      | cons pair others =>
        rw [listed] at first
        have same : entry.1 = pair.1 := Option.some.inj first
        rw [List.head?_cons, Option.bind_some, ← find?_assignAll, ← assigned, listed, ← same]
        simp [firstMode, listed]

end Make

private theorem modeFor_of_multiUser (many : tx.isMultiUser) (station : Int) :
    tx.modeFor station =
      (tx.modeOf? station).elim (.error (.unknownStation station)) Except.ok := by
  rw [modeFor, if_pos many, modeOf?]
  cases tx.stations.find? (·.1 == station) <;> rfl

private theorem modeFor_of_singleUser (single : ¬tx.isMultiUser) (station : Int) :
    tx.modeFor station = .ok tx.firstMode :=
  if_neg single

/-- Two transmissions that no estimate tells apart, the one for the first station and the other for
the second. -/
inductive AlikeFor (tx tx' : Transmission α) : Int → Int → Prop
  | payload {station : Int} :
      tx.isMultiUser → tx'.isMultiUser → tx.width = tx'.width → tx.streams = tx'.streams →
        tx.guardInterval = tx'.guardInterval → tx.modeOf? station = tx'.modeOf? station →
          AlikeFor tx tx' station station
  | common :
      tx.isMultiUser → tx'.isMultiUser → tx.width = tx'.width →
        AlikeFor tx tx' commonStation commonStation
  | singleUser {station station' : Int} :
      ¬tx.isMultiUser → ¬tx'.isMultiUser → tx.width = tx'.width → tx.streams = tx'.streams →
        tx.guardInterval = tx'.guardInterval → tx.firstMode = tx'.firstMode →
          AlikeFor tx tx' station station'

private theorem effectiveRate_of_modeFor_eq {station station' : Int}
    (width : tx.width = tx'.width) (streams : tx.streams = tx'.streams)
    (guardInterval : tx.guardInterval = tx'.guardInterval)
    (common : (tx.isMultiUser ∧ station = commonStation) ↔
      (tx'.isMultiUser ∧ station' = commonStation))
    (own : tx.modeFor station = tx'.modeFor station')
    (mode : WifiMode α) (settings : Settings α) :
    tx.effectiveRate mode station settings = tx'.effectiveRate mode station' settings := by
  -- Whether the rate is the payload's is decided from the same mode, so the same rate is taken.
  have basis : tx.rateBasis mode station = tx'.rateBasis mode station' := by
    simp only [rateBasis, common, own]
  have rates (basis : RateBasis) :
      tx.rateOn basis mode station settings = tx'.rateOn basis mode station' settings := by
    cases basis with
    | payload => simp only [rateOn, phyRate, own, width, streams, guardInterval]
    | header => simp only [rateOn, headerWidth, width]
  simp only [effectiveRate, basis, rates]

private theorem AlikeFor.width_eq {station station' : Int}
    (alike : AlikeFor tx tx' station station') :
    tx.width = tx'.width := by
  cases alike <;> assumption

private theorem AlikeFor.effectiveRate_eq {station station' : Int}
    (alike : AlikeFor tx tx' station station') (mode : WifiMode α) (settings : Settings α) :
    tx.effectiveRate mode station settings = tx'.effectiveRate mode station' settings := by
  cases alike with
  | payload many many' width streams guardInterval own =>
      apply effectiveRate_of_modeFor_eq width streams guardInterval
      · simp [many, many']
      · rw [modeFor_of_multiUser many, modeFor_of_multiUser many', own]
  | common many many' width =>
      rw [effectiveRate_header (.inl ⟨many, rfl⟩), effectiveRate_header (.inl ⟨many', rfl⟩),
        headerWidth, headerWidth, width]
  | singleUser single single' width streams guardInterval first =>
      apply effectiveRate_of_modeFor_eq width streams guardInterval
      · simp [single, single']
      · rw [modeFor_of_singleUser single, modeFor_of_singleUser single', first]

end Transmission

/-- Of the transmission itself an estimate sees the width. -/
theorem estimateWith_of_width_eq {tx tx' : Transmission α} (width : tx.width = tx'.width)
    (rate : Except (Fault α) α) (chunk : Chunk α) (field : PpduField) (station : Int) :
    estimateWith tx rate chunk =
      estimateWith tx' rate { chunk with field := field, station := station } := by
  simp only [estimateWith, survivalAt, width]

/-- Transmissions that are alike for two stations have the same estimates or the same failures, in
every mode, at every ratio, for all bits, and for whatever fields. -/
theorem estimate_of_alikeFor {tx tx' : Transmission α} {station station' : Int}
    (alike : tx.AlikeFor tx' station station') (settings : Settings α) (chunk : Chunk α)
    (field field' : PpduField) :
    estimate tx settings { chunk with field := field, station := station } =
      estimate tx' settings { chunk with field := field', station := station' } := by
  rw [estimate, estimate]
  dsimp only
  rw [alike.effectiveRate_eq chunk.mode settings]
  exact estimateWith_of_width_eq alike.width_eq _ _ field' station'

/-! ## A sample -/

section Sample

open Exact Transmission

variable {tail : ErrorTail}

variable (tail) in
/-- The second slowest high-throughput mode. -/
noncomputable def denserMode : WifiMode (Exact tail) :=
  { htMode tail with name := "HtMcs1", constellation := 4 }

/-- Two transmissions that have station 1 in common, one that has nothing in common with them but
the width, and two single-user ones that begin with the same mode. -/
theorem htTransmission_alike :
    ∃ tx tx' other single single' : Transmission (Exact gaussianTail),
      make (finite 20) [(1, htMode _), (2, denserMode _)] true 1 800 = .ok tx ∧
      make (finite 20) [(3, htMode _), (1, denserMode _), (1, htMode _)] true 1 800 = .ok tx' ∧
      make (finite 20) [(4, denserMode _)] true 2 400 = .ok other ∧
      make (finite 20) [(5, htMode _), (6, denserMode _)] false 1 800 = .ok single ∧
      make (finite 20) [(7, denserMode _), (7, htMode _)] false 1 800 = .ok single' ∧
      estimate tx .standard { htChunk (finite 1) 8 with field := .data, station := 1 } =
        estimate tx' .standard { htChunk (finite 1) 8 with field := .sigB, station := 1 } ∧
      estimate tx .standard
          { htChunk (finite 1) 8 with field := .data, station := commonStation } =
        estimate other .standard
          { htChunk (finite 1) 8 with field := .sigB, station := commonStation } ∧
      estimate single .standard { htChunk (finite 1) 8 with field := .data, station := 1 } =
        estimate single' .standard { htChunk (finite 1) 8 with field := .sigB, station := 2 } := by
  have wide : ¬(finite 20 : Exact gaussianTail) ≤ 0.0 := WifiMode.not_twenty_nonpos
  obtain ⟨tx, made⟩ := exists_make wide (1, htMode _) [(2, denserMode _)] true 1 800
  obtain ⟨tx', made'⟩ :=
    exists_make wide (3, htMode _) [(1, denserMode _), (1, htMode _)] true 1 800
  obtain ⟨other, madeOther⟩ := exists_make wide (4, denserMode _) [] true 2 400
  obtain ⟨single, madeSingle⟩ := exists_make wide (5, htMode _) [(6, denserMode _)] false 1 800
  obtain ⟨single', madeSingle'⟩ := exists_make wide (7, denserMode _) [(7, htMode _)] false 1 800
  obtain ⟨width, _, many, streams, guardInterval⟩ := spec_of_make made
  obtain ⟨width', _, many', streams', guardInterval'⟩ := spec_of_make made'
  obtain ⟨widthOther, _, manyOther, _, _⟩ := spec_of_make madeOther
  obtain ⟨widthSingle, _, one, streamsSingle, guardSingle⟩ := spec_of_make madeSingle
  obtain ⟨widthSingle', _, one', streamsSingle', guardSingle'⟩ := spec_of_make madeSingle'
  have own : tx.modeOf? 1 = tx'.modeOf? 1 := by
    rw [modeOf?_of_make made, modeOf?_of_make made']
    rfl
  have firstOf : some single.firstMode = some (htMode _) := (firstMode_of_make madeSingle).symm
  have firstOf' : some single'.firstMode = some (htMode _) := (firstMode_of_make madeSingle').symm
  have first : single.firstMode = single'.firstMode :=
    Option.some.inj (firstOf.trans firstOf'.symm)
  refine ⟨tx, tx', other, single, single', made, made', madeOther, madeSingle, madeSingle', ?_⟩
  refine ⟨?_, ?_, ?_⟩
  · exact estimate_of_alikeFor (.payload many many' (width.trans width'.symm)
      (streams.trans streams'.symm) (guardInterval.trans guardInterval'.symm) own) _ _ _ _
  · exact estimate_of_alikeFor (.common many manyOther (width.trans widthOther.symm)) _ _ _ _
  · exact estimate_of_alikeFor (.singleUser (Bool.not_eq_true _ ▸ one) (Bool.not_eq_true _ ▸ one')
      (widthSingle.trans widthSingle'.symm) (streamsSingle.trans streamsSingle'.symm)
      (guardSingle.trans guardSingle'.symm) first) _ _ _ _

end Sample

end WifiLink
