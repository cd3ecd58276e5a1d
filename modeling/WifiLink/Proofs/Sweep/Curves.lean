import Mathlib
import WifiLink.Double.Arithmetic
import WifiLink.Sweep.Curves

/-!
# Curves of a figure

The curves sort the rows that have a success probability by their modes: one curve for each mode,
in the order in which the modes come up, and on it all points of the mode as they stand in the
rows. A figure draws each curve under its mode. Only the empty mode is no label, and the name that
stands for it may be a mode as well.
-/

namespace WifiLink

variable {α : Type}

/-! ## Modes and points of rows -/

/-- Whether a row is of a mode and has a success probability. -/
def SweepRow.models (row : SweepRow α) (mode : String) : Bool :=
  row.mode == mode && row.success.isSome

/-- The modes with a success probability, in the order in which rows first have one for them. -/
def modeledModes (rows : List (SweepRow α)) : List String :=
  ((rows.filter (·.success.isSome)).map (·.mode)).eraseDups

/-- The points of a mode, in the order of the rows. -/
def modePoints (rows : List (SweepRow α)) (mode : String) : List (α × α) :=
  rows.filterMap fun row =>
    if row.mode = mode then row.success.map (row.decibels, ·) else none

section Rows

variable {rows : List (SweepRow α)} {row : SweepRow α} {mode : String}

private theorem models_iff : row.models mode ↔ row.mode = mode ∧ row.success.isSome := by
  rw [SweepRow.models, Bool.and_eq_true, beq_iff_eq]

private theorem mem_modeledModes_iff :
    mode ∈ modeledModes rows ↔ ∃ row ∈ rows, row.models mode := by
  simp only [modeledModes, List.mem_eraseDups, List.mem_map, List.mem_filter, models_iff, and_assoc,
    and_comm]

private theorem modePoints_of_not_mem (unknown : mode ∉ modeledModes rows) :
    modePoints rows mode = [] := by
  rw [modePoints, List.filterMap_eq_nil_iff]
  intro row member
  split_ifs with own
  · rw [Option.map_eq_none_iff, ← Option.not_isSome_iff_eq_none]
    exact fun modeled =>
      unknown (mem_modeledModes_iff.mpr ⟨row, member, models_iff.mpr ⟨own, modeled⟩⟩)
  · rfl

section Unmodeled

variable (unmodeled : row.success = none)
include unmodeled

private theorem modeledModes_concat_of_none : modeledModes (rows ++ [row]) = modeledModes rows := by
  simp [modeledModes, unmodeled]

private theorem modePoints_concat_of_none :
    modePoints (rows ++ [row]) mode = modePoints rows mode := by
  simp [modePoints, unmodeled]

private theorem curves_concat_of_none : curves (rows ++ [row]) = curves rows := by
  simp [curves, unmodeled]

end Unmodeled

section Modeled

variable {success : α} (modeled : row.success = some success)
include modeled

private theorem modeledModes_concat_of_some :
    modeledModes (rows ++ [row]) =
      if row.mode ∈ modeledModes rows then modeledModes rows
      else modeledModes rows ++ [row.mode] := by
  unfold modeledModes
  simp only [List.filter_append, List.map_append, List.eraseDups_append, List.mem_eraseDups]
  split_ifs with known
  · simp [modeled, List.removeAll, known]
  · simp [modeled, List.removeAll, known, List.eraseDups_cons]

private theorem modePoints_concat_of_some :
    modePoints (rows ++ [row]) mode =
      if row.mode = mode then modePoints rows mode ++ [(row.decibels, success)]
      else modePoints rows mode := by
  by_cases own : row.mode = mode <;> simp [modePoints, modeled, own]

private theorem curves_concat_of_some :
    curves (rows ++ [row]) = addPoint row.mode (row.decibels, success) (curves rows) := by
  simp [curves, modeled]

end Modeled

end Rows

/-- A mode stands before another if a row has a success probability for it earlier. -/
theorem modeledModes_ordered (rows : List (SweepRow α)) :
    (modeledModes rows).Pairwise fun earlier later =>
      rows.findIdx (·.models earlier) < rows.findIdx (·.models later) := by
  induction rows using List.reverseRecOn with
  | nil => exact .nil
  | append_singleton rows row inductionHypothesis =>
      -- The row that is added is the first of no mode that came up before.
      have found {mode : String} (member : mode ∈ modeledModes rows) :
          rows.findIdx (·.models mode) < rows.length :=
        List.findIdx_lt_length.mpr (mem_modeledModes_iff.mp member)
      have kept : (modeledModes rows).Pairwise fun earlier later =>
          (rows ++ [row]).findIdx (·.models earlier) <
            (rows ++ [row]).findIdx (·.models later) := by
        refine inductionHypothesis.imp_of_mem fun {earlier later} first second before => ?_
        rw [List.findIdx_append, List.findIdx_append, if_pos (found first), if_pos (found second)]
        exact before
      cases modeled : row.success with
      | none =>
          rw [modeledModes_concat_of_none modeled]
          exact kept
      | some success =>
          rw [modeledModes_concat_of_some modeled]
          split_ifs with known
          · exact kept
          refine List.pairwise_append.mpr ⟨kept, List.pairwise_singleton _ _, ?_⟩
          intro earlier member later single
          obtain rfl := List.mem_singleton.mp single
          have absent : rows.findIdx (·.models row.mode) = rows.length := by
            rw [List.findIdx_eq_length]
            exact fun other listed => Bool.eq_false_iff.mpr fun own =>
              known (mem_modeledModes_iff.mpr ⟨other, listed, own⟩)
          rw [List.findIdx_append, List.findIdx_append, if_pos (found member), absent,
            if_neg (lt_irrefl _)]
          have := found member
          omega

private theorem modeledModes_nodup (rows : List (SweepRow α)) : (modeledModes rows).Nodup :=
  (modeledModes_ordered rows).imp fun before equal => before.ne (by rw [equal])

/-! ## Sorting by modes -/

/-- Adding a point to curves of distinct modes adds it to the points of one mode. -/
theorem addPoint_map {modes : List String} (distinct : modes.Nodup)
    {points : String → List (α × α)} {label : String} (fresh : label ∉ modes → points label = [])
    (point : α × α) :
    addPoint label point (modes.map fun mode => ⟨mode, points mode⟩) =
      (if label ∈ modes then modes else modes ++ [label]).map fun mode =>
        ⟨mode, if label = mode then points mode ++ [point] else points mode⟩ := by
  induction modes with
  | nil => simp [addPoint, fresh]
  | cons mode rest inductionHypothesis =>
      obtain ⟨apart, distinct⟩ := List.nodup_cons.mp distinct
      rw [List.map_cons, addPoint]
      by_cases own : mode = label
      · subst own
        have others : rest.map (fun other => (⟨other, points other⟩ : Curve α)) =
            rest.map fun other =>
              ⟨other, if mode = other then points other ++ [point] else points other⟩ := by
          refine List.map_congr_left fun other member => ?_
          have different : mode ≠ other := fun equal => apart (equal ▸ member)
          rw [if_neg different]
        rw [if_pos rfl, if_pos List.mem_cons_self, List.map_cons, if_pos rfl, others]
      · have below := inductionHypothesis distinct fun unknown =>
          fresh fun member => (List.mem_cons.mp member).elim (Ne.symm own) unknown
        rw [if_neg own, below]
        by_cases known : label ∈ rest <;> simp [known, Ne.symm own]

private theorem curves_eq (rows : List (SweepRow α)) :
    curves rows = (modeledModes rows).map fun mode => ⟨mode, modePoints rows mode⟩ := by
  induction rows using List.reverseRecOn with
  | nil => rfl
  | append_singleton rows row inductionHypothesis =>
      cases modeled : row.success with
      | none =>
          simp only [curves_concat_of_none modeled, modeledModes_concat_of_none modeled,
            modePoints_concat_of_none modeled, inductionHypothesis]
      | some success =>
          rw [curves_concat_of_some modeled, inductionHypothesis,
            addPoint_map (modeledModes_nodup rows) modePoints_of_not_mem,
            modeledModes_concat_of_some modeled]
          simp only [modePoints_concat_of_some modeled]

/-! ## Figures -/

private theorem drawnCurves_eq (rows : List (SweepRow α)) :
    drawnCurves rows = (modeledModes rows).mapIdx fun place mode =>
      ⟨drawnLabel place mode, modePoints rows mode⟩ := by
  rw [drawnCurves, curves_eq]
  exact List.ext_getElem (by simp) fun place _ _ => by simp

private theorem labels_drawnCurves (rows : List (SweepRow α)) :
    (drawnCurves rows).map (·.label) = (modeledModes rows).mapIdx drawnLabel := by
  rw [drawnCurves_eq]
  exact List.ext_getElem (by simp) fun place _ _ => by simp

private theorem drawnLabel_of_ne_empty {label : String} (place : ℕ) (named : label ≠ "") :
    drawnLabel place label = label :=
  if_neg named

private theorem drawnLabel_empty_ne_empty (place : ℕ) : drawnLabel place "" ≠ "" := by
  simp [drawnLabel]

private theorem mapIdx_drawnLabel_of_not_mem {modes : List String} (named : "" ∉ modes) :
    modes.mapIdx drawnLabel = modes := by
  refine List.ext_getElem (by simp) fun place _ inside => ?_
  rw [List.getElem_mapIdx]
  exact drawnLabel_of_ne_empty place fun empty => named (empty ▸ List.getElem_mem inside)

/-- Two modes are drawn under one label just where it stands for one and is the other. -/
theorem drawnLabel_eq_drawnLabel_iff {mode mode' : String} (different : mode ≠ mode')
    (place place' : ℕ) :
    drawnLabel place mode = drawnLabel place' mode' ↔
      (mode = "" ∧ drawnLabel place "" = mode') ∨ (mode' = "" ∧ mode = drawnLabel place' "") := by
  by_cases empty : mode = ""
  · subst empty
    rw [drawnLabel_of_ne_empty place' different.symm]
    simp [different.symm]
  · rw [drawnLabel_of_ne_empty place empty]
    by_cases empty' : mode' = ""
    · simp [empty, empty']
    · rw [drawnLabel_of_ne_empty place' empty']
      simp [empty, empty', different]

/-- Labels of distinct modes differ unless the one that stands for the empty mode is a mode. -/
theorem nodup_drawnLabel_iff {modes : List String} (distinct : modes.Nodup) :
    (modes.mapIdx drawnLabel).Nodup ↔
      ∀ place, modes[place]? = some "" → drawnLabel place "" ∉ modes := by
  constructor
  · intro nodup place empty member
    obtain ⟨inside, emptyAt⟩ := List.getElem?_eq_some_iff.mp empty
    obtain ⟨other, bound, equal⟩ := List.getElem_of_mem member
    have named : modes[other] ≠ "" := by
      rw [equal]
      exact drawnLabel_empty_ne_empty place
    have drawn : other < (modes.mapIdx drawnLabel).length := by simpa using bound
    have drawn' : place < (modes.mapIdx drawnLabel).length := by simpa using inside
    have sharing : (modes.mapIdx drawnLabel)[other] = (modes.mapIdx drawnLabel)[place] := by
      rw [List.getElem_mapIdx, List.getElem_mapIdx, drawnLabel_of_ne_empty other named, emptyAt,
        equal]
    obtain rfl := nodup.getElem_inj_iff.mp sharing
    exact named emptyAt
  · intro separate
    refine List.pairwise_iff_getElem.mpr fun first second inside inside' before sharing => ?_
    rw [List.getElem_mapIdx, List.getElem_mapIdx] at sharing
    rw [List.length_mapIdx] at inside inside'
    have different : modes[first] ≠ modes[second] := fun equal =>
      before.ne (distinct.getElem_inj_iff.mp equal)
    rcases (drawnLabel_eq_drawnLabel_iff different first second).mp sharing with
      ⟨empty, standing⟩ | ⟨empty, standing⟩
    · exact separate first (List.getElem?_eq_some_iff.mpr ⟨inside, empty⟩)
        (standing ▸ List.getElem_mem inside')
    · exact separate second (List.getElem?_eq_some_iff.mpr ⟨inside', empty⟩)
        (standing ▸ List.getElem_mem inside)

/-- The number of points of curves. -/
def pointCount (drawn : List (Curve α)) : ℕ := (drawn.map (·.points.length)).sum

private theorem pointCount_addPoint (label : String) (point : α × α) (drawn : List (Curve α)) :
    pointCount (addPoint label point drawn) = pointCount drawn + 1 := by
  unfold pointCount
  induction drawn with
  | nil => rfl
  | cons curve rest inductionHypothesis =>
      rw [addPoint]
      split_ifs with own
      · simp only [List.map_cons, List.sum_cons, List.length_append, List.length_singleton]
        omega
      · simp only [List.map_cons, List.sum_cons, inductionHypothesis]
        omega

private theorem pointCount_curves (rows : List (SweepRow α)) :
    pointCount (curves rows) = rows.countP (·.success.isSome) := by
  induction rows using List.reverseRecOn with
  | nil => rfl
  | append_singleton rows row inductionHypothesis =>
      rw [List.countP_append, ← inductionHypothesis]
      cases modeled : row.success with
      | none => rw [curves_concat_of_none modeled, List.countP_singleton, modeled]; rfl
      | some success =>
          rw [curves_concat_of_some modeled, pointCount_addPoint, List.countP_singleton, modeled]
          rfl

private theorem pointCount_drawnCurves (rows : List (SweepRow α)) :
    pointCount (drawnCurves rows) = pointCount (curves rows) :=
  congrArg List.sum (List.ext_getElem (by simp [drawnCurves]) fun place _ _ => by
    simp [drawnCurves])

private theorem isEmpty_curves_eq_false_iff (rows : List (SweepRow α)) :
    (curves rows).isEmpty = false ↔ ∃ row ∈ rows, row.success.isSome := by
  rw [curves_eq, List.isEmpty_map, List.isEmpty_eq_false_iff_exists_mem]
  simp only [mem_modeledModes_iff, models_iff]
  constructor
  · rintro ⟨_, row, member, _, modeled⟩
    exact ⟨row, member, modeled⟩
  · rintro ⟨row, member, modeled⟩
    exact ⟨row.mode, row, member, rfl, modeled⟩

private theorem isSome_legend_iff [Scalar α] (rows : List (SweepRow α)) (title : String) :
    (figure rows title).legend.isSome ↔ ∃ row ∈ rows, row.success.isSome := by
  rw [← isEmpty_curves_eq_false_iff, figure]
  cases (curves rows).isEmpty <;> simp

/-- Lines that sort rows by their modes. -/
structure SortsByMode (rows : List (SweepRow α)) (modes : List String) (lines : List (Curve α)) :
    Prop where
  /-- No mode has two lines. -/
  distinct : modes.Nodup
  /-- A mode has a line if a row has a success probability for it. -/
  modeled : ∀ mode, mode ∈ modes ↔ ∃ row ∈ rows, row.mode = mode ∧ row.success.isSome
  /-- The modes stand in the order of their first such rows. -/
  ordered : modes.Pairwise fun earlier later =>
    rows.findIdx (·.models earlier) < rows.findIdx (·.models later)
  /-- A line goes through the points of its mode and is labelled by the mode, if that is a label. -/
  lines_eq : lines = modes.mapIdx fun place mode =>
    ⟨drawnLabel place mode, modePoints rows mode⟩

/-- The lines of a figure sort the rows by their modes, with as many points as there are rows with
a success probability. Without an empty mode the labels are the modes; with one they are distinct
just where the name that it is drawn under is no mode. There is a legend when a row has a success
probability. -/
theorem figure_sortsByMode [Scalar α] (rows : List (SweepRow α)) (title : String) :
    ∃ modes, SortsByMode rows modes (figure rows title).lines ∧
      ("" ∉ modes → (figure rows title).lines.map (·.label) = modes) ∧
      (((figure rows title).lines.map (·.label)).Nodup ↔
        ∀ place, modes[place]? = some "" → drawnLabel place "" ∉ modes) ∧
      ((figure rows title).lines.map (·.points.length)).sum = rows.countP (·.success.isSome) ∧
      ((figure rows title).legend.isSome ↔ ∃ row ∈ rows, row.success.isSome) := by
  have lines : (figure rows title).lines = drawnCurves rows := rfl
  rw [lines, labels_drawnCurves]
  refine ⟨modeledModes rows, ⟨modeledModes_nodup rows, fun mode => ?_, modeledModes_ordered rows,
    drawnCurves_eq rows⟩, mapIdx_drawnLabel_of_not_mem,
    nodup_drawnLabel_iff (modeledModes_nodup rows),
    (pointCount_drawnCurves rows).trans (pointCount_curves rows), isSome_legend_iff rows title⟩
  simp only [mem_modeledModes_iff, models_iff]

/-- The empty mode is drawn under the name of the second one. -/
theorem labels_not_distinct :
    ¬((figure ([⟨"", 0.0, 0.1, some 0.5⟩, ⟨"_child0", 1.0, 0.2, some 0.25⟩] :
      List (SweepRow Float)) "").lines.map (·.label)).Nodup := by
  decide

end WifiLink
