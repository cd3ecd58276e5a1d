import WifiLink.Sweep.Basic

/-!
The figure of a sweep: a curve of the success probability over the decibels for each modeled
mode.
-/

namespace WifiLink

variable {α : Type}

/-- A labelled line through points. -/
structure Curve (α : Type) where
  label : String
  points : List (α × α)
deriving Repr

/-- Adds a point to the curve of a label, which is started at the end if there is none. -/
def addPoint (label : String) (point : α × α) : List (Curve α) → List (Curve α)
  | [] => [⟨label, [point]⟩]
  | curve :: rest =>
      if curve.label = label then { curve with points := curve.points ++ [point] } :: rest
      else curve :: addPoint label point rest

/-- The curves of rows, in the order in which their modes first have a success probability. -/
def curves (rows : List (SweepRow α)) : List (Curve α) :=
  rows.foldl
    (fun drawn row =>
      match row.success with
      | some success => addPoint row.mode (row.decibels, success) drawn
      | none => drawn)
    []

/-- A figure: its lines, the labels in its legend if it has one, and its texts and bounds. -/
structure Figure (α : Type) where
  lines : List (Curve α)
  legend : Option (List String)
  title : String
  horizontal : String
  vertical : String
  lower : α
  upper : α

/-- The label a curve is drawn with. One without a label is labelled by its place, which is the
doing of the plotting library and not of the sweep: this stands for its rule. -/
def drawnLabel (place : Nat) (label : String) : String :=
  if label = "" then "_child" ++ toString place else label

/-- The curves with the labels they are drawn with. -/
def drawnCurves (rows : List (SweepRow α)) : List (Curve α) :=
  (curves rows).mapIdx fun place curve => { curve with label := drawnLabel place curve.label }

/-- Whether the plotting library names a line in a legend; an underscore in front keeps it out. -/
def inLegend (label : String) : Bool := label.toList.head? != some '_'

/-- The figure of rows. It has a legend when it has a line. -/
def figure [Scalar α] (rows : List (SweepRow α)) (title : String) : Figure α where
  lines := drawnCurves rows
  legend := if (curves rows).isEmpty then none
    else some (((drawnCurves rows).map (·.label)).filter inLegend)
  title := title
  horizontal := "SNR (dB)"
  vertical := "Chunk success probability"
  lower := -0.02
  upper := 1.02

end WifiLink
