import WifiLink.Double.Arithmetic
import WifiLink.Picture.Axis
import WifiLink.Picture.Png
import WifiLink.Sweep.Curves

/-!
Drawing a figure: a frame, rules at the ticks of its axis and at whole quarters, and each curve in
a colour of its own.
-/

namespace WifiLink.Picture

/-- White, the colour of the frame, that of the rules, and the colours of curves. -/
def palette : List (UInt8 × UInt8 × UInt8) :=
  [ (255, 255, 255), (0, 0, 0), (217, 217, 217), (31, 119, 180), (255, 127, 14), (44, 160, 44),
    (214, 39, 40), (148, 103, 189), (140, 86, 75), (227, 119, 194), (127, 127, 127),
    (188, 189, 34), (23, 190, 207) ]

/-- The colour of the curve at a place; the colours start again after the last. -/
def curveColour (place : Nat) : UInt8 := (3 + place % 10).toUInt8

/-- Size of the picture, and the frame within it. -/
def pictureWidth : Nat := 1050
def pictureHeight : Nat := 675
def frameLeft : Int := 90
def frameRight : Int := 1020
def frameTop : Int := 45
def frameBottom : Int := 600

/-- The pixel between two pixels that lies as a value does between two values. -/
def between (start stop : Int) (low high value : Float) : Option Int :=
  let share := if low < high then (value - low) / (high - low) else 0.5
  match Double.floor (share * (Float.ofInt (stop - start))) with
  | .ok offset => some (start + offset)
  | .error _ => none

/-- The columns of ticks that lie within what an axis shows. -/
def tickColumns (axis : Axis) : List Int :=
  (axis.ticks.filterMap (between frameLeft frameRight axis.shown.low axis.shown.high)).filter
    fun column => frameLeft ≤ column ∧ column ≤ frameRight

/-- The rules and the curves of a figure on an axis. -/
def drawOn (axis : Axis) (figure : Figure Float) (canvas : Canvas) : Canvas :=
  let row (value : Float) : Option Int :=
    between frameBottom frameTop figure.lower figure.upper value
  let pixel (point : Float × Float) : Option (Int × Int) := do
    let column ← between frameLeft frameRight axis.shown.low axis.shown.high point.1
    return (column, ← row point.2)
  let acrossRows := ([0.0, 0.25, 0.5, 0.75, 1.0].filterMap row).foldl
    (fun canvas row => canvas.line 2 (frameLeft, row) (frameRight, row)) canvas
  let ruled := (tickColumns axis).foldl
    (fun canvas column => canvas.line 2 (column, frameTop) (column, frameBottom)) acrossRows
  figure.lines.zipIdx.foldl
    (fun canvas (curve, place) => canvas.path (curveColour place) (curve.points.filterMap pixel))
    ruled

/-- A figure as a drawing; without an axis it has only a frame. -/
def draw (figure : Figure Float) : Canvas :=
  let blank := Canvas.blank pictureWidth pictureHeight 0
  let drawn : Canvas := match figure.axis with
    | .error _ => blank
    | .ok axis => drawOn axis figure blank
  drawn.path 1
    [ (frameLeft, frameTop), (frameRight, frameTop), (frameRight, frameBottom),
      (frameLeft, frameBottom), (frameLeft, frameTop) ]

/-- A figure as a picture file. -/
def ofFigure (figure : Figure Float) : ByteArray := png (draw figure) palette

end WifiLink.Picture
