/-!
A drawing surface of colour numbers, row by row from the top.
-/

namespace WifiLink.Picture

/-- A surface; the pixel in a column of a row is at `row * width + column`. -/
structure Canvas where
  width : Nat
  height : Nat
  pixels : ByteArray

namespace Canvas

def blank (width height : Nat) (colour : UInt8) : Canvas :=
  ⟨width, height, ⟨Array.replicate (width * height) colour⟩⟩

/-- Colours a pixel. Outside the surface nothing happens. -/
def dot (canvas : Canvas) (colour : UInt8) (column row : Int) : Canvas :=
  if 0 ≤ column ∧ column < canvas.width ∧ 0 ≤ row ∧ row < canvas.height then
    { canvas with pixels := canvas.pixels.set! (row.toNat * canvas.width + column.toNat) colour }
  else canvas

/-- Colours the straight line between two pixels. -/
def line (canvas : Canvas) (colour : UInt8) (start stop : Int × Int) : Canvas :=
  let across := stop.1 - start.1
  let down := stop.2 - start.2
  let steps := max across.natAbs down.natAbs
  (List.range (steps + 1)).foldl
    (fun drawn (step : Nat) =>
      drawn.dot colour (start.1 + across * step / max steps 1)
        (start.2 + down * step / max steps 1))
    canvas

/-- Colours the straight lines from each point to the next. -/
def path (canvas : Canvas) (colour : UInt8) (points : List (Int × Int)) : Canvas :=
  (points.zip (points.drop 1)).foldl (fun drawn (start, stop) => drawn.line colour start stop)
    canvas

end Canvas

end WifiLink.Picture
