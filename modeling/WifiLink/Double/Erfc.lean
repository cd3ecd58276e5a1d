/-!
The complementary error function of a double, to within one unit in the last place. Each of
four stretches of the half line has its own rational approximation, and beyond the last one
nothing representable is left.
-/

namespace WifiLink.Double

/-- A polynomial whose coefficients come in pairs, the constant and the linear one first, each
pair weighed by the next even power of the argument. Coefficients beyond the fifth pair do not
count. -/
def pairedPolynomial (pairs : List (Float × Float)) (x : Float) : Float :=
  let x2 := x * x
  let x4 := x2 * x2
  match pairs with
  | [] => 0.0
  | (constant, linear) :: rest =>
      (rest.zip [x2, x4, x4 * x2, x4 * x4]).foldl
        (fun sum ((lower, upper), power) => sum + power * (lower + x * upper))
        (constant + x * linear)

/-- Below 0.84: `erf x / x - 1` in the square of the argument. -/
def erfcNearZero (x : Float) : Float :=
  let z := x * x
  let numerator := pairedPolynomial
    [(1.28379167095512558561e-01, -3.25042107247001499370e-01),
      (-2.84817495755985104766e-02, -5.77027029648944159157e-03),
      (-2.37630166566501626084e-05, 0.0)] z
  let denominator := pairedPolynomial
    [(1.0, 3.97917223959155352819e-01),
      (6.50222499887672944485e-02, 5.08130628187576562776e-03),
      (1.32494738004321644526e-04, -3.96022827877536812320e-06)] z
  let y := numerator / denominator
  if x < 0.25 then 1.0 - (x + x * y) else 0.5 - (x * y + (x - 0.5))

/-- From 0.84 to 1.25: the distance from `1 - erf 1`, in the distance of the argument from one. -/
def erfcNearOne (x : Float) : Float :=
  let s := x - 1.0
  let numerator := pairedPolynomial
    [(-2.36211856075265944077e-03, 4.14856118683748331666e-01),
      (-3.72207876035701323847e-01, 3.18346619901161753674e-01),
      (-1.10894694282396677476e-01, 3.54783043256182359371e-02),
      (-2.16637559486879084300e-03, 0.0)] s
  let denominator := pairedPolynomial
    [(1.0, 1.06420880400844228286e-01),
      (5.40397917702171048937e-01, 7.18286544141962662868e-02),
      (1.26171219808761642112e-01, 1.36370839120290507362e-02),
      (1.19844998467991074170e-02, 0.0)] s
  1.0 - 8.45062911510467529297e-01 - numerator / denominator

/-- The rational part of the tail's exponent in `s = 1 / x ^ 2`, up to `x = 1 / 0.35`. -/
def erfcNearTail (s : Float) : Float :=
  pairedPolynomial
    [(-9.86494403484714822705e-03, -6.93858572707181764372e-01),
      (-1.05586262253232909814e+01, -6.23753324503260060396e+01),
      (-1.62396669462573470355e+02, -1.84605092906711035994e+02),
      (-8.12874355063065934246e+01, -9.81432934416914548592e+00)] s /
  pairedPolynomial
    [(1.0, 1.96512716674392571292e+01),
      (1.37657754143519042600e+02, 4.34565877475229228821e+02),
      (6.45387271733267880336e+02, 4.29008140027567833386e+02),
      (1.08635005541779435134e+02, 6.57024977031928170135e+00),
      (-6.04244152148580987438e-02, 0.0)] s

/-- The rational part of the tail's exponent in `s = 1 / x ^ 2`, from `x = 1 / 0.35` on. -/
def erfcFarTail (s : Float) : Float :=
  pairedPolynomial
    [(-9.86494292470009928597e-03, -7.99283237680523006574e-01),
      (-1.77579549177547519889e+01, -1.60636384855821916062e+02),
      (-6.37566443368389627722e+02, -1.02509513161107724954e+03),
      (-4.83519191608651397019e+02, 0.0)] s /
  pairedPolynomial
    [(1.0, 3.03380607434824582924e+01),
      (3.25792512996573918826e+02, 1.53672958608443695994e+03),
      (3.19985821950859553908e+03, 2.55305040643316442583e+03),
      (4.74528541206955367215e+02, -2.24409524465858183362e+01)] s

/-- From 1.25 to 28: `exp (-x ^ 2) / x` times a factor. The square is split at a short `x`, so
that the large exponent is exact. -/
def erfcTail (x : Float) : Float :=
  let s := 1.0 / (x * x)
  let ratio := if x.toBits < 0x4006DB6D00000000 then erfcNearTail s else erfcFarTail s
  let short := Float.ofBits (x.toBits >>> 32 <<< 32)
  Float.exp (-short * short - 0.5625) * Float.exp ((short - x) * (short + x) + ratio) / x

/-- `1 - erf x` for `x ≥ 0`; no number gives no number. -/
def erfcOfNonneg (x : Float) : Float :=
  if x < 0.84375 then
    if x.toBits < 0x3C70000000000000 then 1.0 - x else erfcNearZero x
  else if x < 1.25 then erfcNearOne x
  else if x < 28.0 then erfcTail x
  else if x.isNaN then x
  else 0.0

/-- The complementary error function, by its reflection in zero for a negative argument. -/
def erfc (x : Float) : Float :=
  if x < 0.0 then 2.0 - erfcOfNonneg (-x) else erfcOfNonneg x

end WifiLink.Double
