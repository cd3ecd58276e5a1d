import WifiLink.Fault
import WifiLink.Modulation

/-!
Transmission modes: a modulation class with a constellation and a code rate.
-/

namespace WifiLink

/-- A transmission mode. Only the two oldest classes have a rate of their own; for all others it
follows from the channel. -/
structure WifiMode (α : Type) where
  name : String
  modulation : ModulationClass
  constellation : Int
  codeRate : CodeRate
  fixedRate : α
deriving Repr

namespace WifiMode

variable {α : Type} [Scalar α]

/-- Two modes are the same when all they say is; the rates are compared as numbers. So a mode whose
fixed rate is no number is the same as no mode, not even as itself, where a comparison that first
asks for one and the same object would say it is. -/
def sameAs (left right : WifiMode α) : Bool :=
  left.name == right.name && left.modulation == right.modulation &&
    left.constellation == right.constellation && left.codeRate == right.codeRate &&
    Scalar.same left.fixedRate right.fixedRate

/-- Whether the error model describes the mode. -/
def isCodedOfdm (mode : WifiMode α) : Bool := mode.modulation.isCodedOfdm

/-- The whole bits that one point of the constellation carries. -/
def bitsPerSymbol (mode : WifiMode α) : Except (Fault α) Int := do
  let bits : α ← Scalar.logTwo mode.constellation
  Scalar.floor bits

end WifiMode

end WifiLink
