/-!
The fields of a physical-layer protocol data unit.
-/

namespace WifiLink

/-- A field of a transmission unit. -/
inductive PpduField where
  | preamble
  | nonHtHeader
  | htSig
  | training
  | sigA
  | sigB
  | uSig
  | ehtSig
  | data
deriving DecidableEq, Repr

namespace PpduField

/-- Every field in the order of transmission. -/
def all : List PpduField :=
  [preamble, nonHtHeader, htSig, training, sigA, sigB, uSig, ehtSig, data]

def name : PpduField → String
  | preamble => "PREAMBLE"
  | nonHtHeader => "NON_HT_HEADER"
  | htSig => "HT_SIG"
  | training => "TRAINING"
  | sigA => "SIG_A"
  | sigB => "SIG_B"
  | uSig => "U_SIG"
  | ehtSig => "EHT_SIG"
  | data => "DATA"

def text : PpduField → String
  | preamble => "preamble"
  | nonHtHeader => "non-ht-header"
  | htSig => "ht-sig"
  | training => "training"
  | sigA => "sig-a"
  | sigB => "sig-b"
  | uSig => "u-sig"
  | ehtSig => "eht-sig"
  | data => "data"

def ofText? (written : String) : Option PpduField := all.find? (·.text == written)

theorem ofText?_text (field : PpduField) : ofText? field.text = some field := by
  cases field <;> rfl

end PpduField

end WifiLink
