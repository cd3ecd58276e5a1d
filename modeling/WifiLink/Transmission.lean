import WifiLink.Mode.Rate
import WifiLink.Settings

/-!
One transmission unit as the error model sees it, and the two rates at which its fields are
sent: that of the payload, and that of the headers and common fields.
-/

namespace WifiLink

variable {α : Type} [Scalar α]

/-- The station number that stands for no station: single-user payloads and common fields. -/
def commonStation : Int := 65535

/-- Puts a value under a key: in the place of the key's earlier value, or at the end. -/
def assign {κ β : Type} [DecidableEq κ] (key : κ) (value : β) : List (κ × β) → List (κ × β)
  | [] => [(key, value)]
  | entry :: rest =>
      if entry.1 = key then (key, value) :: rest else entry :: assign key value rest

/-- One entry for each key, in the order of first mention and with the value mentioned last. -/
def assignAll {κ β : Type} [DecidableEq κ] (pairs : List (κ × β)) : List (κ × β) :=
  pairs.foldl (fun entries (key, value) => assign key value entries) []

/-- A transmission on a channel of a width in MHz. A single-user one has one payload mode; a
multi-user one has a mode for each station. -/
structure Transmission (α : Type) [Scalar α] where
  width : α
  stations : List (Int × WifiMode α)
  isMultiUser : Bool
  streams : Int
  guardInterval : Int
  width_positive : ¬width ≤ 0.0
  stations_nonempty : stations ≠ []

/-- Which rate a field is sent at. -/
inductive RateBasis where
  | payload
  | header
deriving DecidableEq, Repr

namespace Transmission

/-- A transmission with the given modes by station, a later mode of a station replacing an
earlier one. -/
def make (width : α) (stations : List (Int × WifiMode α)) (isMultiUser : Bool) (streams : Int)
    (guardInterval : Int) : Except (Fault α) (Transmission α) :=
  if width_positive : width ≤ 0.0 then .error .widthNotPositive
  else if stations_nonempty : assignAll stations = [] then .error .noModes
  else
    .ok ⟨width, assignAll stations, isMultiUser, streams, guardInterval, width_positive,
      stations_nonempty⟩

/-- A transmission to one station. -/
def singleUser (mode : WifiMode α) (width : α) (streams : Int := 1) (guardInterval : Int := 800) :
    Except (Fault α) (Transmission α) :=
  make width [(commonStation, mode)] false streams guardInterval

/-- The mode of a station's payload. A transmission that is not multi-user has the same one for
every station. -/
def modeFor (tx : Transmission α) (station : Int) : Except (Fault α) (WifiMode α) :=
  if tx.isMultiUser then
    match tx.stations.find? (·.1 == station) with
    | some entry => .ok entry.2
    | none => .error (.unknownStation station)
  else .ok (tx.stations.head tx.stations_nonempty).2

def phyRate (tx : Transmission α) (station : Int) : Except (Fault α) α := do
  let mode ← tx.modeFor station
  mode.phyRate tx.width tx.streams tx.guardInterval

/-- A field common to the stations of a multi-user transmission is sent at the header rate, and
so is a field in another mode than that of the station's payload. -/
def rateBasis (tx : Transmission α) (mode : WifiMode α) (station : Int) :
    Except (Fault α) RateBasis :=
  if tx.isMultiUser ∧ station = commonStation then .ok .header
  else do
    let payload ← tx.modeFor station
    return if mode.sameAs payload then .payload else .header

/-- The width in MHz that headers and common fields are sent at. -/
def headerWidth (tx : Transmission α) (settings : Settings α) : α :=
  Scalar.least tx.width settings.headerWidth

/-- The rate on a basis: the payload's, or that of a mode with one stream and the standard guard
interval on the header width. -/
def rateOn (tx : Transmission α) (basis : RateBasis) (mode : WifiMode α) (station : Int)
    (settings : Settings α) : Except (Fault α) α :=
  match basis with
  | .payload => tx.phyRate station
  | .header => mode.phyRate (tx.headerWidth settings)

/-- The rate of a field in a mode for a station. -/
def effectiveRate (tx : Transmission α) (mode : WifiMode α) (station : Int)
    (settings : Settings α) : Except (Fault α) α := do
  let basis ← tx.rateBasis mode station
  tx.rateOn basis mode station settings

end Transmission

end WifiLink
