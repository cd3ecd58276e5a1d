import WifiLink.Text.Quoted

/-!
Strict reading of UTF-8. A fault tells where the first bad sequence starts, how many bytes of it
are bad together, and why.
-/

namespace WifiLink.Text

/-- Why bytes are no UTF-8. -/
inductive Utf8Problem where
  | invalidStart
  | invalidContinuation
  | unexpectedEnd
deriving DecidableEq, Repr

/-- The first bad sequence of a byte text: its position, its first byte and the number of bytes
that are bad together. -/
structure Utf8Fault where
  position : Nat
  byte : Nat
  length : Nat
  problem : Utf8Problem
deriving DecidableEq, Repr

def Utf8Problem.message : Utf8Problem → String
  | .invalidStart => "invalid start byte"
  | .invalidContinuation => "invalid continuation byte"
  | .unexpectedEnd => "unexpected end of data"

/-- What is said of a bad sequence; a single byte is shown, of several only the places. -/
def Utf8Fault.message (fault : Utf8Fault) : String :=
  let place :=
    if fault.length = 1 then
      "byte 0x" ++ String.ofList (hexadecimal 2 fault.byte) ++ " in position " ++
        toString fault.position
    else
      "bytes in position " ++ toString fault.position ++ "-" ++
        toString (fault.position + fault.length - 1)
  "'utf-8' codec can't decode " ++ place ++ ": " ++ fault.problem.message

/-- The number of continuation bytes a first byte asks for, with the least and the greatest value
of the first of them; the bounds keep out overlong forms, surrogates and what lies beyond
Unicode. -/
def utf8Tail? (lead : Nat) : Option (Nat × Nat × Nat) :=
  if 0xC2 ≤ lead ∧ lead ≤ 0xDF then some (1, 0x80, 0xBF)
  else if lead = 0xE0 then some (2, 0xA0, 0xBF)
  else if lead = 0xED then some (2, 0x80, 0x9F)
  else if 0xE1 ≤ lead ∧ lead ≤ 0xEF then some (2, 0x80, 0xBF)
  else if lead = 0xF0 then some (3, 0x90, 0xBF)
  else if lead = 0xF4 then some (3, 0x80, 0x8F)
  else if 0xF1 ≤ lead ∧ lead ≤ 0xF3 then some (3, 0x80, 0xBF)
  else none

/-- The number of leading bytes that lie within the bounds, the bounds being those of any
continuation byte after the first. -/
def tailLength (lower upper : Nat) : List Nat → Nat
  | [] => 0
  | byte :: rest =>
      if lower ≤ byte ∧ byte ≤ upper then 1 + tailLength 0x80 0xBF rest else 0

/-- The bits of a first byte that count towards the code point. -/
def leadBits (lead : Nat) : Nat :=
  if lead < 0xE0 then lead % 0x20 else if lead < 0xF0 then lead % 0x10 else lead % 0x08

/-- Reads bytes from a given position on. -/
def decodeUtf8From (position : Nat) : List Nat → Except Utf8Fault (List Char)
  | [] => .ok []
  | lead :: rest =>
      if lead < 0x80 then
        (decodeUtf8From (position + 1) rest).map (Char.ofNat lead :: ·)
      else
        match utf8Tail? lead with
        | none => .error ⟨position, lead, 1, .invalidStart⟩
        | some (needed, lower, upper) =>
            let present := tailLength lower upper (rest.take needed)
            if present = needed then
              let code := (rest.take needed).foldl (fun code byte => 64 * code + byte % 64)
                (leadBits lead)
              (decodeUtf8From (position + 1 + needed) (rest.drop needed)).map
                (Char.ofNat code :: ·)
            else if rest.length = present then
              .error ⟨position, lead, 1 + present, .unexpectedEnd⟩
            else .error ⟨position, lead, 1 + present, .invalidContinuation⟩
termination_by bytes => bytes.length
decreasing_by
  · simp
  · simp only [List.length_drop, List.length_cons]
    omega

def decodeUtf8 (bytes : List Nat) : Except Utf8Fault String :=
  (decodeUtf8From 0 bytes).map String.ofList

end WifiLink.Text
