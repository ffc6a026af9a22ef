import SplitExport.Text.Digit
import SplitExport.Text.Quoted

/-!
# UTF-8 text files — decoding with the cause of a failure, and line ends

* `decodeUtf8` reads octets as UTF-8; on a failure it tells which octets are wrong and why: an octet
  that starts no character, a character broken off by an octet that cannot continue it, or one
  broken off by the end of the file.
* `unifyLineEnds` replaces the line ends `\r\n` and `\r` by `\n`, as reading a text file does.
-/

namespace SplitExport.Text

/-! ## Causes -/

/-- Why octets are not UTF-8. -/
inductive Utf8Defect where
  /-- No character starts with the octet. -/
  | startOctet
  /-- The octet after the wrong ones cannot continue the character that they start. -/
  | continuation
  /-- The octets end within a character. -/
  | truncated
deriving DecidableEq, Repr

/-- The octets `first` to `last` (counted from zero) are not UTF-8; `lead` is the value of the first
    of them. -/
structure Utf8Error where
  defect : Utf8Defect
  first : Nat
  last : Nat
  lead : Nat
deriving DecidableEq, Repr

/-- The cause in words. -/
def Utf8Defect.message : Utf8Defect → String
  | .startOctet => "invalid start byte"
  | .continuation => "invalid continuation byte"
  | .truncated => "unexpected end of data"

/-- A single wrong octet is shown by its value, several by their positions. -/
def Utf8Error.message (e : Utf8Error) : String :=
  let place :=
    if e.first = e.last then
      "byte 0x" ++ String.ofList (hexDigits 2 e.lead) ++ " in position " ++ natText e.first
    else "bytes in position " ++ natText e.first ++ "-" ++ natText e.last
  "'utf-8' codec can't decode " ++ place ++ ": " ++ e.defect.message

/-! ## Decoding -/

/-- How many octets follow the lead of a character, and the least and the greatest value that the
    first of them may have; `none` when no character starts with the octet. -/
def continuationOf (lead : Nat) : Option (Nat × Nat × Nat) :=
  if lead < 0x80 then some (0, 0x80, 0xbf)
  else if 0xc2 ≤ lead ∧ lead ≤ 0xdf then some (1, 0x80, 0xbf)
  else if lead = 0xe0 then some (2, 0xa0, 0xbf)
  else if lead = 0xed then some (2, 0x80, 0x9f)
  else if 0xe1 ≤ lead ∧ lead ≤ 0xef then some (2, 0x80, 0xbf)
  else if lead = 0xf0 then some (3, 0x90, 0xbf)
  else if 0xf1 ≤ lead ∧ lead ≤ 0xf3 then some (3, 0x80, 0xbf)
  else if lead = 0xf4 then some (3, 0x80, 0x8f)
  else none

/-- The bits of a lead octet that belong to the code point, by the number of octets after it. -/
def leadBits (following lead : Nat) : Nat :=
  match following with
  | 0 => lead
  | 1 => lead - 0xc0
  | 2 => lead - 0xe0
  | _ => lead - 0xf0

/-- What is known of a character whose lead octet was read. -/
structure Utf8Pending where
  /-- The code point's bits so far. -/
  bits : Nat
  /-- How many octets are still owed. -/
  owed : Nat
  /-- The least and the greatest value of the next octet. -/
  low : Nat
  high : Nat
  /-- The position and value of the lead octet. -/
  start : Nat
  lead : Nat

/-- Reads octets from position `pos` on: within the character `pending`, or between characters. -/
def decodeUtf8From : Option Utf8Pending → Nat → List UInt8 → Except Utf8Error (List Char)
  | none, _, [] => .ok []
  | some p, pos, [] => .error ⟨.truncated, p.start, pos - 1, p.lead⟩
  | none, pos, o :: rest =>
    match continuationOf o.toNat with
    | none => .error ⟨.startOctet, pos, pos, o.toNat⟩
    | some (0, _, _) => do
      return Char.ofNat o.toNat :: (← decodeUtf8From none (pos + 1) rest)
    | some (owed, low, high) =>
      decodeUtf8From (some ⟨leadBits owed o.toNat, owed, low, high, pos, o.toNat⟩) (pos + 1) rest
  | some p, pos, o :: rest =>
    if p.low ≤ o.toNat ∧ o.toNat ≤ p.high then
      let bits := p.bits * 64 + o.toNat % 64
      if p.owed ≤ 1 then do
        return Char.ofNat bits :: (← decodeUtf8From none (pos + 1) rest)
      else decodeUtf8From (some { p with bits, owed := p.owed - 1, low := 0x80, high := 0xbf }) (pos + 1) rest
    else .error ⟨.continuation, p.start, pos - 1, p.lead⟩

/-- The text that octets write in UTF-8. -/
def decodeUtf8 (octets : List UInt8) : Except Utf8Error (List Char) :=
  decodeUtf8From none 0 octets

/-! ## Line ends -/

/-- A text with every line end written as a line feed. -/
def unifyLineEnds : List Char → List Char
  | [] => []
  | '\r' :: '\n' :: rest => '\n' :: unifyLineEnds rest
  | c :: rest => (if c = '\r' then '\n' else c) :: unifyLineEnds rest

end SplitExport.Text
