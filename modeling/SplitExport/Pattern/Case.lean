import SplitExport.Text.Lower
import SplitExport.Text.Upper

/-!
# Case in patterns — which characters count as the same

* Where case counts, every character stands for itself (`Casing.exact`). Where it does not, characters are
  compared by their small letters, among ASCII letters alone (`ascii`) or among all (`full`).
* Small letters that share a capital count as the same, too (`sharedCapitals`).
* `Casing.sources` gives back the characters with a given small letter.
-/

namespace SplitExport

open SplitExport.Text

/-! ## Letters -/

/-- The small letter of a code point, the first of them if there are more. -/
def smallCode (code : Nat) : Nat :=
  if code.isValidChar then (((lowerChar (Char.ofNat code)).head?).map Char.toNat).getD code else code

/-- The capital letter of a code point, the first of them if there are more. -/
def capitalCode (code : Nat) : Nat :=
  if code.isValidChar then (((upperChar (Char.ofNat code)).head?).map Char.toNat).getD code else code

/-- Small letters that share a capital. -/
def sharedCapitals : List (List Nat) :=
  [
    [0x69, 0x131], [0x73, 0x17f], [0xb5, 0x3bc], [0x345, 0x3b9, 0x1fbe], [0x390, 0x1fd3],
    [0x3b0, 0x1fe3], [0x3b2, 0x3d0], [0x3b5, 0x3f5], [0x3b8, 0x3d1], [0x3ba, 0x3f0],
    [0x3c0, 0x3d6], [0x3c1, 0x3f1], [0x3c2, 0x3c3], [0x3c6, 0x3d5], [0x432, 0x1c80],
    [0x434, 0x1c81], [0x43e, 0x1c82], [0x441, 0x1c83], [0x442, 0x1c84, 0x1c85], [0x44a, 0x1c86],
    [0x463, 0x1c87], [0x1c88, 0xa64b], [0x1e61, 0x1e9b], [0xfb05, 0xfb06]
  ]

/-- The small letter of an ASCII letter. -/
def smallAscii (code : Nat) : Nat :=
  if 0x41 ≤ code ∧ code ≤ 0x5a then code + 0x20 else code

/-- The code points with a small letter, apart from the small letter itself. -/
def capitalsOf (small : Nat) : List Nat :=
  let runs := smallRuns.filterMap fun (first, last, step, start) =>
    if start ≤ small ∧ first + (small - start) ≤ last ∧ (small - start) % step = 0 then
      some (first + (small - start))
    else none
  let ascii := if 0x61 ≤ small ∧ small ≤ 0x7a then [small - 0x20] else []
  let dotted := if small = 0x69 then [0x130] else []
  ascii ++ dotted ++ runs

/-! ## Casings -/

/-- How much the case of letters counts. -/
inductive Casing where
  | exact
  /-- The case of ASCII letters does not count. -/
  | ascii
  /-- The case of no letter counts. -/
  | full
deriving DecidableEq, Repr

namespace Casing

/-- What characters are compared by. -/
def fold : Casing → Nat → Nat
  | .exact, code => code
  | .ascii, code => smallAscii code
  | .full, code => smallCode code

/-- The small letters that count as the same as a small letter, which is one of them. -/
def same (casing : Casing) (small : Nat) : List Nat :=
  match casing with
  | .full => ((sharedCapitals.find? (·.contains small)).getD [small])
  | _ => [small]

/-- The code points that are compared by a given one. -/
def sources : Casing → Nat → List Nat
  | .exact, code => [code]
  | .ascii, code =>
    if 0x61 ≤ code ∧ code ≤ 0x7a then [code, code - 0x20]
    else if smallAscii code = code then [code] else []
  | .full, code => (if smallCode code = code then [code] else []) ++ capitalsOf code

end Casing

end SplitExport
