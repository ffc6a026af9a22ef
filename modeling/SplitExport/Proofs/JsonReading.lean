import Mathlib.Tactic.SplitIfs
import SplitExport.Text.Json

/-!
# JSON reading — arrays of strings are read back as they were

A JSON text that is an array of strings is read in three layers, from its characters to its strings.

* `tokens?` takes the text apart, and gives a string by its units of sixteen bits: those of a character
  that stands for itself, one for an escape by a letter, and one for an escape by four digits.
* `charsOf?` reads units as characters. The two halves of a surrogate pair are one character, and a half
  alone is none.
* `readStrings?` accepts strings with commas between them and nothing around the brackets but blanks.

Each layer undoes one layer of writing (`stringTokens?_jsonChar`, `charsOf?_unitsOf`), so that an array is
read back whatever characters its strings have (`readStrings?_jsonArray`).
-/

namespace SplitExport.Json

open SplitExport.Text

/-! ## Units -/

/-- The value of a hexadecimal digit, small or capital. -/
def hexValue? (c : Char) : Option Nat :=
  if '0' ≤ c ∧ c ≤ '9' then some (c.toNat - '0'.toNat)
  else if 'a' ≤ c ∧ c ≤ 'f' then some (c.toNat - 'a'.toNat + 10)
  else if 'A' ≤ c ∧ c ≤ 'F' then some (c.toNat - 'A'.toNat + 10)
  else none

/-- The unit that four hexadecimal digits write. -/
def unitOf? (a b c d : Char) : Option Nat :=
  [a, b, c, d].foldlM (fun unit digit => (hexValue? digit).map (16 * unit + ·)) 0

/-- The units of a character: one, or the two halves of its surrogate pair. -/
def unitsOf (c : Char) : List Nat :=
  if c.toNat ≤ 0xffff then [c.toNat]
  else [0xd800 + (c.toNat - 0x10000) / 0x400, 0xdc00 + (c.toNat - 0x10000) % 0x400]

/-- The characters that units stand for. -/
def charsOf? : List Nat → Option (List Char)
  | [] => some []
  | unit :: units =>
    if unit < 0xd800 ∨ 0xe000 ≤ unit then (charsOf? units).map (Char.ofNat unit :: ·)
    else if 0xdc00 ≤ unit then none
    else
      match units with
      | low :: rest =>
        if 0xdc00 ≤ low ∧ low < 0xe000 then
          (charsOf? rest).map (Char.ofNat (0x10000 + (unit - 0xd800) * 0x400 + (low - 0xdc00)) :: ·)
        else none
      | [] => none

/-! ## Tokens -/

/-- What a text of strings is made of. -/
inductive Token where
  | opening
  | closing
  | comma
  | string (units : List Nat)
deriving DecidableEq, Repr

/-- The blanks between tokens. -/
def isGap (c : Char) : Bool :=
  c == ' ' || c == '\n' || c == '\r' || c == '\t'

/-- The unit of an escape by a letter or a sign. -/
def escaped? : Char → Option Nat
  | '"' => some 0x22
  | '\\' => some 0x5c
  | '/' => some 0x2f
  | 'b' => some 0x08
  | 'f' => some 0x0c
  | 'n' => some 0x0a
  | 'r' => some 0x0d
  | 't' => some 0x09
  | _ => none

/-- Puts units in front of those of a string. -/
def prepend (units : List Nat) (read : Option (List Nat × List Token)) : Option (List Nat × List Token) :=
  read.map fun (more, tokens) => (units ++ more, tokens)

mutual

/-- The tokens of a text. -/
def tokens? : List Char → Option (List Token)
  | [] => some []
  | '[' :: cs => (tokens? cs).map (.opening :: ·)
  | ']' :: cs => (tokens? cs).map (.closing :: ·)
  | ',' :: cs => (tokens? cs).map (.comma :: ·)
  | '"' :: cs => (stringTokens? cs).map fun (units, tokens) => .string units :: tokens
  | c :: cs => if isGap c then tokens? cs else none

/-- The units of a string up to its closing quote, and the tokens behind it. -/
def stringTokens? : List Char → Option (List Nat × List Token)
  | '"' :: cs => (tokens? cs).map ([], ·)
  | '\\' :: 'u' :: a :: b :: c :: d :: cs => do prepend [← unitOf? a b c d] (stringTokens? cs)
  | '\\' :: c :: cs => do prepend [← escaped? c] (stringTokens? cs)
  | c :: cs => if c = '\\' ∨ c.toNat < 0x20 then none else prepend (unitsOf c) (stringTokens? cs)
  | [] => none

end

/-! ## Arrays -/

/-- The strings up to the closing bracket, with which the tokens end. -/
def elements? : List Token → Option (List String)
  | [.string units, .closing] => do return [String.ofList (← charsOf? units)]
  | .string units :: .comma :: rest => do return String.ofList (← charsOf? units) :: (← elements? rest)
  | _ => none

/-- The strings of an array. -/
def strings? : List Token → Option (List String)
  | [.opening, .closing] => some []
  | .opening :: rest => elements? rest
  | _ => none

/-- Reads a JSON text that is an array of strings. -/
def readStrings? (text : String) : Option (List String) := do
  strings? (← tokens? text.toList)

/-! ## What was written for a character -/

variable {c : Char}

/-- A character above sixteen bits is read from the two halves of its pair. -/
theorem charsOf?_unitsOf (c : Char) (units : List Nat) :
    charsOf? (unitsOf c ++ units) = (charsOf? units).map (c :: ·) := by
  have hvalid : c.toNat < 0xd800 ∨ 0xdfff < c.toNat ∧ c.toNat < 0x110000 := c.valid
  rw [unitsOf]
  split
  · -- no character is a half of a pair, so that its unit is read on its own
    have hwhole : c.toNat < 0xd800 ∨ 0xe000 ≤ c.toNat := by omega
    rw [List.singleton_append, charsOf?.eq_def]
    dsimp only
    rw [if_pos hwhole, Char.ofNat_toNat]
  · have hhigh : ¬ (0xd800 + (c.toNat - 0x10000) / 0x400 < 0xd800 ∨
        0xe000 ≤ 0xd800 + (c.toNat - 0x10000) / 0x400) := by omega
    have hfirst : ¬ 0xdc00 ≤ 0xd800 + (c.toNat - 0x10000) / 0x400 := by omega
    have hlow : 0xdc00 ≤ 0xdc00 + (c.toNat - 0x10000) % 0x400 ∧
        0xdc00 + (c.toNat - 0x10000) % 0x400 < 0xe000 := by omega
    have hpair : 0x10000 + (0xd800 + (c.toNat - 0x10000) / 0x400 - 0xd800) * 0x400 +
        (0xdc00 + (c.toNat - 0x10000) % 0x400 - 0xdc00) = c.toNat := by omega
    rw [List.cons_append, List.cons_append, List.nil_append, charsOf?, if_neg hhigh, if_neg hfirst,
      if_pos hlow, hpair, Char.ofNat_toNat]

/-- Hexadecimal digits have the value that they were written for. -/
theorem hexValue?_hexDigit : ∀ d < 16, hexValue? (hexDigit d) = some d := by decide

/-- A unit is read from the four digits that it is written with. -/
theorem stringTokens?_jsonUnit {n : Nat} (hn : n < 0x10000) (cs : List Char) :
    stringTokens? (jsonUnit n ++ cs) = prepend [n] (stringTokens? cs) := by
  have hunit : unitOf? (hexDigit (n / 16 / 16 / 16 % 16)) (hexDigit (n / 16 / 16 % 16))
      (hexDigit (n / 16 % 16)) (hexDigit (n % 16)) = some n := by
    have hdigit : ∀ m, hexValue? (hexDigit (m % 16)) = some (m % 16) :=
      fun m => hexValue?_hexDigit _ (Nat.mod_lt m (by decide))
    simp only [unitOf?, List.foldlM_cons, List.foldlM_nil, hdigit, Option.map_some, Option.bind_eq_bind,
      Option.bind_some, Option.pure_def, Option.some.injEq]
    omega
  show stringTokens? ('\\' :: 'u' :: _ :: _ :: _ :: _ :: cs) = _
  rw [stringTokens?, hunit]
  rfl

/-- A printable character that is no sign of its own is read as it stands. -/
theorem stringTokens?_printable (hquote : c ≠ '"') (hbackslash : c ≠ '\\') (hprintable : 0x20 ≤ c.toNat)
    (cs : List Char) : stringTokens? (c :: cs) = prepend (unitsOf c) (stringTokens? cs) := by
  have hplain : ¬ (c = '\\' ∨ c.toNat < 0x20) := by
    rw [not_or]
    exact ⟨hbackslash, Nat.not_lt.mpr hprintable⟩
  rw [stringTokens?, if_neg hplain]
  · exact hquote
  · exact fun _ _ _ _ _ h => absurd h hbackslash
  · exact fun _ _ h => absurd h hbackslash

/-- Whatever is written for a character is read as the units of the character. -/
theorem stringTokens?_jsonChar (c : Char) (cs : List Char) :
    stringTokens? (jsonChar c ++ cs) = prepend (unitsOf c) (stringTokens? cs) := by
  have hvalid : c.toNat < 0xd800 ∨ 0xdfff < c.toNat ∧ c.toNat < 0x110000 := c.valid
  rw [jsonChar]
  split_ifs with hsign hfeed hreturn htab hback hform hprintable hshort
  · rcases hsign with rfl | rfl <;> rfl
  · subst hfeed
    rfl
  · subst hreturn
    rfl
  · subst htab
    rfl
  · obtain rfl : c = '\x08' := Char.toNat_inj.mp hback
    rfl
  · obtain rfl : c = '\x0c' := Char.toNat_inj.mp hform
    rfl
  · rw [not_or] at hsign
    exact stringTokens?_printable hsign.1 hsign.2 hprintable.1 cs
  · rw [unitsOf, if_pos hshort]
    exact stringTokens?_jsonUnit (by omega) cs
  · -- the two halves are two escapes
    rw [unitsOf, if_neg hshort]
    dsimp only
    rw [List.append_assoc, stringTokens?_jsonUnit (by omega), stringTokens?_jsonUnit (by omega)]
    cases stringTokens? cs <;> rfl

/-! ## What was written for strings and arrays -/

/-- The token of a string. -/
def tokenOf (s : String) : Token :=
  .string (s.toList.flatMap unitsOf)

/-- The units of characters are read as these characters. -/
theorem charsOf?_flatMap (cs : List Char) : charsOf? (cs.flatMap unitsOf) = some cs := by
  induction cs with
  | nil => rfl
  | cons c cs ih =>
      rw [List.flatMap_cons, charsOf?_unitsOf, ih]
      rfl

/-- What was written for characters is read as their units. -/
theorem stringTokens?_flatMap (body cs : List Char) :
    stringTokens? (body.flatMap jsonChar ++ '"' :: cs) =
      (tokens? cs).map (body.flatMap unitsOf, ·) := by
  induction body with
  | nil => rw [List.flatMap_nil, List.nil_append, stringTokens?, List.flatMap_nil]
  | cons c body ih =>
      rw [List.flatMap_cons, List.append_assoc, stringTokens?_jsonChar, ih, prepend, Option.map_map,
        List.flatMap_cons]
      rfl

/-- A string that was written is read as its token. -/
theorem tokens?_jsonString (s : String) (cs : List Char) :
    tokens? ((jsonString s).toList ++ cs) = (tokens? cs).map (tokenOf s :: ·) := by
  have htext : (jsonString s).toList ++ cs = '"' :: (s.toList.flatMap jsonChar ++ '"' :: cs) := by
    rw [jsonString, String.toList_ofList, List.append_assoc]
    rfl
  rw [htext, tokens?, stringTokens?_flatMap, Option.map_map]
  rfl

/-- A blank between tokens is not read. -/
theorem tokens?_gap (hc : isGap c = true) (cs : List Char) : tokens? (c :: cs) = tokens? cs := by
  rw [tokens?, if_pos hc]
  all_goals
    rintro rfl
    exact absurd hc (by decide)

/-- A string is read behind the blanks that it is written with. -/
theorem tokens?_element (s : String) (cs : List Char) :
    tokens? (("  " ++ jsonString s).toList ++ cs) = (tokens? cs).map (tokenOf s :: ·) := by
  have hblanks : "  ".toList = [' ', ' '] := rfl
  rw [String.toList_append, List.append_assoc, hblanks, List.cons_append, List.singleton_append,
    tokens?_gap (by decide), tokens?_gap (by decide), tokens?_jsonString]

/-- What is written between the brackets of an array. -/
def rowText (items : List String) : String :=
  ",\n".intercalate (items.map fun s => "  " ++ jsonString s)

/-- A row of strings that was written is read back, up to its bracket. -/
theorem exists_tokens?_rowText (first : String) (others : List String) :
    ∃ tokens, tokens? ((rowText (first :: others)).toList ++ "\n]\n".toList) = some tokens ∧
      elements? tokens = some (first :: others) := by
  induction others generalizing first with
  | nil =>
      refine ⟨[tokenOf first, .closing], ?_, ?_⟩
      · rw [rowText, List.map_cons, List.map_nil, String.intercalate_singleton, tokens?_element]
        rfl
      · rw [tokenOf, elements?, charsOf?_flatMap]
        show some [String.ofList first.toList] = _
        rw [String.ofList_toList]
  | cons second others ih =>
      obtain ⟨tokens, htokens, helements⟩ := ih second
      -- behind the first string stand a comma and the row of the others
      refine ⟨tokenOf first :: .comma :: tokens, ?_, ?_⟩
      · have hcomma : ",\n".toList = [',', '\n'] := rfl
        have htext : (rowText (first :: second :: others)).toList ++ "\n]\n".toList =
            ("  " ++ jsonString first).toList ++
              ',' :: '\n' :: ((rowText (second :: others)).toList ++ "\n]\n".toList) := by
          simp only [rowText, List.map_cons, String.intercalate_cons_cons, String.toList_append,
            List.append_assoc, hcomma, List.cons_append, List.nil_append]
        rw [htext, tokens?_element, tokens?, tokens?_gap (by decide), htokens]
        rfl
      · rw [tokenOf, elements?, charsOf?_flatMap, helements]
        show some (String.ofList first.toList :: second :: others) = _
        rw [String.ofList_toList]

/-- **An array of strings is read back as it was written**, with a line feed behind it. -/
theorem readStrings?_jsonArray (items : List String) :
    readStrings? (jsonArray items ++ "\n") = some items := by
  cases items with
  | nil => decide +kernel
  | cons first others =>
      obtain ⟨tokens, htokens, helements⟩ := exists_tokens?_rowText first others
      have htext : (jsonArray (first :: others) ++ "\n").toList =
          '[' :: '\n' :: ((rowText (first :: others)).toList ++ "\n]\n".toList) := by
        rw [jsonArray, rowText]
        · simp only [String.toList_append, List.append_assoc]
          rfl
        · exact List.cons_ne_nil _ _
      rw [readStrings?, htext, tokens?, tokens?_gap (by decide), htokens]
      show strings? (.opening :: tokens) = some (first :: others)
      -- what was read behind the bracket is no closing bracket, since it has elements
      rw [strings?, helements]
      rintro rfl
      exact nomatch helements

/-- A character above sixteen bits, as it stands and by the halves of its pair. -/
example : readStrings? "[ \"\\ud83D\\uDE00\", \"😀\\/\" ]" = some ["😀", "😀/"] := by decide +kernel

end SplitExport.Json
