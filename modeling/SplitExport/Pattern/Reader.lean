import SplitExport.Pattern.Basic
import SplitExport.Pattern.Defect
import SplitExport.Text.Names

/-!
# Readers — the characters of a pattern, and what is known of its groups

* A `Reader` goes through the text of a pattern; a backslash and the character behind it are one `Token`.
* It keeps the groups in the order in which they begin, each with the length of its texts once it has ended.
* Escapes stand for characters by letters, numbers and names, for kinds of characters, for places, and for
  the texts of groups.
-/

namespace SplitExport

open SplitExport.Number SplitExport.Text

/-! ## Lengths -/

/-- The lengths of the texts of a pattern, from the least to the greatest. -/
structure Extent where
  least : Nat
  most : Nat
deriving DecidableEq, Repr

namespace Extent

/-- A length that is never exceeded. -/
def limit : Nat := Nat.pow 2 64

/-- The extent of nothing. -/
def none : Extent := ⟨0, 0⟩

/-- The extent of one character. -/
def one : Extent := ⟨1, 1⟩

/-- The extent of two parts, one behind the other. -/
def andThen (a b : Extent) : Extent :=
  ⟨min (a.least + b.least) limit, min (a.most + b.most) limit⟩

/-- The extent of one of two parts. -/
def or (a b : Extent) : Extent :=
  ⟨min a.least b.least, max a.most b.most⟩

/-- The extent of a repetition. -/
def repeated (a : Extent) (least : Nat) (most : Option Nat) : Extent :=
  ⟨min (a.least * least) limit,
    match most with
    | some most => min (a.most * most) limit
    | .none => if a.most = 0 then 0 else limit⟩

end Extent

/-! ## Flags -/

/-- How a part of a pattern is read and compared. -/
structure Flags where
  ignoreCase : Bool := false
  multiline : Bool := false
  /-- A point stands for line ends, too. -/
  dotAll : Bool := false
  /-- Blanks and comments are left out. -/
  verbose : Bool := false
  asciiOnly : Bool := false
deriving DecidableEq, Repr

/-- How much case counts. -/
def Flags.casing (f : Flags) : Casing :=
  if !f.ignoreCase then .exact else if f.asciiOnly then .ascii else .full

/-! ## Readers -/

/-- A character of a pattern, or one with a backslash in front. -/
inductive Token where
  | plain (c : Char)
  | escaped (c : Char)
deriving DecidableEq, Repr

/-- The characters of a token. -/
def Token.chars : Token → List Char
  | .plain c => [c]
  | .escaped c => ['\\', c]

/-- The text of a token. -/
def Token.text (t : Token) : String :=
  String.ofList t.chars

/-- A group that has begun. -/
structure GroupEntry where
  name : Option String
  /-- The lengths of its texts, once it has ended. -/
  extent : Option Extent := none
deriving DecidableEq, Repr

/-- Where in a pattern one is, and what is known so far. -/
structure Reader where
  source : List Char
  rest : List Char
  position : Nat := 0
  groups : List GroupEntry := []
  /-- The number that groups of the look behind in which one is start from. -/
  lookBehind : Option Nat := none
  /-- How deep one is in groups and conditions. -/
  depth : Nat := 0
  /-- The groups that conditions ask for, with their positions. -/
  asked : List (Nat × Nat) := []
  /-- What is found to be wrong once all has been read. -/
  objection : Option PatternError := none

/-- Reading, which changes the reader or ends with an error. -/
abbrev Reading := StateT Reader (Except PatternError)

/-- A defect at an offset. -/
def refuseAt {α : Type} (defect : PatternDefect) (offset : Nat) : Reading α := do
  throw (.defect defect (.ofOffset (← get).source offset))

/-- A defect a number of characters before the position. -/
def refuse {α : Type} (defect : PatternDefect) (back : Nat) : Reading α := do
  refuseAt defect ((← get).position - back)

/-- The next token, if there is one; a backslash alone at the end is a defect. -/
def peek? : Reading (Option Token) := do
  let r ← get
  match r.rest with
  | [] => return none
  | ['\\'] => refuseAt (.badEscape "(end of pattern)") r.position
  | '\\' :: c :: _ => return some (.escaped c)
  | c :: _ => return some (.plain c)

/-- Takes the next token, if there is one. -/
def take? : Reading (Option Token) := do
  let token ← peek?
  if let some t := token then
    modify fun r =>
      { r with rest := r.rest.drop t.chars.length, position := r.position + t.chars.length }
  return token

/-- Takes the next token if it is a given character. -/
def takeIf (c : Char) : Reading Bool := do
  if (← peek?) = some (.plain c) then
    let _ ← take?
    return true
  else return false

/-- Takes characters of a kind, at most a number of them. -/
def takeWhile (accept : Char → Bool) : Nat → Reading (List Char)
  | 0 => return []
  | count + 1 => do
    match ← peek? with
    | some (.plain c) =>
      if accept c then
        let _ ← take?
        return c :: (← takeWhile accept count)
      else return []
    | _ => return []

/-- Takes everything up to a character, which is taken as well, and of which there must be something. -/
def takeUntil (terminator : Char) (what : String) (found : List Char) : Nat → Reading String
  | 0 => refuse (.nameMissing what) 0
  | fuel + 1 => do
    match ← take? with
    | none =>
      if found.isEmpty then refuse (.nameMissing what) 0
      else refuse (.openName terminator) found.length
    | some token =>
      if token = .plain terminator then
        if found.isEmpty then refuse (.nameMissing what) 1 else return String.ofList found
      else takeUntil terminator what (found ++ token.chars) fuel

/-- The name up to a character. -/
def takeName (terminator : Char) (what : String) : Reading String := do
  takeUntil terminator what [] ((← get).rest.length + 1)

/-! ## Groups -/

/-- The number that the next group will have. -/
def Reader.nextGroup (r : Reader) : Nat :=
  r.groups.length + 1

/-- The lengths of the texts of a group that has ended. -/
def Reader.extent? (r : Reader) (number : Nat) : Option Extent :=
  if number = 0 then none else r.groups[number - 1]? |>.bind (·.extent)

/-- The number of the group with a name. -/
def Reader.groupNamed? (r : Reader) (name : String) : Option Nat :=
  (r.groups.findIdx? (·.name = some name)).map (· + 1)

/-- Checks that a look behind refers to a group that has ended before it. -/
def checkLookBehind (number : Nat) : Reading Unit := do
  let r ← get
  if let some first := r.lookBehind then
    if (r.extent? number).isNone then refuse .openReference 0
    if first ≤ number then refuse .referenceInLookBehind 0

/-- How deep groups may stand in one another; a group counts twice, a condition once. -/
def depthLimit : Nat := 984

/-- Reads what stands deeper by some steps. -/
def deeper {α : Type} (steps : Nat) (read : Reading α) : Reading α := do
  let depth := (← get).depth
  if depthLimit < depth + steps then throw .tooDeep
  modify fun r => { r with depth := depth + steps }
  let result ← read
  modify fun r => { r with depth }
  return result

/-! ## Pieces -/

/-- What a repetition has to know of what stands before it. -/
inductive PieceKind where
  | plain
  | place
  | repeated
deriving DecidableEq, Repr

/-- A part of a pattern with the lengths of its texts. -/
structure Piece where
  pattern : Pattern
  extent : Extent
  kind : PieceKind := .plain

namespace Piece

/-- A character of a set. -/
def char (test : CharTest) : Piece :=
  ⟨.char test, .one, .plain⟩

/-- A character that stands for itself. -/
def code (flags : Flags) (code : Nat) : Piece :=
  char (.one code flags.casing false)

/-- A place. -/
def ofPlace (place : Place) : Piece :=
  ⟨.place place, .none, .place⟩

/-- Pieces behind one another. -/
def row (pieces : List Piece) : Piece :=
  ⟨.allOf (pieces.map (·.pattern)), (pieces.map (·.extent)).foldl Extent.andThen .none, .plain⟩

end Piece

/-- A reference to a group. -/
def referTo (flags : Flags) (number : Nat) : Reading Piece := do
  return ⟨.reference number flags.casing, ((← get).extent? number).getD .none, .plain⟩

/-! ## Escapes -/

/-- The kind of characters that an escaped letter stands for. -/
def escapedKind? : Char → Option CharRule
  | 'd' => some (.named .digit false)
  | 'D' => some (.named .digit true)
  | 's' => some (.named .blank false)
  | 'S' => some (.named .blank true)
  | 'w' => some (.named .word false)
  | 'W' => some (.named .word true)
  | _ => none

/-- The place that an escaped letter stands for. -/
def escapedPlace? (asciiOnly : Bool) : Char → Option Place
  | 'A' => some .start
  | 'Z' => some .stop
  | 'b' => some (.edge asciiOnly true)
  | 'B' => some (.edge asciiOnly false)
  | _ => none

/-- The character that an escaped letter stands for. -/
def escapedControl? : Char → Option Char
  | 'a' => some '\x07'
  | 'b' => some '\x08'
  | 'f' => some '\x0c'
  | 'n' => some '\n'
  | 'r' => some '\r'
  | 't' => some '\t'
  | 'v' => some '\x0b'
  | _ => none

/-- Whether a character is a hexadecimal digit. -/
def isHex (c : Char) : Bool :=
  (Names.hexValue? c).isSome

/-- Whether a character is an octal digit. -/
def isOctal (c : Char) : Bool :=
  '0' ≤ c && c ≤ '7'

/-- The code point that a number of hexadecimal digits behind a letter write. -/
def readHex (letter : Char) (length : Nat) : Reading Nat := do
  let digits ← takeWhile isHex length
  let source := String.ofList ('\\' :: letter :: digits)
  if digits.length < length then refuse (.incompleteEscape source) source.length
  else
    let code := Names.numberOf 16 digits
    if 0x10ffff < code then refuse (.badEscape source) source.length else return code

/-- The code point of the character that is named in braces. -/
def readNamed : Reading Nat := do
  if !(← takeIf '\x7b') then refuse .braceMissing 0
  let name ← takeName '\x7d' "character name"
  match Names.codeNamed? name with
  | some code => return code
  | none => refuse (.unknownCharName name) (name.length + 4)

/-- The code point that octal digits write, the first of which was taken. -/
def octalCode (digits : List Char) : Reading Nat := do
  let code := Names.numberOf 8 digits
  if 0xff < code then
    refuse (.octalTooLarge (String.ofList ('\\' :: digits))) (digits.length + 1)
  else return code

/-- The code point that an escape by letter or number stands for, where the character behind the backslash
    was taken; `none` for digits, which may mean more than one thing. -/
def readCode? (c : Char) : Reading (Option Nat) := do
  match escapedControl? c with
  | some control => return some control.toNat
  | none =>
    match c with
    | 'x' => some <$> readHex c 2
    | 'u' => some <$> readHex c 4
    | 'U' => some <$> readHex c 8
    | 'N' => some <$> readNamed
    | _ =>
      if isAsciiLetter c then refuse (.badEscape (String.ofList ['\\', c])) 2
      else if isAsciiDigit c then return none
      else return some c.toNat

/-- The piece that an escape with a digit stands for: a character by its octal number, or a group. -/
def readNumber (flags : Flags) (c : Char) : Reading Piece := do
  if c = '0' then return .code flags (← octalCode (c :: (← takeWhile isOctal 2)))
  let more ← takeWhile isAsciiDigit 1
  let third ← if (c :: more).all isOctal ∧ more ≠ [] then takeWhile isOctal 1 else pure []
  if third ≠ [] then return .code flags (← octalCode (c :: more ++ third))
  let number := digitsValue (c :: more)
  let r ← get
  if r.nextGroup ≤ number then refuse (.invalidReference number) (more.length + 1)
  if (r.extent? number).isNone then refuse .openReference (more.length + 2)
  checkLookBehind number
  referTo flags number

/-- The piece that an escape stands for, where the character behind the backslash was taken. -/
def readEscape (flags : Flags) (c : Char) : Reading Piece := do
  match escapedPlace? flags.asciiOnly c, escapedKind? c with
  | some place, _ => return .ofPlace place
  | none, some rule => return .char (.set [rule] .exact flags.asciiOnly false)
  | none, none =>
    match ← readCode? c with
    | some code => return .code flags code
    | none => readNumber flags c

/-! ## Sets -/

/-- The member of a set that an escape stands for, where the character behind the backslash was taken. -/
def readSetEscape (c : Char) : Reading CharRule := do
  match escapedKind? c with
  | some rule => return rule
  | none =>
    match ← readCode? c with
    | some code => return .one code
    | none =>
      if isOctal c then return .one (← octalCode (c :: (← takeWhile isOctal 2)))
      else refuse (.badEscape (String.ofList ['\\', c])) 2

/-- The member of a set that a token stands for. -/
def readMember : Token → Reading CharRule
  | .plain c => return .one c.toNat
  | .escaped c => readSetEscape c

/-- The range from one member to another. -/
def rangeOf (first last : Token) (low high : CharRule) : Reading CharRule := do
  let bad := refuse (.badRange first.text last.text) (first.chars.length + 1 + last.chars.length)
  match low, high with
  | .one a, .one b => if b < a then bad else return .range a b
  | _, _ => bad

/-- The members of a set up to its end, behind those that were found. -/
def readMembers (start : Nat) (found : List CharRule) : Nat → Reading (List CharRule)
  | 0 => refuseAt .openSet start
  | fuel + 1 => do
    let some token ← take? | refuseAt .openSet start
    if token = .plain ']' ∧ found ≠ [] then return found
    let rule ← readMember token
    if ← takeIf '-' then
      let some last ← take? | refuseAt .openSet start
      if last = .plain ']' then return found ++ [rule, .one '-'.toNat]
      let range ← rangeOf token last rule (← readMember last)
      readMembers start (found ++ [range]) fuel
    else readMembers start (found ++ [rule]) fuel

/-- A set, whose opening bracket was taken. -/
def readSet (flags : Flags) : Reading Piece := do
  let r ← get
  let negated ← takeIf '^'
  let rules ← readMembers (r.position - 1) [] (r.rest.length + 1)
  match rules.eraseDups with
  | [.one code] => return .char (.one code flags.casing negated)
  | rules => return .char (.set rules flags.casing flags.asciiOnly negated)

end SplitExport
