import SplitExport.Pattern.Reader
import SplitExport.Text.Identifier

/-!
# Reading patterns — from a text to a pattern

* Most characters stand for themselves, a point for any character of a line; what stands behind a
  backslash is an escape, and what stands in square brackets a set.
* A bar stands between choices; a question mark, an asterisk, a plus sign and counts in braces repeat the
  piece before them.
* Round brackets hold a group. A question mark behind the opening one makes it a special one: one with a
  name or without a number, a reference by name, a comment, a look ahead or behind, an atomic group, a
  condition, or a part with other flags.
* Flags for the whole pattern would have to come first of all. Only patterns that begin with something
  else are read here, so such flags always come too late.
-/

namespace SplitExport

open SplitExport.Number SplitExport.Text

/-! ## Repetitions -/

/-- The counts of a repetition stay below this one. -/
def countLimit : Nat := 0xffffffff

/-- The count that some digits write, `none` for no digits. -/
def countOf (digits : List Char) : Reading (Option Nat) := do
  if digits.isEmpty then return none
  match readInteger (String.ofList digits) with
  | .error cause => throw (.unreadableCount cause)
  | .ok count => if countLimit ≤ count.toNat then throw .countTooLarge else return some count.toNat

/-- The counts behind an opening brace; where there are none, nothing is taken. -/
def readCounts? : Reading (Option (Nat × Option Nat)) := do
  let r ← get
  if (← peek?) = some (.plain '\x7d') then return none
  let low ← takeWhile isAsciiDigit r.rest.length
  let high ← if ← takeIf ',' then takeWhile isAsciiDigit r.rest.length else pure low
  if !(← takeIf '\x7d') then
    set r
    return none
  let least ← countOf low
  let most ← countOf high
  if most.any (· < least.getD 0) then refuseAt .repeatOrder r.position
  return some (least.getD 0, most)

/-- The counts that a character for repetitions stands for, `none` if it stands for itself. -/
def readRepeat? (c : Char) : Reading (Option (Nat × Option Nat)) := do
  match c with
  | '?' => return some (0, some 1)
  | '*' => return some (0, none)
  | '+' => return some (1, none)
  | _ => readCounts?

/-- The manner of a repetition, by the mark behind it. -/
def readManner : Reading Manner := do
  if ← takeIf '?' then return .lazy
  else if ← takeIf '+' then return .possessive
  else return .greedy

/-- The pieces, the last one first, with the last one repeated; the mark for that stands at `start`. -/
def repeatLast (start least : Nat) (most : Option Nat) : List Piece → Reading (List Piece)
  | ⟨p, extent, .plain⟩ :: rest => do
    let manner ← readManner
    return ⟨.repeated manner least most p, extent.repeated least most, .repeated⟩ :: rest
  | ⟨_, _, .repeated⟩ :: _ => refuseAt .multipleRepeat start
  | _ => refuseAt .nothingToRepeat start

/-! ## Flags -/

/-- The letters of flags. -/
def flagLetters : List Char := ['i', 'L', 'm', 's', 'x', 'a', 't', 'u']

/-- The flags that say which characters there are. -/
def typeFlags : List Char := ['a', 'L', 'u']

/-- The letter of a flag or another character behind flags; `defect` is what is wrong with anything else. -/
def readFlag (ends : List Char) (defect : PatternDefect) : Reading Char := do
  match ← take? with
  | none => refuse defect 0
  | some (.escaped _) => refuse defect 2
  | some (.plain c) =>
    if flagLetters.contains c ∨ ends.contains c then return c
    else refuse (if isLetter c then .unknownFlag else defect) 1

/-- The flags that are turned on, of which the first is `c`, and the character behind them. -/
def readFlagsOn (on : List Char) (c : Char) : Nat → Reading (List Char × Char)
  | 0 => refuse .flagsOpen 0
  | fuel + 1 => do
    if c = 'L' then refuse .localeFlag 0
    if typeFlags.contains c ∧ on.any (fun other => typeFlags.contains other && other != c) then
      refuse .clashingFlags 0
    let next ← readFlag [')', '-', ':'] .flagsOpen
    if flagLetters.contains next then readFlagsOn (c :: on) next fuel else return (c :: on, next)

/-- The flags that are turned off, of which the first is `c`, up to a colon. -/
def readFlagsOff (off : List Char) (c : Char) : Nat → Reading (List Char)
  | 0 => refuse .colonMissing 0
  | fuel + 1 => do
    if typeFlags.contains c then refuse .typeFlagOff 0
    let next ← readFlag [':'] .colonMissing
    if next = ':' then return c :: off else readFlagsOff (c :: off) next fuel

/-- Flags with some turned on and others off. -/
def Flags.switch (f : Flags) (on off : List Char) : Flags where
  ignoreCase := (f.ignoreCase || on.contains 'i') && !off.contains 'i'
  multiline := (f.multiline || on.contains 'm') && !off.contains 'm'
  dotAll := (f.dotAll || on.contains 's') && !off.contains 's'
  verbose := (f.verbose || on.contains 'x') && !off.contains 'x'
  asciiOnly := if on.any typeFlags.contains then on.contains 'a' else f.asciiOnly

/-- The flags of a part, of which the first character was taken; the group starts at `start`. -/
def readFlags (flags : Flags) (start : Nat) (c : Char) : Reading Flags := do
  let fuel := (← get).rest.length + 1
  let (on, stop) ← if c = '-' then pure ([], c) else readFlagsOn [] c fuel
  if stop = ')' then refuseAt .lateFlags start
  if on.contains 't' then refuse .flagNeverOn 1
  let off ← if stop = '-' then do
      let first ← readFlag [] .flagMissing
      readFlagsOff [] first fuel
    else pure []
  if off.contains 't' then refuse .flagNeverOff 1
  if on.any off.contains then refuse .flagOnAndOff 1
  return flags.switch on off

/-! ## Names and conditions -/

/-- The name of a group up to a character. -/
def readGroupName (terminator : Char) : Reading String := do
  let name ← takeName terminator "group name"
  if isIdentifier name then return name else refuse (.badGroupName name) (name.length + 1)

/-- The reference to a group by its name. -/
def readNamedReference (flags : Flags) : Reading Piece := do
  let name ← readGroupName ')'
  let r ← get
  match r.groupNamed? name with
  | none => refuse (.unknownGroupName name) (name.length + 1)
  | some number =>
    if (r.extent? number).isNone then refuse .openReference (name.length + 1)
    checkLookBehind number
    referTo flags number

/-- The numbers of groups stay below this one. -/
def groupLimit : Nat := 0x3fffffff

/-- The number of the group that a condition asks for, by name or number. -/
def readCondition : Reading Nat := do
  let name ← takeName ')' "group name"
  let r ← get
  let back := name.length + 1
  if isIdentifier name then
    match r.groupNamed? name with
    | some number => return number
    | none => refuse (.unknownGroupName name) back
  else
    match readInteger name with
    | .error _ | .ok (.negSucc _) => refuse (.badGroupName name) back
    | .ok (.ofNat number) =>
      if number = 0 then refuse .badGroupNumber back
      if groupLimit ≤ number then refuse (.invalidReference number) back
      if !r.asked.any (·.1 == number) then
        set { r with asked := r.asked ++ [(number, r.position - back)] }
      return number

/-- Takes a comment up to its end; the group starts at `start`. -/
def skipComment (start : Nat) : Nat → Reading Unit
  | 0 => refuseAt .openComment start
  | fuel + 1 => do
    match ← take? with
    | none => refuseAt .openComment start
    | some token => if token = .plain ')' then return () else skipComment start fuel

/-- Takes everything up to the end of a line. -/
def skipLine : Nat → Reading Unit
  | 0 => return ()
  | fuel + 1 => do
    match ← take? with
    | none => return ()
    | some token => if token = .plain '\n' then return () else skipLine fuel

/-- Takes the closing bracket of the group that starts at `start`. -/
def closeGroup (start : Nat) : Reading Unit := do
  if !(← takeIf ')') then refuseAt .openGroup start

/-! ## Looks behind -/

/-- Notes what is wrong with the whole, unless something was noted before. -/
def object (error : PatternError) : Reading Unit :=
  modify fun r => { r with objection := r.objection.or (some error) }

/-- The number of characters that a look behind goes back, which has to be the same for all its texts. -/
def lengthBehind (extent : Extent) : Reading Nat := do
  if 0xffffffff < extent.least then object .lookBehindTooLong
  else if extent.least ≠ extent.most then object .lookBehindVaries
  return extent.least

/-- Reads a look behind: groups from here on are no part of what it may refer to. -/
def behindHere (read : Reading Piece) : Reading Piece := do
  let before := (← get).lookBehind
  modify fun r => { r with lookBehind := r.lookBehind.or (some r.nextGroup) }
  let p ← read
  modify fun r => { r with lookBehind := before }
  return p

/-! ## Groups -/

/-- Begins a group, perhaps with a name; its number. -/
def beginGroup (name : Option String) : Reading Nat := do
  let r ← get
  if let some text := name then
    if let some before := r.groupNamed? text then
      refuse (.repeatedGroupName text r.nextGroup before) (text.length + 1)
  modify fun r => { r with groups := r.groups ++ [⟨name, none⟩] }
  return r.nextGroup

/-- Ends a group, whose texts have the given lengths. -/
def endGroup (number : Nat) (extent : Extent) : Reading Unit :=
  modify fun r =>
    { r with groups := r.groups.modify (number - 1) fun entry => { entry with extent := some extent } }

/-- Whether a character is left out where blanks are. -/
def isSkipped (c : Char) : Bool :=
  c == ' ' || (9 ≤ c.toNat && c.toNat ≤ 13)

mutual

/-- Reads choices up to a closing bracket or the end. -/
def readChoices : Nat → Flags → Reading Piece
  | 0, _ => refuse .endOfPattern 0
  | fuel + 1, flags => do
    let first := Piece.row (← readPieces fuel flags [])
    if ← takeIf '|' then
      let others ← readChoices fuel flags
      return ⟨.choice first.pattern others.pattern, first.extent.or others.extent, .plain⟩
    else return first

/-- Reads pieces up to a bar, a closing bracket or the end, behind those that were found, the last of
    which comes first. -/
def readPieces : Nat → Flags → List Piece → Reading (List Piece)
  | 0, _, _ => refuse .endOfPattern 0
  | fuel + 1, flags, found => do
    match ← peek? with
    | none | some (.plain '|') | some (.plain ')') => return found.reverse
    | some (.escaped c) => do
      let _ ← take?
      readPieces fuel flags ((← readEscape flags c) :: found)
    | some (.plain c) => do
      let start := (← get).position
      let _ ← take?
      let literal := Piece.code flags c.toNat :: found
      if flags.verbose && isSkipped c then readPieces fuel flags found
      else if flags.verbose && c == '#' then do
        skipLine (← get).rest.length
        readPieces fuel flags found
      else match c with
        | '[' => readPieces fuel flags ((← readSet flags) :: found)
        | '.' => readPieces fuel flags (.char (if flags.dotAll then .any else .inLine) :: found)
        | '^' => readPieces fuel flags (.ofPlace (if flags.multiline then .lineStart else .start) :: found)
        | '$' => readPieces fuel flags (.ofPlace (if flags.multiline then .lineFinish else .finish) :: found)
        | '(' => readPieces fuel flags ((← readGroup fuel flags start).toList ++ found)
        | '?' | '*' | '+' | '\x7b' =>
          match ← readRepeat? c with
          | some (least, most) => readPieces fuel flags (← repeatLast start least most found)
          | none => readPieces fuel flags literal
        | _ => readPieces fuel flags literal

/-- Reads a group, which starts at `start` and whose opening bracket was taken; a comment is none. -/
def readGroup : Nat → Flags → Nat → Reading (Option Piece)
  | 0, _, _ => refuse .endOfPattern 0
  | fuel + 1, flags, start => do
    if !(← takeIf '?') then return some (← readNumbered fuel flags start none)
    match ← take? with
    | none => refuse .endOfPattern 0
    | some token =>
      match token with
      | .plain 'P' =>
        if ← takeIf '<' then return some (← readNumbered fuel flags start (some (← readGroupName '>')))
        else if ← takeIf '=' then return some (← readNamedReference flags)
        else match ← take? with
          | none => refuse .endOfPattern 0
          | some other => refuse (.unknownExtension ("P" ++ other.text)) (other.chars.length + 2)
      | .plain ':' => return some (← readBare fuel flags start)
      | .plain '#' =>
        skipComment start ((← get).rest.length + 1)
        return none
      | .plain '=' => return some (← readLook fuel flags start true)
      | .plain '!' => return some (← readLook fuel flags start false)
      | .plain '<' =>
        match ← take? with
        | none => refuse .endOfPattern 0
        | some (.plain '=') => return some (← readLookBehind fuel flags start true)
        | some (.plain '!') => return some (← readLookBehind fuel flags start false)
        | some other => refuse (.unknownExtension ("<" ++ other.text)) (other.chars.length + 2)
      | .plain '(' => return some (← readConditional fuel flags start)
      | .plain '>' =>
        let p ← readBare fuel flags start
        return some { p with pattern := .atomic p.pattern }
      | .plain c =>
        if flagLetters.contains c ∨ c = '-' then
          return some (← readBare fuel (← readFlags flags start c) start)
        else refuse (.unknownExtension token.text) 2
      | .escaped _ => refuse (.unknownExtension token.text) 3

/-- Reads a group with a number and perhaps a name. -/
def readNumbered : Nat → Flags → Nat → Option String → Reading Piece
  | 0, _, _, _ => refuse .endOfPattern 0
  | fuel + 1, flags, start, name => do
    let number ← beginGroup name
    let p ← deeper 2 (readChoices fuel flags)
    closeGroup start
    endGroup number p.extent
    return { p with pattern := .group number p.pattern }

/-- Reads a group without a number. -/
def readBare : Nat → Flags → Nat → Reading Piece
  | 0, _, _ => refuse .endOfPattern 0
  | fuel + 1, flags, start => do
    let p ← deeper 2 (readChoices fuel flags)
    closeGroup start
    return p

/-- Reads a look ahead. -/
def readLook : Nat → Flags → Nat → Bool → Reading Piece
  | 0, _, _, _ => refuse .endOfPattern 0
  | fuel + 1, flags, start, wanted => do
    let p ← readBare fuel flags start
    return ⟨.look 0 wanted p.pattern, .none, .plain⟩

/-- Reads a look behind. -/
def readLookBehind : Nat → Flags → Nat → Bool → Reading Piece
  | 0, _, _, _ => refuse .endOfPattern 0
  | fuel + 1, flags, start, wanted => do
    let p ← behindHere (deeper 2 (readChoices fuel flags))
    closeGroup start
    let back ← lengthBehind p.extent
    return ⟨.look back wanted p.pattern, .none, .plain⟩

/-- Reads a part that depends on whether a group has a text. -/
def readConditional : Nat → Flags → Nat → Reading Piece
  | 0, _, _ => refuse .endOfPattern 0
  | fuel + 1, flags, start => do
    let number ← readCondition
    checkLookBehind number
    let yes := Piece.row (← deeper 1 (readPieces fuel flags []))
    let no ← if ← takeIf '|' then do
        let no := Piece.row (← deeper 1 (readPieces fuel flags []))
        if (← peek?) = some (.plain '|') then refuse .tooManyChoices 0
        pure no
      else pure (Piece.row [])
    closeGroup start
    return ⟨.conditional number yes.pattern no.pattern, yes.extent.or no.extent, .plain⟩

end

/-! ## Patterns -/

/-- Reads a whole pattern. -/
def readWhole : Reading Pattern := do
  let p ← readChoices (8 * (← get).source.length + 8) {}
  let r ← get
  if !r.rest.isEmpty then refuse .strayClose 0
  if let some (number, offset) := r.asked.find? fun (number, _) => r.nextGroup ≤ number then
    refuseAt (.invalidReference number) offset
  if let some error := r.objection then throw error
  return p.pattern

/-- Reads a pattern. -/
def readPattern (source : String) : Except PatternError Pattern :=
  (readWhole.run { source := source.toList, rest := source.toList }).map (·.1)

end SplitExport
