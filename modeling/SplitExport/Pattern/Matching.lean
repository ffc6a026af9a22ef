import SplitExport.Pattern.Basic

/-!
# Matching — where the texts of a pattern stand

* A `Cursor` is a place in a text that was reached, with the groups that were met on the way.
* `Pattern.run` goes on from a cursor in all the ways in which a pattern fits, the preferred ones first,
  until what follows fits, too; what follows is given as a function (`Next`).
* A repetition takes a way that does not lead on only once in a row, so that it comes to an end; no more
  ways can follow one another than a text has places.
-/

namespace SplitExport

/-! ## Cursors -/

/-- A place in a text, and where the groups began and ended last. -/
structure Cursor where
  position : Nat := 0
  starts : List (Nat × Nat) := []
  ends : List (Nat × Nat) := []
deriving DecidableEq, Repr

namespace Cursor

/-- The bounds of the text of a group, if the group has one. -/
def bounds? (c : Cursor) (number : Nat) : Option (Nat × Nat) :=
  match c.starts.lookup number, c.ends.lookup number with
  | some first, some last => if first ≤ last then some (first, last) else none
  | _, _ => none

/-- The cursor where a group begins. -/
def opening (c : Cursor) (number : Nat) : Cursor :=
  { c with starts := (number, c.position) :: c.starts.filter (·.1 != number) }

/-- The cursor where a group ends. -/
def closing (c : Cursor) (number : Nat) : Cursor :=
  { c with ends := (number, c.position) :: c.ends.filter (·.1 != number) }

end Cursor

/-! ## Ways -/

/-- What follows: the cursor at its end, if it fits. -/
abbrev Next := Cursor → Option Cursor

/-- The ways of a part, each tried with what follows. -/
abbrev Ways := Cursor → Next → Option Cursor

/-- The ways of a part a number of times. -/
def timesOf (ways : Ways) : Nat → Ways
  | 0, c, next => next c
  | count + 1, c, next => ways c fun c => timesOf ways count c next

/-- Whether a repetition may go on: there is room, and the last time led on. -/
def mayRepeat (room : Option Nat) (last : Option Nat) (c : Cursor) : Bool :=
  room != some 0 && last != some c.position

/-- The ways of a part any number of times up to `room`, more of them before less. -/
def mostOf (ways : Ways) : Nat → Option Nat → Option Nat → Ways
  | 0, _, _, c, next => next c
  | fuel + 1, room, last, c, next =>
    if mayRepeat room last c then
      (ways c fun reached => mostOf ways fuel (room.map (· - 1)) (some c.position) reached next).orElse
        fun _ => next c
    else next c

/-- The ways of a part any number of times up to `room`, less of them before more. -/
def leastOf (ways : Ways) : Nat → Option Nat → Option Nat → Ways
  | 0, _, _, c, next => next c
  | fuel + 1, room, last, c, next =>
    (next c).orElse fun _ =>
      if mayRepeat room last c then
        ways c fun reached => leastOf ways fuel (room.map (· - 1)) (some c.position) reached next
      else none

/-- The cursor behind a part a number of times, each in the first way that fits. -/
def firstTimes (ways : Ways) : Nat → Next
  | 0, c => some c
  | count + 1, c => (ways c some).bind (firstTimes ways count)

/-- The cursor behind a part as often as it fits up to `room`, each time in the first way that fits. -/
def firstMost (ways : Ways) : Nat → Option Nat → Option Nat → Cursor → Cursor
  | 0, _, _, c => c
  | fuel + 1, room, last, c =>
    if mayRepeat room last c then
      match ways c some with
      | some reached => firstMost ways fuel (room.map (· - 1)) (some c.position) reached
      | none => c
    else c

/-- The ways of a repetition in a text with a number of characters. -/
def repeatedWays (manner : Manner) (least : Nat) (most : Option Nat) (size : Nat) (ways : Ways) : Ways :=
  let room := most.map (· - least)
  match manner with
  | .greedy => fun c next => timesOf ways least c fun c => mostOf ways (size + 2) room none c next
  | .lazy => fun c next => timesOf ways least c fun c => leastOf ways (size + 2) room none c next
  | .possessive => fun c next =>
    (firstTimes ways least c).bind fun c => next (firstMost ways (size + 2) room none c)

/-! ## Patterns -/

/-- The place behind the text of a group that stands once more at a place. -/
def behindCopy? (text : Array Char) (casing : Casing) (first last i : Nat) : Option Nat :=
  let part (k : Nat) : List Nat :=
    (text.extract k (k + (last - first))).toList.map fun c => casing.fold c.toNat
  if part i = part first then some (i + (last - first)) else none

namespace Pattern

/-- The ways in which a pattern fits a text. -/
def run (text : Array Char) : Pattern → Ways
  | .empty => fun c next => next c
  | .char test => fun c next =>
    match text[c.position]? with
    | some x => if test.holds x then next { c with position := c.position + 1 } else none
    | none => none
  | .place p => fun c next => if p.holds text c.position then next c else none
  | .sequence p q => fun c next => p.run text c fun c => q.run text c next
  | .choice p q => fun c next => (p.run text c next).orElse fun _ => q.run text c next
  | .repeated manner least most p => repeatedWays manner least most text.size (p.run text)
  | .group number p => fun c next =>
    p.run text (c.opening number) fun c => next (c.closing number)
  | .reference number casing => fun c next =>
    match c.bounds? number with
    | some (first, last) =>
      match behindCopy? text casing first last c.position with
      | some i => next { c with position := i }
      | none => none
    | none => none
  | .atomic p => fun c next => (p.run text c some).bind next
  | .look back wanted p => fun c next =>
    let seen := if c.position < back then none else p.run text { c with position := c.position - back } some
    match seen with
    | some reached => if wanted then next { reached with position := c.position } else none
    | none => if wanted then none else next c
  | .conditional number yes no => fun c next =>
    if (c.bounds? number).isSome then yes.run text c next else no.run text c next

/-- Whether a pattern fits a front of a text. -/
def fitsFront (p : Pattern) (cs : List Char) : Bool :=
  (p.run cs.toArray {} some).isSome

end Pattern

end SplitExport
