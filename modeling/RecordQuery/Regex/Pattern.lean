import RecordQuery.Regex.CharSet

/-!
# Regular expressions and where they match

A pattern is matched against a text by sets of positions.  Started at a set of
positions, a pattern ends at a set of positions: a single character moves every
position that it fits one further, an assertion keeps the positions where it holds, a
sequence goes through its parts in turn, a choice takes both branches, and a repetition
goes on until nothing new is reached.  A set of positions is a natural number with one
bit for each, so all positions move together, and the work does not grow with the
number of ways to match.

Only whether a pattern matches somewhere is asked, so which of several matches is
preferred plays no part.
-/

set_option autoImplicit false

namespace RecordQuery.Regex

/-- A condition on a place in a text. -/
inductive Assertion where
  | textStart
  | textEnd
  | lineStart
  | lineEnd
  /-- Like `lineStart`, where a carriage return ends a line as well. -/
  | anyLineStart
  /-- Like `lineEnd`, where a carriage return ends a line as well. -/
  | anyLineEnd
  | wordBoundary (unicode : Bool)
  | noWordBoundary (unicode : Bool)
  | wordStart (unicode : Bool)
  | wordEnd (unicode : Bool)
  | wordStartHalf (unicode : Bool)
  | wordEndHalf (unicode : Bool)
deriving DecidableEq, Repr

/-- A regular expression. -/
inductive Pattern where
  | empty
  | one (set : CharSet)
  | holds (assertion : Assertion)
  | seq (first second : Pattern)
  | either (left right : Pattern)
  /-- At least `least` times, and no more than `most` times if that is given. -/
  | times (least : Nat) (most : Option Nat) (body : Pattern)

namespace Assertion

/-- Membership of a neighbouring character in the characters of words. -/
def isWord (unicode : Bool) (c : Option Char) : Bool :=
  match c with
  | some c => if unicode then CharSet.word.contains c else CharSet.asciiWord.contains c
  | none => false

/-- The condition holds between two neighbouring characters; there is none before the start
and after the end of the text. -/
def test (before after : Option Char) : Assertion → Bool
  | .textStart => before.isNone
  | .textEnd => after.isNone
  | .lineStart => before.isNone || before == some '\n'
  | .lineEnd => after.isNone || after == some '\n'
  | .anyLineStart =>
    before.isNone || before == some '\n' || (before == some '\r' && after != some '\n')
  | .anyLineEnd =>
    after.isNone || after == some '\r' || (after == some '\n' && before != some '\r')
  | .wordBoundary unicode => isWord unicode before != isWord unicode after
  | .noWordBoundary unicode => isWord unicode before == isWord unicode after
  | .wordStart unicode => !isWord unicode before && isWord unicode after
  | .wordEnd unicode => isWord unicode before && !isWord unicode after
  | .wordStartHalf unicode => !isWord unicode before
  | .wordEndHalf unicode => !isWord unicode after

end Assertion

/-! ## Sets of positions -/

/-- A set of places in a text: bit `n` stands for the place before the character at `n`. -/
abbrev Places := Nat

namespace Places

/-- The places where a test of the neighbouring characters holds, from the place after
`before` on; `bit` is the bit of that place. -/
def wherever (test : Option Char → Option Char → Bool) (bit : Nat) (before : Option Char) :
    List Char → Places
  | [] => if test before none then bit else 0
  | c :: text =>
    (if test before (some c) then bit else 0) ||| wherever test (2 * bit) (some c) text

/-- All places of a text. -/
def all (text : List Char) : Places := Nat.pow 2 (text.length + 1) - 1

/-- Applies a step over and over, at most `rounds` times, for as long as it changes the
set. -/
def iterate (step : Places → Places) : Nat → Places → Places
  | 0, places => places
  | rounds + 1, places =>
    let next := step places
    if next = places then places else iterate step rounds next

end Places

/-- A pattern with the places of one text that its characters and assertions fit. -/
inductive Plan where
  | stay
  | move (places : Places)
  | keep (places : Places)
  | seq (first second : Plan)
  | either (left right : Plan)
  | times (least : Nat) (most : Option Nat) (body : Plan)

namespace Plan

/-- Where a pattern ends that starts at `places`.  After more rounds than the text has
places a repetition reaches nothing new, so `rounds` bounds them all. -/
def ends (rounds : Nat) : Plan → Places → Places
  | .stay, places => places
  | .move fits, places => 2 * (places &&& fits)
  | .keep fits, places => places &&& fits
  | .seq first second, places => second.ends rounds (first.ends rounds places)
  | .either left right, places => left.ends rounds places ||| right.ends rounds places
  | .times least most body, places =>
    let start := Places.iterate (fun places => body.ends rounds places) (min least rounds) places
    let extra := match most with
      | some most => min (most - least) rounds
      | none => rounds
    Places.iterate (fun places => places ||| body.ends rounds places) extra start

end Plan

namespace Pattern

/-- The pattern with the places of a text filled in. -/
def plan (text : List Char) : Pattern → Plan
  | .empty => .stay
  | .one set =>
    .move (Places.wherever (fun _ after => after.any set.contains) 1 none text)
  | .holds assertion =>
    .keep (Places.wherever (fun before after => assertion.test before after) 1 none text)
  | .seq first second => .seq (first.plan text) (second.plan text)
  | .either left right => .either (left.plan text) (right.plan text)
  | .times least most body => .times least most (body.plan text)

/-- The pattern matches some piece of the text. -/
def isMatch (pattern : Pattern) (text : List Char) : Bool :=
  (pattern.plan text).ends (text.length + 2) (Places.all text) != 0

/-- How large a pattern is when its repetitions are written out. -/
def size : Pattern → Nat
  | .empty => 1
  | .one set => set.pieces
  | .holds _ => 1
  | .seq first second => first.size + second.size
  | .either left right => left.size + right.size + 1
  | .times least most body => max (most.getD least) 1 * (body.size + 1)

/-- The patterns of a list one after the other. -/
def sequence : List Pattern → Pattern
  | [] => .empty
  | [pattern] => pattern
  | pattern :: patterns => .seq pattern (sequence patterns)

/-- A choice between the patterns of a list. -/
def choice : List Pattern → Pattern
  | [] => .empty
  | [pattern] => pattern
  | pattern :: patterns => .either pattern (choice patterns)

end Pattern

end RecordQuery.Regex
