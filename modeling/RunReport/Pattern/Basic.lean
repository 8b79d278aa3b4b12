import RunReport.Pattern.CharSet
import RunReport.Unicode.Category
import RunReport.Unicode.Property

/-!
# Patterns

Regular expressions over characters, and which parts of a text they match.

A pattern relates two places of a text: it can match from the one to the other. Besides characters
it can ask about the place itself, whether it lies at the end of the text, of a line or of a word.
For that only the two characters beside the place matter. `Pattern.Matches` is the relation.
`Pattern.ends` computes it for a whole set of places at once: a sequence is the composition of two
such maps, and a repetition without limit stops as soon as no new place is reached, which happens
before the text has no places left.

## Main definitions

* `Assertion`: A question about a place.
* `Pattern`: A regular expression.
* `Pattern.Matches`: From where to where a pattern can match.
* `Pattern.ends`: The places where matches end that start at given places.
* `Pattern.isMatch`: Whether a pattern matches anywhere in a text.
-/

namespace RunReport

/-- Whether a character is part of a word in any script. -/
def isWordChar (c : Char) : Bool :=
  Unicode.Property.alphabetic.contains c || Unicode.Category.nonspacingMark.contains c ||
    Unicode.Category.spacingMark.contains c || Unicode.Category.enclosingMark.contains c ||
    Unicode.Category.decimalNumber.contains c ||
    Unicode.Category.connectorPunctuation.contains c || Unicode.Property.joinControl.contains c

/-- Whether a character is part of a word of ASCII. -/
def isAsciiWordChar (c : Char) : Bool :=
  c.isAlphanum || c = '_'

/-- A question about a place of a text. -/
inductive Assertion
  | textStart
  | textEnd
  | lineStart
  | lineEnd
  | carriageLineStart
  | carriageLineEnd
  | boundary (ascii : Bool)
  | noBoundary (ascii : Bool)
  | wordStart (ascii : Bool)
  | wordEnd (ascii : Bool)
  | noWordBefore (ascii : Bool)
  | noWordAfter (ascii : Bool)
  deriving DecidableEq

namespace Assertion

/-- Whether there is a character and it is part of a word. -/
def isWord (ascii : Bool) : Option Char → Bool
  | none => false
  | some c => if ascii then isAsciiWordChar c else isWordChar c

/-- The answer for a place, given the characters before and after it. -/
def holds (before after : Option Char) : Assertion → Bool
  | textStart => before.isNone
  | textEnd => after.isNone
  | lineStart => before.isNone || before == some '\n'
  | lineEnd => after.isNone || after == some '\n'
  | carriageLineStart =>
    before.isNone || before == some '\n' || (before == some '\r' && after != some '\n')
  | carriageLineEnd =>
    after.isNone || after == some '\r' || (after == some '\n' && before != some '\r')
  | boundary ascii => isWord ascii before != isWord ascii after
  | noBoundary ascii => isWord ascii before == isWord ascii after
  | wordStart ascii => !isWord ascii before && isWord ascii after
  | wordEnd ascii => isWord ascii before && !isWord ascii after
  | noWordBefore ascii => !isWord ascii before
  | noWordAfter ascii => !isWord ascii after

end Assertion

/-- A regular expression. A repetition has a least count and may have a greatest. -/
inductive Pattern
  | empty
  | char (set : CharSet)
  | look (assertion : Assertion)
  | seq (p q : Pattern)
  | alt (p q : Pattern)
  | repeated (p : Pattern) (least : Nat) (most : Option Nat)
  deriving DecidableEq

namespace Pattern

/-- The character before a place. -/
def before? (text : Array Char) (place : Nat) : Option Char :=
  if place = 0 then none else text[place - 1]?

/-- Whether an assertion holds at a place. -/
def holdsAt (text : Array Char) (a : Assertion) (place : Nat) : Bool :=
  a.holds (before? text place) text[place]?

/-- From where to where a pattern can match in a text. -/
inductive Matches (text : Array Char) : Pattern → Nat → Nat → Prop
  | empty (i : Nat) : Matches text .empty i i
  | char {set : CharSet} {i : Nat} {c : Char} (at_i : text[i]? = some c)
      (mem : set.contains c = true) : Matches text (.char set) i (i + 1)
  | look {a : Assertion} {i : Nat} (holds : holdsAt text a i = true) : Matches text (.look a) i i
  | seq {p q : Pattern} {i j k : Nat} (first : Matches text p i j) (second : Matches text q j k) :
      Matches text (.seq p q) i k
  | altLeft {p q : Pattern} {i j : Nat} (left : Matches text p i j) : Matches text (.alt p q) i j
  | altRight {p q : Pattern} {i j : Nat} (right : Matches text q i j) : Matches text (.alt p q) i j
  | stop {p : Pattern} {most : Option Nat} (i : Nat) : Matches text (.repeated p 0 most) i i
  | step {p : Pattern} {least : Nat} {most : Option Nat} {i j k : Nat} (room : most ≠ some 0)
      (once : Matches text p i j)
      (rest : Matches text (.repeated p (least - 1) (most.map (· - 1))) j k) :
      Matches text (.repeated p least most) i k

/-- The places of two lists, those of the second only where they are new. -/
def merged (a b : List Nat) : List Nat :=
  a ++ b.filter fun i => !a.contains i

/-- A map of sets of places applied so many times; once nothing changes any more it is not applied
    again. -/
def iterated (f : List Nat → List Nat) : Nat → List Nat → List Nat
  | 0, s => s
  | n + 1, s => let t := f s; if t = s then s else iterated f n t

/-- The places that are reached by applying a map at most so many times, given those that were
    reached before and those that are new. -/
def reached (f : List Nat → List Nat) : Nat → List Nat → List Nat → List Nat
  | 0, done, _ => done
  | n + 1, done, new =>
    let next := (f new).filter fun i => !done.contains i
    if next.isEmpty then done else reached f n (done ++ next) next

/-- The places where matches of a pattern end that start at given places. -/
def ends (text : Array Char) : Pattern → List Nat → List Nat
  | empty, s => s
  | char set, s =>
    (s.filter fun i => (text[i]?.map set.contains).getD false).map (· + 1)
  | look a, s => s.filter (holdsAt text a)
  | seq p q, s => ends text q (ends text p s)
  | alt p q, s => merged (ends text p s) (ends text q s)
  | repeated p least most, s =>
    let s := iterated (ends text p) least s
    let more := match most with
      | some n => n - least
      | none => text.size + 1
    reached (ends text p) more s s

/-- Whether a pattern matches anywhere in a text. -/
def isMatch (p : Pattern) (text : String) : Bool :=
  let cs := text.toList.toArray
  !(p.ends cs (List.range (cs.size + 1))).isEmpty

end Pattern

end RunReport
