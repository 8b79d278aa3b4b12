/-!
# Punycode

Words of any script in the letters, digits and hyphens of host names.

The characters of ASCII come first. The others follow as a list of insertions, in order of their
numbers: each insertion is the distance from the one before, counted over all places and all
characters that could have been meant, in a notation of base 36 in which the last digit of a number
shows that it is the last. Which digits do so adapts to the distances seen so far.

## Main definitions

* `Punycode.encode`: The written form of a word.
* `Punycode.decode?`: The word of a written form.

## Theorems

* `threshold_pos`: A threshold is never zero.
-/

namespace RunReport

namespace Punycode

/-- A digit of base 36: letters first. -/
def digit (d : Nat) : Char :=
  if d < 26 then Char.ofNat (0x61 + d) else Char.ofNat (0x30 + (d - 26))

/-- The value of a digit. -/
def digitValue? (c : Char) : Option Nat :=
  if 'a' ≤ c ∧ c ≤ 'z' then some (c.toNat - 0x61)
  else if 'A' ≤ c ∧ c ≤ 'Z' then some (c.toNat - 0x41)
  else if '0' ≤ c ∧ c ≤ '9' then some (c.toNat - 0x30 + 26)
  else none

/-- The least digit at a position that is not the last of its number. -/
def threshold (position bias : Nat) : Nat :=
  max 1 (min 26 (position - bias))

/-- A threshold is never zero. -/
theorem threshold_pos (position bias : Nat) : 0 < threshold position bias := by
  simp only [threshold]
  omega

/-- Scales a distance down, and counts the positions that this saves. -/
def scaledDown (delta position : Nat) : Nat × Nat :=
  if 455 < delta then scaledDown (delta / 35) (position + 36) else (delta, position)
termination_by delta
decreasing_by omega

/-- The bias after a distance; `handled` characters are there now. -/
def adapted (delta handled : Nat) (isFirst : Bool) : Nat :=
  let delta := if isFirst then delta / 700 else delta / 2
  let (delta, position) := scaledDown (delta + delta / handled) 0
  position + 36 * delta / (delta + 38)

/-- A number in digits, from a position on. -/
def digits (bias position n : Nat) : List Char :=
  let t := threshold position bias
  if n < t then [digit n]
  else digit (t + (n - t) % (36 - t)) :: digits bias (position + 36) ((n - t) / (36 - t))
termination_by n
decreasing_by
  have := threshold_pos position bias
  exact Nat.lt_of_le_of_lt (Nat.div_le_self _ _) (by omega)

/-- What was written so far: the output, the distance from the last insertion, the bias, how many
    characters there are and whether there was no insertion yet. -/
structure Progress where
  output : List Char
  delta : Nat := 0
  bias : Nat := 72
  handled : Nat
  isFirst : Bool := true

/-- Goes over one character of a word while the characters with one number are inserted. -/
def Progress.pass (number : Nat) (p : Progress) (c : Char) : Progress :=
  if c.toNat < number then { p with delta := p.delta + 1 }
  else if c.toNat = number then
    { output := p.output ++ digits p.bias 36 p.delta
      delta := 0
      bias := adapted p.delta (p.handled + 1) p.isFirst
      handled := p.handled + 1
      isFirst := false }
  else p

/-- Inserts the characters with one number after another; `next` is the least number that could
    have come. -/
def Progress.insert (word : List Char) (p : Progress) (next : Nat) : List Nat → Progress
  | [] => p
  | number :: rest =>
    let p := { p with delta := p.delta + (number - next) * (p.handled + 1) }
    let p := word.foldl (pass number) p
    Progress.insert word { p with delta := p.delta + 1 } (number + 1) rest

/-- The written form of a word. -/
def encode (word : List Char) : List Char :=
  let plain := word.filter (·.toNat < 128)
  let numbers := ((word.map Char.toNat).filter (128 ≤ ·)).mergeSort.eraseDups
  let start := if plain.isEmpty then [] else plain ++ ['-']
  (Progress.insert word { output := start, handled := plain.length } 128 numbers).output

/-- The number that digits write, with the text after it. -/
def number? (bias : Nat) : Nat → Nat → Nat → List Char → Option (Nat × List Char)
  | _, _, _, [] => none
  | position, weight, n, c :: cs =>
    match digitValue? c with
    | none => none
    | some d =>
      let t := threshold position bias
      let n := n + d * weight
      if d < t then some (n, cs) else number? bias (position + 36) (weight * (36 - t)) n cs

/-- Resolves insertions into a word: `code` counts places and numbers together. -/
def insertions? : Nat → List Char → Nat → Nat → Bool → List Char → Option (List Char)
  | 0, _, _, _, _, _ => none
  | _ + 1, word, _, _, _, [] => some word
  | fuel + 1, word, code, bias, isFirst, cs =>
    match number? bias 36 1 0 cs with
    | none => none
    | some (delta, rest) =>
      let places := word.length + 1
      let code := code + delta
      let number := 128 + code / places
      if number.isValidChar then
        let place := code % places
        let word := word.take place ++ Char.ofNat number :: word.drop place
        insertions? fuel word (code / places * (places + 1) + place + 1)
          (adapted delta places isFirst) false rest
      else none

/-- The word of a written form. -/
def decode? (cs : List Char) : Option (List Char) :=
  let tail := (cs.reverse.takeWhile (· ≠ '-')).reverse
  let plain := (cs.take (cs.length - tail.length)).dropLast
  if cs.all (·.toNat < 128) then insertions? (cs.length + 1) plain 0 72 true tail else none

end Punycode

end RunReport
