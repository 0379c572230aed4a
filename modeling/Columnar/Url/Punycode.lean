/-!
Punycode: the labels of domain names with characters outside ASCII, written in ASCII.

A label is its ASCII characters and a list of insertions, which put the others in one after another,
in ascending order. All possible insertions stand in one order, by code and then by place; each is
written as its distance from the one before, in digits whose thresholds adapt to the distances seen
so far.
-/

namespace Columnar.Url.Punycode

/-! ### Distances -/

/-- The threshold of the `j`-th digit of a distance, from 1: a digit below it is the last one. -/
def threshold (bias j : Nat) : Nat :=
  max 1 (min 26 (36 * j - bias))

/-- The digit for a value: small letters, then the digits of ten. -/
def digit (d : Nat) : Char :=
  if d < 26 then Char.ofNat ('a'.toNat + d) else Char.ofNat ('0'.toNat + d - 26)

/-- The value of a digit. -/
def digitValue? (c : Char) : Option Nat :=
  if c.isLower then some (c.toNat - 'a'.toNat)
  else if c.isDigit then some (c.toNat - '0'.toNat + 26)
  else none

/-- The digits of a distance from the `j`-th on. -/
def distanceDigits (bias j distance : Nat) : List Char :=
  let t := threshold bias j
  if distance < t then [digit distance]
  else
    digit (t + (distance - t) % (36 - t)) :: distanceDigits bias (j + 1) ((distance - t) / (36 - t))
termination_by distance
decreasing_by
  have hle := Nat.div_le_self (distance - threshold bias j) (36 - threshold bias j)
  have hpos : 1 ≤ threshold bias j := Nat.le_max_left ..
  omega

/-- Reads a distance from its `j`-th digit on, and returns what follows it. -/
def readDistance? (bias j : Nat) : List Char → Option (Nat × List Char)
  | [] => none
  | c :: rest => do
    let d ← digitValue? c
    let t := threshold bias j
    if d < t then pure (d, rest)
    else
      (readDistance? bias (j + 1) rest).map fun (distance, rest) =>
        (d + (36 - t) * distance, rest)

theorem length_of_readDistance? {bias j n : Nat} {s rest : List Char}
    (h : readDistance? bias j s = some (n, rest)) : rest.length < s.length := by
  induction s generalizing j n with
  | nil => simp [readDistance?] at h
  | cons c tail ih =>
    obtain ⟨d, _, hd⟩ := Option.bind_eq_some_iff.1 h
    simp only at hd
    split at hd
    · cases hd
      simp
    · obtain ⟨⟨distance, after⟩, hr, heq⟩ := Option.map_eq_some_iff.1 hd
      cases heq
      exact Nat.lt_succ_of_lt (ih hr)

/-- The bias for an expected distance: 36 for each digit it needs, and a part for the last one. -/
def biasFor (distance : Nat) : Nat :=
  if 455 < distance then 36 + biasFor (distance / 35) else 36 * distance / (distance + 38)
termination_by distance
decreasing_by omega

/-- The bias after a distance that placed the last of `count` characters. -/
def adapt (distance count : Nat) (isFirst : Bool) : Nat :=
  let expected := if isFirst then distance / 700 else distance / 2
  biasFor (expected + expected / count)

/-- Where writer and reader stand between two insertions. -/
structure State where
  /-- The code of the last insertion. -/
  code : Nat := 0x80
  /-- The place behind the last insertion. -/
  place : Nat := 0
  bias : Nat := 72

/-- Characters of ASCII. -/
def isAscii (c : Char) : Bool :=
  c.toNat < 0x80

/-! ### Writing -/

/-- The insertion of a character with a code behind so many characters. -/
structure Insertion where
  code : Nat
  place : Nat

/-- The insertions that make a label of its ASCII characters. -/
def insertions (label : List Char) : List Insertion :=
  let others := label.zipIdx.filter fun (c, _) => !isAscii c
  (others.mergeSort fun a b => a.1 ≤ b.1).map fun (c, i) =>
    ⟨c.toNat, (label.take i).countP (· ≤ c)⟩

/-- The digits of insertions into a label of `count` characters. -/
def insertionDigits (state : State) (count : Nat) (isFirst : Bool) : List Insertion → List Char
  | [] => []
  | next :: rest =>
    let distance := (next.code - state.code) * (count + 1) + next.place - state.place
    let after : State := ⟨next.code, next.place + 1, adapt distance (count + 1) isFirst⟩
    distanceDigits state.bias 1 distance ++ insertionDigits after (count + 1) false rest

/-- The label in ASCII, without the mark that announces it. -/
def encode (label : List Char) : List Char :=
  let basic := label.filter isAscii
  (if basic.isEmpty then [] else basic ++ ['-'])
    ++ insertionDigits {} basic.length true (insertions label)

/-! ### Reading -/

/-- The label with the insertions that the digits describe. -/
def insertDigits? (state : State) (label digits : List Char) : Option (List Char) :=
  if digits.isEmpty then some label
  else match _h : readDistance? state.bias 1 digits with
    | none => none
    | some (distance, rest) =>
      let count := label.length + 1
      let code := state.code + (state.place + distance) / count
      let place := (state.place + distance) % count
      if code.isValidChar then
        insertDigits? ⟨code, place + 1, adapt distance count (label.all isAscii)⟩
          (label.take place ++ Char.ofNat code :: label.drop place) rest
      else none
termination_by digits.length
decreasing_by exact length_of_readDistance? _h

/-- Reads a label in ASCII, without the mark that announces it. The last hyphen ends the label's
own ASCII characters, of which there is at least one. -/
def decode? (s : List Char) : Option (List Char) :=
  let digits := (s.reverse.takeWhile (· != '-')).reverse
  let basic := s.take (s.length - digits.length)
  if basic.length = 1 then none else insertDigits? {} basic.dropLast digits

end Columnar.Url.Punycode
