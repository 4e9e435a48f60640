/-!
# Punycode

A label of a domain name written in letters, digits and hyphens only. Its basic characters come
first; after the last hyphen follow the others, in increasing order, each as the distance from the
one before it. A distance is written in a base that varies with the position of the digit and with
a bias, which adapts to the distances so far.
-/

namespace Workflow

namespace Punycode

/-- The digit with a value below 36: a letter, or from 26 on a decimal digit. -/
def digit (n : Nat) : Char :=
  if n < 26 then Char.ofNat ('a'.toNat + n) else Char.ofNat ('0'.toNat + (n - 26))

/-- The value of a digit; letters count in either case. -/
def digitValue? (c : Char) : Option Nat :=
  if 'a' ≤ c ∧ c ≤ 'z' then some (c.toNat - 'a'.toNat)
  else if 'A' ≤ c ∧ c ≤ 'Z' then some (c.toNat - 'A'.toNat)
  else if c.isDigit then some (c.toNat - '0'.toNat + 26)
  else none

/-- The threshold of a position: smaller digits end a number. Positions are multiples of 36. -/
def threshold (position bias : Nat) : Nat :=
  if position ≤ bias then 1 else if bias + 26 ≤ position then 26 else position - bias

theorem threshold_pos (position bias : Nat) : 0 < threshold position bias := by
  unfold threshold
  split
  · omega
  · split <;> omega

/-- Divide a distance by 35 until it is at most 455; count 36 for each division. -/
def shrink (delta count : Nat) : Nat × Nat :=
  if 455 < delta then shrink (delta / 35) (count + 36) else (delta, count)
termination_by delta
decreasing_by omega

/-- The bias after a distance, when `count` characters have been placed. -/
def adapt (delta count : Nat) (first : Bool) : Nat :=
  let halved := if first then delta / 700 else delta / 2
  let (rest, base) := shrink (halved + halved / count) 0
  base + 36 * rest / (rest + 38)

/-- A number from a position on. -/
def writeNumber (bias position n : Nat) : List Char :=
  let t := threshold position bias
  if n < t then [digit n]
  else digit (t + (n - t) % (36 - t)) :: writeNumber bias (position + 36) ((n - t) / (36 - t))
termination_by n
decreasing_by
  have := threshold_pos position bias
  have := Nat.div_le_self (n - threshold position bias) (36 - threshold position bias)
  omega

/-- A number from the front of a text, and what follows it. -/
def readNumber (bias position weight value : Nat) :
    (text : List Char) → Option (Nat × { rest : List Char // rest.length < text.length })
  | [] => none
  | c :: rest => do
    let d ← digitValue? c
    let t := threshold position bias
    let value := value + d * weight
    if d < t then return (value, ⟨rest, by simp⟩)
    let (value, after) ← readNumber bias (position + 36) (weight * (36 - t)) value rest
    return (value, ⟨after.1, by have := after.2; simp; omega⟩)

/-- Whether a character is basic. -/
def isBasic (c : Char) : Bool :=
  c.toNat < 0x80

/-- An encoder under way: what is written, the distance so far, the bias and how many characters
have been placed, the first `basic` of which are basic. -/
structure Encoder where
  written : List Char
  delta : Nat
  bias : Nat
  placed : Nat
  basic : Nat

/-- Pass over one character of the label while characters of one code point are placed. -/
def Encoder.pass (point : Nat) (encoder : Encoder) (c : Char) : Encoder :=
  if c.toNat < point then { encoder with delta := encoder.delta + 1 }
  else if c.toNat = point then
    { encoder with
      written := encoder.written ++ writeNumber encoder.bias 36 encoder.delta
      delta := 0
      bias := adapt encoder.delta (encoder.placed + 1) (encoder.placed = encoder.basic)
      placed := encoder.placed + 1 }
  else encoder

/-- Place the characters of increasing code points, the first of which is at least `next`. -/
def Encoder.place (label : List Char) (next : Nat) (encoder : Encoder) : List Nat → Encoder
  | [] => encoder
  | point :: rest =>
    let delta := encoder.delta + (point - next) * (encoder.placed + 1)
    let passed := label.foldl (Encoder.pass point) { encoder with delta }
    place label (point + 1) { passed with delta := passed.delta + 1 } rest

/-- A label in basic characters. -/
def encode (label : List Char) : List Char :=
  let basic := label.filter isBasic
  let points := ((label.filter (!isBasic ·)).map Char.toNat).mergeSort.eraseDups
  let written := if basic = [] then [] else basic ++ ['-']
  (Encoder.place label 0x80 ⟨written, 0, 72, basic.length, basic.length⟩ points).written

/-- Insert further characters into a label, given the place and code point reached. -/
def insertAll (first : Bool) (point start bias : Nat) (label : List Char) (text : List Char) :
    Option (List Char) :=
  if text.isEmpty then some label
  else do
    let (reached, rest) ← readNumber bias 36 1 start text
    let count := label.length + 1
    let point := point + reached / count
    if ¬ point.isValidChar then none
    let place := reached % count
    let label := label.take place ++ Char.ofNat point :: label.drop place
    insertAll false point (place + 1) (adapt (reached - start) count first) label rest.1
termination_by text.length
decreasing_by exact rest.2

/-- The label that a text in basic characters stands for. A hyphen at its start divides nothing. -/
def decode? (text : List Char) : Option (List Char) :=
  let tail := (text.reverse.takeWhile (· ≠ '-')).reverse
  let basic := text.take (text.length - tail.length - 1)
  if text.all isBasic then insertAll true 0x80 0 72 basic (if basic = [] then text else tail)
  else none

end Punycode

end Workflow
