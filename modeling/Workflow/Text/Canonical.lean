import Workflow.Text.Canonical.Table
import Workflow.Text.Mark

/-!
# Canonical form

Texts that are the same but for the way they are put together have one canonical form: characters
are taken apart, the marks at each are put in the order of their classes, and what can be put
together again is. Syllables of Hangul are put together by arithmetic: a leading consonant and a
vowel make a syllable, and this makes another with a trailing consonant.
-/

namespace Workflow

namespace Canonical

/-! ## Taking apart -/

/-- Whether a character is a syllable of Hangul. -/
def isSyllable (c : Char) : Bool :=
  0xAC00 ≤ c.toNat && c.toNat ≤ 0xD7A3

/-- A character as the two that make it, or alone. -/
def split (c : Char) : List Char :=
  if isSyllable c then
    let index := c.toNat - 0xAC00
    if index % 28 = 0 then
      [Char.ofNat (0x1100 + index / 588), Char.ofNat (0x1161 + index % 588 / 28)]
    else [Char.ofNat (c.toNat - index % 28), Char.ofNat (0x11A7 + index % 28)]
  else
    match halves.image? c with
    | some parts => parts
    | none => (replaced.image? c).getD [c]

/-- A text taken apart. No character is more than three steps away from those it is made of. -/
def apart (text : List Char) : List Char :=
  ((text.flatMap split).flatMap split).flatMap split

/-! ## The order of marks -/

/-- A character put before a text whose marks are in order. -/
def place (c : Char) : List Char → List Char
  | [] => [c]
  | next :: rest =>
    if 0 < Mark.combiningClass next ∧ Mark.combiningClass next < Mark.combiningClass c then
      next :: place c rest
    else c :: next :: rest

/-- A text with its marks in order. -/
def order (text : List Char) : List Char :=
  text.foldr place []

/-! ## Putting together -/

/-- The character that two make, if any. -/
def join? (first second : Char) : Option Char :=
  let leading := first.toNat - 0x1100
  let vowel := second.toNat - 0x1161
  let trailing := second.toNat - 0x11A7
  if 0x1100 ≤ first.toNat ∧ leading < 19 ∧ 0x1161 ≤ second.toNat ∧ vowel < 21 then
    some (Char.ofNat (0xAC00 + leading * 588 + vowel * 28))
  else if isSyllable first ∧ (first.toNat - 0xAC00) % 28 = 0 ∧ 0 < trailing ∧ trailing < 28 then
    some (Char.ofNat (first.toNat + trailing))
  else
    (halves.find? (·.values = [first.toNat, second.toNat])).map fun row => Char.ofNat row.first

/-- A text put together from a character on. The marks passed over so far did not join it; a later
one can unless its class is that of the last of them or a lower one. -/
def together (start : Char) (passed : List Char) : List Char → List Char
  | [] => start :: passed
  | c :: rest =>
    let reaches := (passed.getLast?.map Mark.combiningClass).all (· < Mark.combiningClass c)
    match if reaches then join? start c else none with
    | some joined => together joined passed rest
    | none =>
      if Mark.combiningClass c = 0 then start :: passed ++ together c [] rest
      else together start (passed ++ [c]) rest

/-- The canonical form of a text. -/
def form (text : List Char) : List Char :=
  match order (apart text) with
  | [] => []
  | c :: rest => together c [] rest

end Canonical

end Workflow
