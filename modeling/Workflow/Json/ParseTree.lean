import Workflow.Text.Digits
import Workflow.Number.Decimal

/-!
# Reading JSON text

A text is read in two stages. This module is the first: the grammar, which is strict JSON, and a
tree of what it found, in the order of the text and with repeated keys kept. Two things the
grammar allows need not have a value: a numeral beyond the range of doubles, and a string whose
escapes leave half of a surrogate pair. The tree says so in their place and leaves it to the
reader of the value to refuse them, because a part of a text that nobody asks for is held to the
grammar only.
-/

namespace Workflow

/-- What a JSON text says, before any of it is given a meaning. -/
inductive ParseTree where
  | null
  | bool (value : Bool)
  /-- A numeral; without a number if it is out of range. -/
  | number (value : Option Number)
  /-- A string; without a text if it holds half of a surrogate pair. -/
  | string (value : Option String)
  | array (items : List ParseTree)
  | object (members : List (Option String × ParseTree))
deriving Repr, Inhabited

namespace ParseTree

/-! ## White space and literals -/

/-- The four characters that may stand between tokens. -/
def isSpace (c : Char) : Bool :=
  c = ' ' || c = '\t' || c = '\n' || c = '\r'

/-- The text from its first character that is not space. -/
def skipSpace (text : List Char) : List Char :=
  text.dropWhile isSpace

/-! ## Numbers -/

/-- The digits after a decimal point, if there is a point; a point needs at least one. -/
def readFraction : List Char → Option (List Char × List Char)
  | '.' :: text =>
    match takeDigits text with
    | ([], _) => none
    | (digits, rest) => some (digits, rest)
  | text => some ([], text)

/-- The digits of an exponent, after its sign. -/
def readExponentDigits (negative : Bool) (text : List Char) : Option (Option Int × List Char) :=
  match takeDigits text with
  | ([], _) => none
  | (digits, rest) =>
    let n : Int := digitsValue digits
    some (some (if negative then -n else n), rest)

/-- An exponent, if there is one; its mark needs at least one digit. -/
def readExponent : List Char → Option (Option Int × List Char)
  | 'e' :: '+' :: text | 'E' :: '+' :: text => readExponentDigits false text
  | 'e' :: '-' :: text | 'E' :: '-' :: text => readExponentDigits true text
  | 'e' :: text | 'E' :: text => readExponentDigits false text
  | text => some (none, text)

/-- The digits of the whole part: a lone zero, or digits that start with another one. -/
def readWhole (text : List Char) : Option (List Char × List Char) :=
  match takeDigits text with
  | ([], _) => none
  | ('0' :: _ :: _, _) => none
  | (digits, rest) => some (digits, rest)

/-- A numeral after its sign. -/
def readUnsigned (negative : Bool) (text : List Char) : Option (ParseTree × List Char) := do
  let (whole, text) ← readWhole text
  let (fraction, text) ← readFraction text
  let (exponent, text) ← readExponent text
  return (.number (Number.ofDigits? negative whole fraction exponent), text)

/-! ## Strings -/

/-- A piece of a quoted string: a character, or the code unit of a `\u` escape. -/
inductive Piece where
  | char (c : Char)
  | unit (n : Nat)
deriving Repr

/-- The value of a hexadecimal digit. -/
def hexValue? (c : Char) : Option Nat :=
  if '0' ≤ c ∧ c ≤ '9' then some (c.toNat - '0'.toNat)
  else if 'a' ≤ c ∧ c ≤ 'f' then some (c.toNat - 'a'.toNat + 10)
  else if 'A' ≤ c ∧ c ≤ 'F' then some (c.toNat - 'A'.toNat + 10)
  else none

/-- The code unit of four hexadecimal digits. -/
def codeUnit? (a b c d : Char) : Option Nat := do
  return (((← hexValue? a) * 16 + (← hexValue? b)) * 16 + (← hexValue? c)) * 16 + (← hexValue? d)

/-- The character of a one-letter escape. -/
def shortEscape? : Char → Option Char
  | '"' => some '"'
  | '\\' => some '\\'
  | '/' => some '/'
  | 'b' => some '\x08'
  | 'f' => some '\x0c'
  | 'n' => some '\n'
  | 'r' => some '\r'
  | 't' => some '\t'
  | _ => none

/-- The pieces of a string up to its closing quotation mark, and the text after it. Control
characters must be escaped. -/
def readPieces : List Char → Option (List Piece × List Char)
  | [] => none
  | '"' :: rest => some ([], rest)
  | '\\' :: 'u' :: a :: b :: c :: d :: rest => do
    let n ← codeUnit? a b c d
    let (pieces, rest) ← readPieces rest
    return (.unit n :: pieces, rest)
  | '\\' :: e :: rest => do
    let c ← shortEscape? e
    let (pieces, rest) ← readPieces rest
    return (.char c :: pieces, rest)
  | c :: rest =>
    if c.toNat < 0x20 ∨ c = '\\' then none
    else do
      let (pieces, rest) ← readPieces rest
      return (.char c :: pieces, rest)

/-- Whether a code unit is the first half of a surrogate pair. -/
def isHighSurrogate (n : Nat) : Bool := 0xD800 ≤ n && n < 0xDC00

/-- Whether a code unit is the second half of a surrogate pair. -/
def isLowSurrogate (n : Nat) : Bool := 0xDC00 ≤ n && n < 0xE000

/-- The characters of pieces: two halves of a pair make one, a half alone makes none. -/
def joinPieces : List Piece → Option (List Char)
  | [] => some []
  | .char c :: rest => (joinPieces rest).map (c :: ·)
  | .unit high :: .unit low :: rest =>
    if isHighSurrogate high && isLowSurrogate low then
      let c := Char.ofNat (0x10000 + (high - 0xD800) * 0x400 + (low - 0xDC00))
      (joinPieces rest).map (c :: ·)
    else if isHighSurrogate high || isLowSurrogate high then none
    else (joinPieces (.unit low :: rest)).map (Char.ofNat high :: ·)
  | .unit n :: rest =>
    if isHighSurrogate n || isLowSurrogate n then none
    else (joinPieces rest).map (Char.ofNat n :: ·)

/-- A string after its opening quotation mark. -/
def readString (text : List Char) : Option (Option String × List Char) := do
  let (pieces, rest) ← readPieces text
  return ((joinPieces pieces).map String.ofList, rest)

/-! ## Values

Each call below spends one unit of fuel, and of two calls in a row at least one consumes a
character, so twice the length of the text is always enough. -/

mutual

/-- A value after any space, and the text after it. -/
def readValue : Nat → List Char → Option (ParseTree × List Char)
  | 0, _ => none
  | fuel + 1, text =>
    match skipSpace text with
    | 'n' :: 'u' :: 'l' :: 'l' :: rest => some (.null, rest)
    | 't' :: 'r' :: 'u' :: 'e' :: rest => some (.bool true, rest)
    | 'f' :: 'a' :: 'l' :: 's' :: 'e' :: rest => some (.bool false, rest)
    | '"' :: rest => do
      let (s, rest) ← readString rest
      return (.string s, rest)
    | '[' :: rest =>
      match skipSpace rest with
      | ']' :: rest => some (.array [], rest)
      | rest => do
        let (items, rest) ← readItems fuel rest
        return (.array items, rest)
    | '{' :: rest =>
      match skipSpace rest with
      | '}' :: rest => some (.object [], rest)
      | rest => do
        let (members, rest) ← readMembers fuel rest
        return (.object members, rest)
    | '-' :: rest => readUnsigned true rest
    | rest => readUnsigned false rest

/-- The items of an array that has at least one more, up to its closing bracket. -/
def readItems : Nat → List Char → Option (List ParseTree × List Char)
  | 0, _ => none
  | fuel + 1, text => do
    let (item, rest) ← readValue fuel text
    match skipSpace rest with
    | ']' :: rest => return ([item], rest)
    | ',' :: rest => do
      let (items, rest) ← readItems fuel rest
      return (item :: items, rest)
    | _ => none

/-- The members of an object that has at least one more, up to its closing brace. -/
def readMembers : Nat → List Char → Option (List (Option String × ParseTree) × List Char)
  | 0, _ => none
  | fuel + 1, text =>
    match skipSpace text with
    | '"' :: rest => do
      let (key, rest) ← readString rest
      match skipSpace rest with
      | ':' :: rest => do
        let (value, rest) ← readValue fuel rest
        match skipSpace rest with
        | '}' :: rest => return ([(key, value)], rest)
        | ',' :: rest => do
          let (members, rest) ← readMembers fuel rest
          return ((key, value) :: members, rest)
        | _ => none
      | _ => none
    | _ => none

end

/-- The value at the start of a text, and the text after it. -/
def readFirst (text : String) : Option (ParseTree × List Char) :=
  readValue (2 * text.length + 2) text.toList

/-- The tree of a text that holds one value and nothing else but space. -/
def read (text : String) : Option ParseTree := do
  let (tree, rest) ← readFirst text
  if (skipSpace rest).isEmpty then return tree else none

end ParseTree

end Workflow
