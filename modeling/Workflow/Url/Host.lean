import Workflow.Text.Digits
import Workflow.Text.Percent
import Workflow.Url.Domain

/-!
# Hosts

Where an address points: a domain name, a 32-bit address in up to four numbers, or a 128-bit
address in brackets. A name whose last label is a number is an address and must be a valid one.
Numbers of 32-bit addresses may be octal or hexadecimal, and the last one may stand for several
bytes; written back, each byte is a decimal number. In a written 128-bit address the longest run
of at least two zero groups is left out.

Addresses of schemes without rules of their own have an opaque host, which is not interpreted.
-/

namespace Workflow

/-- Why a text is no address. -/
inductive UrlError where
  | noScheme
  | emptyHost
  | invalidPort
  | invalidIpv4
  | invalidIpv6
  | invalidDomainCharacter
  | invalidDomainName
deriving DecidableEq, Repr

/-- An error as it is reported. -/
def UrlError.message : UrlError → String
  | .noScheme => "relative URL without a base"
  | .emptyHost => "empty host"
  | .invalidPort => "invalid port number"
  | .invalidIpv4 => "invalid IPv4 address"
  | .invalidIpv6 => "invalid IPv6 address"
  | .invalidDomainCharacter => "invalid domain character"
  | .invalidDomainName => "invalid international domain name"

/-- A host. -/
inductive Host where
  /-- A domain name or an opaque host, as it is written; it may be empty. -/
  | domain (text : List Char)
  | ipv4 (address : Nat)
  /-- The eight groups of a 128-bit address. -/
  | ipv6 (groups : List Nat)
deriving DecidableEq, Repr

namespace Host

/-! ## Written form -/

/-- The bytes of a 32-bit address as decimal numbers. -/
def ipv4Text (address : Nat) : List Char :=
  List.intercalate ['.'] <|
    [address >>> 24, (address >>> 16) % 256, (address >>> 8) % 256, address % 256].map
      (Nat.toDigits 10)

/-- How many zeros a list starts with. -/
def leadingZeros (groups : List Nat) : Nat :=
  (groups.takeWhile (· = 0)).length

/-- Where the first longest run of zeros starts, and its length. -/
def longestZeroRun (groups : List Nat) : Nat × Nat :=
  (List.range groups.length).foldl (fun best start =>
    let length := leadingZeros (groups.drop start)
    if best.2 < length then (start, length) else best) (0, 0)

/-- Groups with colons between them. -/
def groupsText (groups : List Nat) : List Char :=
  List.intercalate [':'] (groups.map (Nat.toDigits 16))

/-- A 128-bit address, without brackets. -/
def ipv6Text (groups : List Nat) : List Char :=
  let (start, length) := longestZeroRun groups
  if length < 2 then groupsText groups
  else groupsText (groups.take start) ++ [':', ':'] ++ groupsText (groups.drop (start + length))

/-- A host as it is written. -/
def text : Host → List Char
  | .domain text => text
  | .ipv4 address => ipv4Text address
  | .ipv6 groups => '[' :: ipv6Text groups ++ [']']

/-! ## Reading 32-bit addresses -/

/-- The value of a string of digits in a base, if every character is one. -/
def digitsValue? (base : Nat) (digits : List Char) : Option Nat :=
  digits.foldlM (fun value c =>
    match Percent.hexValue? c with
    | some d => if d < base then some (value * base + d) else none
    | none => none) 0

/-- A number of an address: hexadecimal after `0x`, octal after another `0`, else decimal. -/
def ipv4Number? : List Char → Option Nat
  | [] => none
  | '0' :: 'x' :: digits | '0' :: 'X' :: digits => digitsValue? 16 digits
  | '0' :: c :: digits => digitsValue? 8 (c :: digits)
  | digits => digitsValue? 10 digits

/-- The labels of a name; a full stop at its end adds none. -/
def addressParts (name : List Char) : List (List Char) :=
  let parts := Domain.labels name
  if 1 < parts.length ∧ parts.getLast? = some [] then parts.dropLast else parts

/-- Whether the last label is a number, so that the name must be an address. -/
def endsInNumber (name : List Char) : Bool :=
  match (addressParts name).getLast? with
  | none | some [] => false
  | some last => last.all Char.isDigit || (ipv4Number? last).isSome

/-- A 32-bit address: every number but the last is a byte, and the last fills what is left. -/
def ipv4? (name : List Char) : Option Nat := do
  let parts := addressParts name
  if 4 < parts.length then none
  let numbers ← parts.mapM ipv4Number?
  let last ← numbers.getLast?
  let bytes := numbers.dropLast
  let width := 8 * (4 - bytes.length)
  if bytes.any (255 < ·) || 1 <<< width ≤ last then none
  return bytes.foldl (fun value byte => value * 256 + byte) 0 <<< width + last

/-! ## Reading 128-bit addresses -/

/-- Sixteen bits as one to four hexadecimal digits. -/
def group? (digits : List Char) : Option Nat :=
  if digits = [] ∨ 4 < digits.length then none else digitsValue? 16 digits

/-- A byte as a decimal number without leading zeros. -/
def decimalByte? (digits : List Char) : Option Nat :=
  let padded := digits.head? = some '0' ∧ 1 < digits.length
  if digits = [] ∨ padded ∨ ¬digits.all Char.isDigit then none
  else
    let value := digitsValue digits
    if value < 256 then some value else none

/-- The two groups of a 32-bit address in four decimal numbers. -/
def dottedGroups? (text : List Char) : Option (List Nat) := do
  let [a, b, c, d] ← (text.splitOn '.').mapM decimalByte? | none
  return [256 * a + b, 256 * c + d]

/-- Groups with colons between them; the last may be a 32-bit address where one is allowed. -/
def groups? (dotted : Bool) (text : List Char) : Option (List Nat) :=
  if text = [] then some []
  else do
    let parts := text.splitOn ':'
    let last ← parts.getLast?
    if dotted && last.contains '.' then
      return (← parts.dropLast.mapM group?) ++ (← dottedGroups? last)
    else parts.mapM group?

/-- A text before and after the first two colons in a row. -/
def splitAtGap : List Char → Option (List Char × List Char)
  | ':' :: ':' :: rest => some ([], rest)
  | c :: rest => (splitAtGap rest).map fun (before, after) => (c :: before, after)
  | [] => none

/-- The groups of a 128-bit address; two colons in a row stand for at least one zero group. -/
def ipv6? (text : List Char) : Option (List Nat) := do
  match splitAtGap text with
  | none =>
    let groups ← groups? true text
    if groups.length = 8 then some groups else none
  | some (before, after) =>
    let before ← groups? false before
    let after ← groups? true after
    let given := before.length + after.length
    if given < 8 then some (before ++ List.replicate (8 - given) 0 ++ after) else none

/-! ## Reading hosts -/

/-- A host in brackets, if it starts with one. -/
def bracketed? (text : List Char) : Option (Except UrlError Host) :=
  match text with
  | '[' :: rest =>
    match rest.getLast?, ipv6? rest.dropLast with
    | some ']', some groups => some (.ok (.ipv6 groups))
    | _, _ => some (.error .invalidIpv6)
  | _ => none

/-- A host that is looked up. Percent encodings in it are undone first. -/
def ofText (text : List Char) : Except UrlError Host :=
  match bracketed? text with
  | some result => result
  | none =>
    match (String.fromUTF8? ⟨(Percent.decode text).toArray⟩).bind (Domain.toAscii? ·.toList) with
    | none => .error .invalidDomainName
    | some [] => .error .emptyHost
    | some name =>
      if endsInNumber name then
        match ipv4? name with
        | some address => .ok (.ipv4 address)
        | none => .error .invalidIpv4
      else .ok (.domain name)

/-- Characters that may not stand in an opaque host. -/
def forbidden (c : Char) : Bool :=
  c = '\x00' || "\t\n\r #/:<>?@[\\]^|".toList.contains c

/-- A host that is not interpreted; controls and what is not ASCII are encoded. -/
def ofOpaqueText (text : List Char) : Except UrlError Host :=
  match bracketed? text with
  | some result => result
  | none =>
    if text.any forbidden then .error .invalidDomainCharacter
    else .ok (.domain (Percent.encode (fun c => 0x20 ≤ c.toNat && c.toNat < 0x7F) text))

end Host

end Workflow
