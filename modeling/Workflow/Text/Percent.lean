/-!
# Percent encoding

Text in a part of an address. A character that may not stand there is written as the bytes of its
UTF-8 form, each a percent sign and two hexadecimal digits. Which characters may stand where is
the choice of whoever encodes.
-/

namespace Workflow

namespace Percent

/-- A hexadecimal digit in upper case. -/
def hexDigit (n : Nat) : Char :=
  if n < 10 then Char.ofNat ('0'.toNat + n) else Char.ofNat ('A'.toNat + (n - 10))

/-- The value of a hexadecimal digit in either case. -/
def hexValue? (c : Char) : Option Nat :=
  if c.isDigit then some (c.toNat - '0'.toNat)
  else if 'a' ≤ c ∧ c ≤ 'f' then some (c.toNat - 'a'.toNat + 10)
  else if 'A' ≤ c ∧ c ≤ 'F' then some (c.toNat - 'A'.toNat + 10)
  else none

/-- An encoded byte. -/
def byte (b : UInt8) : List Char :=
  ['%', hexDigit (b.toNat / 16), hexDigit (b.toNat % 16)]

/-- Text whose safe characters stand for themselves and whose others are encoded. -/
def encode (safe : Char → Bool) (text : List Char) : List Char :=
  text.flatMap fun c => if safe c then [c] else (String.utf8EncodeChar c).flatMap byte

/-- The bytes of encoded text. A percent sign without two digits after it stands for itself. -/
def decode : List Char → List UInt8
  | [] => []
  | '%' :: high :: low :: rest =>
    match hexValue? high, hexValue? low with
    | some h, some l => UInt8.ofNat (16 * h + l) :: decode rest
    | _, _ => String.utf8EncodeChar '%' ++ decode (high :: low :: rest)
  | c :: rest => String.utf8EncodeChar c ++ decode rest

end Percent

end Workflow
