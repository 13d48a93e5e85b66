import SpendLedger.Text.Basic

/-!
# Percent encoding

Which characters of an address are written as bytes in hexadecimal, and how they are read back.
-/

namespace SpendLedger

namespace Url

/-- The controls of ASCII, which no part of an address shows. -/
def isControl (c : Char) : Bool :=
  c.toNat < 32 || c.toNat == 127

/-- The characters that a path does not show. -/
def hiddenInPath (c : Char) : Bool :=
  isControl c || [' ', '"', '<', '>', '\x60', '#', '?', '\x7b', '\x7d'].contains c

/-- The characters that a user's name or password does not show. -/
def hiddenInUser (c : Char) : Bool :=
  hiddenInPath c || ['/', ':', ';', '=', '@', '[', '\\', ']', '^', '|'].contains c

/-- The characters that a query does not show; the single quote only where the scheme gives it a meaning. -/
def hiddenInQuery (special : Bool) (c : Char) : Bool :=
  isControl c || [' ', '"', '#', '<', '>'].contains c || (special && c == '\x27')

/-- The characters that a fragment does not show. -/
def hiddenInFragment (c : Char) : Bool :=
  isControl c || [' ', '"', '<', '>', '\x60'].contains c

/-- A digit of a hexadecimal number, in capitals. -/
def upperHexDigit (n : Nat) : Char :=
  if n < 10 then Char.ofNat (48 + n) else Char.ofNat (55 + n)

/-- A byte written out. -/
def writtenByte (b : UInt8) : List Char :=
  ['%', upperHexDigit (b.toNat / 16), upperHexDigit (b.toNat % 16)]

/-- Characters with the hidden ones, and all outside ASCII, written as the bytes of their UTF-8. -/
def encoded (hidden : Char → Bool) (cs : List Char) : List Char :=
  cs.flatMap fun c =>
    if hidden c || 127 < c.toNat then (String.singleton c).toUTF8.toList.flatMap writtenByte else [c]

/-- The bytes of characters with every written byte read back; a percent sign without two digits stays. -/
def decodedBytes : List Char → List UInt8
  | [] => []
  | '%' :: a :: b :: rest =>
    match Text.hexValue? a, Text.hexValue? b with
    | some x, some y => UInt8.ofNat (x * 16 + y) :: decodedBytes rest
    | _, _ => 37 :: decodedBytes (a :: b :: rest)
  | c :: rest => (String.singleton c).toUTF8.toList ++ decodedBytes rest

/-- Characters with every written byte read back, if the bytes are UTF-8. -/
def decoded? (cs : List Char) : Option (List Char) :=
  (String.fromUTF8? (ByteArray.mk (decodedBytes cs).toArray)).map String.toList

end Url

end SpendLedger
