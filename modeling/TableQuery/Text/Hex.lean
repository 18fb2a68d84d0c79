/-!
# Bytes in hexadecimal
-/

namespace TableQuery.Text

/-- The two hexadecimal digits of a byte, in lower case. -/
def hexByte (byte : UInt8) : List Char :=
  [Nat.digitChar (byte.toNat / 16), Nat.digitChar (byte.toNat % 16)]

/-- Bytes in lower-case hexadecimal. -/
def hex (bytes : List UInt8) : String :=
  String.ofList (bytes.flatMap hexByte)

/-- Bytes in upper-case hexadecimal. -/
def upperHex (bytes : List UInt8) : String :=
  String.ofList ((bytes.flatMap hexByte).map Char.toUpper)

end TableQuery.Text
