/-!
# Positions

The line and column of an offset into bytes, both counted from one. A line ends at each newline
byte; a column counts bytes.
-/

namespace UnsafeCensus.Text

def newline : UInt8 := 0x0A

/-- The line an offset lies on. -/
def lineAt (bytes : List UInt8) (offset : Nat) : Nat :=
  (bytes.take offset).count newline + 1

/-- Where the line of an offset begins. -/
def lineStart (bytes : List UInt8) (offset : Nat) : Nat :=
  ((bytes.take offset).reverse.dropWhile (· != newline)).length

/-- The column an offset lies at. -/
def columnAt (bytes : List UInt8) (offset : Nat) : Nat :=
  offset - lineStart bytes offset + 1

end UnsafeCensus.Text
