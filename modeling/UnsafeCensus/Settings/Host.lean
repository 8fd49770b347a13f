import UnsafeCensus.Text.Codec
import UnsafeCensus.Toml.Document

/-!
# Hosts

What the program runs on, as far as its results depend on it: which codecs can be looked up, and how
deep its recursions may go before they break off.
-/

namespace UnsafeCensus

structure Host where
  codecs : Text.Registry
  /-- How many texts of values may be made inside one another. -/
  levels : Nat
  /-- Where the reader of documents has room for another value. -/
  room : Toml.Room

namespace Host

/-- The calls that the reader makes to get inside brackets. -/
def callsInside : List Toml.Bracket → Nat
  | [] => 0
  | .list :: inside => 2 + callsInside inside
  | .table :: inside => 3 + callsInside inside

/-- A host whose calls may nest a thousand deep. -/
def standard : Host where
  codecs := .standard
  levels := 990
  room inside _ := callsInside inside < 990

end Host

end UnsafeCensus
