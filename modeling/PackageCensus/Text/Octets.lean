import PackageCensus.Text.Utf8

/-! # Octets as characters

Programs and files know octets only.  Where a program looks into them, a text of octets is held as
characters, each octet as the character of its number, so that what lies in the lower half reads as
usual. -/

namespace PackageCensus.Text

/-- Octets as characters. -/
def ofOctets (octets : List UInt8) : List Char := octets.map fun b => Char.ofNat b.toNat

/-- The octets that characters stand for. -/
def toOctets (cs : List Char) : List UInt8 := cs.map fun c => UInt8.ofNat c.toNat

/-- The octets of a text, as characters. -/
def spread (text : String) : List Char := ofOctets (encode text.toList)

/-- The text of octets. -/
def gather (cs : List Char) : String := String.ofList (decodeLossy (toOctets cs))

end PackageCensus.Text
