/-! Latin-1, the encoding of header names and values: one byte for each character up to U+00FF. -/
namespace QuoteService.Text

def isLatin1 (c : Char) : Bool := c.toNat < 0x100

def decodeLatin1 (bs : List UInt8) : List Char :=
  bs.map fun b => Char.ofNat b.toNat

/-- The first run of characters that have no byte: its start and its end. -/
def unencodableRun? (cs : List Char) : Option (Nat × Nat) :=
  let start := (cs.takeWhile isLatin1).length
  let run := ((cs.dropWhile isLatin1).takeWhile fun c => !isLatin1 c).length
  if run = 0 then none else some (start, start + run)

end QuoteService.Text
