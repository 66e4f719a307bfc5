import QuoteService.Text.Hex
import QuoteService.Text.Utf8

/-! Percent signs with two hexadecimal digits stand for the bytes of UTF-8. -/
namespace QuoteService.Text

/-- The bytes of a run of ASCII characters. A percent sign with two digits is one byte; one without
them stands for itself. -/
def unescapeBytes : List Char → List UInt8
  | [] => []
  | '%' :: rest =>
    match rest with
    | a :: b :: more =>
      match hexValue a, hexValue b with
      | some high, some low => UInt8.ofNat (high * 16 + low) :: unescapeBytes more
      | _, _ => 0x25 :: unescapeBytes (a :: b :: more)
    | [a] => 0x25 :: unescapeBytes [a]
    | [] => [0x25]
  | c :: rest => UInt8.ofNat c.toNat :: unescapeBytes rest

def isAscii (c : Char) : Bool := c.toNat < 0x80

/-- Decodes each run of ASCII characters as a whole; the characters between runs are kept. -/
def percentDecode (cs : List Char) : List Char :=
  match cs with
  | [] => []
  | c :: rest =>
    if isAscii c then
      decodeUtf8Lossy (unescapeBytes (c :: rest.takeWhile isAscii)) ++
        percentDecode (rest.dropWhile isAscii)
    else c :: percentDecode rest
termination_by cs.length
decreasing_by
  · exact Nat.lt_succ_of_le ((List.dropWhile_suffix _).length_le)
  · simp

def plusToSpace (c : Char) : Char := if c = '+' then ' ' else c

/-- Decodes a name or a value of a query, where a plus sign is a blank. -/
def queryDecode (cs : List Char) : List Char := percentDecode (cs.map plusToSpace)

/-- A name and its value at the first equals sign; a piece without one has an empty value. -/
def cutPair (piece : List Char) : List Char × List Char :=
  (piece.takeWhile (· != '='), (piece.dropWhile (· != '=')).drop 1)

def percentByte (b : UInt8) : List Char :=
  ['%', hexDigitUpper (b.toNat / 16), hexDigitUpper (b.toNat % 16)]

/-- Escapes the bytes of the characters that are not kept. -/
def percentEncode (kept : Char → Bool) (cs : List Char) : List Char :=
  cs.flatMap fun c => if kept c then [c] else (String.utf8EncodeChar c).flatMap percentByte

end QuoteService.Text
