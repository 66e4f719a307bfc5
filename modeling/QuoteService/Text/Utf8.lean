/-! UTF-8. Decoding goes sequence by sequence; a sequence that breaks off or leaves its range ends
before the byte at fault, so that each maximal invalid part is met once. -/
namespace QuoteService.Text

def encodeUtf8 (cs : List Char) : List UInt8 :=
  cs.flatMap String.utf8EncodeChar

/-- What a first byte promises: the number of bytes to come, the range of the next one, and the bits
of the code point it holds. -/
structure LeadByte where
  more : Nat
  low : Nat
  high : Nat
  bits : Nat

/-- Well-formed first bytes. The narrow second ranges exclude overlong forms, surrogates and numbers
above U+10FFFF. -/
def leadByte? (b : UInt8) : Option LeadByte :=
  let n := b.toNat
  if n < 0x80 then some ⟨0, 0x80, 0xBF, n⟩
  else if n < 0xC2 then none
  else if n < 0xE0 then some ⟨1, 0x80, 0xBF, n - 0xC0⟩
  else if n == 0xE0 then some ⟨2, 0xA0, 0xBF, 0⟩
  else if n == 0xED then some ⟨2, 0x80, 0x9F, 0xD⟩
  else if n < 0xF0 then some ⟨2, 0x80, 0xBF, n - 0xE0⟩
  else if n == 0xF0 then some ⟨3, 0x90, 0xBF, 0⟩
  else if n < 0xF4 then some ⟨3, 0x80, 0xBF, n - 0xF0⟩
  else if n == 0xF4 then some ⟨3, 0x80, 0x8F, 4⟩
  else none

/-- Reads `more` further bytes onto the bits so far. The rest starts at the first byte not used. -/
def continueSequence : (more low high bits : Nat) → List UInt8 → Option Nat × List UInt8
  | 0, _, _, bits, rest => (some bits, rest)
  | _ + 1, _, _, _, [] => (none, [])
  | more + 1, low, high, bits, b :: rest =>
    if low ≤ b.toNat ∧ b.toNat ≤ high then
      continueSequence more 0x80 0xBF (bits * 64 + (b.toNat - 0x80)) rest
    else (none, b :: rest)

theorem continueSequence_length_le (more low high bits : Nat) (bs : List UInt8) :
    (continueSequence more low high bits bs).2.length ≤ bs.length := by
  induction more generalizing low high bits bs with
  | zero => simp [continueSequence]
  | succ more ih =>
    cases bs with
    | nil => simp [continueSequence]
    | cons b rest =>
      unfold continueSequence
      split
      · exact Nat.le_succ_of_le (ih _ _ _ _)
      · exact Nat.le_refl _

/-- The characters of a byte string, `none` for each maximal invalid part. -/
def utf8Units : List UInt8 → List (Option Char)
  | [] => []
  | b :: rest =>
    match leadByte? b with
    | none => none :: utf8Units rest
    | some lead =>
      let step := continueSequence lead.more lead.low lead.high lead.bits rest
      step.1.map Char.ofNat :: utf8Units step.2
termination_by bs => bs.length
decreasing_by
  · simp
  · exact Nat.lt_succ_of_le (continueSequence_length_le _ _ _ _ _)

/-- Reads UTF-8, with U+FFFD for each maximal invalid part. -/
def decodeUtf8Lossy (bs : List UInt8) : List Char :=
  (utf8Units bs).map (·.getD '\uFFFD')

/-- Reads UTF-8, unless some part is invalid. -/
def decodeUtf8? (bs : List UInt8) : Option (List Char) :=
  (utf8Units bs).mapM id

end QuoteService.Text
