import Mathlib.Tactic.Common
import QuoteService.Text.Utf8

/-! Characters survive their bytes: what is written as UTF-8 is read back, whatever follows it, and
nothing else is read as a text. -/
namespace QuoteService.Text

theorem toNat_byte {k : Nat} (small : k < 0x100) : (UInt8.ofNat k).toNat = k :=
  UInt8.toNat_ofNat_of_lt' small

/-- A byte in range puts six more bits behind those read so far. -/
theorem continueSequence_cons {low high k : Nat} (least : low ≤ k) (most : k ≤ high)
    (small : k < 0x100) (more bits : Nat) (rest : List UInt8) :
    continueSequence (more + 1) low high bits (UInt8.ofNat k :: rest) =
      continueSequence more 0x80 0xBF (bits * 64 + (k - 0x80)) rest := by
  rw [continueSequence, toNat_byte small, if_pos ⟨least, most⟩]

theorem utf8Units_cons {b : UInt8} {more low high bits n : Nat} {bytes rest : List UInt8}
    (first : leadByte? b = some ⟨more, low, high, bits⟩)
    (read : continueSequence more low high bits bytes = (some n, rest)) :
    utf8Units (b :: bytes) = some (Char.ofNat n) :: utf8Units rest := by
  rw [utf8Units, first]
  simp only [read, Option.map_some]

section LeadBytes

variable {k : Nat}

theorem leadByte?_one (small : k < 0x80) :
    leadByte? (UInt8.ofNat k) = some ⟨0, 0x80, 0xBF, k⟩ := by
  rw [leadByte?, toNat_byte (by omega)]
  exact if_pos small

theorem leadByte?_two (least : 2 ≤ k) (small : k < 32) :
    leadByte? (UInt8.ofNat (k + 0xC0)) = some ⟨1, 0x80, 0xBF, k⟩ := by
  rw [leadByte?, toNat_byte (by omega)]
  rw [if_neg (by omega), if_neg (by omega), if_pos (by omega), Nat.add_sub_cancel]

/-- The second of three bytes may be any, unless the form is overlong or a surrogate. -/
theorem leadByte?_three (small : k < 16) :
    ∃ low high, leadByte? (UInt8.ofNat (k + 0xE0)) = some ⟨2, low, high, k⟩ ∧
      ∀ b, 0x80 ≤ b → b ≤ 0xBF → (k = 0 → 0xA0 ≤ b) → (k = 0xD → b ≤ 0x9F) → low ≤ b ∧ b ≤ high := by
  by_cases overlong : k = 0
  · subst overlong
    exact ⟨0xA0, 0xBF, rfl, by omega⟩
  by_cases surrogate : k = 0xD
  · subst surrogate
    exact ⟨0x80, 0x9F, rfl, by omega⟩
  refine ⟨0x80, 0xBF, ?_, by omega⟩
  rw [leadByte?, toNat_byte (by omega)]
  simp only [beq_iff_eq]
  rw [if_neg (by omega), if_neg (by omega), if_neg (by omega), if_neg (by omega), if_neg (by omega),
    if_pos (by omega), Nat.add_sub_cancel]

/-- The second of four bytes may be any, unless the form is overlong or beyond the last code point. -/
theorem leadByte?_four (small : k ≤ 4) :
    ∃ low high, leadByte? (UInt8.ofNat (k + 0xF0)) = some ⟨3, low, high, k⟩ ∧
      ∀ b, 0x80 ≤ b → b ≤ 0xBF → (k = 0 → 0x90 ≤ b) → (k = 4 → b ≤ 0x8F) → low ≤ b ∧ b ≤ high := by
  by_cases overlong : k = 0
  · subst overlong
    exact ⟨0x90, 0xBF, rfl, by omega⟩
  by_cases last : k = 4
  · subst last
    exact ⟨0x80, 0x8F, rfl, by omega⟩
  refine ⟨0x80, 0xBF, ?_, by omega⟩
  rw [leadByte?, toNat_byte (by omega)]
  simp only [beq_iff_eq]
  rw [if_neg (by omega), if_neg (by omega), if_neg (by omega), if_neg (by omega), if_neg (by omega),
    if_neg (by omega), if_neg (by omega), if_pos (by omega), Nat.add_sub_cancel]

end LeadBytes

/-- One case for each length of a character's bytes. -/
theorem utf8Units_encodeChar (c : Char) (rest : List UInt8) :
    utf8Units (String.utf8EncodeChar c ++ rest) = some c :: utf8Units rest := by
  have scalar : c.toNat < 0xD800 ∨ 0xDFFF < c.toNat ∧ c.toNat < 0x110000 := c.valid
  have restored : Char.ofNat c.toNat = c := c.ofNat_toNat
  have same : c.val.toNat = c.toNat := rfl
  unfold String.utf8EncodeChar
  rw [same]
  generalize c.toNat = n at scalar restored
  dsimp only
  split_ifs with one two three <;> simp only [List.cons_append, List.nil_append]
  · rw [utf8Units_cons (leadByte?_one (by omega)) (continueSequence.eq_1 ..), restored]
  · have whole : n / 64 * 64 + (n % 64 + 128 - 0x80) = n := by omega
    rw [Nat.mod_eq_of_lt (by omega), utf8Units_cons (leadByte?_two (by omega) (by omega)), restored]
    rw [continueSequence_cons (by omega) (by omega) (by omega), whole, continueSequence]
  · have whole : (n / 4096 * 64 + (n / 64 % 64 + 128 - 0x80)) * 64 + (n % 64 + 128 - 0x80) = n := by
      omega
    obtain ⟨low, high, lead, second⟩ := leadByte?_three (k := n / 4096) (by omega)
    obtain ⟨least, most⟩ := second (n / 64 % 64 + 128) (by omega) (by omega) (by omega) (by omega)
    rw [Nat.mod_eq_of_lt (by omega), utf8Units_cons lead, restored]
    rw [continueSequence_cons least most (by omega),
      continueSequence_cons (by omega) (by omega) (by omega), whole, continueSequence]
  · have whole : ((n / 262144 * 64 + (n / 4096 % 64 + 128 - 0x80)) * 64 +
        (n / 64 % 64 + 128 - 0x80)) * 64 + (n % 64 + 128 - 0x80) = n := by
      omega
    obtain ⟨low, high, lead, second⟩ := leadByte?_four (k := n / 262144) (by omega)
    obtain ⟨least, most⟩ := second (n / 4096 % 64 + 128) (by omega) (by omega) (by omega) (by omega)
    rw [Nat.mod_eq_of_lt (by omega), utf8Units_cons lead, restored]
    rw [continueSequence_cons least most (by omega),
      continueSequence_cons (by omega) (by omega) (by omega),
      continueSequence_cons (by omega) (by omega) (by omega), whole, continueSequence]

theorem utf8Units_encodeUtf8 (cs : List Char) : utf8Units (encodeUtf8 cs) = cs.map some := by
  induction cs with
  | nil => rw [encodeUtf8, List.flatMap_nil, utf8Units, List.map_nil]
  | cons c rest ih =>
    rw [encodeUtf8, List.flatMap_cons, utf8Units_encodeChar, List.map_cons]
    exact congrArg _ ih

theorem decodeUtf8Lossy_encodeUtf8 (cs : List Char) : decodeUtf8Lossy (encodeUtf8 cs) = cs := by
  rw [decodeUtf8Lossy, utf8Units_encodeUtf8, List.map_map]
  exact List.map_id cs

section Inversion

/-- A first byte with what it promises, one case for each length. -/
inductive Leads : (first : Nat) → LeadByte → Prop
  | one {k : Nat} (small : k < 0x80) : Leads k ⟨0, 0x80, 0xBF, k⟩
  | two {k : Nat} (least : 2 ≤ k) (small : k < 32) : Leads (k + 0xC0) ⟨1, 0x80, 0xBF, k⟩
  | three {k low high : Nat} (small : k < 16) (least : 0x80 ≤ low) (most : high ≤ 0xBF)
    (long : k = 0 → 0xA0 ≤ low) (scalar : k = 0xD → high ≤ 0x9F) :
    Leads (k + 0xE0) ⟨2, low, high, k⟩
  | four {k low high : Nat} (small : k ≤ 4) (least : 0x80 ≤ low) (most : high ≤ 0xBF)
    (long : k = 0 → 0x90 ≤ low) (last : k = 4 → high ≤ 0x8F) : Leads (k + 0xF0) ⟨3, low, high, k⟩

theorem leads_of_leadByte? {b : UInt8} {lead : LeadByte} (h : leadByte? b = some lead) :
    Leads b.toNat lead := by
  unfold leadByte? at h
  generalize b.toNat = n at h
  simp only [beq_iff_eq] at h
  split_ifs at h with one _ two e0 ed three f0 four f4 <;> cases h
  · exact .one one
  · obtain ⟨k, rfl⟩ := Nat.exists_eq_add_of_le' (by omega : 0xC0 ≤ n)
    rw [Nat.add_sub_cancel]
    exact .two (by omega) (by omega)
  · subst e0
    exact .three (by omega) (by omega) (by omega) (by omega) (by omega)
  · subst ed
    exact .three (by omega) (by omega) (by omega) (by omega) (by omega)
  · obtain ⟨k, rfl⟩ := Nat.exists_eq_add_of_le' (by omega : 0xE0 ≤ n)
    rw [Nat.add_sub_cancel]
    exact .three (by omega) (by omega) (by omega) (by omega) (by omega)
  · subst f0
    exact .four (by omega) (by omega) (by omega) (by omega) (by omega)
  · obtain ⟨k, rfl⟩ := Nat.exists_eq_add_of_le' (by omega : 0xF0 ≤ n)
    rw [Nat.add_sub_cancel]
    exact .four (by omega) (by omega) (by omega) (by omega) (by omega)
  · subst f4
    exact .four (by omega) (by omega) (by omega) (by omega) (by omega)

/-- A byte that is read onto the bits so far is in its range. -/
theorem continueSequence_eq_some {more low high bits n : Nat} {bytes rest : List UInt8}
    (read : continueSequence (more + 1) low high bits bytes = (some n, rest)) :
    ∃ b tail, bytes = b :: tail ∧ low ≤ b.toNat ∧ b.toNat ≤ high ∧
      continueSequence more 0x80 0xBF (bits * 64 + (b.toNat - 0x80)) tail = (some n, rest) := by
  cases bytes with
  | nil => cases read
  | cons b tail =>
    rw [continueSequence] at read
    split at read
    · rename_i range
      exact ⟨b, tail, rfl, range.1, range.2, read⟩
    · cases read

theorem continueSequence_zero {low high bits n : Nat} {bytes rest : List UInt8}
    (read : continueSequence 0 low high bits bytes = (some n, rest)) : n = bits ∧ rest = bytes := by
  rw [continueSequence, Prod.mk.injEq, Option.some.injEq] at read
  exact ⟨read.1.symm, read.2.symm⟩

theorem byte_of_toNat {b : UInt8} {k : Nat} (same : k = b.toNat) : UInt8.ofNat k = b := by
  rw [same, UInt8.ofNat_toNat]

theorem toNat_scalar {n : Nat} (scalar : n < 0xD800 ∨ 0xDFFF < n ∧ n < 0x110000) :
    (Char.ofNat n).val.toNat = n := by
  have valid : n.isValidChar := scalar
  rw [Char.ofNat, dif_pos valid]
  rfl

/-- What is read as a character are the bytes of that character. -/
theorem encodeChar_of_leads {b : UInt8} {lead : LeadByte} (leads : Leads b.toNat lead)
    {bytes rest : List UInt8} {n : Nat}
    (read : continueSequence lead.more lead.low lead.high lead.bits bytes = (some n, rest)) :
    b :: bytes = String.utf8EncodeChar (Char.ofNat n) ++ rest := by
  generalize first : b.toNat = k at leads
  unfold String.utf8EncodeChar
  cases leads <;> dsimp only at read
  case one small =>
    obtain ⟨whole, rfl⟩ := continueSequence_zero read
    rw [toNat_scalar (by omega)]
    dsimp only
    rw [if_pos (by omega), byte_of_toNat (show _ = b.toNat by omega)]
    rfl
  case two k least small =>
    obtain ⟨c, _, rfl, low, high, read⟩ := continueSequence_eq_some read
    obtain ⟨whole, rfl⟩ := continueSequence_zero read
    rw [toNat_scalar (by omega)]
    dsimp only
    rw [if_neg (by omega), if_pos (by omega), byte_of_toNat (show _ = b.toNat by omega),
      byte_of_toNat (show _ = c.toNat by omega)]
    rfl
  case three k low high small least most long scalar =>
    obtain ⟨c, _, rfl, above, below, read⟩ := continueSequence_eq_some read
    obtain ⟨d, _, rfl, above', below', read⟩ := continueSequence_eq_some read
    obtain ⟨whole, rfl⟩ := continueSequence_zero read
    rw [toNat_scalar (by omega)]
    dsimp only
    rw [if_neg (by omega), if_neg (by omega), if_pos (by omega),
      byte_of_toNat (show _ = b.toNat by omega), byte_of_toNat (show _ = c.toNat by omega),
      byte_of_toNat (show _ = d.toNat by omega)]
    rfl
  case four k low high small least most long last =>
    obtain ⟨c, _, rfl, above, below, read⟩ := continueSequence_eq_some read
    obtain ⟨d, _, rfl, above', below', read⟩ := continueSequence_eq_some read
    obtain ⟨e, _, rfl, above'', below'', read⟩ := continueSequence_eq_some read
    obtain ⟨whole, rfl⟩ := continueSequence_zero read
    rw [toNat_scalar (by omega)]
    dsimp only
    rw [if_neg (by omega), if_neg (by omega), if_neg (by omega),
      byte_of_toNat (show _ = b.toNat by omega), byte_of_toNat (show _ = c.toNat by omega),
      byte_of_toNat (show _ = d.toNat by omega), byte_of_toNat (show _ = e.toNat by omega)]
    rfl

end Inversion

theorem encodeUtf8_of_utf8Units {bs : List UInt8} {cs : List Char}
    (read : utf8Units bs = cs.map some) : encodeUtf8 cs = bs := by
  induction cs generalizing bs with
  | nil =>
    cases bs with
    | nil => rfl
    | cons b rest =>
      rw [utf8Units] at read
      split at read <;> cases read
  | cons c cs ih =>
    cases bs with
    | nil =>
      rw [utf8Units] at read
      cases read
    | cons b rest =>
      rw [utf8Units] at read
      split at read
      · cases read
      · rename_i lead first
        obtain ⟨char, others⟩ := List.cons.inj read
        obtain ⟨n, found, rfl⟩ := Option.map_eq_some_iff.1 char
        have bytes := encodeChar_of_leads (leads_of_leadByte? first) (Prod.ext found rfl)
        rw [encodeUtf8, List.flatMap_cons, bytes]
        exact congrArg _ (ih others)

theorem mapM_id_eq_some {α : Type} {units : List (Option α)} {found : List α} :
    units.mapM id = some found ↔ units = found.map some := by
  induction units generalizing found with
  | nil => cases found <;> simp
  | cons u rest ih =>
    cases u with
    | none => cases found <;> simp
    | some c => cases found <;> simp [Option.bind_eq_some_iff, ih, and_comm]

/-- Bytes are read as a text exactly if they are the bytes of that text. -/
theorem decodeUtf8?_eq_some_iff {bs : List UInt8} {cs : List Char} :
    decodeUtf8? bs = some cs ↔ encodeUtf8 cs = bs := by
  rw [decodeUtf8?, mapM_id_eq_some]
  constructor
  · exact encodeUtf8_of_utf8Units
  · rintro rfl
    exact utf8Units_encodeUtf8 cs

end QuoteService.Text
