import Mathlib.Data.List.TakeWhile
import Mathlib.Tactic.Common
import QuoteService.Proofs.Text.Ascii
import QuoteService.Proofs.Text.Utf8
import QuoteService.Text.Percent

/-! Text as forms write it: a character stands for itself, or for its bytes in escapes; a plus sign is
a blank. There are many ways to write a text, and all are read back. -/
namespace QuoteService.Text

/-- Characters that may stand for themselves: those of ASCII without a meaning in a form. -/
def isFormChar (c : Char) : Bool := isAscii c && !(['%', '+', '&', '=', ' '].contains c)

/-- Bytes as percent signs with two digits of either case. -/
inductive Escapes : List UInt8 → List Char → Prop
  | nil : Escapes [] []
  | cons {b : UInt8} {bytes : List UInt8} {high low : Char} {text : List Char}
    (first : hexValue high = some (b.toNat / 16)) (second : hexValue low = some (b.toNat % 16))
    (rest : Escapes bytes text) : Escapes (b :: bytes) ('%' :: high :: low :: text)

/-- A text and one way to write it. -/
inductive FormText : List Char → List Char → Prop
  | nil : FormText [] []
  | plain {c : Char} {cs text : List Char} (plain : isFormChar c) (rest : FormText cs text) :
    FormText (c :: cs) (c :: text)
  | blank {cs text : List Char} (rest : FormText cs text) : FormText (' ' :: cs) ('+' :: text)
  | escaped {c : Char} {cs escapes text : List Char}
    (bytes : Escapes (String.utf8EncodeChar c) escapes) (rest : FormText cs text) :
    FormText (c :: cs) (escapes ++ text)

section Characters

variable {c : Char} {cs text : List Char} {bytes : List UInt8}

theorem isFormChar_iff : isFormChar c ↔ isAscii c ∧ c ≠ '%' ∧ c ≠ '+' ∧ c ≠ '&' ∧ c ≠ '=' ∧ c ≠ ' ' := by
  simp [isFormChar]

/-- No digit has a meaning of its own in a form. -/
theorem isFormChar_of_hexValue {n : Nat} (digit : hexValue c = some n) : isFormChar c := by
  have bounds : c.toNat < 0x80 := by
    unfold hexValue at digit
    simp only at digit
    split_ifs at digit <;> omega
  have others : ∀ d ∈ ['%', '+', '&', '=', ' '], hexValue d = none := by simp [hexValue]
  have absent : c ∉ ['%', '+', '&', '=', ' '] := by
    intro mem
    rw [others c mem] at digit
    cases digit
  rw [isFormChar, List.contains_eq_mem, decide_eq_false absent]
  simpa [isAscii] using bounds

theorem isFormChar_of_isAlphanum (h : c.isAlphanum) : isFormChar c := by
  have small := isAlphanum_lt h
  revert h
  refine ascii_cases c small ?_
  decide +kernel

/-- A form is written in ASCII, and its texts hold no separator. -/
def IsInner (c : Char) : Prop := isAscii c ∧ c ≠ '&' ∧ c ≠ '='

theorem isInner_of_isFormChar (h : isFormChar c) : IsInner c := by
  obtain ⟨ascii, -, -, noAnd, noEquals, -⟩ := isFormChar_iff.1 h
  exact ⟨ascii, noAnd, noEquals⟩

theorem Escapes.inner (h : Escapes bytes text) : ∀ c ∈ text, IsInner c := by
  induction h with
  | nil => nofun
  | cons first second _ ih =>
    have sign : IsInner '%' := ⟨by decide, by decide, by decide⟩
    simp only [List.forall_mem_cons]
    exact ⟨sign, isInner_of_isFormChar (isFormChar_of_hexValue first),
      isInner_of_isFormChar (isFormChar_of_hexValue second), ih⟩

theorem FormText.inner (h : FormText cs text) : ∀ c ∈ text, IsInner c := by
  induction h with
  | nil => nofun
  | plain plain _ ih => exact List.forall_mem_cons.2 ⟨isInner_of_isFormChar plain, ih⟩
  | blank _ ih => exact List.forall_mem_cons.2 ⟨⟨by decide, by decide, by decide⟩, ih⟩
  | escaped bytes _ ih => exact List.forall_mem_append.2 ⟨bytes.inner, ih⟩

end Characters

section Decoding

variable {cs text : List Char} {bytes : List UInt8}

theorem plusToSpace_of_ne {c : Char} (h : c ≠ '+') : plusToSpace c = c := if_neg h

theorem unescapeBytes_plain {c : Char} (h : c ≠ '%') (rest : List Char) :
    unescapeBytes (c :: rest) = UInt8.ofNat c.toNat :: unescapeBytes rest := by
  rw [unescapeBytes]
  exact h

theorem unescapeBytes_escape {b : UInt8} {high low : Char}
    (first : hexValue high = some (b.toNat / 16)) (second : hexValue low = some (b.toNat % 16))
    (rest : List Char) :
    unescapeBytes ('%' :: high :: low :: rest) = b :: unescapeBytes rest := by
  rw [unescapeBytes, first, second]
  simp only [Nat.div_add_mod', UInt8.ofNat_toNat]

theorem Escapes.unescape (h : Escapes bytes text) (rest : List Char) :
    unescapeBytes ((text ++ rest).map plusToSpace) =
      bytes ++ unescapeBytes (rest.map plusToSpace) := by
  induction h with
  | nil => rfl
  | cons first second _ ih =>
    obtain ⟨-, -, high, -⟩ := isFormChar_iff.1 (isFormChar_of_hexValue first)
    obtain ⟨-, -, low, -⟩ := isFormChar_iff.1 (isFormChar_of_hexValue second)
    simp only [List.cons_append, List.map_cons, plusToSpace_of_ne high, plusToSpace_of_ne low,
      plusToSpace_of_ne (show '%' ≠ '+' by decide)]
    rw [unescapeBytes_escape first second, ih]

theorem utf8EncodeChar_ascii {c : Char} (ascii : isAscii c) :
    String.utf8EncodeChar c = [UInt8.ofNat c.toNat] := by
  have small : c.val.toNat ≤ 127 := by
    have : c.toNat < 0x80 := by simpa [isAscii] using ascii
    exact Nat.le_of_lt_succ this
  exact if_pos small

/-- The plus sign is read before the escapes are, so an escaped one is kept. -/
theorem FormText.unescape (h : FormText cs text) :
    unescapeBytes (text.map plusToSpace) = encodeUtf8 cs := by
  induction h with
  | nil => rfl
  | @plain c cs text plain _ ih =>
    obtain ⟨ascii, noPercent, noPlus, -⟩ := isFormChar_iff.1 plain
    rw [List.map_cons, plusToSpace_of_ne noPlus, unescapeBytes_plain noPercent, ih, encodeUtf8,
      encodeUtf8, List.flatMap_cons, utf8EncodeChar_ascii ascii]
    rfl
  | @blank cs text _ ih =>
    have space : plusToSpace '+' = ' ' := rfl
    rw [List.map_cons, space, unescapeBytes_plain (by decide), ih]
    rfl
  | escaped bytes _ ih =>
    rw [bytes.unescape, ih]
    rfl

/-- Without other characters there is but one run to decode. -/
theorem percentDecode_ascii {cs : List Char} (ascii : ∀ c ∈ cs, isAscii c) :
    percentDecode cs = decodeUtf8Lossy (unescapeBytes cs) := by
  cases cs with
  | nil => rw [percentDecode, unescapeBytes, decodeUtf8Lossy, utf8Units, List.map_nil]
  | cons c rest =>
    obtain ⟨first, others⟩ := List.forall_mem_cons.1 ascii
    have all : rest.takeWhile isAscii = rest := List.takeWhile_eq_self_iff.2 others
    have none : rest.dropWhile isAscii = [] := List.dropWhile_eq_nil_iff.2 others
    rw [percentDecode, if_pos first, all, none, percentDecode, List.append_nil]

/-- However it is written, a text is read back. -/
theorem FormText.decode (h : FormText cs text) : queryDecode text = cs := by
  have ascii : ∀ c ∈ text.map plusToSpace, isAscii c := by
    intro c mem
    obtain ⟨d, inside, rfl⟩ := List.mem_map.1 mem
    unfold plusToSpace
    split
    · decide
    · exact (h.inner d inside).1
  rw [queryDecode, percentDecode_ascii ascii, h.unescape, decodeUtf8Lossy_encodeUtf8]

end Decoding

section Encoding

theorem escapes_percentByte (bytes : List UInt8) : Escapes bytes (bytes.flatMap percentByte) := by
  induction bytes with
  | nil => exact .nil
  | cons b rest ih =>
    have small : b.toNat < 256 := b.toNat_lt_size
    exact .cons (hexValue_hexDigitUpper (by omega)) (hexValue_hexDigitUpper (by omega)) ih

theorem formText_plain {cs : List Char} (plain : cs.all isFormChar) : FormText cs cs := by
  induction cs with
  | nil => exact .nil
  | cons c rest ih =>
    rw [List.all_cons, Bool.and_eq_true] at plain
    exact .plain plain.1 (ih plain.2)

/-- Escaping all but plain characters is one way to write a text. -/
theorem formText_percentEncode {kept : Char → Bool} (plain : ∀ c, kept c → isFormChar c)
    (cs : List Char) : FormText cs (percentEncode kept cs) := by
  induction cs with
  | nil => exact .nil
  | cons c rest ih =>
    rw [percentEncode, List.flatMap_cons]
    split
    · rename_i keep
      exact .plain (plain c keep) ih
    · exact .escaped (escapes_percentByte _) ih

end Encoding

end QuoteService.Text
