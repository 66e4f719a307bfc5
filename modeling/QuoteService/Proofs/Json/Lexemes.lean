import Mathlib.Tactic.Common
import QuoteService.Proofs.Json.RoundTrip
import QuoteService.Proofs.Text.Ascii
import QuoteService.Text.Blank

/-! What a written value is made of: string literals, which hold no controls, and between them the
marks, words and digits of the format. -/
namespace QuoteService.Json
open Number Text

/-- The characters of a text from the end of a literal on that are in no string literal. -/
def outside : (inside : Bool) → List Char → List Char
  | _, [] => []
  | true, '\\' :: _ :: rest => outside true rest
  | true, c :: rest => outside (c != '\x22') rest
  | false, c :: rest => if c = '\x22' then outside true rest else c :: outside false rest

/-- Texts that consist of string literals and of characters of a class. -/
inductive Lexed (p : Char → Prop) : List Char → Prop
  | nil : Lexed p []
  | mark {c : Char} (h : p c) {rest : List Char} (more : Lexed p rest) : Lexed p (c :: rest)
  | literal (s : String) {rest : List Char} (more : Lexed p rest) : Lexed p (stringText s ++ rest)

/-- The marks of the format, and the characters of its words and numbers. -/
def IsMark (c : Char) : Prop := c.isAlphanum ∨ c ∈ [',', ':', '[', ']', '\x7b', '\x7d', '-']

namespace Lexed

variable {p : Char → Prop} {text more : List Char}

theorem append (h : Lexed p text) (rest : Lexed p more) : Lexed p (text ++ more) := by
  induction h with
  | nil => exact rest
  | mark c _ ih => exact .mark c ih
  | literal s _ ih =>
    rw [List.append_assoc]
    exact .literal s ih

theorem of_forall (h : ∀ c ∈ text, p c) : Lexed p text := by
  induction text with
  | nil => exact .nil
  | cons c rest ih => exact .mark (h c (by simp)) (ih fun d mem => h d (by simp [mem]))

theorem stringText (s : String) : Lexed p (Json.stringText s) := by
  have alone : Lexed p (Json.stringText s ++ []) := .literal s .nil
  rwa [List.append_nil] at alone

end Lexed

section Literals

theorem mem_hexPadded {width n : Nat} {c : Char} (mem : c ∈ hexPadded width n) :
    ∃ d < 16, c = hexDigit d := by
  induction width generalizing n with
  | zero => cases mem
  | succ width ih =>
    obtain front | last := List.mem_append.1 mem
    · exact ih front
    · exact ⟨n % 16, Nat.mod_lt _ (by decide), List.mem_singleton.1 last⟩

/-- A hexadecimal digit is no control, and means nothing in a literal. -/
theorem hexDigit_plain {d : Nat} (small : d < 16) :
    0x20 ≤ (hexDigit d).toNat ∧ hexDigit d ≠ '\x22' ∧ hexDigit d ≠ '\\' := by
  have all : ∀ k : Fin 16, 0x20 ≤ (hexDigit k).toNat ∧ hexDigit k ≠ '\x22' ∧
      hexDigit k ≠ '\\' := by decide
  exact all ⟨d, small⟩

theorem escapeChar_noControl (c : Char) : ∀ d ∈ escapeChar c, 0x20 ≤ d.toNat := by
  unfold escapeChar
  -- a quote, a backslash, and the controls that have a letter
  iterate 7
    split
    next => simp
  split
  · intro d mem
    obtain rfl | rfl | digit : d = '\\' ∨ d = 'u' ∨ d ∈ hexPadded 4 c.toNat := by
      simpa using mem
    · decide
    · decide
    · obtain ⟨k, small, rfl⟩ := mem_hexPadded digit
      exact (hexDigit_plain small).1
  · rename_i printed
    intro d mem
    rw [List.mem_singleton.1 mem]
    omega

theorem stringText_noControl (s : String) : ∀ d ∈ stringText s, 0x20 ≤ d.toNat := by
  intro d mem
  obtain rfl | ⟨c, -, escaped⟩ : d = '\x22' ∨ ∃ c ∈ s.toList, d ∈ escapeChar c := by
    simpa [stringText, or_comm] using mem
  · decide
  · exact escapeChar_noControl c d escaped

variable {c : Char}

theorem outside_plain (noSlash : c ≠ '\\') (rest : List Char) :
    outside true (c :: rest) = outside (c != '\x22') rest := by
  cases rest <;> simp [outside, noSlash]

theorem outside_plain_append {cs : List Char} (plain : ∀ c ∈ cs, c ≠ '\x22' ∧ c ≠ '\\')
    (rest : List Char) : outside true (cs ++ rest) = outside true rest := by
  induction cs with
  | nil => rfl
  | cons c cs ih =>
    obtain ⟨noQuote, noSlash⟩ := plain c (by simp)
    rw [List.cons_append, outside_plain noSlash, bne_iff_ne.2 noQuote]
    exact ih fun d mem => plain d (by simp [mem])

/-- What is written for one character does not end the literal. -/
theorem outside_escapeChar (c : Char) (rest : List Char) :
    outside true (escapeChar c ++ rest) = outside true rest := by
  unfold escapeChar
  iterate 7
    split
    next => rfl
  split
  · have digits : ∀ d ∈ hexPadded 4 c.toNat, d ≠ '\x22' ∧ d ≠ '\\' := by
      intro d mem
      obtain ⟨k, small, rfl⟩ := mem_hexPadded mem
      exact (hexDigit_plain small).2
    exact outside_plain_append digits rest
  · rename_i quote slash _ _ _ _ _ _
    exact outside_plain_append (by simp [quote, slash]) rest

theorem outside_stringText (s : String) (rest : List Char) :
    outside false (stringText s ++ rest) = outside false rest := by
  have body (cs : List Char) : outside true (cs.flatMap escapeChar ++ '\x22' :: rest) =
      outside false rest := by
    induction cs with
    | nil => exact outside_plain (by decide) rest
    | cons c cs ih => rw [List.flatMap_cons, List.append_assoc, outside_escapeChar, ih]
  rw [stringText_eq, outside, if_pos rfl, body]

end Literals

namespace Lexed

variable {p : Char → Prop} {text : List Char}

/-- Literals hold no controls. -/
theorem noControl (h : Lexed p text) (printed : ∀ c, p c → 0x20 ≤ c.toNat) :
    ∀ c ∈ text, 0x20 ≤ c.toNat := by
  induction h with
  | nil => simp
  | mark c _ ih => exact List.forall_mem_cons.2 ⟨printed _ c, ih⟩
  | literal s _ ih => exact List.forall_mem_append.2 ⟨stringText_noControl s, ih⟩

/-- Outside of literals stand characters of the class alone. -/
theorem outside (h : Lexed p text) (noQuote : ∀ c, p c → c ≠ '\x22') :
    ∀ c ∈ Json.outside false text, p c := by
  induction h with
  | nil => simp [Json.outside]
  | mark c _ ih =>
    rw [Json.outside, if_neg (noQuote _ c)]
    exact List.forall_mem_cons.2 ⟨c, ih⟩
  | literal s _ ih => rwa [outside_stringText]

end Lexed

section Values

variable {style : Style} {p : Char → Prop}

/-- A class that has the marks of the format, and what a style sets between values. -/
structure Style.Within (style : Style) (p : Char → Prop) : Prop where
  mark : ∀ c, IsMark c → p c
  item : ∀ c ∈ style.item, p c
  pair : ∀ c ∈ style.pair, p c

theorem integerText_isMark (n : Int) : ∀ c ∈ (integerText n).toList, IsMark c := by
  have digit {k : Nat} {c : Char} (mem : c ∈ Nat.toDigits 10 k) : IsMark c := by
    refine .inl ?_
    rw [Char.isAlphanum, isDigit_of_mem_decimal mem, Bool.or_true]
  cases n with
  | ofNat k =>
    rw [integerText, String.toList_ofList]
    exact fun c mem => digit mem
  | negSucc k =>
    rw [integerText, String.toList_ofList]
    exact List.forall_mem_cons.2 ⟨.inr (by decide), fun c mem => digit mem⟩

theorem lexed_word (within : style.Within p) {word : List Char} (letters : word.all Char.isAlphanum) :
    Lexed p word :=
  .of_forall fun c mem => within.mark c (.inl (List.all_eq_true.1 letters c mem))

/-- A value in brackets. -/
theorem lexed_enclosed (within : style.Within p) {first last : Char} (opens : IsMark first)
    (closes : IsMark last) {body : List Char} (h : Lexed p body) :
    Lexed p (first :: body ++ [last]) := by
  rw [List.cons_append]
  exact .mark (within.mark _ opens) (h.append (.mark (within.mark _ closes) .nil))

mutual

theorem lexed_chars (within : style.Within p) : ∀ {v : Json}, v.isWhole → Lexed p (chars style v)
  | .null, _ => by
    rw [chars]
    exact lexed_word within (by decide)
  | .bool true, _ => by
    rw [chars]
    exact lexed_word within (by decide)
  | .bool false, _ => by
    rw [chars]
    exact lexed_word within (by decide)
  | .integer n, _ => by
    rw [chars]
    exact .of_forall fun c mem => within.mark c (integerText_isMark n c mem)
  | .real _, whole => by cases whole
  | .string s, _ => by
    rw [chars]
    exact .stringText s
  | .array items, whole => by
    rw [chars]
    rw [isWhole] at whole
    exact lexed_enclosed within (.inr (by decide)) (.inr (by decide)) (lexed_itemChars within whole)
  | .object members, whole => by
    rw [chars]
    rw [isWhole] at whole
    exact lexed_enclosed within (.inr (by decide)) (.inr (by decide))
      (lexed_memberChars within whole)

theorem lexed_itemChars (within : style.Within p) :
    ∀ {items : List Json}, areWhole items → Lexed p (itemChars style items)
  | [], _ => .nil
  | [x], whole => by
    rw [itemChars]
    exact lexed_chars within ((areWhole_cons x []).1 whole).1
  | x :: y :: items, whole => by
    obtain ⟨first, others⟩ := (areWhole_cons x (y :: items)).1 whole
    rw [itemChars_cons]
    exact (lexed_chars within first).append
      ((Lexed.of_forall within.item).append (lexed_itemChars within others))

theorem lexed_memberChars (within : style.Within p) :
    ∀ {members : List (String × Json)}, membersWhole members → Lexed p (memberChars style members)
  | [], _ => .nil
  | [(name, x)], whole => by
    obtain ⟨first, -⟩ := (membersWhole_cons name x []).1 whole
    rw [memberChars_one]
    exact .literal name ((Lexed.of_forall within.pair).append (lexed_chars within first))
  | (name, x) :: other :: members, whole => by
    obtain ⟨first, others⟩ := (membersWhole_cons name x (other :: members)).1 whole
    rw [memberChars_cons]
    exact .literal name ((Lexed.of_forall within.pair).append ((lexed_chars within first).append
      ((Lexed.of_forall within.item).append (lexed_memberChars within others))))

end

theorem compact_within : Style.compact.Within IsMark where
  mark _ h := h
  item c mem := by
    rw [List.mem_singleton.1 mem]
    exact .inr (by decide)
  pair c mem := by
    rw [List.mem_singleton.1 mem]
    exact .inr (by decide)

theorem spaced_within : Style.spaced.Within fun c => IsMark c ∨ c = ' ' where
  mark _ h := .inl h
  item c mem := by
    obtain rfl | rfl : c = ',' ∨ c = ' ' := by simpa [Style.spaced] using mem
    · exact .inl (.inr (by decide))
    · exact .inr rfl
  pair c mem := by
    obtain rfl | rfl : c = ':' ∨ c = ' ' := by simpa [Style.spaced] using mem
    · exact .inl (.inr (by decide))
    · exact .inr rfl

/-- The marks are printed characters, and none of them is a blank or a quote. -/
theorem IsMark.plain {c : Char} (h : IsMark c) :
    0x20 ≤ c.toNat ∧ c ≠ '\x22' ∧ isWhiteSpace c = false := by
  obtain plain | mark := h
  · have small := isAlphanum_lt plain
    revert plain
    refine ascii_cases c small ?_
    decide +kernel
  · simp only [List.mem_cons, List.not_mem_nil, or_false] at mark
    obtain rfl | rfl | rfl | rfl | rfl | rfl | rfl := mark <;> decide

end Values
end QuoteService.Json
