import QuoteService.Http.Address
import QuoteService.Proofs.Text.Ascii
import QuoteService.Proofs.Text.Span

/-! How authorities are written: as a name or as a literal in brackets, each with or without a port. A
reader of an address finds nothing in them that it refuses. -/
namespace QuoteService.Http
open Number Text

namespace Authority

section Characters

/-- Every character that can stand in an authority. -/
def isAuthorityChar (c : Char) : Bool := isNameChar c || c == ':' || c == '[' || c == ']'

theorem isNameChar_lt {c : Char} (h : isNameChar c) : c.toNat < 0x80 := by
  have marks : ∀ m ∈ "._~%!$&'()*+,;=-".toList, m.toNat < 0x80 := by simp
  rw [isNameChar, Bool.or_eq_true] at h
  obtain plain | mark := h
  · exact isAlphanum_lt plain
  · exact marks c (by simpa using mark)

theorem isAuthorityChar_lt {c : Char} (h : isAuthorityChar c) : c.toNat < 0x80 := by
  simp only [isAuthorityChar, Bool.or_eq_true, beq_iff_eq] at h
  obtain ((name | rfl) | rfl) | rfl := h
  · exact isNameChar_lt name
  all_goals decide

theorem isHex_lt {c : Char} (h : isHex c) : c.toNat < 0x80 := by
  unfold isHex hexValue at h
  by_contra large
  have digit : ¬ (0x30 ≤ c.toNat ∧ c.toNat ≤ 0x39) := by omega
  have upper : ¬ (0x41 ≤ c.toNat ∧ c.toNat ≤ 0x46) := by omega
  have lower : ¬ (0x61 ≤ c.toNat ∧ c.toNat ≤ 0x66) := by omega
  simp [digit, upper, lower] at h

/-- The characters of a literal with groups of digits. -/
def isGroupChar (c : Char) : Bool := isHex c || c == '.' || c == ':'

theorem isGroupChar_lt {c : Char} (h : isGroupChar c) : c.toNat < 0x80 := by
  simp only [isGroupChar, Bool.or_eq_true, beq_iff_eq] at h
  obtain (hex | rfl) | rfl := h
  · exact isHex_lt hex
  all_goals decide

/-- No character of an authority ends it, is dropped, or looks like a separator. -/
theorem isAuthorityChar_harmless {c : Char} (h : isAuthorityChar c) :
    c ≠ '@' ∧ Address.isAuthorityEnd c = false ∧ Address.isDropped c = false ∧
      Address.lookalikes.contains c.toNat = false := by
  have small := isAuthorityChar_lt h
  revert h
  refine ascii_cases c small ?_
  decide +kernel

theorem isNameChar_plain {c : Char} (h : isNameChar c) :
    isAuthorityChar c ∧ c ≠ '[' ∧ c ≠ ']' ∧ c ≠ ':' := by
  have small := isNameChar_lt h
  revert h
  refine ascii_cases c small ?_
  decide +kernel

theorem isGroupChar_plain {c : Char} (h : isGroupChar c) :
    isAuthorityChar c ∧ c ≠ '[' ∧ c ≠ ']' ∧ c ≠ '%' ∧ c ≠ 'v' := by
  have small := isGroupChar_lt h
  revert h
  refine ascii_cases c small ?_
  decide +kernel

end Characters

section Literals

/-- A text has the characters of its parts, and the separator. -/
theorem forall_of_splitOn {separator : Char} (p : Char → Prop) (between : p separator)
    {cs : List Char} (inParts : ∀ part ∈ splitOn separator cs, ∀ c ∈ part, p c) :
    ∀ c ∈ cs, p c := by
  induction cs with
  | nil => simp
  | cons d rest ih =>
    by_cases same : d = separator
    · subst same
      simp only [splitOn, if_true, List.forall_mem_cons] at inParts
      exact List.forall_mem_cons.2 ⟨between, ih inParts.2⟩
    · simp only [splitOn, same, if_false] at inParts
      cases parts : splitOn separator rest with
      | nil => exact absurd parts (splitOn_ne_nil separator rest)
      | cons part more =>
        simp only [parts, List.forall_mem_cons] at inParts
        obtain ⟨⟨head, first⟩, others⟩ := inParts
        refine List.forall_mem_cons.2 ⟨head, ih ?_⟩
        rw [parts]
        exact List.forall_mem_cons.2 ⟨first, others⟩

theorem isIPv4_chars {cs : List Char} (h : isIPv4 cs) : ∀ c ∈ cs, isGroupChar c ∧ c ≠ ':' := by
  simp only [isIPv4, Bool.and_eq_true, List.all_eq_true] at h
  have between : isGroupChar '.' ∧ '.' ≠ ':' := by decide
  refine forall_of_splitOn (fun c => isGroupChar c ∧ c ≠ ':') between ?_
  intro octet mem c inside
  have whole := h.2 octet mem
  simp only [isOctet, Bool.and_eq_true, List.all_eq_true] at whole
  have digit : c.isDigit := whole.1.1.2 c inside
  have small : c.toNat < 0x80 := isNameChar_lt (by simp [isNameChar, Char.isAlphanum, digit])
  revert digit
  refine ascii_cases c small ?_
  decide +kernel

theorem isHexGroup_chars {cs : List Char} (h : isHexGroup cs) : ∀ c ∈ cs, isGroupChar c := by
  simp only [isHexGroup, Bool.and_eq_true, List.all_eq_true] at h
  intro c mem
  simp [isGroupChar, h.2 c mem]

theorem groupCount_chars {parts : List (List Char)} {n : Nat} (h : groupCount parts = some n) :
    ∀ part ∈ parts, ∀ c ∈ part, isGroupChar c := by
  fun_induction groupCount parts generalizing n with
  | case1 => cases h
  | case2 part hex => simpa using isHexGroup_chars hex
  | case3 part _ v4 => simpa using fun c mem => (isIPv4_chars v4 c mem).1
  | case4 => cases h
  | case5 part rest _ hex ih =>
    obtain ⟨m, found, -⟩ := Option.map_eq_some_iff.1 h
    exact List.forall_mem_cons.2 ⟨isHexGroup_chars hex, ih found⟩
  | case6 => cases h

theorem append_of_cutGap {cs left right : List Char} (h : cutGap cs = some (left, right)) :
    cs = left ++ ':' :: ':' :: right := by
  fun_induction cutGap cs generalizing left right with
  | case1 rest =>
    cases h
    rfl
  | case2 c rest _ ih =>
    obtain ⟨⟨l, r⟩, found, same⟩ := Option.map_eq_some_iff.1 h
    cases same
    rw [ih found]
    rfl
  | case3 => cases h

theorem isIPv6_chars {cs : List Char} (h : isIPv6 cs) : ∀ c ∈ cs, isGroupChar c := by
  have colon : isGroupChar ':' := by decide
  have joined {text : List Char} {n : Nat} (counted : groupCount (splitOn ':' text) = some n) :
      ∀ c ∈ text, isGroupChar c :=
    forall_of_splitOn _ colon (groupCount_chars counted)
  cases cut : cutGap cs with
  | none =>
    simp only [isIPv6, cut] at h
    exact joined (eq_of_beq h)
  | some sides =>
    obtain ⟨left, right⟩ := sides
    rw [append_of_cutGap cut]
    simp only [List.forall_mem_append, List.forall_mem_cons]
    refine ⟨?_, colon, colon, ?_⟩
    · have high : left = [] ∨ ∀ part ∈ splitOn ':' left, isHexGroup part := by
        by_contra neither
        rw [not_or] at neither
        simp [isIPv6, cut, neither] at h
      obtain rfl | groups := high
      · simp
      · exact forall_of_splitOn _ colon fun part mem => isHexGroup_chars (groups part mem)
    · have low : right = [] ∨ ∃ n, groupCount (splitOn ':' right) = some n := by
        by_contra neither
        rw [not_or, ← Option.ne_none_iff_exists', not_not] at neither
        simp [isIPv6, cut, neither] at h
      obtain rfl | ⟨n, counted⟩ := low
      · simp
      · exact joined counted

theorem colon_mem_of_isIPv6 {cs : List Char} (h : isIPv6 cs) : ':' ∈ cs := by
  unfold isIPv6 at h
  split at h
  · by_contra absent
    rw [splitOn_of_notMem absent] at h
    unfold groupCount at h
    split at h
    · simp at h
    · split at h <;> simp at h
  · rename_i left right cut
    rw [append_of_cutGap cut]
    simp

/-- A character that can stand between brackets. -/
def IsInner (c : Char) : Prop := isAuthorityChar c ∧ c ≠ '[' ∧ c ≠ ']'

theorem isInner_of_isGroupChar {c : Char} (h : isGroupChar c) : IsInner c := by
  obtain ⟨char, opens, closes, -⟩ := isGroupChar_plain h
  exact ⟨char, opens, closes⟩

theorem isInner_of_isNameChar {c : Char} (h : isNameChar c) : IsInner c := by
  obtain ⟨char, opens, closes, -⟩ := isNameChar_plain h
  exact ⟨char, opens, closes⟩

theorem isInner_colon : IsInner ':' := by
  refine ⟨?_, ?_, ?_⟩ <;> decide

theorem isFutureLiteral_chars {cs : List Char} (h : isFutureLiteral cs) : ∀ c ∈ cs, IsInner c := by
  unfold isFutureLiteral at h
  split at h
  · rename_i rest
    simp only [Bool.and_eq_true, List.all_eq_true] at h
    obtain ⟨⟨⟨-, version⟩, -⟩, text⟩ := h
    have first : IsInner 'v' := by refine ⟨?_, ?_, ?_⟩ <;> decide
    rw [List.forall_mem_cons, ← rest.takeWhile_append_dropWhile (p := (· != '.')),
      List.forall_mem_append]
    refine ⟨first, ?_, ?_⟩
    · intro c mem
      exact isInner_of_isGroupChar (by simp [isGroupChar, version c mem])
    · cases after : rest.dropWhile (· != '.') with
      | nil => simp
      | cons d more =>
        have dot : d = '.' := by
          have stops := List.head_dropWhile_not (· != '.') (l := rest) (by simp [after])
          simpa [after] using stops
        simp only [after, List.drop_one, List.tail_cons] at text
        refine List.forall_mem_cons.2 ⟨isInner_of_isNameChar (by rw [dot]; decide), ?_⟩
        intro c mem
        have kind := text c mem
        simp only [Bool.or_eq_true, beq_iff_eq, Bool.and_eq_true] at kind
        obtain rfl | ⟨name, -⟩ := kind
        · exact isInner_colon
        · exact isInner_of_isNameChar name
  · cases h

end Literals

section Written

/-- How authorities are written: a name, or a literal in brackets, and what belongs to a port. -/
inductive IsWritten : List Char → Prop
  | name {cs : List Char} (some : cs ≠ []) (chars : ∀ c ∈ cs, isNameChar c ∨ c = ':') : IsWritten cs
  | literal {inside port : List Char} (form : isIPv6 inside ∨ isFutureLiteral inside)
    (suffix : port = [] ∨ ∃ digits, port = ':' :: digits ∧ ∀ c ∈ digits, isNameChar c) :
    IsWritten ('[' :: inside ++ ']' :: port)

theorem isNameChar_of_isDigit {c : Char} (h : c.isDigit) : isNameChar c := by
  simp [isNameChar, Char.isAlphanum, h]

theorem isPortSuffix_chars {cs : List Char} (h : isPortSuffix cs) :
    cs = [] ∨ ∃ digits, cs = ':' :: digits ∧ ∀ c ∈ digits, isNameChar c := by
  unfold isPortSuffix at h
  split at h
  · exact .inl rfl
  · rename_i digits
    simp only [Bool.and_eq_true, List.all_eq_true] at h
    exact .inr ⟨digits, rfl, fun c mem => isNameChar_of_isDigit (h.1.1.2 c mem)⟩
  · cases h

theorem isWritten_of_isAccepted {host : String} (accepted : isAccepted host) :
    IsWritten host.toList := by
  unfold isAccepted at accepted
  split at accepted
  · rename_i rest start
    split at accepted
    · rename_i port after
      rw [Bool.and_eq_true, Bool.or_eq_true] at accepted
      have whole := rest.takeWhile_append_dropWhile (p := (· != ']'))
      rw [after] at whole
      rw [start, ← whole]
      exact .literal accepted.1 (isPortSuffix_chars accepted.2)
    · cases accepted
  · simp only [Bool.and_eq_true, Bool.not_eq_true', List.isEmpty_eq_false_iff] at accepted
    refine .name ?_ ?_
    · intro empty
      simp [empty] at accepted
    · rw [← host.toList.takeWhile_append_dropWhile (p := isNameChar), List.forall_mem_append]
      refine ⟨fun c mem => .inl (List.mem_takeWhile_imp mem), ?_⟩
      obtain none | ⟨digits, port, chars⟩ := isPortSuffix_chars accepted.2
      · simp [none]
      · rw [port, List.forall_mem_cons]
        exact ⟨.inr rfl, fun c mem => .inl (chars c mem)⟩

theorem toList_integerText_chars (n : Int) : ∀ c ∈ (integerText n).toList, isNameChar c := by
  have digits (k : Nat) : ∀ c ∈ Nat.toDigits 10 k, isNameChar c := fun c mem =>
    isNameChar_of_isDigit (Nat.isDigit_of_mem_toDigits (by decide) (by decide) mem)
  cases n with
  | ofNat k => simpa [integerText] using digits k
  | negSucc k =>
    rw [integerText, String.toList_ofList, List.forall_mem_cons]
    exact ⟨by decide, digits (k + 1)⟩

/-- A host as a server gives it: a name, or a literal of groups with or without brackets. -/
inductive IsHost : List Char → Prop
  | name {cs : List Char} (some : cs ≠ []) (chars : ∀ c ∈ cs, isNameChar c) : IsHost cs
  | literal {cs : List Char} (groups : isIPv6 cs) : IsHost cs
  | bracketed {cs : List Char} (groups : isIPv6 cs) : IsHost ('[' :: cs ++ [']'])

theorem isWritten_bracketed {host : String} (h : IsHost host.toList) {port : List Char}
    (suffix : port = [] ∨ ∃ digits, port = ':' :: digits ∧ ∀ c ∈ digits, isNameChar c) :
    IsWritten ((bracketed host).toList ++ port) := by
  generalize text : host.toList = cs at h
  cases h with
  | name some chars =>
    have plain : ':' ∉ cs := fun mem => (isNameChar_plain (chars ':' mem)).2.2.2 rfl
    have kept : bracketed host = host := by simp [bracketed, text, plain]
    rw [kept, text]
    refine .name (by simp [some]) ?_
    rw [List.forall_mem_append]
    refine ⟨fun c mem => .inl (chars c mem), ?_⟩
    obtain rfl | ⟨digits, rfl, numeric⟩ := suffix
    · simp
    · exact List.forall_mem_cons.2 ⟨.inr rfl, fun c mem => .inl (numeric c mem)⟩
  | literal groups =>
    have opened : cs.head? ≠ some '[' := by
      intro first
      have mem := List.mem_of_head? first
      exact (isGroupChar_plain (isIPv6_chars groups _ mem)).2.1 rfl
    have put : (bracketed host).toList = '[' :: cs ++ [']'] := by
      simp [bracketed, text, colon_mem_of_isIPv6 groups, opened]
    rw [put]
    simpa using IsWritten.literal (.inl groups) suffix
  | bracketed groups =>
    have kept : bracketed host = host := by simp [bracketed, text]
    rw [kept, text]
    simpa using IsWritten.literal (.inl groups) suffix

theorem isWritten_of_ofServer {scheme : String} {server : Endpoint} (h : IsHost server.host.toList)
    {authority : String} (given : ofServer scheme server = .ok authority) :
    IsWritten authority.toList := by
  unfold ofServer at given
  split at given
  · cases given
  · split at given <;> cases given
    · simpa using isWritten_bracketed h (.inl rfl)
    · have numeric := toList_integerText_chars server.port
      simpa using isWritten_bracketed h (.inr ⟨_, rfl, numeric⟩)

namespace IsWritten

variable {authority : List Char}

theorem ne_nil (written : IsWritten authority) : authority ≠ [] := by
  cases written with
  | name some _ => exact some
  | literal _ _ => simp

theorem chars (written : IsWritten authority) : ∀ c ∈ authority, isAuthorityChar c := by
  cases written with
  | name _ chars =>
    intro c mem
    obtain name | rfl := chars c mem
    · exact (isNameChar_plain name).1
    · decide
  | literal form suffix =>
    have inside : ∀ c ∈ _, IsInner c :=
      form.elim (fun six c mem => isInner_of_isGroupChar (isIPv6_chars six c mem))
        isFutureLiteral_chars
    simp only [List.forall_mem_append, List.forall_mem_cons, List.cons_append]
    refine ⟨by decide, fun c mem => (inside c mem).1, by decide, ?_⟩
    obtain rfl | ⟨digits, rfl, numeric⟩ := suffix
    · simp
    · exact List.forall_mem_cons.2 ⟨by decide, fun c mem => (isNameChar_plain (numeric c mem)).1⟩

theorem checkLookalikes (written : IsWritten authority) :
    Address.checkLookalikes authority = .ok () := by
  rw [Address.checkLookalikes, if_neg]
  rw [List.any_eq_true]
  rintro ⟨c, mem, found⟩
  have harmless := (isAuthorityChar_harmless (written.chars c mem)).2.2.2
  rw [found] at harmless
  cases harmless

/-- What a reader of an address makes of a text between brackets. -/
theorem checkBrackets_literal {inside port : List Char} (inner : ∀ c ∈ inside, IsInner c)
    (suffix : port = [] ∨ port.head? = some ':') (noUser : '@' ∉ '[' :: inside ++ ']' :: port)
    (form : (isIPv6 inside ∧ '%' ∉ inside ∧ inside.head? ≠ some 'v' ∧ ¬ isIPv4 inside) ∨
      isFutureLiteral inside) :
    Address.checkBrackets ('[' :: inside ++ ']' :: port) = .ok () := by
  have place : (('[' :: inside ++ ']' :: port).reverse.takeWhile (· != '@')).reverse =
      '[' :: inside ++ ']' :: port := by
    rw [List.takeWhile_eq_self_iff.2, List.reverse_reverse]
    intro c mem
    rw [bne_iff_ne]
    rintro rfl
    exact noUser (List.mem_reverse.1 mem)
  have enclosed : ∀ c ∈ inside, c != ']' := fun c mem => by simpa using (inner c mem).2.2
  have stop : ∀ c, (']' :: port).head? = some c → (c != ']') = false := by simp
  have host := takeWhile_append_stop enclosed stop
  have after := dropWhile_append_stop enclosed stop
  have dangling : (!(port.isEmpty || port.head? == some ':')) = false := by
    obtain rfl | colon := suffix
    · rfl
    · simp [colon]
  unfold Address.checkBrackets
  simp only [place]
  obtain ⟨six, noZone, noVersion, notFour⟩ | future := form
  · have whole : inside.takeWhile (· != '%') = inside := by
      rw [List.takeWhile_eq_self_iff]
      intro c mem
      rw [bne_iff_ne]
      rintro rfl
      exact noZone mem
    simp [host, after, dangling, noVersion, notFour, noZone, whole, six]
  · unfold isFutureLiteral at future
    split at future
    · simp only [Bool.and_eq_true, Bool.not_eq_true'] at future
      obtain ⟨⟨⟨some, hex⟩, text⟩, -⟩ := future
      simp only [List.cons_append] at host after ⊢
      simpa [-List.all_eq_true, host, after, dangling, some, hex] using text
    · cases future

/-- Literals between brackets are what a reader expects there. -/
theorem checkBrackets (written : IsWritten authority) : Address.checkBrackets authority = .ok () := by
  cases written with
  | name some chars =>
    have opens : '[' ∉ authority := by
      intro mem
      have kind := chars _ mem
      revert kind
      decide
    have closes : ']' ∉ authority := by
      intro mem
      have kind := chars _ mem
      revert kind
      decide
    simp [Address.checkBrackets, opens, closes]
  | @literal inside port form suffix =>
    have noUser : '@' ∉ '[' :: inside ++ ']' :: port := fun mem =>
      (isAuthorityChar_harmless ((IsWritten.literal form suffix).chars _ mem)).1 rfl
    have colon : port = [] ∨ port.head? = some ':' := by
      obtain rfl | ⟨digits, rfl, -⟩ := suffix
      · exact .inl rfl
      · exact .inr rfl
    obtain six | future := form
    · have groups := isIPv6_chars six
      have noZone : '%' ∉ inside := fun mem => (isGroupChar_plain (groups _ mem)).2.2.2.1 rfl
      have noVersion : inside.head? ≠ some 'v' := fun first =>
        (isGroupChar_plain (groups _ (List.mem_of_head? first))).2.2.2.2 rfl
      have notFour : ¬ isIPv4 inside := fun four =>
        (isIPv4_chars four ':' (colon_mem_of_isIPv6 six)).2 rfl
      exact checkBrackets_literal (fun c mem => isInner_of_isGroupChar (groups c mem)) colon noUser
        (.inl ⟨six, noZone, noVersion, notFour⟩)
    · exact checkBrackets_literal (isFutureLiteral_chars future) colon noUser (.inr future)

end IsWritten

end Written
end Authority
end QuoteService.Http
