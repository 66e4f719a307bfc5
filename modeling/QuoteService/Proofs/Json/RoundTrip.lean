import QuoteService.Json.Reader
import QuoteService.Json.Writer
import QuoteService.Proofs.Number.Digits
import QuoteService.Proofs.Text.Span

/-! A written value is read back, whatever its style and whatever its texts hold, if all its numbers are
whole. -/
namespace QuoteService.Json
open Number Text

section Blanks

def isBlank (c : Char) : Bool := c == ' ' || c == '\n' || c == '\t' || c == '\r'

theorem skipBlank_cons {c : Char} (h : isBlank c = false) (rest : List Char) :
    skipBlank (c :: rest) = c :: rest :=
  List.dropWhile_cons_of_neg (by simpa [isBlank] using h)

theorem skipBlank_append {blanks : List Char} (all : blanks.all isBlank) (rest : List Char) :
    skipBlank (blanks ++ rest) = skipBlank rest :=
  List.dropWhile_append_of_pos (List.all_eq_true.1 all)

/-- A style separates by a comma and by a colon, with nothing but blanks behind them. -/
structure Style.Separates (style : Style) : Prop where
  item : ∃ blanks, style.item = ',' :: blanks ∧ blanks.all isBlank
  pair : ∃ blanks, style.pair = ':' :: blanks ∧ blanks.all isBlank

theorem compact_separates : Style.compact.Separates :=
  ⟨⟨[], rfl, rfl⟩, ⟨[], rfl, rfl⟩⟩

theorem spaced_separates : Style.spaced.Separates :=
  ⟨⟨[' '], rfl, rfl⟩, ⟨[' '], rfl, rfl⟩⟩

/-- What may follow a value: nothing, a comma, or a closing bracket. -/
def Stops (rest : List Char) : Prop :=
  ∀ c, rest.head? = some c → c = ',' ∨ c = ']' ∨ c = '\x7d'

theorem stops_nil : Stops [] := by
  intro c first
  cases first

theorem stops_cons {c : Char} (h : c = ',' ∨ c = ']' ∨ c = '\x7d') (rest : List Char) :
    Stops (c :: rest) := by
  rintro d ⟨⟩
  exact h

end Blanks

section Numbers

variable {rest : List Char}

theorem readFraction_stops (stops : Stops rest) : readFraction rest = some ([], rest) := by
  unfold readFraction
  split
  · exact absurd (stops '.' rfl) (by decide)
  · rfl

theorem readExponent_stops (stops : Stops rest) : readExponent rest = some (none, rest) := by
  unfold readExponent
  split
  · rfl
  · rename_i c more
    have mark : (c == 'e' || c == 'E') = false := by
      obtain rfl | rfl | rfl := stops c rfl <;> decide
    simp [mark]

theorem isDigit_stops (stops : Stops rest) (c : Char) (first : rest.head? = some c) :
    c.isDigit = false := by
  obtain rfl | rfl | rfl := stops c first <;> decide

/-- Digits after at most a minus sign are a whole number. -/
theorem readNumber_digits (k : Nat) (stops : Stops rest) :
    readNumber (Nat.toDigits 10 k ++ rest) = some (.integer k, rest) ∧
      readNumber ('-' :: (Nat.toDigits 10 k ++ rest)) = some (.integer (-k), rest) := by
  have inside : ∀ c ∈ Nat.toDigits 10 k, c.isDigit := fun c mem => isDigit_of_mem_decimal mem
  have whole := takeWhile_append_stop inside (isDigit_stops stops)
  have after := dropWhile_append_stop inside (isDigit_stops stops)
  have plain := leadingZero_toDigits k
  have some_ : (Nat.toDigits 10 k).isEmpty = false := by simp
  constructor
  · have unsigned : ∀ more, Nat.toDigits 10 k ++ rest ≠ '-' :: more := by
      intro more same
      cases digits : Nat.toDigits 10 k with
      | nil => exact Nat.toDigits_ne_nil digits
      | cons d ds =>
        have digit := inside d (by simp [digits])
        rw [digits] at same
        cases same
        cases digit
    unfold readNumber
    split
    rename_i negative cs same
    split at same
    · rename_i more minus
      exact absurd minus (unsigned more)
    · cases same
      simp [whole, after, plain, some_, readFraction_stops stops, readExponent_stops stops]
  · unfold readNumber
    simp [whole, after, plain, some_, readFraction_stops stops, readExponent_stops stops]

theorem readNumber_integer (n : Int) (stops : Stops rest) :
    readNumber ((integerText n).toList ++ rest) = some (.integer n, rest) := by
  cases n with
  | ofNat k =>
    rw [integerText, String.toList_ofList]
    exact (readNumber_digits k stops).1
  | negSucc k =>
    rw [integerText, String.toList_ofList]
    exact (readNumber_digits (k + 1) stops).2

/-- The text of a number starts like no other value. -/
theorem integerText_head (n : Int) :
    ∃ c more, (integerText n).toList = c :: more ∧ (c = '-' ∨ c.isDigit) := by
  have digits (k : Nat) : ∃ c more, Nat.toDigits 10 k = c :: more ∧ c.isDigit := by
    obtain ⟨c, more, split⟩ := List.exists_cons_of_ne_nil (Nat.toDigits_ne_nil (b := 10) (n := k))
    exact ⟨c, more, split, isDigit_of_mem_decimal (by rw [split]; exact List.mem_cons_self)⟩
  cases n with
  | ofNat k =>
    obtain ⟨c, more, split, digit⟩ := digits k
    exact ⟨c, more, by rw [integerText, String.toList_ofList, split], .inr digit⟩
  | negSucc k => exact ⟨'-', _, by rw [integerText, String.toList_ofList], .inl rfl⟩

end Numbers

section Texts

theorem readHex4_hexPadded {n : Nat} (h : n < 0x10000) (rest : List Char) :
    readHex4 (hexPadded 4 n ++ rest) = some (n, rest) := by
  simp only [hexPadded, List.nil_append, List.cons_append, readHex4]
  rw [hexValue_hexDigit (by omega), hexValue_hexDigit (by omega), hexValue_hexDigit (by omega),
    hexValue_hexDigit (by omega)]
  simp only [Option.bind_eq_bind, Option.bind_some, Option.some.injEq, Prod.mk.injEq, and_true]
  omega

/-- A control that has no letter is read from its number. -/
theorem readCodeUnits_control {c : Char} (control : c.toNat < 0x20) (rest : List Char) :
    readCodeUnits (hexPadded 4 c.toNat ++ rest) = some (c, rest) := by
  have small : c.toNat < 0xD800 := by omega
  rw [readCodeUnits, readHex4_hexPadded (by omega)]
  simp [small]

theorem readString_escaped (fuel : Nat) {c : Char} {text rest : List Char}
    (escape : readEscape (text ++ rest) = some (c, rest)) :
    readString (fuel + 1) ('\\' :: text ++ rest) =
      (readString fuel rest).map fun p => (c :: p.1, p.2) := by
  rw [List.cons_append, readString, if_neg (by decide), if_pos rfl, escape]
  simp only [Option.bind_eq_bind, Option.bind_some]
  cases readString fuel rest <;> rfl

/-- What is written for one character is read in one step. -/
theorem readString_escapeChar (fuel : Nat) (c : Char) (rest : List Char) :
    readString (fuel + 1) (escapeChar c ++ rest) =
      (readString fuel rest).map fun p => (c :: p.1, p.2) := by
  unfold escapeChar
  -- a quote, a backslash, and the controls that have a letter
  iterate 7
    split
    next same => subst same; exact readString_escaped fuel rfl
  split
  · rename_i control
    exact readString_escaped fuel (readCodeUnits_control control rest)
  · rename_i quote slash _ _ _ _ _ control
    rw [List.singleton_append, readString, if_neg quote, if_neg slash, if_neg control]
    cases readString fuel rest <;> rfl

theorem readString_text {fuel : Nat} (cs rest : List Char) (enough : cs.length < fuel) :
    readString fuel (cs.flatMap escapeChar ++ '\x22' :: rest) = some (cs, rest) := by
  induction cs generalizing fuel with
  | nil =>
    obtain ⟨fuel, rfl⟩ := Nat.exists_eq_succ_of_ne_zero (by omega : fuel ≠ 0)
    simp [readString]
  | cons c cs ih =>
    obtain ⟨fuel, rfl⟩ := Nat.exists_eq_succ_of_ne_zero (by omega : fuel ≠ 0)
    rw [List.flatMap_cons, List.append_assoc, readString_escapeChar, ih (by simpa using enough)]
    rfl

theorem length_le_flatMap_escapeChar (cs : List Char) :
    cs.length ≤ (cs.flatMap escapeChar).length := by
  induction cs with
  | nil => simp
  | cons c cs ih =>
    have one : 1 ≤ (escapeChar c).length := by
      unfold escapeChar
      repeat' split
      all_goals simp
    simp only [List.flatMap_cons, List.length_append, List.length_cons]
    omega

end Texts
section Values

mutual

/-- Whether all numbers of a value are whole. -/
def isWhole : Json → Bool
  | .real _ => false
  | .array items => areWhole items
  | .object members => membersWhole members
  | _ => true

def areWhole : List Json → Bool
  | [] => true
  | x :: rest => isWhole x && areWhole rest

def membersWhole : List (String × Json) → Bool
  | [] => true
  | (_, x) :: rest => isWhole x && membersWhole rest

end

@[simp] theorem areWhole_cons (x : Json) (items : List Json) :
    areWhole (x :: items) = true ↔ isWhole x ∧ areWhole items := by
  simp [areWhole]

@[simp] theorem membersWhole_cons (name : String) (x : Json) (members : List (String × Json)) :
    membersWhole ((name, x) :: members) = true ↔ isWhole x ∧ membersWhole members := by
  simp [membersWhole]

theorem membersWhole_iff {members : List (String × Json)} :
    membersWhole members = true ↔ ∀ m ∈ members, isWhole m.2 := by
  induction members with
  | nil => simp [membersWhole]
  | cons m rest ih => rw [membersWhole_cons, ih, List.forall_mem_cons]

theorem readValue_number {fuel : Nat} {c : Char} (h : c = '-' ∨ c.isDigit) (rest : List Char) :
    readValue (fuel + 1) (c :: rest) = readNumber (c :: rest) := by
  have other : c ≠ 'n' ∧ c ≠ 't' ∧ c ≠ 'f' ∧ c ≠ '\x22' ∧ c ≠ '[' ∧ c ≠ '\x7b' := by
    refine ⟨?_, ?_, ?_, ?_, ?_, ?_⟩ <;> rintro rfl <;> revert h <;> decide
  unfold readValue
  split
  case h_7 => rfl
  all_goals
    rename_i same
    injection same with head
    simp [head] at other

/-- A written value starts with no blank, and not like the end of a list. -/
theorem chars_head (style : Style) {v : Json} (whole : isWhole v) :
    ∃ c more, chars style v = c :: more ∧ isBlank c = false ∧ c ≠ ']' := by
  cases v with
  | null => exact ⟨'n', _, rfl, rfl, by decide⟩
  | bool b => cases b <;> exact ⟨_, _, rfl, rfl, by decide⟩
  | integer n =>
    obtain ⟨c, more, split, first⟩ := integerText_head n
    have plain : isBlank c = false ∧ c ≠ ']' := by
      obtain rfl | digit := first
      · decide
      · refine ⟨?_, by rintro rfl; cases digit⟩
        by_contra blank
        simp only [isBlank, Bool.not_eq_false, Bool.or_eq_true, beq_iff_eq] at blank
        obtain ((rfl | rfl) | rfl) | rfl := blank <;> cases digit
    exact ⟨c, more, by rw [chars, split], plain⟩
  | real x => cases whole
  | string s => exact ⟨'\x22', _, rfl, rfl, by decide⟩
  | array items => exact ⟨'[', _, rfl, rfl, by decide⟩
  | object members => exact ⟨'\x7b', _, rfl, rfl, by decide⟩

theorem stringText_eq (s : String) (rest : List Char) :
    stringText s ++ rest = '\x22' :: (s.toList.flatMap escapeChar ++ '\x22' :: rest) := by
  simp [stringText]

theorem length_lt_stringText (s : String) : s.toList.length + 1 < (stringText s).length := by
  have escaped := length_le_flatMap_escapeChar s.toList
  simp only [stringText, List.length_cons, List.length_append, List.length_nil]
  omega

theorem readValue_stringText {fuel : Nat} (s : String) (rest : List Char)
    (enough : (stringText s).length ≤ fuel) :
    readValue (fuel + 1) (stringText s ++ rest) = some (.string s, rest) := by
  have length := length_lt_stringText s
  rw [stringText_eq, readValue, readString_text _ _ (by omega)]
  simp

variable {style : Style} {fuel : Nat}

/-- A list that does not end at once has items. -/
theorem readValue_bracket {c : Char} (plain : isBlank c = false) (more_ : c ≠ ']')
    (rest : List Char) :
    readValue (fuel + 1) ('[' :: c :: rest) =
      (readItems fuel (c :: rest)).map fun p => (.array p.1, p.2) := by
  simp only [readValue, skipBlank_cons plain]
  split
  · rename_i same
    injection same with head
    exact absurd head more_
  · cases readItems fuel (c :: rest) <;> rfl

theorem readValue_brace (rest : List Char) :
    readValue (fuel + 1) ('\x7b' :: '\x22' :: rest) =
      (readMembers fuel ('\x22' :: rest)).map fun p => (.object p.1, p.2) := by
  have quote : isBlank '\x22' = false := by decide
  simp only [readValue, skipBlank_cons quote]
  split
  · rename_i same
    cases same
  · cases readMembers fuel ('\x22' :: rest) <;> rfl

theorem readItems_blanks {blanks : List Char} (all : blanks.all isBlank) (cs : List Char) :
    readItems fuel (blanks ++ cs) = readItems fuel cs := by
  cases fuel with
  | zero => rfl
  | succ fuel => simp only [readItems, skipBlank_append all]

theorem readMembers_blanks {blanks : List Char} (all : blanks.all isBlank) (cs : List Char) :
    readMembers fuel (blanks ++ cs) = readMembers fuel cs := by
  cases fuel with
  | zero => rfl
  | succ fuel => simp only [readMembers, skipBlank_append all]

/-- The last item of a list, and one that is followed by others. -/
theorem readItems_last {text rest : List Char} {v : Json} (start : skipBlank text = text)
    (read : readValue fuel text = some (v, ']' :: rest)) :
    readItems (fuel + 1) text = some ([v], rest) := by
  have close : isBlank ']' = false := by decide
  simp only [readItems, start, read, Option.bind_eq_bind, Option.bind_some, skipBlank_cons close]

theorem readItems_next {text rest : List Char} {v : Json} (start : skipBlank text = text)
    (read : readValue fuel text = some (v, ',' :: rest)) :
    readItems (fuel + 1) text = (readItems fuel rest).map fun p => (v :: p.1, p.2) := by
  have comma : isBlank ',' = false := by decide
  simp only [readItems, start, read, Option.bind_eq_bind, Option.bind_some, skipBlank_cons comma]
  cases readItems fuel rest <;> rfl

/-- The last member of an object, and one that is followed by others. -/
theorem readMembers_last {name : String} {text value rest : List Char} {v : Json}
    (enough : (stringText name).length ≤ fuel) (start : skipBlank text = value)
    (read : readValue fuel value = some (v, '\x7d' :: rest)) :
    readMembers (fuel + 1) (stringText name ++ ':' :: text) = some ([(name, v)], rest) := by
  have length := length_lt_stringText name
  have named := readString_text name.toList (':' :: text) (by omega : name.toList.length < fuel)
  have quote : isBlank '\x22' = false := by decide
  have colon : isBlank ':' = false := by decide
  have close : isBlank '\x7d' = false := by decide
  rw [stringText_eq, readMembers, skipBlank_cons quote]
  simp only [named, start, read, Option.bind_eq_bind, Option.bind_some, skipBlank_cons colon,
    skipBlank_cons close, String.ofList_toList]

theorem readMembers_next {name : String} {text value rest : List Char} {v : Json}
    (enough : (stringText name).length ≤ fuel) (start : skipBlank text = value)
    (read : readValue fuel value = some (v, ',' :: rest)) :
    readMembers (fuel + 1) (stringText name ++ ':' :: text) =
      (readMembers fuel rest).map fun p => ((name, v) :: p.1, p.2) := by
  have length := length_lt_stringText name
  have named := readString_text name.toList (':' :: text) (by omega : name.toList.length < fuel)
  have quote : isBlank '\x22' = false := by decide
  have colon : isBlank ':' = false := by decide
  have comma : isBlank ',' = false := by decide
  rw [stringText_eq, readMembers, skipBlank_cons quote]
  simp only [named, start, read, Option.bind_eq_bind, Option.bind_some, skipBlank_cons colon,
    skipBlank_cons comma, String.ofList_toList]
  cases readMembers fuel rest <;> rfl

theorem skipBlank_chars (style : Style) {v : Json} (whole : isWhole v) (rest : List Char) :
    skipBlank (chars style v ++ rest) = chars style v ++ rest := by
  obtain ⟨c, more, split, plain, -⟩ := chars_head style whole
  rw [split, List.cons_append, skipBlank_cons plain]

theorem itemChars_cons (style : Style) (x y : Json) (items : List Json) :
    itemChars style (x :: y :: items) =
      chars style x ++ (style.item ++ itemChars style (y :: items)) := by
  rw [itemChars, List.append_assoc]
  simp

theorem itemChars_head (style : Style) {x : Json} (whole : isWhole x) (items : List Json) :
    ∃ c more, itemChars style (x :: items) = c :: more ∧ isBlank c = false ∧ c ≠ ']' := by
  obtain ⟨c, more, split, plain⟩ := chars_head style whole
  cases items with
  | nil => exact ⟨c, more, by rw [itemChars, split], plain⟩
  | cons y items => exact ⟨c, _, by rw [itemChars_cons, split, List.cons_append], plain⟩

theorem memberChars_one (style : Style) (name : String) (x : Json) :
    memberChars style [(name, x)] = stringText name ++ (style.pair ++ chars style x) := by
  rw [memberChars, List.append_assoc]

theorem memberChars_cons (style : Style) (name : String) (x : Json) (other : String × Json)
    (members : List (String × Json)) :
    memberChars style ((name, x) :: other :: members) =
      stringText name ++ (style.pair ++ (chars style x ++
        (style.item ++ memberChars style (other :: members)))) := by
  rw [memberChars]
  · simp only [List.append_assoc]
  · simp

theorem memberChars_head (style : Style) (name : String) (x : Json)
    (members : List (String × Json)) :
    ∃ more, memberChars style ((name, x) :: members) = '\x22' :: more := by
  cases members with
  | nil => exact ⟨_, by rw [memberChars_one, stringText_eq]⟩
  | cons other members => exact ⟨_, by rw [memberChars_cons, stringText_eq]⟩

mutual

/-- Two steps for each character are enough to read a written value. -/
theorem readValue_chars (sep : style.Separates) :
    ∀ (v : Json) (fuel : Nat) (rest : List Char), isWhole v → 2 * (chars style v).length < fuel →
      Stops rest → readValue fuel (chars style v ++ rest) = some (v, rest)
  | _, 0, _, _, enough, _ => absurd enough (by omega)
  | .null, fuel + 1, rest, _, _, _ => by rw [chars]; rfl
  | .bool true, fuel + 1, rest, _, _, _ => by rw [chars]; rfl
  | .bool false, fuel + 1, rest, _, _, _ => by rw [chars]; rfl
  | .integer n, fuel + 1, rest, _, _, stops => by
    obtain ⟨c, more, split, first⟩ := integerText_head n
    rw [chars, ← readNumber_integer n stops, split]
    exact readValue_number first (more ++ rest)
  | .real _, _ + 1, _, whole, _, _ => by cases whole
  | .string s, fuel + 1, rest, _, enough, _ => by
    rw [chars] at enough ⊢
    exact readValue_stringText s rest (by omega)
  | .array [], fuel + 1, rest, _, _, _ => by
    simp [chars, itemChars, readValue, skipBlank]
  | .array (x :: items), fuel + 1, rest, whole, enough, _ => by
    rw [isWhole] at whole
    obtain ⟨c, more, split, plain, ne⟩ := itemChars_head style ((areWhole_cons _ _).1 whole).1 items
    have text : chars style (.array (x :: items)) ++ rest = '[' :: c :: (more ++ ']' :: rest) := by
      simp [chars, split]
    simp only [chars, List.length_cons, List.length_append, List.length_nil] at enough
    have items := readItems_itemChars sep x items fuel rest whole (by omega)
    rw [split, List.cons_append] at items
    rw [text, readValue_bracket plain ne, items]
    rfl
  | .object [], fuel + 1, rest, _, _, _ => by
    simp [chars, memberChars, readValue, skipBlank]
  | .object ((name, x) :: members), fuel + 1, rest, whole, enough, _ => by
    rw [isWhole] at whole
    simp only [chars, List.length_cons, List.length_append, List.length_nil] at enough
    have members_ := readMembers_memberChars sep name x members fuel rest whole (by omega)
    obtain ⟨more, split⟩ := memberChars_head style name x members
    have text : chars style (.object ((name, x) :: members)) ++ rest =
        '\x7b' :: '\x22' :: (more ++ '\x7d' :: rest) := by
      simp [chars, split]
    rw [split, List.cons_append] at members_
    rw [text, readValue_brace, members_]
    rfl

theorem readItems_itemChars (sep : style.Separates) :
    ∀ (x : Json) (items : List Json) (fuel : Nat) (rest : List Char), areWhole (x :: items) →
      2 * (itemChars style (x :: items)).length + 1 < fuel →
      readItems fuel (itemChars style (x :: items) ++ ']' :: rest) = some (x :: items, rest)
  | _, _, 0, _, _, enough => absurd enough (by omega)
  | x, [], fuel + 1, rest, whole, enough => by
    obtain ⟨first, -⟩ := (areWhole_cons x []).1 whole
    rw [itemChars] at enough ⊢
    have closed : Stops (']' :: rest) := stops_cons (by decide) rest
    have read := readValue_chars sep x fuel (']' :: rest) first (by omega) closed
    exact readItems_last (skipBlank_chars style first _) read
  | x, y :: items, fuel + 1, rest, whole, enough => by
    obtain ⟨first, others⟩ := (areWhole_cons x (y :: items)).1 whole
    obtain ⟨blanks, comma, blank⟩ := sep.item
    rw [itemChars_cons, comma] at enough ⊢
    simp only [List.length_append, List.length_cons] at enough
    simp only [List.append_assoc, List.cons_append]
    have read := readValue_chars sep x fuel
      (',' :: (blanks ++ (itemChars style (y :: items) ++ ']' :: rest))) first (by omega)
      (stops_cons (by decide) _)
    rw [readItems_next (skipBlank_chars style first _) read, readItems_blanks blank,
      readItems_itemChars sep y items fuel rest others (by omega)]
    rfl

theorem readMembers_memberChars (sep : style.Separates) :
    ∀ (name : String) (x : Json) (members : List (String × Json)) (fuel : Nat) (rest : List Char),
      membersWhole ((name, x) :: members) →
      2 * (memberChars style ((name, x) :: members)).length + 1 < fuel →
      readMembers fuel (memberChars style ((name, x) :: members) ++ '\x7d' :: rest) =
        some ((name, x) :: members, rest)
  | _, _, _, 0, _, _, enough => absurd enough (by omega)
  | name, x, [], fuel + 1, rest, whole, enough => by
    obtain ⟨first, -⟩ := (membersWhole_cons name x []).1 whole
    obtain ⟨blanks, colon, blank⟩ := sep.pair
    rw [memberChars_one, colon] at enough ⊢
    simp only [List.length_append, List.length_cons] at enough
    simp only [List.append_assoc, List.cons_append]
    have closed : Stops ('\x7d' :: rest) := stops_cons (by decide) rest
    have read := readValue_chars sep x fuel ('\x7d' :: rest) first (by omega) closed
    have start : skipBlank (blanks ++ (chars style x ++ '\x7d' :: rest)) = _ :=
      (skipBlank_append blank _).trans (skipBlank_chars style first _)
    exact readMembers_last (by omega) start read
  | name, x, (other, y) :: members, fuel + 1, rest, whole, enough => by
    obtain ⟨first, others⟩ := (membersWhole_cons name x _).1 whole
    obtain ⟨blanks, colon, blank⟩ := sep.pair
    obtain ⟨spaces, comma, space⟩ := sep.item
    rw [memberChars_cons, colon, comma] at enough ⊢
    simp only [List.length_append, List.length_cons] at enough
    simp only [List.append_assoc, List.cons_append]
    have read := readValue_chars sep x fuel
      (',' :: (spaces ++ (memberChars style ((other, y) :: members) ++ '\x7d' :: rest))) first
      (by omega) (stops_cons (by decide) _)
    have start := (skipBlank_append blank _).trans (skipBlank_chars style first
      (',' :: (spaces ++ (memberChars style ((other, y) :: members) ++ '\x7d' :: rest))))
    rw [readMembers_next (by omega) start read, readMembers_blanks space,
      readMembers_memberChars sep other y members fuel rest others (by omega)]
    rfl

end

/-- Writing and reading again changes nothing. -/
theorem parse_render (sep : style.Separates) {v : Json} (whole : isWhole v) :
    parse (v.render style) = some v := by
  have start := skipBlank_chars style whole []
  have read := readValue_chars sep v (2 * (chars style v).length + 2) [] whole (by omega) stops_nil
  rw [List.append_nil] at start read
  rw [parse, render, String.toList_ofList]
  simp only [start, read, Option.bind_eq_bind, Option.bind_some]
  rfl

end Values
end QuoteService.Json
