import Mathlib.Data.List.Forall2
import QuoteService.Http.Query
import QuoteService.Proofs.Text.Form
import QuoteService.Proofs.Text.Span

/-! Queries in the form that browsers send: pairs of a name and a value, each written in one of the
many ways of forms. All pairs are read back, and of those with one name the last one counts. -/
namespace QuoteService.Http
open Text

namespace Query

/-- A name and a value, and one way to write them. -/
def IsPair (pair : String × String) (piece : List Char) : Prop :=
  ∃ name value, FormText pair.1.toList name ∧ FormText pair.2.toList value ∧
    piece = name ++ '=' :: value

/-- Pairs, and one way to write them all. -/
def IsForm (pairs : List (String × String)) (query : String) : Prop :=
  ∃ pieces, List.Forall₂ IsPair pairs pieces ∧ query.toList = ['&'].intercalate pieces

/-- The value of the last pair with a name. -/
def lastValue? (name : String) (pairs : List (String × String)) : Option String :=
  ((pairs.filter fun pair => pair.1 == name).getLast?).map Prod.snd

section Splitting

variable {separator : Char}

theorem splitOn_append {part : List Char} (absent : separator ∉ part) (rest : List Char) :
    splitOn separator (part ++ separator :: rest) = part :: splitOn separator rest := by
  induction part with
  | nil => exact if_pos rfl
  | cons c part ih =>
    simp only [List.mem_cons, not_or] at absent
    simp [splitOn, Ne.symm absent.1, ih absent.2]

/-- Pieces without the separator are found again. -/
theorem splitOn_intercalate {pieces : List (List Char)} (absent : ∀ piece ∈ pieces, separator ∉ piece)
    (some : pieces ≠ []) : splitOn separator ([separator].intercalate pieces) = pieces := by
  induction pieces with
  | nil => exact absurd rfl some
  | cons piece rest ih =>
    obtain ⟨first, others⟩ := List.forall_mem_cons.1 absent
    cases rest with
    | nil => rw [List.intercalate_singleton, splitOn_of_notMem first]
    | cons next more =>
      rw [List.intercalate_cons_cons, List.append_assoc, List.singleton_append, splitOn_append first,
        ih others (List.cons_ne_nil next more)]

end Splitting

section Reading

variable {pair : String × String} {pairs : List (String × String)} {piece : List Char}
  {pieces : List (List Char)} {query : String}

/-- What is written for a pair is never empty, is ASCII, and holds no separator of pairs. -/
theorem IsPair.inner (h : IsPair pair piece) : piece ≠ [] ∧ ∀ c ∈ piece, isAscii c ∧ c ≠ '&' := by
  obtain ⟨name, value, named, valued, rfl⟩ := h
  have sign : isAscii '=' ∧ '=' ≠ '&' := by decide
  simp only [List.forall_mem_append, List.forall_mem_cons]
  refine ⟨by simp, fun c mem => ?_, sign, fun c mem => ?_⟩
  · obtain ⟨ascii, noAnd, -⟩ := named.inner c mem
    exact ⟨ascii, noAnd⟩
  · obtain ⟨ascii, noAnd, -⟩ := valued.inner c mem
    exact ⟨ascii, noAnd⟩

theorem inner_of_forall₂ (written : List.Forall₂ IsPair pairs pieces) :
    ∀ piece ∈ pieces, piece ≠ [] ∧ ∀ c ∈ piece, isAscii c ∧ c ≠ '&' := by
  induction written with
  | nil => nofun
  | cons first _ ih => exact List.forall_mem_cons.2 ⟨first.inner, ih⟩

/-- A name has no equals sign, so the first one ends it. -/
theorem IsPair.cut (h : IsPair pair piece) :
    (queryDecode (cutPair piece).1, queryDecode (cutPair piece).2) =
      (pair.1.toList, pair.2.toList) := by
  obtain ⟨name, value, named, valued, rfl⟩ := h
  have inside : ∀ c ∈ name, (c != '=') = true := by
    intro c mem
    simpa using (named.inner c mem).2.2
  have stop : ∀ c, ('=' :: value).head? = some c → (c != '=') = false := by simp
  rw [cutPair, takeWhile_append_stop inside stop, dropWhile_append_stop inside stop,
    List.drop_one, List.tail_cons, named.decode, valued.decode]

/-- A query in ASCII arrives as it was sent. -/
theorem received_ascii (ascii : ∀ c ∈ query.toList, isAscii c) : received query = query.toList := by
  rw [received]
  generalize query.toList = cs at ascii
  induction cs with
  | nil => rfl
  | cons c rest ih =>
    obtain ⟨first, others⟩ := List.forall_mem_cons.1 ascii
    have small : c.toNat < 0x100 := by
      have : c.toNat < 0x80 := by simpa [isAscii] using first
      omega
    have alone : encodeUtf8 (c :: rest) = UInt8.ofNat c.toNat :: encodeUtf8 rest := by
      rw [encodeUtf8, List.flatMap_cons, utf8EncodeChar_ascii first]
      rfl
    have same : decodeLatin1 (UInt8.ofNat c.toNat :: encodeUtf8 rest) =
        Char.ofNat (UInt8.ofNat c.toNat).toNat :: decodeLatin1 (encodeUtf8 rest) := rfl
    rw [alone, same, ih others, toNat_byte small, c.ofNat_toNat]

theorem intercalate_ascii (ascii : ∀ piece ∈ pieces, ∀ c ∈ piece, isAscii c) :
    ∀ c ∈ ['&'].intercalate pieces, isAscii c := by
  induction pieces with
  | nil => nofun
  | cons piece rest ih =>
    obtain ⟨first, others⟩ := List.forall_mem_cons.1 ascii
    cases rest with
    | nil => rwa [List.intercalate_singleton]
    | cons next more =>
      have sign : ∀ c ∈ ['&'], isAscii c := List.all_eq_true.1 (by decide)
      rw [List.intercalate_cons_cons]
      simp only [List.forall_mem_append]
      exact ⟨⟨first, sign⟩, ih others⟩

/-- The pieces are found again; those of no pair at all are none. -/
theorem pieces_intercalate (inner : ∀ piece ∈ pieces, piece ≠ [] ∧ '&' ∉ piece) :
    (splitOn '&' (['&'].intercalate pieces)).filter (fun piece => !piece.isEmpty) = pieces := by
  by_cases some : pieces = []
  · subst some
    rfl
  · rw [splitOn_intercalate (fun piece mem => (inner piece mem).2) some, List.filter_eq_self]
    intro piece mem
    simpa using (inner piece mem).1

/-- However it is written, a list of pairs is read back. -/
theorem pairs_form (h : IsForm pairs query) :
    Query.pairs query = pairs.map fun pair => (pair.1.toList, pair.2.toList) := by
  obtain ⟨pieces, written, text⟩ := h
  have inner := inner_of_forall₂ written
  have ascii : ∀ c ∈ query.toList, isAscii c := by
    rw [text]
    exact intercalate_ascii fun piece mem c inside => ((inner piece mem).2 c inside).1
  have apart : ∀ piece ∈ pieces, piece ≠ [] ∧ '&' ∉ piece := fun piece mem =>
    ⟨(inner piece mem).1, fun inside => ((inner piece mem).2 _ inside).2 rfl⟩
  rw [Query.pairs, received_ascii ascii, text, pieces_intercalate apart]
  clear text inner ascii apart
  induction written with
  | nil => rfl
  | cons first _ ih => rw [List.map_cons, List.map_cons, first.cut, ih]

/-- Looking a name up from the end finds the last pair with it. -/
theorem lookup_reverse (name : String) (pairs : List (String × String)) :
    (pairs.map fun pair => (pair.1.toList, pair.2.toList)).reverse.lookup name.toList =
      (lastValue? name pairs).map String.toList := by
  induction pairs with
  | nil => rfl
  | cons pair rest ih =>
    have same : (name.toList == pair.1.toList) = (pair.1 == name) := by
      rw [Bool.eq_iff_iff, beq_iff_eq, beq_iff_eq, String.toList_inj, eq_comm]
    rw [List.map_cons, List.reverse_cons, List.lookup_append, ih, lastValue?, lastValue?,
      List.filter_cons, List.lookup_cons, same]
    by_cases named : pair.1 == name
    · simp only [named, if_true, List.getLast?_cons, Option.map_some]
      cases (rest.filter fun pair => pair.1 == name).getLast? <;> rfl
    · simp only [named, Bool.false_eq_true, if_false, List.lookup_nil, Option.or_none]

theorem value?_form (h : IsForm pairs query) (name : String) :
    Query.value? query name = (lastValue? name pairs).map String.toList := by
  rw [Query.value?, pairs_form h, lookup_reverse]

end Reading

section Writing

/-- One way to write pairs: all but letters and digits is escaped. -/
def escapedPair (pair : String × String) : List Char :=
  percentEncode Char.isAlphanum pair.1.toList ++ '=' :: percentEncode Char.isAlphanum pair.2.toList

theorem isForm_escaped (pairs : List (String × String)) :
    IsForm pairs (String.ofList (['&'].intercalate (pairs.map escapedPair))) := by
  have plain (c : Char) (letter : c.isAlphanum) : isFormChar c := isFormChar_of_isAlphanum letter
  refine ⟨pairs.map escapedPair, ?_, String.toList_ofList⟩
  rw [List.forall₂_map_right_iff, List.forall₂_same]
  intro pair _
  exact ⟨_, _, formText_percentEncode plain _, formText_percentEncode plain _, rfl⟩

end Writing

end Query

open Query

/-- An empty value counts as none. -/
theorem callback?_eq (query : String) :
    callback? query = (((value? query "callback").filter (· ≠ [])).or
      ((value? query "jsonp").filter (· ≠ []))).map String.ofList := by
  unfold callback?
  obtain _ | _ | ⟨c, cs⟩ := value? query "callback"
  all_goals obtain _ | _ | ⟨d, ds⟩ := value? query "jsonp"
  all_goals rfl

theorem filter_toList (value : Option String) :
    (value.map String.toList).filter (· ≠ []) = (value.filter (· ≠ "")).map String.toList := by
  cases value with
  | none => rfl
  | some text => by_cases empty : text = "" <;> simp [Option.filter, empty]

/-- Every list of pairs can be written as a query, and however it is written, the function that it asks
for is the last value of `callback`, or the last one of `jsonp` if that is missing or empty. -/
theorem callback?_form (pairs : List (String × String)) :
    (∃ query, IsForm pairs query) ∧
      ∀ query, IsForm pairs query →
        callback? query = ((lastValue? "callback" pairs).filter (· ≠ "")).or
          ((lastValue? "jsonp" pairs).filter (· ≠ "")) := by
  refine ⟨⟨_, isForm_escaped pairs⟩, fun query form => ?_⟩
  rw [callback?_eq, value?_form form, value?_form form, filter_toList, filter_toList,
    ← Option.map_or, Option.map_map]
  have same : String.ofList ∘ String.toList = id := funext fun _ => String.ofList_toList
  rw [same, Option.map_id_fun, id]

/-- An empty value hides a name before it, and the next best name is written in mixed ways. -/
theorem callback?_form_hidden :
    let pairs := [("callback", "f"), ("jsonp", "é +"), ("callback", "")]
    let query := "callback=f&jsonp=%C3%a9+%2B&c%61llback="
    IsForm pairs query ∧ callback? query = some "é +" := by
  intro pairs query
  have callback : FormText "callback".toList "callback".toList := formText_plain (by decide)
  have letter : Escapes (String.utf8EncodeChar 'a') "%61".toList := .cons rfl rfl .nil
  have rest : FormText "llback".toList "llback".toList := formText_plain (by decide)
  have spelled : FormText "callback".toList "c%61llback".toList := .plain rfl (.escaped letter rest)
  have jsonp : FormText "jsonp".toList "jsonp".toList := formText_plain (by decide)
  have accent : Escapes (String.utf8EncodeChar 'é') "%C3%a9".toList :=
    .cons rfl rfl (.cons rfl rfl .nil)
  have plus : Escapes (String.utf8EncodeChar '+') "%2B".toList := .cons rfl rfl .nil
  have mixed : FormText "é +".toList "%C3%a9+%2B".toList :=
    .escaped accent (.blank (.escaped plus .nil))
  have form : IsForm pairs query := by
    refine ⟨_, .cons ⟨_, _, callback, formText_plain (by decide), rfl⟩
      (.cons ⟨_, _, jsonp, mixed, rfl⟩ (.cons ⟨_, _, spelled, .nil, rfl⟩ .nil)), ?_⟩
    decide
  exact ⟨form, (callback?_form pairs).2 query form⟩

end QuoteService.Http
