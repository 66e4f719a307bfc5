import Mathlib.Data.List.Forall2
import QuoteService.Proofs.Entity.Layout
import QuoteService.Proofs.Http.Rendering
import QuoteService.Proofs.Json.Lexemes

/-! Entities on the wire. What a payload of entities is encoded to is one line of compact JSON in the
published layout, and tells the entities apart: they are read back from it. -/
namespace QuoteService

/-- An entity of one of the kinds that are written out. -/
inductive Entity where
  | author (author : Author)
  | tag (tag : Tag)
  | quote (quote : Quote)
  | errorBody (error : ErrorBody)

namespace Entity

inductive Kind where
  | author
  | tag
  | quote
  | errorBody

/-- The published layout of a kind. -/
def Kind.layout : Kind → Layout
  | .author => .author
  | .tag => .tag
  | .quote => .quote
  | .errorBody => .errorBody

/-- Checks a value as an entity of a kind. -/
def Kind.check : Kind → Json → Checked Entity
  | .author, v => (Author.check v).map .author
  | .tag, v => (Tag.check v).map .tag
  | .quote, v => (Quote.check v).map .quote
  | .errorBody, v => (ErrorBody.check v).map .errorBody

def kind : Entity → Kind
  | .author _ => .author
  | .tag _ => .tag
  | .quote _ => .quote
  | .errorBody _ => .errorBody

def toJson : Entity → Json
  | .author a => a.toJson
  | .tag x => x.toJson
  | .quote q => q.toJson
  | .errorBody e => e.toJson

/-- Its numbers, in the order of their members. -/
def integers : Entity → List Int
  | .author a => [a.id]
  | .tag x => [x.id]
  | .quote q => q.id :: q.author.id :: q.tags.map Tag.id
  | .errorBody e => [e.code]

theorem integers_toJson (e : Entity) : e.toJson.integers = e.integers := by
  cases e with
  | author | tag | errorBody => rfl
  | quote q =>
    have tags : Json.itemIntegers (q.tags.map Tag.toJson) = q.tags.map Tag.id := by
      induction q.tags with
      | nil => rfl
      | cons x rest ih => rw [List.map_cons, Json.itemIntegers, ih, List.map_cons]; rfl
    simp only [toJson, Quote.toJson, Author.toJson, Json.integers, Json.memberIntegers, tags, integers,
      List.append_nil, List.nil_append, List.cons_append]

open Http in
def payload : Entity → Payload
  | .author a => .ofAuthor a
  | .tag x => .ofTag x
  | .quote q => .ofQuote q
  | .errorBody e => .ofErrorBody e

theorem fits (e : Entity) : e.kind.layout.Fits e.toJson := by
  cases e with
  | author a => exact Layout.author_fits a
  | tag x => exact Layout.tag_fits x
  | quote q => exact Layout.quote_fits q
  | errorBody b => exact Layout.errorBody_fits b

theorem check_toJson (e : Entity) : e.kind.check e.toJson = .ok e := by
  cases e with
  | author a => exact congrArg (Except.map Entity.author) (check_toJson_author a)
  | tag x => exact congrArg (Except.map Entity.tag) (check_toJson_tag x)
  | quote q => exact congrArg (Except.map Entity.quote) (check_toJson_quote q)
  | errorBody b => exact congrArg (Except.map Entity.errorBody) (check_toJson_errorBody b)

/-- The names of its members tell the kind of an entity. -/
theorem kind_eq_of_toJson {e f : Entity} (same : e.toJson = f.toJson) : e.kind = f.kind := by
  revert same
  cases e <;> cases f <;>
    simp [kind, toJson, Author.toJson, Tag.toJson, Quote.toJson, ErrorBody.toJson]

theorem toJson_injective {e f : Entity} (same : e.toJson = f.toJson) : e = f := by
  have read := f.check_toJson
  rw [← same, ← kind_eq_of_toJson same, check_toJson] at read
  exact Except.ok.inj read

theorem toJson_ne_array (e : Entity) (items : List Json) : e.toJson ≠ .array items := by
  cases e <;> exact fun same => by cases same

open Http in
theorem isJson_payload (e : Entity) : e.payload.IsJson e.toJson := by
  cases e with
  | author a => exact Payload.isJson_author a
  | tag x => exact Payload.isJson_tag x
  | quote q => exact Payload.isJson_quote q
  | errorBody b => exact ⟨rfl, rfl⟩

end Entity

namespace Http
open Text

/-- What is encoded at once: an entity, or a list of entities of any kinds. -/
inductive Content where
  | one (entity : Entity)
  | list (entities : List Entity)

namespace Content

def payload : Content → Payload
  | .one e => e.payload
  | .list es => .list (es.map Entity.payload)

def toJson : Content → Json
  | .one e => e.toJson
  | .list es => .array (es.map Entity.toJson)

/-- The numbers of all its entities. -/
def integers : Content → List Int
  | .one e => e.integers
  | .list es => es.flatMap Entity.integers

theorem integers_toJson (c : Content) : c.toJson.integers = c.integers := by
  cases c with
  | one e => exact e.integers_toJson
  | list es =>
    rw [toJson, Json.integers, integers]
    induction es with
    | nil => rfl
    | cons e rest ih =>
      rw [List.map_cons, Json.itemIntegers, e.integers_toJson, ih, List.flatMap_cons]

/-- A content and a value match under a relation if its entities do, one by one. -/
def Matches (rel : Entity → Json → Prop) : Content → Json → Prop
  | .one e, v => rel e v
  | .list es, v => ∃ xs, v = .array xs ∧ List.Forall₂ rel es xs

theorem matches_toJson {rel : Entity → Json → Prop} (h : ∀ e, rel e e.toJson) (c : Content) :
    c.Matches rel c.toJson := by
  cases c with
  | one e => exact h e
  | list es => exact ⟨_, rfl, List.forall₂_map_right_iff.2 (List.forall₂_same.2 fun e _ => h e)⟩

theorem noNull (c : Content) : c.toJson.holdsNull = false := by
  cases c with
  | one e => exact e.fits.noNull
  | list es =>
    rw [toJson, Json.holdsNull]
    refine Json.anyHoldsNull_eq_false fun x mem => ?_
    obtain ⟨e, -, rfl⟩ := List.mem_map.1 mem
    exact e.fits.noNull

theorem isJson_payload (c : Content) : c.payload.IsJson c.toJson := by
  cases c with
  | one e => exact e.isJson_payload
  | list es => exact Payload.isJson_list Entity.isJson_payload es

theorem toJson_injective {c d : Content} (same : c.toJson = d.toJson) : c = d := by
  cases c with
  | one e =>
    cases d with
    | one f => exact congrArg one (Entity.toJson_injective same)
    | list fs => exact absurd same (e.toJson_ne_array _)
  | list es =>
    cases d with
    | one f => exact absurd same.symm (f.toJson_ne_array _)
    | list fs =>
      have items : es.map Entity.toJson = fs.map Entity.toJson := Json.array.inj same
      exact congrArg list (List.map_injective_iff.2 (fun _ _ => Entity.toJson_injective) items)

/-- Every content whose numbers have no more than 4300 digits is encoded: to one line without blanks
between its parts, which is read as a value without null in the published layout, and from which every
entity is checked to be what it was. No other content has the same text. -/
theorem encode_roundTrip (c : Content) (short : Json.AreShort c.integers) :
    ∃ text v, c.payload.encode = .ok text ∧
      (∀ char ∈ text.toList, 0x20 ≤ char.toNat) ∧
      (∀ char ∈ Json.outside false text.toList, isWhiteSpace char = false) ∧
      Json.parse text = some v ∧
      v.holdsNull = false ∧
      c.Matches (fun e x => e.kind.layout.Fits x) v ∧
      c.Matches (fun e x => e.kind.check x = .ok e) v ∧
      ∀ d : Content, d.payload.encode = .ok text → d = c := by
  have json := c.isJson_payload
  have written : c.toJson.write .compact .finite = .ok (c.toJson.render .compact) :=
    Json.write_whole json.whole (c.integers_toJson ▸ short)
  have lexed := Json.lexed_chars Json.compact_within json.whole
  have read (d : Content) : Json.parse (d.toJson.render .compact) = some d.toJson :=
    Json.parse_render Json.compact_separates d.isJson_payload.whole
  refine ⟨c.toJson.render .compact, c.toJson, json.encode.trans written, ?_, ?_, read c, ?_,
    c.matches_toJson Entity.fits, c.matches_toJson Entity.check_toJson, fun d encoded => ?_⟩
  · rw [Json.render, String.toList_ofList]
    exact lexed.noControl fun _ mark => mark.plain.1
  · rw [Json.render, String.toList_ofList]
    intro char mem
    exact (lexed.outside (fun _ mark => mark.plain.2.1) char mem).plain.2.2
  · exact c.noNull
  · rw [d.isJson_payload.encode] at encoded
    obtain ⟨-, text⟩ := Json.write_eq_ok.1 encoded
    have same := read d
    rw [← text, read c] at same
    exact (toJson_injective (Option.some.inj same)).symm

/-- A quotation of many lines by an author of two alphabets, listed with its tag and an error. -/
theorem encode_roundTrip_mixed :
    let ada : Author := ⟨1, "", "Ada \x22Ль\x22", "", "ada"⟩
    let c : Content := .list [.quote ⟨5, "p\\", ada, "first\nsecond\x01", "", "", [⟨8, "late"⟩]⟩,
      .tag ⟨8, "late"⟩, .errorBody ⟨"Not Found", 404⟩]
    Json.AreShort c.integers ∧ ∃ text v, c.payload.encode = .ok text ∧
      (∀ char ∈ text.toList, 0x20 ≤ char.toNat) ∧ Json.parse text = some v ∧
      c.Matches (fun e x => e.kind.check x = .ok e) v := by
  intro ada c
  have short : Json.AreShort c.integers := by decide
  obtain ⟨text, v, encoded, plain, -, read, -, -, checked, -⟩ := encode_roundTrip c short
  exact ⟨short, text, v, encoded, plain, read, checked⟩

end Content

end Http
end QuoteService
