import QuoteService.Proofs.Assembly.Failures
import QuoteService.Proofs.Http.Fields
import QuoteService.Proofs.Json.Writing

/-! What is answered with: payloads of entities, and the public parts of errors. Both are written if
their numbers have a text. -/
namespace QuoteService.Http
open Number Text

namespace Response

variable {Cause : Type} {e : ServiceError Cause}

/-- The answer to an error is made of its text, if its status has one. -/
theorem ofError_eq (short : Json.IsShort e.status) (own : List (String × String)) :
    ofError e own = make e.status own (some jsonContentType) (e.body.toJson.render .compact) := by
  have written : e.body.toJson.write .compact .all = .ok (e.body.toJson.render .compact) :=
    Json.write_whole rfl (Json.areShort_singleton.2 short)
  rw [ofError, written]
  rfl

theorem ofError_long (long : ¬ Json.IsShort e.status) (own : List (String × String)) :
    ofError e own = .error Json.tooManyDigits := by
  have refused : Json.refusal? .all e.body.toJson = some Json.tooManyDigits := by
    have code : Json.refusal? .all (.integer e.body.code) = some Json.tooManyDigits :=
      Json.refusal?_long long
    rw [ErrorBody.toJson, Json.refusal?, Json.membersRefusal?, Json.refusal?_string, Option.none_or,
      Json.membersRefusal?, code]
    rfl
  rw [ofError, Json.write_of_refusal? refused]
  rfl

end Response

namespace Payload

/-- A payload that stands for a JSON value with whole numbers alone. -/
structure IsJson (p : Payload) (v : Json) : Prop where
  value : p.toJson = .ok v
  whole : v.isWhole

section Entities

variable {α : Type}

theorem ofItems_map (value : α → Json) (items : List α) :
    ofItems (items.map value) = items.map fun a => ofJson (value a) := by
  induction items with
  | nil => rfl
  | cons a rest ih => rw [List.map_cons, ofItems, ih, List.map_cons]

theorem itemsJson_map {payload : α → Payload} {value : α → Json}
    (h : ∀ a, (payload a).IsJson (value a)) (items : List α) :
    itemsJson (items.map payload) = .ok (items.map value) := by
  induction items with
  | nil => rfl
  | cons a rest ih =>
    rw [List.map_cons, itemsJson, (h a).value, ih]
    rfl

theorem areWhole_map {value : α → Json} (h : ∀ a, (value a).isWhole) (items : List α) :
    Json.areWhole (items.map value) := by
  induction items with
  | nil => rfl
  | cons a rest ih => exact (Json.areWhole_cons _ _).2 ⟨h a, ih⟩

theorem isJson_list {payload : α → Payload} {value : α → Json}
    (h : ∀ a, (payload a).IsJson (value a)) (items : List α) :
    (Payload.list (items.map payload)).IsJson (.array (items.map value)) := by
  constructor
  · rw [toJson, itemsJson_map h]
    rfl
  · rw [Json.isWhole]
    exact areWhole_map (fun a => (h a).whole) items

theorem isJson_author (a : Author) : (ofAuthor a).IsJson a.toJson := ⟨rfl, rfl⟩

theorem isJson_tag (x : Tag) : (ofTag x).IsJson x.toJson := ⟨rfl, rfl⟩

theorem isJson_quote (q : Quote) : (ofQuote q).IsJson q.toJson := by
  have tags : itemsJson (ofItems (q.tags.map Tag.toJson)) = .ok (q.tags.map Tag.toJson) := by
    rw [ofItems_map]
    exact itemsJson_map isJson_tag q.tags
  have author : (ofJson q.author.toJson).toJson = .ok q.author.toJson := (isJson_author _).value
  constructor
  · have names : ∀ name ∈ ["id", "post_id", "author", "content", "permalink", "picture_url", "tags"],
        isInternalName name = false := by decide
    simp only [List.forall_mem_cons] at names
    simp only [ofQuote, Quote.toJson, ofJson, ofMembers, toJson, membersJson, names, author, tags,
      Bool.false_eq_true, if_false]
    rfl
  · have whole := areWhole_map (fun x => (isJson_tag x).whole) q.tags
    simp [Quote.toJson, Json.isWhole, Json.membersWhole, (isJson_author q.author).whole, whole]

end Entities

theorem IsJson.encode {p : Payload} {v : Json} (h : p.IsJson v) :
    p.encode = v.write .compact .finite := by
  rw [Payload.encode, h.value]
  rfl

theorem render_of_encode {p : Payload} {text : String} (encoded : p.encode = .ok text)
    (query : String) :
    p.render query = .ok ⟨200,
      [("content-length", integerText (wrapped (callback? query) text).utf8ByteSize),
        ("content-type", jsonContentType)], wrapped (callback? query) text⟩ := by
  have bodied : Response.isBodiless 200 = false := by decide
  have own : ([] : List (String × String)).mapM (fun h => Header.ofPair h.1 h.2) = .ok [] := rfl
  rw [render, encoded]
  exact Response.make_eq bodied own rfl jsonContentType _

/-- What an answered query gets: the compact text of a value, for its function if it names one. A value
with a number that has no text is not rendered. -/
theorem IsJson.render {p : Payload} {v : Json} (h : p.IsJson v) (query : String) :
    Holds (fun r => r.status = 200 ∧ r.body = wrapped (callback? query) (v.render .compact) ∧
      r.IsMeasured) (fun f => ∃ cause, f = unrendered cause) (p.render query) := by
  cases written : v.write .compact .finite with
  | error cause =>
    rw [Payload.render, h.encode, written]
    exact ⟨cause, rfl⟩
  | ok text =>
    obtain ⟨-, rfl⟩ := Json.write_eq_ok.1 written
    rw [render_of_encode (h.encode.trans written)]
    exact ⟨rfl, rfl, by simp [Response.IsMeasured, Header.values]⟩

end Payload

open Assembly Plan in
/-- The plans of data routes give JSON values. -/
theorem Route.ends_plan? {route : Route} {draw : Draw} {plan : Plan Payload}
    (planned : route.plan? draw = some plan) :
    plan.Ends (fun p => ∃ v, p.IsJson v) Failure.IsExpected := by
  cases route <;> cases planned
  · exact isSafe_randomQuote.bind fun quote _ => ⟨_, Payload.isJson_quote quote⟩
  · rename_i handle
    refine (isSafe_quotesByAuthor (.string handle)).bind fun quotes _ => ?_
    exact ⟨_, Payload.isJson_list Payload.isJson_quote quotes⟩
  · rename_i handle
    refine (isSafe_randomQuoteByAuthor draw (.string handle)).bind fun quote _ => ?_
    exact ⟨_, Payload.isJson_quote quote⟩
  · refine isSafe_allAuthors.bind fun authors _ => ?_
    exact ⟨_, Payload.isJson_list Payload.isJson_author authors⟩
  · refine isSafe_allTags.bind fun tags _ => ?_
    exact ⟨_, Payload.isJson_list Payload.isJson_tag tags⟩

end QuoteService.Http
