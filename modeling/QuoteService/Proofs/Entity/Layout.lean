import Mathlib.Tactic.Common
import QuoteService.Entity.Check

/-! The published layout of entities: which members an object has, in which order, and what each holds.
Every entity is written in its layout, and checking what was written gives it back. -/
namespace QuoteService

/-- What a value looks like. An object of a layout has the members it names, in its order, and no
others. -/
inductive Layout where
  | integer
  | text
  | list (items : Layout)
  | record (fields : List (String × Layout))

namespace Layout

mutual

def Fits : Layout → Json → Prop
  | .integer, v => ∃ n, v = .integer n
  | .text, v => ∃ s, v = .string s
  | .list items, v => ∃ xs, v = .array xs ∧ ∀ x ∈ xs, items.Fits x
  | .record fields, v => ∃ members, v = .object members ∧ FitsMembers fields members

def FitsMembers : List (String × Layout) → List (String × Json) → Prop
  | [], members => members = []
  | (name, layout) :: fields, members =>
    ∃ x rest, members = (name, x) :: rest ∧ layout.Fits x ∧ FitsMembers fields rest

end

end Layout

namespace Json

mutual

/-- Whether null stands anywhere in a value. -/
def holdsNull : Json → Bool
  | .null => true
  | .array items => anyHoldsNull items
  | .object members => memberHoldsNull members
  | _ => false

def anyHoldsNull : List Json → Bool
  | [] => false
  | x :: rest => holdsNull x || anyHoldsNull rest

def memberHoldsNull : List (String × Json) → Bool
  | [] => false
  | (_, x) :: rest => holdsNull x || memberHoldsNull rest

end

theorem anyHoldsNull_eq_false {items : List Json} (h : ∀ x ∈ items, x.holdsNull = false) :
    anyHoldsNull items = false := by
  induction items with
  | nil => rfl
  | cons x rest ih =>
    rw [anyHoldsNull, h x (by simp), ih fun y mem => h y (by simp [mem])]
    rfl

end Json

namespace Layout

mutual

/-- No layout leaves room for null. -/
theorem Fits.noNull : ∀ {layout : Layout} {v : Json}, layout.Fits v → v.holdsNull = false
  | .integer, _, h => by
    obtain ⟨n, rfl⟩ := h
    rfl
  | .text, _, h => by
    obtain ⟨s, rfl⟩ := h
    rfl
  | .list items, _, h => by
    obtain ⟨xs, rfl, each⟩ := h
    rw [Json.holdsNull]
    exact Json.anyHoldsNull_eq_false fun x mem => (each x mem).noNull
  | .record fields, _, h => by
    obtain ⟨members, rfl, each⟩ := h
    rw [Json.holdsNull]
    exact FitsMembers.noNull each

theorem FitsMembers.noNull : ∀ {fields : List (String × Layout)} {members : List (String × Json)},
    FitsMembers fields members → Json.memberHoldsNull members = false
  | [], _, h => by
    subst h
    rfl
  | (name, layout) :: fields, _, h => by
    obtain ⟨x, rest, rfl, first, others⟩ := h
    rw [Json.memberHoldsNull, first.noNull, others.noNull]
    rfl

end

def author : Layout :=
  .record [("id", .integer), ("avatar_url", .text), ("name", .text), ("company", .text),
    ("twitter_username", .text)]

def tag : Layout := .record [("id", .integer), ("label", .text)]

def quote : Layout :=
  .record [("id", .integer), ("post_id", .text), ("author", author), ("content", .text),
    ("permalink", .text), ("picture_url", .text), ("tags", .list tag)]

def errorBody : Layout := .record [("error", .text), ("code", .integer)]

theorem author_fits (a : Author) : author.Fits a.toJson := by
  simp [author, Author.toJson, Fits, FitsMembers]

theorem tag_fits (x : Tag) : tag.Fits x.toJson := by
  simp [tag, Tag.toJson, Fits, FitsMembers]

theorem quote_fits (q : Quote) : quote.Fits q.toJson := by
  simp [quote, Quote.toJson, Fits, FitsMembers, author_fits, tag_fits]

theorem errorBody_fits (e : ErrorBody) : errorBody.Fits e.toJson := by
  simp [errorBody, ErrorBody.toJson, Fits, FitsMembers]

end Layout

section Checks

theorem check_toJson_author (a : Author) : Author.check a.toJson = .ok a := rfl

theorem check_toJson_tag (x : Tag) : Tag.check x.toJson = .ok x := rfl

theorem check_toJson_errorBody (e : ErrorBody) : ErrorBody.check e.toJson = .ok e := rfl

/-- Items that are given back one by one are given back as a list. -/
theorem itemsFrom_map {α : Type} {check : Json → Checked α} {write : α → Json}
    (h : ∀ a, check (write a) = .ok a) (position : Nat) (items : List α) :
    Check.itemsFrom check position (items.map write) = .ok items := by
  induction items generalizing position with
  | nil => rfl
  | cons a rest ih =>
    rw [List.map_cons, Check.itemsFrom, h, ih]
    rfl

theorem check_toJson_quote (q : Quote) : Quote.check q.toJson = .ok q := by
  have tags : Check.list Tag.check (.array (q.tags.map Tag.toJson)) = .ok q.tags :=
    itemsFrom_map check_toJson_tag 0 q.tags
  -- all members but the last are checked as they stand
  change Checked.and (.ok fun tags => { q with tags })
    (Checked.under (.member "tags") (Check.list Tag.check (.array (q.tags.map Tag.toJson)))) = _
  rw [tags]
  rfl

end Checks
end QuoteService
