import QuoteService.Log.Root

/-! What a record shows of itself. -/
namespace QuoteService.Log.Record

/-- Everything a log line is made of, but for the time and the failure. -/
structure Shows (r : Record) (level : Level) (logger message : String)
    (fields : List (String × Json)) : Prop where
  level : r.level = level
  logger : r.logger = logger
  message : r.message = .ok message
  fields : r.fields = fields

theorem plain_shows (level : Level) (logger message : String) :
    (plain level logger message).Shows level logger message [] :=
  ⟨rfl, rfl, rfl, rfl⟩

theorem Shows.passes {r : Record} {level : Level} {logger message : String}
    {fields : List (String × Json)} (h : r.Shows level logger message fields)
    (set : 0 < level.number) {root : Root} (low : root.level ≤ level.number) : root.passes r := by
  simp [Root.passes, h.level, set, low]

end QuoteService.Log.Record
