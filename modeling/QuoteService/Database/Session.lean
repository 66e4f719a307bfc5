/-! Sessions of a database. What is done with a session stands between its opening and its closing,
whichever way it ends. -/
namespace QuoteService.Session

variable {ε σ α : Type}

/-- A body in a session, with what happens there in order. The session is closed where the body
returns, and where it stops; if the closing stops as well, that hides how the body ended. -/
def bracket (opened closed : ε) (closing : Option σ) (body : Except σ α × List ε) :
    Except σ α × List ε :=
  match body with
  | (.ok value, events) => (closing.elim (.ok value) .error, opened :: events ++ [closed])
  | (.error stop, events) => (.error (closing.getD stop), opened :: events ++ [closed])

variable (opened closed : ε) (closing : Option σ) (body : Except σ α × List ε)

/-- A session is closed on either way out. -/
@[simp] theorem events_bracket :
    (bracket opened closed closing body).2 = opened :: body.2 ++ [closed] := by
  obtain ⟨_ | _, events⟩ := body <;> rfl

@[simp] theorem outcome_bracket : (bracket opened closed (none : Option σ) body).1 = body.1 := by
  obtain ⟨_ | _, events⟩ := body <;> rfl

end QuoteService.Session
