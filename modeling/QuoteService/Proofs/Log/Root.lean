import QuoteService.Log.Root

/-! The handler of the service among all handlers. Logging may be set up any number of times, and others
may add and remove handlers in between: no handler of an earlier set-up is left. -/
namespace QuoteService.Log.Root

/-- The handlers of the service. -/
def own (r : Root) : List Handler := r.handlers.filter (·.format.isSome)

/-- No handler of the service is there but the one that it has installed last. -/
def Tidy (r : Root) : Prop := ∀ h ∈ r.own, r.installed = some h.id

section Steps

variable {r : Root}

theorem mem_own {h : Handler} : h ∈ r.own ↔ h ∈ r.handlers ∧ h.format.isSome := List.mem_filter

theorem tidy_initial : initial.Tidy := nofun

theorem own_add (r : Root) : r.add.own = r.own := by
  simp [own, add, List.filter_append]

theorem Tidy.add (tidy : r.Tidy) : r.add.Tidy := by
  intro h mem
  rw [own_add] at mem
  exact tidy h mem

theorem Tidy.remove (tidy : r.Tidy) (id : Nat) : (r.remove id).Tidy := by
  intro h mem
  obtain ⟨left, own⟩ := mem_own.1 mem
  exact tidy h (mem_own.2 ⟨(List.mem_filter.1 left).1, own⟩)

/-- Only the new handler is left after it has been installed. -/
theorem Tidy.own_install (tidy : r.Tidy) (format : Format) :
    (r.install format).own = [⟨r.next, some format⟩] := by
  have none : (r.handlers.filter fun h => some h.id ≠ r.installed).filter (·.format.isSome) = [] := by
    rw [List.filter_eq_nil_iff]
    intro h mem own
    obtain ⟨here, other⟩ := List.mem_filter.1 mem
    have last := tidy h (mem_own.2 ⟨here, own⟩)
    simp [last] at other
  rw [own, install, List.filter_append, none]
  rfl

theorem Tidy.install (tidy : r.Tidy) (format : Format) : (r.install format).Tidy := by
  intro h mem
  rw [tidy.own_install, List.mem_singleton] at mem
  rw [mem]
  rfl

theorem Tidy.own_setup (tidy : r.Tidy) (level format : String) :
    (r.setup level format).1.own = [⟨r.next, some (.ofName format)⟩] := by
  unfold setup
  split <;> exact tidy.own_install _

theorem Tidy.setup (tidy : r.Tidy) (level format : String) : (r.setup level format).1.Tidy := by
  unfold Root.setup
  split <;> exact tidy.install _

theorem level_setup {level : String} {number : Int} (known : levelNumber level = .ok number)
    (format : String) : (r.setup level format).1.level = number := by
  unfold setup
  rw [known]

end Steps

/-- The names of the language's own levels stand for their numbers. -/
theorem levelNumber_name : ∀ l ∈ Level.all, levelNumber l.name = .ok l.number := by
  intro l known
  have capitals : ∀ l ∈ Level.all, Text.upper l.name = l.name := by decide
  have plain : ∀ l ∈ Level.all, notALevel? l.name = none := by decide
  simp only [levelNumber, capitals l known, plain l known, Level.ofName?_name l known]
  rfl

end QuoteService.Log.Root
