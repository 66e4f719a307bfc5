import Mathlib.Data.List.Forall2
import Mathlib.Data.List.Induction
import QuoteService.Json.Basic

/-! Members that are put by name: names stay distinct, each where it first came, and members of other
names play no part. -/
namespace QuoteService.Json

section Lookup

variable {α : Type}

theorem lookup_cons_eq (name : String) (m : String × α) (rest : List (String × α)) :
    (m :: rest).lookup name = if name = m.1 then some m.2 else rest.lookup name := by
  rw [List.lookup_cons]
  by_cases same : name = m.1
  · simp [same]
  · rw [beq_false_of_ne same, if_neg same]

theorem lookup_putMember (name other : String) (value : α) (members : List (String × α)) :
    (putMember name value members).lookup other =
      if other = name then some value else members.lookup other := by
  induction members with
  | nil => exact lookup_cons_eq other (name, value) []
  | cons m rest ih =>
    by_cases first : m.1 = name
    · rw [putMember, if_pos first, lookup_cons_eq, lookup_cons_eq, first]
      by_cases same : other = name <;> simp [same]
    · rw [putMember, if_neg first, lookup_cons_eq, lookup_cons_eq, ih]
      by_cases same : other = name
      · simp [same, Ne.symm first]
      · simp [same]

theorem distinct_concat (members : List (String × α)) (m : String × α) :
    distinct (members ++ [m]) = putMember m.1 m.2 (distinct members) := by
  simp [distinct, List.foldl_append]

/-- The last value of a name is the one that is kept. -/
theorem lookup_distinct (name : String) (members : List (String × α)) :
    (distinct members).lookup name = members.reverse.lookup name := by
  induction members using List.reverseRecOn with
  | nil => rfl
  | append_singleton earlier last ih =>
    rw [distinct_concat, lookup_putMember, ih, List.reverse_append, List.reverse_singleton,
      List.singleton_append, lookup_cons_eq]

/-- A lookup passes over what is left out under other names. -/
theorem lookup_filter {name : String} {p : String → Bool} (kept : p name = true)
    (members : List (String × α)) :
    (members.filter fun m => p m.1).lookup name = members.lookup name := by
  induction members with
  | nil => rfl
  | cons first rest ih =>
    rw [lookup_cons_eq]
    by_cases same : name = first.1
    · rw [List.filter_cons_of_pos (same ▸ kept), lookup_cons_eq, if_pos same, if_pos same]
    · cases keeps : p first.1 <;> simp [keeps, lookup_cons_eq, same, ih]

theorem mem_of_lookup {name : String} {value : α} {members : List (String × α)}
    (found : members.lookup name = some value) : (name, value) ∈ members := by
  induction members with
  | nil => cases found
  | cons first rest ih =>
    rw [lookup_cons_eq] at found
    split at found
    · rename_i same
      obtain rfl := Option.some.inj found
      exact same ▸ List.mem_cons_self
    · exact List.mem_cons_of_mem _ (ih found)

theorem lookup_of_mem {m : String × α} {members : List (String × α)}
    (distinct : (members.map Prod.fst).Nodup) (mem : m ∈ members) :
    members.lookup m.1 = some m.2 := by
  induction members with
  | nil => cases mem
  | cons first rest ih =>
    rw [lookup_cons_eq]
    obtain ⟨fresh, distinct⟩ := List.nodup_cons.1 distinct
    obtain rfl | later := List.mem_cons.1 mem
    · rw [if_pos rfl]
    · have other : m.1 ≠ first.1 := fun same => fresh (same ▸ List.mem_map_of_mem later)
      rw [if_neg other, ih distinct later]

end Lookup

section Names

variable {α : Type} {name : String} {value : α} {m : String × α} {members : List (String × α)}

theorem mem_putMember (mem : m ∈ putMember name value members) : m = (name, value) ∨ m ∈ members := by
  induction members with
  | nil => exact .inl (List.mem_singleton.1 mem)
  | cons first rest ih =>
    unfold putMember at mem
    split at mem
    · obtain new | old := List.mem_cons.1 mem
      · exact .inl new
      · exact .inr (List.mem_cons_of_mem _ old)
    · obtain rfl | later := List.mem_cons.1 mem
      · exact .inr List.mem_cons_self
      · exact (ih later).imp_right (List.mem_cons_of_mem _)

theorem mem_names_putMember {other : String} :
    other ∈ (putMember name value members).map Prod.fst ↔
      other = name ∨ other ∈ members.map Prod.fst := by
  induction members with
  | nil => simp [putMember]
  | cons first rest ih =>
    unfold putMember
    split
    · rename_i same
      simp [same]
    · simp only [List.map_cons, List.mem_cons, ih]
      exact or_left_comm

theorem nodup_putMember (distinct : (members.map Prod.fst).Nodup) :
    ((putMember name value members).map Prod.fst).Nodup := by
  induction members with
  | nil => simp [putMember]
  | cons first rest ih =>
    obtain ⟨fresh, distinct⟩ := List.nodup_cons.1 distinct
    unfold putMember
    split
    · rename_i same
      exact List.nodup_cons.2 ⟨same ▸ fresh, distinct⟩
    · rename_i other
      refine List.nodup_cons.2 ⟨fun mem => ?_, ih distinct⟩
      exact (mem_names_putMember.1 mem).elim other fresh

/-- What is put under a name that is left out is left out. -/
theorem filter_putMember (p : String → Bool) :
    (putMember name value members).filter (fun m => p m.1) =
      if p name then putMember name value (members.filter fun m => p m.1)
      else members.filter fun m => p m.1 := by
  induction members with
  | nil => cases put : p name <;> simp [putMember, put]
  | cons first rest ih =>
    by_cases same : first.1 = name
    · cases put : p name <;> simp [putMember, same, put]
    · rw [putMember, if_neg same]
      cases put : p name <;> cases kept : p first.1 <;> simp [putMember, same, put, kept, ih]

theorem filter_distinct (p : String → Bool) (members : List (String × α)) :
    (distinct members).filter (fun m => p m.1) = distinct (members.filter fun m => p m.1) := by
  induction members using List.reverseRecOn with
  | nil => rfl
  | append_singleton earlier last ih =>
    rw [distinct_concat, filter_putMember, ih, List.filter_append]
    cases kept : p last.1 <;> simp [kept, distinct_concat]

theorem mem_of_mem_distinct (mem : m ∈ distinct members) : m ∈ members := by
  induction members using List.reverseRecOn with
  | nil => exact mem
  | append_singleton earlier last ih =>
    rw [distinct_concat] at mem
    obtain rfl | old := mem_putMember mem
    · exact List.mem_append_right _ List.mem_cons_self
    · exact List.mem_append_left _ (ih old)

theorem nodup_distinct (members : List (String × α)) : ((distinct members).map Prod.fst).Nodup := by
  induction members using List.reverseRecOn with
  | nil => exact List.nodup_nil
  | append_singleton earlier last ih =>
    rw [distinct_concat]
    exact nodup_putMember ih

/-- Members of one name are all replaced by the last of them. -/
theorem distinct_alike (alike : ∀ m ∈ members, m.1 = name) :
    distinct members = members.getLast?.toList := by
  induction members using List.reverseRecOn with
  | nil => rfl
  | append_singleton earlier last ih =>
    have before := fun m mem => alike m (List.mem_append_left _ mem)
    rw [distinct_concat, ih before, List.getLast?_concat]
    cases found : earlier.getLast? with
    | none => rfl
    | some m =>
      have same : m.1 = last.1 :=
        (before m (List.mem_of_getLast? found)).trans (alike last (by simp)).symm
      simp [putMember, same]

end Names

section Relation

variable {α β : Type} {R : String × α → String × β → Prop}

theorem rel_putMember (alike : ∀ m n, R m n → m.1 = n.1) {name : String} {a : α} {b : β}
    (put : R (name, a) (name, b)) {members : List (String × α)} {others : List (String × β)}
    (related : List.Forall₂ R members others) :
    List.Forall₂ R (putMember name a members) (putMember name b others) := by
  induction related with
  | nil => exact .cons put .nil
  | cons first rest ih =>
    unfold putMember
    rw [alike _ _ first]
    split
    · exact .cons put rest
    · exact .cons first ih

theorem rel_distinct (alike : ∀ m n, R m n → m.1 = n.1) {members : List (String × α)}
    {others : List (String × β)} (related : List.Forall₂ R members others) :
    List.Forall₂ R (distinct members) (distinct others) := by
  refine List.rel_foldl (fun _ _ known m n put => ?_) .nil related
  obtain ⟨name, a⟩ := m
  obtain ⟨_, b⟩ := n
  obtain rfl : name = _ := alike _ _ put
  exact rel_putMember alike put known

theorem rel_getLast? {members : List (String × α)} {others : List (String × β)}
    (related : List.Forall₂ R members others) :
    Option.Rel R members.getLast? others.getLast? := by
  have reversed := List.forall₂_reverse_iff.2 related
  rw [List.getLast?_eq_head?_reverse, List.getLast?_eq_head?_reverse]
  generalize members.reverse = members at reversed
  generalize others.reverse = others at reversed
  cases reversed with
  | nil => exact .none
  | cons last _ => exact .some last

end Relation

end QuoteService.Json
