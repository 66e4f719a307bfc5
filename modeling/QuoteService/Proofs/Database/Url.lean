import Mathlib.Data.List.Basic
import QuoteService.Database.Url

/-! URLs that name their driver. One that leaves it open gets a scheme that does not, in the place of its
own; nothing else is touched. -/
namespace QuoteService.DatabaseUrl

/-- Schemes that leave the driver open are not left. -/
theorem not_plain_withAsyncDriver (url : String) :
    ∀ scheme ∈ plainSchemes, ¬ scheme.toList <+: (withAsyncDriver url).toList := by
  intro scheme plain
  unfold withAsyncDriver
  cases found : plainSchemes.findSome? fun scheme => scheme.toList.isPrefixOf? url.toList with
  | some rest =>
    simp only [String.toList_append, String.toList_ofList]
    simp only [plainSchemes, List.mem_cons, List.not_mem_nil, or_false] at plain
    obtain rfl | rfl := plain <;> simp [asyncScheme, List.cons_prefix_cons]
  | none =>
    have other := List.findSome?_eq_none_iff.1 found scheme plain
    rintro ⟨rest, same⟩
    exact absurd (List.isPrefixOf?_eq_some_iff_append_eq.2 same) (by simp [other])

/-- A URL that names its driver is kept. -/
theorem withAsyncDriver_of_driver {url : String}
    (driver : ∀ scheme ∈ plainSchemes, ¬ scheme.toList <+: url.toList) : withAsyncDriver url = url := by
  have none : plainSchemes.findSome? (fun scheme => scheme.toList.isPrefixOf? url.toList) = none := by
    rw [List.findSome?_eq_none_iff]
    intro scheme plain
    rw [Option.eq_none_iff_forall_ne_some]
    exact fun rest same =>
      driver scheme plain ⟨rest, List.isPrefixOf?_eq_some_iff_append_eq.1 same⟩
  rw [withAsyncDriver, none]

/-- The schemes of PostgreSQL URLs: those that leave the driver open, and the one that names it. -/
def postgresSchemes : List String := ["postgres://", "postgresql://", "postgresql+asyncpg://"]

/-- The same URL, but for which of these schemes it starts with. -/
def SameButScheme (url other : String) : Prop :=
  url = other ∨ ∃ rest, ∃ scheme ∈ postgresSchemes, ∃ another ∈ postgresSchemes,
    url = scheme ++ rest ∧ other = another ++ rest

/-- A text with a part replaced where it first occurs. -/
def IsReplacedOnce (part new text result : String) : Prop :=
  ∃ before after, text = before ++ part ++ after ∧ result = before ++ new ++ after ∧
    ∀ earlier rest, text = earlier ++ part ++ rest → before.length ≤ earlier.length

theorem startsWith_iff {scheme url : String} :
    scheme.toList <+: url.toList ↔ ∃ rest, url = scheme ++ rest := by
  constructor
  · rintro ⟨rest, same⟩
    refine ⟨String.ofList rest, ?_⟩
    rw [← String.toList_inj, String.toList_append, String.toList_ofList, same]
  · rintro ⟨rest, rfl⟩
    exact ⟨rest.toList, String.toList_append.symm⟩

/-- A part that a text starts with first occurs there, wherever else it does. -/
theorem isReplacedOnce_front {part new rest result : String} :
    IsReplacedOnce part new (part ++ rest) result ↔ result = new ++ rest := by
  constructor
  · rintro ⟨before, after, split, rfl, first⟩
    have front : before.length ≤ "".length := first "" rest (by rw [String.empty_append])
    obtain rfl : before = "" := String.length_eq_zero_iff.1 (Nat.le_zero.1 front)
    rw [String.empty_append, String.append_right_inj] at split
    rw [String.empty_append, split]
  · rintro rfl
    exact ⟨"", rest, by rw [String.empty_append], by rw [String.empty_append],
      fun _ _ _ => Nat.zero_le _⟩

section Schemes

variable {scheme : String}

/-- A scheme that leaves the driver open is exchanged; what follows it stays. -/
theorem withAsyncDriver_plain (plain : scheme ∈ plainSchemes) (rest : String) :
    withAsyncDriver (scheme ++ rest) = asyncScheme ++ rest := by
  simp only [plainSchemes, List.mem_cons, List.not_mem_nil, or_false] at plain
  obtain rfl | rfl := plain
  · simp [withAsyncDriver, plainSchemes, String.toList_append, List.isPrefixOf?]
  · simp [withAsyncDriver, plainSchemes, String.toList_append, List.isPrefixOf?]

theorem withAsyncDriver_postgres (listed : scheme ∈ postgresSchemes) (rest : String) :
    withAsyncDriver (scheme ++ rest) = asyncScheme ++ rest := by
  simp only [postgresSchemes, List.mem_cons, List.not_mem_nil, or_false] at listed
  obtain rfl | rfl | rfl := listed
  · exact withAsyncDriver_plain (by decide) rest
  · exact withAsyncDriver_plain (by decide) rest
  · have driven := not_plain_withAsyncDriver ("postgres://" ++ rest)
    rw [withAsyncDriver_plain (by decide)] at driven
    exact withAsyncDriver_of_driver driven

theorem plain_or_kept (url : String) :
    (∃ scheme ∈ plainSchemes, ∃ rest, url = scheme ++ rest) ∨ withAsyncDriver url = url := by
  by_cases plain : ∃ scheme ∈ plainSchemes, scheme.toList <+: url.toList
  · obtain ⟨scheme, mem, starts⟩ := plain
    exact .inl ⟨scheme, mem, startsWith_iff.1 starts⟩
  · refine .inr (withAsyncDriver_of_driver fun scheme mem starts => ?_)
    exact plain ⟨scheme, mem, starts⟩

end Schemes

/-- URLs with one image differ in their schemes at most. -/
theorem withAsyncDriver_eq_iff {url other : String} :
    withAsyncDriver url = withAsyncDriver other ↔ SameButScheme url other := by
  have listed : ∀ scheme ∈ plainSchemes, scheme ∈ postgresSchemes := by decide
  have driven : asyncScheme ∈ postgresSchemes := by decide
  constructor
  · intro same
    obtain ⟨scheme, plain, rest, rfl⟩ | kept := plain_or_kept url
    · rw [withAsyncDriver_plain plain] at same
      obtain ⟨another, plain', rest', rfl⟩ | kept' := plain_or_kept other
      · rw [withAsyncDriver_plain plain', String.append_right_inj] at same
        exact .inr ⟨rest, scheme, listed _ plain, another, listed _ plain', rfl, by rw [same]⟩
      · rw [kept'] at same
        exact .inr ⟨rest, scheme, listed _ plain, asyncScheme, driven, rfl, same.symm⟩
    · rw [kept] at same
      obtain ⟨another, plain', rest', rfl⟩ | kept' := plain_or_kept other
      · rw [withAsyncDriver_plain plain'] at same
        exact .inr ⟨rest', asyncScheme, driven, another, listed _ plain', same, rfl⟩
      · exact .inl (same.trans kept')
  · rintro (rfl | ⟨rest, scheme, mem, another, mem', rfl, rfl⟩)
    · rfl
    · rw [withAsyncDriver_postgres mem, withAsyncDriver_postgres mem']

/-- A URL that starts with an open scheme has it replaced where it first occurs, which is at the
front, and keeps all else, the same text included; other URLs are kept. No open scheme is left, a
second time changes nothing, and URLs with one image are the same but for their schemes. -/
theorem withAsyncDriver_rewrites :
    (∀ scheme ∈ ["postgres://", "postgresql://"], ∀ rest : String,
      withAsyncDriver (scheme ++ rest) = "postgresql+asyncpg://" ++ rest ∧
      ∀ result, IsReplacedOnce scheme "postgresql+asyncpg://" (scheme ++ rest) result ↔
        result = withAsyncDriver (scheme ++ rest)) ∧
    ∀ url : String,
      ((∀ scheme ∈ ["postgres://", "postgresql://"], ¬ scheme.toList <+: url.toList) →
        withAsyncDriver url = url) ∧
      (∀ scheme ∈ ["postgres://", "postgresql://"],
        ¬ scheme.toList <+: (withAsyncDriver url).toList) ∧
      withAsyncDriver (withAsyncDriver url) = withAsyncDriver url ∧
      ∀ other, withAsyncDriver url = withAsyncDriver other ↔ SameButScheme url other := by
  refine ⟨fun scheme plain rest => ?_, fun url => ⟨withAsyncDriver_of_driver,
    not_plain_withAsyncDriver url, ?_, fun other => withAsyncDriver_eq_iff⟩⟩
  · have exchanged := withAsyncDriver_plain plain rest
    refine ⟨exchanged, fun result => ?_⟩
    rw [exchanged]
    exact isReplacedOnce_front
  · exact withAsyncDriver_of_driver (not_plain_withAsyncDriver url)

/-- A password that is itself a scheme, and a URL that starts with a blank. -/
theorem withAsyncDriver_rewrites_repeated :
    withAsyncDriver "postgresql://ada:postgres://@db/postgresql://" =
        "postgresql+asyncpg://ada:postgres://@db/postgresql://" ∧
      (∀ scheme ∈ ["postgres://", "postgresql://"], ¬ scheme.toList <+: " postgres://db".toList) ∧
      withAsyncDriver " postgres://db" = " postgres://db" ∧
      withAsyncDriver "postgres://db" = withAsyncDriver "postgresql+asyncpg://db" := by
  obtain ⟨exchanged, law⟩ := withAsyncDriver_rewrites
  have blank : ∀ scheme ∈ ["postgres://", "postgresql://"],
      ¬ scheme.toList <+: " postgres://db".toList := by
    decide
  refine ⟨?_, blank, (law " postgres://db").1 blank, ?_⟩
  · exact (exchanged "postgresql://" (by decide) "ada:postgres://@db/postgresql://").1
  · refine ((law "postgres://db").2.2.2 "postgresql+asyncpg://db").2 (.inr ?_)
    exact ⟨"db", "postgres://", by decide, "postgresql+asyncpg://", by decide, rfl, rfl⟩

end QuoteService.DatabaseUrl
