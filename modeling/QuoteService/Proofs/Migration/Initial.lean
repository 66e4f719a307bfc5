import Mathlib.Data.List.Infix
import QuoteService.Migration.Initial
import QuoteService.Schema.Declared

/-! The first revision, in a database that has other tables. A statement that uses no name of a catalog
works beside it as it works alone, so the revision adds to every such catalog what it makes of an empty
one: the tables that are declared. The way back takes these away again. An engine may compare names in
its own way, as long as that keeps the names of the revision apart. -/
namespace QuoteService

namespace Schema.Catalog

variable {c d : Catalog} {naming : Naming} {name : String}

/-- The tables and indexes of two catalogs. -/
instance : Append Catalog := ⟨fun c d => ⟨c.tables ++ d.tables, c.indexes ++ d.indexes⟩⟩

@[simp] theorem tables_append (c d : Catalog) : (c ++ d).tables = c.tables ++ d.tables := rfl

@[simp] theorem indexes_append (c d : Catalog) : (c ++ d).indexes = c.indexes ++ d.indexes := rfl

@[simp] theorem append_mk (c : Catalog) (tables : List Table) (indexes : List Index) :
    c ++ (⟨tables, indexes⟩ : Catalog) = ⟨c.tables ++ tables, c.indexes ++ indexes⟩ := rfl

@[simp] theorem append_empty (c : Catalog) : c ++ empty = c := by simp [empty]

section Names

variable (c : Catalog) (naming : Naming)

/-- Every index belongs to a table that is there, as in any database. -/
def IsClosed : Prop := ∀ i ∈ c.indexes, ∃ t ∈ c.tables, naming t.name = naming i.table

/-- A reference leads to a column of a table that is there. -/
def Meets (r : Reference) : Prop :=
  ∃ t ∈ c.tables, naming t.name = naming r.table ∧
    ∃ column ∈ t.columns, naming column.name = naming r.column

/-- All references of a table do. -/
def MeetsAll (t : Table) : Prop := ∀ column ∈ t.columns, ∀ r ∈ column.reference, c.Meets naming r

instance (r : Reference) : Decidable (c.Meets naming r) :=
  inferInstanceAs (Decidable (∃ t ∈ c.tables, naming t.name = naming r.table ∧
    ∃ column ∈ t.columns, naming column.name = naming r.column))

instance (t : Table) : Decidable (c.MeetsAll naming t) :=
  inferInstanceAs (Decidable (∀ column ∈ t.columns, ∀ r ∈ column.reference, c.Meets naming r))

/-- A catalog where nothing is missing: the references of the tables that are declared lead to tables
that are there, and every index belongs to one. -/
structure IsWhole : Prop where
  references : ∀ t ∈ c.tables, t.name ∈ declared.tables.map (·.name) → c.MeetsAll naming t
  indexes : c.IsClosed naming

/-- Neither a table nor an index has a name. -/
structure Lacks (name : String) : Prop where
  tables : ∀ t ∈ c.tables, naming t.name ≠ naming name
  indexes : ∀ i ∈ c.indexes, naming i.name ≠ naming name

end Names

namespace Lacks

variable (free : c.Lacks naming name)

include free

theorem hasTable_append : (c ++ d).hasTable naming name = d.hasTable naming name := by
  have none : c.tables.any (fun t => naming t.name == naming name) = false := by
    simpa using free.tables
  rw [hasTable, tables_append, List.any_append, none, Bool.false_or, hasTable]

theorem hasIndex_append : (c ++ d).hasIndex naming name = d.hasIndex naming name := by
  have none : c.indexes.any (fun i => naming i.name == naming name) = false := by
    simpa using free.indexes
  rw [hasIndex, indexes_append, List.any_append, none, Bool.false_or, hasIndex]

theorem filter_tables : c.tables.filter (fun t => naming t.name ≠ naming name) = c.tables := by
  simpa [List.filter_eq_self] using free.tables

theorem filter_indexes : c.indexes.filter (fun i => naming i.name ≠ naming name) = c.indexes := by
  simpa [List.filter_eq_self] using free.indexes

/-- There is no index on a table of that name either. -/
theorem filter_owned (closed : c.IsClosed naming) :
    c.indexes.filter (fun i => naming i.table ≠ naming name) = c.indexes := by
  rw [List.filter_eq_self]
  intro i mem
  obtain ⟨t, there, same⟩ := closed i mem
  simpa [← same] using free.tables t there

end Lacks

/-- References that are met by equal names are met in every other naming too, and beside other
tables. -/
theorem MeetsAll.append {t : Table} (meets : d.MeetsAll .exact t) : (c ++ d).MeetsAll naming t := by
  intro column mem r refers
  obtain ⟨target, there, table, found, inside, name⟩ := meets column mem r refers
  exact ⟨target, List.mem_append_right _ there, congrArg naming table, found, inside,
    congrArg naming name⟩

end Schema.Catalog

namespace Migration
open Schema

section Steps

variable {c d e : Catalog} {naming : Naming} {s : Statement}

/-- The names that a statement uses. -/
def Statement.names : Statement → List String
  | .createTable t => [t.name]
  | .createIndex i => [i.name, i.table]
  | .dropTable name => [name]
  | .dropIndex name table => [name, table]

theorem guarded_eq_ok {α : Type} {p : Prop} [Decidable p] {message : String} {x : Except Failure α}
    {y : α} : (if p then Statement.refused message else x) = .ok y ↔ ¬ p ∧ x = .ok y := by
  by_cases h : p <;> simp [h, Statement.refused]

theorem map_guarded {α β : Type} {p : Prop} [Decidable p] {message : String} (f : α → β)
    (x : Except Failure α) :
    f <$> (if p then Statement.refused message else x) =
      if p then Statement.refused message else f <$> x := by
  by_cases h : p <;> simp [h, Statement.refused]

/-- A statement neither changes a catalog that has none of its names nor depends on it. -/
theorem apply_append (closed : c.IsClosed naming) (free : ∀ name ∈ s.names, c.Lacks naming name) :
    s.apply naming (c ++ d) = (c ++ ·) <$> s.apply naming d := by
  cases s with
  | createTable t =>
    have own : c.Lacks naming t.name := free _ (by simp [Statement.names])
    simp only [Statement.apply, own.hasTable_append, own.hasIndex_append, map_guarded, Except.map_ok,
      Catalog.tables_append, Catalog.indexes_append, Catalog.append_mk, List.append_assoc]
  | createIndex i =>
    have own : c.Lacks naming i.name := free _ (by simp [Statement.names])
    have owner : c.Lacks naming i.table := free _ (by simp [Statement.names])
    simp only [Statement.apply, owner.hasTable_append, own.hasTable_append, own.hasIndex_append,
      map_guarded, Except.map_ok, Catalog.tables_append, Catalog.indexes_append, Catalog.append_mk,
      List.append_assoc]
  | dropTable name =>
    have own : c.Lacks naming name := free _ (by simp [Statement.names])
    simp only [Statement.apply, own.hasTable_append, map_guarded, Except.map_ok,
      Catalog.tables_append, Catalog.indexes_append, Catalog.append_mk, List.filter_append,
      own.filter_tables, own.filter_owned closed]
  | dropIndex name table =>
    have own : c.Lacks naming name := free _ (by simp [Statement.names])
    simp only [Statement.apply, own.hasIndex_append, map_guarded, Except.map_ok,
      Catalog.tables_append, Catalog.indexes_append, Catalog.append_mk, List.filter_append,
      own.filter_indexes]

theorem execute_append (closed : c.IsClosed naming) {list : List Statement}
    (free : ∀ s ∈ list, ∀ name ∈ s.names, c.Lacks naming name) (d : Catalog) :
    execute naming (c ++ d) list =
      (c ++ (execute naming d list).1, (execute naming d list).2) := by
  induction list generalizing d with
  | nil => rfl
  | cons s rest ih =>
    obtain ⟨first, others⟩ := List.forall_mem_cons.1 free
    simp only [execute, apply_append closed first]
    cases s.apply naming d with
    | ok next => exact ih others next
    | error failure => rfl

/-- No statement leaves an index without its table. -/
theorem isClosed_apply (closed : d.IsClosed naming) (done : s.apply naming d = .ok e) :
    e.IsClosed naming := by
  cases s with
  | createTable t =>
    simp only [Statement.apply, guarded_eq_ok, Except.ok.injEq] at done
    obtain ⟨-, -, rfl⟩ := done
    intro i mem
    obtain ⟨owner, there, same⟩ := closed i mem
    exact ⟨owner, List.mem_append_left _ there, same⟩
  | createIndex i =>
    simp only [Statement.apply, guarded_eq_ok, Except.ok.injEq] at done
    obtain ⟨found, -, -, rfl⟩ := done
    intro j mem
    obtain old | new := List.mem_append.1 mem
    · exact closed j old
    · obtain rfl := List.mem_singleton.1 new
      simpa [Catalog.hasTable] using found
  | dropTable name =>
    simp only [Statement.apply, guarded_eq_ok, Except.ok.injEq] at done
    obtain ⟨-, rfl⟩ := done
    intro i mem
    obtain ⟨kept, other⟩ := List.mem_filter.1 mem
    obtain ⟨owner, there, same⟩ := closed i kept
    exact ⟨owner, List.mem_filter.2 ⟨there, by simpa [same] using other⟩, same⟩
  | dropIndex name table =>
    simp only [Statement.apply, guarded_eq_ok, Except.ok.injEq] at done
    obtain ⟨-, rfl⟩ := done
    intro i mem
    exact closed i (List.mem_of_mem_filter mem)

theorem isClosed_execute (closed : d.IsClosed naming) (list : List Statement) :
    (execute naming d list).1.IsClosed naming := by
  induction list generalizing d with
  | nil => exact closed
  | cons s rest ih =>
    rw [execute]
    cases done : s.apply naming d with
    | ok next => exact ih (isClosed_apply closed done)
    | error failure => exact closed

end Steps

section Exact

variable {d e : Catalog} {naming : Naming} {s : Statement} {names : List String}

/-- All names of a catalog are among these. -/
structure IsNamed (names : List String) (d : Catalog) : Prop where
  tables : ∀ t ∈ d.tables, t.name ∈ names
  indexes : ∀ i ∈ d.indexes, i.name ∈ names ∧ i.table ∈ names

/-- No two of these names are the same to an engine. -/
def Separates (naming : Naming) (names : List String) : Prop :=
  ∀ a ∈ names, ∀ b ∈ names, naming a = naming b → a = b

theorem separates_of_fixed (fixed : ∀ name ∈ names, naming name = name) : Separates naming names :=
  fun a first b second same => (fixed a first).symm.trans (same.trans (fixed b second))

variable (apart : Separates naming names)

section Lookups

include apart

theorem Separates.iff {a b : String} (first : a ∈ names) (second : b ∈ names) :
    naming a = naming b ↔ Naming.exact a = Naming.exact b :=
  ⟨apart a first b second, congrArg naming⟩

variable {α : Type} (key : α → String) {list : List α} (known : ∀ x ∈ list, key x ∈ names)
  {name : String} (own : name ∈ names)

include known own

/-- What is found by a name is what has it. -/
theorem Separates.any_eq : (list.any fun x => naming (key x) == naming name) =
    list.any fun x => Naming.exact (key x) == Naming.exact name := by
  rw [Bool.eq_iff_iff]
  simp only [List.any_eq_true, beq_iff_eq]
  exact exists_congr fun x => and_congr_right fun mem => apart.iff (known x mem) own

/-- What is left without a name is what has another. -/
theorem Separates.filter_eq : (list.filter fun x => naming (key x) ≠ naming name) =
    list.filter fun x => Naming.exact (key x) ≠ Naming.exact name :=
  List.filter_congr fun x mem => by simp only [ne_eq, apart.iff (known x mem) own]

end Lookups

include apart

/-- Among names that it keeps apart, an engine does what one does that takes them as they are. -/
theorem apply_exact (named : IsNamed names d) (own : ∀ name ∈ s.names, name ∈ names) :
    s.apply naming d = s.apply .exact d := by
  have table {name : String} (used : name ∈ names) :
      d.hasTable naming name = d.hasTable .exact name :=
    apart.any_eq Table.name named.tables used
  have index {name : String} (used : name ∈ names) :
      d.hasIndex naming name = d.hasIndex .exact name :=
    apart.any_eq Index.name (fun i mem => (named.indexes i mem).1) used
  cases s with
  | createTable t =>
    have used : t.name ∈ names := own _ (by simp [Statement.names])
    simp only [Statement.apply, table used, index used]
  | createIndex i =>
    have used : i.name ∈ names := own _ (by simp [Statement.names])
    have owner : i.table ∈ names := own _ (by simp [Statement.names])
    simp only [Statement.apply, table owner, table used, index used]
  | dropTable name =>
    have used : name ∈ names := own _ (by simp [Statement.names])
    have tables := apart.filter_eq Table.name named.tables used
    have owned := apart.filter_eq Index.table (fun i mem => (named.indexes i mem).2) used
    simp only [Statement.apply, table used, tables, owned]
  | dropIndex name owner =>
    have used : name ∈ names := own _ (by simp [Statement.names])
    have indexes := apart.filter_eq Index.name (fun i mem => (named.indexes i mem).1) used
    simp only [Statement.apply, index used, indexes]

omit apart in
theorem isNamed_apply (named : IsNamed names d) (own : ∀ name ∈ s.names, name ∈ names)
    (done : s.apply naming d = .ok e) : IsNamed names e := by
  cases s with
  | createTable t =>
    simp only [Statement.apply, guarded_eq_ok, Except.ok.injEq] at done
    obtain ⟨-, -, rfl⟩ := done
    refine ⟨List.forall_mem_append.2 ⟨named.tables, ?_⟩, named.indexes⟩
    exact List.forall_mem_singleton.2 (own _ (by simp [Statement.names]))
  | createIndex i =>
    simp only [Statement.apply, guarded_eq_ok, Except.ok.injEq] at done
    obtain ⟨-, -, -, rfl⟩ := done
    refine ⟨named.tables, List.forall_mem_append.2 ⟨named.indexes, ?_⟩⟩
    exact List.forall_mem_singleton.2
      ⟨own _ (by simp [Statement.names]), own _ (by simp [Statement.names])⟩
  | dropTable name =>
    simp only [Statement.apply, guarded_eq_ok, Except.ok.injEq] at done
    obtain ⟨-, rfl⟩ := done
    exact ⟨fun t mem => named.tables t (List.mem_of_mem_filter mem),
      fun i mem => named.indexes i (List.mem_of_mem_filter mem)⟩
  | dropIndex name owner =>
    simp only [Statement.apply, guarded_eq_ok, Except.ok.injEq] at done
    obtain ⟨-, rfl⟩ := done
    exact ⟨named.tables, fun i mem => named.indexes i (List.mem_of_mem_filter mem)⟩

theorem execute_exact (named : IsNamed names d) {list : List Statement}
    (own : ∀ s ∈ list, ∀ name ∈ s.names, name ∈ names) :
    execute naming d list = execute .exact d list := by
  induction list generalizing d with
  | nil => rfl
  | cons s rest ih =>
    obtain ⟨first, others⟩ := List.forall_mem_cons.1 own
    simp only [execute, apply_exact apart named first]
    cases done : s.apply .exact d with
    | ok next => exact ih (isNamed_apply named first done) others
    | error failure => rfl

end Exact

namespace Initial

/-- The names that the first revision gives. -/
def names : List String :=
  ["authors", "tags", "quotes", "quotes_tags", "ix_authors_twitter_username", "ix_quotes_author_id"]

variable {c d : Catalog} {naming : Naming}

section Run

variable (apart : Separates naming names) (closed : c.IsClosed naming)
  (free : ∀ name ∈ names, c.Lacks naming name) (named : IsNamed names d) {list : List Statement}
  (own : ∀ s ∈ list, ∀ name ∈ s.names, name ∈ names)

include apart closed free named own

/-- Statements about these names do beside other tables what they do without them. -/
theorem execute_beside : execute naming (c ++ d) list =
    (c ++ (execute .exact d list).1, (execute .exact d list).2) := by
  rw [execute_append closed fun s mem name used => free name (own s mem name used),
    execute_exact apart named own]

/-- No part of their run leaves a gap if none does where there are no others. -/
theorem isWhole_execute (start : (c ++ d).IsClosed naming)
    (meets : ∀ done ∈ list.inits, ∀ t ∈ (execute .exact d done).1.tables,
      (execute .exact d done).1.MeetsAll .exact t)
    {done : List Statement} (part : done <+: list) :
    (execute naming (c ++ d) done).1.IsWhole naming := by
  refine ⟨?_, isClosed_execute start done⟩
  rw [execute_beside apart closed free named fun s mem name used =>
    own s (part.subset mem) name used]
  intro t mem listed
  obtain other | made := List.mem_append.1 mem
  · have known : ∀ name ∈ declared.tables.map (·.name), name ∈ names := by decide
    exact absurd rfl ((free _ (known _ listed)).tables t other)
  · exact (meets done ((List.mem_inits _ _).2 part) t made).append

end Run

/-- In every database that has none of its names, the first revision adds the tables and indexes that
are declared, and its way back restores what was there. At no step of either does a declared table
refer to one that is not there, or an index belong to none. -/
theorem upgrade_downgrade (naming : Naming) (apart : Separates naming names)
    (closed : c.IsClosed naming) (free : ∀ name ∈ names, c.Lacks naming name) :
    execute naming c upgrade = (c ++ declared, .ok ()) ∧
    execute naming (c ++ declared) downgrade = (c, .ok ()) ∧
    (∀ done, done <+: upgrade → (execute naming c done).1.IsWhole naming) ∧
    ∀ done, done <+: downgrade → (execute naming (c ++ declared) done).1.IsWhole naming := by
  have up : ∀ s ∈ upgrade, ∀ name ∈ s.names, name ∈ names := by decide
  have down : ∀ s ∈ downgrade, ∀ name ∈ s.names, name ∈ names := by decide
  have bare : IsNamed names .empty := ⟨nofun, nofun⟩
  have full : IsNamed names declared := ⟨by decide, by decide⟩
  have alone : execute .exact .empty upgrade = (declared, .ok ()) := rfl
  have undone : execute .exact declared downgrade = (.empty, .ok ()) := rfl
  have made : execute naming c upgrade = (c ++ declared, .ok ()) := by
    have run := execute_beside apart closed free bare up
    rwa [Catalog.append_empty, alone] at run
  refine ⟨made, ?_, fun done part => ?_, fun done part => ?_⟩
  · rw [execute_beside apart closed free full down, undone, Catalog.append_empty]
  · rw [← c.append_empty]
    exact isWhole_execute apart closed free bare up (by rwa [c.append_empty]) (by decide) part
  · have start := isClosed_execute closed upgrade
    rw [made] at start
    exact isWhole_execute apart closed free full down start (by decide) part

/-- A database that has a table with a reference and an index of its own, in an engine that ignores the
case of letters. -/
theorem upgrade_downgrade_readers :
    let readers : Table := ⟨"Readers", [.key "id" none,
      { Column.required "friend_id" .integer with reference := some ⟨"readers", "ID", none⟩ }]⟩
    let c : Catalog := ⟨[readers], [⟨"IX_Readers_friend_id", "Readers", ["friend_id"], true⟩]⟩
    Separates .caseless names ∧ c.IsClosed .caseless ∧
      (∀ name ∈ names, c.Lacks .caseless name) ∧
      execute .caseless c upgrade = (c ++ declared, .ok ()) ∧
      execute .caseless (c ++ declared) downgrade = (c, .ok ()) ∧
      (execute .caseless c (upgrade.take 4)).1.IsWhole .caseless ∧
      (execute .caseless (c ++ declared) (downgrade.take 2)).1.IsWhole .caseless := by
  intro readers c
  have apart : Separates .caseless names := separates_of_fixed (by decide +kernel)
  have closed : c.IsClosed .caseless :=
    List.forall_mem_singleton.2 ⟨readers, List.mem_singleton_self _, rfl⟩
  have free : ∀ name ∈ names, c.Lacks .caseless name := by
    have other : ∀ name ∈ names, Naming.caseless "Readers" ≠ Naming.caseless name ∧
        Naming.caseless "IX_Readers_friend_id" ≠ Naming.caseless name := by decide +kernel
    intro name mem
    exact ⟨List.forall_mem_singleton.2 (other name mem).1,
      List.forall_mem_singleton.2 (other name mem).2⟩
  obtain ⟨made, undone, up, down⟩ := upgrade_downgrade .caseless apart closed free
  exact ⟨apart, closed, free, made, undone, up _ (List.take_prefix 4 _),
    down _ (List.take_prefix 2 _)⟩

end Initial
end Migration
end QuoteService
