import QuoteService.Proofs.Http.Rendering
import QuoteService.Proofs.Text.Utf8

/-! What a payload shows of itself. It is rendered as a whole or not at all: one leaf that has no
JSON text fails all of it, wherever it stands, unless it belongs to a member that is never shown. -/
namespace QuoteService.Http
open Number Text

namespace Payload

/-- Names that belong to the storage layer. -/
def IsInternal (name : String) : Prop := ∃ rest, name = "_sa" ++ rest

theorem isInternalName_iff (name : String) : isInternalName name ↔ IsInternal name := by
  rw [isInternalName, List.isPrefixOf_iff_prefix]
  constructor
  · rintro ⟨rest, same⟩
    exact ⟨String.ofList rest, String.toList_inj.1 (by rw [← same]; simp)⟩
  · rintro ⟨rest, rfl⟩
    exact ⟨rest.toList, by simp⟩

/-- The payloads in a payload, itself among them, but not those under internal names. -/
inductive Reaches : Payload → Payload → Prop
  | here (p : Payload) : Reaches p p
  | item {items : List Payload} {p q : Payload} (mem : p ∈ items) (inside : Reaches p q) :
    Reaches (.list items) q
  | member {members : List (String × Payload)} {name : String} {p q : Payload}
    (mem : (name, p) ∈ members) (shown : ¬ IsInternal name) (inside : Reaches p q) :
    Reaches (.dict members) q

/-- Leaves that are no JSON value. -/
inductive IsBroken : Payload → Prop
  | nan : IsBroken (.real .nan)
  | infinite (negative : Bool) : IsBroken (.real (.infinite negative))
  | bytes {bs : List UInt8} (noText : ∀ cs, encodeUtf8 cs ≠ bs) : IsBroken (.bytes bs)
  | unknown : IsBroken .unknown

/-- Leaves without a JSON text: those that are no value, and numbers that are too long to be written. -/
inductive IsFlaw : Payload → Prop
  | broken {p : Payload} (broken : p.IsBroken) : IsFlaw p
  | long {n : Int} (long : ¬ Json.IsShort n) : IsFlaw (.integer n)

section Trees

mutual

/-- The value that a payload stands for: the same tree, with bytes as texts and without the members
of internal names. -/
def Shows : Payload → Json → Prop
  | .null, v => v = .null
  | .bool b, v => v = .bool b
  | .integer n, v => v = .integer n
  | .real x, v => v = .real x
  | .text s, v => v = .string s
  | .bytes bs, v => ∃ s : String, encodeUtf8 s.toList = bs ∧ v = .string s
  | .unknown, _ => False
  | .list items, v => ∃ xs, ShowsItems items xs ∧ v = .array xs
  | .dict members, v => ∃ ms, ShowsMembers members ms ∧ v = .object ms

def ShowsItems : List Payload → List Json → Prop
  | [], xs => xs = []
  | p :: rest, xs => ∃ x more, Shows p x ∧ ShowsItems rest more ∧ xs = x :: more

def ShowsMembers : List (String × Payload) → List (String × Json) → Prop
  | [], ms => ms = []
  | (name, p) :: rest, ms =>
    (IsInternal name ∧ ShowsMembers rest ms) ∨
      (¬ IsInternal name ∧ ∃ x more, Shows p x ∧ ShowsMembers rest more ∧ ms = (name, x) :: more)

end

end Trees

section Steps

variable {p : Payload} {items : List Payload} {name : String} {members : List (String × Payload)}

theorem itemsJson_cons_eq_ok {xs : List Json} : itemsJson (p :: items) = .ok xs ↔
    ∃ x more, p.toJson = .ok x ∧ itemsJson items = .ok more ∧ xs = x :: more := by
  rw [itemsJson]
  cases p.toJson <;> cases itemsJson items <;> simp [bind, Except.bind, pure, Except.pure, eq_comm]

theorem membersJson_internal (internal : IsInternal name) :
    membersJson ((name, p) :: members) = membersJson members := by
  rw [membersJson, if_pos ((isInternalName_iff name).2 internal)]

theorem membersJson_cons_eq_ok (shown : ¬ IsInternal name) {ms : List (String × Json)} :
    membersJson ((name, p) :: members) = .ok ms ↔
      ∃ x more, p.toJson = .ok x ∧ membersJson members = .ok more ∧ ms = (name, x) :: more := by
  rw [membersJson, if_neg fun internal => shown ((isInternalName_iff name).1 internal)]
  cases p.toJson <;> cases membersJson members <;>
    simp [bind, Except.bind, pure, Except.pure, eq_comm]

theorem toJson_list_eq_ok {v : Json} :
    (list items).toJson = .ok v ↔ ∃ xs, itemsJson items = .ok xs ∧ v = .array xs := by
  rw [toJson]
  cases itemsJson items <;> simp [Except.map, eq_comm]

theorem toJson_dict_eq_ok {v : Json} :
    (dict members).toJson = .ok v ↔ ∃ ms, membersJson members = .ok ms ∧ v = .object ms := by
  rw [toJson]
  cases membersJson members <;> simp [Except.map, eq_comm]

end Steps

section Readable

/-- A payload that stands for a value with a JSON text. -/
def Encodes (p : Payload) (v : Json) : Prop := p.toJson = .ok v ∧ v.refusal? .finite = none

theorem encodes_item {p : Payload} {items : List Payload} (mem : p ∈ items) {xs : List Json}
    (read : itemsJson items = .ok xs) (sound : Json.itemsRefusal? .finite xs = none) :
    ∃ v, p.Encodes v := by
  induction items generalizing xs with
  | nil => cases mem
  | cons first rest ih =>
    obtain ⟨x, more, head, tail, rfl⟩ := itemsJson_cons_eq_ok.1 read
    obtain ⟨one, others⟩ := Json.itemsRefusal?_cons.1 sound
    obtain rfl | later := List.mem_cons.1 mem
    · exact ⟨x, head, one⟩
    · exact ih later tail others

theorem encodes_member {name : String} {p : Payload} {members : List (String × Payload)}
    (mem : (name, p) ∈ members) (shown : ¬ IsInternal name) {ms : List (String × Json)}
    (read : membersJson members = .ok ms) (sound : Json.membersRefusal? .finite ms = none) :
    ∃ v, p.Encodes v := by
  induction members generalizing ms with
  | nil => cases mem
  | cons first rest ih =>
    obtain ⟨other, q⟩ := first
    by_cases internal : IsInternal other
    · rw [membersJson_internal internal] at read
      obtain same | later := List.mem_cons.1 mem
      · cases same
        exact absurd internal shown
      · exact ih later read sound
    · obtain ⟨x, more, head, tail, rfl⟩ := (membersJson_cons_eq_ok internal).1 read
      obtain ⟨one, others⟩ := Json.membersRefusal?_cons.1 sound
      obtain same | later := List.mem_cons.1 mem
      · cases same
        exact ⟨x, head, one⟩
      · exact ih later tail others

/-- Every part of an encoded payload is encoded. -/
theorem Reaches.encodes {p q : Payload} (inside : p.Reaches q) {v : Json} (h : p.Encodes v) :
    ∃ w, q.Encodes w := by
  induction inside generalizing v with
  | here p => exact ⟨v, h⟩
  | item mem _ ih =>
    obtain ⟨xs, read, rfl⟩ := toJson_list_eq_ok.1 h.1
    obtain ⟨x, part⟩ := encodes_item mem read (by simpa [Json.refusal?] using h.2)
    exact ih part
  | member mem shown _ ih =>
    obtain ⟨ms, read, rfl⟩ := toJson_dict_eq_ok.1 h.1
    obtain ⟨x, part⟩ := encodes_member mem shown read (by simpa [Json.refusal?] using h.2)
    exact ih part

theorem IsBroken.not_encodes {leaf : Payload} (broken : leaf.IsBroken) (v : Json) :
    ¬ leaf.Encodes v := by
  rintro ⟨read, sound⟩
  cases broken with
  | nan | infinite =>
    cases read
    cases sound
  | @bytes bs noText =>
    rw [toJson] at read
    split at read
    · rename_i cs found
      exact noText cs (decodeUtf8?_eq_some_iff.1 found)
    · cases read
  | unknown => cases read

theorem IsFlaw.not_encodes {leaf : Payload} (flaw : leaf.IsFlaw) (v : Json) : ¬ leaf.Encodes v := by
  cases flaw with
  | broken broken => exact broken.not_encodes v
  | long long =>
    rintro ⟨read, sound⟩
    cases read
    rw [Json.refusal?_long long] at sound
    cases sound

end Readable

section Whole

/-- Whether all that a payload shows has a property. -/
def Throughout (p : Payload) (h : Payload → Prop) : Prop := ∀ q, p.Reaches q → h q

variable {h : Payload → Prop}

theorem Throughout.item {items : List Payload} (all : (list items).Throughout h) {p : Payload}
    (mem : p ∈ items) : p.Throughout h :=
  fun q inside => all q (.item mem inside)

theorem Throughout.member {members : List (String × Payload)} (all : (dict members).Throughout h)
    {name : String} {p : Payload} (mem : (name, p) ∈ members) (shown : ¬ IsInternal name) :
    p.Throughout h :=
  fun q inside => all q (.member mem shown inside)

mutual

/-- A payload without flaws is encoded. -/
theorem exists_encodes : ∀ {p : Payload}, p.Throughout (fun q => ¬ q.IsFlaw) → ∃ v, p.Encodes v
  | .null, _ | .bool _, _ | .text _, _ => ⟨_, rfl, rfl⟩
  | .integer _, sound =>
    ⟨_, rfl, Json.refusal?_integer (by_contra fun long => sound _ (.here _) (.long long))⟩
  | .real x, sound => by
    cases x with
    | nan => exact absurd (.broken .nan) (sound _ (.here _))
    | infinite negative => exact absurd (.broken (.infinite negative)) (sound _ (.here _))
    | finite negative m e => exact ⟨_, rfl, rfl⟩
  | .bytes bs, sound => by
    by_contra none
    refine sound _ (.here _) (.broken (.bytes fun cs same => none ?_))
    refine ⟨.string (String.ofList cs), ?_, rfl⟩
    rw [toJson, decodeUtf8?_eq_some_iff.2 same]
  | .unknown, sound => absurd (.broken .unknown) (sound _ (.here _))
  | .list items, sound => by
    obtain ⟨xs, read, written⟩ := exists_itemsJson fun p mem => sound.item mem
    exact ⟨.array xs, toJson_list_eq_ok.2 ⟨xs, read, rfl⟩, by rwa [Json.refusal?]⟩
  | .dict members, sound => by
    obtain ⟨ms, read, written⟩ := exists_membersJson fun m mem shown => sound.member mem shown
    exact ⟨.object ms, toJson_dict_eq_ok.2 ⟨ms, read, rfl⟩, by rwa [Json.refusal?]⟩

theorem exists_itemsJson : ∀ {items : List Payload},
    (∀ p ∈ items, p.Throughout fun q => ¬ q.IsFlaw) →
      ∃ xs, itemsJson items = .ok xs ∧ Json.itemsRefusal? .finite xs = none
  | [], _ => ⟨[], rfl, rfl⟩
  | p :: rest, sound => by
    obtain ⟨first, others⟩ := List.forall_mem_cons.1 sound
    obtain ⟨x, read, one⟩ := exists_encodes first
    obtain ⟨xs, reads, all⟩ := exists_itemsJson others
    exact ⟨x :: xs, itemsJson_cons_eq_ok.2 ⟨x, xs, read, reads, rfl⟩,
      Json.itemsRefusal?_cons.2 ⟨one, all⟩⟩

theorem exists_membersJson : ∀ {members : List (String × Payload)},
    (∀ m ∈ members, ¬ IsInternal m.1 → m.2.Throughout fun q => ¬ q.IsFlaw) →
      ∃ ms, membersJson members = .ok ms ∧ Json.membersRefusal? .finite ms = none
  | [], _ => ⟨[], rfl, rfl⟩
  | (name, p) :: rest, sound => by
    obtain ⟨first, others⟩ := List.forall_mem_cons.1 sound
    obtain ⟨ms, reads, all⟩ := exists_membersJson others
    by_cases internal : IsInternal name
    · exact ⟨ms, by rw [membersJson_internal internal, reads], all⟩
    · obtain ⟨x, read, one⟩ := exists_encodes (first internal)
      exact ⟨(name, x) :: ms, (membersJson_cons_eq_ok internal).2 ⟨x, ms, read, reads, rfl⟩,
        Json.membersRefusal?_cons.2 ⟨one, all⟩⟩

end

mutual

/-- A value that is read from a payload is the one that it shows. -/
theorem shows_iff : ∀ {p : Payload} {v : Json}, p.toJson = .ok v → ∀ w, p.Shows w ↔ w = v
  | .null, _, read, w | .bool _, _, read, w | .integer _, _, read, w | .real _, _, read, w
  | .text _, _, read, w => by
    cases read
    exact Iff.rfl
  | .bytes bs, _, read, w => by
    rw [toJson] at read
    split at read
    · rename_i cs found
      cases read
      have bytes := decodeUtf8?_eq_some_iff.1 found
      constructor
      · rintro ⟨s, same, rfl⟩
        have text := Option.some.inj ((decodeUtf8?_eq_some_iff.2 same).symm.trans found)
        rw [← text, String.ofList_toList]
      · rintro rfl
        exact ⟨String.ofList cs, by rwa [String.toList_ofList], rfl⟩
    · cases read
  | .unknown, _, read, _ => by cases read
  | .list items, _, read, w => by
    obtain ⟨xs, reads, rfl⟩ := toJson_list_eq_ok.1 read
    simp only [Shows, showsItems_iff reads, exists_eq_left]
  | .dict members, _, read, w => by
    obtain ⟨ms, reads, rfl⟩ := toJson_dict_eq_ok.1 read
    simp only [Shows, showsMembers_iff reads, exists_eq_left]

theorem showsItems_iff : ∀ {items : List Payload} {xs : List Json},
    itemsJson items = .ok xs → ∀ ys, ShowsItems items ys ↔ ys = xs
  | [], _, read, _ => by
    cases read
    exact Iff.rfl
  | p :: rest, _, read, ys => by
    obtain ⟨x, more, first, others, rfl⟩ := itemsJson_cons_eq_ok.1 read
    simp only [ShowsItems, shows_iff first, showsItems_iff others, exists_and_left, exists_eq_left]

theorem showsMembers_iff : ∀ {members : List (String × Payload)} {ms : List (String × Json)},
    membersJson members = .ok ms → ∀ ns, ShowsMembers members ns ↔ ns = ms
  | [], _, read, _ => by
    cases read
    exact Iff.rfl
  | (name, p) :: rest, _, read, ns => by
    by_cases internal : IsInternal name
    · rw [membersJson_internal internal] at read
      simp only [ShowsMembers, internal, true_and, not_true, false_and, or_false,
        showsMembers_iff read]
    · obtain ⟨x, more, first, others, rfl⟩ := (membersJson_cons_eq_ok internal).1 read
      simp only [ShowsMembers, internal, false_and, not_false_eq_true, true_and, false_or,
        shows_iff first, showsMembers_iff others, exists_and_left, exists_eq_left]

end

/-- No binary number. -/
def NotReal (p : Payload) : Prop := ∀ x, p ≠ .real x

mutual

theorem isWhole_of_toJson : ∀ {p : Payload} {v : Json},
    p.toJson = .ok v → p.Throughout NotReal → v.isWhole
  | .null, _, read, _ | .bool _, _, read, _ | .integer _, _, read, _ | .text _, _, read, _ => by
    cases read
    rfl
  | .real x, _, _, free => absurd rfl (free _ (.here _) x)
  | .bytes bs, _, read, _ => by
    rw [toJson] at read
    split at read <;> cases read
    rfl
  | .unknown, _, read, _ => by cases read
  | .list items, _, read, free => by
    obtain ⟨xs, reads, rfl⟩ := toJson_list_eq_ok.1 read
    rw [Json.isWhole]
    exact areWhole_of_itemsJson reads fun p mem => free.item mem
  | .dict members, _, read, free => by
    obtain ⟨ms, reads, rfl⟩ := toJson_dict_eq_ok.1 read
    rw [Json.isWhole]
    exact membersWhole_of_membersJson reads fun m mem shown => free.member mem shown

theorem areWhole_of_itemsJson : ∀ {items : List Payload} {xs : List Json},
    itemsJson items = .ok xs → (∀ p ∈ items, p.Throughout NotReal) → Json.areWhole xs
  | [], _, read, _ => by
    cases read
    rfl
  | p :: rest, _, read, free => by
    obtain ⟨x, more, first, others, rfl⟩ := itemsJson_cons_eq_ok.1 read
    obtain ⟨one, all⟩ := List.forall_mem_cons.1 free
    exact (Json.areWhole_cons x more).2
      ⟨isWhole_of_toJson first one, areWhole_of_itemsJson others all⟩

theorem membersWhole_of_membersJson :
    ∀ {members : List (String × Payload)} {ms : List (String × Json)},
      membersJson members = .ok ms →
      (∀ m ∈ members, ¬ IsInternal m.1 → m.2.Throughout NotReal) → Json.membersWhole ms
  | [], _, read, _ => by
    cases read
    rfl
  | (name, p) :: rest, _, read, free => by
    obtain ⟨one, all⟩ := List.forall_mem_cons.1 free
    by_cases internal : IsInternal name
    · rw [membersJson_internal internal] at read
      exact membersWhole_of_membersJson read all
    · obtain ⟨x, more, first, others, rfl⟩ := (membersJson_cons_eq_ok internal).1 read
      exact (Json.membersWhole_cons name x more).2
        ⟨isWhole_of_toJson first (one internal), membersWhole_of_membersJson others all⟩

end

end Whole

/-- Whether a flaw is among the parts of a payload that are shown. -/
def IsFlawed (p : Payload) : Prop := ∃ leaf, p.Reaches leaf ∧ leaf.IsFlaw

theorem Encodes.not_isFlawed {p : Payload} {v : Json} (h : p.Encodes v) : ¬ p.IsFlawed := by
  rintro ⟨leaf, inside, flaw⟩
  obtain ⟨w, encoded⟩ := inside.encodes h
  exact flaw.not_encodes w encoded

theorem encode_of_encodes {p : Payload} {v : Json} (h : p.Encodes v) :
    p.encode = .ok (v.render .compact) := by
  rw [encode, h.1]
  exact Json.write_eq_ok.2 ⟨h.2, rfl⟩

theorem encode_of_isFlawed {p : Payload} (flawed : p.IsFlawed) :
    ∃ cause, p.encode = .error cause := by
  rw [encode]
  cases read : p.toJson with
  | error cause => exact ⟨cause, rfl⟩
  | ok v =>
    cases refused : v.refusal? .finite with
    | none => exact absurd flawed (Encodes.not_isFlawed ⟨read, refused⟩)
    | some cause => exact ⟨cause, Json.write_of_refusal? refused⟩

/-- A payload is rendered whole or not at all. It fails exactly if it shows a flaw, whatever the
query, and then as a failure of the service to render; else one text is sent, from which the tree
without its internal members is read. -/
theorem render_wholly (p : Payload) :
    (∀ query, (∃ failure, p.render query = .error failure) ↔ p.IsFlawed) ∧
    (∀ query failure, p.render query = .error failure → ∃ cause, failure =
      .service (.internalFailure "render_payload" (some cause) .serialization)) ∧
    (¬ p.IsFlawed → ∃ text, (∀ query, ∃ sent, p.render query = .ok sent ∧ sent.status = 200 ∧
        sent.headers = [("content-length", integerText sent.body.utf8ByteSize),
          ("content-type", "application/json; charset=utf-8")] ∧
        sent.body = (callback? query).elim text fun name => name ++ "(" ++ text ++ ")") ∧
      ((∀ negative m e, ¬ p.Reaches (.real (.finite negative m e))) →
        ∃ v, Json.parse text = some v ∧ ∀ w, p.Shows w ↔ w = v)) := by
  by_cases flawed : p.IsFlawed
  · obtain ⟨cause, failed⟩ := encode_of_isFlawed flawed
    have same (query : String) : p.render query = .error (unrendered cause) := by
      rw [render, failed]
    refine ⟨fun query => ⟨fun _ => flawed, fun _ => ⟨_, same query⟩⟩, fun query failure fails => ?_,
      fun sound => absurd flawed sound⟩
    rw [same] at fails
    cases fails
    exact ⟨cause, rfl⟩
  · obtain ⟨v, encoded⟩ := exists_encodes fun q inside flaw => flawed ⟨q, inside, flaw⟩
    have rendered := render_of_encode (encode_of_encodes encoded)
    refine ⟨fun query => ⟨?_, fun other => absurd other flawed⟩, fun query failure fails => ?_,
      fun _ => ⟨v.render .compact, fun query => ?_, fun exact_ => ?_⟩⟩
    · rintro ⟨failure, fails⟩
      rw [rendered] at fails
      cases fails
    · rw [rendered] at fails
      cases fails
    · refine ⟨_, rendered query, rfl, rfl, ?_⟩
      cases callback? query <;> rfl
    · have free : p.Throughout NotReal := by
        rintro q inside x rfl
        cases x with
        | finite negative m e => exact exact_ negative m e inside
        | nan => exact flawed ⟨_, inside, .broken .nan⟩
        | infinite negative => exact flawed ⟨_, inside, .broken (.infinite negative)⟩
      exact ⟨v, Json.parse_render Json.compact_separates (isWhole_of_toJson encoded.1 free),
        shows_iff encoded.1⟩

/-- An object with a hidden member of no known kind, and with bytes that are a letter. -/
theorem render_wholly_hidden :
    let p : Payload := .dict [("_sa_state", .unknown),
      ("é", .list [.bytes [0xC3, 0xA9], .integer (-5)])]
    let v : Json := .object [("é", .array [.string "é", .integer (-5)])]
    ¬ p.IsFlawed ∧ (∀ negative m e, ¬ p.Reaches (.real (.finite negative m e))) ∧
      ∃ text sent, p.render "callback=f" = .ok sent ∧ sent.body = "f(" ++ text ++ ")" ∧
        Json.parse text = some v := by
  intro p v
  have internal : IsInternal "_sa_state" := ⟨"_state", rfl⟩
  have plain : ¬ IsInternal "é" := by
    rw [← isInternalName_iff]
    decide
  have letter : (bytes [0xC3, 0xA9]).toJson = .ok (.string "é") := by
    rw [toJson, decodeUtf8?_eq_some_iff.2 (show encodeUtf8 ['é'] = [0xC3, 0xA9] from rfl)]
  have items : itemsJson [.bytes [0xC3, 0xA9], .integer (-5)] =
      .ok [.string "é", .integer (-5)] := by
    rw [itemsJson, letter]
    rfl
  have read : p.toJson = .ok v := by
    refine toJson_dict_eq_ok.2 ⟨_, ?_, rfl⟩
    rw [membersJson_internal internal]
    exact (membersJson_cons_eq_ok plain).2 ⟨_, [], toJson_list_eq_ok.2 ⟨_, items, rfl⟩, rfl, rfl⟩
  have sound : ¬ p.IsFlawed := Encodes.not_isFlawed ⟨read, by decide⟩
  have exact_ : ∀ negative m e, ¬ p.Reaches (.real (.finite negative m e)) := by
    intro negative m e inside
    change Reaches (.dict [("_sa_state", .unknown),
      ("é", .list [.bytes [0xC3, 0xA9], .integer (-5)])]) _ at inside
    cases inside with
    | member mem shown inside =>
      simp only [List.mem_cons, Prod.mk.injEq, List.not_mem_nil, or_false] at mem
      obtain ⟨rfl, rfl⟩ | ⟨rfl, rfl⟩ := mem
      · exact shown internal
      · cases inside with
        | item mem inside =>
          simp only [List.mem_cons, List.not_mem_nil, or_false] at mem
          obtain rfl | rfl := mem <;> cases inside
  obtain ⟨text, rendered, parsed⟩ := (render_wholly p).2.2 sound
  obtain ⟨sent, answer, -, -, body⟩ := rendered "callback=f"
  obtain ⟨w, value, only⟩ := parsed exact_
  obtain rfl : v = w := (only v).1 ((shows_iff read v).2 rfl)
  have asked : callback? "callback=f" = some "f" := by decide +kernel
  rw [asked] at body
  exact ⟨sound, exact_, text, sent, answer, body, value⟩

/-- A number of 4301 digits is no broken leaf, and is not rendered for any query. -/
theorem render_longInteger :
    let p : Payload := .list [.integer (10 ^ 4300)]
    (∀ leaf, p.Reaches leaf → ¬ leaf.IsBroken) ∧
      ∀ query, ∃ cause, p.render query =
        .error (.service (.internalFailure "render_payload" (some cause) .serialization)) := by
  intro p
  have sound (n : Int) (leaf : Payload) (inside : (list [.integer n]).Reaches leaf) :
      ¬ leaf.IsBroken := by
    intro broken
    cases inside with
    | here => cases broken
    | item mem inside =>
      obtain rfl := List.mem_singleton.1 mem
      cases inside
      cases broken
  constructor
  · exact sound _
  · have flawed : p.IsFlawed :=
      ⟨_, .item (List.mem_singleton_self _) (.here _), .long Json.not_isShort_pow⟩
    obtain ⟨cause, failed⟩ := encode_of_isFlawed flawed
    intro query
    exact ⟨cause, by rw [render, failed]; rfl⟩

end Payload
end QuoteService.Http
