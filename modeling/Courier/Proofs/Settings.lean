import Courier.Proofs.Fields
import Courier.Settings

/-! Which settings a document gives: what it names is taken from it, and the rest is as usual. -/
namespace Courier
open Json

/-- The node is of another type, or a whole number that is out of range. -/
def Scalar.Refuses : Scalar → Node → Prop
  | .text, n => ∀ raw, n ≠ .text raw
  | .int range, n => ∀ i, range.low ≤ i → i ≤ range.high → ¬ n.IsInt i
  | .flag, n => ∀ b, ¬ n.IsFlag b
  | .unit, n => n ≠ .null

namespace Json

namespace Node
variable {n : Node}

theorem IsText.read {s : String} (h : n.IsText s) : n.readText = .ok s := by
  obtain ⟨raw, rfl, hraw⟩ := h
  unfold readText
  dsimp only
  rw [hraw.decodeText?]

theorem IsInt.read {i : Int} (h : n.IsInt i) {range : IntRange} (hword : InWord i)
    (hrange : range.low ≤ i ∧ i ≤ range.high) : n.readInt range = .ok i := by
  rw [h]
  unfold readInt
  dsimp only
  rw [Number.value?_numeral hword]
  exact if_pos hrange

theorem IsInt.readUInt16 {p : UInt16} (h : n.IsInt p.toNat) : n.readUInt16 = .ok p := by
  have hlt := p.toNat_lt
  have hread : n.readInt ⟨"u16", 0, 65535⟩ = .ok p.toNat :=
    h.read (by unfold InWord; omega) (by dsimp only; omega)
  unfold Node.readUInt16
  rw [hread]
  simp [Except.map]

theorem IsInt.readUInt64 {p : UInt64} (h : n.IsInt p.toNat) : n.readUInt64 = .ok p := by
  have hlt := p.toNat_lt
  have hread : n.readInt ⟨"u64", 0, 18446744073709551615⟩ = .ok p.toNat :=
    h.read (by unfold InWord; omega) (by dsimp only; omega)
  unfold Node.readUInt64
  rw [hread]
  simp [Except.map]

theorem IsFlag.read {b : Bool} (h : n.IsFlag b) : n.readBool = .ok b := by
  rw [h]
  rfl

theorem readText_refused (h : Scalar.text.Refuses n) : ∃ issue, n.readText = .error issue := by
  unfold readText
  split
  · exact absurd rfl (h _)
  · exact ⟨_, rfl⟩

/-- Only what is written as a whole number within the range is read as one. -/
theorem readInt_refused {range : IntRange} (proper : n.Proper) (h : (Scalar.int range).Refuses n) :
    ∃ issue, n.readInt range = .error issue := by
  obtain ⟨bs, spelling⟩ := proper
  unfold readInt
  split
  · next x =>
    cases spelling with
    | numeral spelling =>
      split
      · next i hi =>
        split
        · next hrange =>
          have hsame : Node.IsInt (.numeral x) i :=
            congrArg Node.numeral (Number.eq_numeral spelling hi)
          exact absurd hsame (h i hrange.1 hrange.2)
        · exact ⟨_, rfl⟩
      · exact ⟨_, rfl⟩
      · exact ⟨_, rfl⟩
  · exact ⟨_, rfl⟩

theorem readUInt16_refused (proper : n.Proper) (h : (Scalar.int ⟨"u16", 0, 65535⟩).Refuses n) :
    ∃ issue, n.readUInt16 = .error issue := by
  obtain ⟨issue, hissue⟩ := readInt_refused proper h
  refine ⟨issue, ?_⟩
  unfold readUInt16
  rw [hissue]
  rfl

theorem readUInt64_refused (proper : n.Proper)
    (h : (Scalar.int ⟨"u64", 0, 18446744073709551615⟩).Refuses n) :
    ∃ issue, n.readUInt64 = .error issue := by
  obtain ⟨issue, hissue⟩ := readInt_refused proper h
  refine ⟨issue, ?_⟩
  unfold readUInt64
  rw [hissue]
  rfl

theorem readBool_refused (h : Scalar.flag.Refuses n) : ∃ issue, n.readBool = .error issue := by
  unfold readBool
  split
  · exact absurd rfl (h _)
  · exact ⟨_, rfl⟩

end Node

section
variable {α σ : Type} {name : String} {old : Option α} {new : Reading α} {set : Option α → σ}

theorem offer_of_fill {draft : σ} (h : (fill name old new).map set = .ok draft) :
    ∃ field, Shape.offer old new.toOption = some field ∧ draft = set field := by
  rw [← Shape.fill_toOption name]
  cases hfill : fill name old new with
  | error issue =>
    rw [hfill] at h
    cases h
  | ok field =>
    rw [hfill] at h
    cases h
    exact ⟨field, rfl, rfl⟩

theorem offer_of_fill_error {issue : Issue} (h : (fill name old new).map set = .error issue) :
    Shape.offer old new.toOption = none := by
  rw [← Shape.fill_toOption name]
  cases hfill : fill name old new with
  | error issue => rfl
  | ok field =>
    rw [hfill] at h
    cases h

theorem eq_of_skip {n : Node} {draft draft' : σ} (h : (n.skip.map fun _ => draft) = .ok draft') :
    draft = draft' := by
  cases hskip : n.skip with
  | error issue =>
    rw [hskip] at h
    cases h
  | ok =>
    rw [hskip] at h
    exact Except.ok.inj h

end

theorem Node.skip_of_isWhole {n : Node} (h : n.isWhole = true) : n.skip = .ok () := by
  unfold skip
  rw [h]
  rfl

end Json

namespace AppSettings

/-- The settings that the members of an object give. -/
structure Shown (members : List (String × Node)) (a : AppSettings) : Prop where
  name : Given Node.IsText members "name" "rabbitmq-reliable" a.name
  env : Given Node.IsText members "env" "dev" a.env

/-- The fields, with what they refuse. -/
def fields : List (String × (Node → Prop)) :=
  [("name", Scalar.text.Refuses), ("env", Scalar.text.Refuses)]

def slots : List (Slot Draft) :=
  [⟨String, "name", Node.readText, Draft.name⟩, ⟨String, "env", Node.readText, Draft.env⟩]

theorem takes : Takes slots readMember where
  ok {draft key n draft'} h := by
    unfold readMember at h
    -- The last case is a member that is not known: the draft stays, and no field has its name.
    split at h
    case h_3 =>
      cases eq_of_skip h
      simp_all [slots, Slot.after]
    all_goals
      obtain ⟨field, hoffer, rfl⟩ := offer_of_fill h
      simp [slots, Slot.after, hoffer]
  error {draft key n issue} hwhole h := by
    unfold readMember at h
    split at h
    case h_3 =>
      rw [Node.skip_of_isWhole hwhole] at h
      cases h
    all_goals simp [slots, Slot.after, offer_of_fill_error h]

theorem read_object (nodes : List Member) : read (.object nodes true) =
    (readMembers readMember {} nodes true).map ofDraft := rfl

theorem exists_slot : ∀ f ∈ fields, ∃ slot ∈ slots, slot.Is {} f.1 f.2 := by
  simp only [fields, List.forall_mem_cons]
  refine ⟨⟨slots[0], List.getElem_mem _, rfl, rfl, fun _ => Node.readText_refused⟩,
    ⟨slots[1], List.getElem_mem _, rfl, rfl, fun _ => Node.readText_refused⟩, ?_⟩
  simp

section
variable {n : Node} {members : List (String × Node)} (proper : n.Proper)
  (object : n.IsObject members)
include proper object

theorem read_shown {a : AppSettings} (shown : Shown members a) : read n = .ok a := by
  have hproper := object.proper_members proper
  have name : slots[0].Settles members {} "rabbitmq-reliable" a.name :=
    Slot.settles_of_given hproper rfl shown.name fun _ h => h.read
  have env : slots[1].Settles members {} "dev" a.env :=
    Slot.settles_of_given hproper rfl shown.env fun _ h => h.read
  have hall : ∀ slot ∈ slots, slot.final members {} ≠ none := by
    simp only [slots, List.forall_mem_cons]
    exact ⟨name.ne_none, env.ne_none, by simp⟩
  obtain ⟨draft, hread, hfinal⟩ := takes.read_ok read_object proper object hall
  simp only [slots, List.forall_mem_cons] at hfinal
  obtain ⟨hname, henv, -⟩ := hfinal
  rw [hread]
  cases a
  exact congrArg Except.ok (congrArg₂ AppSettings.mk (name.getD hname) (env.getD henv))

theorem read_faulty (faulty : Faulty fields members) : ∃ issue, read n = .error issue :=
  takes.read_faulty read_object proper object exists_slot faulty

end
end AppSettings

namespace ConnectionSettings

/-- Port and limit have 16 bits, the timeout has 64. -/
structure Shown (members : List (String × Node)) (c : ConnectionSettings) : Prop where
  host : Given Node.IsText members "host" "127.0.0.1" c.host
  port : Given (fun n p => n.IsInt p.toNat) members "port" 5672 c.port
  user : Given Node.IsText members "user" "guest" c.user
  password : Given Node.IsText members "password" "guest" c.password
  vhost : Given Node.IsText members "vhost" "/" c.vhost
  maxQos : Given (fun n q => n.IsInt q.toNat) members "max_qos" 0 c.maxQos
  confirm : Given Node.IsFlag members "confirm" true c.confirm
  timeout : Given (fun n t => n.IsInt t.toNat) members "connection_timeout" 10000 c.timeout

def fields : List (String × (Node → Prop)) :=
  [("host", Scalar.text.Refuses), ("port", (Scalar.int ⟨"u16", 0, 65535⟩).Refuses),
    ("user", Scalar.text.Refuses), ("password", Scalar.text.Refuses),
    ("vhost", Scalar.text.Refuses), ("max_qos", (Scalar.int ⟨"u16", 0, 65535⟩).Refuses),
    ("confirm", Scalar.flag.Refuses),
    ("connection_timeout", (Scalar.int ⟨"u64", 0, 18446744073709551615⟩).Refuses)]

def slots : List (Slot Draft) :=
  [⟨String, "host", Node.readText, Draft.host⟩, ⟨UInt16, "port", Node.readUInt16, Draft.port⟩,
    ⟨String, "user", Node.readText, Draft.user⟩,
    ⟨String, "password", Node.readText, Draft.password⟩,
    ⟨String, "vhost", Node.readText, Draft.vhost⟩,
    ⟨UInt16, "max_qos", Node.readUInt16, Draft.maxQos⟩,
    ⟨Bool, "confirm", Node.readBool, Draft.confirm⟩,
    ⟨UInt64, "connection_timeout", Node.readUInt64, Draft.timeout⟩]

theorem takes : Takes slots readMember where
  ok {draft key n draft'} h := by
    unfold readMember at h
    split at h
    case h_9 =>
      cases eq_of_skip h
      simp_all [slots, Slot.after]
    all_goals
      obtain ⟨field, hoffer, rfl⟩ := offer_of_fill h
      simp [slots, Slot.after, hoffer]
  error {draft key n issue} hwhole h := by
    unfold readMember at h
    split at h
    case h_9 =>
      rw [Node.skip_of_isWhole hwhole] at h
      cases h
    all_goals simp [slots, Slot.after, offer_of_fill_error h]

theorem read_object (nodes : List Member) : read (.object nodes true) =
    (readMembers readMember {} nodes true).map ofDraft := rfl

theorem exists_slot : ∀ f ∈ fields, ∃ slot ∈ slots, slot.Is {} f.1 f.2 := by
  simp only [fields, List.forall_mem_cons]
  refine ⟨⟨slots[0], List.getElem_mem _, rfl, rfl, fun _ => Node.readText_refused⟩,
    ⟨slots[1], List.getElem_mem _, rfl, rfl, Node.readUInt16_refused⟩,
    ⟨slots[2], List.getElem_mem _, rfl, rfl, fun _ => Node.readText_refused⟩,
    ⟨slots[3], List.getElem_mem _, rfl, rfl, fun _ => Node.readText_refused⟩,
    ⟨slots[4], List.getElem_mem _, rfl, rfl, fun _ => Node.readText_refused⟩,
    ⟨slots[5], List.getElem_mem _, rfl, rfl, Node.readUInt16_refused⟩,
    ⟨slots[6], List.getElem_mem _, rfl, rfl, fun _ => Node.readBool_refused⟩,
    ⟨slots[7], List.getElem_mem _, rfl, rfl, Node.readUInt64_refused⟩, ?_⟩
  simp

section
variable {n : Node} {members : List (String × Node)} (proper : n.Proper)
  (object : n.IsObject members)
include proper object

theorem read_shown {c : ConnectionSettings} (shown : Shown members c) : read n = .ok c := by
  have hproper := object.proper_members proper
  have host : slots[0].Settles members {} "127.0.0.1" c.host :=
    Slot.settles_of_given hproper rfl shown.host fun _ h => h.read
  have port : slots[1].Settles members {} (5672 : UInt16) c.port :=
    Slot.settles_of_given hproper rfl shown.port fun _ h => Node.IsInt.readUInt16 h
  have user : slots[2].Settles members {} "guest" c.user :=
    Slot.settles_of_given hproper rfl shown.user fun _ h => h.read
  have password : slots[3].Settles members {} "guest" c.password :=
    Slot.settles_of_given hproper rfl shown.password fun _ h => h.read
  have vhost : slots[4].Settles members {} "/" c.vhost :=
    Slot.settles_of_given hproper rfl shown.vhost fun _ h => h.read
  have maxQos : slots[5].Settles members {} (0 : UInt16) c.maxQos :=
    Slot.settles_of_given hproper rfl shown.maxQos fun _ h => Node.IsInt.readUInt16 h
  have confirm : slots[6].Settles members {} true c.confirm :=
    Slot.settles_of_given hproper rfl shown.confirm fun _ h => h.read
  have timeout : slots[7].Settles members {} (10000 : UInt64) c.timeout :=
    Slot.settles_of_given hproper rfl shown.timeout fun _ h => Node.IsInt.readUInt64 h
  have hall : ∀ slot ∈ slots, slot.final members {} ≠ none := by
    simp only [slots, List.forall_mem_cons]
    exact ⟨host.ne_none, port.ne_none, user.ne_none, password.ne_none, vhost.ne_none,
      maxQos.ne_none, confirm.ne_none, timeout.ne_none, by simp⟩
  obtain ⟨draft, hread, hfinal⟩ := takes.read_ok read_object proper object hall
  simp only [slots, List.forall_mem_cons] at hfinal
  obtain ⟨hhost, hport, huser, hpassword, hvhost, hmaxQos, hconfirm, htimeout, -⟩ := hfinal
  have hsame : ofDraft draft = c := by
    cases c
    simp only [ofDraft, mk.injEq]
    exact ⟨host.getD hhost, port.getD hport, user.getD huser, password.getD hpassword,
      vhost.getD hvhost, maxQos.getD hmaxQos, confirm.getD hconfirm, timeout.getD htimeout⟩
  rw [hread, hsame]

theorem read_faulty (faulty : Faulty fields members) : ∃ issue, read n = .error issue :=
  takes.read_faulty read_object proper object exists_slot faulty

end
end ConnectionSettings

namespace Settings

/-- The settings that the members of an object give. A section that is left out is like one without
members. -/
structure Shown (members : List (String × Node)) (s : Settings) : Prop where
  app : ∃ fields, Given Node.IsObject members "app" [] fields ∧ AppSettings.Shown fields s.app
  connection : ∃ fields, Given Node.IsObject members "rabbitmq" [] fields ∧
    ConnectionSettings.Shown fields s.connection

/-- The sections, with what they refuse: objects in which a field is faulty. -/
def fields : List (String × (Node → Prop)) :=
  [("app", fun n => ∃ members, n.IsObject members ∧ Faulty AppSettings.fields members),
    ("rabbitmq", fun n => ∃ members, n.IsObject members ∧ Faulty ConnectionSettings.fields members)]

def slots : List (Slot Draft) :=
  [⟨AppSettings, "app", AppSettings.read, Draft.app⟩,
    ⟨ConnectionSettings, "rabbitmq", ConnectionSettings.read, Draft.connection⟩]

theorem takes : Takes slots readMember where
  ok {draft key n draft'} h := by
    unfold readMember at h
    split at h
    case h_3 =>
      cases eq_of_skip h
      simp_all [slots, Slot.after]
    all_goals
      obtain ⟨field, hoffer, rfl⟩ := offer_of_fill h
      simp [slots, Slot.after, hoffer]
  error {draft key n issue} hwhole h := by
    unfold readMember at h
    split at h
    case h_3 =>
      rw [Node.skip_of_isWhole hwhole] at h
      cases h
    all_goals simp [slots, Slot.after, offer_of_fill_error h]

theorem read_object (nodes : List Member) : read (.object nodes true) =
    (readMembers readMember {} nodes true).map fun d => ⟨d.app.getD {}, d.connection.getD {}⟩ := by
  change (readMembers readMember {} nodes true >>= _) = _
  cases readMembers readMember {} nodes true <;> rfl

theorem exists_slot : ∀ f ∈ fields, ∃ slot ∈ slots, slot.Is {} f.1 f.2 := by
  simp only [fields, List.forall_mem_cons]
  refine ⟨⟨slots[0], List.getElem_mem _, rfl, rfl, fun proper h => ?_⟩,
    ⟨slots[1], List.getElem_mem _, rfl, rfl, fun proper h => ?_⟩, by simp⟩
  · obtain ⟨members, object, faulty⟩ := h
    exact AppSettings.read_faulty proper object faulty
  · obtain ⟨members, object, faulty⟩ := h
    exact ConnectionSettings.read_faulty proper object faulty

end Settings

theorem Json.Node.proper_empty : (Node.object [] true).Proper :=
  ⟨_, .object (@MembersSpelling.empty [] (by decide))⟩

theorem Json.Node.isObject_empty : (Node.object [] true).IsObject [] := ⟨[], rfl, .nil⟩

theorem AppSettings.eq_of_shown_nil {a : AppSettings} (shown : Shown [] a) : a = {} := by
  have hread := read_shown Node.proper_empty Node.isObject_empty shown
  exact (Except.ok.inj hread).symm

theorem ConnectionSettings.eq_of_shown_nil {c : ConnectionSettings} (shown : Shown [] c) :
    c = {} := by
  have hread := read_shown Node.proper_empty Node.isObject_empty shown
  exact (Except.ok.inj hread).symm

namespace Settings
section
variable {n : Node} {members : List (String × Node)} (proper : n.Proper)
  (object : n.IsObject members)
include proper object

theorem read_shown {s : Settings} (shown : Shown members s) : read n = .ok s := by
  have hproper := object.proper_members proper
  obtain ⟨⟨_, happ, shownApp⟩, ⟨_, hconnection, shownConnection⟩⟩ := shown
  have app : slots[0].Settles members {} ({} : AppSettings) s.app :=
    Slot.settles_of_given hproper rfl (happ.object shownApp AppSettings.eq_of_shown_nil)
      fun proper ⟨_, object, shown⟩ => AppSettings.read_shown proper object shown
  have connection : slots[1].Settles members {} ({} : ConnectionSettings) s.connection :=
    Slot.settles_of_given hproper rfl
      (hconnection.object shownConnection ConnectionSettings.eq_of_shown_nil)
      fun proper ⟨_, object, shown⟩ => ConnectionSettings.read_shown proper object shown
  have hall : ∀ slot ∈ slots, slot.final members {} ≠ none := by
    simp only [slots, List.forall_mem_cons]
    exact ⟨app.ne_none, connection.ne_none, by simp⟩
  obtain ⟨draft, hread, hfinal⟩ := takes.read_ok read_object proper object hall
  simp only [slots, List.forall_mem_cons] at hfinal
  obtain ⟨happ', hconnection', -⟩ := hfinal
  rw [hread]
  cases s
  exact congrArg Except.ok (congrArg₂ Settings.mk (app.getD happ') (connection.getD hconnection'))

theorem read_faulty (faulty : Faulty fields members) : ∃ issue, read n = .error issue :=
  takes.read_faulty read_object proper object exists_slot faulty

end

theorem parse_of_spelling {n : Node} {body : Bytes} (h : SpacedSpelling n body) :
    parse body = read n := by
  unfold parse Document.read
  rw [h.document]
  cases read n <;> rfl

/-- However an object is written, it is parsed to the settings that it gives: a field of the
sections `app` and `rabbitmq` has the value of the one member with its name, or else its standard
value; other members do not matter, and neither does the order. The document is refused if a section
or a field in it is given more than once, or a field is given something of another type or a number
that is out of range. -/
theorem parse_object {n : Node} {members : List (String × Node)} {body : Bytes}
    (written : SpacedSpelling n body) (object : n.IsObject members) :
    (∀ s, Shown members s → parse body = .ok s) ∧
      (Faulty fields members → ∃ issue, parse body = .error issue) := by
  rw [parse_of_spelling written]
  constructor
  · intro s shown
    exact read_shown written.proper object shown
  · intro faulty
    exact read_faulty written.proper object faulty

end Settings

namespace Trial

/-- A number with a point and an exponent, and a surrogate without its pair. -/
def oddities : Node :=
  .list [.numeral ⟨false, [1], [5], some (false, [3])⟩, .text [0x5C, 0x75, 0x64, 0x38, 0x30, 0x30]]
    true

def app : Value := .object [("env", .text "prod")]

def connection : Value :=
  .object [("port", .number (.int 65535)), ("more", .object []), ("host", .text "mq")]

/-- The members of a document, in disorder and with some that are not known. -/
def disordered : List (String × Node) :=
  [("more", oddities), ("rabbitmq", connection.node), ("app", app.node)]

def disorderedBody : Bytes := Bytes.ofString
  "\x7b\n\"more\" :[1.5e3,\"\\ud800\"],\"rabbitmq\":\x7b\"port\":65535,\"more\":\x7b\x7d,\"host\":\"mq\"\x7d,\"\\u0061pp\":\x7b\"env\":\"prod\"\x7d\x7d"

/-- The port does not have 16 bits. -/
def overdrawn : Value := .object [("rabbitmq", .object [("port", .number (.int 65536))])]

theorem disordered_written :
    ∃ n, SpacedSpelling n disorderedBody ∧ n.IsObject disordered := by
  have numeral := Spelling.numeral (@NumeralSpelling.mk false [1] [5] (some (false, [3])) _ _
    ⟨by decide, by decide⟩ (by decide) (.some ⟨by decide, by decide⟩)
    (.some (.inl rfl) .none ⟨by decide, by decide⟩))
  have surrogate := Spelling.text (@RawText.digits 0x64 0x38 0x30 0x30 []
    (List.all_eq_true.mp (by decide)) .nil)
  have more : Spelling oddities _ := .list (.more numeral.spaced (.one surrogate.spaced))
  have letter : Escaped 'a' [0x5C, 0x75, 0x30, 0x30, 0x36, 0x31] :=
    .digits (List.all_eq_true.mp (by decide)) (by decide)
  have name : Spelled "app".toList _ := .cons letter (spelled_encodeText "pp")
  have moreMember := @MemberSpelling.mk _ _ [0x0A] [0x20] _ (by decide)
    (spelled_encodeText "more").rawText (by decide) more.spaced
  have connectionMember := Value.spelling_member "rabbitmq" (v := connection)
    (Value.spelling (by decide))
  have appMember := @MemberSpelling.mk _ _ [] [] _ (by decide) name.rawText (by decide)
    (Value.spelling (v := app) (by decide)).spaced
  have written :=
    (Spelling.object (.more moreMember (.more connectionMember (.one appMember)))).spaced
  have named := @Node.Named.mk _ _ connection.node (spelled_encodeText "rabbitmq")
  refine ⟨_, ?_, _, rfl, .cons (Node.Named.mk (spelled_encodeText "more"))
    (.cons named (.cons (Node.Named.mk name) .nil))⟩
  convert written using 1
  decide +kernel

end Trial

open Trial in
theorem Settings.parse_disordered :
    (∃ n, SpacedSpelling n disorderedBody ∧ n.IsObject disordered) ∧
    Settings.parse disorderedBody =
      .ok { app := { env := "prod" }, connection := { host := "mq", port := 65535 } } ∧
    ∃ issue, Settings.parse overdrawn.bytes = .error issue := by
  refine ⟨disordered_written, ?_, ?_⟩
  · obtain ⟨n, written, object⟩ := disordered_written
    refine (Settings.parse_object written object).1 _
      ⟨⟨_, .present rfl (Value.isObject_node _), ?_⟩, ⟨_, .present rfl (Value.isObject_node _), ?_⟩⟩
    · constructor
      · exact .absent (by decide)
      · exact .present rfl ⟨_, rfl, spelled_encodeText _⟩
    · constructor
      case host => exact .present rfl ⟨_, rfl, spelled_encodeText _⟩
      case port => exact .present rfl rfl
      all_goals exact .absent (by decide)
  · have written : SpacedSpelling overdrawn.node overdrawn.bytes :=
      (Value.spelling (by decide)).spaced
    apply (Settings.parse_object written (Value.isObject_node _)).2
    refine ⟨_, List.mem_cons_of_mem _ List.mem_cons_self, .inr ⟨_, List.mem_cons_self, ?_⟩⟩
    refine ⟨_, Value.isObject_node _, _, List.mem_cons_of_mem _ List.mem_cons_self,
      .inr ⟨_, List.mem_cons_self, ?_⟩⟩
    intro i hlow hhigh hport
    have hvalue := congrArg Numeral.value? (Node.numeral.inj hport)
    rw [Number.value?_numeral (by decide),
      Number.value?_numeral (by unfold InWord; dsimp only at hlow hhigh; omega)] at hvalue
    cases hvalue
    exact absurd hhigh (by decide)

end Courier
