import Courier.Proofs.Schema

/-! Which objects are envelopes: what counts is the members named `id`, `msg` and `body`. -/
namespace Courier.Envelope
open Json

/-- The payload may be under either of two names. -/
def isPayloadKey (key : String) : Bool := key = "msg" || key = "body"

/-- A member that an envelope is made of. -/
def counts (m : String × Value) : Bool := m.1 = "id" || isPayloadKey m.1

/-- The object is an envelope: one member is the id, which is not blank, and one is the payload. -/
structure Holds (t : PayloadType) (members : List (String × Value)) (e : Envelope) : Prop where
  id : members.filter (·.1 = "id") = [("id", .text e.id)]
  worded : Text.allBlank e.id = false
  payload : ∃ key v, members.filter (isPayloadKey ·.1) = [(key, v)] ∧
    t.shape.takes v = some e.payload

section
variable {t : PayloadType} {nodes : List Member} {members : List (String × Value)}

def ids (members : List (String × Value)) : List (Option String) :=
  (members.filter (·.1 = "id")).map (·.2.text?)

def payloads (t : PayloadType) (members : List (String × Value)) : List (Option Payload) :=
  (members.filter (isPayloadKey ·.1)).map (t.shape.takes ·.2)

theorem ids_cons (key : String) (v : Value) :
    ids ((key, v) :: members) = if key = "id" then v.text? :: ids members else ids members := by
  unfold ids
  by_cases h : key = "id" <;> simp [h]

theorem payloads_cons (key : String) (v : Value) :
    payloads t ((key, v) :: members) =
      if isPayloadKey key then t.shape.takes v :: payloads t members else payloads t members := by
  unfold payloads
  by_cases h : isPayloadKey key <;> simp [h]

/-- The draft that the values for its fields lead to. -/
def Draft.after (draft : Draft) (ids : List (Option String)) (payloads : List (Option Payload)) :
    Option Draft := do
  let id ← ids.foldlM Shape.offer draft.id
  let msg ← payloads.foldlM Shape.offer draft.msg
  return ⟨id, msg⟩

theorem Draft.after_id (draft : Draft) (o : Option String) (xs : List (Option String))
    (ys : List (Option Payload)) :
    ((Shape.offer draft.id o).bind fun id => { draft with id }.after xs ys) =
      draft.after (o :: xs) ys := by
  unfold Draft.after
  rw [List.foldlM_cons]
  cases Shape.offer draft.id o <;> rfl

theorem Draft.after_payload (draft : Draft) (o : Option Payload) (xs : List (Option String))
    (ys : List (Option Payload)) :
    ((Shape.offer draft.msg o).bind fun msg => { draft with msg }.after xs ys) =
      draft.after xs (o :: ys) := by
  unfold Draft.after
  rw [List.foldlM_cons]
  cases Shape.offer draft.msg o with
  | none => cases xs.foldlM Shape.offer draft.id <;> rfl
  | some msg =>
    rw [Option.bind_some]
    cases xs.foldlM Shape.offer draft.id <;> rfl

theorem readMember_shown (hs : t.shape.Sound) {n : Node} {v : Value} (h : n.Shows v) (key : String)
    (draft : Draft) (members : List (String × Value)) :
    ((readMember t draft key n).toOption.bind
      fun draft => draft.after (ids members) (payloads t members)) =
      draft.after (ids ((key, v) :: members)) (payloads t ((key, v) :: members)) := by
  unfold readMember
  rw [ids_cons, payloads_cons]
  by_cases hid : key = "id"
  · have hpayload : isPayloadKey key = false := by rw [hid]; decide
    rw [if_pos hid, if_pos hid, hpayload, toOption_map, Shape.fill_toOption, h.readText]
    exact (Option.bind_map ..).trans (Draft.after_id ..)
  · rw [if_neg hid, if_neg hid]
    by_cases hmsg : key = "msg" ∨ key = "body"
    · have hpayload : isPayloadKey key = true := by simpa [isPayloadKey] using hmsg
      rw [if_pos hmsg, if_pos hpayload, toOption_map, Shape.fill_toOption, Shape.read_shown hs h]
      exact (Option.bind_map ..).trans (Draft.after_payload ..)
    · have hpayload : ¬ isPayloadKey key = true := by simpa [isPayloadKey] using hmsg
      rw [if_neg hmsg, if_neg hpayload, h.skip]
      rfl

/-- Each member is an offer for its field, or is passed over. -/
theorem toOption_readMembers (hs : t.shape.Sound)
    (h : List.Forall₂ Node.ShowsMember nodes members) (draft : Draft) :
    (readMembers (readMember t) draft nodes true).toOption =
      draft.after (ids members) (payloads t members) := by
  induction h generalizing draft with
  | nil => rfl
  | @cons m e nodes members shows rest ih =>
    obtain ⟨hkey, shows⟩ := shows
    rw [readMembers, hkey]
    change (readMember t draft _ _ >>= _).toOption = _
    rw [toOption_bind, ← readMember_shown hs shows]
    simp only [ih]

theorem toOption_ofDraft (needed : t.shape.absent? = none) (draft : Draft) :
    (ofDraft t draft).toOption =
      draft.id.bind fun id => draft.msg.map fun payload => ⟨id, payload⟩ := by
  unfold ofDraft
  rw [needed, Option.or_none]
  cases draft.id <;> cases draft.msg <;> rfl

/-- The fields are filled if there is one value for each. -/
theorem after_eq_some {xs : List (Option String)} {ys : List (Option Payload)} {e : Envelope} :
    ((({} : Draft).after xs ys).bind fun draft =>
      draft.id.bind fun id => draft.msg.map fun payload => ⟨id, payload⟩) = some e ↔
      xs = [some e.id] ∧ ys = [some e.payload] := by
  obtain ⟨id', payload'⟩ := e
  rw [← Shape.join_foldlM_offer, ← Shape.join_foldlM_offer]
  unfold Draft.after
  rcases xs.foldlM Shape.offer none with _ | _ | id <;>
    rcases ys.foldlM Shape.offer none with _ | _ | payload <;>
    simp

theorem ids_eq {id : String} :
    ids members = [some id] ↔ members.filter (·.1 = "id") = [("id", .text id)] := by
  unfold ids
  rw [List.map_eq_singleton_iff]
  constructor
  · rintro ⟨⟨key, v⟩, hfound, hv⟩
    have hmem : (key, v) ∈ members.filter (·.1 = "id") := hfound ▸ List.mem_singleton_self _
    have hkey : key = "id" := of_decide_eq_true (List.mem_filter.mp hmem).2
    have htext : v = .text id := by
      cases v <;> cases hv
      rfl
    rw [hfound, hkey, htext]
  · intro hfound
    exact ⟨_, hfound, rfl⟩

theorem payloads_eq {payload : Payload} :
    payloads t members = [some payload] ↔
      ∃ key v, members.filter (isPayloadKey ·.1) = [(key, v)] ∧ t.shape.takes v = some payload := by
  unfold payloads
  rw [List.map_eq_singleton_iff]
  exact ⟨fun ⟨m, hm, hv⟩ => ⟨m.1, m.2, hm, hv⟩, fun ⟨key, v, hm, hv⟩ => ⟨(key, v), hm, hv⟩⟩

/-- An object is read as an envelope if it is one. -/
theorem read_object (hs : t.shape.Sound) (needed : t.shape.absent? = none)
    (h : List.Forall₂ Node.ShowsMember nodes members) (e : Envelope) :
    read t (.object nodes true) = .ok e ↔
      members.filter (·.1 = "id") = [("id", .text e.id)] ∧
        ∃ key v, members.filter (isPayloadKey ·.1) = [(key, v)] ∧
          t.shape.takes v = some e.payload := by
  rw [← toOption_eq_some, ← ids_eq, ← payloads_eq, ← after_eq_some, ← toOption_readMembers hs h]
  change (readMembers (readMember t) {} nodes true >>= ofDraft t).toOption = _ ↔ _
  rw [toOption_bind]
  simp only [toOption_ofDraft needed]

theorem decode_eq_ok {body : Bytes} {node : Node} (h : Document.ofBytes body = ⟨node, false⟩)
    (e : Envelope) :
    decode t body = .ok e ↔ read t node = .ok e ∧ Text.allBlank e.id = false := by
  unfold decode Document.read
  rw [h]
  cases hread : read t node with
  | error issue =>
    exact iff_of_false nofun nofun
  | ok e' =>
    change (if Text.allBlank e'.id then .error .blankId else .ok e' : Except EnvelopeError _) = _ ↔
      _
    by_cases hblank : Text.allBlank e'.id = true
    · rw [if_pos hblank]
      refine iff_of_false nofun ?_
      rintro ⟨⟨⟩, hworded⟩
      rw [hworded] at hblank
      cases hblank
    · rw [if_neg hblank]
      constructor
      · rintro ⟨⟩
        exact ⟨rfl, by simpa using hblank⟩
      · rintro ⟨⟨⟩, -⟩
        rfl

theorem holds_iff (e : Envelope) :
    Holds t members e ↔ (members.filter (·.1 = "id") = [("id", .text e.id)] ∧
      ∃ key v, members.filter (isPayloadKey ·.1) = [(key, v)] ∧
        t.shape.takes v = some e.payload) ∧ Text.allBlank e.id = false :=
  ⟨fun h => ⟨⟨h.id, h.payload⟩, h.worded⟩, fun h => ⟨h.1.1, h.2, h.1.2⟩⟩

/-- Only the members that count matter, in any order. -/
theorem Holds.perm {members' : List (String × Value)} {e : Envelope}
    (h : (members.filter counts).Perm (members'.filter counts)) (holds : Holds t members e) :
    Holds t members' e := by
  have found : ∀ {p : String × Value → Bool} {m : String × Value},
      (∀ m, p m = true → counts m = true) → members.filter p = [m] → members'.filter p = [m] := by
    intro p m hp hm
    have hboth : ∀ ms : List (String × Value), (ms.filter counts).filter p = ms.filter p := by
      intro ms
      rw [List.filter_filter]
      refine List.filter_congr fun m _ => ?_
      cases hpm : p m with
      | false => rfl
      | true => rw [hp m hpm]; rfl
    have hperm := h.filter p
    rw [hboth, hboth, hm] at hperm
    exact List.perm_singleton.mp hperm.symm
  obtain ⟨key, v, hv, htakes⟩ := holds.payload
  refine ⟨found (fun m hm => ?_) holds.id, holds.worded, key, v, found (fun m hm => ?_) hv, htakes⟩
  · exact Bool.or_eq_true_iff.mpr (.inl hm)
  · exact Bool.or_eq_true_iff.mpr (.inr hm)

theorem absent?_named {name : String} (h : name ≠ "OptString") :
    (PayloadType.named name).shape.absent? = none := by
  unfold PayloadType.named
  split <;> first | rfl | exact absurd rfl h

/-- However an object is written, it is decoded if and only if it is an envelope: one member is the
id, which is a text that is not blank, and one is the payload, under either of its names, and is
taken for the payload type. What is decoded is that id and that payload. Objects with two ids or two
payloads are refused, and neither the order of the members nor any others matter. -/
theorem decode_object {name : String} (hname : name ≠ "OptString")
    {members : List (String × Value)} {body : Bytes} (written : Padded (.object members) body) :
    (∀ e, decode (.named name) body = .ok e ↔ Holds (.named name) members e) ∧
      ((1 < (members.filter (·.1 = "id")).length ∨
          1 < (members.filter (isPayloadKey ·.1)).length) →
        ∃ error, decode (.named name) body = .error error) ∧
      ∀ members' body', Padded (.object members') body' →
        (members.filter counts).Perm (members'.filter counts) →
        ∀ e, decode (.named name) body' = .ok e ↔ decode (.named name) body = .ok e := by
  have decoded : ∀ {members body}, Padded (.object members) body →
      ∀ e, decode (.named name) body = .ok e ↔ Holds (.named name) members e := by
    intro members body written e
    obtain ⟨node, shows, hbody⟩ := written.document
    cases shows with
    | object h =>
      rw [decode_eq_ok hbody, read_object (PayloadType.named_sound name) (absent?_named hname) h,
        holds_iff]
  refine ⟨decoded written, fun twice => ?_, fun members' body' written' hperm e => ?_⟩
  · cases hd : decode (.named name) body with
    | error error => exact ⟨error, rfl⟩
    | ok e =>
      have holds := (decoded written e).mp hd
      obtain ⟨key, v, hv, -⟩ := holds.payload
      rw [holds.id, hv] at twice
      exact absurd twice (by simp)
  · rw [decoded written', decoded written]
    exact ⟨.perm hperm.symm, .perm hperm⟩

end

/-- The payload comes first, its fields in disorder, with blanks and an escape in its name. -/
theorem decode_disordered :
    let members := [("body", .object [("age", .int 5), ("name", .text "x"), ("more", .null)]),
      ("more", .list [.object [], .int (-7)]), ("id", .text "i")]
    let body := Bytes.ofString
      "\x7b\n\"\\u0062ody\" :\x7b\"age\":5,\"name\":\"x\",\"more\":null\x7d,\"more\":[\x7b\x7d,-7],\"id\":\"i\"\x7d"
    Padded (.object members) body ∧ "User" ≠ "OptString" ∧
      decode (.named "User") body = .ok ⟨"i", .object [("name", .text "x"), ("age", .int 5)]⟩ := by
  intro members body
  have name : Quoted "body" (0x22 :: ([0x5C, 0x75, 0x30, 0x30, 0x36, 0x32] ++ encodeText "ody" ++
      [0x22])) := .mk (.cons (.digits (List.all_eq_true.mp (by decide)) (by decide))
    (spelled_encodeText "ody"))
  have payload : Written (.object [("age", .int 5), ("name", .text "x"), ("more", .null)]) _ :=
    Value.written (by decide)
  have words : ∀ w ∈ (Value.object members).parts, w.isWord = true := by decide
  have rest : WrittenMembers members.tail _ := Value.writtenMembers fun m hm =>
    Value.written (Value.parts_of_member words (List.mem_of_mem_tail hm))
  have written : Padded (.object members) body := by
    have all := (Written.object (.more (@WrittenMember.mk _ _ [0x0A] _ [0x20] _ (by decide) name
      (by decide) payload.padded) rest)).padded
    convert all using 1
    decide +kernel
  have holds : Holds (.named "User") members
      ⟨"i", .object [("name", .text "x"), ("age", .int 5)]⟩ := ⟨rfl, by decide, _, _, rfl, rfl⟩
  exact ⟨written, by decide, ((decode_object (by decide) written).1 _).mpr holds⟩

/-- The body is an object, complete or not, in which no payload is named. -/
def Payloadless (body : Bytes) : Prop :=
  ∃ members closed, (Document.ofBytes body).root = .object members closed ∧
    ∀ m ∈ members, ∀ key, decodeText? m.1 = some key → isPayloadKey key = false

theorem readMember_msg {t : PayloadType} {draft draft' : Draft} {key : String} {n : Node}
    (h : readMember t draft key n = .ok draft') (hkey : isPayloadKey key = false) :
    draft'.msg = draft.msg := by
  have hmsg : ¬ (key = "msg" ∨ key = "body") := by simpa [isPayloadKey] using hkey
  unfold readMember at h
  by_cases hid : key = "id"
  · rw [if_pos hid] at h
    cases hf : fill "id" draft.id n.readText with
    | error => rw [hf] at h; cases h
    | ok => rw [hf] at h; cases h; rfl
  · rw [if_neg hid, if_neg hmsg] at h
    cases hs : n.skip with
    | error => rw [hs] at h; cases h
    | ok => rw [hs] at h; cases h; rfl

theorem readMembers_msg {t : PayloadType} {members : List Member} {closed : Bool}
    {draft draft' : Draft} (h : readMembers (readMember t) draft members closed = .ok draft')
    (hkeys : ∀ m ∈ members, ∀ key, decodeText? m.1 = some key → isPayloadKey key = false) :
    draft'.msg = draft.msg := by
  induction members generalizing draft with
  | nil =>
    cases closed with
    | true => cases h; rfl
    | false => cases h
  | cons m members ih =>
    obtain ⟨raw, n⟩ := m
    rw [readMembers] at h
    cases hraw : decodeText? raw with
    | none => rw [hraw] at h; cases h
    | some key =>
      rw [hraw] at h
      dsimp only at h
      cases hm : readMember t draft key n with
      | error => rw [hm] at h; cases h
      | ok next =>
        rw [hm] at h
        have hfirst := readMember_msg hm (hkeys _ List.mem_cons_self key hraw)
        exact (ih h fun m hm => hkeys m (List.mem_cons_of_mem _ hm)).trans hfirst

/-- Without a payload a body is malformed, unless something stands for it. -/
theorem decode_payloadless {t : PayloadType} {body : Bytes} (needed : t.shape.absent? = none)
    (h : Payloadless body) : ∃ reason, decode t body = .error (.malformed reason) := by
  obtain ⟨members, closed, hroot, hkeys⟩ := h
  have hread : ∃ issue, read t (.object members closed) = .error issue := by
    change ∃ issue, (readMembers (readMember t) {} members closed >>= ofDraft t) = .error issue
    cases hm : readMembers (readMember t) {} members closed with
    | error issue => exact ⟨issue, rfl⟩
    | ok draft =>
      have hmsg : draft.msg = none := readMembers_msg hm hkeys
      change ∃ issue, ofDraft t draft = .error issue
      unfold ofDraft
      rw [hmsg, needed]
      cases draft.id with
      | none => exact ⟨_, rfl⟩
      | some id => exact ⟨_, rfl⟩
  obtain ⟨issue, hissue⟩ := hread
  refine ⟨issue.message, ?_⟩
  unfold decode Document.read
  rw [hroot, hissue]
  rfl

/-- An object with an id and no payload. -/
def idOnly : Bytes := (Value.object [("id", .text "1")]).bytes

theorem idOnly_document : Document.ofBytes idOnly =
    ⟨.object [(encodeText "id", .text (encodeText "1"))] true, false⟩ :=
  Value.document_bytes (by decide)

theorem payloadless_idOnly : Payloadless idOnly := by
  refine ⟨_, true, congrArg Document.root idOnly_document, fun m hm key hkey => ?_⟩
  cases List.mem_singleton.mp hm
  rw [decodeText?_encodeText] at hkey
  cases hkey
  decide

theorem decode_idOnly : decode (.named "OptString") idOnly = .ok ⟨"1", .null⟩ := by
  have shows : List.Forall₂ Node.ShowsMember [(encodeText "id", .text (encodeText "1"))]
      [("id", .text "1")] :=
    .cons (.mk (decodeText?_encodeText _) (.text (decodeText?_encodeText _))) .nil
  have draft := toOption_eq_some.mp
    (toOption_readMembers (PayloadType.named_sound "OptString") shows {})
  refine (decode_eq_ok idOnly_document _).mpr ⟨?_, by decide⟩
  change (readMembers _ {} _ true >>= ofDraft _) = _
  rw [draft]
  rfl

end Courier.Envelope
