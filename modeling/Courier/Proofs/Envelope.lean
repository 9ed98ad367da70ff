import Courier.Envelope
import Courier.Proofs.Json.Reading

/-! A payload is read back as it was written, and so is its envelope. -/
namespace Courier
open Json

namespace Scalar

/-- The values of a scalar type. -/
def accepts : Scalar → Value → Bool
  | .text, .text _ => true
  | .int range, .number (.int n) => decide (range.low ≤ n ∧ n ≤ range.high)
  | .flag, .bool _ => true
  | .unit, .null => true
  | _, _ => false

/-- All numbers of the type fit into 64 bits. -/
def Sound : Scalar → Prop
  | .int range => InWord range.low ∧ InWord range.high
  | _ => True

theorem read_node {s : Scalar} (hs : s.Sound) {v : Value} (hv : s.accepts v = true) :
    s.read v.node = .ok v := by
  cases s with
  | text =>
    cases v with
    | text t => rw [read, Value.readText_node]; rfl
    | _ => cases hv
  | int range =>
    cases v with
    | number n =>
      cases n with
      | int n =>
        have hn : range.low ≤ n ∧ n ≤ range.high := of_decide_eq_true hv
        have hword : InWord n := by
          obtain ⟨⟨hlow, _⟩, _, hhigh⟩ := hs
          constructor <;> omega
        rw [read, Value.readInt_node hword hn.1 hn.2]
        rfl
      | real => cases hv
    | _ => cases hv
  | flag =>
    cases v with
    | bool b => rfl
    | _ => cases hv
  | unit =>
    cases v with
    | null => rfl
    | _ => cases hv

end Scalar

namespace Shape

/-- The members are the fields, in the same order, each with a value of its type. -/
def acceptsFields : List (String × Scalar) → List (String × Value) → Bool
  | [], [] => true
  | (name, s) :: fields, (key, v) :: members =>
    name == key && s.accepts v && acceptsFields fields members
  | _, _ => false

/-- The values of a shape. -/
def accepts : Shape → Value → Bool
  | .scalar s, v => s.accepts v
  | .guarded _ _, v => Scalar.text.accepts v
  | .optional _, .null => true
  | .optional s, v => s.accepts v
  | .list s, .list items => items.all s.accepts
  | .record _ fields, .object members => acceptsFields fields members
  | .any, v => v.parts.all Value.isProper
  | _, _ => false

/-- No field of a record has the name of another. -/
def Sound : Shape → Prop
  | .scalar s | .optional s | .list s => s.Sound
  | .record _ fields => (fields.map Prod.fst).Nodup ∧ ∀ f ∈ fields, f.2.Sound
  | .guarded _ _ | .any => True

theorem lookup_of_mem {α : Type} {entries : List (String × α)} {key : String} {a : α}
    (hnames : (entries.map Prod.fst).Nodup) (h : (key, a) ∈ entries) :
    entries.lookup key = some a := by
  induction entries with
  | nil => cases h
  | cons e rest ih =>
    obtain ⟨k, b⟩ := e
    rw [List.map_cons, List.nodup_cons] at hnames
    rcases List.mem_cons.mp h with he | h
    · cases he
      rw [List.lookup_cons_self]
    · have hmem : key ∈ rest.map Prod.fst := List.mem_map_of_mem (f := Prod.fst) h
      have hk : key ≠ k := fun he => hnames.1 (he ▸ hmem)
      rw [List.lookup_cons, beq_false_of_ne hk]
      exact ih hnames.2 h

theorem acceptsFields_names {fields : List (String × Scalar)} {members : List (String × Value)}
    (h : acceptsFields fields members = true) :
    members.map Prod.fst = fields.map Prod.fst := by
  induction fields generalizing members with
  | nil =>
    cases members with
    | nil => rfl
    | cons => cases h
  | cons f fields ih =>
    cases members with
    | nil => cases h
    | cons m members =>
      simp only [acceptsFields, Bool.and_eq_true, beq_iff_eq] at h
      rw [List.map_cons, List.map_cons, h.1.1, ih h.2]

/-- Each member of a record goes into the draft, since no field comes twice. -/
theorem foldlM_readFieldMember {all fields : List (String × Scalar)}
    {members draft : List (String × Value)} (hall : (all.map Prod.fst).Nodup)
    (hsub : ∀ f ∈ fields, f ∈ all) (hsound : ∀ f ∈ all, f.2.Sound)
    (h : acceptsFields fields members = true)
    (hnames : ((members ++ draft).map Prod.fst).Nodup) :
    members.foldlM (fun draft m => readFieldMember all draft m.1 m.2.node) draft =
      .ok (members.reverse ++ draft) := by
  induction fields generalizing members draft with
  | nil =>
    cases members with
    | nil => rfl
    | cons => cases h
  | cons f fields ih =>
    obtain ⟨name, s⟩ := f
    cases members with
    | nil => cases h
    | cons m members =>
      obtain ⟨key, v⟩ := m
      simp only [acceptsFields, Bool.and_eq_true, beq_iff_eq] at h
      obtain ⟨⟨rfl, hv⟩, hrest⟩ := h
      have hfield : (name, s) ∈ all := hsub _ List.mem_cons_self
      have hfirst : draft.lookup name = none := by
        rw [List.lookup_eq_none_iff]
        rw [List.cons_append, List.map_cons, List.nodup_cons] at hnames
        intro e he
        have hmem : e.1 ∈ (members ++ draft).map Prod.fst :=
          List.mem_map_of_mem (List.mem_append_right _ he)
        exact bne_iff_ne.mpr fun hname => hnames.1 (hname ▸ hmem)
      have hstep : readFieldMember all draft name v.node = .ok ((name, v) :: draft) := by
        rw [readFieldMember, lookup_of_mem hall hfield]
        simp only [hfirst, Scalar.read_node (hsound _ hfield) hv]
        rfl
      have hmoved : ((members ++ (name, v) :: draft).map Prod.fst).Nodup := by
        refine (List.Perm.nodup_iff ?_).mp hnames
        exact (List.perm_middle.map Prod.fst).symm
      have htail := ih (fun f hf => hsub f (List.mem_cons_of_mem _ hf)) hrest hmoved
      rw [List.foldlM_cons, hstep, List.reverse_cons, List.append_assoc]
      exact htail

theorem orderFields_draft {draft : List (String × Value)} (hnames : (draft.map Prod.fst).Nodup)
    {fields : List (String × Scalar)} {members : List (String × Value)}
    (h : acceptsFields fields members = true) (hsub : ∀ m ∈ members, m ∈ draft) :
    orderFields draft fields = .ok members := by
  induction fields generalizing members with
  | nil =>
    cases members with
    | nil => rfl
    | cons => cases h
  | cons f fields ih =>
    obtain ⟨name, s⟩ := f
    cases members with
    | nil => cases h
    | cons m members =>
      obtain ⟨key, v⟩ := m
      simp only [acceptsFields, Bool.and_eq_true, beq_iff_eq] at h
      obtain ⟨⟨rfl, -⟩, hrest⟩ := h
      have hfound := lookup_of_mem hnames (hsub _ List.mem_cons_self)
      have htail := ih hrest fun m hm => hsub m (List.mem_cons_of_mem _ hm)
      rw [orderFields, hfound]
      simp only [htail]
      rfl

theorem readRecord_node (name : String) {fields : List (String × Scalar)}
    (hs : (record name fields).Sound) {members : List (String × Value)}
    (h : acceptsFields fields members = true) :
    readRecord name fields (Value.object members).node = .ok (.object members) := by
  obtain ⟨hfields, hsound⟩ := hs
  have hnames : (members.map Prod.fst).Nodup := acceptsFields_names h ▸ hfields
  have hdraft : members.foldlM (fun draft m => readFieldMember fields draft m.1 m.2.node) [] =
      .ok (members.reverse ++ []) :=
    foldlM_readFieldMember hfields (fun _ hf => hf) hsound h (by rwa [List.append_nil])
  have hnames' : ((members.reverse ++ []).map Prod.fst).Nodup := by
    rw [List.append_nil, List.map_reverse]
    exact List.pairwise_reverse.mpr (hnames.imp Ne.symm)
  have hmem : ∀ m ∈ members, m ∈ members.reverse ++ [] := by
    intro m hm
    rw [List.append_nil]
    exact List.mem_reverse.mpr hm
  have hordered := orderFields_draft hnames' h hmem
  simp only [readRecord, Value.node, Node.readRecord, readMembers_nodes, hdraft]
  change (orderFields _ fields >>= fun found => Except.ok (Value.object found)) = _
  rw [hordered]
  rfl

theorem readList_node {s : Scalar} (hs : s.Sound) {items : List Value}
    (h : items.all s.accepts = true) : readList s (Value.list items).node = .ok (.list items) := by
  have hitems : (items.map Value.node).mapM s.read = .ok items :=
    mapM_map fun v hv => Scalar.read_node hs (List.all_eq_true.mp h v hv)
  rw [Value.node, Value.itemNodes_eq, readList, hitems]
  rfl

/-- A value of a shape is read from its tree, provided that it holds no real number and is not
nested too deep. -/
theorem read_node {s : Shape} (hs : s.Sound) {v : Value} (hv : s.accepts v = true)
    (whole : ∀ w ∈ v.parts, w.isReal = false) (shallow : v.depth ≤ maxDepth) :
    s.read v.node = .ok v := by
  cases s with
  | scalar s => exact Scalar.read_node hs hv
  | guarded refused reason => exact Scalar.read_node (s := .text) trivial hv
  | optional s =>
    cases v with
    | null => rfl
    | _ => exact Scalar.read_node hs hv
  | list s =>
    cases v with
    | list items => exact readList_node hs hv
    | _ => cases hv
  | record name fields =>
    cases v with
    | object members => exact readRecord_node name hs hv
    | _ => cases hv
  | any => exact Value.readValue_node (List.all_eq_true.mp hv) whole shallow

end Shape

namespace PayloadType

theorem named_sound (name : String) : (named name).shape.Sound := by
  unfold named
  split <;> simp [text, Shape.Sound, Scalar.Sound, Scalar.u8, Scalar.u32, Scalar.u64, Scalar.i64,
    InWord]

end PayloadType

/-- The payloads that can be read as they were written. -/
structure PayloadType.Carries (t : PayloadType) (p : Payload) : Prop where
  sound : t.shape.Sound
  accepted : t.shape.accepts p = true
  whole : ∀ w ∈ p.parts, w.isReal = false
  shallow : p.depth ≤ Shape.maxDepth

namespace Envelope
variable {t : PayloadType} {e : Envelope} {body : Bytes}

theorem body_of_encode (h : e.encode t = .ok body) : body = e.toValue.bytes := by
  unfold encode at h
  cases hc : t.shape.check e.payload with
  | error reason => rw [hc] at h; cases h
  | ok => rw [hc] at h; cases h; rfl

theorem read_node (h : t.Carries e.payload) : read t e.toValue.node = .ok e := by
  have hmsg := Shape.read_node h.sound h.accepted h.whole h.shallow
  have hfields : readMembers (readMember t) {} (Value.memberNodes [("id", .text e.id),
      ("msg", e.payload)]) true = .ok ⟨some e.id, some e.payload⟩ := by
    rw [readMembers_nodes]
    simp only [List.foldlM_cons, List.foldlM_nil, readMember, Value.readText_node, hmsg]
    rfl
  simp only [read, toValue, Value.node, Node.readRecord, hfields]
  rfl

theorem whole_toValue (whole : ∀ w ∈ e.payload.parts, w.isReal = false) :
    ∀ w ∈ e.toValue.parts, w.isReal = false := by
  intro w hw
  simp only [toValue, Value.parts, Value.membersParts, List.mem_cons, List.mem_append,
    List.not_mem_nil, or_false] at hw
  rcases hw with rfl | rfl | hw
  · rfl
  · rfl
  · exact whole w hw

/-- An envelope is read back as it was written if its id is not blank. -/
theorem decode_bytes (h : t.Carries e.payload) :
    decode t e.toValue.bytes = if Text.allBlank e.id then .error .blankId else .ok e := by
  have hroot := Value.document_bytes (whole_toValue h.whole)
  have hread : (Document.ofBytes e.toValue.bytes).read (read t) = .ok e := by
    rw [hroot, Document.read, read_node h]
    rfl
  rw [decode, hread]

/-- For each payload type, decoding undoes encoding, except that a blank id is refused. -/
theorem decode_of_encode (name : String)
    (hv : (PayloadType.named name).shape.accepts e.payload = true)
    (whole : ∀ w ∈ e.payload.parts, w.isReal = false) (shallow : e.payload.depth ≤ Shape.maxDepth)
    (hb : e.encode (.named name) = .ok body) :
    decode (.named name) body = if Text.allBlank e.id then .error .blankId else .ok e := by
  rw [body_of_encode hb]
  exact decode_bytes ⟨PayloadType.named_sound name, hv, whole, shallow⟩

/-- A payload with escapes, the widest numbers, and lists and objects in each other. -/
def mixed : Payload :=
  .object [("", .list [.null, .bool true, .object []]),
    ("k\"\\\n\u001f", .list [.int (-9223372036854775808), .int 18446744073709551615]),
    ("é😀", .text "\u0000/\t")]

theorem decode_mixed :
    ((PayloadType.named "Value").shape.accepts mixed = true ∧
      (∀ w ∈ mixed.parts, w.isReal = false) ∧ mixed.depth ≤ Shape.maxDepth) ∧
    (∃ body, encode (.named "Value") ⟨"é\n", mixed⟩ = .ok body ∧
      decode (.named "Value") body = .ok ⟨"é\n", mixed⟩) ∧
    (∃ body, encode (.named "Value") ⟨"\u00a0", mixed⟩ = .ok body ∧
      decode (.named "Value") body = .error .blankId) := by
  have accepted : (PayloadType.named "Value").shape.accepts mixed = true := by decide
  have whole : ∀ w ∈ mixed.parts, w.isReal = false := by decide
  have shallow : mixed.depth ≤ Shape.maxDepth := by decide
  refine ⟨⟨accepted, whole, shallow⟩, ⟨_, rfl, ?_⟩, ⟨_, rfl, ?_⟩⟩
  · exact decode_of_encode (e := ⟨"é\n", mixed⟩) "Value" accepted whole shallow rfl
  · exact decode_of_encode (e := ⟨"\u00a0", mixed⟩) "Value" accepted whole shallow rfl

end Envelope
end Courier
