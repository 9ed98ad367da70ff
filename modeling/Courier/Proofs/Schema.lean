import Courier.Proofs.Envelope
import Courier.Proofs.Json.Grammar

/-! Which values a payload type takes, and for which payloads, however they are written. -/
namespace Courier
open Json

namespace Json

section
variable {α β γ ε : Type}

theorem toOption_bind (x : Except ε α) (f : α → Except ε β) :
    (x >>= f).toOption = x.toOption.bind fun a => (f a).toOption := by
  cases x <;> rfl

theorem toOption_map (x : Except ε α) (f : α → β) : (x.map f).toOption = x.toOption.map f := by
  cases x <;> rfl

theorem toOption_eq_some {x : Except ε α} {a : α} : x.toOption = some a ↔ x = .ok a := by
  cases x <;> simp [Except.toOption]

theorem forall₂_of_mem {R S : α → β → Prop} {as : List α} {bs : List β} (h : List.Forall₂ R as bs)
    (imp : ∀ a, ∀ b ∈ bs, R a b → S a b) : List.Forall₂ S as bs := by
  induction h with
  | nil => exact .nil
  | cons first _ ih =>
    exact .cons (imp _ _ List.mem_cons_self first)
      (ih fun a b hb => imp a b (List.mem_cons_of_mem _ hb))

/-- What is read item by item is taken value by value. -/
theorem toOption_mapM {f : α → Except ε γ} {g : β → Option γ} {as : List α} {bs : List β}
    (h : List.Forall₂ (fun a b => (f a).toOption = g b) as bs) :
    (as.mapM f).toOption = bs.mapM g := by
  induction h with
  | nil => rfl
  | @cons a b as bs first _ ih =>
    rw [List.mapM_cons, List.mapM_cons, toOption_bind, first]
    refine congrArg (Option.bind (g b)) (funext fun c => ?_)
    rw [toOption_bind, ih]
    rfl

theorem mapM_congr {f g : α → Option β} {as : List α} (h : ∀ a ∈ as, f a = g a) :
    as.mapM f = as.mapM g := by
  induction as with
  | nil => rfl
  | cons a as ih =>
    rw [List.mapM_cons, List.mapM_cons, h a List.mem_cons_self,
      ih fun b hb => h b (List.mem_cons_of_mem a hb)]

theorem mapM_eq_none {f : α → Option β} {as : List α} {a : α} (ha : a ∈ as) (h : f a = none) :
    as.mapM f = none := by
  induction as with
  | nil => cases ha
  | cons b as ih =>
    rw [List.mapM_cons]
    rcases List.mem_cons.mp ha with rfl | ha
    · rw [h]
      rfl
    · rw [ih ha]
      cases f b <;> rfl

end

namespace Value

mutual

/-- A value as it is kept: the entries of an object are in the order of their keys, and the last one
counts where a key comes twice. -/
def tidy : Value → Value
  | .list items => .list (tidyItems items)
  | .object members => .object (Keyed.ofEntries (tidyMembers members))
  | v => v

def tidyItems : List Value → List Value
  | [] => []
  | v :: vs => tidy v :: tidyItems vs

def tidyMembers : List (String × Value) → List (String × Value)
  | [] => []
  | (k, v) :: ms => (k, tidy v) :: tidyMembers ms

end

def text? : Value → Option String
  | .text s => some s
  | _ => none

/-- The value as it is kept, unless it is nested deeper than `n`. -/
def upTo (n : Nat) (v : Value) : Option Value := if v.depth ≤ n then some v.tidy else none

theorem mapM_upTo (n : Nat) (items : List Value) :
    items.mapM (upTo n) = if itemsDepth items ≤ n then some (tidyItems items) else none := by
  induction items with
  | nil => rfl
  | cons v vs ih =>
    rw [List.mapM_cons, ih, upTo, itemsDepth, tidyItems]
    simp only [Nat.max_le]
    by_cases hv : v.depth ≤ n <;> by_cases hvs : itemsDepth vs ≤ n <;> simp [hv, hvs]

theorem mapM_upTo_members (n : Nat) (members : List (String × Value)) :
    (members.mapM fun m => (upTo n m.2).map ((m.1, ·))) =
      if membersDepth members ≤ n then some (tidyMembers members) else none := by
  induction members with
  | nil => rfl
  | cons m ms ih =>
    rw [List.mapM_cons, ih, upTo, membersDepth, tidyMembers]
    simp only [Nat.max_le]
    by_cases hv : m.2.depth ≤ n <;> by_cases hvs : membersDepth ms ≤ n <;> simp [hv, hvs]

end Value

namespace Node
variable {n : Node} {v : Value}

theorem Shows.readText (h : n.Shows v) : n.readText.toOption = v.text? := by
  cases h with
  | text h => simp only [Node.readText, h]; rfl
  | _ => rfl

theorem Shows.skip (h : n.Shows v) : n.skip = .ok () := by
  cases h <;> rfl

/-- Any value is read as it is kept, unless it is nested too deep. -/
theorem Shows.readValue (h : n.Shows v) (depth : Nat) :
    (n.readValue depth).toOption = v.upTo depth := by
  induction v using Value.induct generalizing n depth with
  | null => cases h; cases depth <;> rfl
  | bool b => cases h; cases depth <;> rfl
  | number x =>
    cases h with
    | int hword =>
      unfold Node.readValue
      rw [Number.value?_numeral hword]
      rfl
  | text s =>
    cases h with
    | text hraw =>
      unfold Node.readValue
      rw [hraw]
      rfl
  | list items ih =>
    cases h with
    | @list nodes _ h =>
      cases depth with
      | zero => rfl
      | succ depth =>
        have hitems : List.Forall₂ (fun n v => (Node.readValue depth n).toOption = v.upTo depth)
            nodes items :=
          forall₂_of_mem h fun n v hv shows => ih v hv shows depth
        rw [Node.readValue, toOption_bind, toOption_mapM hitems, Value.mapM_upTo, Value.upTo,
          Value.depth, Value.tidy]
        by_cases hd : Value.itemsDepth items ≤ depth <;> simp [hd, Except.toOption]
  | object members ih =>
    cases h with
    | @object nodes _ h =>
      cases depth with
      | zero => rfl
      | succ depth =>
        rw [Node.readValue, toOption_bind,
          toOption_mapM (g := fun e => (e.2.upTo depth).map ((e.1, ·))) (forall₂_of_mem h ?entry),
          Value.mapM_upTo_members, Value.upTo, Value.depth, Value.tidy]
        case entry =>
          rintro _ _ he (@⟨raw, key, n, v, hkey, shows⟩)
          rw [← ih _ he shows depth]
          simp only [hkey]
          exact toOption_map _ _
        by_cases hd : Value.membersDepth members ≤ depth <;> simp [hd, Except.toOption]

end Node
end Json

/-- The value under a key that comes once. -/
def only? (key : String) (members : List (String × Value)) : Option Value :=
  match members.filter (·.1 = key) with
  | [m] => some m.2
  | _ => none

namespace Scalar

/-- A value of the type is taken as it is. -/
def takes (s : Scalar) (v : Value) : Option Value := if s.accepts v then some v else none

theorem read_shown (s : Scalar) {n : Node} {v : Value} (h : n.Shows v) :
    (s.read n).toOption = s.takes v := by
  cases s with
  | text =>
    rw [read, toOption_map, h.readText]
    cases v <;> rfl
  | int range =>
    rw [read, toOption_map]
    cases h with
    | @int i hword =>
      unfold Node.readInt
      dsimp only
      rw [Number.value?_numeral hword]
      unfold takes accepts
      by_cases hi : range.low ≤ i ∧ i ≤ range.high <;> simp [hi, Except.toOption]
    | _ => rfl
  | flag => cases h <;> rfl
  | unit => cases h <;> rfl

end Scalar

namespace Shape

/-- The fields of a record, each from the only member with its name. -/
def takeMembers (fields : List (String × Scalar)) (members : List (String × Value)) :
    Option (List (String × Value)) :=
  fields.mapM fun f => ((only? f.1 members).bind f.2.takes).map ((f.1, ·))

/-- The fields of a record from the items in their places. -/
def takeItems : List (String × Scalar) → List Value → Option (List (String × Value))
  | [], [] => some []
  | (name, s) :: fields, v :: items => do
    let v ← s.takes v
    return (name, v) :: (← takeItems fields items)
  | _, _ => none

/-- The payload that a value is taken for, if it is accepted. A record may be written as the list of
its fields. -/
def takes : Shape → Value → Option Payload
  | .scalar s, v => s.takes v
  | .guarded _ _, v => Scalar.text.takes v
  | .optional _, .null => some .null
  | .optional s, v => s.takes v
  | .list s, .list items => (items.mapM s.takes).map .list
  | .record _ fields, .object members => (takeMembers fields members).map .object
  | .record _ fields, .list items => (takeItems fields items).map .object
  | .any, v => v.upTo maxDepth
  | _, _ => none

/-- How a field that holds `old` goes on when a value is offered to it, which has to be taken. -/
def offer {α : Type} (old new : Option α) : Option (Option α) :=
  match old, new with
  | none, some a => some (some a)
  | _, _ => none

theorem offer_ne {α : Type} (old new : Option α) : offer old new ≠ some none := by
  cases old <;> cases new <;> exact nofun

theorem fill_toOption {α : Type} (name : String) (old : Option α) (new : Reading α) :
    (fill name old new).toOption = offer old new.toOption := by
  cases old <;> cases new <;> rfl

/-- An empty field is filled if there is just one value for it. -/
theorem foldlM_offer {α : Type} (offers : List (Option α)) :
    offers.foldlM offer none = match offers with
      | [] => some none
      | [o] => o.map some
      | _ => none := by
  match offers with
  | [] => rfl
  | [o] => cases o <;> rfl
  | none :: p :: rest => rfl
  | some a :: p :: rest => rfl

theorem join_foldlM_offer {α : Type} {offers : List (Option α)} {a : α} :
    (offers.foldlM offer none).join = some a ↔ offers = [some a] := by
  rw [foldlM_offer]
  rcases offers with _ | ⟨o, _ | ⟨p, rest⟩⟩
  · simp
  · cases o <;> simp
  · simp

theorem toOption_readFieldItems (title : String) {fields : List (String × Scalar)}
    {nodes : List Node} {items : List Value} (h : List.Forall₂ Node.Shows nodes items)
    (position : Nat) :
    (readFieldItems title position fields ⟨nodes, true⟩).toOption = takeItems fields items := by
  induction fields generalizing nodes items position with
  | nil => cases h <;> rfl
  | cons f fields ih =>
    obtain ⟨name, s⟩ := f
    cases h with
    | nil => rfl
    | @cons n v nodes items shows rest =>
      have hfield : (Items.field ⟨n :: nodes, true⟩ position title s.read).toOption =
          (s.takes v).map ((·, ⟨nodes, true⟩)) := by
        rw [← s.read_shown shows]
        cases hread : s.read n <;> simp [Items.field, Items.next, hread, bind, Except.bind] <;> rfl
      rw [readFieldItems, toOption_bind, hfield, takeItems]
      cases s.takes v with
      | none => rfl
      | some v =>
        change (readFieldItems title (position + 1) fields ⟨nodes, true⟩ >>= _).toOption = _
        rw [toOption_bind, ih rest]
        rfl

/-- The values for a field. -/
def offers (f : String × Scalar) (members : List (String × Value)) : List (Option Value) :=
  (members.filter (·.1 = f.1)).map fun m => f.2.takes m.2

theorem join_foldlM_offers (f : String × Scalar) (members : List (String × Value)) :
    ((offers f members).foldlM offer none).join = (only? f.1 members).bind f.2.takes := by
  rw [foldlM_offer]
  unfold offers only?
  generalize members.filter (·.1 = f.1) = found
  rcases found with _ | ⟨m, _ | ⟨m', rest⟩⟩
  · rfl
  · cases h : f.2.takes m.2 <;> simp [h]
  · rfl

theorem toOption_orderFields (draft : List (String × Value)) (fields : List (String × Scalar)) :
    (orderFields draft fields).toOption =
      fields.mapM fun f => (draft.lookup f.1).map ((f.1, ·)) := by
  induction fields with
  | nil => rfl
  | cons f fields ih =>
    rw [orderFields, List.mapM_cons, ← ih]
    cases draft.lookup f.1 with
    | none => rfl
    | some v => cases orderFields draft fields <;> rfl

theorem foldlM_offers_self (f : String × Scalar) (v : Value) (old : Option Value)
    (members : List (String × Value)) :
    (offers f ((f.1, v) :: members)).foldlM offer old =
      (offer old (f.2.takes v)).bind fun new => (offers f members).foldlM offer new := by
  unfold offers
  rw [List.filter_cons_of_pos (by simp)]
  rfl

theorem offers_of_ne {f : String × Scalar} {key : String} (h : key ≠ f.1) (v : Value)
    (members : List (String × Value)) : offers f ((key, v) :: members) = offers f members := by
  unfold offers
  rw [List.filter_cons_of_neg (by simpa using h)]

section
variable {fields : List (String × Scalar)} (hfields : (fields.map Prod.fst).Nodup)
include hfields

/-- What a member does to the fields read so far. -/
theorem readFieldMember_shown {n : Node} {v : Value} (h : n.Shows v) (key : String)
    (draft : List (String × Value)) :
    match readFieldMember fields draft key n with
    | .ok draft' => ∀ f ∈ fields, ∀ members,
        (offers f ((key, v) :: members)).foldlM offer (draft.lookup f.1) =
          (offers f members).foldlM offer (draft'.lookup f.1)
    | .error _ => ∃ f ∈ fields, ∀ members,
        (offers f ((key, v) :: members)).foldlM offer (draft.lookup f.1) = none := by
  have other : ∀ {f : String × Scalar}, f.1 ≠ key → ∀ w,
      ((key, w) :: draft).lookup f.1 = draft.lookup f.1 := by
    intro f hne w
    rw [List.lookup_cons, beq_false_of_ne hne]
  unfold readFieldMember
  cases hl : fields.lookup key with
  | none =>
    rw [h.skip]
    intro f hf members
    have hne : key ≠ f.1 := by
      rintro rfl
      rw [lookup_of_mem hfields hf] at hl
      cases hl
    rw [offers_of_ne hne]
  | some s =>
    have hmem : (key, s) ∈ fields := by
      obtain ⟨front, back, rfl, -⟩ := List.lookup_eq_some_iff.mp hl
      exact List.mem_append_right _ List.mem_cons_self
    have hoffer := fill_toOption key (draft.lookup key) (s.read n)
    rw [s.read_shown h] at hoffer
    dsimp only
    cases hfill : fill key (draft.lookup key) (s.read n) with
    | error issue =>
      rw [hfill] at hoffer
      refine ⟨(key, s), hmem, fun members => ?_⟩
      rw [foldlM_offers_self, ← hoffer]
      rfl
    | ok new =>
      rw [hfill] at hoffer
      cases new with
      | none => exact absurd hoffer.symm (offer_ne _ _)
      | some w =>
        intro f hf members
        by_cases hkey : f.1 = key
        · subst hkey
          have hs : f.2 = s := Option.some.inj ((lookup_of_mem hfields hf).symm.trans hl)
          rw [foldlM_offers_self, hs, ← hoffer, List.lookup_cons_self]
          rfl
        · rw [offers_of_ne (Ne.symm hkey), other hkey]

theorem readMembers_fields {nodes : List Member} {members : List (String × Value)}
    (h : List.Forall₂ Node.ShowsMember nodes members) (draft : List (String × Value)) :
    match readMembers (readFieldMember fields) draft nodes true with
    | .ok draft' => ∀ f ∈ fields,
        (offers f members).foldlM offer (draft.lookup f.1) = some (draft'.lookup f.1)
    | .error _ => ∃ f ∈ fields, (offers f members).foldlM offer (draft.lookup f.1) = none := by
  induction h generalizing draft with
  | nil => exact fun f _ => rfl
  | @cons m e nodes members shows rest ih =>
    obtain ⟨hkey, shows⟩ := shows
    rename_i raw key n v
    have hstep := readFieldMember_shown hfields shows key draft
    rw [readMembers, hkey]
    dsimp only
    cases hread : readFieldMember fields draft key n with
    | error issue =>
      rw [hread] at hstep
      obtain ⟨f, hf, hnone⟩ := hstep
      exact ⟨f, hf, hnone members⟩
    | ok draft' =>
      rw [hread] at hstep
      have hrest := ih draft'
      change match readMembers (readFieldMember fields) draft' nodes true with
        | .ok draft' => _
        | .error _ => _
      cases hall : readMembers (readFieldMember fields) draft' nodes true with
      | error issue =>
        rw [hall] at hrest
        obtain ⟨f, hf, hnone⟩ := hrest
        exact ⟨f, hf, (hstep f hf members).trans hnone⟩
      | ok final =>
        rw [hall] at hrest
        exact fun f hf => (hstep f hf members).trans (hrest f hf)

theorem toOption_readRecord (name : String) {n : Node} {v : Value} (h : n.Shows v) :
    (readRecord name fields n).toOption = (record name fields).takes v := by
  unfold readRecord
  rw [toOption_bind]
  cases h with
  | list h =>
    change (readFieldItems _ 0 fields _).toOption.bind _ = _
    rw [toOption_readFieldItems _ h]
    exact Option.map_eq_bind.symm
  | @object nodes members h =>
    have hmembers := readMembers_fields hfields h []
    change (readMembers (readFieldMember fields) [] nodes true >>= fun draft =>
      orderFields draft fields).toOption.bind _ = _
    rw [toOption_bind, takes, takeMembers]
    cases hread : readMembers (readFieldMember fields) [] nodes true with
    | error issue =>
      rw [hread] at hmembers
      obtain ⟨f, hf, hnone⟩ := hmembers
      have hfield : (only? f.1 members).bind f.2.takes = none :=
        (join_foldlM_offers f members).symm.trans (congrArg Option.join hnone)
      rw [mapM_eq_none hf (congrArg _ hfield)]
      rfl
    | ok draft =>
      rw [hread] at hmembers
      have hdraft : ∀ f ∈ fields, (draft.lookup f.1).map ((f.1, ·)) =
          ((only? f.1 members).bind f.2.takes).map ((f.1, ·)) := by
        intro f hf
        have hslot := congrArg Option.join (hmembers f hf)
        exact congrArg (Option.map _) (hslot.symm.trans (join_foldlM_offers f members))
      rw [← mapM_congr hdraft, ← toOption_orderFields]
      exact Option.map_eq_bind.symm
  | _ => rfl

end

/-- A tree of a value is read as the payload that the value is taken for. -/
theorem read_shown {s : Shape} (hs : s.Sound) {n : Node} {v : Value} (h : n.Shows v) :
    (s.read n).toOption = s.takes v := by
  cases s with
  | scalar s => exact s.read_shown h
  | guarded refused reason => exact Scalar.text.read_shown h
  | optional s =>
    cases h with
    | null => rfl
    | bool b => exact s.read_shown (.bool b)
    | int h => exact s.read_shown (.int h)
    | text h => exact s.read_shown (.text h)
    | list h => exact s.read_shown (.list h)
    | object h => exact s.read_shown (.object h)
  | list s =>
    cases h with
    | list h =>
      have hitems := toOption_mapM (h.imp fun n v => s.read_shown)
      rw [read, readList, toOption_bind, hitems]
      exact Option.map_eq_bind.symm
    | _ => rfl
  | record name fields => exact toOption_readRecord hs.1 name h
  | any => exact h.readValue maxDepth

end Shape
end Courier
