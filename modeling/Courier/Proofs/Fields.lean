import Courier.Proofs.Schema

/-! Fields that are read from the members of an object, each from the one that has its name. -/
namespace Courier.Json

namespace Node

/-- The name of a member is this text. -/
inductive Named : Member → String × Node → Prop
  | mk {raw : Bytes} {key : String} {n : Node} (h : Spelled key.toList raw) :
    Named (raw, n) (key, n)

/-- The node is an object with these members. -/
def IsObject (n : Node) (members : List (String × Node)) : Prop :=
  ∃ nodes, n = .object nodes true ∧ List.Forall₂ Named nodes members

def IsText (n : Node) (s : String) : Prop := ∃ raw, n = .text raw ∧ Spelled s.toList raw

/-- The node is a whole number, written without a point, an exponent or a negative zero. -/
def IsInt (n : Node) (i : Int) : Prop := n = .numeral (Number.int i).numeral

def IsFlag (n : Node) (b : Bool) : Prop := n = .bool b

end Node

theorem Node.proper_of_named {nodes : List Member} {members : List (String × Node)}
    (named : List.Forall₂ Node.Named nodes members) (proper : ∀ m ∈ nodes, m.2.Proper) :
    ∀ m ∈ members, m.2.Proper := by
  induction named with
  | nil => simp
  | cons first _ ih =>
    obtain ⟨hkey⟩ := first
    rw [List.forall_mem_cons] at proper ⊢
    exact ⟨proper.1, ih proper.2⟩

theorem Node.IsObject.proper_members {n : Node} {members : List (String × Node)}
    (object : n.IsObject members) (proper : n.Proper) : ∀ m ∈ members, m.2.Proper := by
  obtain ⟨nodes, rfl, named⟩ := object
  exact Node.proper_of_named named proper.members.2

theorem Value.isObject_node (members : List (String × Value)) :
    (Value.object members).node.IsObject (members.map fun m => (m.1, m.2.node)) := by
  refine ⟨_, rfl, ?_⟩
  rw [Value.memberNodes_eq]
  induction members with
  | nil => exact .nil
  | cons m ms ih => exact .cons (.mk (spelled_encodeText m.1)) ih

/-- What the members of an object give a field: the value in the one member that has its name, or
the standard if there is no such member. -/
inductive Given {α : Type} (means : Node → α → Prop) (members : List (String × Node)) (key : String)
    (standard : α) : α → Prop
  | absent (h : ∀ m ∈ members, m.1 ≠ key) : Given means members key standard standard
  | present {n : Node} {a : α} (h : members.filter (·.1 = key) = [(key, n)]) (ha : means n a) :
      Given means members key standard a

/-- An object that is left out gives what one without members gives. -/
theorem Given.object {α : Type} {shown : List (String × Node) → α → Prop}
    {members fields : List (String × Node)} {key : String} {standard a : α}
    (given : Given Node.IsObject members key [] fields) (h : shown fields a)
    (hempty : ∀ {a}, shown [] a → a = standard) :
    Given (fun n a => ∃ fields, n.IsObject fields ∧ shown fields a) members key standard a := by
  cases given with
  | absent habsent =>
    rw [hempty h]
    exact .absent habsent
  | present hpresent object => exact .present hpresent ⟨fields, object, h⟩

/-- A field is given more than once, or a value that it cannot have. -/
def Misgiven (refuses : Node → Prop) (members : List (String × Node)) (key : String) : Prop :=
  1 < (members.filter (·.1 = key)).length ∨ ∃ n, (key, n) ∈ members ∧ refuses n

/-- So it is with one of the fields, which are given with what they refuse. -/
def Faulty (fields : List (String × (Node → Prop))) (members : List (String × Node)) : Prop :=
  ∃ f ∈ fields, Misgiven f.2 members f.1

/-- A field of a draft: its name, how its value is read, and what the draft holds of it. -/
structure Slot (σ : Type) where
  α : Type
  key : String
  read : Node → Reading α
  get : σ → Option α

namespace Slot
variable {σ : Type} (slot : Slot σ) (members : List (String × Node))

/-- What the members offer to a field. -/
def offers : List (Option slot.α) :=
  (members.filter (·.1 = slot.key)).map fun m => (slot.read m.2).toOption

/-- What becomes of a field with a member: it takes the value if the member has its name. -/
def after (draft : σ) (key : String) (n : Node) : Option (Option slot.α) :=
  if key = slot.key then Shape.offer (slot.get draft) (slot.read n).toOption
  else some (slot.get draft)

/-- What becomes of a field with all the members. -/
def final (draft : σ) : Option (Option slot.α) :=
  (slot.offers members).foldlM Shape.offer (slot.get draft)

theorem final_cons (draft : σ) (key : String) (n : Node) :
    slot.final ((key, n) :: members) draft =
      (slot.after draft key n).bind fun new => (slot.offers members).foldlM Shape.offer new := by
  unfold final after offers
  by_cases h : key = slot.key
  · rw [if_pos h, List.filter_cons_of_pos (by simpa using h)]
    rfl
  · rw [if_neg h, List.filter_cons_of_neg (by simpa using h)]
    rfl

/-- The field has this name, holds nothing yet, and does not take what it is to refuse. -/
structure Is (draft : σ) (name : String) (refuses : Node → Prop) : Prop where
  key : slot.key = name
  empty : slot.get draft = none
  fails {n : Node} (proper : n.Proper) (h : refuses n) : ∃ issue, slot.read n = .error issue

/-- The members settle what becomes of a field. -/
def Settles (draft : σ) (standard a : slot.α) : Prop :=
  ∃ new, slot.final members draft = some new ∧ new.getD standard = a

variable {slot members} {draft : σ}

theorem Settles.ne_none {standard a : slot.α} (h : slot.Settles members draft standard a) :
    slot.final members draft ≠ none := by
  obtain ⟨new, hnew, -⟩ := h
  rw [hnew]
  simp

theorem Settles.getD {standard a : slot.α} (h : slot.Settles members draft standard a)
    {field : Option slot.α} (hfield : slot.final members draft = some field) :
    field.getD standard = a := by
  obtain ⟨new, hnew, ha⟩ := h
  rw [hfield] at hnew
  cases hnew
  exact ha

theorem settles_of_given {means : Node → slot.α → Prop} {standard a : slot.α}
    (proper : ∀ m ∈ members, m.2.Proper) (hempty : slot.get draft = none)
    (given : Given means members slot.key standard a)
    (reads : ∀ {n a}, n.Proper → means n a → slot.read n = .ok a) :
    slot.Settles members draft standard a := by
  unfold Settles final offers
  rw [hempty]
  cases given with
  | absent h =>
    have hnone : members.filter (·.1 = slot.key) = [] := by simpa using h
    rw [hnone]
    exact ⟨none, rfl, rfl⟩
  | @present n a h ha =>
    have hmem : (slot.key, n) ∈ members.filter (·.1 = slot.key) := h ▸ List.mem_singleton_self _
    have hproper := proper _ (List.mem_filter.mp hmem).1
    rw [h, List.map_singleton, reads hproper ha]
    exact ⟨some a, rfl, rfl⟩

/-- A field that is given twice, or cannot take what it is given, ends the reading. -/
theorem Is.final_of_misgiven {name : String} {refuses : Node → Prop}
    (h : slot.Is draft name refuses) (proper : ∀ m ∈ members, m.2.Proper)
    (misgiven : Misgiven refuses members name) : slot.final members draft = none := by
  obtain ⟨rfl, hempty, fails⟩ := h
  have hone : ∀ {offers : List (Option slot.α)}, (1 < offers.length ∨ none ∈ offers) →
      offers.foldlM Shape.offer none = none := by
    intro offers h
    rw [Shape.foldlM_offer]
    match offers with
    | [] => simp at h
    | [o] =>
      have ho : none = o := by simpa using h
      rw [← ho]
      rfl
    | _ :: _ :: _ => rfl
  unfold final
  rw [hempty]
  apply hone
  rcases misgiven with htwice | ⟨n, hn, hrefuses⟩
  · left
    simpa [offers] using htwice
  · right
    obtain ⟨issue, hissue⟩ := fails (proper _ hn) hrefuses
    refine List.mem_map.mpr ⟨(slot.key, n), ?_, by rw [hissue]; rfl⟩
    simp [hn]

end Slot

theorem readMembers_cons {σ : Type} {step : σ → String → Node → Reading σ} {draft : σ}
    {raw : Bytes} {key : String} {n : Node} {rest : List Member} {closed : Bool}
    (hkey : decodeText? raw = some key) :
    readMembers step draft ((raw, n) :: rest) closed =
      (step draft key n).bind fun next => readMembers step next rest closed := by
  rw [readMembers, hkey]
  rfl

/-- A step takes members into the fields of their names. It fails only at a field that does not take
a member. -/
structure Takes {σ : Type} (slots : List (Slot σ)) (step : σ → String → Node → Reading σ) :
    Prop where
  ok : ∀ {draft key n draft'}, step draft key n = .ok draft' →
    ∀ slot ∈ slots, slot.after draft key n = some (slot.get draft')
  error : ∀ {draft key n issue}, n.isWhole = true → step draft key n = .error issue →
    ∃ slot ∈ slots, slot.after draft key n = none

namespace Takes
variable {σ : Type} {slots : List (Slot σ)} {step : σ → String → Node → Reading σ}
  (takes : Takes slots step) {nodes : List Member} {members : List (String × Node)}
  (named : List.Forall₂ Node.Named nodes members) (proper : ∀ m ∈ nodes, m.2.Proper)
include takes named proper

/-- What reading all members comes to, in terms of each field on its own. -/
theorem readMembers (draft : σ) :
    match Json.readMembers step draft nodes true with
    | .ok draft' => ∀ slot ∈ slots, slot.final members draft = some (slot.get draft')
    | .error _ => ∃ slot ∈ slots, slot.final members draft = none := by
  -- A member changes the draft, so what becomes of a field is said from any draft on.
  induction named generalizing draft with
  | nil => exact fun slot _ => rfl
  | @cons m e nodes members first _ ih =>
    obtain @⟨raw, key, n, hkey⟩ := first
    have hwhole := (proper _ List.mem_cons_self).isWhole
    rw [readMembers_cons hkey.decodeText?]
    cases hstep : step draft key n with
    | error issue =>
      obtain ⟨slot, hslot, hnone⟩ := takes.error hwhole hstep
      refine ⟨slot, hslot, ?_⟩
      rw [slot.final_cons, hnone]
      rfl
    | ok next =>
      have hfinal : ∀ slot ∈ slots, slot.final ((key, n) :: members) draft =
          slot.final members next := by
        intro slot hslot
        rw [slot.final_cons, takes.ok hstep slot hslot]
        rfl
      have hrest := ih (fun m hm => proper m (List.mem_cons_of_mem _ hm)) next
      dsimp only [Except.bind]
      cases hread : Json.readMembers step next nodes true with
      | error issue =>
        rw [hread] at hrest
        obtain ⟨slot, hslot, hnone⟩ := hrest
        exact ⟨slot, hslot, (hfinal slot hslot).trans hnone⟩
      | ok draft' =>
        rw [hread] at hrest
        intro slot hslot
        exact (hfinal slot hslot).trans (hrest slot hslot)

end Takes

section
variable {σ α : Type} {slots : List (Slot σ)} {step : σ → String → Node → Reading σ}
  {read : Node → Reading α} {draft : σ} {ofDraft : σ → α} {n : Node}
  {members : List (String × Node)} (takes : Takes slots step)
  (reads : ∀ nodes, read (.object nodes true) =
    (Json.readMembers step draft nodes true).map ofDraft)
  (proper : n.Proper) (object : n.IsObject members)
include takes reads proper object

/-- A record is read if all fields come to something. -/
theorem Takes.read_ok (h : ∀ slot ∈ slots, slot.final members draft ≠ none) :
    ∃ draft', read n = .ok (ofDraft draft') ∧
      ∀ slot ∈ slots, slot.final members draft = some (slot.get draft') := by
  obtain ⟨nodes, rfl, named⟩ := object
  have hall := takes.readMembers named proper.members.2 draft
  rw [reads]
  cases hread : Json.readMembers step draft nodes true with
  | ok draft' =>
    rw [hread] at hall
    exact ⟨draft', rfl, hall⟩
  | error issue =>
    rw [hread] at hall
    obtain ⟨slot, hslot, hnone⟩ := hall
    exact absurd hnone (h slot hslot)

theorem Takes.read_faulty {fields : List (String × (Node → Prop))}
    (h : ∀ f ∈ fields, ∃ slot ∈ slots, slot.Is draft f.1 f.2) (faulty : Faulty fields members) :
    ∃ issue, read n = .error issue := by
  obtain ⟨nodes, rfl, named⟩ := object
  obtain ⟨f, hf, misgiven⟩ := faulty
  obtain ⟨slot, hslot, his⟩ := h f hf
  have hnone := his.final_of_misgiven (Node.proper_of_named named proper.members.2) misgiven
  have hall := takes.readMembers named proper.members.2 draft
  rw [reads]
  cases hread : Json.readMembers step draft nodes true with
  | error issue => exact ⟨issue, rfl⟩
  | ok draft' =>
    rw [hread] at hall
    have hsome := hall slot hslot
    rw [hnone] at hsome
    cases hsome

end
end Courier.Json
