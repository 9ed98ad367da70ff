import Courier.Proofs.Json.Document
import Mathlib.Data.List.Forall2

/-! How values may be written: with any blanks between their parts, and their texts with any
escapes. A document that is written so holds just that value. -/
namespace Courier.Json

inductive Quoted (s : String) : Bytes → Prop
  | mk {raw : Bytes} (h : Spelled s.toList raw) : Quoted s (0x22 :: (raw ++ [0x22]))

mutual

/-- The ways to write a value whose numbers are whole and have 64 bits. -/
inductive Written : Value → Bytes → Prop
  | null : Written .null [0x6E, 0x75, 0x6C, 0x6C]
  | yes : Written (.bool true) [0x74, 0x72, 0x75, 0x65]
  | no : Written (.bool false) [0x66, 0x61, 0x6C, 0x73, 0x65]
  | int {n : Int} (h : InWord n) : Written (.int n) (Number.int n).bytes
  | text {s : String} {bs : Bytes} (h : Quoted s bs) : Written (.text s) bs
  | list {items : List Value} {bs : Bytes} (h : WrittenItems items bs) :
      Written (.list items) (0x5B :: (bs ++ [0x5D]))
  | object {members : List (String × Value)} {bs : Bytes} (h : WrittenMembers members bs) :
      Written (.object members) (0x7B :: (bs ++ [0x7D]))

/-- A value with blanks around it. -/
inductive Padded : Value → Bytes → Prop
  | mk {v : Value} {before bs after : Bytes} (hbefore : Blank before) (h : Written v bs)
      (hafter : Blank after) : Padded v (before ++ (bs ++ after))

inductive WrittenItems : List Value → Bytes → Prop
  | empty {bs : Bytes} (h : Blank bs) : WrittenItems [] bs
  | one {v : Value} {bs : Bytes} (h : Padded v bs) : WrittenItems [v] bs
  | more {v u : Value} {vs : List Value} {bs cs : Bytes} (first : Padded v bs)
      (rest : WrittenItems (u :: vs) cs) : WrittenItems (v :: u :: vs) (bs ++ 0x2C :: cs)

inductive WrittenMember : String × Value → Bytes → Prop
  | mk {key : String} {v : Value} {before name after bs : Bytes} (hbefore : Blank before)
      (hkey : Quoted key name) (hafter : Blank after) (h : Padded v bs) :
      WrittenMember (key, v) (before ++ (name ++ (after ++ 0x3A :: bs)))

inductive WrittenMembers : List (String × Value) → Bytes → Prop
  | empty {bs : Bytes} (h : Blank bs) : WrittenMembers [] bs
  | one {m : String × Value} {bs : Bytes} (h : WrittenMember m bs) : WrittenMembers [m] bs
  | more {m l : String × Value} {ms : List (String × Value)} {bs cs : Bytes}
      (first : WrittenMember m bs) (rest : WrittenMembers (l :: ms) cs) :
      WrittenMembers (m :: l :: ms) (bs ++ 0x2C :: cs)

end

theorem Written.padded {v : Value} {bs : Bytes} (h : Written v bs) : Padded v bs := by
  have none : Blank [] := by decide
  have hpad := Padded.mk none h none
  rw [List.append_nil] at hpad
  exact hpad

theorem quoted_textBytes (s : String) : Quoted s (textBytes s) := .mk (spelled_encodeText s)

namespace Value

/-- A number is whole and has 64 bits. -/
def isWord : Value → Bool
  | .number (.int n) => decide (InWord n)
  | .number (.real _ _) => false
  | _ => true

theorem writtenItems {items : List Value} (h : ∀ v ∈ items, Written v v.bytes) :
    WrittenItems items (itemsBytes items) := by
  induction items with
  | nil => exact .empty (by decide)
  | cons v vs ih =>
    have first := (h v List.mem_cons_self).padded
    have rest := ih fun u hu => h u (List.mem_cons_of_mem v hu)
    cases vs with
    | nil =>
      rw [itemsBytes, moreItemsBytes, List.append_nil]
      exact .one first
    | cons u vs => exact .more first rest

theorem writtenMembers {members : List (String × Value)}
    (h : ∀ m ∈ members, Written m.2 m.2.bytes) : WrittenMembers members (membersBytes members) := by
  have member : ∀ (k : String) {v : Value} {bs : Bytes}, Written v bs →
      WrittenMember (k, v) (textBytes k ++ 0x3A :: bs) := fun k v bs h =>
    @WrittenMember.mk k v [] (textBytes k) [] bs (by decide) (quoted_textBytes k) (by decide)
      h.padded
  induction members with
  | nil => exact .empty (by decide)
  | cons m ms ih =>
    obtain ⟨k, v⟩ := m
    have first := member k (h (k, v) List.mem_cons_self)
    have rest := ih fun m hm => h m (List.mem_cons_of_mem _ hm)
    cases ms with
    | nil =>
      rw [membersBytes, moreMembersBytes, List.append_nil]
      exact .one first
    | cons l ms =>
      have hbytes : membersBytes ((k, v) :: l :: ms) =
          (textBytes k ++ 0x3A :: v.bytes) ++ 0x2C :: membersBytes (l :: ms) := by
        obtain ⟨k', v'⟩ := l
        simp [membersBytes, moreMembersBytes]
      rw [hbytes]
      exact .more first rest

/-- The bytes of a value are one of the ways to write it. -/
theorem written {v : Value} (h : ∀ w ∈ v.parts, w.isWord = true) : Written v v.bytes := by
  induction v using Value.induct with
  | null => exact .null
  | bool b => cases b with
    | true => exact .yes
    | false => exact .no
  | number n =>
    have hn := h _ (mem_parts_self _)
    cases n with
    | int n => exact .int (of_decide_eq_true hn)
    | real => cases hn
  | text s => exact .text (quoted_textBytes s)
  | list items ih => exact .list (writtenItems fun v hv => ih v hv (parts_of_item h hv))
  | object members ih => exact .object (writtenMembers fun m hm => ih m hm (parts_of_member h hm))

end Value

mutual

/-- The trees that a value can be read from. -/
inductive Node.Shows : Node → Value → Prop
  | null : Shows .null .null
  | bool (b : Bool) : Shows (.bool b) (.bool b)
  | int {n : Int} (h : InWord n) : Shows (.numeral (Number.int n).numeral) (.int n)
  | text {raw : Bytes} {s : String} (h : decodeText? raw = some s) : Shows (.text raw) (.text s)
  | list {nodes : List Node} {items : List Value} (h : List.Forall₂ Shows nodes items) :
      Shows (.list nodes true) (.list items)
  | object {nodes : List Member} {members : List (String × Value)}
      (h : List.Forall₂ ShowsMember nodes members) :
      Shows (.object nodes true) (.object members)

inductive Node.ShowsMember : Member → String × Value → Prop
  | mk {raw : Bytes} {key : String} {n : Node} {v : Value} (hkey : decodeText? raw = some key)
      (h : Node.Shows n v) : ShowsMember (raw, n) (key, v)

end

/-- A value is read from a tree that can be written so. -/
def Spells (v : Value) (bs : Bytes) : Prop := ∃ n : Node, n.Shows v ∧ Spelling n bs

def SpellsSpaced (v : Value) (bs : Bytes) : Prop := ∃ n : Node, n.Shows v ∧ SpacedSpelling n bs

def SpellsItems (items : List Value) (bs : Bytes) : Prop :=
  ∃ nodes, List.Forall₂ Node.Shows nodes items ∧ ItemsSpelling nodes bs

def SpellsMember (m : String × Value) (bs : Bytes) : Prop :=
  ∃ node : Member, Node.ShowsMember node m ∧ MemberSpelling node bs

def SpellsMembers (members : List (String × Value)) (bs : Bytes) : Prop :=
  ∃ nodes, List.Forall₂ Node.ShowsMember nodes members ∧ MembersSpelling nodes bs

theorem Quoted.spells {s : String} {bs : Bytes} (h : Quoted s bs) : Spells (.text s) bs := by
  cases h with
  | mk h => exact ⟨_, .text h.decodeText?, .text h.rawText⟩

theorem SpellsSpaced.pad {v : Value} {before bs after : Bytes} (hbefore : Blank before)
    (h : Spells v bs) (hafter : Blank after) : SpellsSpaced v (before ++ (bs ++ after)) := by
  obtain ⟨n, shows, h⟩ := h
  exact ⟨n, shows, .mk hbefore h hafter⟩

theorem SpellsItems.more {v u : Value} {items : List Value} {bs cs : Bytes}
    (first : SpellsSpaced v bs) (rest : SpellsItems (u :: items) cs) :
    SpellsItems (v :: u :: items) (bs ++ 0x2C :: cs) := by
  obtain ⟨n, shows, h⟩ := first
  obtain ⟨nodes, all, hs⟩ := rest
  cases all with
  | cons second others => exact ⟨_, .cons shows (.cons second others), .more h hs⟩

theorem SpellsMember.of_key {key : String} {v : Value} {before name after bs : Bytes}
    (hbefore : Blank before) (hkey : Quoted key name) (hafter : Blank after)
    (h : SpellsSpaced v bs) :
    SpellsMember (key, v) (before ++ (name ++ (after ++ 0x3A :: bs))) := by
  obtain ⟨n, shows, h⟩ := h
  cases hkey with
  | @mk raw hkey => exact ⟨(raw, n), .mk hkey.decodeText? shows, .mk hbefore hkey.rawText hafter h⟩

theorem SpellsMembers.more {m l : String × Value} {members : List (String × Value)} {bs cs : Bytes}
    (first : SpellsMember m bs) (rest : SpellsMembers (l :: members) cs) :
    SpellsMembers (m :: l :: members) (bs ++ 0x2C :: cs) := by
  obtain ⟨node, shows, h⟩ := first
  obtain ⟨nodes, all, hs⟩ := rest
  cases all with
  | cons second others => exact ⟨_, .cons shows (.cons second others), .more h hs⟩

mutual

theorem Written.spells {v : Value} {bs : Bytes} : Written v bs → Spells v bs
  | .null => ⟨_, .null, .null⟩
  | .yes => ⟨_, .bool true, .yes⟩
  | .no => ⟨_, .bool false, .no⟩
  | .int h => ⟨_, .int h, .numeral (Number.numeral_spelling _)⟩
  | .text h => h.spells
  | .list h => by
    obtain ⟨nodes, shows, spelling⟩ := h.spells
    exact ⟨_, .list shows, .list spelling⟩
  | .object h => by
    obtain ⟨nodes, shows, spelling⟩ := h.spells
    exact ⟨_, .object shows, .object spelling⟩

theorem Padded.spells {v : Value} {bs : Bytes} : Padded v bs → SpellsSpaced v bs
  | .mk hbefore h hafter => .pad hbefore h.spells hafter

theorem WrittenItems.spells {items : List Value} {bs : Bytes} :
    WrittenItems items bs → SpellsItems items bs
  | .empty h => ⟨[], .nil, .empty h⟩
  | .one h => by
    obtain ⟨node, shows, spelling⟩ := h.spells
    exact ⟨_, .cons shows .nil, .one spelling⟩
  | .more first rest => .more first.spells rest.spells

theorem WrittenMember.spells {m : String × Value} {bs : Bytes} :
    WrittenMember m bs → SpellsMember m bs
  | .mk hbefore hkey hafter h => .of_key hbefore hkey hafter h.spells

theorem WrittenMembers.spells {members : List (String × Value)} {bs : Bytes} :
    WrittenMembers members bs → SpellsMembers members bs
  | .empty h => ⟨[], .nil, .empty h⟩
  | .one h => by
    obtain ⟨node, shows, spelling⟩ := h.spells
    exact ⟨_, .cons shows .nil, .one spelling⟩
  | .more first rest => .more first.spells rest.spells

end

/-- A document that is written as a value holds a tree of this value, with nothing behind it. -/
theorem Padded.document {v : Value} {bs : Bytes} (h : Padded v bs) :
    ∃ node : Node, node.Shows v ∧ Document.ofBytes bs = ⟨node, false⟩ := by
  obtain ⟨node, shows, spelling⟩ := h.spells
  exact ⟨node, shows, spelling.document⟩

end Courier.Json
