import Courier.Proofs.Json.Syntax
import Courier.Proofs.Json.Value

/-! The document of a written value. -/
namespace Courier.Json.Value

mutual

/-- The tree of a written value. -/
def node : Value → Node
  | .null => .null
  | .bool b => .bool b
  | .number n => .numeral n.numeral
  | .text s => .text (encodeText s)
  | .list items => .list (itemNodes items) true
  | .object members => .object (memberNodes members) true

def itemNodes : List Value → List Node
  | [] => []
  | v :: vs => node v :: itemNodes vs

def memberNodes : List (String × Value) → List Member
  | [] => []
  | (k, v) :: ms => (encodeText k, node v) :: memberNodes ms

end

theorem itemNodes_eq (items : List Value) : itemNodes items = items.map node := by
  induction items with
  | nil => rfl
  | cons v vs ih => rw [itemNodes, ih, List.map_cons]

theorem memberNodes_eq (members : List (String × Value)) :
    memberNodes members = members.map fun m => (encodeText m.1, m.2.node) := by
  induction members with
  | nil => rfl
  | cons m ms ih => rw [memberNodes, ih, List.map_cons]

theorem spelling_items {items : List Value} (h : ∀ v ∈ items, Spelling v.node v.bytes) :
    ItemsSpelling (itemNodes items) (itemsBytes items) := by
  induction items with
  | nil => exact .empty (by decide)
  | cons v vs ih =>
    have first := (h v List.mem_cons_self).spaced
    have rest := ih fun u hu => h u (List.mem_cons_of_mem v hu)
    cases vs with
    | nil =>
      rw [itemsBytes, moreItemsBytes, List.append_nil]
      exact .one first
    | cons u vs => exact .more first rest

theorem spelling_member (key : String) {v : Value} (h : Spelling v.node v.bytes) :
    MemberSpelling (encodeText key, v.node) (textBytes key ++ 0x3A :: v.bytes) :=
  @MemberSpelling.mk _ _ [] [] _ (by decide) (spelled_encodeText key).rawText (by decide) h.spaced

theorem spelling_members {members : List (String × Value)}
    (h : ∀ m ∈ members, Spelling m.2.node m.2.bytes) :
    MembersSpelling (memberNodes members) (membersBytes members) := by
  induction members with
  | nil => exact .empty (by decide)
  | cons m ms ih =>
    obtain ⟨key, v⟩ := m
    have first := spelling_member key (h (key, v) List.mem_cons_self)
    have rest := ih fun m hm => h m (List.mem_cons_of_mem _ hm)
    cases ms with
    | nil =>
      rw [membersBytes, moreMembersBytes, List.append_nil]
      exact .one first
    | cons l ms =>
      obtain ⟨key', v'⟩ := l
      have hbytes : membersBytes ((key, v) :: (key', v') :: ms) =
          (textBytes key ++ 0x3A :: v.bytes) ++ 0x2C :: membersBytes ((key', v') :: ms) := by
        simp [membersBytes, moreMembersBytes]
      rw [hbytes]
      exact .more first rest

/-- The bytes of a value that holds whole numbers only are one of the ways to write its tree. -/
theorem spelling {v : Value} (hv : ∀ w ∈ v.parts, w.isReal = false) :
    Spelling v.node v.bytes := by
  induction v using Value.induct with
  | null => exact .null
  | bool b => cases b with
    | true => exact .yes
    | false => exact .no
  | number n =>
    have hn := hv _ (mem_parts_self _)
    cases n with
    | int n => exact .numeral (Number.numeral_spelling n)
    | real => cases hn
  | text s => exact .text (spelled_encodeText s).rawText
  | list items ih => exact .list (spelling_items fun v hm => ih v hm (parts_of_item hv hm))
  | object members ih =>
    exact .object (spelling_members fun m hm => ih m hm (parts_of_member hv hm))

/-- The document of a written value is its tree, with nothing behind it. -/
theorem document_bytes {v : Value} (hv : ∀ w ∈ v.parts, w.isReal = false) :
    Document.ofBytes v.bytes = ⟨v.node, false⟩ := (spelling hv).spaced.document

end Courier.Json.Value
