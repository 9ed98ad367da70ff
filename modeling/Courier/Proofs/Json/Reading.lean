import Courier.Json.Reading
import Courier.Proofs.Json.Document
import Courier.Proofs.Keyed

/-! Values are read from their trees. -/
namespace Courier

namespace Json

/-- Items that are read back one by one are read back together. -/
theorem mapM_map {α β ε : Type} {read : β → Except ε α} {write : α → β} {as : List α}
    (h : ∀ a ∈ as, read (write a) = .ok a) : (as.map write).mapM read = .ok as := by
  induction as with
  | nil => rfl
  | cons a as ih =>
    rw [List.map_cons, List.mapM_cons, h a List.mem_cons_self,
      ih fun a' ha' => h a' (List.mem_cons_of_mem a ha')]
    rfl

/-- The members of a written object are read one after the other. -/
theorem readMembers_nodes {σ : Type} (step : σ → String → Node → Reading σ)
    (members : List (String × Value)) (draft : σ) :
    readMembers step draft (Value.memberNodes members) true =
      members.foldlM (fun draft m => step draft m.1 m.2.node) draft := by
  induction members generalizing draft with
  | nil => rfl
  | cons m ms ih =>
    obtain ⟨k, v⟩ := m
    rw [Value.memberNodes, readMembers, decodeText?_encodeText, List.foldlM_cons]
    exact congrArg _ (funext ih)

namespace Value

theorem readInt_node {n : Int} (hn : InWord n) {range : IntRange} (hlow : range.low ≤ n)
    (hhigh : n ≤ range.high) : (int n).node.readInt range = .ok n := by
  unfold node Node.readInt
  dsimp only
  rw [Number.value?_numeral hn]
  exact if_pos ⟨hlow, hhigh⟩

theorem readText_node (s : String) : (text s).node.readText = .ok s := by
  unfold node Node.readText
  dsimp only
  rw [decodeText?_encodeText]

/-- A proper value without reals is read from its tree, if it is not nested too deep. -/
theorem readValue_node {v : Value} (proper : ∀ w ∈ v.parts, w.isProper = true)
    (whole : ∀ w ∈ v.parts, w.isReal = false) {n : Nat} (h : v.depth ≤ n) :
    v.node.readValue n = .ok v := by
  induction v using Value.induct generalizing n with
  | null => cases n <;> rfl
  | bool b => cases n <;> rfl
  | number m =>
    cases m with
    | real => cases whole _ (mem_parts_self _)
    | int m =>
      have hword : InWord m := of_decide_eq_true (proper _ (mem_parts_self _))
      unfold node Node.readValue
      rw [Number.value?_numeral hword]
  | text s =>
    unfold node Node.readValue
    rw [decodeText?_encodeText]
  | list items ih =>
    obtain ⟨n, rfl⟩ : ∃ k, n = k + 1 := ⟨n - 1, by rw [depth] at h; omega⟩
    have hitems : (items.map node).mapM (Node.readValue n) = .ok items := by
      refine mapM_map fun v hv => ?_
      have hdepth := depth_le_itemsDepth hv
      rw [depth] at h
      exact ih v hv (parts_of_item proper hv) (parts_of_item whole hv) (by omega)
    rw [node, itemNodes_eq, Node.readValue, hitems]
    rfl
  | object members ih =>
    obtain ⟨n, rfl⟩ : ∃ k, n = k + 1 := ⟨n - 1, by rw [depth] at h; omega⟩
    have hsorted : (members.map Prod.fst).Pairwise (· < ·) :=
      of_decide_eq_true (proper _ (mem_parts_self _))
    rw [node, memberNodes_eq, Node.readValue, mapM_map]
    · exact congrArg (fun ms => Except.ok (object ms)) (Keyed.ofEntries_of_sorted hsorted)
    · intro m hm
      have hdepth := depth_le_membersDepth hm
      rw [depth] at h
      have hv := ih m hm (parts_of_member proper hm) (parts_of_member whole hm) (n := n) (by omega)
      simp only [decodeText?_encodeText, hv]
      rfl

end Value
end Json
end Courier
