import Courier.Json.Value
import Courier.Proofs.Json.Number

/-! The parts of a value and how deep they are nested. -/
namespace Courier.Json.Value

/-- What holds of a list or object when it holds of everything in it, holds of all values. -/
@[elab_as_elim]
theorem induct {P : Value → Prop} (null : P .null) (bool : ∀ b, P (.bool b))
    (number : ∀ n, P (.number n)) (text : ∀ s, P (.text s))
    (list : ∀ items, (∀ v ∈ items, P v) → P (.list items))
    (object : ∀ members, (∀ m ∈ members, P m.2) → P (.object members)) (v : Value) : P v :=
  Value.rec (motive_1 := P) (motive_2 := fun items => ∀ v ∈ items, P v)
    (motive_3 := fun members => ∀ m ∈ members, P m.2) (motive_4 := fun m => P m.2)
    null bool number text list object
    (fun _ h => absurd h List.not_mem_nil) (fun _ _ hv hvs => List.forall_mem_cons.mpr ⟨hv, hvs⟩)
    (fun _ h => absurd h List.not_mem_nil) (fun _ _ hm hms => List.forall_mem_cons.mpr ⟨hm, hms⟩)
    (fun _ _ h => h) v

mutual

/-- The value and everything in it. -/
def parts : Value → List Value
  | .list items => .list items :: itemsParts items
  | .object members => .object members :: membersParts members
  | v => [v]

def itemsParts : List Value → List Value
  | [] => []
  | v :: vs => parts v ++ itemsParts vs

def membersParts : List (String × Value) → List Value
  | [] => []
  | (_, v) :: ms => parts v ++ membersParts ms

end

mutual

/-- How deep lists and objects are nested. -/
def depth : Value → Nat
  | .list items => itemsDepth items + 1
  | .object members => membersDepth members + 1
  | _ => 0

def itemsDepth : List Value → Nat
  | [] => 0
  | v :: vs => max (depth v) (itemsDepth vs)

def membersDepth : List (String × Value) → Nat
  | [] => 0
  | (_, v) :: ms => max (depth v) (membersDepth ms)

end

/-- The value is a number that is not kept as a whole one. -/
def isReal : Value → Bool
  | .number (.real _ _) => true
  | _ => false

/-- A whole number has 64 bits, and an object has its keys in order, each once. -/
def isProper : Value → Bool
  | .number (.int n) => decide (InWord n)
  | .object members => decide ((members.map Prod.fst).Pairwise (· < ·))
  | _ => true

theorem mem_parts_self (v : Value) : v ∈ v.parts := by
  cases v <;> simp [parts]

theorem itemsParts_eq (items : List Value) : itemsParts items = items.flatMap parts := by
  induction items with
  | nil => rfl
  | cons v vs ih => rw [itemsParts, ih, List.flatMap_cons]

theorem membersParts_eq (members : List (String × Value)) :
    membersParts members = members.flatMap fun m => m.2.parts := by
  induction members with
  | nil => rfl
  | cons m ms ih => rw [membersParts, ih, List.flatMap_cons]

section
variable {p : Value → Prop}

theorem parts_of_item {items : List Value} (h : ∀ w ∈ (list items).parts, p w) {v : Value}
    (hv : v ∈ items) : ∀ w ∈ v.parts, p w := by
  intro w hw
  refine h w ?_
  rw [parts, itemsParts_eq]
  exact List.mem_cons_of_mem _ (List.mem_flatMap.mpr ⟨v, hv, hw⟩)

theorem parts_of_member {members : List (String × Value)}
    (h : ∀ w ∈ (object members).parts, p w) {m : String × Value} (hm : m ∈ members) :
    ∀ w ∈ m.2.parts, p w := by
  intro w hw
  refine h w ?_
  rw [parts, membersParts_eq]
  exact List.mem_cons_of_mem _ (List.mem_flatMap.mpr ⟨m, hm, hw⟩)

end

theorem depth_le_itemsDepth {v : Value} {items : List Value} (h : v ∈ items) :
    v.depth ≤ itemsDepth items := by
  induction items with
  | nil => cases h
  | cons u us ih =>
    rw [itemsDepth]
    rcases List.mem_cons.mp h with rfl | h
    · exact Nat.le_max_left _ _
    · exact Nat.le_trans (ih h) (Nat.le_max_right _ _)

theorem depth_le_membersDepth {m : String × Value} {members : List (String × Value)}
    (h : m ∈ members) : m.2.depth ≤ membersDepth members := by
  induction members with
  | nil => cases h
  | cons u us ih =>
    rw [membersDepth]
    rcases List.mem_cons.mp h with rfl | h
    · exact Nat.le_max_left _ _
    · exact Nat.le_trans (ih h) (Nat.le_max_right _ _)

end Courier.Json.Value
