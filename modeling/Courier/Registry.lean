import Courier.Error
import Courier.Keyed
import Courier.Text.Blank

/-! Which contract holds which address. -/
namespace Courier

structure Registry where
  owners : Keyed String := []

namespace Registry

def contains (r : Registry) (address : String) : Bool := (r.owners.get? address).isSome

def release (r : Registry) (address : String) : Registry := ⟨r.owners.erase address⟩

def size (r : Registry) : Nat := r.owners.length

def isEmpty (r : Registry) : Bool := r.owners.isEmpty

/-- Claims an address that is not blank and not taken. -/
def register (r : Registry) (address owner : String) : Except TopologyError Registry :=
  if Text.allBlank address then .error (ContractFault.blankAddress owner).error
  else match r.owners.get? address with
    | some holder => .error (.duplicateAddress address holder)
    | none => .ok ⟨r.owners.put address owner⟩

theorem contains_release (r : Registry) (a b : String) :
    (r.release a).contains b = (a ≠ b && r.contains b) := by
  by_cases h : a = b <;> simp [contains, release, Keyed.get?_erase, h]

end Registry
end Courier
