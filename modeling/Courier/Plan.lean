/-! Plans of what goes wrong, and when. -/
namespace Courier

/-- For each kind of occasion, what happens on the next ones; nothing happens on all later ones. -/
abbrev Plan (κ α : Type) := List (κ × List (Option α))

/-- What happens on the next occasion of a kind, and the plan for those after it. -/
def Plan.take {κ α : Type} [DecidableEq κ] (kind : κ) : Plan κ α → Option α × Plan κ α
  | [] => (none, [])
  | (k, next) :: plan =>
    if k = kind then (next.head?.join, (k, next.tail) :: plan)
    else
      let (found, plan) := take kind plan
      (found, (k, next) :: plan)

end Courier
