/-!
# Unique function names

A registry hands out the names of one tag group. The first claim of a name returns it
unchanged, later ones carry their number behind an underscore.
-/
namespace ApiBindings

/-- How often each name has been claimed, in the order of the first claims. -/
structure Registry where
  counts : List (String × Nat)
  deriving Repr, Inhabited

namespace Registry

def empty : Registry := ⟨[]⟩

/-- How often a name has been claimed. -/
def count (registry : Registry) (name : String) : Nat := (registry.counts.lookup name).getD 0

/-- Counts one more claim. -/
def increase (name : String) : List (String × Nat) → List (String × Nat)
  | [] => [(name, 1)]
  | (other, count) :: rest =>
    if other = name then (other, count + 1) :: rest else (other, count) :: increase name rest

/-- The name of the `count`-th claim, counted from one. -/
def numbered (name : String) (count : Nat) : String :=
  if count ≤ 1 then name else name ++ "_" ++ toString count

/-- Claims a name; the empty name is not counted. -/
def claim (registry : Registry) (name : String) : String × Registry :=
  if name = "" then (name, registry)
  else (numbered name (registry.count name + 1), ⟨increase name registry.counts⟩)

/-- Claims several names one after the other. -/
def claimAll (registry : Registry) : List String → List String
  | [] => []
  | name :: rest =>
    let (claimed, registry) := registry.claim name
    claimed :: registry.claimAll rest

end Registry

end ApiBindings
