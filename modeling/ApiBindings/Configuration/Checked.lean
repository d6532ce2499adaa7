import ApiBindings.Configuration.Issue

/-!
# Values that were checked

Checking a value gives the value or everything that is wrong with it. Checks are combined side
by side, so that the issues of all parts are told, in the order of the parts.
-/
namespace ApiBindings

inductive Checked (α : Type) where
  | sound (value : α)
  | faulty (issues : List Issue)
  deriving Repr

namespace Checked

def fault {α : Type} (fault : Fault) : Checked α := .faulty [⟨[], fault⟩]

def map {α β : Type} (f : α → β) : Checked α → Checked β
  | .sound value => .sound (f value)
  | .faulty issues => .faulty issues

/-- Both parts are checked, whatever the first one gives. -/
def seq {α β : Type} (function : Checked (α → β)) (argument : Checked α) : Checked β :=
  match function, argument with
  | .sound f, .sound value => .sound (f value)
  | .sound _, .faulty issues => .faulty issues
  | .faulty issues, .sound _ => .faulty issues
  | .faulty issues, .faulty more => .faulty (issues ++ more)

instance : Functor Checked where
  map := map

instance : Pure Checked := ⟨.sound⟩

instance : Seq Checked := ⟨fun function argument => function.seq (argument ())⟩

/-- What was found wrong, seen from one level further out. -/
def below {α : Type} (place : Place) : Checked α → Checked α
  | .sound value => .sound value
  | .faulty issues => .faulty (issues.map (Issue.below place))

/-- Checks every item of a list, counted from a position on. -/
def eachFrom {α β : Type} (check : α → Checked β) : Nat → List α → Checked (List β)
  | _, [] => .sound []
  | position, item :: rest =>
    ((check item).below (.index position)).map List.cons |>.seq (eachFrom check (position + 1) rest)

def each {α β : Type} (check : α → Checked β) (items : List α) : Checked (List β) :=
  eachFrom check 0 items

/-- Adds issues that do not belong to a value. -/
def withIssues {α : Type} (checked : Checked α) : List Issue → Checked α
  | [] => checked
  | more =>
    match checked with
    | .sound _ => .faulty more
    | .faulty issues => .faulty (issues ++ more)

end Checked

end ApiBindings
