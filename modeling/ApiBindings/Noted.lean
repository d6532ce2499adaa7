import ApiBindings.Document.Node
import ApiBindings.Failure

/-!
# Work that leaves remarks

Some things in a document are unusual without being wrong: a name without a Latin letter, a
reference to another document, two declarations of one name. Work on a document carries the
remarks made so far along with its value, and an attempt may also end in a failure.
-/
namespace ApiBindings

inductive Remark
  /-- The sanitized name is empty or starts with a digit. -/
  | name (raw : String)
  /-- A reference that leads out of the document was left alone. -/
  | externalReference (reference : Node)
  /-- A type name is declared more than once. -/
  | duplicateType (name : String)
  deriving DecidableEq, Repr

/-- A value with the remarks made on the way to it, in the order they were made. -/
structure Noted (α : Type) where
  value : α
  remarks : List Remark
  deriving Repr

namespace Noted

instance : Monad Noted where
  pure value := ⟨value, []⟩
  bind noted next :=
    let result := next noted.value
    ⟨result.value, noted.remarks ++ result.remarks⟩

/-- Makes one remark. -/
def remark (remark : Remark) : Noted Unit := ⟨(), [remark]⟩

@[simp] theorem value_pure {α : Type} (value : α) : (pure value : Noted α).value = value := rfl

@[simp] theorem value_bind {α β : Type} (noted : Noted α) (next : α → Noted β) :
    (noted >>= next).value = (next noted.value).value := rfl

@[simp] theorem remarks_pure {α : Type} (value : α) : (pure value : Noted α).remarks = [] := rfl

@[simp] theorem remarks_bind {α β : Type} (noted : Noted α) (next : α → Noted β) :
    (noted >>= next).remarks = noted.remarks ++ (next noted.value).remarks := rfl

end Noted

/-- Work that leaves remarks and may fail. -/
abbrev Attempt := ExceptT Failure Noted

namespace Attempt

def ofMisfit {α : Type} : Except Misfit α → Attempt α
  | .ok value => pure value
  | .error reason => throw (.misfit reason)

instance : MonadLift (Except Misfit) Attempt := ⟨ofMisfit⟩

/-- What came out of an attempt. -/
def outcome {α : Type} (attempt : Attempt α) : Except Failure α := (attempt.run).value

def remarks {α : Type} (attempt : Attempt α) : List Remark := (attempt.run).remarks

end Attempt

end ApiBindings
