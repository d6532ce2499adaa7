import ApiBindings.Number.Binary64
import ApiBindings.Document.Moment
import ApiBindings.Document.Misfit

/-!
# Document nodes

A document is a tree of scalars, lists and objects. Objects keep the order of their members;
keys are scalars, and a look-up by name finds text keys only. Numbers that are equal make one
key: `1`, `1.0` and `true` stand for the same member.
-/
namespace ApiBindings

inductive Scalar
  | null
  | bool (value : Bool)
  | int (value : Int)
  | float (value : Binary64)
  | text (value : String)
  | moment (value : Moment)
  deriving DecidableEq, Repr, Inhabited

inductive Node
  | scalar (value : Scalar)
  | list (items : List Node)
  | object (members : List (Scalar × Node))
  deriving Repr, Inhabited

abbrev Members := List (Scalar × Node)

namespace Scalar

def boolInt (value : Bool) : Int := if value then 1 else 0

/-- Whether two scalars are one key. A value that is no number equals nothing, but it is one key
with itself. -/
def same : Scalar → Scalar → Bool
  | .null, .null => true
  | .bool a, .bool b => a == b
  | .int a, .int b => a == b
  | .float a, .float b => a == b || a.numericEq b
  | .text a, .text b => a == b
  | .moment a, .moment b => a == b
  | .bool a, .int b | .int b, .bool a => boolInt a == b
  | .bool a, .float b | .float b, .bool a => b.toInt? == some (boolInt a)
  | .int a, .float b | .float b, .int a => b.toInt? == some a
  | _, _ => false

def kind : Scalar → Kind
  | .null => .null
  | .bool _ => .bool
  | .int _ => .int
  | .float _ => .float
  | .text _ => .text
  | .moment (.date _) => .date
  | .moment (.clock _) => .clock
  | .moment (.instant ..) => .instant

/-- A scalar that is empty or zero counts as absent. -/
def isPresent : Scalar → Bool
  | .null => false
  | .bool value => value
  | .int value => value != 0
  | .float value => !value.isZero
  | .text value => value != ""
  | .moment _ => true

end Scalar

namespace Node

@[match_pattern] abbrev null : Node := .scalar .null
@[match_pattern] abbrev bool (value : Bool) : Node := .scalar (.bool value)
@[match_pattern] abbrev int (value : Int) : Node := .scalar (.int value)
@[match_pattern] abbrev float (value : Binary64) : Node := .scalar (.float value)
@[match_pattern] abbrev text (value : String) : Node := .scalar (.text value)
@[match_pattern] abbrev moment (value : Moment) : Node := .scalar (.moment value)

mutual

def decEq : (left right : Node) → Decidable (left = right)
  | .scalar a, .scalar b => if h : a = b then isTrue (by rw [h]) else isFalse (by simp [h])
  | .list xs, .list ys =>
    match decEqItems xs ys with
    | isTrue h => isTrue (by rw [h])
    | isFalse h => isFalse (by simp [h])
  | .object ms, .object ns =>
    match decEqMembers ms ns with
    | isTrue h => isTrue (by rw [h])
    | isFalse h => isFalse (by simp [h])
  | .scalar _, .list _ | .scalar _, .object _ | .list _, .scalar _ | .list _, .object _
  | .object _, .scalar _ | .object _, .list _ => isFalse (by simp)

def decEqItems : (left right : List Node) → Decidable (left = right)
  | [], [] => isTrue rfl
  | [], _ :: _ | _ :: _, [] => isFalse (by simp)
  | x :: xs, y :: ys =>
    match decEq x y, decEqItems xs ys with
    | isTrue h, isTrue hs => isTrue (by rw [h, hs])
    | isFalse h, _ => isFalse (by simp [h])
    | _, isFalse hs => isFalse (by simp [hs])

def decEqMembers : (left right : List (Scalar × Node)) → Decidable (left = right)
  | [], [] => isTrue rfl
  | [], _ :: _ | _ :: _, [] => isFalse (by simp)
  | (k, x) :: ms, (l, y) :: ns =>
    match decEq x y, decEqMembers ms ns with
    | isTrue h, isTrue hs =>
      if hk : k = l then isTrue (by rw [h, hs, hk]) else isFalse (by simp [hk])
    | isFalse h, _ => isFalse (by simp [h])
    | _, isFalse hs => isFalse (by simp [hs])

end

instance : DecidableEq Node := decEq

end Node

namespace Members

/-- The value of a text key. -/
def get? (members : Members) (key : String) : Option Node :=
  (members.find? fun member => member.1 == Scalar.text key).map (·.2)

/-- The value of a key of any kind. -/
def valueOf (members : Members) (key : Scalar) : Node :=
  ((members.find? fun member => member.1.same key).map (·.2)).getD Node.null

/-- Puts a member in its place: an equal key keeps its place and takes the new value. -/
def insert (key : Scalar) (value : Node) : Members → Members
  | [] => [(key, value)]
  | member :: rest =>
    if member.1.same key then (member.1, value) :: rest
    else member :: insert key value rest

/-- The member with this name; a missing one is null, as one that is written as null. -/
def field (members : Members) (key : String) : Node :=
  (members.get? key).getD Node.null

end Members

namespace Node

/-- A node that is null, false, zero or empty counts as absent. -/
def isPresent : Node → Bool
  | .scalar value => value.isPresent
  | .list items => !items.isEmpty
  | .object members => !members.isEmpty

def kind : Node → Kind
  | .scalar value => value.kind
  | .list _ => .list
  | .object _ => .object

/-- The members of an object. -/
def members? : Node → Option Members
  | .object members => some members
  | _ => none

def isObject (node : Node) : Bool := node.members?.isSome

def text? : Node → Option String
  | .text value => some value
  | _ => none

/-- The member of an object with this name; other nodes have no members. -/
def get? (node : Node) (key : String) : Option Node :=
  node.members?.bind fun members => members.get? key

/-- As `get?`, with null for a missing member. -/
def field (node : Node) (key : String) : Node := (node.get? key).getD null

/-- The member of a node that has to be an object. -/
def ask (node : Node) (key : String) : Except Misfit Node :=
  match node with
  | .object members => .ok (Members.field members key)
  | other => .error (.noMember other.kind "get")

def letters (value : String) : List Node := value.toList.map fun c => text (String.singleton c)

/-- The values a node holds one after the other: the items of a list, the keys of an object
and the characters of a text. -/
def elements : Node → Except Misfit (List Node)
  | .list items => .ok items
  | .object members => .ok (members.map fun member => .scalar member.1)
  | .text value => .ok (letters value)
  | .scalar value => .error (.notIterable value.kind)

/-- As `elements`, with none for an absent node. -/
def elementsOrNone (node : Node) : Except Misfit (List Node) :=
  if node.isPresent then node.elements else .ok []

/-- The members of a node that has to be an object if it is present; `wanted` is what it is
asked for. -/
def membersOrNone (wanted : String) (node : Node) : Except Misfit Members :=
  if node.isPresent then
    match node with
    | .object members => .ok members
    | other => .error (.noMember other.kind wanted)
  else .ok []

/-- The scalar a node is, for use as a key. -/
def asKey : Node → Except Misfit Scalar
  | .scalar value => .ok value
  | node => .error (.notHashable node.kind)

/-- The scalars of a list, for look-ups. -/
def keysOf (items : List Node) : Except Misfit (List Scalar) := items.mapM asKey

/-- Collects a list of pairs into members; `index` counts the items before. -/
def collectPairs : Nat → Members → List Node → Except Misfit Members
  | _, members, [] => .ok members
  | index, members, item :: rest => do
    match ← item.elements with
    | [key, value] => collectPairs (index + 1) (members.insert (← key.asKey) value) rest
    | parts => .error (.notPair index parts.length)

/-- The members a node stands for: those of an object, or the items of a list of pairs. -/
def pairs (node : Node) : Except Misfit Members :=
  match node with
  | .object members => .ok members
  | other => do collectPairs 0 [] (← other.elements)

end Node

end ApiBindings
