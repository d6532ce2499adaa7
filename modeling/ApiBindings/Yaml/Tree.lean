import ApiBindings.Yaml.Tag
import ApiBindings.Yaml.Token

/-!
# Trees of a YAML text

Tokens are composed into one tree of tagged nodes, in which aliases are replaced by what they stand
for. Each mapping has a number of its own, by which its copies are known as one. A text holds at
most one tree. Every step takes a token or leaves an empty scalar in the place of a missing node, so
the number of tokens bounds the depth of the recursion.
-/
namespace ApiBindings.Yaml

inductive Tree
  | scalar (tag : Tag) (text : String)
  | sequence (tag : Tag) (items : List Tree)
  | mapping (number : Nat) (tag : Tag) (pairs : List (Tree × Tree))
  deriving Repr

namespace Tree

mutual

def decEq : (left right : Tree) → Decidable (left = right)
  | .scalar s a, .scalar t b =>
    if h : s = t ∧ a = b then isTrue (by rw [h.1, h.2]) else isFalse (by simpa using h)
  | .sequence s xs, .sequence t ys =>
    if h : s = t then
      match decEqItems xs ys with
      | isTrue hs => isTrue (by rw [h, hs])
      | isFalse hs => isFalse (by simp [hs])
    else isFalse (by simp [h])
  | .mapping m s ps, .mapping n t qs =>
    -- The numbers of two mappings tell them apart at once.
    if h : m = n ∧ s = t then
      match decEqPairs ps qs with
      | isTrue hs => isTrue (by rw [h.1, h.2, hs])
      | isFalse hs => isFalse (by simp [hs])
    else isFalse (by simpa using fun hm hs _ => h ⟨hm, hs⟩)
  | .scalar .., .sequence .. | .scalar .., .mapping .. | .sequence .., .scalar ..
  | .sequence .., .mapping .. | .mapping .., .scalar .. | .mapping .., .sequence .. =>
    isFalse (by simp)

def decEqItems : (left right : List Tree) → Decidable (left = right)
  | [], [] => isTrue rfl
  | [], _ :: _ | _ :: _, [] => isFalse (by simp)
  | x :: xs, y :: ys =>
    match decEq x y, decEqItems xs ys with
    | isTrue h, isTrue hs => isTrue (by rw [h, hs])
    | isFalse h, _ => isFalse (by simp [h])
    | _, isFalse hs => isFalse (by simp [hs])

def decEqPairs : (left right : List (Tree × Tree)) → Decidable (left = right)
  | [], [] => isTrue rfl
  | [], _ :: _ | _ :: _, [] => isFalse (by simp)
  | (k, x) :: ps, (l, y) :: qs =>
    match decEq k l, decEq x y, decEqPairs ps qs with
    | isTrue hk, isTrue h, isTrue hs => isTrue (by rw [hk, h, hs])
    | isFalse hk, _, _ => isFalse (by simp [hk])
    | _, isFalse h, _ => isFalse (by simp [h])
    | _, _, isFalse hs => isFalse (by simp [hs])

end

instance : DecidableEq Tree := decEq

end Tree

/-- What is known while a tree is composed. -/
structure Composing where
  tokens : List Token
  handles : List (String × String)
  /-- Anchors with their trees; an anchor without one is still open. -/
  anchors : List (String × Option Tree)

abbrev Compose := StateT Composing (Except FormatError)

namespace Compose

def fail {α : Type} : Compose α := throw .yaml

/-- The next token, which stays; a fault of the text ends the work. -/
def peek : Compose Token := do
  match (← get).tokens with
  | [] => fail
  | .broken error :: _ => throw error
  | token :: _ => return token

/-- Takes the next token. -/
def drop : Compose Unit := modify fun state => { state with tokens := state.tokens.tail }

/-- Whether the next token is one of some; if so it is not taken. -/
def sees (tokens : List Token) : Compose Bool := return tokens.contains (← peek)

/-- Takes the next token if it is this one. -/
def accepts (token : Token) : Compose Bool := do
  if (← peek) = token then
    drop
    return true
  else return false

def expect (token : Token) : Compose Unit := do
  if !(← accepts token) then fail

/-- A number for a mapping that starts here: how many tokens are left. -/
def number : Compose Nat := return (← get).tokens.length

/-- The scalar in the place of a missing node. -/
def missing : Tree := .scalar .null ""

/-- The handles that are known in every document. -/
def defaultHandles : List (String × String) := [("!", "!"), ("!!", Tag.family)]

/-! ## Properties of nodes -/

/-- The anchor of a node and the name of its tag. -/
structure Properties where
  anchor : Option String
  tag : Option String

def tagName (handle : Option String) (suffix : String) : Compose String := do
  match handle with
  | none => return suffix
  | some handle =>
    match (← get).handles.lookup handle with
    | some target => return target ++ suffix
    | none => fail

def takeAnchor : Compose (Option String) := do
  match ← peek with
  | .anchor name =>
    drop
    return some name
  | _ => return none

/-- The tag at this place; its handle is looked up later. -/
def takeTag : Compose (Option (Option String × String)) := do
  match ← peek with
  | .tag handle suffix =>
    drop
    return some (handle, suffix)
  | _ => return none

/-- An anchor and a tag in either order. -/
def properties : Compose Properties := do
  let anchor ← takeAnchor
  let tag ← takeTag
  let anchor ← if anchor.isNone && tag.isSome then takeAnchor else pure anchor
  match tag with
  | some (handle, suffix) => return ⟨anchor, some (← tagName handle suffix)⟩
  | none => return ⟨anchor, none⟩

/-- An explicit tag; the lone exclamation mark leaves the choice open. -/
def Properties.explicit (properties : Properties) : Option String :=
  properties.tag.filter (· ≠ "!")

def Properties.collectionTag (properties : Properties) (default : Tag) : Tag :=
  (properties.explicit.map Tag.ofName).getD default

/-- The tag of a scalar: its own, or by its form if it is plain or marked as open. -/
def Properties.scalarTag (properties : Properties) (text : String) (plain : Bool) : Tag :=
  match properties.explicit with
  | some name => .ofName name
  | none => if plain || properties.tag = some "!" then .ofPlain text else .text

/-- Opens the anchor of a node; each anchor may be used once. -/
def openAnchor (anchor : Option String) : Compose Unit := do
  match anchor with
  | none => return ()
  | some name =>
    if ((← get).anchors.lookup name).isSome then fail
    else modify fun state => { state with anchors := (name, none) :: state.anchors }

/-- Closes the anchor of a node that was composed. -/
def closeAnchor (anchor : Option String) (tree : Tree) : Compose Tree := do
  match anchor with
  | none => return tree
  | some name =>
    modify fun state => { state with anchors := (name, some tree) :: state.anchors }
    return tree

/-- The tree an alias stands for; a tree cannot contain itself. -/
def aliased (name : String) : Compose Tree := do
  match (← get).anchors.lookup name with
  | some (some tree) => return tree
  | _ => fail

/-! ## Nodes -/

/-- Where a node stands, which decides what it may be. -/
inductive Position
  /-- Inside brackets. -/
  | flow
  | block
  /-- The key or value of a block mapping, where a sequence needs no indentation. -/
  | blockPair
  deriving DecidableEq

mutual

def node (position : Position) : Nat → Compose Tree
  | 0 => fail
  | fuel + 1 => do
    match ← peek with
    | .aliasOf name =>
      drop
      aliased name
    | _ =>
      let properties ← properties
      openAnchor properties.anchor
      closeAnchor properties.anchor (← content position properties fuel)

/-- A node behind its properties. -/
def content (position : Position) (properties : Properties) : Nat → Compose Tree
  | 0 => fail
  | fuel + 1 => do
    let listTag := properties.collectionTag .sequence
    let pairsTag := properties.collectionTag .mapping
    match ← peek with
    | .blockEntry =>
      if position = .blockPair then return .sequence listTag (← indentlessItems fuel)
      else emptyContent properties
    | .scalar text plain =>
      drop
      return .scalar (properties.scalarTag text plain) text
    | .flowSequenceStart =>
      drop
      return .sequence listTag (← flowItems true fuel)
    | .flowMappingStart =>
      let number ← number
      drop
      return .mapping number pairsTag (← flowPairs true fuel)
    | .blockSequenceStart =>
      if position = .flow then emptyContent properties
      else
        drop
        return .sequence listTag (← blockItems fuel)
    | .blockMappingStart =>
      if position = .flow then emptyContent properties
      else
        let number ← number
        drop
        return .mapping number pairsTag (← blockPairs fuel)
    | _ => emptyContent properties

/-- A node of which only properties are given. -/
def emptyContent (properties : Properties) : Compose Tree :=
  if properties.anchor.isSome || properties.tag.isSome then
    pure (.scalar (properties.scalarTag "" properties.explicit.isNone) "")
  else fail

/-- A node, or an empty one if one of some tokens follows. -/
def nodeUnless (position : Position) (tokens : List Token) : Nat → Compose Tree
  | 0 => fail
  | fuel + 1 => do
    if ← sees tokens then return missing else node position fuel

/-- The entries of a block sequence up to its end. -/
def blockItems : Nat → Compose (List Tree)
  | 0 => fail
  | fuel + 1 => do
    if ← accepts .blockEntry then
      let item ← nodeUnless .block [.blockEntry, .blockEnd] fuel
      return item :: (← blockItems fuel)
    else
      expect .blockEnd
      return []

/-- The entries of a sequence that is not indented; it has no end of its own. -/
def indentlessItems : Nat → Compose (List Tree)
  | 0 => fail
  | fuel + 1 => do
    if ← accepts .blockEntry then
      let item ← nodeUnless .block [.blockEntry, .key, .value, .blockEnd] fuel
      return item :: (← indentlessItems fuel)
    else return []

/-- The pairs of a block mapping up to its end. A key without a colon has an empty value. -/
def blockPairs : Nat → Compose (List (Tree × Tree))
  | 0 => fail
  | fuel + 1 => do
    if ← accepts .key then
      let key ← nodeUnless .blockPair [.key, .value, .blockEnd] fuel
      let value ← valueIf .blockPair [.key, .value, .blockEnd] fuel
      return (key, value) :: (← blockPairs fuel)
    else
      expect .blockEnd
      return []

/-- The value behind a colon, empty if there is none. -/
def valueIf (position : Position) (tokens : List Token) : Nat → Compose Tree
  | 0 => fail
  | fuel + 1 => do
    if ← accepts .value then nodeUnless position tokens fuel else return missing

/-- The items between square brackets; a pair among them is a mapping of its own. -/
def flowItems (first : Bool) : Nat → Compose (List Tree)
  | 0 => fail
  | fuel + 1 => do
    if ← accepts .flowSequenceEnd then return []
    else
      if !first then expect .flowEntry
      let number ← number
      if ← accepts .key then
        let key ← nodeUnless .flow [.value, .flowEntry, .flowSequenceEnd] fuel
        let value ← valueIf .flow [.flowEntry, .flowSequenceEnd] fuel
        return .mapping number .mapping [(key, value)] :: (← flowItems false fuel)
      else if ← accepts .flowSequenceEnd then return []
      else
        let item ← node .flow fuel
        return item :: (← flowItems false fuel)

/-- The pairs between curly brackets; a lone node is a key without a value. -/
def flowPairs (first : Bool) : Nat → Compose (List (Tree × Tree))
  | 0 => fail
  | fuel + 1 => do
    if ← accepts .flowMappingEnd then return []
    else
      if !first then expect .flowEntry
      if ← accepts .key then
        let key ← nodeUnless .flow [.value, .flowEntry, .flowMappingEnd] fuel
        let value ← valueIf .flow [.flowEntry, .flowMappingEnd] fuel
        return (key, value) :: (← flowPairs false fuel)
      else if ← accepts .flowMappingEnd then return []
      else
        let key ← node .flow fuel
        return (key, missing) :: (← flowPairs false fuel)

end

/-! ## Documents -/

/-- Takes the directives before a document. A version has to be one of YAML 1, and neither a
version nor a handle may be given twice. -/
def directives : Nat → Bool → List (String × String) → Compose (List (String × String))
  | 0, _, _ => fail
  | fuel + 1, hasVersion, handles => do
    match ← peek with
    | .directive directive =>
      drop
      match directive with
      | .version major =>
        if hasVersion || major != 1 then fail else directives fuel true handles
      | .handle handle target =>
        if (handles.lookup handle).isSome then fail
        else directives fuel hasVersion ((handle, target) :: handles)
      | .other => directives fuel hasVersion handles
    | _ => return handles

/-- Takes markers of the end of a document. -/
def documentEnds : Nat → Compose Unit
  | 0 => fail
  | fuel + 1 => do
    if ← accepts .documentEnd then documentEnds fuel else return ()

/-- Whether the next token starts a document of its own. -/
def seesExplicitStart : Compose Bool := do
  match ← peek with
  | .directive _ | .documentStart => return true
  | _ => return false

/-- Whether a document ends without a node. -/
def seesNoNode : Compose Bool := do
  match ← peek with
  | .directive _ | .documentStart | .documentEnd | .streamEnd => return true
  | _ => return false

/-- A document with directives or a start marker. -/
def explicitDocument (fuel : Nat) : Compose Tree := do
  let handles ← directives fuel false []
  modify fun state => { state with handles := handles ++ defaultHandles }
  expect .documentStart
  if ← seesNoNode then return missing else node .block fuel

/-- The tree of a text, if it is not empty. -/
def document (fuel : Nat) : Compose (Option Tree) := do
  if ← accepts .streamEnd then return none
  else
    let tree ← if ← seesExplicitStart then explicitDocument fuel else node .block fuel
    documentEnds fuel
    expect .streamEnd
    return some tree

end Compose

/-- The tree that tokens make, if there is one. -/
def Tree.ofTokens? (tokens : List Token) : Except FormatError (Option Tree) :=
  return (← (Compose.document (4 * tokens.length + 4)).run ⟨tokens, Compose.defaultHandles, []⟩).1

end ApiBindings.Yaml
