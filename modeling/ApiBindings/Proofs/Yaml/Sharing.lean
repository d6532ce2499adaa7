import ApiBindings.Proofs.Source.Loaded
import ApiBindings.Yaml.Value

/-!
# Objects of a YAML text

An alias is replaced by the tree it stands for. So an object that is used again is found by its tree
where it was met first, and equal trees have one value, on whatever level they are built. Of the
pairs of a mapping the last one with a key gives its value, so a place below a mapping is that of
the last pair. The places that are kept for one object therefore hold one node.
-/
namespace ApiBindings.Yaml

/-! ## Keys -/

theorem keysOnce_ofScalar (level : Nat) (tag : Tag) (text : String) :
    (ofScalar level tag text).1.KeysOnce := by
  unfold ofScalar
  split <;> exact .scalar _

theorem keysOnce_mistagged (level : Nat) (tag : Tag) : (mistagged level tag).1.KeysOnce := by
  unfold mistagged
  split <;> exact .scalar _

theorem keysOnce_insertPair {level : Nat} {members : Members} {key value : Built}
    (keys : (Node.object members).KeysOnce) (inside : value.1.KeysOnce) :
    (Node.object (insertPair level members key value).1).KeysOnce := by
  unfold insertPair
  split
  · exact keys.insert _ inside
  · exact keys

mutual

theorem keysOnce_build (level : Nat) : (tree : Tree) → (build level tree).1.KeysOnce
  | .scalar tag text => by
    unfold build
    split
    all_goals first | exact keysOnce_mistagged _ _ | exact keysOnce_ofScalar _ _ _
  | .sequence tag items => by
    unfold build
    split
    · exact .list _ (keysOnce_buildItems _ items)
    · exact .list _ (keysOnce_buildPairItems _ items)
    · exact keysOnce_mistagged _ _
  | .mapping _ tag pairs => by
    have none : (Node.object []).KeysOnce := .object _ (by simp) (by simp)
    unfold build
    split
    · exact keysOnce_buildPairs _ none pairs
    · refine .list _ fun item among => ?_
      obtain ⟨_, _, rfl⟩ := List.mem_map.mp among
      exact .scalar _
    · exact keysOnce_mistagged _ _
    · exact keysOnce_mistagged _ _
    · split
      · exact keysOnce_ofScalar _ _ _
      · exact .scalar _

theorem keysOnce_buildItems (level : Nat) :
    (items : List Tree) → ∀ node ∈ (buildItems level items).1, node.KeysOnce
  | [] => by simp [buildItems]
  | item :: rest => by
    unfold buildItems
    exact List.forall_mem_cons.mpr ⟨keysOnce_build level item, keysOnce_buildItems level rest⟩

theorem keysOnce_buildPairItems (level : Nat) :
    (items : List Tree) → ∀ node ∈ (buildPairItems level items).1, node.KeysOnce
  | [] => by simp [buildPairItems]
  | .mapping _ _ [(key, value)] :: rest => by
    unfold buildPairItems
    refine List.forall_mem_cons.mpr ⟨.list _ ?_, keysOnce_buildPairItems level rest⟩
    simp [keysOnce_build level key, keysOnce_build level value]
  | .mapping _ _ [] :: _ | .mapping _ _ (_ :: _ :: _) :: _ | .scalar _ _ :: _
  | .sequence _ _ :: _ => by simp [buildPairItems]

theorem keysOnce_buildPairs (level : Nat) {members : Members}
    (keys : (Node.object members).KeysOnce) :
    (pairs : List (Tree × Tree)) → (Node.object (buildPairs level members pairs).1).KeysOnce
  | [] => by
    unfold buildPairs
    exact keys
  | (key, value) :: rest => by
    unfold buildPairs
    exact keysOnce_buildPairs level (keysOnce_insertPair keys (keysOnce_build level value)) rest

end

/-! ## Values -/

-- The level only tells where a fault is, so it does not matter for a value.

theorem fst_ofScalar (level other : Nat) (tag : Tag) (text : String) :
    (ofScalar level tag text).1 = (ofScalar other tag text).1 := by
  unfold ofScalar
  cases scalarOf tag text <;> rfl

theorem fst_mistagged (level other : Nat) (tag : Tag) :
    (mistagged level tag).1 = (mistagged other tag).1 := by
  cases tag <;> rfl

theorem fst_asKey {one other : Built} (same : one.1 = other.1) (key : Tree) :
    (asKey key one).1 = (asKey key other).1 := by
  unfold asKey
  split
  · rfl
  · exact same

theorem fst_insertPair {key key' value value' : Built} (sameKey : key.1 = key'.1)
    (same : value.1 = value'.1) (level other : Nat) (members : Members) :
    (insertPair level members key value).1 = (insertPair other members key' value').1 := by
  unfold insertPair
  rw [← sameKey, ← same]
  cases key.1 <;> rfl

mutual

theorem fst_build (level other : Nat) :
    (tree : Tree) → (build level tree).1 = (build other tree).1
  | .scalar tag text => by
    cases tag <;> simp only [build, fst_mistagged level other, fst_ofScalar level other]
  | .sequence tag items => by
    cases tag <;> simp only [build, fst_mistagged level other,
      fst_buildItems (level + 1) (other + 1), fst_buildPairItems (level + 1) (other + 1)]
  | .mapping _ tag pairs => by
    cases tag with
    | mapping | set => simp only [build, fst_buildPairs (level + 1) (other + 1)]
    | sequence | pairs => simp only [build, fst_mistagged level other]
    | _ =>
      -- A mapping with the tag of a scalar has the value of its default key.
      simp only [build]
      cases defaultText? pairs with
      | none => rfl
      | some text => exact fst_ofScalar level other _ text

theorem fst_buildItems (level other : Nat) :
    (items : List Tree) → (buildItems level items).1 = (buildItems other items).1
  | [] => rfl
  | item :: rest => by
    simp only [buildItems, fst_build level other item, fst_buildItems level other rest]

theorem fst_buildPairItems (level other : Nat) :
    (items : List Tree) → (buildPairItems level items).1 = (buildPairItems other items).1
  | [] => rfl
  | .mapping _ _ [(key, value)] :: rest => by
    simp only [buildPairItems, pairNode, fst_build level other key, fst_build level other value,
      fst_buildPairItems level other rest]
  | .mapping _ _ [] :: _ | .mapping _ _ (_ :: _ :: _) :: _ | .scalar _ _ :: _
  | .sequence _ _ :: _ => rfl

theorem fst_buildPairs (level other : Nat) (members : Members) :
    (pairs : List (Tree × Tree)) →
      (buildPairs level members pairs).1 = (buildPairs other members pairs).1
  | [] => rfl
  | (key, value) :: rest => by
    simp only [buildPairs]
    rw [fst_insertPair (fst_asKey (fst_build level other key) key)
      (fst_build level other value) level other]
    exact fst_buildPairs level other _ rest

end

/-- The value of a tree. -/
def Tree.node (tree : Tree) : Node := (build 0 tree).1

theorem Tree.node_sequence (items : List Tree) :
    (Tree.sequence .sequence items).node = .list (items.map node) := by
  have listed : (buildItems 1 items).1 = items.map node := by
    induction items with
    | nil => rfl
    | cons item rest ih => simp only [buildItems, List.map_cons, ih, node, fst_build 1 0 item]
  simp only [node, build, listed]

theorem Tree.node_mapping (number : Nat) (pairs : List (Tree × Tree)) :
    (Tree.mapping number .mapping pairs).node = .object (buildPairs 0 [] pairs).1 := by
  simp only [node, build, fst_buildPairs 1 0]

theorem get?_insertPair {level : Nat} {members : Members} {key value : Built} {name : String}
    (named : key.1.text? = some name) :
    (insertPair level members key value).1.get? name = some value.1 := by
  obtain ⟨node, faults⟩ := key
  have text : node = .text name := by
    unfold Node.text? at named
    split at named <;> simp_all
  subst text
  exact (Members.get?_insert members name name value.1).trans (if_pos rfl)

theorem get?_insertPair_of_ne {level : Nat} {members : Members} {key value : Built} {name : String}
    (other : key.1.text? ≠ some name) :
    (insertPair level members key value).1.get? name = members.get? name := by
  unfold insertPair
  split
  · rename_i scalar same
    refine Members.get?_insert_of_ne (fun named => other ?_) _
    rw [same, named]
    rfl
  · rfl

theorem get?_buildPairs_of_absent {name : String} {pairs : List (Tree × Tree)}
    (absent : ∀ pair ∈ pairs, keyText? pair.1 ≠ some name) (members : Members) :
    (buildPairs 0 members pairs).1.get? name = members.get? name := by
  induction pairs generalizing members with
  | nil => rfl
  | cons pair rest ih =>
    rw [List.forall_mem_cons] at absent
    simp only [buildPairs]
    rw [ih absent.2, get?_insertPair_of_ne absent.1]

/-- The last pair with a key gives its value. -/
theorem get?_buildPairs_of_last {key value : Tree} {name : String} {rest : List (Tree × Tree)}
    (named : keyText? key = some name) (last : ∀ pair ∈ rest, keyText? pair.1 ≠ some name)
    (members : Members) :
    (buildPairs 0 members ((key, value) :: rest)).1.get? name = some value.node := by
  simp only [buildPairs]
  rw [get?_buildPairs_of_absent last, get?_insertPair named]
  rfl

/-! ## Objects that stand at several places -/

/-- What was met is where it is said to be. -/
structure Met.Holds (root outside : Node) (met : Met) : Prop where
  objects : ∀ object ∈ met.objects, object.2.node? root outside = some object.1.node
  again : Sharing.Sound met.again root outside

variable {root outside : Node} {spot : Spot}

theorem Met.Holds.first {met : Met} (holds : met.Holds root outside) {tree : Tree}
    (stands : spot.node? root outside = some tree.node) :
    Met.Holds root outside { met with objects := (tree, spot) :: met.objects } where
  objects object among := by
    rcases List.mem_cons.mp among with rfl | earlier
    · exact stands
    · exact holds.objects object earlier
  again := holds.again

theorem Met.Holds.later {met : Met} (holds : met.Holds root outside) {tree : Tree} {first : Spot}
    (stands : spot.node? root outside = some tree.node)
    (found : met.objects.lookup tree = some first) :
    Met.Holds root outside { met with again := (spot, first) :: met.again } where
  objects := holds.objects
  again := by
    obtain ⟨before, after, listed, _⟩ := List.lookup_eq_some_iff.mp found
    have known := holds.objects (tree, first) (by simp [listed])
    exact List.forall_mem_cons.mpr ⟨stands.trans known.symm, holds.again⟩

theorem node?_below_index {items : List Node}
    (stands : spot.node? root outside = some (.list items)) (position : Nat) :
    (spot.below (.index position)).node? root outside = items[position]? := by
  rw [Spot.node?_below, stands]
  simp [Node.at?]

theorem node?_below_key {members : Members}
    (stands : spot.node? root outside = some (.object members)) (name : String) :
    (spot.below (.key name)).node? root outside = members.get? name := by
  rw [Spot.node?_below, stands]
  simp [Node.at?, Node.get?, Node.members?]

-- A place below the one that is gone through is that of an item, or of the last pair with its key.
mutual

theorem holds_meet {met : Met} (holds : met.Holds root outside) {spot : Spot} :
    (tree : Tree) → (stands : spot.node? root outside = some tree.node) →
      (tree.meet spot met).Holds root outside
  | .mapping number tag pairs, stands => by
    cases tag with
    | mapping =>
      unfold Tree.meet
      dsimp only
      split
      · rename_i first found
        exact holds.later stands found
      · exact holds_meetPairs (holds.first stands) [] pairs
          (stands.trans (congrArg some (Tree.node_mapping number pairs)))
    | _ =>
      unfold Tree.meet
      exact holds
  | .sequence tag items, stands => by
    cases tag with
    | sequence =>
      unfold Tree.meet
      exact holds_meetItems holds [] items
        (stands.trans (congrArg some (Tree.node_sequence items)))
    | _ =>
      unfold Tree.meet
      exact holds
  | .scalar tag text, stands => by
    unfold Tree.meet
    exact holds

theorem holds_meetItems {met : Met} (holds : met.Holds root outside) {spot : Spot}
    (before : List Node) : (items : List Tree) →
      (stands : spot.node? root outside = some (.list (before ++ items.map Tree.node))) →
      (Tree.meetItems spot before.length met items).Holds root outside
  | [], _ => by
    unfold Tree.meetItems
    exact holds
  | item :: rest, stands => by
    unfold Tree.meetItems
    have here : (spot.below (.index before.length)).node? root outside = some item.node := by
      rw [node?_below_index stands]
      simp
    have later := holds_meetItems (holds_meet holds item here) (before ++ [item.node]) rest
      (by simpa using stands)
    simpa using later

theorem holds_meetPairs {met : Met} (holds : met.Holds root outside) {spot : Spot}
    (members : Members) : (pairs : List (Tree × Tree)) →
      (stands : spot.node? root outside = some (.object (buildPairs 0 members pairs).1)) →
      (Tree.meetPairs spot met pairs).Holds root outside
  | [], _ => by
    unfold Tree.meetPairs
    exact holds
  | (key, value) :: rest, stands => by
    have behind := stands
    simp only [buildPairs] at behind
    unfold Tree.meetPairs
    split
    · rename_i name named
      split
      · exact holds_meetPairs holds _ rest behind
      · rename_i last
        have here : (spot.below (.key name)).node? root outside = some value.node := by
          rw [node?_below_key stands]
          refine get?_buildPairs_of_last named (fun pair among same => last ?_) members
          exact List.any_eq_true.mpr ⟨pair, among, by simp [same]⟩
        exact holds_meetPairs (holds_meet holds value here) _ rest behind
    · exact holds_meetPairs holds _ rest behind

end

/-- Places that are kept for one object hold one node. -/
theorem Tree.sound_sharing (tree : Tree) : tree.sharing.Sound tree.node outside :=
  (holds_meet ⟨by simp, Sharing.sound_nil⟩ tree rfl).again

/-- What a YAML text is read as is well formed. -/
theorem wellFormed_of_read {text : String} {document : LoadedDocument}
    (taken : read text = .ok document) : document.WellFormed := by
  have none : LoadedDocument.WellFormed ⟨.null, []⟩ := ⟨.scalar _, fun _ => Sharing.sound_nil⟩
  unfold read at taken
  split at taken
  · rw [exceptBind_ok] at taken
    obtain ⟨tree, _, valued⟩ := taken
    cases tree with
    | none =>
      obtain rfl := Except.ok.inj valued
      exact none
    | some tree =>
      dsimp only at valued
      unfold Tree.value at valued
      dsimp only at valued
      split at valued
      · cases valued
      · obtain rfl := Except.ok.inj valued
        exact ⟨keysOnce_build 0 tree.merge, fun outside => tree.merge.sound_sharing⟩
  · cases taken

theorem readsWell_reader : @YamlReader.ReadsWell reader := fun _ _ => wellFormed_of_read

end ApiBindings.Yaml
