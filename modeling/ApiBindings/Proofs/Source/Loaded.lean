import ApiBindings.Proofs.Reference.Places
import ApiBindings.Source.Load

/-!
# Documents as they are loaded

A key that is repeated in a JSON text keeps its place and takes the later value, and the text has no
aliases. So each object has each key once, and no object stands at two places. A reader of YAML owes
the same for the keys, and that places it keeps for one object hold one node. Then every document
that is loaded is well formed, from the web or from a file.
-/
namespace ApiBindings

/-- A document of which each object has each key once, and of which places that are kept for one
object hold one node. -/
structure LoadedDocument.WellFormed (document : LoadedDocument) : Prop where
  keys : document.root.KeysOnce
  sound (outside : Node) : document.sharing.Sound document.root outside

/-- What the reader gives is well formed. -/
def YamlReader.ReadsWell [YamlReader] : Prop :=
  ∀ text document, YamlReader.read text = .ok document → document.WellFormed

namespace Json

theorem keysOnce_readNumber {start text rest : List Char} {negative : Bool} {node : Node}
    (taken : readNumber start negative text = .ok (node, rest)) : node.KeysOnce := by
  unfold readNumber at taken
  extract_lets whole at taken
  clear_value whole
  split at taken
  · cases taken
  · dsimp only at taken
    split at taken
    · cases taken
      exact .scalar _
    · split at taken
      · cases taken
        exact .scalar _
      · split at taken
        · cases taken
        · cases taken
          exact .scalar _

theorem keysOnce_readWord? {text rest : List Char} {node : Node}
    (taken : readWord? text = some (node, rest)) : node.KeysOnce := by
  have scalars : ∀ word ∈ words, word.2.KeysOnce := by simp [words, Node.KeysOnce.scalar]
  unfold readWord? at taken
  obtain ⟨word, found, same⟩ := Option.map_eq_some_iff.mp taken
  cases same
  exact scalars word (List.mem_of_find?_eq_some found)

/-- Whatever is read with some fuel has each key once. -/
structure ReadsOnce (fuel : Nat) : Prop where
  value {text rest : List Char} {node : Node} (taken : readValue fuel text = .ok (node, rest)) :
    node.KeysOnce
  items {done items : List Node} {text rest : List Char} (keys : ∀ item ∈ done, item.KeysOnce)
    (taken : readItems fuel done text = .ok (items, rest)) : ∀ item ∈ items, item.KeysOnce
  members {done members : Members} {text rest : List Char} (keys : (Node.object done).KeysOnce)
    (taken : readMembers fuel done text = .ok (members, rest)) : (Node.object members).KeysOnce

theorem readsOnce (fuel : Nat) : ReadsOnce fuel := by
  have none : (Node.object []).KeysOnce := .object _ (by simp) (by simp)
  induction fuel with
  | zero => constructor <;> intros <;> simp_all [readValue, readItems, readMembers, fail]
  | succ fuel ih =>
    constructor
    · intro text rest node taken
      unfold readValue at taken
      split at taken
      · obtain ⟨_, _, same⟩ := (exceptBind_ok _ _ _).mp taken
        cases same
        exact .scalar _
      · split at taken
        · cases taken
          exact .list _ (by simp)
        · obtain ⟨items, inside, same⟩ := (exceptBind_ok _ _ _).mp taken
          cases same
          exact .list _ (ih.items (by simp) inside)
      · split at taken
        · cases taken
          exact none
        · obtain ⟨members, inside, same⟩ := (exceptBind_ok _ _ _).mp taken
          cases same
          exact ih.members none inside
      · split at taken
        · rename_i found word
          cases taken
          exact keysOnce_readWord? word
        · split at taken <;> exact keysOnce_readNumber taken
    · intro done items text rest keys taken
      unfold readItems at taken
      obtain ⟨⟨item, behind⟩, inside, taken⟩ := (exceptBind_ok _ _ _).mp taken
      dsimp only at taken
      have more : ∀ node ∈ item :: done, node.KeysOnce :=
        List.forall_mem_cons.mpr ⟨ih.value inside, keys⟩
      split at taken
      · cases taken
        exact fun node among => more node (List.mem_reverse.mp among)
      · exact ih.items more taken
      · cases taken
    · intro done members text rest keys taken
      unfold readMembers at taken
      split at taken
      · obtain ⟨⟨name, behind⟩, _, taken⟩ := (exceptBind_ok _ _ _).mp taken
        dsimp only at taken
        split at taken
        · obtain ⟨⟨value, behind⟩, inside, taken⟩ := (exceptBind_ok _ _ _).mp taken
          have more := keys.insert (.text name) (ih.value inside)
          dsimp only at taken
          split at taken
          · cases taken
            exact more
          · exact ih.members more taken
          · cases taken
        · cases taken
      · cases taken

theorem keysOnce_of_read {text : String} {node : Node} (taken : read text = .ok node) :
    node.KeysOnce := by
  unfold read readAll at taken
  split at taken
  · cases taken
  · obtain ⟨⟨value, behind⟩, inside, taken⟩ := (exceptBind_ok _ _ _).mp taken
    dsimp only at taken
    split at taken
    · cases taken
      exact (readsOnce _).value inside
    · cases taken

end Json

namespace Source

theorem wellFormed_json {text : String} {document : LoadedDocument}
    (taken : json text = .ok document) : document.WellFormed := by
  unfold json at taken
  split at taken
  · rename_i node found
    cases taken
    exact ⟨Json.keysOnce_of_read found, fun _ => Sharing.sound_nil⟩
  · cases taken

variable [YamlReader] (readsWell : YamlReader.ReadsWell) {web : Web} {tree : FileTree}
  {base : FileName} {source : String} {document : LoadedDocument}

include readsWell

theorem wellFormed_yaml {text : String} (taken : yaml text = .ok document) :
    document.WellFormed := by
  unfold yaml at taken
  cases found : YamlReader.read text with
  | error error =>
    rw [found] at taken
    cases taken
  | ok read =>
    rw [found] at taken
    cases taken
    exact readsWell text _ found

theorem wellFormed_fromWeb (taken : fromWeb web source = .ok document) : document.WellFormed := by
  unfold fromWeb at taken
  split at taken
  · cases taken
  · split at taken
    · cases taken
    · cases taken
    · split at taken
      · cases taken
      · split at taken
        · exact wellFormed_yaml readsWell taken
        · exact wellFormed_json taken

theorem wellFormed_fromFile (taken : fromFile tree base source = .ok document) :
    document.WellFormed := by
  unfold fromFile at taken
  obtain ⟨present, _, taken⟩ := (exceptBind_ok _ _ _).mp taken
  split at taken
  · cases taken
  · obtain ⟨bytes, _, taken⟩ := (exceptBind_ok _ _ _).mp taken
    obtain ⟨text, _, taken⟩ := (exceptBind_ok _ _ _).mp taken
    split at taken
    · exact wellFormed_yaml readsWell taken
    · exact wellFormed_json taken

/-- Every document that is loaded is well formed, from the web or from a file. -/
theorem wellFormed_of_load (loaded : load web tree base source = .ok document) :
    document.WellFormed := by
  unfold load at loaded
  split at loaded
  · cases loaded
  · rename_i read found
    have well : read.WellFormed := by
      unfold content at found
      split at found
      · exact wellFormed_fromWeb readsWell found
      · exact wellFormed_fromFile readsWell found
    split at loaded
    · cases loaded
      exact well
    · cases loaded

end Source

end ApiBindings
