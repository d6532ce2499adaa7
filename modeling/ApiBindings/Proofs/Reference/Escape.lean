import ApiBindings.Proofs.Document.Members
import ApiBindings.Proofs.Text.Pieces
import ApiBindings.Reference.Resolution

/-!
# Escaped keys

A key is escaped character by character, so no slash is left in it and nothing else changes, and
reading the pointer gives the key back. The pointer of a component schema leads to this component.
-/
namespace ApiBindings

namespace Pointer

/-- A character as it is written in a pointer. -/
def escaped (c : Char) : List Char :=
  if c = '~' then ['~', '0'] else if c = '/' then ['~', '1'] else [c]

theorem escape_eq (key : List Char) : escape key = key.flatMap escaped := by
  unfold escape
  rw [Text.replaceAll_singleton, Text.replaceAll_singleton, List.flatMap_assoc]
  congr 1
  funext c
  by_cases tilde : c = '~'
  · simp [escaped, tilde]
  · simp [escaped, tilde]

@[simp] theorem escape_nil : escape [] = [] := rfl

theorem escape_cons (c : Char) (rest : List Char) :
    escape (c :: rest) = escaped c ++ escape rest := by
  rw [escape_eq, escape_eq, List.flatMap_cons]

theorem escaped_of_ne {c : Char} (tilde : c ≠ '~') (slash : c ≠ '/') : escaped c = [c] := by
  rw [escaped, if_neg tilde, if_neg slash]

theorem escape_append (one other : List Char) :
    escape (one ++ other) = escape one ++ escape other := by
  simp only [escape_eq, List.flatMap_append]

theorem escape_of_notMem {key : List Char} (tilde : '~' ∉ key) (slash : '/' ∉ key) :
    escape key = key := by
  induction key with
  | nil => rfl
  | cons c rest ih =>
    rw [List.mem_cons, not_or] at tilde slash
    rw [escape_cons, escaped_of_ne (Ne.symm tilde.1) (Ne.symm slash.1), ih tilde.2 slash.2,
      List.singleton_append]

theorem slash_notMem_escape (key : List Char) : '/' ∉ escape key := by
  rw [escape_eq, List.mem_flatMap]
  rintro ⟨c, _, inside⟩
  unfold escaped at inside
  split at inside
  · simp at inside
  · split at inside
    · simp at inside
    · rename_i slash
      exact slash (List.mem_singleton.mp inside).symm

theorem escape_ne_nil {key : List Char} (some : key ≠ []) : escape key ≠ [] := by
  obtain ⟨c, rest, rfl⟩ := List.exists_cons_of_ne_nil some
  rw [escape_cons, escaped]
  split
  · simp
  · split <;> simp

/-- The slashes of a key come back first, since the tilde of an escaped tilde is followed by a
zero. -/
theorem replaceAll_slash_escape (key : List Char) :
    Text.replaceAll ['~', '1'] ['/'] (escape key) = Text.replaceAll ['~'] ['~', '0'] key := by
  induction key with
  | nil => rfl
  | cons c rest ih =>
    unfold Text.replaceAll at ih ⊢
    rw [escape_cons, escaped]
    by_cases tilde : c = '~'
    · simp [Text.replaceFrom, tilde, ih]
    · by_cases slash : c = '/'
      · simp [Text.replaceFrom, slash, ih]
      · simp [Text.replaceFrom, tilde, slash, Ne.symm tilde, ih]

/-- Reading an escaped key gives the key. -/
theorem unescape_escape (key : List Char) : unescape (escape key) = key := by
  rw [unescape, replaceAll_slash_escape]
  induction key with
  | nil => rfl
  | cons c rest ih =>
    unfold Text.replaceAll at ih ⊢
    by_cases tilde : c = '~'
    · simp [Text.replaceFrom, tilde, ih]
    · simp [Text.replaceFrom, Ne.symm tilde, ih]

/-- The pointer of a component schema. -/
def ofComponent (key : String) : String :=
  "#/components/schemas/" ++ String.ofList (escape key.toList)

theorem toList_ofComponent (key : String) :
    (ofComponent key).toList = '#' :: '/' ::
      ("components".toList ++ '/' :: ("schemas".toList ++ '/' :: escape key.toList)) := by
  unfold ofComponent
  generalize escape key.toList = written
  simp

/-- Only the slashes that are written in front of a key divide its pointer. -/
theorem cut_below_root (key : String) :
    Text.cut '/' ("components".toList ++ '/' :: ("schemas".toList ++ '/' :: escape key.toList)) =
      ["components".toList, "schemas".toList, escape key.toList] := by
  rw [Text.cut_append (by decide), Text.cut_append (by decide),
    Text.cut_of_notMem (slash_notMem_escape _)]

theorem lastPiece_ofComponent (key : String) :
    Text.lastPiece '/' (ofComponent key).toList = escape key.toList := by
  have divided : Text.cut '/' (ofComponent key).toList =
      [['#'], "components".toList, "schemas".toList, escape key.toList] := by
    rw [toList_ofComponent, ← List.singleton_append, Text.cut_append (by decide), cut_below_root]
  simp only [Text.lastPiece, divided]
  rfl

theorem parts_ofComponent {key : String} (some : key ≠ "") :
    parts (ofComponent key) = ["components".toList, "schemas".toList, key.toList] := by
  have present : escape key.toList ≠ [] := escape_ne_nil (by simpa using some)
  -- Empty parts are left out, so the key itself must not be empty.
  have divided : Text.cut '/' ((ofComponent key).toList.drop 1) =
      [[], "components".toList, "schemas".toList, escape key.toList] := by
    rw [toList_ofComponent, List.drop_one, List.tail_cons, Text.cut, if_pos rfl, cut_below_root]
  have kept : [[], "components".toList, "schemas".toList, escape key.toList].filter (· ≠ []) =
      ["components".toList, "schemas".toList, escape key.toList] := by
    simp [present]
  have plain : unescape "components".toList = "components".toList ∧
      unescape "schemas".toList = "schemas".toList := by decide +kernel
  rw [parts, divided, kept]
  simp only [List.map_cons, List.map_nil, plain, unescape_escape]

end Pointer

/-- A field that is an object is a member of an object. -/
theorem Node.get?_of_field {node : Node} {key : String} {members : Members}
    (held : node.field key = .object members) :
    ∃ own, node = .object own ∧ Members.get? own key = some (.object members) := by
  cases node with
  | object own =>
    refine ⟨own, rfl, ?_⟩
    have same : (Members.get? own key).getD .null = .object members := held
    cases found : Members.get? own key with
    | none => simp [found] at same
    | some value => simpa [found] using same
  | _ => simp [Node.field, Node.get?, Node.members?] at held

/-- The component schemas of a document, below an object in it. -/
theorem Document.schemas_of_field {document : Node} {schemas : Members}
    (listed : (document.field "components").field "schemas" = .object schemas)
    (some : schemas ≠ []) : Document.schemas document = .ok schemas := by
  obtain ⟨components, held, found⟩ := Node.get?_of_field listed
  obtain ⟨members, rfl, found'⟩ := Node.get?_of_field held
  have present : (Node.object components).isPresent = true := by
    cases components with
    | nil => simp [Members.get?] at found
    | cons => rfl
  have present' : (Node.object schemas).isPresent = true := by
    cases schemas with
    | nil => exact absurd rfl some
    | cons => rfl
  simp [Document.schemas, Node.ask, Members.field, found, found', present, present', Node.pairs,
    bind, Except.bind]

/-- The pointer of a component schema leads to this component. -/
theorem Pointer.walk_ofComponent {document : Node} {schemas : Members}
    (listed : (document.field "components").field "schemas" = .object schemas) {key : String}
    {schema : Node} (found : schemas.get? key = some schema) (some : key ≠ "")
    (present : schema ≠ .null) :
    walk document (ofComponent key) =
      .ok ⟨true, [.key "components", .key "schemas", .key key], schema⟩ := by
  obtain ⟨components, held, inComponents⟩ := Node.get?_of_field listed
  obtain ⟨members, rfl, inDocument⟩ := Node.get?_of_field held
  simp [walk, parts_ofComponent some, walkFrom, step, Located.root, inDocument, inComponents, found,
    present]

end ApiBindings
