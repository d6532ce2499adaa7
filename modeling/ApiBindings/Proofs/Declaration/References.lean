import ApiBindings.Proofs.Declaration.Run
import ApiBindings.Proofs.Name.TypeName
import ApiBindings.Proofs.Reference.Escape

/-!
# References to components

A reference is named by the text of its pointer behind the last slash, as it is written there, and
the declaration of a component by its key. The two names are one where the key is written in the
pointer as it is. A key that has to be escaped is declared without the escape: the digit of each
escape stays in the name of the reference alone.
-/
namespace ApiBindings

section

variable [Text.Romanization]

theorem Schema.value_referenceName {reference : Members} {key : String}
    (refers : reference.field "$ref" = .text (Pointer.ofComponent key)) (namespaceName : String) :
    (Schema.referenceName namespaceName reference).value =
      (TypeName.sanitize namespaceName (String.ofList (Pointer.escape key.toList))).value := by
  have shown : (Node.text (Pointer.ofComponent key)).display = Pointer.ofComponent key :=
    String.ofList_toList
  unfold Schema.referenceName
  dsimp only
  rw [refers, shown, Pointer.lastPiece_ofComponent]

namespace Pointer

omit [Text.Romanization] in
/-- Every escape writes a digit. -/
theorem digits_escape (key : List Char) :
    TypeName.digits (escape key) =
      TypeName.digits key + key.countP fun c => c == '~' || c == '/' := by
  induction key with
  | nil => rfl
  | cons c rest ih =>
    rw [escape_cons, TypeName.digits_append, TypeName.digits_cons c, List.countP_cons, ih, escaped]
    by_cases tilde : c = '~'
    · subst tilde
      have counted : TypeName.digits ['~', '0'] = 1 ∧ TypeName.digits ['~'] = 0 := by
        decide +kernel
      simp
      omega
    · by_cases slash : c = '/'
      · subst slash
        have counted : TypeName.digits ['~', '1'] = 1 ∧ TypeName.digits ['/'] = 0 := by
          decide +kernel
        simp
        omega
      · simp [tilde, slash]
        omega

omit [Text.Romanization] in
theorem tilde_mem_escape {key : List Char} (special : '/' ∈ key ∨ '~' ∈ key) :
    '~' ∈ escape key := by
  rw [escape_eq, List.mem_flatMap]
  rcases special with slash | tilde
  · exact ⟨'/', slash, by decide⟩
  · exact ⟨'~', tilde, by decide⟩

omit [Text.Romanization] in
theorem mem_of_mem_escape {key : List Char} {c : Char} (member : c ∈ escape key) :
    c ∈ key ∨ c = '~' ∨ c = '0' ∨ c = '1' := by
  rw [escape_eq, List.mem_flatMap] at member
  obtain ⟨d, inKey, written⟩ := member
  unfold escaped at written
  split at written
  · grind
  · split at written <;> grind

end Pointer

namespace TypeName

/-- A key that is written in a pointer as it is, as far as it counts, has one name with it. -/
theorem sanitize_escape (namespaceName : String) {key : String} (slash : '/' ∉ key.toList)
    (tilde : '~' ∉ Text.firstPiece ',' key.toList) :
    (sanitize namespaceName (String.ofList (Pointer.escape key.toList))).value =
      (sanitize namespaceName key).value := by
  obtain ⟨comma, whole | ⟨rest, divided⟩⟩ := Text.firstPiece_spec ',' key.toList
  · rw [whole] at tilde
    rw [Pointer.escape_of_notMem tilde slash, String.ofList_toList]
  · -- What stands behind the comma does not count, whether it is escaped or not.
    generalize Text.firstPiece ',' key.toList = first at comma tilde divided
    have slash' : '/' ∉ first := fun member => slash (by simp [divided, member])
    have written : Pointer.escape key.toList = first ++ ',' :: Pointer.escape rest := by
      rw [divided, Pointer.escape_append, Pointer.escape_of_notMem tilde slash',
        Pointer.escape_cons]
      rfl
    have absent : '/' ∉ first ++ ',' :: Pointer.escape rest :=
      written ▸ Pointer.slash_notMem_escape _
    apply value_sanitize_congr
    · refine isReserved_eq_false (c := ',') ?_ (by decide)
      simp [written]
    · refine isReserved_eq_false (c := ',') ?_ (by decide)
      simp [divided]
    · rw [String.toList_ofList, written, lastSegment_append comma absent, divided,
        lastSegment_append comma (divided ▸ slash)]

/-- A key that has to be escaped has fewer digits than what is written in the pointer. -/
theorem sanitize_escape_ne (keeps : Text.Romanization.KeepsDigits) {namespaceName key : String}
    (none : namespaceName.toList.countP Char.isDigit = 0) (comma : ',' ∉ key.toList)
    (special : '/' ∈ key.toList ∨ '~' ∈ key.toList) :
    (sanitize namespaceName (String.ofList (Pointer.escape key.toList))).value ≠
      (sanitize namespaceName key).value := by
  intro same
  -- No digit is lost on the way to a name, so equal names would have as many of them.
  have tilde := Pointer.tilde_mem_escape special
  have plain : isReserved (String.ofList (Pointer.escape key.toList)) = false :=
    isReserved_eq_false (c := '~') (by simpa using tilde) (by decide)
  have plain' : isReserved key = false := by
    rcases special with slash | tilde
    · exact isReserved_eq_false slash (by decide)
    · exact isReserved_eq_false tilde (by decide)
  have absent : ',' ∉ Pointer.escape key.toList := fun member => by
    simpa [comma] using Pointer.mem_of_mem_escape member
  have counted := congrArg (fun name => name.toList.countP Char.isDigit) same
  rw [countP_isDigit_sanitize keeps plain none, countP_isDigit_sanitize keeps plain' none,
    String.toList_ofList, digits_lastSegment (Pointer.slash_notMem_escape _) absent,
    Pointer.digits_escape] at counted
  have fewer := digits_lastSegment_le key.toList
  have escapes : 0 < key.toList.countP fun c => c == '~' || c == '/' := by
    rw [List.countP_pos_iff]
    rcases special with slash | tilde
    · exact ⟨'/', slash, rfl⟩
    · exact ⟨'~', tilde, rfl⟩
  omega

end TypeName

/-- Every component schema is declared, its pointer leads to it, and a reference by this pointer
has the name of the declaration where the key is written in it as it is, as far as it counts. A key
with an escape in it is named otherwise, unless a comma cuts off the difference, the namespace holds
digits to take out or ideographs are read with digits. -/
theorem referenceName_of_component (builder : DeclarationBuilder) (declarations : List Declaration)
    (schemas : Members) (declared : builder.declarations.outcome = .ok declarations)
    (listed : (builder.document.field "components").field "schemas" = .object schemas) :
    ∀ key schema, schemas.get? key = some schema → ∃ declaration ∈ declarations,
      (builder.ofComponent (.text key) schema).outcome = .ok declaration ∧
      (key ≠ "" → schema ≠ .null → Pointer.walk builder.document (Pointer.ofComponent key) =
        .ok ⟨true, [.key "components", .key "schemas", .key key], schema⟩) ∧
      ∀ reference : Members, reference.field "$ref" = .text (Pointer.ofComponent key) →
        let name := (Schema.referenceName builder.settings.namespaceName reference).value
        ('/' ∉ key.toList → '~' ∉ Text.firstPiece ',' key.toList → name = declaration.typeName) ∧
        (Text.Romanization.KeepsDigits →
          builder.settings.namespaceName.toList.countP Char.isDigit = 0 → ',' ∉ key.toList →
          '/' ∈ key.toList ∨ '~' ∈ key.toList → name ≠ declaration.typeName) := by
  intro key schema found
  have member := Members.mem_of_get? found
  obtain ⟨declaration, among, made⟩ := DeclarationBuilder.exists_ofComponent declared
    (Document.schemas_of_field listed (List.ne_nil_of_mem member)) member
  refine ⟨declaration, among, made, Pointer.walk_ofComponent listed found,
    fun reference refers => ?_⟩
  dsimp only
  rw [Schema.value_referenceName refers, DeclarationBuilder.typeName_of_ofComponent made]
  exact ⟨TypeName.sanitize_escape _, fun keeps => TypeName.sanitize_escape_ne keeps⟩

end

/-- A document with one component schema, an object. -/
def withComponent (key : String) : Node :=
  .object [(.text "components", .object [(.text "schemas", .object
    [(.text key, .object [(.text "type", .text "object")])])])]

theorem referenceName_of_pet :
    Text.Romanization.KeepsDigits ∧
      ∃ (builder : DeclarationBuilder) (declarations : List Declaration),
      DeclarationBuilder.create (withComponent "Pet") (Settings.ofSource "openapi.json") =
        .ok builder ∧
      builder.declarations.outcome = .ok declarations ∧
      ∃ declaration ∈ declarations,
        (Schema.referenceName "API" [(.text "$ref", .text (Pointer.ofComponent "Pet"))]).value =
          declaration.typeName := by
  let builder : DeclarationBuilder := ⟨withComponent "Pet", Settings.ofSource "openapi.json",
    Namer.create "API" [] .none 20⟩
  obtain ⟨declarations, declared⟩ :=
    Attempt.exists_outcome builder.declarations (by decide +kernel)
  obtain ⟨declaration, among, _, _, named⟩ :=
    referenceName_of_component builder declarations _ declared rfl "Pet" _ rfl
  have plain : '/' ∉ "Pet".toList ∧ '~' ∉ Text.firstPiece ',' "Pet".toList := by decide +kernel
  exact ⟨Text.Romanization.keepsDigits_examples, builder, declarations, rfl, declared,
    declaration, among,
    (named [(.text "$ref", .text (Pointer.ofComponent "Pet"))] rfl).1 plain.1 plain.2⟩

/-- The pointer of a component with a slash in its key leads to it, but the component is declared
under the name behind the slash, and a reference by this pointer is named by the whole key with the
digit of its escape. -/
theorem referenceName_of_slash :
    let schema : Node := .object [(.text "type", .text "object")]
    ∃ (builder : DeclarationBuilder) (declarations : List Declaration),
      DeclarationBuilder.create (withComponent "a/b") (Settings.ofSource "openapi.json") =
        .ok builder ∧
      builder.declarations.outcome = .ok declarations ∧
      Pointer.walk (withComponent "a/b") "#/components/schemas/a~1b" =
        .ok ⟨true, [.key "components", .key "schemas", .key "a/b"], schema⟩ ∧
      (∃ declaration ∈ declarations,
        (builder.ofComponent (.text "a/b") schema).outcome = .ok declaration ∧
        declaration.typeName = "b") ∧
      (Schema.referenceName "API" [(.text "$ref", .text "#/components/schemas/a~1b")]).value =
        "a1b" := by
  intro schema
  let builder : DeclarationBuilder := ⟨withComponent "a/b", Settings.ofSource "openapi.json",
    Namer.create "API" [] .none 20⟩
  obtain ⟨declarations, declared⟩ :=
    Attempt.exists_outcome builder.declarations (by decide +kernel)
  obtain ⟨declaration, among, made⟩ : ∃ declaration ∈ declarations,
      (builder.ofComponent (.text "a/b") schema).outcome = .ok declaration :=
    DeclarationBuilder.exists_ofComponent declared rfl (List.mem_singleton.mpr rfl)
  have declaredName : (TypeName.sanitize "API" "a/b").value = "b" :=
    TypeName.value_sanitize_of_plain "b".toList (by decide) (by decide +kernel)
      (by decide +kernel) (by decide +kernel) (by decide +kernel)
  have writtenName : (TypeName.sanitize "API" "a~1b").value = "a1b" :=
    TypeName.value_sanitize_of_plain "a1b".toList (by decide) (by decide +kernel)
      (by decide +kernel) (by decide +kernel) (by decide +kernel)
  have escaped : Pointer.escape "a/b".toList = "a~1b".toList := by decide +kernel
  have pointer : "#/components/schemas/a~1b" = Pointer.ofComponent "a/b" := by
    unfold Pointer.ofComponent
    rw [escaped]
    decide +kernel
  have refers : Members.field [(.text "$ref", .text "#/components/schemas/a~1b")] "$ref" =
      .text (Pointer.ofComponent "a/b") := by
    rw [← pointer]
    rfl
  refine ⟨builder, declarations, rfl, declared, ?_, ⟨declaration, among, made, ?_⟩, ?_⟩
  · rw [pointer]
    exact Pointer.walk_ofComponent rfl rfl (by decide) (by decide)
  · rw [DeclarationBuilder.typeName_of_ofComponent made]
    exact declaredName
  · rw [Schema.value_referenceName refers, escaped, String.ofList_toList, writtenName]

end ApiBindings
