import SchemaCodegen.Proofs.Casing
import SchemaCodegen.Proofs.Renaming
import SchemaCodegen.Proofs.Sharing

/-!
# The names of variants

By the conventions that hold if none are set, the three models of a conditional schema are named by
its title behind different texts: none for the base, `Default` for the second variant, and for the
first what is left of the discriminator without its first two characters. Class names are different
exactly if these texts are. So the first variant has a name of its own unless nothing is left of the
discriminator, or just `Default`.
-/

namespace SchemaCodegen

open Json (Value Members)

/-! ## Class names by default -/

namespace Naming

theorem withNewEnding_of_params (front : String) :
    withNewEnding {} (front ++ "Params") = .ok (front ++ "AdapterParams") := by
  rw [withNewEnding_of_isEndOf rfl rfl (Ending.isEndOf_append ..),
    Ending.replaced_append (by decide)]

/-- What gets a new ending still has the reserved one, so it is no name that has it not. -/
theorem withNewEnding_ne {name other : String} (isEnd : Ending.isEndOf "Params" name = true)
    (isNoEnd : Ending.isEndOf "Params" other = false) :
    withNewEnding {} name ≠ withNewEnding {} other := by
  obtain ⟨front, rfl⟩ := Ending.exists_of_isEndOf isEnd
  rw [withNewEnding_of_params, withNewEnding_of_not_isEndOf rfl isNoEnd]
  intro same
  have stillEnd := Ending.isEndOf_append (front ++ "Adapter") "Params"
  rw [String.append_assoc, show "Adapter" ++ "Params" = "AdapterParams" from rfl,
    Except.ok.inj same, isNoEnd] at stillEnd
  cases stillEnd

/-- Names that are different stay so with the new ending. -/
theorem withNewEnding_inj {name other : String} :
    withNewEnding {} name = withNewEnding {} other ↔ name = other := by
  constructor
  · intro same
    cases isEnd : Ending.isEndOf "Params" name with
    | true =>
      cases otherEnd : Ending.isEndOf "Params" other with
      | true =>
        obtain ⟨front, rfl⟩ := Ending.exists_of_isEndOf isEnd
        obtain ⟨front', rfl⟩ := Ending.exists_of_isEndOf otherEnd
        rw [withNewEnding_of_params, withNewEnding_of_params, Except.ok.injEq] at same
        rw [(String.append_left_inj _).mp same]
      | false => exact absurd same (withNewEnding_ne isEnd otherEnd)
    | false =>
      cases otherEnd : Ending.isEndOf "Params" other with
      | true => exact absurd same.symm (withNewEnding_ne otherEnd isEnd)
      | false =>
        rw [withNewEnding_of_not_isEndOf rfl isEnd, withNewEnding_of_not_isEndOf rfl otherEnd] at same
        exact Except.ok.inj same
  · rintro rfl
    rfl

/-- Class names of one title behind two texts in capitalised words are the same only for the same
text. -/
theorem className_eq_iff {front other title name otherName : String}
    (written : Words.pascalCase front = front) (writtenOther : Words.pascalCase other = other)
    (named : className {} (front ++ title) = .ok name)
    (otherNamed : className {} (other ++ title) = .ok otherName) :
    name = otherName ↔ front = other := by
  have sameNames : name = otherName ↔
      className {} (front ++ title) = className {} (other ++ title) := by
    rw [named, otherNamed, Except.ok.injEq]
  have inWords : ∀ {text : String}, Words.pascalCase text = text →
      Words.pascal text.toList = text.toList := by
    intro text isWritten
    rw [← Words.toList_pascalCase, isWritten]
  rw [sameNames, className, className, withNewEnding_inj, ← String.toList_inj,
    Words.toList_pascalCase, Words.toList_pascalCase, String.toList_append, String.toList_append,
    Words.pascal_append_inj (inWords written) (inWords writtenOther), String.toList_inj]

end Naming

/-! ## Names of a conditional schema -/

namespace Conditional

/-- What stands before the title in the name of the first variant by default. -/
def front (key : String) : String := Words.pascalCase (Naming.dropFront 2 key)

theorem pascalCase_front (key : String) : Words.pascalCase (front key) = front key := by
  apply String.toList_inj.mp
  rw [front, Words.toList_pascalCase, Words.toList_pascalCase, Words.pascal_pascal]

theorem nodup_three {base first second : String} :
    [base, first, second].Nodup ↔ second ≠ base ∧ first ≠ base ∧ first ≠ second := by
  simp only [List.nodup_cons, List.mem_cons, List.not_mem_nil, or_false, not_or, not_false_eq_true,
    List.nodup_nil, and_true, @eq_comm _ base]
  tauto

/-- The texts that a split by default has names from: what the document is called, behind three texts. -/
theorem names_of_title {config : Config} {document : Members} {formed : Names}
    (isTyped : config.naming = .typed {}) (named : names config document = .ok formed) :
    ∃ title, titleOr document (.typed "BaseClass") = .str title ∧ formed.base = .str title ∧
      formed.first = front formed.key ++ title ∧ formed.second = "Default" ++ title := by
  obtain ⟨key, _, named⟩ := Outcome.bind_eq_ok.mp named
  obtain ⟨conventions, isConventions, named⟩ := Outcome.bind_eq_ok.mp named
  rw [isTyped] at isConventions
  cases isConventions
  obtain ⟨length, isLength, named⟩ := Outcome.bind_eq_ok.mp named
  cases isLength
  obtain ⟨_, _, named⟩ := Outcome.bind_eq_ok.mp named
  obtain ⟨baseClass, _, named⟩ := Outcome.bind_eq_ok.mp named
  obtain ⟨first, isFirst, named⟩ := Outcome.bind_eq_ok.mp named
  obtain ⟨firstClass, _, named⟩ := Outcome.bind_eq_ok.mp named
  obtain ⟨otherwise, isOtherwise, named⟩ := Outcome.bind_eq_ok.mp named
  cases isOtherwise
  obtain ⟨second, isSecond, named⟩ := Outcome.bind_eq_ok.mp named
  obtain ⟨secondClass, _, named⟩ := Outcome.bind_eq_ok.mp named
  obtain ⟨value, _, same⟩ := Outcome.bind_eq_ok.mp named
  cases same
  -- only a text can be joined to another
  cases isTitle : titleOr document (.typed "BaseClass") with
  | str title =>
    rw [isTitle, joined, Except.ok.injEq] at isFirst isSecond
    exact ⟨title, rfl, rfl, isFirst.symm, isSecond.symm⟩
  | _ =>
    rw [isTitle] at isFirst
    cases isFirst

section Names

variable {config : Config} {document : Members} {title : String}
  (byDefault : config.naming.namer.conventions = .ok {})
  (titled : Entries.get? document "title" = some (.str title)) (some_ : title ≠ "")
include byDefault titled some_

/-- The names of a split by default: the title behind three texts. -/
theorem names_default {formed : Names} (named : names config document = .ok formed) :
    config.naming = .typed {} ∧ formed.base = .str title ∧
      formed.first = front formed.key ++ title ∧ formed.second = "Default" ++ title := by
  have isTyped : config.naming = .typed {} := by
    obtain ⟨⟨conventions, _, isTyped, _⟩, _⟩ := names_eq_ok named
    rw [isTyped] at byDefault ⊢
    cases byDefault
    rfl
  have isTitle : titleOr document (.typed "BaseClass") = .str title := by
    have isSet : (Value.str title).isSet = true := by
      simpa [Value.isSet] using some_
    rw [titleOr, titled]
    exact if_pos isSet
  obtain ⟨_, sameTitle, parts⟩ := names_of_title isTyped named
  cases isTitle.symm.trans sameTitle
  exact ⟨isTyped, parts⟩

/-- The models of a split have the class names of the three texts, and the cases name the variants. -/
theorem classNames_of_models {formed : Names} {models : List Model}
    (named : names config document = .ok formed)
    (made : Conditional.models config document formed = .ok models) :
    ∃ base first second, models = [base, first, second] ∧
      Naming.className {} ("" ++ title) = .ok base.name ∧
      Naming.className {} (front formed.key ++ title) = .ok first.name ∧
      Naming.className {} ("Default" ++ title) = .ok second.name ∧
      base.unionCases =
        some [(caseName formed.value, first.name), (caseName !formed.value, second.name)] := by
  obtain ⟨isTyped, isBase, isFirst, isSecond⟩ := names_default byDefault titled some_ named
  obtain ⟨⟨conventions, text, isConventions, isText, baseNamed, firstNamed, secondNamed⟩, _⟩ :=
    names_eq_ok named
  rw [isTyped] at isConventions
  cases isConventions
  obtain ⟨otherText, base, first, second, isOther, ofBase, ofFirst, ofSecond, rfl⟩ :=
    models_eq_ok made
  rw [isBase] at isText isOther
  cases isText
  cases isOther
  have baseName := Model.name_of_ofNode isTyped ofBase baseNamed
  have firstName := Model.name_of_ofNode isTyped ofFirst firstNamed
  have secondName := Model.name_of_ofNode isTyped ofSecond secondNamed
  rw [isFirst] at firstNamed
  rw [isSecond] at secondNamed
  refine ⟨_, _, _, rfl, ?_, ?_, ?_, ?_⟩
  · rw [String.empty_append, baseName]
    exact baseNamed
  · rw [firstName]
    exact firstNamed
  · rw [secondName]
    exact secondNamed
  · rw [firstName, secondName]

/-- The models of a conditional schema with a title have different names by default exactly if
something other than `Default` is left of the discriminator. The name of the second variant is never
that of the base. -/
theorem ofDocument_names_differ_iff {schema : Schema} (conditional : isConditional document = true)
    (parsed : Schema.ofDocument config (.obj document) = .ok schema)
    (inhabited : schema.models ≠ []) :
    ∃ base first second key value, schema.models = [base, first, second] ∧
      (conditions document).keys.head? = some key ∧
      base.unionCases = some [(caseName value, first.name), (caseName !value, second.name)] ∧
      second.name ≠ base.name ∧ (first.name = base.name ↔ front key = "") ∧
      (first.name = second.name ↔ front key = "Default") ∧
      (schema.names.Nodup ↔ front key ≠ "" ∧ front key ≠ "Default") := by
  obtain ⟨models, formed, same⟩ := Outcome.bind_eq_ok.mp parsed
  cases same
  rw [Document.models, if_pos conditional] at formed
  obtain ⟨formedNames, named, formed⟩ := Outcome.bind_eq_ok.mp formed
  split at formed
  next =>
    cases formed
    exact absurd rfl inhabited
  next =>
    obtain ⟨_, isHead, _⟩ := names_eq_ok named
    obtain ⟨base, first, second, rfl, ofBase, ofFirst, ofSecond, isCases⟩ :=
      classNames_of_models byDefault titled some_ named formed
    have noText : Words.pascalCase "" = "" := rfl
    have default : Words.pascalCase "Default" = "Default" := by decide
    have ofKey := pascalCase_front formedNames.key
    have secondOwn := Naming.className_eq_iff default noText ofSecond ofBase
    have firstOwn := Naming.className_eq_iff ofKey noText ofFirst ofBase
    have variantsOwn := Naming.className_eq_iff ofKey default ofFirst ofSecond
    refine ⟨base, first, second, formedNames.key, formedNames.value, rfl, isHead, isCases, ?_,
      firstOwn, variantsOwn, ?_⟩
    · rw [Ne, secondOwn]
      decide
    · have someDefault : "Default" ≠ "" := by decide
      show [base.name, first.name, second.name].Nodup ↔ _
      rw [nodup_three, Ne, secondOwn, Ne, firstOwn, Ne, variantsOwn, and_iff_right someDefault]

end Names

/-- The names of the models of a ticket are different, as its discriminator is `isUrgent`. -/
theorem ofDocument_names_differ_ticket : ∃ schema,
    Schema.ofDocument {} (.obj ticketDocument) = .ok schema ∧ schema.models ≠ [] ∧
      schema.names.Nodup := by
  have isOk : Outcome.any (Schema.ofDocument {} (.obj ticketDocument))
      (fun schema => schema.models ≠ []) = true := by
    decide +kernel
  obtain ⟨schema, parsed, inhabited⟩ := Outcome.any_iff.mp isOk
  have some_ : schema.models ≠ [] := of_decide_eq_true inhabited
  have titled : Entries.get? ticketDocument "title" = some (.str "Ticket") := by decide
  obtain ⟨_, _, _, key, _, _, isHead, _, _, _, _, differ⟩ :=
    @ofDocument_names_differ_iff {} _ _ rfl titled (by decide) _ (by decide) parsed some_
  have urgent : (conditions ticketDocument).keys.head? = some "isUrgent" := by decide
  have isKey : "isUrgent" = key := Option.some.inj (urgent.symm.trans isHead)
  refine ⟨schema, parsed, some_, differ.mpr ?_⟩
  rw [← isKey]
  decide +kernel

/-- A document that is told apart by whether it is the default. -/
def defaultDocument : Members :=
  [("title", .str "Task"), ("properties", .obj [("isDefault", .obj [])]), ("required", .arr []),
    ("if", .obj [("properties", .obj [("isDefault", .obj [("const", .bool true)])])]),
    ("then", .obj []), ("else", .obj [])]

/-- Both values of the discriminator are sent to one name, which two models have. -/
theorem ofDocument_names_merge_task : ∃ schema base,
    Schema.ofDocument {} (.obj defaultDocument) = .ok schema ∧
      schema.names = ["Task", "DefaultTask", "DefaultTask"] ∧ schema.models.head? = some base ∧
      base.unionCases = some [("true", "DefaultTask"), ("false", "DefaultTask")] := by
  have run : Outcome.any (Schema.ofDocument {} (.obj defaultDocument)) (fun schema =>
      schema.names = ["Task", "DefaultTask", "DefaultTask"] &&
        schema.models.head?.bind (·.unionCases) =
          some [("true", "DefaultTask"), ("false", "DefaultTask")]) = true := by
    decide +kernel
  obtain ⟨schema, parsed, holds⟩ := Outcome.any_iff.mp run
  simp only [Bool.and_eq_true, decide_eq_true_eq, Option.bind_eq_some_iff] at holds
  obtain ⟨named, base, isBase, isCases⟩ := holds
  exact ⟨schema, base, parsed, named, isBase, isCases⟩

end Conditional

end SchemaCodegen
