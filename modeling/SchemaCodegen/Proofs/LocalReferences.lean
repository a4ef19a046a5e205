import SchemaCodegen.Proofs.Casing
import SchemaCodegen.Proofs.Places
import SchemaCodegen.Proofs.Renaming

/-!
# References into the document

A reference is read by its last part alone, and the model of a definition is named by the block and
the definition together. So a reference to an entry finds its model under all conventions, while one
to a definition finds it only where the key of the block adds nothing to the name. Behind the
reserved ending that can be so for a key with letters too; by default it is not.
-/

namespace SchemaCodegen

open Json (Value Members)

/-! ## What a reference is read as -/

/-- The last part of a text is what stands behind a slash that no other follows. -/
theorem lastPart_append {text : String} (plain : '/' ∉ text.toList) (front : String) :
    lastPart (front ++ "/" ++ text) = text := by
  have characters : (front ++ "/" ++ text).toList.reverse =
      text.toList.reverse ++ '/' :: front.toList.reverse := by
    rw [String.toList_append, String.toList_append, List.reverse_append, List.reverse_append]
    rfl
  have allPlain : ∀ c ∈ text.toList.reverse, decide (c ≠ '/') = true := by
    intro c isIn
    rw [decide_eq_true_eq]
    rintro rfl
    exact plain (List.mem_reverse.mp isIn)
  rw [lastPart, characters, List.takeWhile_append_of_pos allPlain, List.takeWhile_cons_of_neg (by decide),
    List.append_nil, List.reverse_reverse, String.ofList_toList]

namespace FieldType

/-- Whether every node with the reference is read as a field of the class, wherever it stands. -/
def Resolves (naming : Setting Naming) (reference name : String) : Prop :=
  ∀ path members, Entries.get? members "$ref" = some (.str reference) →
    ofNode naming path (.obj members) = .ok (.reference name)

/-- A reference is read as the class name of its last part. -/
theorem resolves_of_className {conventions : Naming} {reference name : String}
    (named : conventions.className (lastPart reference) = .ok name) :
    Resolves (.typed conventions) reference name := by
  intro path members refers
  have noArray : isArray members = false := by
    rw [isArray, Entries.has, refers]
    rfl
  rw [ofNode, if_neg (by rw [noArray]; exact Bool.false_ne_true), refers]
  show ofReference _ _ = _
  rw [ofReference, Setting.conventions, Outcome.ok_bind, Value.display_str, named]
  rfl

end FieldType

/-! ## Class names of two parts -/

namespace Words

/-- Behind what is no letter or digit, words begin anew. -/
theorem pascalCase_joined (first second : String) :
    pascalCase (first ++ "_" ++ second) = pascalCase first ++ pascalCase second := by
  have mark : isPart '_' = false := by decide
  apply String.toList_inj.mp
  rw [String.toList_append, toList_pascalCase, toList_pascalCase, toList_pascalCase,
    pascal_eq_capitals, pascal_eq_capitals, pascal_eq_capitals, String.append_assoc,
    String.toList_append, String.toList_append, capitals_append]
  show _ ++ capitals _ ('_' :: second.toList) = _
  rw [capitals_cons_of_not_isPart mark]

theorem pascalCase_eq_empty {text : String} :
    pascalCase text = "" ↔ ∀ c ∈ text.toList, isPart c = false := by
  rw [← String.toList_inj, toList_pascalCase, pascal_eq_capitals, String.toList_empty,
    ← List.length_eq_zero_iff, length_capitals, List.countP_eq_zero]
  simp only [Bool.not_eq_true]

end Words

namespace Ending

theorem isEndOf_empty (text : String) : isEndOf "" text = true := isEndOf_iff.mpr (List.nil_suffix)

/-- An ending of two texts that is not one of the second takes some of the first. -/
theorem exists_of_isEndOf_append {ending front text : String}
    (isEnd : isEndOf ending (front ++ text) = true) (noEnd : isEndOf ending text = false) :
    ∃ kept lost, front = kept ++ lost ∧ ending = lost ++ text ∧ lost ≠ "" := by
  obtain ⟨kept, joined⟩ := exists_of_isEndOf isEnd
  have characters := congrArg String.toList joined
  rw [String.toList_append, String.toList_append, List.append_eq_append_iff] at characters
  rcases characters with ⟨more, _, behind⟩ | ⟨lost, ofFront, ofEnding⟩
  · have isEndOfText : isEndOf ending text = true := isEndOf_iff.mpr ⟨more, behind.symm⟩
    rw [noEnd] at isEndOfText
    cases isEndOfText
  · refine ⟨kept, String.ofList lost, ?_, ?_, ?_⟩
    · apply String.toList_inj.mp
      rw [String.toList_append, String.toList_ofList, ofFront]
    · apply String.toList_inj.mp
      rw [String.toList_append, String.toList_ofList, ofEnding]
    · intro none_
      have noChars : lost = [] := String.ofList_injective none_
      have isEndOfText : isEndOf ending text = true := by
        rw [isEndOf_iff, ofEnding, noChars, List.nil_append]
      rw [noEnd] at isEndOfText
      cases isEndOfText

end Ending

namespace Naming

/-- Whether a text in front of another leaves no trace in the name of both: it is empty, any name is
replaced as a whole, or the reserved ending takes the text behind with some of the one in front, and
what comes in its place is what was lost. -/
def Absorbs (conventions : Naming) (front text : String) : Prop :=
  front = "" ∨ conventions.ending = .typed "" ∨
    ∃ kept lost replacement, lost ≠ "" ∧ front = kept ++ lost ∧
      conventions.ending = .typed (lost ++ text) ∧ conventions.replacement = .typed replacement ∧
      text = kept ++ replacement

variable {conventions : Naming} {ending name : String}

/-- Under a reserved ending that is some text, only an empty text leaves no trace where the ending takes
nothing of the text in front, or what it takes is not made up for. -/
theorem absorbs_iff_of_not_taken (reserved : conventions.ending = .typed ending) (some_ : ending ≠ "")
    {front text : String}
    (notTaken : ∀ kept lost replacement, lost ≠ "" → front = kept ++ lost → ending = lost ++ text →
      conventions.replacement = .typed replacement → text ≠ kept ++ replacement) :
    conventions.Absorbs front text ↔ front = "" := by
  constructor
  · rintro (none_ | none_ | ⟨kept, lost, replacement, someLost, split, swallowed, replaced, same⟩)
    · exact none_
    · rw [reserved, Setting.typed.injEq] at none_
      exact absurd none_ some_
    · rw [reserved, Setting.typed.injEq] at swallowed
      exact absurd same (notTaken kept lost replacement someLost split swallowed replaced)
  · exact .inl

/-- Where the ending takes some of the text in front, that leaves no trace exactly if the rest of it with
the replacement is the text behind. -/
theorem absorbs_iff_of_taken {kept lost text replacement : String}
    (reserved : conventions.ending = .typed (lost ++ text))
    (replaced : conventions.replacement = .typed replacement) (someLost : lost ≠ "") :
    conventions.Absorbs (kept ++ lost) text ↔ text = kept ++ replacement := by
  constructor
  · rintro (none_ | none_ | ⟨kept', lost', replacement', _, split, swallowed, replaced', same⟩)
    · exact absurd (String.append_eq_empty_iff.mp none_).2 someLost
    · rw [reserved, Setting.typed.injEq] at none_
      exact absurd (String.append_eq_empty_iff.mp none_).1 someLost
    · rw [reserved, Setting.typed.injEq, String.append_left_inj] at swallowed
      rw [replaced, Setting.typed.injEq] at replaced'
      rw [swallowed, String.append_left_inj] at split
      rw [split, replaced']
      exact same
  · intro same
    exact .inr (.inr ⟨kept, lost, replacement, someLost, rfl, reserved, replaced, same⟩)

/-- With a text in front, a name is formed only if it is formed alone, and it is the same name
exactly if the text in front leaves no trace. -/
theorem exists_withNewEnding_alone {front text formed : String}
    (isFormed : conventions.withNewEnding (front ++ text) = .ok formed) :
    ∃ alone, conventions.withNewEnding text = .ok alone ∧
      (alone = formed ↔ conventions.Absorbs front text) := by
  obtain ⟨ending, reserved, ofEnd, ofNoEnd⟩ := withNewEnding_eq_ok isFormed
  by_cases whole : ending = ""
  · subst whole
    obtain ⟨replacement, replaced, rfl⟩ := ofEnd (Ending.isEndOf_empty _)
    refine ⟨_, withNewEnding_of_isEndOf reserved replaced (Ending.isEndOf_empty _), ?_⟩
    exact iff_of_true rfl (.inr (.inl reserved))
  cases isEnd : Ending.isEndOf ending text with
  | true =>
    obtain ⟨rest, rfl⟩ := Ending.exists_of_isEndOf isEnd
    rw [← String.append_assoc] at ofEnd
    obtain ⟨replacement, replaced, rfl⟩ := ofEnd (Ending.isEndOf_append ..)
    refine ⟨_, withNewEnding_of_isEndOf reserved replaced isEnd, ?_⟩
    rw [Ending.replaced_append whole, Ending.replaced_append whole, String.append_assoc,
      Ending.eq_append_iff, absorbs_iff_of_not_taken reserved whole]
    -- the ending would be longer than itself
    intro kept lost _ someLost _ swallowed _
    rw [← String.append_assoc, Ending.eq_append_iff] at swallowed
    exact absurd (String.append_eq_empty_iff.mp swallowed).1 someLost
  | false =>
    refine ⟨text, withNewEnding_of_not_isEndOf reserved isEnd, ?_⟩
    cases isEndOfBoth : Ending.isEndOf ending (front ++ text) with
    | true =>
      obtain ⟨kept, lost, rfl, rfl, someLost⟩ := Ending.exists_of_isEndOf_append isEndOfBoth isEnd
      obtain ⟨replacement, replaced, rfl⟩ := ofEnd isEndOfBoth
      rw [String.append_assoc, Ending.replaced_append whole,
        absorbs_iff_of_taken reserved replaced someLost]
    | false =>
      rw [ofNoEnd isEndOfBoth, Ending.eq_append_iff, absorbs_iff_of_not_taken reserved whole]
      rintro kept lost _ _ rfl rfl _
      rw [String.append_assoc, Ending.isEndOf_append] at isEndOfBoth
      cases isEndOfBoth

/-- Where the reserved ending is some text and what replaces it is no shorter, as by default, only an
empty text leaves no trace. -/
theorem absorbs_iff_of_length {replacement : String} (reserved : conventions.ending = .typed ending)
    (replaced : conventions.replacement = .typed replacement) (some_ : ending ≠ "")
    (longer : ending.length ≤ replacement.length) {front text : String} :
    conventions.Absorbs front text ↔ front = "" := by
  apply absorbs_iff_of_not_taken reserved some_
  -- the text behind is shorter than the ending and longer than what replaces it
  intro kept lost other someLost _ swallowed replaced' same
  rw [replaced, Setting.typed.injEq] at replaced'
  have ofEnding := congrArg String.length swallowed
  have ofText := congrArg String.length same
  rw [String.length_append] at ofEnding ofText
  rw [← replaced'] at ofText
  have noLost : lost.length = 0 := by omega
  exact someLost (String.length_eq_zero_iff.mp noLost)

/-- A definition has a class name of its own if it has one with its block. -/
theorem exists_className_alone {block name formed : String}
    (isFormed : conventions.className (block ++ "_" ++ name) = .ok formed) :
    ∃ alone, conventions.className name = .ok alone ∧
      (alone = formed ↔ conventions.Absorbs (Words.pascalCase block) (Words.pascalCase name)) := by
  rw [className, Words.pascalCase_joined] at isFormed
  exact exists_withNewEnding_alone isFormed

end Naming

/-! ## References to places -/

namespace Document

/-- What a reference to a place is read as if its last key has no slash. For an entry it is the name of
the model there. For a definition it is the class name of its key alone, which is the name of the
model exactly if the key of the block leaves no trace in that. -/
def Place.Finds (conventions : Naming) (place : Place) (model : String) : Prop :=
  match place with
  | .entry key => '/' ∉ key.toList →
      FieldType.Resolves (.typed conventions) place.reference model
  | .definition block name => '/' ∉ name.toList →
      ∃ target, conventions.className name = .ok target ∧
        FieldType.Resolves (.typed conventions) place.reference target ∧
        (target = model ↔ conventions.Absorbs (Words.pascalCase block) (Words.pascalCase name))

theorem Place.finds_of_className {conventions : Naming} {place : Place} {model : String}
    (named : conventions.className place.raw = .ok model) : place.Finds conventions model := by
  cases place with
  | entry key =>
    intro plain
    apply FieldType.resolves_of_className
    rw [reference, show "#/" = "#" ++ "/" from rfl, lastPart_append plain]
    exact named
  | definition block name =>
    intro plain
    obtain ⟨alone, isAlone, same⟩ := Naming.exists_className_alone named
    refine ⟨alone, isAlone, ?_, same⟩
    apply FieldType.resolves_of_className
    rw [reference, show "/definitions/" = "/definitions" ++ "/" from rfl, ← String.append_assoc,
      lastPart_append plain]
    exact isAlone

section

variable {config : Config} {document : Members}
  (unconditional : Conditional.isConditional document = false)
include unconditional

/-- Every reference to an entry finds the model there, under all conventions. One to a definition finds
its model exactly if the key of the block leaves no trace: unless the reserved ending is replaced by
something shorter, exactly if that key has no letter or digit. -/
theorem ofDocument_references_find_iff (held : places document ≠ []) {schema : Schema}
    (parsed : Schema.ofDocument config (.obj document) = .ok schema) :
    ∃ conventions, config.naming = .typed conventions ∧
      List.Forall₂ (fun place model => Place.Gives config.naming place model ∧
        place.1.Finds conventions model.name) (places document) schema.models ∧
      ∀ ending replacement, conventions.ending = .typed ending →
        conventions.replacement = .typed replacement → ending ≠ "" →
        ending.length ≤ replacement.length → ∀ block name : String,
          conventions.Absorbs (Words.pascalCase block) (Words.pascalCase name) ↔
            ∀ c ∈ block.toList, Words.isPart c = false := by
  have each := models_of_places unconditional held parsed
  obtain ⟨conventions, isTyped⟩ : ∃ conventions, config.naming = .typed conventions := by
    obtain ⟨place, rest, some_⟩ := List.exists_cons_of_ne_nil held
    rw [some_] at each
    obtain ⟨_, _, ⟨_, formed⟩, _⟩ := List.forall₂_cons_left_iff.mp each
    obtain ⟨conventions, isTyped, _⟩ := typed_of_ofNode formed
    exact ⟨conventions, isTyped⟩
  refine ⟨conventions, isTyped, ?_, ?_⟩
  · apply each.imp
    intro place model given
    refine ⟨given, ?_⟩
    obtain ⟨_, formed⟩ := given
    obtain ⟨others, isOthers, named, _⟩ := typed_of_ofNode formed
    rw [isTyped] at isOthers
    cases isOthers
    exact Place.finds_of_className named
  · intro ending replacement reserved replaced some_ longer block name
    rw [Naming.absorbs_iff_of_length reserved replaced some_ longer, Words.pascalCase_eq_empty]

end

/-- A document with an entry, a definition in a block and one in a block without letters. -/
def zooDocument : Members :=
  [("keeper", .obj [("properties", .obj [])]),
    ("cage", .obj [("definitions", .obj [("lion", .obj [])])]),
    ("_", .obj [("definitions", .obj [("lion", .obj [])])])]

/-- The entry and the lion outside the cage are found by their references. -/
theorem ofDocument_references_find_zoo : ∃ schema first second third,
    Schema.ofDocument {} (.obj zooDocument) = .ok schema ∧ schema.models = [first, second, third] ∧
      FieldType.Resolves (.typed {}) "#/keeper" first.name ∧
      (∃ target, FieldType.Resolves (.typed {}) "#/cage/definitions/lion" target ∧
        target ≠ second.name) ∧
      FieldType.Resolves (.typed {}) "#/_/definitions/lion" third.name := by
  have isOk : Outcome.any (Schema.ofDocument {} (.obj zooDocument)) (fun _ => true) = true := by
    decide +kernel
  obtain ⟨schema, parsed, _⟩ := Outcome.any_iff.mp isOk
  have held : places zooDocument = [(.entry "keeper", [("properties", .obj [])]),
      (.definition "cage" "lion", []), (.definition "_" "lion", [])] := by
    decide +kernel
  obtain ⟨conventions, isTyped, each, byDefault⟩ :=
    @ofDocument_references_find_iff {} _ (by decide) (by rw [held]; exact nofun) schema parsed
  cases isTyped
  have traces := byDefault "Params" "AdapterParams" rfl rfl (by decide) (by decide)
  rw [held] at each
  obtain ⟨first, _, ⟨_, ofKeeper⟩, each, isFirst⟩ := List.forall₂_cons_left_iff.mp each
  obtain ⟨second, _, ⟨_, ofCaged⟩, each, isSecond⟩ := List.forall₂_cons_left_iff.mp each
  obtain ⟨third, _, ⟨_, ofFree⟩, each, isThird⟩ := List.forall₂_cons_left_iff.mp each
  cases each
  obtain ⟨caged, _, resolvesCaged, sameCaged⟩ := ofCaged (by decide)
  obtain ⟨free, _, resolvesFree, sameFree⟩ := ofFree (by decide)
  refine ⟨schema, first, second, third, parsed, by rw [isFirst, isSecond, isThird], ofKeeper (by decide),
    ⟨caged, resolvesCaged, ?_⟩, ?_⟩
  · rw [Ne, sameCaged, traces]
    intro noLetter
    exact absurd (noLetter 'c' (by decide)) (by decide)
  · have found : free = third.name := by
      rw [sameFree, traces]
      intro c isIn
      rw [List.mem_singleton.mp (show c ∈ ['_'] from isIn)]
      decide
    rw [← found]
    exact resolvesFree

/-- A shop whose only definition is its owner. -/
def shopDocument : Members :=
  [("shop", .obj [("definitions", .obj [("owner", .obj [("properties", .obj [])])])])]

/-- The model of the owner has another name than the reference to it gives. -/
theorem ofDocument_reference_misses_shop : ∃ schema owner,
    Schema.ofDocument {} (.obj shopDocument) = .ok schema ∧
      (places shopDocument).map Prod.fst = [.definition "shop" "owner"] ∧ schema.models = [owner] ∧
      owner.name = "ShopOwner" ∧
      FieldType.Resolves (.typed {}) (Place.definition "shop" "owner").reference "Owner" := by
  have run : Outcome.any (Schema.ofDocument {} (.obj shopDocument)) (fun schema =>
      schema.names = ["ShopOwner"]) = true := by
    decide +kernel
  obtain ⟨schema, parsed, named⟩ := Outcome.any_iff.mp run
  obtain ⟨owner, isOwner, ownerName⟩ : ∃ owner, schema.models = [owner] ∧ owner.name = "ShopOwner" := by
    have names := of_decide_eq_true named
    rw [Schema.names, List.map_eq_singleton_iff] at names
    exact names
  refine ⟨schema, owner, parsed, by decide +kernel, isOwner, ownerName, ?_⟩
  apply FieldType.resolves_of_className
  decide +kernel

end Document

end SchemaCodegen
