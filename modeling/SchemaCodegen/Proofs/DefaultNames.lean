import SchemaCodegen.Proofs.CaseLaws
import SchemaCodegen.Proofs.VariantNames

/-!
# Names that are formed by default

By the conventions that hold if none are set, a class name is the text in capitalised words, where
`Params` at the end becomes `AdapterParams`. Formed once more it stays as it is or gets another
`Adapter`. In capitalised words an ending of the text is an ending of its words, so the file of a class
is called by the words of the text, of which the last is `adapter` where the name has the new ending.
-/

namespace SchemaCodegen

namespace Words

/-! ## Words of a text in capitalised words -/

section Written

variable {text : List Char} (written : pascal text = text)
include written

theorem isPart_of_written : ∀ c ∈ text, isPart c = true := by
  intro c isIn
  rw [← written] at isIn
  exact isPart_of_mem_pascal isIn

/-- The words of such a text are capitalised themselves. -/
theorem capitalize_of_mem_split {word : List Char} (isWord : word ∈ split text) :
    capitalize word = word := by
  have lengths : ((split text).map capitalize).map List.length = (split text).map List.length := by
    rw [List.map_map]
    apply List.map_congr_left
    rintro (_ | ⟨c, rest⟩) _ <;> simp [capitalize]
  have same : (split text).map capitalize = split text := by
    rw [List.eq_iff_flatten_eq]
    exact ⟨written.trans (flatten_split (isPart_of_written written)).symm, lengths⟩
  exact List.map_inj_left.mp (same.trans (List.map_id _).symm) word isWord

/-- If its last word is `params` in small letters, it ends with `Params`. -/
theorem exists_front_of_params {words : List (List Char)}
    (ends : (split text).map lower = words ++ [params]) : ∃ front, text = front ++ "Params".toList := by
  obtain ⟨others, last, divided, _, isLast⟩ := List.map_eq_append_iff.mp ends
  obtain ⟨word, rfl, isParams⟩ := List.map_eq_singleton_iff.mp isLast
  have isWord : word ∈ split text := divided ▸ List.mem_append_right _ (List.mem_singleton_self _)
  have capital : word = "Params".toList := by
    rw [← capitalize_of_mem_split written isWord, ← capitalize_lower, isParams]
    rfl
  refine ⟨others.flatten, ?_⟩
  rw [← flatten_split (isPart_of_written written), divided, List.flatten_append,
    List.flatten_singleton, capital]

end Written

/-- What stands before an ending of letters and digits in such a text is such a text as well. -/
theorem written_of_append {front ending : List Char} (parts : ending.all isPart = true)
    (written : pascal (front ++ ending) = front ++ ending) : pascal front = front := by
  have length : ending.countP isPart = ending.length :=
    List.countP_eq_length.mpr (List.all_eq_true.mp parts)
  rw [pascal_eq_capitals, capitals_append] at written
  rw [pascal_eq_capitals]
  exact List.append_inj_left' written (by rw [length_capitals, length])

/-- Behind such a text, capitalised words stay as they are. -/
theorem written_append {front text : List Char} (written : pascal front = front)
    (others : pascal text = text) : pascal (front ++ text) = front ++ text := by
  have head : ∀ c, text.head? = some c → c.isLower = false := by
    intro c first
    rw [← others] at first
    exact isLower_head_pascal first
  rw [pascal_append written, capitals_of_head _ head, ← pascal_eq_capitals, others]

theorem ofName_append_adapterParams (front : String) :
    ofName (front ++ "AdapterParams") = ofName front ++ [adapter, params] := by
  have begins := @continues_of_isUpper 'A' (by decide)
  have divided := split_append_cons begins front.toList "dapterParams".toList
  rw [ofName, String.toList_append, show "AdapterParams".toList = 'A' :: "dapterParams".toList from rfl,
    divided, List.map_append]
  rfl

theorem ofName_ne_nil {name : String} (some_ : name ≠ "")
    (parts : ∀ c ∈ name.toList, isPart c = true) : ofName name ≠ [] := by
  intro none_
  have noWords : split name.toList = [] := List.map_eq_nil_iff.mp none_
  have whole := flatten_split parts
  rw [noWords] at whole
  exact some_ (String.toList_eq_nil_iff.mp whole.symm)

end Words

/-! ## Class names and stems -/

namespace Naming

open Words

/-- The stem of a class in capitalised words that does not end with `Params` has the words of its
name. -/
theorem fileStem_of_written {name : String} (written : pascal name.toList = name.toList)
    (other : ¬∃ front, name = front ++ "Params") : fileStem {} name = .ok (snakeCase name) := by
  have noParams : ¬∃ front, front ≠ [] ∧ ofName name = front ++ [params] := by
    rintro ⟨words, _, ends⟩
    obtain ⟨front, joined⟩ := exists_front_of_params written ends
    refine other ⟨String.ofList front, ?_⟩
    rw [← String.toList_inj, String.toList_append, String.toList_ofList, joined]
  rw [fileStem_default, ofStem_of_not noParams]
  rfl

/-- The stem of a class with the new ending has the words in front of it, and `adapter` behind them. -/
theorem fileStem_of_adapterParams {front : String} (some_ : front ≠ "")
    (parts : ∀ c ∈ front.toList, isPart c = true) :
    fileStem {} (front ++ "AdapterParams") = .ok (snakeCase front ++ "_adapter") := by
  have someWords := ofName_ne_nil some_ parts
  have joined : ['_'].intercalate (ofName front ++ [adapter]) =
      (snakeCase front ++ "_adapter").toList := by
    rw [Text.intercalate_append someWords (List.cons_ne_nil _ _), String.toList_append,
      toList_snakeCase]
    rfl
  rw [fileStem_default, ofName_append_adapterParams, ofStem_append_adapter_params someWords, joined,
    String.ofList_toList]

/-- A text that does not end with `Params` in capitalised words is a class name in these, which stays
the same when it is formed once more, and its stem has the same words. Otherwise the class name has
`AdapterParams` at the end, which becomes `AdapterAdapterParams` when it is formed once more, and its
stem has the words in front and `adapter`. -/
theorem names_by_default (raw : String) :
    ((¬∃ front, pascalCase raw = front ++ "Params") →
      className {} raw = .ok (pascalCase raw) ∧
        className {} (pascalCase raw) = .ok (pascalCase raw) ∧
        fileStem {} (pascalCase raw) = .ok (snakeCase (pascalCase raw))) ∧
      ∀ front, front ≠ "" → pascalCase raw = front ++ "Params" →
        className {} raw = .ok (front ++ "AdapterParams") ∧
          className {} (front ++ "AdapterParams") = .ok (front ++ "AdapterAdapterParams") ∧
          front ++ "AdapterAdapterParams" ≠ front ++ "AdapterParams" ∧
          fileStem {} (front ++ "AdapterParams") = .ok (snakeCase front ++ "_adapter") := by
  have written : pascal (pascalCase raw).toList = (pascalCase raw).toList := by
    rw [toList_pascalCase, pascal_pascal]
  have twice : pascalCase (pascalCase raw) = pascalCase raw := by
    rw [← String.toList_inj, toList_pascalCase, written]
  constructor
  · intro other
    have noEnd : Ending.isEndOf "Params" (pascalCase raw) = false := by
      rw [← Bool.not_eq_true]
      exact fun isEnd => other (Ending.exists_of_isEndOf isEnd)
    have stays := @withNewEnding_of_not_isEndOf {} _ _ rfl noEnd
    refine ⟨stays, ?_, fileStem_of_written written other⟩
    rw [className, twice, stays]
  · intro front some_ joined
    rw [joined, String.toList_append] at written
    have parts : "Params".toList.all isPart = true := rfl
    have frontWritten := written_of_append parts written
    have ending : pascal "AdapterParams".toList = "AdapterParams".toList := by decide
    have again : pascalCase (front ++ "AdapterParams") = front ++ "AdapterParams" := by
      rw [← String.toList_inj, toList_pascalCase, String.toList_append]
      exact written_append frontWritten ending
    have newEnding := withNewEnding_of_params (front ++ "Adapter")
    rw [String.append_assoc, String.append_assoc] at newEnding
    refine ⟨?_, ?_, ?_, fileStem_of_adapterParams some_ (isPart_of_written frontWritten)⟩
    · rw [className, joined, withNewEnding_of_params]
    · rw [className, again]
      exact newEnding
    · rw [Ne, String.append_right_inj]
      decide

/-- The words of a retry are divided in four ways, and end with the reserved one. -/
theorem names_by_default_retry :
    pascalCase "my 2nd-retry.params" = "My2NdRetry" ++ "Params" ∧
      className {} "my 2nd-retry.params" = .ok "My2NdRetryAdapterParams" ∧
      className {} "My2NdRetryAdapterParams" = .ok "My2NdRetryAdapterAdapterParams" ∧
      fileStem {} "My2NdRetryAdapterParams" = .ok "my_2_nd_retry_adapter" ∧
      (¬∃ front, pascalCase "paramsOf_HTTPJob" = front ++ "Params") ∧
      className {} "paramsOf_HTTPJob" = .ok "ParamsOfHTTPJob" ∧
      fileStem {} "ParamsOfHTTPJob" = .ok "params_of_h_t_t_p_job" := by
  have joined : pascalCase "my 2nd-retry.params" = "My2NdRetry" ++ "Params" := by decide
  have other : ¬∃ front, pascalCase "paramsOf_HTTPJob" = front ++ "Params" := by
    rintro ⟨front, ends⟩
    have isEnd := Ending.isEndOf_append front "Params"
    rw [← ends] at isEnd
    exact absurd isEnd (by decide)
  obtain ⟨ofRetry, ofName, _, stem⟩ := (names_by_default "my 2nd-retry.params").2 _ (by decide) joined
  obtain ⟨ofJob, _, stemOfJob⟩ := (names_by_default "paramsOf_HTTPJob").1 other
  exact ⟨joined, ofRetry, ofName, stem, other, ofJob, stemOfJob⟩

end Naming

end SchemaCodegen
