import SchemaCodegen.Proofs.Casing
import SchemaCodegen.Proofs.Identifiers
import SchemaCodegen.Proofs.Stems

/-!
# Laws of the cases

Words end where no character goes on with the one before it, and there a text can be divided without
a change of its words. So small words joined by underscores are the words of the joined text, and what
a text is in capitalised words does not depend on the case in which it was written before. Capitalised
words lose something themselves, as nothing stands between them: two runs of digits become one.
-/

namespace SchemaCodegen.Words

/-! ## Where words end -/

theorem continues_of_not_isPart {next : Char} (notPart : isPart next = false) (c : Char) :
    continues c next = false := by
  rw [isPart, Bool.or_eq_false_iff, Bool.or_eq_false_iff] at notPart
  simp [continues, notPart]

theorem continues_of_isUpper {next : Char} (upper : next.isUpper = true) (c : Char) :
    continues c next = false := by
  have noLower : next.isLower = false := by
    by_contra lower
    exact Char.not_isUpper_of_isLower (by simpa using lower) upper
  have noDigit : next.isDigit = false := by
    by_contra digit
    have noLetter := @not_isAlpha_of_isDigit next (by simpa using digit)
    simp [Char.isAlpha, upper] at noLetter
  simp [continues, noLower, noDigit]

theorem split_singleton {c : Char} (part : isPart c = true) : split [c] = [[c]] :=
  split_cons_of_not_continues part (by simp)

theorem split_cons_cons {c next : Char} (part : isPart c = true) (stops : continues c next = false)
    (tail : List Char) : split (c :: next :: tail) = [c] :: split (next :: tail) := by
  apply split_cons_of_not_continues part
  rintro other ⟨⟩
  exact stops

/-- In front of a character that goes on with nothing a text can be divided. -/
theorem split_append_cons {next : Char} (begins : ∀ c, continues c next = false)
    (text more : List Char) : split (text ++ next :: more) = split text ++ split (next :: more) := by
  induction text with
  | nil => rfl
  | cons c rest ih =>
    rw [List.cons_append]
    cases part : isPart c with
    | false => rw [split_cons_of_not_isPart part, split_cons_of_not_isPart part, ih]
    | true =>
      cases rest with
      | nil =>
        rw [List.nil_append, split_cons_cons part (begins c), split_singleton part]
        rfl
      | cons second tail =>
        rw [List.cons_append] at ih ⊢
        cases goesOn : continues c second with
        | false =>
          rw [split_cons_cons part goesOn, split_cons_cons part goesOn, ih, List.cons_append]
        | true =>
          -- both texts begin with one word, which goes on behind `c`
          obtain ⟨word, words, ofRest, divided⟩ := @split_cons_of_continues c second tail part goesOn
          obtain ⟨longer, others, ofAll, dividedAll⟩ :=
            @split_cons_of_continues c second (tail ++ next :: more) part goesOn
          rw [ofAll, ofRest, List.cons_append, List.cons.injEq, List.cons.injEq] at ih
          rw [dividedAll, divided, ih.1.2, ih.2, List.cons_append]

/-- In a word each character goes on with the one before it. -/
theorem isChain_of_mem_split {text word : List Char} (isWord : word ∈ split text) :
    word.IsChain fun c next => continues c next = true := by
  induction text generalizing word with
  | nil => cases isWord
  | cons c rest ih =>
    cases part : isPart c with
    | false =>
      rw [split_cons_of_not_isPart part] at isWord
      exact ih isWord
    | true =>
      cases rest with
      | nil =>
        rw [split_singleton part] at isWord
        obtain rfl := List.mem_singleton.mp isWord
        exact List.isChain_singleton c
      | cons next tail =>
        cases goesOn : continues c next with
        | false =>
          rw [split_cons_cons part goesOn] at isWord
          rcases List.mem_cons.mp isWord with rfl | later
          · exact List.isChain_singleton c
          · exact ih later
        | true =>
          obtain ⟨first, others, ofRest, divided⟩ := @split_cons_of_continues c next tail part goesOn
          rw [divided] at isWord
          rw [ofRest] at ih
          rcases List.mem_cons.mp isWord with rfl | later
          · exact List.isChain_cons_cons.mpr ⟨goesOn, ih (List.mem_cons_self ..)⟩
          · exact ih (List.mem_cons_of_mem _ later)

/-- Letters and digits of which each goes on with the one before it are one word. -/
theorem split_of_isChain {word : List Char} (some_ : word ≠ [])
    (parts : ∀ c ∈ word, isPart c = true)
    (chain : word.IsChain fun c next => continues c next = true) : split word = [word] := by
  induction word with
  | nil => exact absurd rfl some_
  | cons c rest ih =>
    obtain ⟨part, others⟩ := List.forall_mem_cons.mp parts
    cases rest with
    | nil => exact split_singleton part
    | cons next tail =>
      obtain ⟨goesOn, ofRest⟩ := List.isChain_cons_cons.mp chain
      obtain ⟨word, words, divided, whole⟩ := @split_cons_of_continues c next tail part goesOn
      rw [ih (List.cons_ne_nil _ _) others ofRest, List.cons.injEq] at divided
      rw [whole, ← divided.1, ← divided.2]

/-- Nothing but separators is lost between words. -/
theorem flatten_split {text : List Char} (parts : ∀ c ∈ text, isPart c = true) :
    (split text).flatten = text := by
  induction text with
  | nil => rfl
  | cons c rest ih =>
    obtain ⟨part, others⟩ := List.forall_mem_cons.mp parts
    rcases @split_cons_of_isPart c rest part with alone | ⟨first, words, divided, front⟩
    · rw [alone, List.flatten_cons, ih others, List.singleton_append]
    · rw [divided] at ih
      rw [front, List.flatten_cons, List.cons_append, ← List.flatten_cons, ih others]

/-! ## Small words -/

theorem lower_lower (word : List Char) : lower (lower word) = lower word := by
  simp [lower]

theorem capitalize_lower (word : List Char) : capitalize (lower word) = capitalize word := by
  cases word <;> simp [lower, capitalize]

/-- Written small, a character goes on with the same one. -/
theorem continues_toLower {c next : Char} (goesOn : continues c next = true) :
    continues c.toLower next.toLower = true := by
  rw [(capitals_of_continues goesOn []).1]
  rw [continues, Bool.or_eq_true, Bool.and_eq_true, Bool.and_eq_true] at goesOn ⊢
  rcases goesOn with ⟨letter, lower⟩ | ⟨digit, nextDigit⟩
  · left
    have isAlpha : c.isAlpha = true := letter
    rw [← Char.isAlpha_toLower_eq_isAlpha] at isAlpha
    exact ⟨isAlpha, lower⟩
  · right
    have noLetter := not_isAlpha_of_isDigit digit
    rw [Char.isAlpha, Bool.or_eq_false_iff] at noLetter
    rw [Char.toLower_eq_of_not_isUpper (by simp [noLetter.1])]
    exact ⟨digit, nextDigit⟩

/-- A word written small is one word. -/
theorem split_lower {text word : List Char} (isWord : word ∈ split text) :
    split (lower word) = [lower word] := by
  obtain ⟨some_, parts⟩ := isPart_of_mem_split isWord
  apply split_of_isChain
  · simpa [lower] using some_
  · intro c isIn
    obtain ⟨letter, isLetter, rfl⟩ := List.mem_map.mp isIn
    exact isPart_toLower (parts letter isLetter)
  · rw [lower, List.isChain_map]
    exact (isChain_of_mem_split isWord).imp fun _ _ => continues_toLower

/-- Words that are joined by underscores come apart again. -/
theorem split_intercalate {words : List (List Char)} (each : ∀ word ∈ words, split word = [word]) :
    split (['_'].intercalate words) = words := by
  have begins := @continues_of_not_isPart '_' (by decide)
  induction words with
  | nil => rfl
  | cons word rest ih =>
    obtain ⟨ofWord, ofRest⟩ := List.forall_mem_cons.mp each
    cases rest with
    | nil => rw [List.intercalate_singleton, ofWord]
    | cons next more =>
      rw [List.intercalate_cons_cons, List.append_assoc, List.singleton_append,
        split_append_cons begins, split_cons_of_not_isPart (by decide), ofWord, ih ofRest,
        List.singleton_append]

/-- The words of a text in small words are those of the text, written small. -/
theorem split_snake (text : List Char) : split (snake text) = (split text).map lower := by
  apply split_intercalate
  intro word isWord
  obtain ⟨before, isBefore, rfl⟩ := List.mem_map.mp isWord
  exact split_lower isBefore

/-! ## Laws of the cases -/

theorem snake_snake (text : List Char) : snake (snake text) = snake text := by
  have again : lower ∘ lower = lower := funext lower_lower
  rw [snake, split_snake, List.map_map, again, snake]

theorem pascal_snake (text : List Char) : pascal (snake text) = pascal text := by
  have again : capitalize ∘ lower = capitalize := funext capitalize_lower
  rw [pascal, split_snake, List.map_map, again, pascal]

/-- A text begins with the same word if its first letter is written small. -/
theorem pascal_camel (text : List Char) : pascal (camel text) = pascal text := by
  have written := pascal_pascal text
  rw [camel]
  cases words : pascal text with
  | nil => rfl
  | cons c rest =>
    have part : isPart c = true := isPart_of_mem_pascal (words ▸ List.mem_cons_self ..)
    rw [words, pascal_eq_capitals, capitals_cons_of_isPart part, if_neg Bool.false_ne_true] at written
    rw [pascal_eq_capitals, capitals_cons_of_isPart (isPart_toLower part),
      if_neg Bool.false_ne_true, Char.toUpper_toLower_eq_toUpper, Char.isAlpha_toLower_eq_isAlpha,
      written]

/-- Writing a text in capitalised words or in small words a second time changes nothing, and capitalised
words do not depend on whether the text was in small words or in mixed ones before. So of texts in
capitalised words each is told by its small words. -/
theorem cases_agree (text : String) :
    pascalCase (pascalCase text) = pascalCase text ∧
      snakeCase (snakeCase text) = snakeCase text ∧
      pascalCase (snakeCase text) = pascalCase text ∧
      pascalCase (camelCase text) = pascalCase text ∧
      ∀ other, snakeCase (pascalCase text) = snakeCase (pascalCase other) ↔
        pascalCase text = pascalCase other := by
  have twice : ∀ text, pascalCase (pascalCase text) = pascalCase text := by
    intro text
    simp [pascalCase, pascal_pascal]
  have ofSnake : ∀ text, pascalCase (snakeCase text) = pascalCase text := by
    intro text
    simp [pascalCase, snakeCase, pascal_snake]
  refine ⟨twice text, by simp [snakeCase, snake_snake], ofSnake text,
    by simp [pascalCase, camelCase, pascal_camel], ?_⟩
  intro other
  constructor
  · intro same
    rw [← twice text, ← ofSnake (pascalCase text), same, ofSnake, twice]
  · intro same
    rw [same]

end SchemaCodegen.Words
