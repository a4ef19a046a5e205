import SchemaCodegen.Text.Words

/-!
# What words are made of

Every word of a text has letters and digits only, and so do the names that are written with them.
-/

namespace SchemaCodegen.Words

/-- A letter or digit begins a word of its own or is the front of the word behind it. -/
theorem split_cons_of_isPart {c : Char} {rest : List Char} (part : isPart c = true) :
    split (c :: rest) = [c] :: split rest ∨
      ∃ word words, split rest = word :: words ∧ split (c :: rest) = (c :: word) :: words := by
  cases rest with
  | nil =>
    left
    simp [split, part]
  | cons next tail =>
    cases divided : split (next :: tail) with
    | nil =>
      left
      rw [split.eq_def]
      simp only [part, if_true, divided]
    | cons word words =>
      by_cases goesOn : continues c next = true
      · refine .inr ⟨word, words, rfl, ?_⟩
        rw [split.eq_def]
        simp only [part, if_true, divided, goesOn]
      · left
        rw [split.eq_def]
        simp only [part, if_true, divided, goesOn]
        rfl

/-- Words are not empty and have letters and digits only. -/
theorem isPart_of_mem_split {text word : List Char} (isWord : word ∈ split text) :
    word ≠ [] ∧ ∀ c ∈ word, isPart c = true := by
  induction text generalizing word with
  | nil => cases isWord
  | cons c rest ih =>
    cases part : isPart c with
    | false =>
      rw [split_cons_of_not_isPart part] at isWord
      exact ih isWord
    | true =>
      rcases @split_cons_of_isPart c rest part with alone | ⟨first, words, divided, front⟩
      · rw [alone] at isWord
        rcases List.mem_cons.mp isWord with rfl | later
        · simp [part]
        · exact ih later
      · rw [front] at isWord
        rcases List.mem_cons.mp isWord with rfl | later
        · have ofFirst := ih (divided ▸ List.mem_cons_self ..)
          exact ⟨List.cons_ne_nil _ _, List.forall_mem_cons.mpr ⟨part, ofFirst.2⟩⟩
        · exact ih (divided ▸ List.mem_cons_of_mem _ later)

theorem isLower_iff {c : Char} : c.isLower = true ↔ 97 ≤ c.toNat ∧ c.toNat ≤ 122 := by
  show (decide (97 ≤ c.val) && decide (c.val ≤ 122)) = true ↔ _
  rw [Bool.and_eq_true, decide_eq_true_iff, decide_eq_true_iff]
  exact Iff.rfl

/-- A letter written small is a letter. -/
theorem isPart_toLower {c : Char} (part : isPart c = true) : isPart c.toLower = true := by
  unfold Char.toLower
  split
  next upper =>
    have bounds : 65 ≤ c.toNat ∧ c.toNat ≤ 90 := upper
    have small (valid : (c.val + ('a'.val - 'A'.val)).isValidChar) :
        Char.isLower ⟨c.val + ('a'.val - 'A'.val), valid⟩ = true := by
      rw [isLower_iff]
      show 97 ≤ (c.toNat + 32) % 2 ^ 32 ∧ (c.toNat + 32) % 2 ^ 32 ≤ 122
      omega
    simp only [isPart, small, Bool.or_true, Bool.true_or]
  next => exact part

theorem toLower_ne_underscore {c : Char} (part : isPart c = true) : c.toLower ≠ '_' := by
  intro same
  have stays := isPart_toLower part
  rw [same] at stays
  exact absurd stays (by decide)

/-- A letter written large is not small. -/
theorem isLower_toUpper (c : Char) : c.toUpper.isLower = false := by
  rw [← Bool.not_eq_true, isLower_iff]
  rintro ⟨least, most⟩
  unfold Char.toUpper at least most
  split at least
  next lower =>
    -- a small letter moves down by 32, out of the range of small letters
    have bounds : 97 ≤ c.toNat ∧ c.toNat ≤ 122 := lower
    have shift : ('A'.val - 'a'.val).toNat = 2 ^ 32 - 32 := by decide
    have low : 97 ≤ (c.val + ('A'.val - 'a'.val)).toNat := least
    have same : c.val.toNat = c.toNat := rfl
    rw [UInt32.toNat_add, shift, same] at low
    omega
  next notLower =>
    rw [dif_neg notLower] at most
    exact notLower ⟨least, most⟩

theorem toUpper_ne_underscore {c : Char} (part : isPart c = true) : c.toUpper ≠ '_' := by
  intro same
  unfold Char.toUpper at same
  split at same
  next lower =>
    have bounds : 97 ≤ c.toNat ∧ c.toNat ≤ 122 := lower
    have shift : ('A'.val - 'a'.val).toNat = 2 ^ 32 - 32 := by decide
    have value := congrArg (fun d : Char => d.val.toNat) same
    simp only [UInt32.toNat_add, shift] at value
    have mark : '_'.val.toNat = 95 := rfl
    have held : c.val.toNat = c.toNat := rfl
    rw [held, mark] at value
    omega
  next =>
    subst same
    revert part
    decide

/-- The words of a text, capitalised and written together, begin with a letter or digit written
large. -/
theorem exists_head_pascal {text : List Char} {c : Char} (first : (pascal text).head? = some c) :
    ∃ letter, isPart letter = true ∧ letter.toUpper = c := by
  unfold pascal at first
  cases divided : split text with
  | nil =>
    rw [divided] at first
    cases first
  | cons word words =>
    obtain ⟨some_, parts⟩ := isPart_of_mem_split (divided ▸ List.mem_cons_self ..)
    obtain ⟨letter, rest, rfl⟩ := List.exists_cons_of_ne_nil some_
    rw [divided] at first
    exact ⟨letter, parts letter (List.mem_cons_self ..), Option.some.inj first⟩

theorem isLower_head_pascal {text : List Char} {c : Char} (first : (pascal text).head? = some c) :
    c.isLower = false := by
  obtain ⟨letter, _, rfl⟩ := exists_head_pascal first
  exact isLower_toUpper letter

theorem head_pascal_ne_underscore {text : List Char} {c : Char}
    (first : (pascal text).head? = some c) : c ≠ '_' := by
  obtain ⟨letter, part, rfl⟩ := exists_head_pascal first
  exact toUpper_ne_underscore part

end SchemaCodegen.Words
