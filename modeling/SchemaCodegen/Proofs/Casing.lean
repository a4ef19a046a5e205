import SchemaCodegen.Proofs.Words
import Mathlib

/-!
# Capitalised words from left to right

What becomes of a character when the words of a text are capitalised and written together depends on
the character before it only: a small letter becomes large unless it stands right behind a letter. So
a text that is written in this way stays as it is when it is written once more, also with others
behind it.
-/

namespace SchemaCodegen.Words

/-- The letters and digits of a text, with small letters made large unless they stand right behind a
letter. The first may stand behind one too. -/
def capitals (behindLetter : Bool) : List Char → List Char
  | [] => []
  | c :: rest =>
    let others := capitals c.isAlpha rest
    if isPart c then (if behindLetter then c else c.toUpper) :: others else others

/-- Whether a letter stands right behind a text, where it can be empty. -/
def endsInLetter (behindLetter : Bool) (text : List Char) : Bool :=
  (text.getLast?.map Char.isAlpha).getD behindLetter

theorem capitals_cons_of_isPart {c : Char} (part : isPart c = true) (behindLetter : Bool)
    (rest : List Char) :
    capitals behindLetter (c :: rest) =
      (if behindLetter then c else c.toUpper) :: capitals c.isAlpha rest := by
  rw [capitals, if_pos part]

theorem isAlpha_of_not_isPart {c : Char} (notPart : isPart c = false) : c.isAlpha = false := by
  rw [isPart, Bool.or_eq_false_iff] at notPart
  exact notPart.1

theorem capitals_cons_of_not_isPart {c : Char} (notPart : isPart c = false) (behindLetter : Bool)
    (rest : List Char) : capitals behindLetter (c :: rest) = capitals false rest := by
  rw [capitals, if_neg (by rw [notPart]; exact Bool.false_ne_true), isAlpha_of_not_isPart notPart]

/-- What stands before a text counts only if the text begins with a small letter. -/
theorem capitals_of_head {text : List Char} (behindLetter : Bool)
    (head : ∀ c, text.head? = some c → c.isLower = false) :
    capitals behindLetter text = capitals false text := by
  cases text with
  | nil => rfl
  | cons c rest =>
    have stays : c.toUpper = c := by
      apply Char.toUpper_eq_of_not_isLower
      rw [head c rfl]
      exact Bool.false_ne_true
    rw [capitals, capitals, stays, ite_self, if_neg Bool.false_ne_true]

/-! ## Words and their characters -/

/-- A character that continues the one before it goes to its word. -/
theorem split_cons_of_continues {c next : Char} {rest : List Char} (part : isPart c = true)
    (goesOn : continues c next = true) :
    ∃ word words, split (next :: rest) = (next :: word) :: words ∧
      split (c :: next :: rest) = (c :: next :: word) :: words := by
  have nextPart : isPart next = true := by
    rw [continues, Bool.or_eq_true, Bool.and_eq_true, Bool.and_eq_true] at goesOn
    rcases goesOn with ⟨_, lower⟩ | ⟨_, digit⟩
    · simp [isPart, lower]
    · simp [isPart, digit]
  obtain ⟨word, words, divided⟩ : ∃ word words, split (next :: rest) = (next :: word) :: words := by
    rcases @split_cons_of_isPart next rest nextPart with alone | ⟨word, words, _, front⟩
    · exact ⟨[], _, alone⟩
    · exact ⟨word, words, front⟩
  refine ⟨word, words, divided, ?_⟩
  rw [split.eq_def]
  simp only [part, if_true, divided, goesOn]

/-- A character that does not continue the one before it leaves that alone. -/
theorem split_cons_of_not_continues {c : Char} {rest : List Char} (part : isPart c = true)
    (ends : ∀ next, rest.head? = some next → continues c next = false) :
    split (c :: rest) = [c] :: split rest := by
  cases rest with
  | nil => simp [split, part]
  | cons next tail =>
    cases divided : split (next :: tail) with
    | nil =>
      rw [split.eq_def]
      simp only [part, if_true, divided]
    | cons word words =>
      rw [split.eq_def]
      simp only [part, if_true, divided, ends next rfl]
      rfl

theorem pascal_cons_of_not_isPart {c : Char} (notPart : isPart c = false) (rest : List Char) :
    pascal (c :: rest) = pascal rest := by
  rw [pascal, split_cons_of_not_isPart notPart, pascal]

theorem not_isAlpha_of_isDigit {c : Char} (digit : c.isDigit = true) : c.isAlpha = false := by
  simp only [Char.isDigit, Char.isAlpha, Char.isUpper, Char.isLower, UInt32.le_iff_toNat_le,
    Bool.and_eq_true, decide_eq_true_eq, Bool.or_eq_false_iff, Bool.and_eq_false_iff,
    decide_eq_false_iff_not] at digit ⊢
  simp only [Char.reduceVal, UInt32.reduceToNat] at digit ⊢
  omega

/-- A character in the middle of a word is written as it is. -/
theorem capitals_of_continues {c next : Char} (goesOn : continues c next = true)
    (rest : List Char) :
    next.toLower = next ∧ capitals c.isAlpha (next :: rest) = next :: capitals next.isAlpha rest := by
  rw [continues, Bool.or_eq_true, Bool.and_eq_true, Bool.and_eq_true] at goesOn
  rcases goesOn with ⟨letter, lower⟩ | ⟨digit, nextDigit⟩
  case inl =>
    have isAlpha : c.isAlpha = true := letter
    have part : isPart next = true := by simp [isPart, lower]
    refine ⟨Char.toLower_eq_of_not_isUpper (Char.not_isUpper_of_isLower lower), ?_⟩
    rw [capitals_cons_of_isPart part, if_pos isAlpha]
  case inr =>
    have part : isPart next = true := by simp [isPart, nextDigit]
    have noLetter := not_isAlpha_of_isDigit nextDigit
    rw [Char.isAlpha, Bool.or_eq_false_iff] at noLetter
    refine ⟨Char.toLower_eq_of_not_isUpper (by simp [noLetter.1]), ?_⟩
    rw [capitals_cons_of_isPart part, not_isAlpha_of_isDigit digit, if_neg Bool.false_ne_true,
      Char.toUpper_eq_of_not_isLower (by simp [noLetter.2])]

/-- Where nothing goes on, it does not matter what stands before. -/
theorem capitals_of_not_continues {c : Char} {rest : List Char}
    (ends : ∀ next, rest.head? = some next → continues c next = false) :
    capitals c.isAlpha rest = capitals false rest := by
  cases letter : c.isAlpha with
  | false => rfl
  | true =>
    apply capitals_of_head
    intro next isNext
    have stops := ends next isNext
    have isLetter : (c.isUpper || c.isLower) = true := letter
    rw [continues, isLetter, Bool.true_and, Bool.or_eq_false_iff] at stops
    exact stops.1

/-- Words are capitalised from left to right, each character by the one before it. -/
theorem pascal_eq_capitals (text : List Char) : pascal text = capitals false text := by
  induction text with
  | nil => rfl
  | cons c rest ih =>
    cases part : isPart c with
    | false => rw [pascal_cons_of_not_isPart part, capitals_cons_of_not_isPart part, ih]
    | true =>
      rw [capitals_cons_of_isPart part, if_neg Bool.false_ne_true]
      by_cases goesOn : ∃ next, rest.head? = some next ∧ continues c next = true
      · obtain ⟨next, isNext, goesOn⟩ := goesOn
        obtain ⟨tail, rfl⟩ := List.head?_eq_some_iff.mp isNext
        obtain ⟨word, words, ofRest, divided⟩ := @split_cons_of_continues c next tail part goesOn
        obtain ⟨stays, goesOnSo⟩ := capitals_of_continues goesOn tail
        -- the words of the rest begin with `next`, which is small in the longer word
        have others : word.map Char.toLower ++ (words.map capitalize).flatten =
            capitals next.isAlpha tail := by
          have nextPart : isPart next = true :=
            (isPart_of_mem_split (ofRest ▸ List.mem_cons_self ..)).2 next (List.mem_cons_self ..)
          rw [pascal, ofRest, capitals_cons_of_isPart nextPart, if_neg Bool.false_ne_true] at ih
          exact (List.cons.inj ih).2
        rw [goesOnSo, ← others, pascal, divided]
        simp [capitalize, stays]
      · have ends : ∀ next, rest.head? = some next → continues c next = false := by
          intro next isNext
          by_contra goes
          exact goesOn ⟨next, isNext, by simpa using goes⟩
        rw [capitals_of_not_continues ends, ← ih, pascal, split_cons_of_not_continues part ends]
        rfl

/-! ## Texts written one behind the other -/

theorem endsInLetter_cons (behindLetter : Bool) (c : Char) (rest : List Char) :
    endsInLetter behindLetter (c :: rest) = endsInLetter c.isAlpha rest := by
  rw [endsInLetter, endsInLetter, List.getLast?_cons]
  cases rest.getLast? <;> rfl

theorem capitals_append (behindLetter : Bool) (front text : List Char) :
    capitals behindLetter (front ++ text) =
      capitals behindLetter front ++ capitals (endsInLetter behindLetter front) text := by
  induction front generalizing behindLetter with
  | nil => rfl
  | cons c rest ih =>
    rw [List.cons_append, capitals, capitals, ih, endsInLetter_cons]
    split
    · rw [List.cons_append]
    · rfl

/-- Only what is no letter or digit is left out. -/
theorem length_capitals (behindLetter : Bool) (text : List Char) :
    (capitals behindLetter text).length = text.countP isPart := by
  induction text generalizing behindLetter with
  | nil => rfl
  | cons c rest ih =>
    rw [capitals, List.countP_cons]
    split <;> simp [ih]

theorem isPart_toUpper {c : Char} (part : isPart c = true) : isPart c.toUpper = true := by
  rw [isPart, Bool.or_eq_true] at part ⊢
  rcases part with letter | digit
  · left
    have isAlpha : c.isAlpha = true := letter
    rw [← Char.isAlpha_toUpper_eq_isAlpha] at isAlpha
    exact isAlpha
  · right
    have noLetter := not_isAlpha_of_isDigit digit
    rw [Char.isAlpha, Bool.or_eq_false_iff] at noLetter
    rw [Char.toUpper_eq_of_not_isLower (by simp [noLetter.2])]
    exact digit

/-- Capitals stay as they are, unless what did not need to be large now does. -/
theorem capitals_capitals {behindLetter stillBehind : Bool}
    (still : behindLetter = true → stillBehind = true) (text : List Char) :
    capitals stillBehind (capitals behindLetter text) = capitals behindLetter text := by
  induction text generalizing behindLetter stillBehind with
  | nil => rfl
  | cons c rest ih =>
    cases part : isPart c with
    | false => rw [capitals_cons_of_not_isPart part,
        ih fun impossible => absurd impossible Bool.false_ne_true]
    | true =>
      rw [capitals_cons_of_isPart part]
      cases behindLetter with
      | true =>
        rw [if_pos rfl, still rfl, capitals_cons_of_isPart part, if_pos rfl, ih id]
      | false =>
        rw [if_neg Bool.false_ne_true, capitals_cons_of_isPart (isPart_toUpper part),
          Char.isAlpha_toUpper_eq_isAlpha, Char.toUpper_toUpper_eq_toUpper, ite_self, ih id]

/-- A text in capitalised words stays as it is. -/
theorem pascal_pascal (text : List Char) : pascal (pascal text) = pascal text := by
  rw [pascal_eq_capitals, pascal_eq_capitals, capitals_capitals id]

/-- A text in capitalised words also stays with others behind it. -/
theorem pascal_append {front : List Char} (written : pascal front = front) (text : List Char) :
    pascal (front ++ text) = front ++ capitals (endsInLetter false front) text := by
  rw [pascal_eq_capitals] at written ⊢
  rw [capitals_append, written]

theorem length_pascal_append {front : List Char} (written : pascal front = front)
    (text : List Char) : (pascal (front ++ text)).length = front.length + (pascal text).length := by
  rw [pascal_append written, List.length_append, pascal_eq_capitals, length_capitals,
    length_capitals]

/-- Texts are the same in capitalised words if and only if those in front of them are so. -/
theorem pascal_append_inj {front other : List Char} (written : pascal front = front)
    (writtenOther : pascal other = other) {text : List Char} :
    pascal (front ++ text) = pascal (other ++ text) ↔ front = other := by
  constructor
  · intro same
    have lengths := congrArg List.length same
    rw [length_pascal_append written, length_pascal_append writtenOther] at lengths
    rw [pascal_append written, pascal_append writtenOther] at same
    exact List.append_inj_left same (by omega)
  · rintro rfl
    rfl

end SchemaCodegen.Words
