import SchemaCodegen.Proofs.Casing
import SchemaCodegen.Dart.Identifier
import SchemaCodegen.Python.Identifier
import SchemaCodegen.Settings.Config

/-!
# Identifiers that meet

The identifier of a property is formed without a look at the other properties, and different ones can
have the same. Each step of the forming mends what cannot stand and leaves all else as it is, so two
names meet in a step if they were the same, or if one is what the other is mended to. From the steps
it can be told for each language exactly which properties meet.
-/

namespace SchemaCodegen

/-- Where what is mended needs no mending any more, results are the same if and only if what was there
was the same or one is the other mended. -/
theorem mended_eq_iff {α : Type} {needs : α → Bool} {mend : α → α}
    (injective : Function.Injective mend) (once : ∀ a, needs a = true → needs (mend a) = false)
    {a b : α} :
    (if needs a then mend a else a) = (if needs b then mend b else b) ↔
      a = b ∨ (needs a = true ∧ b = mend a) ∨ (needs b = true ∧ a = mend b) := by
  have twice : ∀ {a b}, needs a = true → needs b = true → b ≠ mend a := by
    rintro a b needsFirst needsSecond rfl
    rw [once a needsFirst] at needsSecond
    cases needsSecond
  cases first : needs a with
  | true =>
    cases second : needs b with
    | true =>
      rw [if_pos rfl, if_pos rfl, injective.eq_iff]
      simp [twice first second, twice second first]
    | false =>
      have different : a ≠ b := by
        rintro rfl
        rw [first] at second
        cases second
      simp [different, eq_comm]
  | false =>
    cases second : needs b with
    | true =>
      have different : a ≠ b := by
        rintro rfl
        rw [first] at second
        cases second
      simp [different]
    | false => simp

/-! ## Python -/

namespace Python

/-- Whether a name lacks a first character that can begin it. -/
def needsFront (name : List Char) : Bool := name.head?.all Text.isDigit

theorem begun_eq (name : List Char) :
    begun name = if needsFront name then '_' :: name else name := by
  cases name <;> rfl

theorem needsFront_underscore (name : List Char) : needsFront ('_' :: name) = false := by
  have plain : Text.isDigit '_' = false := by decide
  simp [needsFront, plain]

theorem begun_eq_iff {name other : List Char} :
    begun name = begun other ↔ name = other ∨ (needsFront name = true ∧ other = '_' :: name) ∨
      (needsFront other = true ∧ name = '_' :: other) := by
  rw [begun_eq, begun_eq]
  exact mended_eq_iff List.cons_injective fun rest _ => needsFront_underscore rest

/-- A name that can begin, and not with an underscore, was so before. -/
theorem begun_eq_iff_of_plain {name other : List Char} (bare : needsFront other = false)
    (plain : other.head? ≠ some '_') : begun name = other ↔ name = other := by
  rw [begun_eq]
  cases needs : needsFront name with
  | true =>
    constructor
    · rintro rfl
      exact absurd rfl plain
    · rintro rfl
      rw [needs] at bare
      cases bare
  | false => rw [if_neg Bool.false_ne_true]

theorem keyword_begins {word : String} (reserved : word ∈ keywords) :
    needsFront word.toList = false ∧ word.toList.head? ≠ some '_' ∧ word.toList ≠ [] := by
  have each : ∀ word ∈ keywords, needsFront word.toList = false ∧ word.toList.head? ≠ some '_' ∧
      word.toList ≠ [] := by
    decide +kernel
  exact each word reserved

/-- A keyword with an underscore behind it is none any more. -/
theorem isKeyword_append_underscore (word : String) (reserved : isKeyword word = true) :
    isKeyword (word ++ "_") = false := by
  have each : ∀ word ∈ keywords, isKeyword (word ++ "_") = false := by decide +kernel
  exact each word (List.contains_iff_mem.mp reserved)

theorem unreserved_eq_iff {name other : String} :
    unreserved name = unreserved other ↔ name = other ∨ (name ∈ keywords ∧ other = name ++ "_") ∨
      (other ∈ keywords ∧ name = other ++ "_") := by
  have injective : Function.Injective fun name : String => name ++ "_" := by
    intro first second same
    exact (String.append_left_inj _).mp same
  have meet := @mended_eq_iff _ isKeyword _ injective isKeyword_append_underscore name other
  simpa only [unreserved, isKeyword, List.contains_iff_mem] using meet

/-- Whether the first name is mended to the second: with an underscore before a digit or in place of
nothing, or with one behind a keyword. -/
def Mends (name mended : List Char) : Prop :=
  (needsFront name = true ∧ mended = '_' :: name) ∨
    (String.ofList name ∈ keywords ∧ mended = name ++ ['_'])

/-- Whether two properties have the same attribute. -/
def Merges (name other : String) : Prop :=
  worded name.toList = worded other.toList ∨ Mends (worded name.toList) (worded other.toList) ∨
    Mends (worded other.toList) (worded name.toList)

instance (name mended : List Char) : Decidable (Mends name mended) :=
  inferInstanceAs (Decidable (_ ∨ _))

instance (name other : String) : Decidable (Merges name other) :=
  inferInstanceAs (Decidable (_ ∨ _ ∨ _))

/-- A keyword with an underscore behind it is made from the keyword or from itself. -/
theorem keyword_mended_iff {name other : List Char} :
    String.ofList (begun name) ∈ keywords ∧
        String.ofList (begun other) = String.ofList (begun name) ++ "_" ↔
      String.ofList name ∈ keywords ∧ other = name ++ ['_'] := by
  have joined (text : List Char) : String.ofList text ++ "_" = String.ofList (text ++ ['_']) := by
    apply String.toList_inj.mp
    simp
  -- a keyword is no name that was mended, nor is what has an underscore behind it
  have asBefore : String.ofList (begun name) ∈ keywords ↔ String.ofList name ∈ keywords := by
    constructor
    · intro reserved
      obtain ⟨bare, plain, _⟩ := keyword_begins reserved
      rw [String.toList_ofList] at bare plain
      rwa [← (begun_eq_iff_of_plain bare plain).mp rfl] at reserved
    · intro reserved
      obtain ⟨bare, plain, _⟩ := keyword_begins reserved
      rw [String.toList_ofList] at bare plain
      rwa [(begun_eq_iff_of_plain bare plain).mpr rfl]
  rw [asBefore]
  apply and_congr_right
  intro reserved
  obtain ⟨bare, plain, some_⟩ := keyword_begins reserved
  rw [String.toList_ofList] at bare plain some_
  obtain ⟨c, rest, rfl⟩ := List.exists_cons_of_ne_nil some_
  rw [(begun_eq_iff_of_plain bare plain).mpr rfl, joined, String.ofList_inj]
  exact begun_eq_iff_of_plain bare plain

theorem attributeName_eq_iff {name other : String} :
    attributeName name = attributeName other ↔ Merges name other := by
  rw [attributeName, attributeName, unreserved_eq_iff, String.ofList_inj, begun_eq_iff,
    keyword_mended_iff, keyword_mended_iff, Merges, Mends, Mends]
  constructor
  · rintro ((same | front | front) | behind | behind)
    · exact .inl same
    · exact .inr (.inl (.inl front))
    · exact .inr (.inr (.inl front))
    · exact .inr (.inl (.inr behind))
    · exact .inr (.inr (.inr behind))
  · rintro (same | (front | behind) | (front | behind))
    · exact .inl (.inl same)
    · exact .inl (.inr (.inl front))
    · exact .inr (.inl behind)
    · exact .inl (.inr (.inr front))
    · exact .inr (.inr behind)

end Python

/-! ## Dart -/

namespace Words

theorem isPart_of_mem_capitals {behindLetter : Bool} {text : List Char} {c : Char}
    (isIn : c ∈ capitals behindLetter text) : isPart c = true := by
  induction text generalizing behindLetter with
  | nil => cases isIn
  | cons first rest ih =>
    cases part : isPart first with
    | false =>
      rw [capitals_cons_of_not_isPart part] at isIn
      exact ih isIn
    | true =>
      rw [capitals_cons_of_isPart part] at isIn
      rcases List.mem_cons.mp isIn with rfl | isLater
      · split
        · exact part
        · exact isPart_toUpper part
      · exact ih isLater

theorem isPart_of_mem_pascal {text : List Char} {c : Char} (isIn : c ∈ pascal text) :
    isPart c = true := by
  rw [pascal_eq_capitals] at isIn
  exact isPart_of_mem_capitals isIn

theorem isPart_of_mem_camelCase {text : String} {c : Char} (isIn : c ∈ (camelCase text).toList) :
    isPart c = true := by
  have parts : ∀ d ∈ pascal text.toList, isPart d = true := fun d => isPart_of_mem_pascal
  rw [camelCase, String.toList_ofList, camel] at isIn
  cases words : pascal text.toList with
  | nil =>
    rw [words] at isIn
    cases isIn
  | cons first rest =>
    rw [words] at isIn parts
    rcases List.mem_cons.mp isIn with rfl | isLater
    · exact isPart_toLower (parts first (List.mem_cons_self ..))
    · exact parts c (List.mem_cons_of_mem _ isLater)

end Words

namespace Dart

/-- Whether a name lacks a first letter. -/
def needsFront (name : String) : Bool := name.toList.head?.all Char.isDigit

theorem begun_eq (name : String) :
    begun name = if needsFront name then "value" ++ name else name := by
  unfold begun needsFront
  cases characters : name.toList with
  | nil =>
    rw [String.toList_eq_nil_iff.mp characters]
    rfl
  | cons c rest => rfl

theorem needsFront_value (name : String) : needsFront ("value" ++ name) = false := by
  rw [needsFront, String.toList_append]
  rfl

theorem begun_eq_iff {name other : String} :
    begun name = begun other ↔ name = other ∨ (needsFront name = true ∧ other = "value" ++ name) ∨
      (needsFront other = true ∧ name = "value" ++ other) := by
  have injective : Function.Injective fun name : String => "value" ++ name := by
    intro first second same
    exact (String.append_right_inj _).mp same
  rw [begun_eq, begun_eq]
  exact mended_eq_iff injective fun rest _ => needsFront_value rest

/-- Words written together have letters and digits only, and so has the text in front of them. -/
theorem isPart_of_mem_begun {name : String} {c : Char}
    (isIn : c ∈ (begun (Words.camelCase name)).toList) : Words.isPart c = true := by
  rw [begun_eq] at isIn
  split at isIn
  · rw [String.toList_append, List.mem_append] at isIn
    rcases isIn with isFront | isWord
    · have front : ∀ c ∈ "value".toList, Words.isPart c = true := by
        intro c isIn
        rw [show "value".toList = ['v', 'a', 'l', 'u', 'e'] from rfl] at isIn
        fin_cases isIn <;> decide
      exact front c isFront
    · exact Words.isPart_of_mem_camelCase isWord
  · exact Words.isPart_of_mem_camelCase isIn

theorem underscore_not_mem_begun (name : String) : '_' ∉ (begun (Words.camelCase name)).toList := by
  intro isIn
  exact absurd (isPart_of_mem_begun isIn) (by decide)

/-- A reserved word with an underscore behind it is none any more. -/
theorem reserved_append_underscore (word : String) (reserved : reservedWords.contains word = true) :
    reservedWords.contains (word ++ "_") = false := by
  have each : ∀ word ∈ reservedWords, reservedWords.contains (word ++ "_") = false := by
    decide +kernel
  exact each word (List.contains_iff_mem.mp reserved)

/-- Names without underscores stay apart when reserved words are mended. -/
theorem unreserved_eq_iff {name other : String} (plain : '_' ∉ name.toList)
    (otherPlain : '_' ∉ other.toList) : unreserved name = unreserved other ↔ name = other := by
  have injective : Function.Injective fun name : String => name ++ "_" := by
    intro first second same
    exact (String.append_left_inj _).mp same
  have ends {front text : String} (noMark : '_' ∉ text.toList) : text ≠ front ++ "_" := by
    rintro rfl
    apply noMark
    rw [String.toList_append]
    exact List.mem_append_right _ (List.mem_singleton_self _)
  have meet := @mended_eq_iff _ _ _ injective reserved_append_underscore name other
  simpa only [unreserved, ends plain, ends otherPlain, and_false, or_false] using meet

/-- The identifier of a property whose name cannot stand as it is. -/
def mended (name : String) : String := unreserved (begun (Words.camelCase name))

theorem identifier_of_isKept {name : String} (kept : isKept name = true) : identifier name = name := by
  rw [identifier, if_pos kept]

theorem identifier_of_not_isKept {name : String} (notKept : isKept name = false) :
    identifier name = mended name := by
  rw [identifier, notKept, if_neg Bool.false_ne_true, mended]

/-- Whether the first words, which lack a first letter, are the second ones with `value` in front. -/
def Mends (words mended : String) : Prop := needsFront words = true ∧ mended = "value" ++ words

instance (words mended : String) : Decidable (Mends words mended) :=
  inferInstanceAs (Decidable (_ ∧ _))

theorem mended_eq_mended_iff {name other : String} :
    mended name = mended other ↔ Words.camelCase name = Words.camelCase other ∨
      Mends (Words.camelCase name) (Words.camelCase other) ∨
      Mends (Words.camelCase other) (Words.camelCase name) := by
  rw [mended, mended,
    unreserved_eq_iff (underscore_not_mem_begun name) (underscore_not_mem_begun other), begun_eq_iff]
  rfl

/-- Whether two properties have the same identifier: they are the same, both are mended and meet in
their words, or one is what the other is mended to. -/
def Merges (name other : String) : Prop :=
  match isKept name, isKept other with
  | true, true => name = other
  | true, false => name = mended other
  | false, true => mended name = other
  | false, false => Words.camelCase name = Words.camelCase other ∨
      Mends (Words.camelCase name) (Words.camelCase other) ∨
      Mends (Words.camelCase other) (Words.camelCase name)

theorem identifier_eq_iff {name other : String} :
    identifier name = identifier other ↔ Merges name other := by
  unfold Merges
  cases kept : isKept name <;> cases otherKept : isKept other
  case false.false =>
    rw [identifier_of_not_isKept kept, identifier_of_not_isKept otherKept]
    exact mended_eq_mended_iff
  case false.true => rw [identifier_of_not_isKept kept, identifier_of_isKept otherKept]
  case true.false => rw [identifier_of_isKept kept, identifier_of_not_isKept otherKept]
  case true.true => rw [identifier_of_isKept kept, identifier_of_isKept otherKept]

instance (name other : String) : Decidable (Merges name other) :=
  decidable_of_iff _ identifier_eq_iff

end Dart

/-! ## Either language -/

namespace Language

/-- The identifier of a property in a language. -/
def identifier : Language → String → String
  | .dart => Dart.identifier
  | .python => Python.attributeName

/-- Whether two properties have the same identifier in a language. -/
def Merges : Language → String → String → Prop
  | .dart => Dart.Merges
  | .python => Python.Merges

instance (language : Language) (name other : String) : Decidable (language.Merges name other) :=
  match language with
  | .dart => inferInstanceAs (Decidable (Dart.Merges name other))
  | .python => inferInstanceAs (Decidable (Python.Merges name other))

theorem identifier_eq_iff (language : Language) {name other : String} :
    language.identifier name = language.identifier other ↔ language.Merges name other := by
  cases language with
  | dart => exact Dart.identifier_eq_iff
  | python => exact Python.attributeName_eq_iff

/-- The identifiers of some properties are different exactly if no two of the properties meet. -/
theorem nodup_identifiers_iff (language : Language) {names : List String} :
    (names.map language.identifier).Nodup ↔
      names.Pairwise fun name other => ¬language.Merges name other := by
  rw [List.Nodup, List.pairwise_map]
  simp only [ne_eq, identifier_eq_iff]

end Language

end SchemaCodegen
