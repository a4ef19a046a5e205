import SchemaCodegen.Proofs.Members
import SchemaCodegen.Text.IdentifierPart

/-!
# Which identifiers can stand

The identifier of a property is never a word that the language reserves, and nearly always a name of the
language. In Dart the one exception is a name with a line feed behind it, which is taken for the name.
In Python it is a text with a word character that no identifier can have at its place: there are numbers
and letters that count as word characters and have no part in identifiers.
-/

namespace SchemaCodegen

/-! ## Dart -/

namespace Dart

/-- Whether a text is a public name: a letter or a dollar sign, then letters, digits, underscores and
dollar signs, and no other character. -/
structure IsName (text : String) : Prop where
  begins : ∃ c, text.toList.head? = some c ∧ (c.isAlpha = true ∨ c = '$')
  goesOn : ∀ c ∈ text.toList, c.isAlphanum = true ∨ c = '_' ∨ c = '$'

theorem isIdentifier_iff {text : List Char} :
    isIdentifier text = true ↔ IsName (String.ofList text) := by
  constructor
  · intro isName
    constructor
    case begins =>
      cases text with
      | nil => cases isName
      | cons c rest =>
        rw [isIdentifier, Bool.and_eq_true, isStart, Bool.or_eq_true, decide_eq_true_eq] at isName
        exact ⟨c, by simp, isName.1⟩
    case goesOn =>
      intro c isIn
      rw [String.toList_ofList] at isIn
      have part := isPart_of_isIdentifier isName isIn
      simpa [isPart, or_assoc] using part
  · rintro ⟨⟨c, isFirst, start⟩, goesOn⟩
    rw [String.toList_ofList] at isFirst goesOn
    obtain ⟨rest, rfl⟩ := List.head?_eq_some_iff.mp isFirst
    rw [isIdentifier, Bool.and_eq_true, List.all_eq_true]
    refine ⟨by simpa [isStart] using start, ?_⟩
    intro d isLater
    simpa [isPart, or_assoc] using goesOn d (List.mem_cons_of_mem c isLater)

theorem IsName.lineFeed_not_mem {text : String} (isName : IsName text) : '\n' ∉ text.toList := by
  intro isIn
  rcases isName.goesOn _ isIn with part | mark | dollar
  · exact absurd part (by decide)
  · exact absurd mark (by decide)
  · exact absurd dollar (by decide)

theorem reserved_without_lineFeed {front : String} : front ++ "\n" ∉ reservedWords := by
  have each : ∀ word ∈ reservedWords, '\n' ∉ word.toList := by decide +kernel
  intro reserved
  apply each _ reserved
  rw [String.toList_append]
  exact List.mem_append_right _ (List.mem_singleton_self _)

/-- What stays as it is: names that are not reserved, and all names with a line feed behind them. -/
theorem isKept_iff {name : String} : isKept name = true ↔
    (IsName name ∧ name ∉ reservedWords) ∨ ∃ front, IsName front ∧ name = front ++ "\n" := by
  rw [isKept, Bool.and_eq_true, Bool.not_eq_true', ← Bool.not_eq_true, List.contains_iff_mem]
  unfold withoutLineFeed
  split
  next ends =>
    -- the line feed at the end is no part of a name, and of a reserved word neither
    have parted : name = String.ofList name.toList.dropLast ++ "\n" := by
      apply String.toList_inj.mp
      rw [String.toList_append, String.toList_ofList]
      exact (List.dropLast_append_getLast? _ ends).symm
    have noName : ¬IsName name := fun isName => isName.lineFeed_not_mem (List.mem_of_getLast? ends)
    rw [isIdentifier_iff]
    constructor
    · rintro ⟨isName, _⟩
      exact .inr ⟨_, isName, parted⟩
    · rintro (⟨isName, _⟩ | ⟨front, isName, rfl⟩)
      · exact absurd isName noName
      · refine ⟨?_, reserved_without_lineFeed⟩
        rw [(String.append_left_inj _).mp parted] at isName
        exact isName
  next other =>
    rw [isIdentifier_iff, String.ofList_toList]
    refine ⟨.inl, ?_⟩
    rintro (plain | ⟨front, _, rfl⟩)
    · exact plain
    · refine absurd ?_ other
      rw [String.toList_append]
      exact List.getLast?_concat ..

/-! What is mended -/

theorem isAlphanum_of_isPart {c : Char} (part : Words.isPart c = true) : c.isAlphanum = true := part

/-- Words with a letter in front are a name. -/
theorem isName_begun (name : String) : IsName (begun (Words.camelCase name)) := by
  constructor
  case begins =>
    have begins : needsFront (begun (Words.camelCase name)) = false := by
      rw [begun_eq]
      split
      next => exact needsFront_value _
      next bare => exact Bool.eq_false_of_not_eq_true bare
    rw [needsFront] at begins
    cases first : (begun (Words.camelCase name)).toList.head? with
    | none =>
      rw [first] at begins
      cases begins
    | some c =>
      rw [first] at begins
      have part := isPart_of_mem_begun (List.mem_of_head? first)
      have noDigit : c.isDigit = false := begins
      rw [Words.isPart, noDigit, Bool.or_false] at part
      exact ⟨c, rfl, .inl part⟩
  case goesOn =>
    intro c isIn
    exact .inl (isAlphanum_of_isPart (isPart_of_mem_begun isIn))

theorem isName_unreserved {name : String} (isName : IsName name) : IsName (unreserved name) := by
  unfold unreserved
  split
  · obtain ⟨⟨c, isFirst, start⟩, goesOn⟩ := isName
    constructor
    · refine ⟨c, ?_, start⟩
      rw [String.toList_append, List.head?_append, isFirst]
      rfl
    · intro d isIn
      rw [String.toList_append, List.mem_append] at isIn
      rcases isIn with isBefore | isMark
      · exact goesOn d isBefore
      · exact .inr (.inl (List.mem_singleton.mp isMark))
  · exact isName

theorem unreserved_not_mem (name : String) : unreserved name ∉ reservedWords := by
  unfold unreserved
  rw [← List.contains_iff_mem]
  split
  next reserved =>
    rw [reserved_append_underscore name reserved]
    exact Bool.false_ne_true
  next plain => exact plain

/-- An identifier is never reserved, and it is a public name unless the property is one with a line feed
behind it. Just such properties and the names that are not reserved stay as they are. -/
theorem identifier_isName_iff (name : String) :
    identifier name ∉ reservedWords ∧
      (IsName (identifier name) ↔ ¬∃ front, IsName front ∧ name = front ++ "\n") ∧
      (identifier name = name ↔
        (IsName name ∧ name ∉ reservedWords) ∨ ∃ front, IsName front ∧ name = front ++ "\n") := by
  cases kept : isKept name with
  | true =>
    have stays := isKept_iff.mp kept
    rw [identifier_of_isKept kept]
    refine ⟨?_, ?_, iff_of_true rfl stays⟩
    · rcases stays with ⟨_, plain⟩ | ⟨front, _, rfl⟩
      · exact plain
      · exact reserved_without_lineFeed
    · constructor
      · rintro isName ⟨front, _, rfl⟩
        apply isName.lineFeed_not_mem
        rw [String.toList_append]
        exact List.mem_append_right _ (List.mem_singleton_self _)
      · exact fun other => (stays.resolve_right other).1
  | false =>
    have changes : ¬_ := fun stays => Bool.false_ne_true (kept.symm.trans (isKept_iff.mpr stays))
    have isName : IsName (mended name) := isName_unreserved (isName_begun name)
    have plain : mended name ∉ reservedWords := unreserved_not_mem _
    rw [identifier_of_not_isKept kept]
    refine ⟨plain, iff_of_true isName fun fed => changes (.inr fed), iff_of_false ?_ changes⟩
    intro same
    rw [same] at isName plain
    exact changes (.inl ⟨isName, plain⟩)

/-- A line feed behind a name stays in the identifier. -/
theorem identifier_keeps_line_feed :
    identifier "id\n" = "id\n" ∧ ¬IsName (identifier "id\n") := by
  have kept : identifier "id\n" = "id\n" := by decide +kernel
  refine ⟨kept, ?_⟩
  rw [kept]
  exact fun isName => isName.lineFeed_not_mem (by decide)

end Dart

/-! ## Python -/

namespace Text

/-- Whether each range lies in some range of others, where both are in increasing order. -/
def Ranges.within (ranges : Ranges) : Ranges → Bool
  | [] => ranges.isEmpty
  | (first, last) :: others =>
    Ranges.within (ranges.dropWhile fun range => first ≤ range.1 && range.2 ≤ last) others

theorem Ranges.contains_of_within {ranges others : Ranges} (within : ranges.within others = true)
    {c : Char} (held : ranges.contains c = true) : others.contains c = true := by
  induction others generalizing ranges with
  | nil =>
    rw [Ranges.within, List.isEmpty_iff] at within
    subst within
    cases held
  | cons other rest ih =>
    obtain ⟨first, last⟩ := other
    obtain ⟨range, isRange, least, most⟩ := Ranges.contains_iff.mp held
    rw [← List.takeWhile_append_dropWhile (p := fun range => first ≤ range.1 && range.2 ≤ last) (l := ranges),
      List.mem_append] at isRange
    rcases isRange with isCovered | isLater
    · have covered := List.mem_takeWhile_imp isCovered
      rw [Bool.and_eq_true, decide_eq_true_eq, decide_eq_true_eq] at covered
      exact Ranges.contains_iff.mpr ⟨_, List.mem_cons_self .., by omega, by omega⟩
    · have later := ih within (Ranges.contains_iff.mpr ⟨range, isLater, least, most⟩)
      obtain ⟨found, isFound, bounds⟩ := Ranges.contains_iff.mp later
      exact Ranges.contains_iff.mpr ⟨found, List.mem_cons_of_mem _ isFound, bounds⟩

/-- What begins an identifier also continues one. -/
theorem isIdentifierPart_of_isIdentifierStart {c : Char} (start : isIdentifierStart c = true) :
    isIdentifierPart c = true := by
  have within : identifierStartRanges.within identifierPartRanges = true := by decide +kernel
  unfold isIdentifierStart at start
  unfold isIdentifierPart
  split at start
  next ascii =>
    rw [if_pos ascii, Char.isAlphanum]
    rw [Bool.or_eq_true] at start ⊢
    exact start.imp_left fun letter => by rw [letter, Bool.true_or]
  next other =>
    rw [if_neg other]
    exact Ranges.contains_of_within within start

theorem isIdentifier_append_underscore {text : List Char} (some_ : text ≠ []) :
    isIdentifier (text ++ ['_']) = isIdentifier text := by
  have part : isIdentifierPart '_' = true := by decide
  obtain ⟨c, rest, rfl⟩ := List.exists_cons_of_ne_nil some_
  simp [isIdentifier, part]

end Text

namespace Python

/-- Whether the word characters of a name can stand in an identifier: each of them continues one, and the
first, if it stands in front and is no digit, begins one. -/
structure IsSpellable (name : String) : Prop where
  parts : ∀ c ∈ name.toList, Text.isWord c = true → Text.isIdentifierPart c = true
  start : ∀ c ∈ name.toList.head?, Text.isWord c = true → Text.isDigit c = false →
    Text.isIdentifierStart c = true

/-- With an underscore in front where one is needed, it is left to the characters of a name whether they
continue an identifier, and to the first whether it begins one. -/
theorem isIdentifier_begun_iff {name : List Char} : Text.isIdentifier (begun name) = true ↔
    (∀ c ∈ name, Text.isIdentifierPart c = true) ∧
      ∀ c ∈ name.head?, Text.isDigit c = false → Text.isIdentifierStart c = true := by
  cases name with
  | nil => exact iff_of_true (by decide) ⟨nofun, nofun⟩
  | cons c rest =>
    have mark : Text.isIdentifierStart '_' = true := by decide
    cases digit : Text.isDigit c with
    | true => simp [begun, digit, Text.isIdentifier, mark]
    | false =>
      simp only [begun, digit, Bool.false_eq_true, if_false, Text.isIdentifier, Bool.and_eq_true,
        List.all_eq_true, List.forall_mem_cons, List.head?_cons, Option.mem_some_iff, forall_eq',
        forall_const]
      constructor
      · rintro ⟨start, parts⟩
        exact ⟨⟨Text.isIdentifierPart_of_isIdentifierStart start, parts⟩, start⟩
      · rintro ⟨⟨_, parts⟩, start⟩
        exact ⟨start, parts⟩

theorem isIdentifier_worded_iff {name : String} :
    Text.isIdentifier (begun (worded name.toList)) = true ↔ IsSpellable name := by
  have part : Text.isIdentifierPart '_' = true := by decide
  have start : Text.isIdentifierStart '_' = true := by decide
  rw [isIdentifier_begun_iff, worded, List.forall_mem_map, List.head?_map]
  constructor
  · rintro ⟨parts, starts⟩
    constructor
    · intro c isIn word
      simpa [word] using parts c isIn
    · intro c isFirst word noDigit
      have starts := starts c (by simp [Option.mem_def.mp isFirst, word])
      exact starts noDigit
  · rintro ⟨parts, starts⟩
    constructor
    · intro c isIn
      split
      next word => exact parts c isIn word
      next => exact part
    · intro d isMapped noDigit
      obtain ⟨c, isFirst, rfl⟩ := Option.map_eq_some_iff.mp isMapped
      cases word : Text.isWord c with
      | true =>
        rw [word, if_pos rfl] at noDigit
        exact starts c isFirst word noDigit
      | false => exact start

theorem isIdentifier_unreserved {name : String} (some_ : name.toList ≠ []) :
    Text.isIdentifier (unreserved name).toList = Text.isIdentifier name.toList := by
  unfold unreserved
  split
  · rw [String.toList_append]
    exact Text.isIdentifier_append_underscore some_
  · rfl

theorem isKeyword_unreserved (name : String) : isKeyword (unreserved name) = false := by
  unfold unreserved
  split
  next reserved => exact isKeyword_append_underscore name reserved
  next plain => exact Bool.eq_false_of_not_eq_true plain

theorem begun_ne_nil (name : List Char) : begun name ≠ [] := by
  unfold begun
  split
  · exact List.cons_ne_nil _ _
  · split <;> exact List.cons_ne_nil _ _

/-- In ASCII all word characters have a part in identifiers. -/
theorem isSpellable_of_ascii {name : String} (ascii : ∀ c ∈ name.toList, c.toNat < 128) :
    IsSpellable name := by
  constructor
  · intro c isIn word
    rw [Text.isWord, if_pos (ascii c isIn)] at word
    rwa [Text.isIdentifierPart, if_pos (ascii c isIn)]
  · intro c isFirst word noDigit
    have small := ascii c (List.mem_of_head? isFirst)
    rw [Text.isDigit_ascii small] at noDigit
    rw [Text.isWord, if_pos small, Char.isAlphanum, noDigit, Bool.or_false] at word
    rwa [Text.isIdentifierStart, if_pos small]

/-- An attribute is never a keyword, and it is an identifier exactly if the word characters of the name can
stand in one. In ASCII they always can. -/
theorem attributeName_isIdentifier_iff (name : String) :
    isKeyword (attributeName name) = false ∧
      (Text.isIdentifier (attributeName name).toList = true ↔ IsSpellable name) ∧
      ((∀ c ∈ name.toList, c.toNat < 128) → IsSpellable name) := by
  refine ⟨isKeyword_unreserved _, ?_, isSpellable_of_ascii⟩
  have some_ : (String.ofList (begun (worded name.toList))).toList ≠ [] := by
    rw [String.toList_ofList]
    exact begun_ne_nil _
  rw [attributeName, isIdentifier_unreserved some_, String.toList_ofList]
  exact isIdentifier_worded_iff

/-- A digit in front, a blank and a keyword are mended. -/
theorem attributeName_isIdentifier_retry : (∀ c ∈ "2nd retry".toList, c.toNat < 128) ∧
    attributeName "2nd retry" = "_2nd_retry" ∧ Text.isIdentifier "_2nd_retry".toList = true ∧
    attributeName "class" = "class_" ∧ Text.isIdentifier "class_".toList = true := by
  have ofRetry : attributeName "2nd retry" = "_2nd_retry" := by decide +kernel
  have ofClass : attributeName "class" = "class_" := by decide +kernel
  have retryAscii : ∀ c ∈ "2nd retry".toList, c.toNat < 128 := by simp
  have classAscii : ∀ c ∈ "class".toList, c.toNat < 128 := by simp
  obtain ⟨_, isRetry, spellable⟩ := attributeName_isIdentifier_iff "2nd retry"
  obtain ⟨_, isClass, classSpellable⟩ := attributeName_isIdentifier_iff "class"
  rw [ofRetry] at isRetry
  rw [ofClass] at isClass
  exact ⟨retryAscii, ofRetry, isRetry.mpr (spellable retryAscii), ofClass,
    isClass.mpr (classSpellable classAscii)⟩

/-- A fraction is a word character and no digit, and has no part in identifiers. A small digit has none
either. -/
theorem attributeName_keeps_half : attributeName "½" = "½" ∧ attributeName "x²" = "x²" ∧
    Text.isIdentifier (attributeName "½").toList = false ∧
    Text.isIdentifier (attributeName "x²").toList = false := by
  have half : attributeName "½" = "½" := by decide +kernel
  have square : attributeName "x²" = "x²" := by decide +kernel
  rw [half, square]
  exact ⟨rfl, rfl, by decide +kernel, by decide +kernel⟩

end Python

end SchemaCodegen
