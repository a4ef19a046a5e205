import SchemaCodegen.Proofs.Words
import SchemaCodegen.Settings.Naming
import SchemaCodegen.Text.Pieces
import Mathlib.Data.List.Infix

/-!
# When two classes have the same stem

By the conventions that hold if none are set, the stem of a class is made of the words of its name:
`params` at the end becomes `adapter`, unless `adapter` stands there already, and then `params` is
left out. So the stems of two classes are the same exactly if their words are so after this change.
-/

namespace SchemaCodegen

/-! ## Joined words -/

namespace Text

theorem pieces_of_not_mem {mark : Char} {text : List Char} (free : mark ∉ text) :
    pieces mark text = [text] := by
  induction text with
  | nil => rfl
  | cons c rest ih =>
    have other : c ≠ mark := fun same => free (same ▸ List.mem_cons_self ..)
    rw [pieces, if_neg other, ih fun member => free (List.mem_cons_of_mem _ member)]

/-- A mark between two texts divides them. -/
theorem pieces_append (mark : Char) (text more : List Char) :
    pieces mark (text ++ mark :: more) = pieces mark text ++ pieces mark more := by
  induction text with
  | nil => simp [pieces]
  | cons c rest ih =>
    by_cases isMark : c = mark
    · rw [List.cons_append, pieces, if_pos isMark, ih, pieces, if_pos isMark, List.cons_append]
    · obtain ⟨piece, others, divided⟩ := List.exists_cons_of_ne_nil (pieces_ne_nil mark rest)
      rw [List.cons_append, pieces, if_neg isMark, ih, pieces, if_neg isMark, divided]
      rfl

/-- The pieces of joined texts are those of each. -/
theorem pieces_intercalate_eq {mark : Char} {texts : List (List Char)} (some_ : texts ≠ []) :
    pieces mark ([mark].intercalate texts) = texts.flatMap (pieces mark) := by
  induction texts with
  | nil => exact absurd rfl some_
  | cons text rest ih =>
    cases rest with
    | nil => rw [List.intercalate_singleton, List.flatMap_singleton]
    | cons next more =>
      rw [List.intercalate_cons_cons, List.append_assoc, List.singleton_append, pieces_append,
        ih (List.cons_ne_nil _ _)]
      exact List.flatMap_cons.symm

/-- Pieces without the mark that are joined by it come apart again. -/
theorem pieces_intercalate {mark : Char} {words : List (List Char)} (some_ : words ≠ [])
    (free : ∀ word ∈ words, mark ∉ word) : pieces mark ([mark].intercalate words) = words := by
  have each : ∀ word ∈ words, pieces mark word = [word] := fun word isWord =>
    pieces_of_not_mem (free word isWord)
  rw [pieces_intercalate_eq some_, List.flatMap_congr each]
  exact List.flatMap_singleton' words

theorem intercalate_append {mark : Char} {words more : List (List Char)} (some_ : words ≠ [])
    (someMore : more ≠ []) :
    [mark].intercalate (words ++ more) =
      [mark].intercalate words ++ mark :: [mark].intercalate more := by
  induction words with
  | nil => exact absurd rfl some_
  | cons word rest ih =>
    obtain ⟨first, others, rfl⟩ := List.exists_cons_of_ne_nil someMore
    cases rest with
    | nil =>
      rw [List.singleton_append, List.intercalate_cons_cons, List.intercalate_singleton,
        List.append_assoc, List.singleton_append]
    | cons next more =>
      rw [List.cons_append, List.cons_append, List.intercalate_cons_cons, ← List.cons_append,
        ih (List.cons_ne_nil _ _), List.intercalate_cons_cons, List.append_assoc, List.append_assoc,
        List.append_assoc]

/-- Words without the mark end with others exactly if their joined text does so after a mark. -/
theorem suffix_intercalate_iff {mark : Char} {words ends : List (List Char)} (someEnds : ends ≠ [])
    (free : ∀ word ∈ words, mark ∉ word) (freeEnds : ∀ word ∈ ends, mark ∉ word) :
    mark :: [mark].intercalate ends <:+ [mark].intercalate words ↔
      ∃ front, front ≠ [] ∧ words = front ++ ends := by
  constructor
  · rintro ⟨text, joined⟩
    have some_ : words ≠ [] := by
      rintro rfl
      simp at joined
    have divided := pieces_intercalate some_ free
    rw [← joined, pieces_append, pieces_intercalate someEnds freeEnds] at divided
    exact ⟨pieces mark text, pieces_ne_nil mark text, divided.symm⟩
  · rintro ⟨front, someFront, rfl⟩
    rw [intercalate_append someFront someEnds]
    exact List.suffix_append _ _

/-- Joining words by a mark that none of them has loses nothing. -/
theorem intercalate_inj {mark : Char} {words others : List (List Char)}
    (free : ∀ word ∈ words, mark ∉ word) (freeOthers : ∀ word ∈ others, mark ∉ word)
    (some_ : ∀ word ∈ words, word ≠ []) (someOthers : ∀ word ∈ others, word ≠ [])
    (joined : [mark].intercalate words = [mark].intercalate others) : words = others := by
  have divided := congrArg (pieces mark) joined
  by_cases none_ : words = []
  · by_cases noOthers : others = []
    · rw [none_, noOthers]
    · rw [none_, pieces_intercalate noOthers freeOthers] at divided
      exact absurd rfl (someOthers [] (divided ▸ List.mem_cons_self ..))
  · by_cases noOthers : others = []
    · rw [noOthers, pieces_intercalate none_ free] at divided
      exact absurd rfl (some_ [] (divided ▸ List.mem_cons_self ..))
    · rwa [pieces_intercalate none_ free, pieces_intercalate noOthers freeOthers] at divided

/-- A text of several joined by a mark has their characters and the mark. -/
theorem mem_of_mem_intercalate {mark c : Char} {texts : List (List Char)}
    (isChar : c ∈ [mark].intercalate texts) : c = mark ∨ ∃ text ∈ texts, c ∈ text := by
  induction texts with
  | nil => cases isChar
  | cons text rest ih =>
    cases rest with
    | nil =>
      rw [List.intercalate_singleton] at isChar
      exact .inr ⟨text, List.mem_cons_self .., isChar⟩
    | cons next more =>
      rw [List.intercalate_cons_cons, List.append_assoc, List.mem_append] at isChar
      rcases isChar with isFirst | isLater
      · exact .inr ⟨text, List.mem_cons_self .., isFirst⟩
      rcases List.mem_append.mp isLater with isMark | isLater
      · exact .inl (List.mem_singleton.mp isMark)
      rcases ih isLater with isMark | ⟨found, isText, isFound⟩
      · exact .inl isMark
      · exact .inr ⟨found, List.mem_cons_of_mem _ isText, isFound⟩

end Text

/-! ## Words of a stem -/

namespace Words

/-- The words of a name in small letters. -/
def ofName (name : String) : List (List Char) := (split name.toList).map lower

/-- Words of a name are texts without underscores. -/
theorem underscore_not_mem_ofName {name : String} : ∀ word ∈ ofName name, '_' ∉ word := by
  intro word isWord isMember
  obtain ⟨before, isBefore, rfl⟩ := List.mem_map.mp isWord
  obtain ⟨c, isChar, same⟩ := List.mem_map.mp isMember
  exact toLower_ne_underscore ((isPart_of_mem_split isBefore).2 c isChar) same

theorem ne_nil_of_mem_ofName {name : String} : ∀ word ∈ ofName name, word ≠ [] := by
  intro word isWord
  obtain ⟨before, isBefore, rfl⟩ := List.mem_map.mp isWord
  rw [lower, Ne, List.map_eq_nil_iff]
  exact (isPart_of_mem_split isBefore).1

/-- `params` in small letters. -/
def params : List Char := "params".toList

/-- `adapter` in small letters. -/
def adapter : List Char := "adapter".toList

/-- The words of a stem: `params` behind other words becomes `adapter`, or is left out if `adapter`
stands before it and is not the first word. -/
def ofStem (words : List (List Char)) : List (List Char) :=
  let front := words.dropLast
  if words.getLast? = some params ∧ front ≠ [] then
    if front.getLast? = some adapter ∧ front.dropLast ≠ [] then front else front ++ [adapter]
  else words

theorem ofStem_append_adapter_params {front : List (List Char)} (some_ : front ≠ []) :
    ofStem (front ++ [adapter, params]) = front ++ [adapter] := by
  have dropped : (front ++ [adapter, params]).dropLast = front ++ [adapter] := by
    rw [List.dropLast_append_of_ne_nil (by simp)]
    rfl
  rw [ofStem, dropped, if_pos (by simp), if_pos (by simp [some_])]

theorem ofStem_append_params {front : List (List Char)} (some_ : front ≠ [])
    (other : ¬∃ before, before ≠ [] ∧ front = before ++ [adapter]) :
    ofStem (front ++ [params]) = front ++ [adapter] := by
  have notAdapter : ¬(front.getLast? = some adapter ∧ front.dropLast ≠ []) := by
    rintro ⟨isLast, someBefore⟩
    refine other ⟨front.dropLast, someBefore, ?_⟩
    exact (List.dropLast_append_getLast? adapter isLast).symm
  rw [ofStem, List.dropLast_concat, if_pos (by simp [some_]), if_neg notAdapter]

theorem ofStem_of_not {words : List (List Char)}
    (other : ¬∃ front, front ≠ [] ∧ words = front ++ [params]) : ofStem words = words := by
  rw [ofStem, if_neg]
  rintro ⟨isLast, someFront⟩
  exact other ⟨words.dropLast, someFront, (List.dropLast_append_getLast? params isLast).symm⟩

/-- Words of a stem are words of the name, or `adapter`. -/
theorem mem_ofStem {words : List (List Char)} {word : List Char} (isWord : word ∈ ofStem words) :
    word ∈ words ∨ word = adapter := by
  simp only [ofStem] at isWord
  split at isWord
  · split at isWord
    · exact .inl (List.mem_of_mem_dropLast isWord)
    · rcases List.mem_append.mp isWord with front | last
      · exact .inl (List.mem_of_mem_dropLast front)
      · exact .inr (List.mem_singleton.mp last)
  · exact .inl isWord

end Words

/-! ## Stems by default -/

namespace Naming

open Words Text

variable {words : List (List Char)} (free : ∀ word ∈ words, '_' ∉ word)
include free

/-- The words of a text tell whether it ends with an underscore and other words. -/
theorem isEndOf_words {ends : List (List Char)} (someEnds : ends ≠ [])
    (freeEnds : ∀ word ∈ ends, '_' ∉ word) (ending : String)
    (isEnding : ending.toList = '_' :: ['_'].intercalate ends) :
    Ending.isEndOf ending (String.ofList (['_'].intercalate words)) = true ↔
      ∃ front, front ≠ [] ∧ words = front ++ ends := by
  rw [Ending.isEndOf_iff, String.toList_ofList, isEnding]
  exact suffix_intercalate_iff someEnds free freeEnds

omit free in
/-- An ending of words is replaced by another word. -/
theorem replaced_intercalate {front ends : List (List Char)} (some_ : front ≠ [])
    (someEnds : ends ≠ []) (ending : String)
    (isEnding : ending.toList = '_' :: ['_'].intercalate ends) :
    Ending.replaced ending "_adapter" (String.ofList (['_'].intercalate (front ++ ends))) =
      String.ofList (['_'].intercalate (front ++ [adapter])) := by
  rw [Ending.replaced, String.toList_ofList, isEnding, intercalate_append some_ someEnds,
    Ending.before_append (List.cons_ne_nil _ _), intercalate_append some_ (List.cons_ne_nil _ _)]
  rfl

/-- The rules that hold by default change the words of a stem. -/
theorem applyRules_default :
    applyRules [("_adapter_params", .typed "_adapter"), ("_params", .typed "_adapter")]
        (String.ofList (['_'].intercalate words)) =
      .ok (String.ofList (['_'].intercalate (ofStem words))) := by
  have afterAdapter := isEndOf_words free (List.cons_ne_nil adapter [params]) (by decide)
    "_adapter_params" rfl
  have afterOthers := isEndOf_words free (List.cons_ne_nil params []) (by decide) "_params" rfl
  rw [applyRules]
  split
  next isEnd =>
    obtain ⟨front, some_, rfl⟩ := afterAdapter.mp isEnd
    rw [ofStem_append_adapter_params some_]
    exact congrArg Except.ok (replaced_intercalate some_ (List.cons_ne_nil _ _) _ rfl)
  next notAdapter =>
    rw [afterAdapter] at notAdapter
    rw [applyRules]
    split
    next isEnd =>
      obtain ⟨front, some_, rfl⟩ := afterOthers.mp isEnd
      have other : ¬∃ before, before ≠ [] ∧ front = before ++ [adapter] := by
        rintro ⟨before, someBefore, rfl⟩
        exact notAdapter ⟨before, someBefore, by simp⟩
      rw [ofStem_append_params some_ other]
      exact congrArg Except.ok (replaced_intercalate some_ (List.cons_ne_nil _ _) _ rfl)
    next notParams =>
      rw [afterOthers] at notParams
      rw [applyRules, ofStem_of_not notParams]

end Naming

/-- The stem of a class by default is made of the words of its name. -/
theorem Naming.fileStem_default (name : String) :
    Naming.fileStem {} name =
      .ok (String.ofList (['_'].intercalate (Words.ofStem (Words.ofName name)))) :=
  Naming.applyRules_default Words.underscore_not_mem_ofName

/-- A stem has letters, digits and underscores only. -/
theorem Naming.isPart_of_mem_fileStem {name stem : String}
    (given : Naming.fileStem {} name = .ok stem) {c : Char} (isChar : c ∈ stem.toList) :
    Words.isPart c = true ∨ c = '_' := by
  rw [fileStem_default] at given
  cases given
  rw [String.toList_ofList] at isChar
  rcases Text.mem_of_mem_intercalate isChar with isMark | ⟨word, isWord, isChar⟩
  · exact .inr isMark
  left
  rcases Words.mem_ofStem isWord with ofName | rfl
  · obtain ⟨before, isBefore, rfl⟩ := List.mem_map.mp ofName
    obtain ⟨letter, isLetter, rfl⟩ := List.mem_map.mp isChar
    exact Words.isPart_toLower ((Words.isPart_of_mem_split isBefore).2 letter isLetter)
  · have parts : Words.adapter.all Words.isPart = true := rfl
    exact List.all_eq_true.mp parts c isChar

/-- Two classes have the same stem by default exactly if they have the same words of a stem. -/
theorem Naming.fileStem_default_eq_iff {name other : String} :
    Naming.fileStem {} name = Naming.fileStem {} other ↔
      Words.ofStem (Words.ofName name) = Words.ofStem (Words.ofName other) := by
  have free : ∀ name, ∀ word ∈ Words.ofStem (Words.ofName name), '_' ∉ word := by
    intro name word isWord
    rcases Words.mem_ofStem isWord with ofName | rfl
    · exact Words.underscore_not_mem_ofName word ofName
    · decide
  have some_ : ∀ name, ∀ word ∈ Words.ofStem (Words.ofName name), word ≠ [] := by
    intro name word isWord
    rcases Words.mem_ofStem isWord with ofName | rfl
    · exact Words.ne_nil_of_mem_ofName word ofName
    · decide
  rw [fileStem_default, fileStem_default, Except.ok.injEq, String.ofList_inj]
  constructor
  · exact Text.intercalate_inj (free name) (free other) (some_ name) (some_ other)
  · intro same
    rw [same]

end SchemaCodegen
