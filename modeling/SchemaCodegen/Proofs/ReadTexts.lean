import SchemaCodegen.Json.Reader
import Mathlib.Data.List.Infix
import Mathlib.Data.List.TakeWhile

/-!
# Texts that are refused for their size

Reading a value leaves an end of the text. So when a whole number has too many digits, they stand in a
row in the text, and when a value is nested too deeply, the text opens more brackets and braces than may
be open: a text that has neither is read, or it is no JSON. Both refusals do occur, whatever stands
behind the brackets.
-/

namespace SchemaCodegen

namespace Json.Reader

/-! ## Troubles of a text -/

/-- How many brackets and braces a text opens. -/
def openers (text : List Char) : Nat := text.countP fun c => c = '[' || c = '\x7b'

/-- Whether a text has so many digits in a row. -/
def HasDigits (count : Nat) (text : List Char) : Prop :=
  ∃ digits, digits <:+: text ∧ digits.all Char.isDigit = true ∧ digits.length = count

/-- What a text has if a trouble with its size is found in it: more digits in a row than are read, or
more brackets and braces than may still be opened. -/
def Trouble.IsOf (depth : Nat) (text : List Char) : Trouble → Prop
  | .at _ _ => True
  | .digits count => maxDigits < count ∧ HasDigits count text
  | .depth => depth < openers text

/-- Whether a result leaves an end of the text, or is a trouble of it. -/
def Reads {α : Type} (depth : Nat) (text : List Char) : Result α → Prop
  | .ok (_, rest) => rest <:+ text
  | .error trouble => trouble.IsOf depth text

variable {α β : Type} {depth : Nat} {text rest : List Char}

theorem Trouble.IsOf.of_suffix {trouble : Trouble} (isOf : trouble.IsOf depth rest)
    (isEnd : rest <:+ text) : trouble.IsOf depth text := by
  cases trouble with
  | «at» cause place => trivial
  | digits count =>
    obtain ⟨many, digits, isRow, areDigits, counted⟩ := isOf
    exact ⟨many, digits, isRow.trans isEnd.isInfix, areDigits, counted⟩
  | depth => exact Nat.lt_of_lt_of_le isOf isEnd.sublist.countP_le

theorem Reads.of_suffix {result : Result α} (reads : Reads depth rest result)
    (isEnd : rest <:+ text) : Reads depth text result := by
  match result, reads with
  | .ok (_, _), reads => exact List.IsSuffix.trans reads isEnd
  | .error _, reads => exact Trouble.IsOf.of_suffix reads isEnd

theorem Reads.of_ok {result : Result α} {found : α} (reads : Reads depth text result)
    (isOk : result = .ok (found, rest)) : rest <:+ text := by
  rw [isOk] at reads
  exact reads

theorem Reads.of_error {result : Result α} {trouble : Trouble} (reads : Reads depth text result)
    (isError : result = .error trouble) : trouble.IsOf depth text := by
  rw [isError] at reads
  exact reads

theorem skipSpace_suffix (text : List Char) : skipSpace text <:+ text := List.dropWhile_suffix _

/-! ## Quoted texts -/

theorem codeUnit?_suffix {unit : Nat} (isUnit : codeUnit? text = some (unit, rest)) :
    rest <:+ text := by
  unfold codeUnit? at isUnit
  split at isUnit
  next a b c d next rest =>
    simp only [Option.bind_eq_bind, Option.bind_eq_some_iff, Option.pure_def, Option.some.injEq,
      Prod.mk.injEq] at isUnit
    obtain ⟨_, _, _, _, _, _, _, _, _, rfl⟩ := isUnit
    exact List.suffix_append [a, b, c, d] _
  next => cases isUnit

theorem string_reads (start : List Char) (fuel : Nat) (text read : List Char) :
    Reads depth text (string start fuel text read) := by
  -- along the recursion of the definition: troubles are at a place, and what is left is left of the rest
  fun_induction string start fuel text read with
  | case1 | case2 | case4 | case5 | case11 | case12 => trivial
  | case3 => exact List.suffix_cons _ _
  | case6 fuel read hex unit more low after isPair c _ _ isUnit ih =>
    have isEnd : after <:+ more := by
      split at isPair
      · exact codeUnit?_suffix isPair
      · cases isPair
    have ofHex := (List.suffix_append ['\\', 'u'] more).trans (codeUnit?_suffix isUnit)
    exact ih.of_suffix ((isEnd.trans ofHex).trans (List.suffix_append ['\\', 'u'] hex))
  | case7 fuel read hex unit more _ _ _ _ _ isUnit ih
  | case8 fuel read hex unit more _ _ isUnit ih =>
    exact ih.of_suffix ((codeUnit?_suffix isUnit).trans (List.suffix_append ['\\', 'u'] hex))
  | case9 fuel read hex unit after isUnit _ _ ih =>
    exact ih.of_suffix ((codeUnit?_suffix isUnit).trans (List.suffix_append ['\\', 'u'] hex))
  | case10 fuel read e after _ c _ _ ih => exact ih.of_suffix (List.suffix_append ['\\', e] after)
  | case13 fuel c rest read _ _ _ ih => exact ih.of_suffix (List.suffix_cons c rest)

theorem quoted_reads (text : List Char) : Reads depth text (quoted text) := by
  have reads : Reads depth text (string text (text.length + 1) (text.drop 1) []) :=
    (string_reads text _ _ []).of_suffix (List.drop_suffix 1 text)
  unfold quoted
  split
  next isOk => exact reads.of_ok isOk
  next isError => exact reads.of_error isError

/-! ## Numbers and words -/

theorem takeDigits_suffix (text : List Char) : (takeDigits text).2 <:+ text :=
  List.dropWhile_suffix _

theorem fraction_suffix (text : List Char) : (fraction text).2 <:+ text := by
  unfold fraction
  split
  · split
    · exact List.suffix_refl _
    · exact (takeDigits_suffix _).trans (List.suffix_cons _ _)
  · exact List.suffix_refl _

theorem exponent?_suffix (text : List Char) : (exponent? text).2 <:+ text := by
  unfold exponent?
  split
  next e rest =>
    split
    · split
      next negative unsigned sign =>
        have isEnd : unsigned <:+ rest := by
          split at sign <;> cases sign
          · exact List.suffix_cons _ _
          · exact List.suffix_cons _ _
          · exact List.suffix_refl _
        dsimp only
        split
        · exact List.suffix_refl _
        · exact ((takeDigits_suffix unsigned).trans isEnd).trans (List.suffix_cons e rest)
    · exact List.suffix_refl _
  next => exact List.suffix_refl _

theorem power_suffix {places after last : List Char} {power : Option Int}
    (isFraction : fraction rest = (places, after)) (isPower : exponent? after = (power, last)) :
    last <:+ rest := by
  have ofFraction := fraction_suffix rest
  have ofPower := exponent?_suffix after
  rw [isFraction] at ofFraction
  rw [isPower] at ofPower
  exact ofPower.trans ofFraction

/-- A number leaves an end of its text, unless its whole part has too many digits. -/
theorem number_reads (text : List Char) : Reads depth text (number text) := by
  unfold number
  split
  next negative unsigned sign =>
    have isEnd : unsigned <:+ text := by
      split at sign <;> cases sign
      · exact List.suffix_cons _ _
      · exact List.suffix_refl _
    split
    next whole rest isWhole =>
      have ofWhole : rest <:+ unsigned ∧ whole <:+: unsigned ∧ whole.all Char.isDigit = true := by
        split at isWhole <;> cases isWhole
        next => exact ⟨List.suffix_cons _ _, ⟨[], rest, rfl⟩, rfl⟩
        next =>
          exact ⟨takeDigits_suffix unsigned, (List.takeWhile_prefix _).isInfix, List.all_takeWhile⟩
      split
      · trivial
      split
      next places after isFraction =>
        split
        next last isPower =>
          split
          next long => exact ⟨long, whole, ofWhole.2.1.trans isEnd.isInfix, ofWhole.2.2, rfl⟩
          next => exact (power_suffix isFraction isPower).trans (ofWhole.1.trans isEnd)
        next isPower => exact (power_suffix isFraction isPower).trans (ofWhole.1.trans isEnd)

theorem word?_suffix {found : Value} (isWord : word? text = some (found, rest)) : rest <:+ text := by
  obtain ⟨entry, _, isThis⟩ := List.exists_of_findSome?_eq_some isWord
  obtain ⟨word, value⟩ := entry
  dsimp only at isThis
  split at isThis
  · cases isThis
    exact List.drop_suffix _ _
  · cases isThis

/-! ## Values -/

/-- Brackets and braces open something. -/
def IsOpener (c : Char) : Prop := c = '[' ∨ c = '\x7b'

theorem openers_pos {c : Char} (isOpener : IsOpener c) : 0 < openers (c :: rest) := by
  unfold openers
  rw [List.countP_cons_of_pos (by simpa [IsOpener] using isOpener)]
  exact Nat.succ_pos _

/-- What is found in an opened array or object is found in the text with one more that may be opened. -/
theorem Reads.of_opened {result : Result α} {c : Char} (reads : Reads depth text result)
    (isOpener : IsOpener c) (isEnd : text <:+ rest) : Reads (depth + 1) (c :: rest) result := by
  have isEndOfAll := isEnd.trans (List.suffix_cons c rest)
  match result with
  | .ok (_, _) => exact (reads.of_ok rfl).trans isEndOfAll
  | .error (.at _ _) => trivial
  | .error (.digits count) => exact (reads.of_error rfl).of_suffix isEndOfAll
  | .error .depth =>
    have more : openers text ≤ openers rest := isEnd.sublist.countP_le
    have counted : openers (c :: rest) = openers rest + 1 :=
      List.countP_cons_of_pos (by simpa [IsOpener] using isOpener)
    have deeper : depth < openers text := reads.of_error rfl
    show depth + 1 < openers (c :: rest)
    omega

theorem reads_closed {c mark : Char} {after : List Char} {found : α}
    (closed : skipSpace rest = mark :: after) : Reads depth (c :: rest) (.ok (found, after)) := by
  have isEnd := skipSpace_suffix rest
  rw [closed] at isEnd
  exact ((List.suffix_cons mark after).trans isEnd).trans (List.suffix_cons c rest)

mutual
/-- A value leaves an end of its text, or its trouble is one of the text. -/
theorem value_reads : ∀ (fuel depth : Nat) (text : List Char), Reads depth text (value fuel depth text)
  | 0, _, _ => by
    rw [value.eq_def]
    trivial
  | _ + 1, _, [] => by
    rw [value.eq_def]
    trivial
  | fuel + 1, depth, c :: rest => by
    rw [value.eq_def]
    dsimp only
    split
    · have ofText : Reads depth (c :: rest) (quoted (c :: rest)) := quoted_reads _
      split
      next isOk => exact ofText.of_ok isOk
      next isError => exact ofText.of_error isError
    split
    next isOpener =>
      split
      · exact openers_pos (.inl isOpener)
      next closed => exact reads_closed closed
      next depth _ =>
        have ofItems := (items_reads fuel depth (skipSpace rest) []).of_opened (.inl isOpener)
          (skipSpace_suffix rest)
        split
        next isOk => exact ofItems.of_ok isOk
        next isError => exact ofItems.of_error isError
    split
    next isOpener =>
      split
      · exact openers_pos (.inr isOpener)
      next closed => exact reads_closed closed
      next depth _ =>
        have ofMembers := (members_reads fuel depth (skipSpace rest) []).of_opened (.inr isOpener)
          (skipSpace_suffix rest)
        split
        next isOk => exact ofMembers.of_ok isOk
        next isError => exact ofMembers.of_error isError
    split
    next isWord => exact word?_suffix isWord
    next => exact number_reads (c :: rest)
theorem items_reads : ∀ (fuel depth : Nat) (text : List Char) (read : List Value),
    Reads depth text (items fuel depth text read)
  | 0, _, _, _ => by
    rw [items.eq_def]
    trivial
  | fuel + 1, depth, text, read => by
    have ofFirst := value_reads fuel depth text
    rw [items.eq_def]
    dsimp only
    split
    next isError => exact ofFirst.of_error isError
    next rest isOk =>
      have isEnd := (skipSpace_suffix rest).trans (ofFirst.of_ok isOk)
      split
      next after closed =>
        rw [closed] at isEnd
        exact (List.suffix_cons _ _).trans isEnd
      next after further =>
        rw [further] at isEnd
        have isLeft := ((skipSpace_suffix after).trans (List.suffix_cons _ _)).trans isEnd
        exact (items_reads fuel depth _ _).of_suffix isLeft
      next => trivial
theorem members_reads : ∀ (fuel depth : Nat) (text : List Char) (read : Members),
    Reads depth text (members fuel depth text read)
  | 0, _, _, _ => by
    rw [members.eq_def]
    trivial
  | fuel + 1, depth, text, read => by
    have ofName : Reads depth text (quoted text) := quoted_reads text
    rw [members.eq_def]
    dsimp only
    split
    case h_2 => trivial
    split
    next isError => exact ofName.of_error isError
    next rest isOk =>
      have isEnd := (skipSpace_suffix rest).trans (ofName.of_ok isOk)
      split
      case h_2 => trivial
      next after named =>
        rw [named] at isEnd
        have isValue := ((skipSpace_suffix after).trans (List.suffix_cons _ _)).trans isEnd
        have ofValue := (value_reads fuel depth (skipSpace after)).of_suffix isValue
        split
        next isError => exact ofValue.of_error isError
        next last isOk =>
          have isLeft := (skipSpace_suffix last).trans (ofValue.of_ok isOk)
          split
          next closed =>
            rw [closed] at isLeft
            exact (List.suffix_cons _ _).trans isLeft
          next after further =>
            rw [further] at isLeft
            have isRest := ((skipSpace_suffix after).trans (List.suffix_cons _ _)).trans isLeft
            exact (members_reads fuel depth _ _).of_suffix isRest
          next => trivial
end

/-! ## Texts that are refused -/

theorem skipSpace_cons {c : Char} (isNoSpace : isSpace c = false) (rest : List Char) :
    skipSpace (c :: rest) = c :: rest := by
  rw [skipSpace, List.dropWhile_cons_of_neg (by simp [isNoSpace])]

theorem items_of_error {fuel : Nat} {trouble : Trouble} (isError : value fuel depth text = .error trouble)
    (read : List Value) : items (fuel + 1) depth text read = .error trouble := by
  rw [items.eq_def]
  dsimp only
  rw [isError]

/-- Brackets that are opened one after the other are not read if there are more than may be. -/
theorem value_too_deep {fuel : Nat} (enough : 2 * depth < fuel) :
    value fuel depth (List.replicate (depth + 1) '[' ++ rest) = .error .depth := by
  induction depth generalizing fuel with
  | zero =>
    obtain ⟨fuel, rfl⟩ := Nat.exists_eq_add_of_lt enough
    rfl
  | succ depth ih =>
    obtain ⟨fuel, rfl⟩ : ∃ less, fuel = less + 2 := ⟨fuel - 2, by omega⟩
    have inner := items_of_error (ih (by omega : 2 * depth < fuel)) []
    rw [List.replicate_succ, List.cons_append] at inner ⊢
    rw [List.replicate_succ, List.cons_append, value.eq_def]
    dsimp only
    rw [if_neg (by decide), if_pos rfl, skipSpace_cons rfl]
    split
    · rfl
    next closed _ => exact absurd (List.cons.inj closed).1 (by decide)
    next same _ =>
      cases same
      rw [inner]

theorem takeDigits_all {digits : List Char} (areDigits : digits.all Char.isDigit = true) :
    takeDigits digits = (digits, []) := by
  rw [List.all_eq_true] at areDigits
  unfold takeDigits
  rw [List.takeWhile_eq_self_iff.mpr areDigits, List.dropWhile_eq_nil_iff.mpr areDigits]

theorem ne_of_isDigit {c d : Char} (isDigit : c.isDigit = true) (noDigit : d.isDigit = false) :
    c ≠ d := by
  rintro rfl
  rw [isDigit] at noDigit
  cases noDigit

theorem word?_of_isDigit {c : Char} (isDigit : c.isDigit = true) : word? (c :: rest) = none := by
  have other := fun {d : Char} => @ne_of_isDigit c d isDigit
  unfold word?
  rw [List.findSome?_eq_none_iff]
  simp [(other rfl : c ≠ 'n').symm, (other rfl : c ≠ 't').symm, (other rfl : c ≠ 'f').symm,
    (other rfl : c ≠ 'N').symm, (other rfl : c ≠ 'I').symm, (other rfl : c ≠ '-').symm]

section Digits

variable {digits : List Char} (areDigits : digits.all Char.isDigit = true)
  (noZero : digits.head? ≠ some '0') (long : maxDigits < digits.length)
include areDigits noZero long

/-- A whole number fills a text of digits, and is not read if there are too many. -/
theorem number_too_long : number digits = .error (.digits digits.length) := by
  obtain ⟨first, others, rfl⟩ : ∃ first others, digits = first :: others := by
    apply List.exists_cons_of_ne_nil
    rintro rfl
    cases long
  have isDigit : first.isDigit = true := List.all_eq_true.mp areDigits first (List.mem_cons_self ..)
  have noMinus : first ≠ '-' := ne_of_isDigit isDigit rfl
  have notZero : first ≠ '0' := by simpa using noZero
  unfold number
  split
  next negative unsigned sign =>
  split at sign
  next same => exact absurd (List.cons.inj same).1 noMinus
  cases sign
  split
  next whole rest isWhole =>
  split at isWhole
  next same => exact absurd (List.cons.inj same).1 notZero
  rw [takeDigits_all areDigits] at isWhole
  cases isWhole
  rw [if_neg (by simp)]
  dsimp only [fraction, exponent?]
  rw [if_pos long]

theorem value_too_long (fuel : Nat) : value (fuel + 1) depth digits = .error (.digits digits.length) := by
  have isNumber := number_too_long areDigits noZero long
  obtain ⟨first, others, rfl⟩ : ∃ first others, digits = first :: others := by
    apply List.exists_cons_of_ne_nil
    rintro rfl
    cases long
  have isDigit : first.isDigit = true := List.all_eq_true.mp areDigits first (List.mem_cons_self ..)
  rw [value.eq_def]
  dsimp only
  rw [if_neg (ne_of_isDigit isDigit rfl), if_neg (ne_of_isDigit isDigit rfl),
    if_neg (ne_of_isDigit isDigit rfl), word?_of_isDigit isDigit]
  exact isNumber

end Digits

end Json.Reader

namespace Json

open Reader

theorem parse_of_error {text : List Char} {trouble : Trouble} (noMark : text.head? ≠ some '\ufeff')
    (failed : value (2 * text.length + 2) maxDepth (skipSpace text) = .error trouble) :
    parse (String.ofList text) = .error (locate text trouble) := by
  unfold parse
  rw [String.toList_ofList]
  dsimp only
  rw [if_neg noMark, failed]

/-- A text that begins with more brackets than may be opened is nested too deeply. -/
theorem parse_too_deep (rest : List Char) :
    parse (String.ofList (List.replicate (maxDepth + 1) '[' ++ rest)) = .error .tooDeep := by
  have begins : skipSpace (List.replicate (maxDepth + 1) '[' ++ rest) =
      List.replicate (maxDepth + 1) '[' ++ rest := by
    rw [List.replicate_succ, List.cons_append, skipSpace_cons rfl]
  have noMark : (List.replicate (maxDepth + 1) '[' ++ rest).head? ≠ some '\ufeff' := by
    rw [List.replicate_succ, List.cons_append, List.head?_cons]
    decide
  have failed : value (2 * (List.replicate (maxDepth + 1) '[' ++ rest).length + 2) maxDepth
      (skipSpace (List.replicate (maxDepth + 1) '[' ++ rest)) = .error .depth := by
    rw [begins]
    apply value_too_deep
    rw [List.length_append, List.length_replicate]
    omega
  exact parse_of_error noMark failed

/-- A text of more digits than are read has too many. -/
theorem parse_too_long {digits : List Char} (areDigits : digits.all Char.isDigit = true)
    (noZero : digits.head? ≠ some '0') (long : maxDigits < digits.length) :
    parse (String.ofList digits) = .error (.tooManyDigits digits.length) := by
  have noMark : digits.head? ≠ some '\ufeff' := by
    intro isMark
    exact absurd (List.all_eq_true.mp areDigits _ (List.mem_of_head? isMark)) (by decide)
  have begins : skipSpace digits = digits := by
    cases digits with
    | nil => rfl
    | cons c rest =>
      have isDigit : c.isDigit = true := List.all_eq_true.mp areDigits c (List.mem_cons_self ..)
      apply skipSpace_cons
      simp [isSpace, ne_of_isDigit isDigit]
  have failed : value (2 * digits.length + 2) maxDepth (skipSpace digits) =
      .error (.digits digits.length) := by
    rw [begins]
    exact value_too_long areDigits noZero long _
  exact parse_of_error noMark failed

/-- Whether a text is not refused for its size. -/
def IsWithinLimits (text : String) : Prop :=
  ∀ fault, parse text = .error fault →
    ∃ cause line column offset, fault = .malformed cause line column offset

/-- A trouble with the size of a text is found in it, if it is a trouble of the whole. -/
theorem isOf_of_refused {text : String} {fault : Fault} (refused : parse text = .error fault) :
    ∃ trouble, fault = locate text.toList trouble ∧ trouble.IsOf maxDepth text.toList := by
  have reads := (value_reads (2 * text.toList.length + 2) maxDepth (skipSpace text.toList)).of_suffix
    (skipSpace_suffix text.toList)
  unfold parse at refused
  dsimp only at refused
  split at refused
  · cases refused
  next trouble failed =>
    refine ⟨trouble, (Except.error.inj refused).symm, ?_⟩
    split at failed
    · cases failed
      trivial
    · split at failed
      next isError =>
        cases failed
        exact reads.of_error isError
      next =>
        split at failed <;> cases failed
        trivial

/-- A text with few digits in each row and few brackets and braces is not refused for its size. -/
theorem isWithinLimits_of_small {text : String}
    (short : ∀ count, HasDigits count text.toList → count ≤ maxDigits)
    (flat : openers text.toList ≤ maxDepth) : IsWithinLimits text := by
  intro fault refused
  obtain ⟨trouble, rfl, isOf⟩ := isOf_of_refused refused
  cases trouble with
  | «at» cause rest => exact ⟨_, _, _, _, rfl⟩
  | digits count => exact absurd (short count isOf.2) (Nat.not_le_of_lt isOf.1)
  | depth => exact absurd flat (Nat.not_le_of_lt isOf)

theorem not_isWithinLimits {text : String} {fault : Fault} (refused : parse text = .error fault)
    (other : ∀ cause line column offset, fault ≠ .malformed cause line column offset) :
    ¬IsWithinLimits text := by
  intro within
  obtain ⟨cause, line, column, offset, same⟩ := within fault refused
  exact other cause line column offset same

end Json

end SchemaCodegen
