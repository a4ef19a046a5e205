import SchemaCodegen.Proofs.Templates
import SchemaCodegen.Python.Declaration
import Mathlib.Data.List.Chain

/-!
# Empty lines of a tidied class

A text is told by its lines that are not empty and by the line feeds before each of them; what stands
behind the last of them is cut. Tidying a class changes no line and makes these numbers two at most:
two where a documenting text has ended, and two before a function that follows no decorator. What is
tidied once stays as it is, since each number then is what it would be made.
-/

namespace SchemaCodegen.Python

open Text (pieces)

/-! ## Rows -/

/-- A line that is not empty, with the number of line feeds before it. -/
structure Row where
  feeds : Nat
  line : List Char

/-- The lines that are not empty; `feeds` are the line feeds before the first of all lines. -/
def rows (feeds : Nat) : List (List Char) → List Row
  | [] => []
  | line :: rest => if line = [] then rows (feeds + 1) rest else ⟨feeds, line⟩ :: rows 1 rest

/-- A row with two line feeds at most. -/
def Row.capped (row : Row) : Row := { row with feeds := min 2 row.feeds }

/-- Rows as a text. -/
def joined (rows : List Row) : List Char :=
  rows.flatMap fun row => List.replicate row.feeds '\n' ++ row.line

/-- Rows of a text: no line is empty or goes on over a line feed, and line feeds stand between them. -/
structure AreRead (rows : List Row) : Prop where
  lines : ∀ row ∈ rows, row.line ≠ [] ∧ '\n' ∉ row.line
  parted : ∀ row ∈ rows.tail, 0 < row.feeds

theorem AreRead.tail {row : Row} {rest : List Row} (read : AreRead (row :: rest)) : AreRead rest where
  lines := fun other isOther => read.lines other (List.mem_cons_of_mem _ isOther)
  parted := fun other isOther => read.parted other (List.mem_of_mem_tail isOther)

theorem rows_empty (feeds : Nat) (rest : List (List Char)) :
    rows feeds ([] :: rest) = rows (feeds + 1) rest := by
  rw [rows, if_pos rfl]

theorem rows_line {feeds : Nat} {line : List Char} (some_ : line ≠ []) (rest : List (List Char)) :
    rows feeds (line :: rest) = ⟨feeds, line⟩ :: rows 1 rest := by
  rw [rows, if_neg some_]

theorem map_line_rows (feeds : Nat) (lines : List (List Char)) :
    (rows feeds lines).map (·.line) = lines.filter (· ≠ []) := by
  induction lines generalizing feeds with
  | nil => rfl
  | cons line rest ih =>
    by_cases isEmpty : line = []
    · rw [isEmpty, rows_empty, ih, List.filter_cons_of_neg (by simp)]
    · rw [rows_line isEmpty, List.map_cons, ih, List.filter_cons_of_pos (by simpa using isEmpty)]

theorem feeds_pos_of_mem_rows {feeds : Nat} (some_ : 0 < feeds) {lines : List (List Char)} {row : Row}
    (isRow : row ∈ rows feeds lines) : 0 < row.feeds := by
  induction lines generalizing feeds with
  | nil => cases isRow
  | cons line rest ih =>
    by_cases isEmpty : line = []
    · rw [isEmpty, rows_empty] at isRow
      exact ih (Nat.succ_pos _) isRow
    · rw [rows_line isEmpty] at isRow
      rcases List.mem_cons.mp isRow with rfl | isLater
      · exact some_
      · exact ih Nat.one_pos isLater

theorem areRead_rows (feeds : Nat) {lines : List (List Char)} (free : ∀ line ∈ lines, '\n' ∉ line) :
    AreRead (rows feeds lines) := by
  induction lines generalizing feeds with
  | nil => exact ⟨nofun, nofun⟩
  | cons line rest ih =>
    obtain ⟨freeLine, freeRest⟩ := List.forall_mem_cons.mp free
    by_cases isEmpty : line = []
    · rw [isEmpty, rows_empty]
      exact ih (feeds + 1) freeRest
    · rw [rows_line isEmpty]
      refine ⟨List.forall_mem_cons.mpr ⟨⟨isEmpty, freeLine⟩, (ih 1 freeRest).lines⟩, ?_⟩
      intro row isRow
      exact feeds_pos_of_mem_rows Nat.one_pos isRow

/-! ## Lines of rows -/

/-- The lines of rows that follow a line. -/
def linesBehind (rows : List Row) : List (List Char) :=
  rows.flatMap fun row => List.replicate (row.feeds - 1) [] ++ [row.line]

theorem pieces_feeds (feeds : Nat) (more : List Char) :
    pieces '\n' (List.replicate feeds '\n' ++ more) = List.replicate feeds [] ++ pieces '\n' more := by
  induction feeds with
  | zero => rfl
  | succ feeds ih =>
    rw [List.replicate_succ, List.cons_append, pieces, if_pos rfl, ih]
    rfl

/-- What follows a line begins with a line feed, so the line is a piece by itself. -/
theorem pieces_rows {rows : List Row} (free : ∀ row ∈ rows, '\n' ∉ row.line)
    (parted : ∀ row ∈ rows, 0 < row.feeds) : pieces '\n' (joined rows) = [] :: linesBehind rows := by
  induction rows with
  | nil => rfl
  | cons row rest ih =>
    obtain ⟨freeRow, freeRest⟩ := List.forall_mem_cons.mp free
    obtain ⟨partedRow, partedRest⟩ := List.forall_mem_cons.mp parted
    obtain ⟨feeds, isFeeds⟩ := Nat.exists_eq_succ_of_ne_zero partedRow.ne'
    have ofLine : pieces '\n' (row.line ++ joined rest) = row.line :: linesBehind rest := by
      rw [Text.pieces_prepend freeRow (ih freeRest partedRest), List.append_nil]
    show pieces '\n' ((List.replicate row.feeds '\n' ++ row.line) ++ joined rest) =
      [] :: ((List.replicate (row.feeds - 1) [] ++ [row.line]) ++ linesBehind rest)
    rw [List.append_assoc, pieces_feeds, ofLine, isFeeds, List.replicate_succ]
    simp

/-- The lines of a text of rows. -/
theorem pieces_joined_cons {row : Row} {rest : List Row} (read : AreRead (row :: rest)) :
    pieces '\n' (joined (row :: rest)) =
      List.replicate row.feeds [] ++ row.line :: linesBehind rest := by
  have freeRow := (read.lines row (List.mem_cons_self ..)).2
  have freeRest : ∀ other ∈ rest, '\n' ∉ other.line := fun other isOther =>
    (read.lines other (List.mem_cons_of_mem _ isOther)).2
  show pieces '\n' ((List.replicate row.feeds '\n' ++ row.line) ++ joined rest) = _
  rw [List.append_assoc, pieces_feeds,
    Text.pieces_prepend freeRow (pieces_rows freeRest read.parted), List.append_nil]

theorem rows_replicate (feeds more : Nat) (lines : List (List Char)) :
    rows feeds (List.replicate more [] ++ lines) = rows (feeds + more) lines := by
  induction more generalizing feeds with
  | zero => rfl
  | succ more ih =>
    rw [List.replicate_succ, List.cons_append, rows_empty, ih, Nat.add_right_comm, Nat.add_assoc]

theorem rows_linesBehind {rows : List Row} (some_ : ∀ row ∈ rows, row.line ≠ [])
    (parted : ∀ row ∈ rows, 0 < row.feeds) : Python.rows 1 (linesBehind rows) = rows := by
  induction rows with
  | nil => rfl
  | cons row rest ih =>
    obtain ⟨someRow, someRest⟩ := List.forall_mem_cons.mp some_
    obtain ⟨partedRow, partedRest⟩ := List.forall_mem_cons.mp parted
    show Python.rows 1 ((List.replicate (row.feeds - 1) [] ++ [row.line]) ++ linesBehind rest) = _
    rw [List.append_assoc, rows_replicate, List.singleton_append, rows_line someRow,
      ih someRest partedRest, Nat.add_sub_cancel' partedRow]

/-- Rows are read again from their text. -/
theorem rows_joined {rows : List Row} (read : AreRead rows) :
    Python.rows 0 (pieces '\n' (joined rows)) = rows := by
  cases rows with
  | nil => rfl
  | cons row rest =>
    have someRest : ∀ other ∈ rest, other.line ≠ [] := fun other isOther =>
      (read.lines other (List.mem_cons_of_mem _ isOther)).1
    rw [pieces_joined_cons read, rows_replicate, rows_line (read.lines row (List.mem_cons_self ..)).1,
      rows_linesBehind someRest read.parted, Nat.zero_add]

/-! ## Line feeds that are left out -/

theorem atMostTwo_line {line : List Char} (some_ : line ≠ []) (free : '\n' ∉ line) (written : Nat)
    (rest : List Char) : atMostTwo written (line ++ rest) = line ++ atMostTwo 0 rest := by
  induction line generalizing written with
  | nil => exact absurd rfl some_
  | cons c more ih =>
    have other : c ≠ '\n' := fun same => free (same ▸ List.mem_cons_self ..)
    rw [List.cons_append, atMostTwo, if_neg other]
    by_cases isLast : more = []
    · rw [isLast]
      rfl
    · rw [ih isLast fun member => free (List.mem_cons_of_mem _ member)]
      rfl

/-- Of a text no three line feeds in a row are left. -/
theorem not_infix_atMostTwo {written : Nat} (few : written ≤ 2) (text : List Char) :
    ¬['\n', '\n', '\n'] <:+: List.replicate written '\n' ++ atMostTwo written text := by
  induction text generalizing written with
  | nil =>
    intro isInfix
    have short := isInfix.length_le
    simp [atMostTwo] at short
    omega
  | cons c rest ih =>
    rw [atMostTwo]
    by_cases isFeed : c = '\n'
    · rw [if_pos isFeed, isFeed]
      split
      next less =>
        have next := @ih (written + 1) less
        rwa [List.replicate_succ', List.append_assoc] at next
      next => exact ih few
    · rw [if_neg isFeed]
      -- three in a row do not reach over another character
      have later := @ih 0 (Nat.zero_le _)
      rw [List.replicate_zero, List.nil_append] at later
      have counted : written = 0 ∨ written = 1 ∨ written = 2 := by omega
      rcases counted with rfl | rfl | rfl <;>
        simp [List.replicate_succ, List.infix_cons_iff, List.cons_prefix_cons, Ne.symm isFeed, later]

/-- Line feeds are cut behind the last other character only. -/
theorem withoutFinalFeeds_append {front : List Char} {c : Char} (other : c ≠ '\n')
    (rest : List Char) :
    withoutFinalFeeds (front ++ c :: rest) = front ++ c :: withoutFinalFeeds rest := by
  have kept : (c :: front.reverse).dropWhile (· == '\n') = c :: front.reverse := by
    rw [List.dropWhile_cons_of_neg (by simpa using other)]
  have turned : (front ++ c :: rest).reverse = rest.reverse ++ c :: front.reverse := by simp
  unfold withoutFinalFeeds
  rw [turned, List.dropWhile_append, kept]
  split
  next none_ =>
    rw [List.isEmpty_iff.mp none_]
    simp
  next => simp

theorem withoutFinalFeeds_feeds (feeds : Nat) : withoutFinalFeeds (List.replicate feeds '\n') = [] := by
  simp [withoutFinalFeeds]

theorem isPrefix_withoutFinalFeeds (text : List Char) : withoutFinalFeeds text <+: text := by
  rw [withoutFinalFeeds, ← List.reverse_suffix, List.reverse_reverse]
  exact List.dropWhile_suffix _

theorem withoutFinalFeeds_line {line : List Char} (some_ : line ≠ []) (free : '\n' ∉ line)
    (front rest : List Char) :
    withoutFinalFeeds (front ++ line ++ rest) = front ++ line ++ withoutFinalFeeds rest := by
  obtain ⟨before, c, rfl⟩ := (List.eq_nil_or_concat' line).resolve_left some_
  have other : c ≠ '\n' := by
    rintro rfl
    exact free (by simp)
  have parted (more : List Char) : front ++ (before ++ [c]) ++ more = (front ++ before) ++ c :: more := by
    simp
  rw [parted, parted, withoutFinalFeeds_append other]

/-- A text after some line feeds, with two of these at most and none at the end. -/
def squeezed (feeds : Nat) (text : List Char) : List Char :=
  withoutFinalFeeds (List.replicate (min 2 feeds) '\n' ++ atMostTwo (min 2 feeds) text)

theorem squeezed_feed (feeds : Nat) (text : List Char) :
    squeezed feeds ('\n' :: text) = squeezed (feeds + 1) text := by
  unfold squeezed
  rw [atMostTwo, if_pos rfl]
  split
  next few =>
    have more : min 2 (feeds + 1) = min 2 feeds + 1 := by omega
    rw [more, List.replicate_succ', List.append_assoc]
    rfl
  next =>
    have same : min 2 (feeds + 1) = min 2 feeds := by omega
    rw [same]

theorem squeezed_line {line : List Char} (some_ : line ≠ []) (free : '\n' ∉ line) (feeds : Nat)
    (rest : List Char) : squeezed feeds (line ++ rest) =
      List.replicate (min 2 feeds) '\n' ++ line ++ squeezed 0 rest := by
  unfold squeezed
  rw [atMostTwo_line some_ free, ← List.append_assoc, withoutFinalFeeds_line some_ free]
  rfl

/-- The first line and what stands behind it, given the rows of the others behind any line feeds. -/
theorem squeezed_first {line : List Char} (free : '\n' ∉ line) {rest : List (List Char)}
    (behind : ∀ feeds, squeezed feeds (rest.flatMap ('\n' :: ·)) =
      joined ((rows (feeds + 1) rest).map Row.capped)) (feeds : Nat) :
    squeezed feeds (line ++ rest.flatMap ('\n' :: ·)) =
      joined ((rows feeds (line :: rest)).map Row.capped) := by
  by_cases isEmpty : line = []
  · rw [isEmpty, rows_empty, List.nil_append, behind]
  · rw [rows_line isEmpty, squeezed_line isEmpty free, behind]
    rfl

theorem squeezed_behind {lines : List (List Char)} (free : ∀ line ∈ lines, '\n' ∉ line)
    (feeds : Nat) : squeezed feeds (lines.flatMap ('\n' :: ·)) =
      joined ((rows (feeds + 1) lines).map Row.capped) := by
  induction lines generalizing feeds with
  | nil =>
    show withoutFinalFeeds (List.replicate (min 2 feeds) '\n' ++ []) = []
    rw [List.append_nil, withoutFinalFeeds_feeds]
  | cons line rest ih =>
    obtain ⟨freeLine, freeRest⟩ := List.forall_mem_cons.mp free
    rw [List.flatMap_cons, List.cons_append, squeezed_feed]
    exact squeezed_first freeLine (ih freeRest) (feeds + 1)

theorem intercalate_cons (line : List Char) (rest : List (List Char)) :
    ['\n'].intercalate (line :: rest) = line ++ rest.flatMap ('\n' :: ·) := by
  induction rest generalizing line with
  | nil => simp
  | cons next more ih => rw [List.intercalate_cons_cons, ih, List.flatMap_cons, List.append_assoc]; rfl

/-- What is left of joined lines are their rows with two line feeds at most. -/
theorem squeezed_lines {lines : List (List Char)} (free : ∀ line ∈ lines, '\n' ∉ line) :
    withoutFinalFeeds (atMostTwo 0 (['\n'].intercalate lines)) =
      joined ((rows 0 lines).map Row.capped) := by
  cases lines with
  | nil => rfl
  | cons line rest =>
    obtain ⟨freeLine, freeRest⟩ := List.forall_mem_cons.mp free
    rw [intercalate_cons]
    exact squeezed_first freeLine (squeezed_behind freeRest) 0

/-! ## Empty lines that are put in -/

/-- Whether an empty line is put before a line: a function begins at it, something stands before it,
and that is not a decorator in the line above. -/
def isSetApart (above : Option (List Char)) (feeds : Nat) (line : List Char) : Bool :=
  opensFunction line && 0 < feeds && !(feeds = 1 && above.any (begins "    @" ·))

/-- How many line feeds are before a line in the end. -/
def feedsBefore (above : Option (List Char)) (feeds : Nat) (line : List Char) : Nat :=
  min 2 (feeds + if isSetApart above feeds line then 1 else 0)

/-- Rows after tidying, given whether the first is inside a documenting text, the line above it and
how many empty lines are put behind that. -/
def settled (inside : Bool) (above : Option (List Char)) (more : Nat) : List Row → List Row
  | [] => []
  | ⟨feeds, line⟩ :: rest =>
    ⟨feedsBefore above (feeds + more) line, line⟩ ::
      settled (staysInside inside line) (some line)
        (if closesDocumentation inside line then 1 else 0) rest

theorem feedsBefore_zero (above : Option (List Char)) (line : List Char) :
    feedsBefore above 0 line = 0 := by
  simp [feedsBefore, isSetApart]

theorem feedsBefore_one (above : Option (List Char)) (line : List Char) :
    feedsBefore above 1 line = if isSetApart above 1 line then 2 else 1 := by
  unfold feedsBefore
  split <;> rfl

theorem feedsBefore_of_two {feeds : Nat} (two : 2 ≤ feeds) (above : Option (List Char))
    (line : List Char) : feedsBefore above feeds line = 2 := by
  unfold feedsBefore
  omega

theorem feedsBefore_pos {feeds : Nat} (some_ : 0 < feeds) (above : Option (List Char))
    (line : List Char) : 0 < feedsBefore above feeds line := by
  unfold feedsBefore
  omega

theorem staysInside_empty (inside : Bool) : staysInside inside [] = inside := by
  cases inside <;> decide

theorem closesDocumentation_empty (inside : Bool) : closesDocumentation inside [] = false := by
  cases inside <;> decide

theorem spaced_empty (inside : Bool) (last : Option (List Char)) (rest : List (List Char)) :
    spaced inside last ([] :: rest) = [] :: spaced inside (some []) rest := by
  have opens : opensFunction [] = false := by decide
  rw [spaced]
  simp [opens, staysInside_empty, closesDocumentation_empty]

theorem rows_optional (feeds : Nat) (isThere : Bool) (lines : List (List Char)) :
    rows feeds ((if isThere then [[]] else []) ++ lines) =
      rows (feeds + if isThere then 1 else 0) lines := by
  cases isThere with
  | true => exact rows_empty feeds lines
  | false => rfl

/-- Empty lines are put between the lines of a text as they are between its rows. `last` is the line
that was written last: the one above if there is one line feed between, and else an empty one. -/
theorem rows_spaced {lines : List (List Char)} {feeds more : Nat} {inside : Bool}
    {above last : Option (List Char)} (isFirst : feeds = 0 → above = none)
    (isLast : last.any (!begins "    @" ·) =
      (decide (0 < feeds + more) && !(feeds + more = 1 && above.any (begins "    @" ·)))) :
    (rows (feeds + more) (spaced inside last lines)).map Row.capped =
      settled inside above more (rows feeds lines) := by
  induction lines generalizing feeds more inside above last with
  | nil => rfl
  | cons line rest ih =>
    by_cases isEmpty : line = []
    · rw [isEmpty, spaced_empty, rows_empty, rows_empty, Nat.add_right_comm]
      refine ih (fun isNone => absurd isNone (Nat.succ_ne_zero feeds)) ?_
      have some_ : 0 < feeds + 1 + more := by omega
      by_cases isFront : feeds = 0
      · simp [isFirst isFront, begins, some_]
      · have far : feeds + 1 + more ≠ 1 := by omega
        simp [begins, some_, far]
    · have before : (opensFunction line && last.any (!begins "    @" ·)) =
          isSetApart above (feeds + more) line := by
        rw [isLast, isSetApart, Bool.and_assoc]
      rw [spaced, before, List.append_assoc, rows_optional, List.cons_append, rows_line isEmpty,
        rows_optional, List.map_cons, rows_line isEmpty, settled]
      refine congrArg₂ List.cons rfl (ih (fun isNone => absurd isNone Nat.one_ne_zero) ?_)
      cases closesDocumentation inside line with
      | true => simp [begins]
      | false => simp

/-! ## Tidied texts -/

theorem mem_spaced {line : List Char} {inside : Bool} {last : Option (List Char)}
    {lines : List (List Char)} (isOne : line ∈ spaced inside last lines) : line = [] ∨ line ∈ lines := by
  induction lines generalizing inside last with
  | nil => cases isOne
  | cons first rest ih =>
    have ofOptional (isThere : Bool) (isPut : line ∈ if isThere then [([] : List Char)] else []) :
        line = [] := by
      cases isThere with
      | true => exact List.mem_singleton.mp isPut
      | false => cases isPut
    rw [spaced, List.mem_append, List.mem_append, List.mem_cons] at isOne
    rcases isOne with (isBefore | rfl | isAfter) | isLater
    · exact .inl (ofOptional _ isBefore)
    · exact .inr (List.mem_cons_self ..)
    · exact .inl (ofOptional _ isAfter)
    · exact (ih isLater).imp_right (List.mem_cons_of_mem _)

/-- A tidied text in rows. -/
theorem tidy_eq (text : List Char) :
    tidy text = joined (settled false none 0 (rows 0 (pieces '\n' text))) := by
  have free : ∀ line ∈ spaced false none (pieces '\n' text), '\n' ∉ line := by
    intro line isLine isFeed
    rcases mem_spaced isLine with rfl | isPiece
    · cases isFeed
    · exact (Text.mem_of_mem_pieces isPiece isFeed).2 rfl
  have lined := @rows_spaced (pieces '\n' text) 0 0 false none none (fun _ => rfl) rfl
  rw [tidy, squeezed_lines free, ← lined]

theorem map_line_settled (inside : Bool) (above : Option (List Char)) (more : Nat) (rows : List Row) :
    (settled inside above more rows).map (·.line) = rows.map (·.line) := by
  induction rows generalizing inside above more with
  | nil => rfl
  | cons row rest ih => rw [settled, List.map_cons, List.map_cons, ih]

theorem feeds_pos_of_mem_settled {inside : Bool} {above : Option (List Char)} {more : Nat}
    {rows : List Row} (parted : ∀ row ∈ rows, 0 < row.feeds) {row : Row}
    (isRow : row ∈ settled inside above more rows) : 0 < row.feeds := by
  induction rows generalizing inside above more with
  | nil => cases isRow
  | cons first rest ih =>
    obtain ⟨partedFirst, partedRest⟩ := List.forall_mem_cons.mp parted
    rw [settled] at isRow
    rcases List.mem_cons.mp isRow with rfl | isLater
    · exact feedsBefore_pos (Nat.add_pos_left partedFirst more) above first.line
    · exact ih partedRest isLater

theorem AreRead.settled {rows : List Row} (read : AreRead rows) (inside : Bool)
    (above : Option (List Char)) (more : Nat) : AreRead (settled inside above more rows) where
  lines := by
    have sameLines : ∀ line ∈ (Python.settled inside above more rows).map (·.line),
        line ≠ [] ∧ '\n' ∉ line := by
      rw [map_line_settled]
      exact List.forall_mem_map.mpr read.lines
    exact List.forall_mem_map.mp sameLines
  parted := by
    cases rows with
    | nil => exact nofun
    | cons first rest => exact fun row isRow => feeds_pos_of_mem_settled read.parted isRow

/-- The line feeds before a line in the end are those that it would be given from them again. -/
theorem feedsBefore_again {feeds more : Nat} (isFirst : more = 0 ∨ 0 < feeds)
    (above : Option (List Char)) (line : List Char) :
    feedsBefore above (feedsBefore above (feeds + more) line + more) line =
      feedsBefore above (feeds + more) line := by
  have counted : feeds + more = 0 ∨ feeds + more = 1 ∨ 2 ≤ feeds + more := by omega
  rcases counted with none_ | one | two
  · have noMore : more = 0 := by omega
    rw [none_, feedsBefore_zero, noMore, feedsBefore_zero]
  · have noMore : more = 0 := by omega
    rw [one, feedsBefore_one, noMore]
    split
    next => rw [feedsBefore_of_two (Nat.le_refl 2)]
    next apart => rw [feedsBefore_one, if_neg apart]
  · rw [feedsBefore_of_two two, feedsBefore_of_two (by omega)]

/-- Rows that are tidied have the line feeds that tidying would give them. -/
theorem settled_settled {inside : Bool} {above : Option (List Char)} {more : Nat} {rows : List Row}
    (parted : ∀ row ∈ rows.tail, 0 < row.feeds) (isFirst : more = 0 ∨ ∀ row ∈ rows, 0 < row.feeds) :
    settled inside above more (settled inside above more rows) = settled inside above more rows := by
  induction rows generalizing inside above more with
  | nil => rfl
  | cons row rest ih =>
    obtain ⟨feeds, line⟩ := row
    have behind : ∀ other ∈ rest.tail, 0 < other.feeds := fun other isOther =>
      parted other (List.mem_of_mem_tail isOther)
    have isFirstRow : more = 0 ∨ 0 < feeds :=
      isFirst.imp_right fun each => each _ (List.mem_cons_self ..)
    rw [settled, settled, ih behind (.inr parted), feedsBefore_again isFirstRow]

/-! ## Functions set apart -/

/-- Whether a line is none at which a function begins, or stands behind an empty line or a decorator. -/
def IsApart (previous line : List Char) : Prop :=
  opensFunction line = true → previous = [] ∨ begins "    @" previous = true

theorem isApart_behind_empty (line : List Char) : IsApart [] line := fun _ => .inl rfl

theorem isApart_empty (previous : List Char) : IsApart previous [] := by
  intro opens
  exact absurd opens (by decide)

theorem isChain_empty {lines : List (List Char)} (feeds : Nat) (chain : lines.IsChain IsApart) :
    (List.replicate feeds [] ++ lines).IsChain IsApart := by
  induction feeds with
  | zero => exact chain
  | succ feeds ih =>
    rw [List.replicate_succ, List.cons_append, List.isChain_cons]
    exact ⟨fun line _ => isApart_behind_empty line, ih⟩

/-- A line with one line feed before it is no function, or the line above is a decorator. -/
theorem isApart_of_not_isSetApart {above line : List Char}
    (notApart : ¬isSetApart (some above) 1 line = true) : IsApart above line := by
  intro opens
  right
  simpa [isSetApart, opens] using notApart

theorem isChain_settled_behind {rows : List Row} (parted : ∀ row ∈ rows, 0 < row.feeds) (inside : Bool)
    (above : List Char) (more : Nat) :
    (above :: linesBehind (settled inside (some above) more rows)).IsChain IsApart := by
  induction rows generalizing inside above more with
  | nil => exact List.isChain_singleton above
  | cons row rest ih =>
    obtain ⟨feeds, line⟩ := row
    obtain ⟨partedFirst, partedRest⟩ := List.forall_mem_cons.mp parted
    have later := ih partedRest (staysInside inside line) line
      (if closesDocumentation inside line then 1 else 0)
    -- two line feeds leave an empty line, and one is left where the function need not be set apart
    have counted : feedsBefore (some above) (feeds + more) line = 2 ∨
        feedsBefore (some above) (feeds + more) line = 1 ∧ IsApart above line := by
      by_cases one : feeds + more = 1
      · rw [one, feedsBefore_one]
        split
        next => exact .inl rfl
        next notApart => exact .inr ⟨rfl, isApart_of_not_isSetApart notApart⟩
      · have positive : 0 < feeds := partedFirst
        exact .inl (feedsBefore_of_two (by omega) _ _)
    rw [settled, linesBehind, List.flatMap_cons, List.append_assoc]
    rcases counted with two | ⟨one, isApart⟩
    · rw [two]
      exact .cons_cons (isApart_empty above) (.cons_cons (isApart_behind_empty line) later)
    · rw [one]
      exact .cons_cons isApart later

/-- In the lines of tidied rows all functions are set apart. -/
theorem isChain_settled {rows : List Row} (read : AreRead rows) :
    (pieces '\n' (joined (settled false none 0 rows))).IsChain IsApart := by
  have readSettled := read.settled false none 0
  cases rows with
  | nil => exact List.isChain_singleton []
  | cons row rest =>
    rw [settled] at readSettled ⊢
    rw [pieces_joined_cons readSettled]
    exact isChain_empty _ (isChain_settled_behind read.parted _ _ _)

/-- Tidying moves empty lines only: the other lines of a class are all kept, in order. There are no three
line feeds in a row then, each function stands behind an empty line or a decorator if it is not in the
first line, and tidying again changes nothing. -/
theorem tidy_moves_empty_lines (text : List Char) :
    (pieces '\n' (tidy text)).filter (· ≠ []) = (pieces '\n' text).filter (· ≠ []) ∧
      ¬['\n', '\n', '\n'] <:+: tidy text ∧
      ((pieces '\n' (tidy text)).IsChain fun previous line =>
        begins "    @" line = true ∨ begins "    def " line = true →
          previous = [] ∨ begins "    @" previous = true) ∧
      tidy (tidy text) = tidy text := by
  have free : ∀ line ∈ pieces '\n' text, '\n' ∉ line := fun line isLine isFeed =>
    (Text.mem_of_mem_pieces isLine isFeed).2 rfl
  have read := areRead_rows 0 free
  have again : rows 0 (pieces '\n' (tidy text)) = settled false none 0 (rows 0 (pieces '\n' text)) := by
    rw [tidy_eq, rows_joined (read.settled false none 0)]
  refine ⟨?lines, ?feeds, ?functions, ?again⟩
  case lines => rw [← map_line_rows 0, again, map_line_settled, map_line_rows]
  case feeds =>
    have few := @not_infix_atMostTwo 0 (Nat.zero_le 2) (['\n'].intercalate
      (spaced false none (pieces '\n' text)))
    exact fun isInfix => few (isInfix.trans (isPrefix_withoutFinalFeeds _).isInfix)
  case functions =>
    have chain := isChain_settled read
    rw [← tidy_eq] at chain
    apply chain.imp
    intro previous line isApart opens
    exact isApart (by rwa [opensFunction, Bool.or_eq_true])
  case again => rw [tidy_eq (tidy text), again, settled_settled read.parted (.inl rfl), ← tidy_eq]

end SchemaCodegen.Python
