import SchemaCodegen.Json.Value

/-!
# Reading JSON

`parse` reads one value that fills the text, or says what is wrong and where. A reading function
takes the characters still to be read and returns those left over; a fault keeps the characters at
which it was found, so that its place is the length of what was read. Beside the standard the words
`NaN`, `Infinity` and `-Infinity` are numbers. Of members with one name the last value counts, at
the place of the first.
-/

namespace SchemaCodegen.Json

/-- What can be wrong with a JSON text. -/
inductive Cause where
  | byteOrderMark
  | noValue
  | noName
  | noColon
  | noComma
  | controlCharacter
  | unterminated
  | badEscape
  | badCodePoint
  | extraData
  deriving DecidableEq, Repr

/-- The wording of a cause. -/
def Cause.message : Cause → String
  | .byteOrderMark => "Unexpected UTF-8 BOM (decode using utf-8-sig)"
  | .noValue => "Expecting value"
  | .noName => "Expecting property name enclosed in double quotes"
  | .noColon => "Expecting ':' delimiter"
  | .noComma => "Expecting ',' delimiter"
  | .controlCharacter => "Invalid control character at"
  | .unterminated => "Unterminated string starting at"
  | .badEscape => "Invalid \\escape"
  | .badCodePoint => "Invalid \\uXXXX escape"
  | .extraData => "Extra data"

/-- Why a text is not read: it is not JSON from some offset on, it holds a whole number of more
digits than are read, or it is nested more deeply than is read. -/
inductive Fault where
  | malformed (cause : Cause) (line column offset : Nat)
  | tooManyDigits (count : Nat)
  | tooDeep
  deriving DecidableEq, Repr

namespace Reader

/-- A fault with the characters at which it was found. -/
inductive Trouble where
  | at (cause : Cause) (rest : List Char)
  | digits (count : Nat)
  | depth

/-- A value and the characters after it. -/
abbrev Result (α : Type) := Except Trouble (α × List Char)

/-- The blanks between tokens. -/
def isSpace (c : Char) : Bool := c = ' ' || c = '\t' || c = '\n' || c = '\r'

/-- The text from its first token on. -/
def skipSpace (text : List Char) : List Char := text.dropWhile isSpace

/-- The value of a hexadecimal digit. -/
def hexValue? (c : Char) : Option Nat :=
  if c.isDigit then some (c.toNat - 48)
  else if 'a' ≤ c && c ≤ 'f' then some (c.toNat - 87)
  else if 'A' ≤ c && c ≤ 'F' then some (c.toNat - 55)
  else none

/-- Four hexadecimal digits that are followed by some character. -/
def codeUnit? : List Char → Option (Nat × List Char)
  | a :: b :: c :: d :: next :: rest => do
    let a ← hexValue? a
    let b ← hexValue? b
    let c ← hexValue? c
    let d ← hexValue? d
    return (((a * 16 + b) * 16 + c) * 16 + d, next :: rest)
  | _ => none

/-- The character of a one-letter escape. -/
def shortEscape? : Char → Option Char
  | '"' => some '"'
  | '\\' => some '\\'
  | '/' => some '/'
  | 'b' => some '\x08'
  | 'f' => some '\x0c'
  | 'n' => some '\n'
  | 'r' => some '\r'
  | 't' => some '\t'
  | _ => none

/-- The character of two halves of a pair, if they are such. -/
def pair? (high low : Nat) : Option Char :=
  if 0xD800 ≤ high && high < 0xDC00 && 0xDC00 ≤ low && low < 0xE000 then
    some (Char.ofNat (0x10000 + (high - 0xD800) * 0x400 + (low - 0xDC00)))
  else none

/-- A code unit that stands alone; half of a pair has no character of its own. -/
def single (unit : Nat) : Char :=
  if 0xD800 ≤ unit && unit < 0xE000 then '\ufffd' else Char.ofNat unit

/-- A text up to its closing mark; `start` is where it was opened. The first argument bounds the
number of characters. -/
def string (start : List Char) : Nat → List Char → List Char → Result (List Char)
  | 0, _, _ => .error (.at .unterminated start)
  | _ + 1, [], _ => .error (.at .unterminated start)
  | fuel + 1, c :: rest, read =>
    if c = '"' then .ok (read.reverse, rest)
    else if c = '\\' then
      match rest with
      | [] => .error (.at .unterminated start)
      | 'u' :: hex =>
        match codeUnit? hex with
        | none => .error (.at .badCodePoint rest)
        | some (unit, after) =>
          match after with
          | '\\' :: 'u' :: more =>
            match if 0xD800 ≤ unit && unit < 0xDC00 then codeUnit? more else none with
            | some (low, after') =>
              match pair? unit low with
              | some c => string start fuel after' (c :: read)
              | none => string start fuel after (single unit :: read)
            | none => string start fuel after (single unit :: read)
          | _ => string start fuel after (single unit :: read)
      | e :: after =>
        match shortEscape? e with
        | some c => string start fuel after (c :: read)
        | none => .error (.at .badEscape (c :: rest))
    else if c.toNat < 32 then .error (.at .controlCharacter (c :: rest))
    else string start fuel rest (c :: read)

/-- A text whose opening mark is the first character. -/
def quoted (text : List Char) : Result String :=
  match string text (text.length + 1) (text.drop 1) [] with
  | .ok (cs, rest) => .ok (String.ofList cs, rest)
  | .error e => .error e

/-- The whole number written by decimal digits. -/
def digitsValue (digits : List Char) : Nat :=
  digits.foldl (fun n d => n * 10 + (d.toNat - 48)) 0

/-- The digits at the front, and the rest. -/
def takeDigits (text : List Char) : List Char × List Char :=
  (text.takeWhile Char.isDigit, text.dropWhile Char.isDigit)

/-- The digits after a point, if the point is followed by one. -/
def fraction : List Char → List Char × List Char
  | '.' :: rest => if (takeDigits rest).1.isEmpty then ([], '.' :: rest) else takeDigits rest
  | text => ([], text)

/-- The exponent at the front, if a digit belongs to it. -/
def exponent? : List Char → Option Int × List Char
  | e :: rest =>
    if e = 'e' || e = 'E' then
      let (negative, unsigned) : Bool × List Char :=
        match rest with
        | '-' :: r => (true, r)
        | '+' :: r => (false, r)
        | r => (false, r)
      let (digits, after) := takeDigits unsigned
      if digits.isEmpty then (none, e :: rest)
      else
        let n : Int := digitsValue digits
        (some (if negative then -n else n), after)
    else (none, e :: rest)
  | [] => (none, [])

/-- The most digits of a whole number. -/
def maxDigits : Nat := 4300

/-- A number at the front of a text. It is a whole number if neither a point nor an exponent
belongs to it. -/
def number (text : List Char) : Result Value :=
  let (negative, unsigned) : Bool × List Char :=
    match text with
    | '-' :: rest => (true, rest)
    | _ => (false, text)
  let (whole, rest) : List Char × List Char :=
    match unsigned with
    | '0' :: rest => (['0'], rest)
    | _ => takeDigits unsigned
  if whole.isEmpty then .error (.at .noValue text)
  else
    let (places, rest) := fraction rest
    match places, exponent? rest with
    | [], (none, rest) =>
      if maxDigits < whole.length then .error (.digits whole.length)
      else
        let n : Int := digitsValue whole
        .ok (.int (if negative then -n else n), rest)
    | places, (power, rest) =>
      .ok (.float (Double.ofDecimal negative (digitsValue (whole ++ places))
        (power.getD 0 - places.length)), rest)

/-- The words that stand for values. -/
def word? (text : List Char) : Option (Value × List Char) :=
  let words : List (String × Value) :=
    [("null", .null), ("true", .bool true), ("false", .bool false), ("NaN", .float .nan),
      ("Infinity", .float (.infinite false)), ("-Infinity", .float (.infinite true))]
  words.findSome? fun (word, value) =>
    if word.toList.isPrefixOf text then some (value, text.drop word.length) else none

/-- The most arrays and objects around a value. -/
def maxDepth : Nat := 990

mutual
/-- The value at the front of a text. Every two steps read a character, which bounds their number
by the first argument; `depth` more arrays and objects may be opened. -/
def value : Nat → Nat → List Char → Result Value
  | 0, _, text => .error (.at .noValue text)
  | _ + 1, _, [] => .error (.at .noValue [])
  | fuel + 1, depth, c :: rest =>
    if c = '"' then
      match quoted (c :: rest) with
      | .ok (s, rest) => .ok (.str s, rest)
      | .error e => .error e
    else if c = '[' then
      match depth, skipSpace rest with
      | 0, _ => .error .depth
      | _, ']' :: after => .ok (.arr [], after)
      | depth + 1, first =>
        match items fuel depth first [] with
        | .ok (vs, after) => .ok (.arr vs, after)
        | .error e => .error e
    else if c = '\x7b' then
      match depth, skipSpace rest with
      | 0, _ => .error .depth
      | _, '\x7d' :: after => .ok (.obj [], after)
      | depth + 1, first =>
        match members fuel depth first [] with
        | .ok (ms, after) => .ok (.obj ms, after)
        | .error e => .error e
    else
      match word? (c :: rest) with
      | some found => .ok found
      | none => number (c :: rest)
/-- The items of an array up to its end. -/
def items : Nat → Nat → List Char → List Value → Result (List Value)
  | 0, _, text, _ => .error (.at .noValue text)
  | fuel + 1, depth, text, read =>
    match value fuel depth text with
    | .error e => .error e
    | .ok (v, rest) =>
      match skipSpace rest with
      | ']' :: after => .ok ((v :: read).reverse, after)
      | ',' :: after => items fuel depth (skipSpace after) (v :: read)
      | other => .error (.at .noComma other)
/-- The members of an object up to its end. -/
def members : Nat → Nat → List Char → Members → Result Members
  | 0, _, text, _ => .error (.at .noName text)
  | fuel + 1, depth, text, read =>
    match text with
    | '"' :: _ =>
      match quoted text with
      | .error e => .error e
      | .ok (name, rest) =>
        match skipSpace rest with
        | ':' :: after =>
          match value fuel depth (skipSpace after) with
          | .error e => .error e
          | .ok (v, rest) =>
            let read := Entries.put read name v
            match skipSpace rest with
            | '\x7d' :: after => .ok (read, after)
            | ',' :: after => members fuel depth (skipSpace after) read
            | other => .error (.at .noComma other)
        | other => .error (.at .noColon other)
    | _ => .error (.at .noName text)
end

/-- A fault of the whole text from the characters at which it was found: lines end with a line feed
and are counted from one, as are the characters of a line. -/
def locate (text : List Char) : Trouble → Fault
  | .digits count => .tooManyDigits count
  | .depth => .tooDeep
  | .at cause rest =>
    let offset := text.length - rest.length
    let read := text.take offset
    .malformed cause (read.count '\n' + 1) ((read.reverse.takeWhile (· != '\n')).length + 1) offset

end Reader

/-- The value that fills a text, blanks around it apart. -/
def parse (text : String) : Except Fault Value :=
  let cs := text.toList
  let read : Reader.Result Value :=
    if cs.head? = some '\ufeff' then .error (.at .byteOrderMark cs)
    else
      match Reader.value (2 * cs.length + 2) Reader.maxDepth (Reader.skipSpace cs) with
      | .error e => .error e
      | .ok (v, rest) =>
        match Reader.skipSpace rest with
        | [] => .ok (v, [])
        | other => .error (.at .extraData other)
  match read with
  | .ok (v, _) => .ok v
  | .error e => .error (Reader.locate cs e)

end SchemaCodegen.Json
