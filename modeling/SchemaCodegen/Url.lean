import SchemaCodegen.Fault
import SchemaCodegen.Text.Pieces

/-!
# Addresses

Whether the source of a schema is an address on the network. That is decided by the scheme before
its first colon. The host is looked at only for faults: brackets belong around the numeric form of an
address, and no character may become part of the syntax when texts are normalised.
-/

namespace SchemaCodegen.Url

/-- Control characters and the space, which do not count at the front. -/
def isIgnoredInFront (c : Char) : Bool := c.toNat ≤ 32

/-- Tabs and line ends, which do not count anywhere. -/
def isIgnored (c : Char) : Bool := c = '\t' || c = '\r' || c = '\n'

/-- The characters of a scheme. -/
def isSchemePart (c : Char) : Bool := c.isAlphanum || c = '+' || c = '-' || c = '.'

/-- The scheme of an address in small letters, if there is one, and what follows its colon. -/
def scheme (text : List Char) : List Char × List Char :=
  let front := text.takeWhile (· ≠ ':')
  if front.length < text.length && front.head?.any Char.isAlpha && front.all isSchemePart then
    (front.map Char.toLower, text.drop (front.length + 1))
  else ([], text)

/-- The host, with what belongs to it, if two slashes announce one. -/
def host : List Char → List Char
  | '/' :: '/' :: rest => rest.takeWhile fun c => c ≠ '/' && c ≠ '?' && c ≠ '#'
  | _ => []

/-! ## Numeric hosts -/

/-- One of the four numbers of the short form: up to three digits, no zero in front, below 256. -/
def isOctet (text : List Char) : Bool :=
  !text.isEmpty && text.all Char.isDigit && text.length ≤ 3 && (text = ['0'] || text.head? ≠ some '0')
    && text.foldl (fun n d => n * 10 + (d.toNat - 48)) 0 ≤ 255

/-- The short form: four numbers. -/
def isShort (text : List Char) : Bool :=
  let parts := Text.pieces '.' text
  parts.length == 4 && parts.all isOctet

/-- One of the eight numbers of the long form. -/
def isGroup (text : List Char) : Bool :=
  !text.isEmpty && text.length ≤ 4 && text.all fun c => (Json.Reader.hexValue? c).isSome

/-- The groups of the long form: a short form at the end stands for two. -/
def groups (text : List Char) : Option (List (List Char)) :=
  let parts := Text.pieces ':' text
  match parts.getLast? with
  | some last =>
    if last.contains '.' then
      if isShort last then some (parts.dropLast ++ [['0'], ['0']]) else none
    else some parts
  | none => none

/-- The long form: eight groups, or fewer with one gap. The form may begin or end with the gap. -/
def isLong (text : List Char) : Bool :=
  let parts := Text.pieces ':' text
  3 ≤ parts.length &&
    match groups text with
    | none => false
    | some parts =>
      let inner := (parts.drop 1).dropLast
      parts.length ≤ 9 &&
        match inner.findIdx? (·.isEmpty) with
        | none => parts.length == 8 && parts.all isGroup
        | some i =>
          let before := parts.take (i + 1)
          let after := parts.drop (i + 2)
          let before := if before.head? = some [] then before.drop 1 else before
          let after := if after.getLast? = some [] then after.dropLast else after
          (inner.filter (·.isEmpty)).length == 1 &&
            (parts.head? ≠ some [] || before.isEmpty) &&
            (parts.getLast? ≠ some [] || after.isEmpty) &&
            before.length + after.length ≤ 7 && before.all isGroup && after.all isGroup

/-- The long form with the name of a zone, which may follow a percent sign. -/
def isLongWithZone (text : List Char) : Bool :=
  if text.contains '/' then false
  else
    match text.dropWhile (· ≠ '%') with
    | [] => isLong text
    | _ :: zone => !zone.isEmpty && !zone.contains '%' && isLong (text.takeWhile (· ≠ '%'))

/-- A form of later versions: a `v`, hexadecimal digits, a dot, and something. -/
def isFuture (text : List Char) : Bool :=
  match text with
  | 'v' :: rest =>
    let version := rest.takeWhile fun c => (Json.Reader.hexValue? c).isSome
    match rest.drop version.length with
    | '.' :: more => !version.isEmpty && !more.isEmpty
    | _ => false
  | _ => false

/-- What is wrong with a host in brackets. -/
def bracketFault? (text : List Char) : Option Fault :=
  if text.head? = some 'v' then
    if isFuture text then none else some (.badAddress "IPvFuture address is invalid")
  else if isShort text then some (.badAddress "An IPv4 address cannot be in brackets")
  else if isLongWithZone text then none
  else
    some (.badAddress
      (Quoted.quoted (String.ofList text) ++ " does not appear to be an IPv4 or IPv6 address"))

/-! ## Faults of a host -/

/-- The characters that hold a mark of the syntax when texts are normalised. -/
def deceptive : List Nat :=
  [0x2047, 0x2048, 0x2049, 0x2100, 0x2101, 0x2105, 0x2106, 0x2a74, 0xfe13, 0xfe16, 0xfe55, 0xfe56,
    0xfe5f, 0xfe6b, 0xff03, 0xff0f, 0xff1a, 0xff1f, 0xff20]

/-- What is wrong with a host. -/
def hostFault? (text : List Char) : Option Fault :=
  let opens := text.contains '['
  let closes := text.contains ']'
  if opens != closes then some (.badAddress "Invalid IPv6 URL")
  else
    let inside :=
      if opens then
        bracketFault? (((text.dropWhile (· ≠ '[')).drop 1).takeWhile (· ≠ ']'))
      else none
    match inside with
    | some fault => some fault
    | none =>
      if text.any (deceptive.contains ·.toNat) then
        some (.badAddress ("netloc '" ++ String.ofList text ++
          "' contains invalid characters under NFKC normalization"))
      else none

/-- Whether a source is an address. A source whose host is malformed is neither that nor a path. -/
def isAddress (source : String) : Outcome Bool :=
  let text := (source.toList.dropWhile isIgnoredInFront).filter (!isIgnored ·)
  let (name, rest) := scheme text
  match hostFault? (host rest) with
  | some fault => .error fault
  | none => .ok (name = "http".toList || name = "https".toList)

end SchemaCodegen.Url
