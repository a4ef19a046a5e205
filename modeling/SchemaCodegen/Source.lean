import SchemaCodegen.FileTree
import SchemaCodegen.Header
import SchemaCodegen.Json.Reader
import SchemaCodegen.Remark
import SchemaCodegen.Url

/-!
# Sources of schemas

A schema is loaded from a file or from an address. A file holds text in the common encoding, whose
line ends are read as line feeds; an address is asked once and has to answer with success.
-/

namespace SchemaCodegen

open Json (Value)

/-- A span of time in seconds. -/
inductive Seconds where
  | whole (n : Int)
  | fraction (x : Double)
  deriving DecidableEq

/-- How long an answer is waited for, unless told otherwise. -/
def Seconds.default : Seconds := .fraction (.ofDecimal false 30 0)

/-- What an address is asked. -/
structure Request where
  url : String
  headers : Entries String := []
  timeout : Seconds := .default
  deriving DecidableEq

/-- What comes back. -/
inductive Response where
  | answer (status : Int) (text : String)
  | failure (reason : String)
  deriving DecidableEq

/-- The world that a run reads from: a tree of files, and whoever answers requests. -/
structure World where
  tree : FileTree
  fetch : Request → Response

namespace Source

/-- A text with a line feed for each line end. -/
def withFeeds : List Char → List Char
  | '\r' :: '\n' :: rest => '\n' :: withFeeds rest
  | '\r' :: rest => '\n' :: withFeeds rest
  | c :: rest => c :: withFeeds rest
  | [] => []

/-- The text that bytes encode. -/
def decode (content : ByteArray) : Outcome String :=
  match String.fromUTF8? content with
  | some text => .ok (String.ofList (withFeeds text.toList))
  | none => .error .undecodable

/-- Fails if a path holds the null character. -/
def checkPath (text : String) : Outcome Unit :=
  if text.toList.contains '\x00' then .error (.nullCharacter "embedded null byte") else .ok ()

theorem checkPath_eq_ok_iff {text : String} : checkPath text = .ok () ↔ '\x00' ∉ text.toList := by
  unfold checkPath
  by_cases isIn : '\x00' ∈ text.toList
  · rw [if_pos (List.contains_iff_mem.mpr isIn)]
    exact iff_of_false nofun (not_not_intro isIn)
  · rw [if_neg (by simpa using isIn)]
    exact iff_of_true rfl isIn

/-- The text of a file. -/
def readFile (tree : FileTree) (source : String) : Outcome String := do
  checkPath source
  match tree.read (.ofString source) with
  | .ok content => decode content
  | .error cause => .error (.unreadable source cause)

/-- The text at an address. -/
def fetched (url : String) : Response → Outcome String
  | .answer status text =>
    if status = 200 then .ok text else .error (.unfetched url s!"HTTP {status}")
  | .failure reason => .error (.unfetched url reason)

/-- The value of a text that should be a schema. -/
def decodeJson (source text : String) : Outcome Value :=
  match Json.parse text with
  | .ok value => .ok value
  | .error (.tooManyDigits count) => .error (.tooManyDigits (.tooManyDigits count))
  | .error .tooDeep => .error .tooDeep
  | .error cause => .error (.notJson source cause)

/-- The text of a source. -/
def text (world : World) (request : Request) : Outcome String := do
  if ← Url.isAddress request.url then fetched request.url (world.fetch request)
  else readFile world.tree request.url

/-- The value of a source; the request names it, be it an address or a path. -/
def load (world : World) (request : Request) : Outcome Value := do
  decodeJson request.url (← text world request)

/-- The requests that are made for a source: one if it is an address. -/
def requests (request : Request) : List Request :=
  match Url.isAddress request.url with
  | .ok true => [request]
  | _ => []

/-- What is noted while a source is loaded. -/
def remarks (request : Request) : List Remark :=
  (requests request).map fun r => ⟨.debug, .loading, s!"Fetching schema from {r.url}"⟩

end Source

end SchemaCodegen
