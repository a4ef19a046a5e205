import SchemaCodegen.Fault
import SchemaCodegen.Text.Blank

/-!
# Headers

Headers of a request are given as `Key:Value`. Blanks around either part do not count, and a key that
is given twice has its last value.
-/

namespace SchemaCodegen.Header

/-- The key and the value of a header. -/
def read (text : String) : Outcome (String × String) :=
  let cs := text.toList
  let key := Text.trim (cs.takeWhile (· ≠ ':'))
  match cs.dropWhile (· ≠ ':') with
  | [] => .error (.badHeader text)
  | _ :: value =>
    if key.isEmpty then .error (.badHeader text)
    else .ok (String.ofList key, String.ofList (Text.trim value))

/-- The headers of a request. -/
def readAll (texts : List String) : Outcome (Entries String) := do
  return Entries.ofWrites (← texts.mapM read)

end SchemaCodegen.Header
