import SchemaCodegen.Proofs.Outcome
import SchemaCodegen.Proofs.ReadTexts
import SchemaCodegen.Source

/-!
# How loading a schema fails

Loading is documented to fail when a source cannot be read, cannot be fetched or is no JSON. It fails
otherwise for names that are neither an address nor a path, for files that hold no text, and for texts
that are refused for their size.
-/

namespace SchemaCodegen

open Outcome (FailsBy failsBy_ok failsBy_error failsBy_bind_iff)

/-! ## Addresses -/

namespace Url

/-- Whether a character can make a host malformed. -/
def IsSuspect (c : Char) : Prop := c = '[' ∨ c = ']' ∨ c.toNat ∈ deceptive

theorem host_sublist (text : List Char) : (host text).Sublist text := by
  unfold host
  split
  · exact (List.takeWhile_sublist _).trans (List.sublist_append_right ['/', '/'] _)
  · exact List.nil_sublist _

theorem scheme_sublist (text : List Char) : (scheme text).2.Sublist text := by
  unfold scheme
  dsimp only
  split
  · exact List.drop_sublist _ _
  · exact List.Sublist.refl _

theorem hostFault?_eq_none {text : List Char} (plain : ∀ c ∈ text, ¬IsSuspect c) :
    hostFault? text = none := by
  have noOpen : text.contains '[' = false := by
    simpa using fun isIn => plain _ isIn (.inl rfl)
  have noClose : text.contains ']' = false := by
    simpa using fun isIn => plain _ isIn (.inr (.inl rfl))
  have noneDeceptive : text.any (deceptive.contains ·.toNat) = false := by
    rw [List.any_eq_false]
    intro c isIn
    simpa using fun isDeceptive => plain c isIn (.inr (.inr isDeceptive))
  unfold hostFault?
  simp only [noOpen, noClose, noneDeceptive]
  rfl

/-- A source without such characters is an address or a path. -/
theorem exists_isAddress {source : String} (plain : ∀ c ∈ source.toList, ¬IsSuspect c) :
    ∃ isOne, isAddress source = .ok isOne := by
  have ofHost : ∀ c ∈ host (scheme ((source.toList.dropWhile isIgnoredInFront).filter
      (!isIgnored ·))).2, ¬IsSuspect c := by
    intro c isIn
    apply plain
    have isOfText := (scheme_sublist _).subset ((host_sublist _).subset isIn)
    exact (List.dropWhile_sublist _).subset (List.mem_of_mem_filter isOfText)
  unfold isAddress
  dsimp only
  rw [hostFault?_eq_none ofHost]
  exact ⟨_, rfl⟩

theorem bracketFault?_eq_some {text : List Char} {fault : Fault}
    (found : bracketFault? text = some fault) : ∃ reason, fault = .badAddress reason := by
  unfold bracketFault? at found
  split at found
  · split at found <;> cases found
    exact ⟨_, rfl⟩
  split at found
  · cases found
    exact ⟨_, rfl⟩
  split at found <;> cases found
  exact ⟨_, rfl⟩

theorem hostFault?_eq_some {text : List Char} {fault : Fault}
    (found : hostFault? text = some fault) : ∃ reason, fault = .badAddress reason := by
  unfold hostFault? at found
  dsimp only at found
  split at found
  · cases found
    exact ⟨_, rfl⟩
  split at found
  next inside isInside =>
    cases found
    split at isInside
    · exact bracketFault?_eq_some isInside
    · cases isInside
  next =>
    split at found <;> cases found
    exact ⟨_, rfl⟩

theorem isAddress_eq_error {source : String} {fault : Fault}
    (failed : isAddress source = .error fault) : ∃ reason, fault = .badAddress reason := by
  unfold isAddress at failed
  dsimp only at failed
  split at failed
  next found =>
    cases failed
    exact hostFault?_eq_some found
  next => cases failed

end Url

/-! ## Sources -/

/-- Whether a fault is of the family that loading is documented to fail by. -/
def Fault.IsOfLoading : Fault → Prop
  | .unreadable _ _ | .notJson _ _ | .unfetched _ _ => True
  | _ => False

namespace Source

open Json.Reader (openers HasDigits maxDigits maxDepth)

variable {world : World} {request : Request}

/-- Whether a source can be told to be an address or a path that can be asked for, and a file that it
names holds text. -/
structure IsTextual (world : World) (request : Request) : Prop where
  address : ∃ isOne, Url.isAddress request.url = .ok isOne
  path : Url.isAddress request.url = .ok false → '\x00' ∉ request.url.toList
  content : Url.isAddress request.url = .ok false → ∀ content,
    world.tree.read (.ofString request.url) = .ok content → (String.fromUTF8? content).isSome = true

theorem failsBy_fetched (url : String) (response : Response) :
    FailsBy Fault.IsOfLoading (fetched url response) := by
  unfold fetched
  split
  · split
    · exact failsBy_ok _
    · exact failsBy_error trivial
  · exact failsBy_error trivial

theorem failsBy_checkPath_iff (text : String) :
    FailsBy Fault.IsOfLoading (checkPath text) ↔ '\x00' ∉ text.toList := by
  rw [← checkPath_eq_ok_iff]
  unfold checkPath
  split
  · exact iff_of_false (fun failsBy => failsBy _ rfl) nofun
  · exact iff_of_true (failsBy_ok _) rfl

theorem failsBy_decode_iff (content : ByteArray) :
    FailsBy Fault.IsOfLoading (decode content) ↔ (String.fromUTF8? content).isSome = true := by
  unfold decode
  cases String.fromUTF8? content with
  | some text => exact iff_of_true (failsBy_ok _) rfl
  | none => exact iff_of_false (fun failsBy => failsBy _ rfl) (by simp)

theorem failsBy_readFile_iff (tree : FileTree) (source : String) :
    FailsBy Fault.IsOfLoading (readFile tree source) ↔ '\x00' ∉ source.toList ∧
      ∀ content, tree.read (.ofString source) = .ok content →
        (String.fromUTF8? content).isSome = true := by
  unfold readFile
  rw [failsBy_bind_iff, failsBy_checkPath_iff]
  refine and_congr_right fun noNull => ?_
  have passes := checkPath_eq_ok_iff.mpr noNull
  cases tree.read (.ofString source) with
  | error cause => exact iff_of_true (fun _ _ => failsBy_error trivial) nofun
  | ok content => simp [passes, failsBy_decode_iff]

theorem failsBy_isAddress_iff (source : String) :
    FailsBy Fault.IsOfLoading (Url.isAddress source) ↔ ∃ isOne, Url.isAddress source = .ok isOne := by
  cases given : Url.isAddress source with
  | ok isOne => exact iff_of_true (failsBy_ok _) ⟨isOne, rfl⟩
  | error fault =>
    obtain ⟨reason, rfl⟩ := Url.isAddress_eq_error given
    exact iff_of_false (fun failsBy => failsBy _ rfl) nofun

theorem failsBy_text_iff : FailsBy Fault.IsOfLoading (Source.text world request) ↔
    IsTextual world request := by
  unfold Source.text
  rw [failsBy_bind_iff, failsBy_isAddress_iff]
  constructor
  · rintro ⟨address, ofSource⟩
    have ofFile := fun isPath => (failsBy_readFile_iff _ _).mp (ofSource false isPath)
    exact ⟨address, fun isPath => (ofFile isPath).1, fun isPath => (ofFile isPath).2⟩
  · rintro ⟨address, path, content⟩
    refine ⟨address, ?_⟩
    rintro (_ | _) given
    · exact (failsBy_readFile_iff _ _).mpr ⟨path given, content given⟩
    · exact failsBy_fetched _ _

theorem failsBy_decodeJson_iff (source text : String) :
    FailsBy Fault.IsOfLoading (decodeJson source text) ↔ Json.IsWithinLimits text := by
  unfold decodeJson Json.IsWithinLimits
  cases Json.parse text with
  | ok value => exact iff_of_true (failsBy_ok _) nofun
  | error fault =>
    cases fault with
    | malformed cause line column offset =>
      refine iff_of_true (failsBy_error trivial) ?_
      rintro _ ⟨⟩
      exact ⟨cause, line, column, offset, rfl⟩
    | tooManyDigits count =>
      exact iff_of_false (fun failsBy => failsBy _ rfl) (by simp)
    | tooDeep => exact iff_of_false (fun failsBy => failsBy _ rfl) (by simp)

/-- A source that is loaded has the value of its text. -/
theorem load_eq_ok {value : Json.Value} : load world request = .ok value ↔
    ∃ text, Source.text world request = .ok text ∧ Json.parse text = .ok value := by
  unfold load
  rw [Outcome.bind_eq_ok]
  refine exists_congr fun text => and_congr_right fun _ => ?_
  unfold decodeJson
  split
  next isOk => rw [isOk, Except.ok.injEq, Except.ok.injEq]
  next isError => simp [isError]
  next isError => simp [isError]
  next isError => simp [isError]

/-- Whether nothing about a source is unusual: its name has no null character and none that can make a
host malformed, the file that it may name holds text, and its text has few digits in each row and few
brackets and braces. -/
structure IsPlain (world : World) (request : Request) : Prop where
  name : ∀ c ∈ request.url.toList, c ≠ '\x00' ∧ ¬Url.IsSuspect c
  content : ∀ content, world.tree.read (.ofString request.url) = .ok content →
    (String.fromUTF8? content).isSome = true
  short : ∀ text, Source.text world request = .ok text →
    ∀ count, HasDigits count text.toList → count ≤ maxDigits
  flat : ∀ text, Source.text world request = .ok text → openers text.toList ≤ maxDepth

theorem IsPlain.isTextual (plain : IsPlain world request) : IsTextual world request where
  address := Url.exists_isAddress fun c isIn => (plain.name c isIn).2
  path _ isIn := (plain.name _ isIn).1 rfl
  content _ := plain.content

/-- A source is loaded if its text is JSON, with the value of that. It fails as documented exactly if
it is textual and its text is not refused for its size, so always if nothing about it is unusual; texts
that begin with many brackets or are one long number are refused. -/
theorem load_fails_as_documented_iff (world : World) (request : Request) :
    (∀ value, load world request = .ok value ↔
      ∃ text, Source.text world request = .ok text ∧ Json.parse text = .ok value) ∧
    (FailsBy Fault.IsOfLoading (load world request) ↔ IsTextual world request ∧
      ∀ text, Source.text world request = .ok text → Json.IsWithinLimits text) ∧
    (IsPlain world request → FailsBy Fault.IsOfLoading (load world request)) ∧
    (∀ text, Source.text world request = .ok text →
      (List.replicate (maxDepth + 1) '[' <+: text.toList ∨
        text.toList.all Char.isDigit = true ∧ text.toList.head? ≠ some '0' ∧
          maxDigits < text.toList.length) →
      ¬FailsBy Fault.IsOfLoading (load world request)) := by
  have failsBy_iff : FailsBy Fault.IsOfLoading (load world request) ↔ IsTextual world request ∧
      ∀ text, Source.text world request = .ok text → Json.IsWithinLimits text := by
    unfold load
    simp only [failsBy_bind_iff, failsBy_text_iff, failsBy_decodeJson_iff]
  refine ⟨fun value => load_eq_ok, failsBy_iff, ?_, ?_⟩
  · intro plain
    refine failsBy_iff.mpr ⟨plain.isTextual, fun text given => ?_⟩
    exact Json.isWithinLimits_of_small (plain.short text given) (plain.flat text given)
  · rintro text given (⟨rest, deep⟩ | ⟨areDigits, noZero, long⟩) failsBy
    · have refused := Json.parse_too_deep rest
      rw [deep, String.ofList_toList] at refused
      exact Json.not_isWithinLimits refused nofun ((failsBy_iff.mp failsBy).2 text given)
    · have refused := Json.parse_too_long areDigits noZero long
      rw [String.ofList_toList] at refused
      exact Json.not_isWithinLimits refused nofun ((failsBy_iff.mp failsBy).2 text given)

/-- A tree with a file whose only byte begins no character. -/
def brokenWorld : World where
  tree := { entries := [(["s.json"], .file ⟨#[0xff]⟩)] }
  fetch _ := .failure "down"

/-- The file fails otherwise, and so do names that are no name. -/
theorem load_fails_otherwise :
    load brokenWorld { url := "s.json" } = .error .undecodable ∧
    load brokenWorld { url := "http://[" } = .error (.badAddress "Invalid IPv6 URL") ∧
    load brokenWorld { url := "\x00" } = .error (.nullCharacter "embedded null byte") ∧
    ¬FailsBy Fault.IsOfLoading (load brokenWorld { url := "s.json" }) := by
  have undecodable : load brokenWorld { url := "s.json" } = .error .undecodable := by
    decide +kernel
  refine ⟨undecodable, by decide +kernel, by decide +kernel, ?_⟩
  exact fun failsBy => failsBy _ undecodable

end Source

end SchemaCodegen
