/-!
# Grammars

A grammar gives a phrase to each of its rules. Phrases are matched from the front of a list of
tokens: of two alternatives the second counts only where the first does not fit, a repetition takes
as much as it can, and a phrase can look ahead without taking anything. So at most one rest remains,
and whether a phrase fits is decided.
-/

namespace SchemaCodegen

/-- A phrase over tokens of type `τ`; the rules of its grammar have names of type `ρ`. -/
inductive Phrase (τ ρ : Type) where
  /-- Nothing. -/
  | empty
  /-- A token that passes a test. -/
  | token (test : τ → Bool)
  /-- What the rule says. -/
  | rule (name : ρ)
  /-- One phrase after the other. -/
  | both (first second : Phrase τ ρ)
  /-- The first phrase, or else the second. -/
  | either (first second : Phrase τ ρ)
  /-- A phrase as often as it fits. -/
  | repeated (phrase : Phrase τ ρ)
  /-- A phrase follows, but is not taken. -/
  | ahead (phrase : Phrase τ ρ)
  /-- A phrase does not follow. -/
  | notAhead (phrase : Phrase τ ρ)

namespace Phrase

variable {τ ρ : Type}

/-- Phrases one after the other. -/
def series : List (Phrase τ ρ) → Phrase τ ρ
  | [] => .empty
  | [phrase] => phrase
  | phrase :: rest => .both phrase (series rest)

/-- The first of some phrases that fits. No phrase fits where there is none. -/
def oneOf : List (Phrase τ ρ) → Phrase τ ρ
  | [] => .token fun _ => false
  | [phrase] => phrase
  | phrase :: rest => .either phrase (oneOf rest)

/-- A phrase that may be missing. -/
def optional (phrase : Phrase τ ρ) : Phrase τ ρ := .either phrase .empty

/-- A phrase once or more. -/
def some (phrase : Phrase τ ρ) : Phrase τ ρ := .both phrase (.repeated phrase)

/-- A phrase once or more, with marks between. -/
def separated (mark phrase : Phrase τ ρ) : Phrase τ ρ :=
  .both phrase (.repeated (.both mark phrase))

/-- The same, where a mark at the end is allowed. -/
def listed (mark phrase : Phrase τ ρ) : Phrase τ ρ :=
  .both (separated mark phrase) (optional mark)

end Phrase

/-- How a phrase compares with the front of a list of tokens. -/
inductive Match (τ : Type) where
  /-- It fits, and these tokens follow. -/
  | fits (rest : List τ)
  /-- It does not fit. -/
  | differs
  /-- The comparison was given up. -/
  | undecided
  deriving DecidableEq

/-- A grammar: what each rule says. -/
abbrev Grammar (τ ρ : Type) := ρ → Phrase τ ρ

namespace Grammar

variable {τ ρ : Type}

/-- Compares a phrase with the front of some tokens. The number bounds the nesting of phrases. -/
def compare (grammar : Grammar τ ρ) : Nat → Phrase τ ρ → List τ → Match τ
  | 0, _, _ => .undecided
  | _ + 1, .empty, tokens => .fits tokens
  | _ + 1, .token _, [] => .differs
  | _ + 1, .token test, token :: rest => if test token then .fits rest else .differs
  | depth + 1, .rule name, tokens => compare grammar depth (grammar name) tokens
  | depth + 1, .both first second, tokens =>
    match compare grammar depth first tokens with
    | .fits rest => compare grammar depth second rest
    | .differs => .differs
    | .undecided => .undecided
  | depth + 1, .either first second, tokens =>
    match compare grammar depth first tokens with
    | .fits rest => .fits rest
    | .differs => compare grammar depth second tokens
    | .undecided => .undecided
  | depth + 1, .repeated phrase, tokens =>
    match compare grammar depth phrase tokens with
    | .fits rest => compare grammar depth (.repeated phrase) rest
    | .differs => .fits tokens
    | .undecided => .undecided
  | depth + 1, .ahead phrase, tokens =>
    match compare grammar depth phrase tokens with
    | .fits _ => .fits tokens
    | .differs => .differs
    | .undecided => .undecided
  | depth + 1, .notAhead phrase, tokens =>
    match compare grammar depth phrase tokens with
    | .fits _ => .differs
    | .differs => .fits tokens
    | .undecided => .undecided

/-- How deeply phrases may nest for each token. -/
def depthPerToken : Nat := 256

/-- Whether a rule fits exactly some tokens. -/
def accepts (grammar : Grammar τ ρ) (start : ρ) (tokens : List τ) : Bool :=
  match compare grammar (depthPerToken * (tokens.length + 2)) (.rule start) tokens with
  | .fits rest => rest.isEmpty
  | .differs | .undecided => false

end Grammar

end SchemaCodegen
