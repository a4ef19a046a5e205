import SchemaCodegen.CommandLine.Usage
import SchemaCodegen.Text.Similarity

/-!
# Words of the command line

The words after the command are options with their values and arguments, in any order. A word that
begins with two dashes names an option, and a value may follow it after an equals sign. A word that
begins with one dash holds letters of options, the last of which may have its value behind it. Two
dashes alone end the options.
-/

namespace SchemaCodegen.CommandLine

/-- An option as it is used. -/
structure Use where
  parameter : Parameter
  value : Option String := none
  deriving DecidableEq

/-- The options and the arguments of a command line, each in their order. -/
structure Words where
  uses : List Use := []
  arguments : List String := []
  deriving DecidableEq

namespace Words

/-- An option that still needs the next word as its value, and how it was spelled. -/
structure Pending where
  parameter : Parameter
  name : String

/-- The uses in one word, and the option that the next word belongs to. -/
abbrev Opening := List Use × Option Pending

/-- The names of options that are like a text, in their order. -/
def alike (name : String) : List String :=
  (Similarity.closest 3 name (Parameter.all.map Parameter.long)).mergeSort fun a b => a ≤ b

/-- A word that names an option. -/
def named (word : String) : Except Misuse Opening :=
  let cs := word.toList
  let name := String.ofList (cs.takeWhile (· ≠ '='))
  let value? := match cs.dropWhile (· ≠ '=') with
    | [] => none
    | _ :: value => some (String.ofList value)
  match Parameter.ofLong? name, value? with
  | none, _ => .error (.noSuchOption name (alike name))
  | some parameter, none =>
    if parameter.takesValue then .ok ([], some ⟨parameter, name⟩) else .ok ([{ parameter }], none)
  | some parameter, some value =>
    if parameter.takesValue then .ok ([{ parameter, value }], none) else .error (.takesNoValue name)

/-- The letters of a word with one dash. -/
def lettered : List Char → Except Misuse Opening
  | [] => .ok ([], none)
  | letter :: rest =>
    match Parameter.ofLetter? letter with
    | none => .error (.noSuchOption (Parameter.short letter) [])
    | some parameter =>
      if !parameter.takesValue then
        (lettered rest).map fun (uses, pending) => ({ parameter } :: uses, pending)
      else if rest.isEmpty then .ok ([], some ⟨parameter, Parameter.short letter⟩)
      else .ok ([{ parameter, value := some (String.ofList rest) }], none)

/-- The uses in a word, or none if it is an argument. -/
def opening? (word : String) : Option (Except Misuse Opening) :=
  match word.toList with
  | ['-'] => none
  | '-' :: '-' :: _ => some (named word)
  | '-' :: letters => some (lettered letters)
  | _ => none

/-- Words with further uses in front. -/
def withUses (uses : List Use) (words : Words) : Words := { words with uses := uses ++ words.uses }

/-- Words with a further argument in front. -/
def withArgument (argument : String) (words : Words) : Words :=
  { words with arguments := argument :: words.arguments }

/-- The words of a command line. The first argument is the option that the first word belongs to. -/
def read : Option Pending → List String → Except Misuse Words
  | some pending, [] => .error (.needsValue pending.name)
  | none, [] => .ok {}
  | some pending, value :: rest =>
    (read none rest).map (withUses [⟨pending.parameter, some value⟩])
  | none, word :: rest =>
    if word = "--" then .ok { arguments := rest }
    else
      match opening? word with
      | none => (read none rest).map (withArgument word)
      | some (.error misuse) => .error misuse
      | some (.ok (uses, pending)) => (read pending rest).map (withUses uses)

/-- The words of a command line. -/
def ofList (words : List String) : Except Misuse Words := read none words

/-- The last value of an option. -/
def value? (words : Words) (parameter : Parameter) : Option String :=
  ((words.uses.filter (·.parameter = parameter)).getLast?).bind (·.value)

/-- All values of an option. -/
def values (words : Words) (parameter : Parameter) : List String :=
  (words.uses.filter (·.parameter = parameter)).filterMap (·.value)

/-- Whether an option is used. -/
def has (words : Words) (parameter : Parameter) : Bool :=
  words.uses.any (·.parameter = parameter)

/-- The options that are used, each where it is used first. -/
def parameters (words : Words) : List Parameter :=
  (words.uses.map (·.parameter)).foldl
    (fun seen parameter => if parameter ∈ seen then seen else seen ++ [parameter]) []

end Words

end SchemaCodegen.CommandLine
