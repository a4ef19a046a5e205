import SchemaCodegen.Python.Grammar.Pattern
import SchemaCodegen.Python.Grammar.Target

/-!
# The grammar of statements

The phrases of statements, and the grammar as a whole.
-/

namespace SchemaCodegen.Python

namespace Grammar

open Phrase

/-! ## Simple statements -/

/-- What is assigned. -/
def assigned : Piece := oneOf [.rule .yielding, expressions]

/-- The signs of assignments that use the old value. -/
def updateOperator : Piece :=
  oneOf (["+=", "-=", "*=", "@=", "/=", "%=", "&=", "|=", "^=", "<<=", ">>=", "**=", "//="].map sign)

/-- An assignment: with an annotation, to targets, or of an updated value. -/
def assignment : Piece :=
  let toTargets := series [targets, sign "="]
  oneOf [
    series [.rule .single,
      oneOf [
        series [sign ":", .rule .expression, optional (series [sign "=", assigned])],
        series [updateOperator, assigned]]],
    series [Phrase.some toTargets, assigned, .notAhead (sign "=")]]

/-- A name that may be given to what is imported. -/
def renamed : Piece := optional (series [word "as", name])

/-- An import of modules, or of names from a module. -/
def importing : Piece :=
  let names := separated comma (series [name, renamed])
  let dots := oneOf [sign ".", sign "..."]
  oneOf [
    series [word "import", separated comma (series [dotted, renamed])],
    series [word "from", oneOf [dotted, series [Phrase.some dots, optional dotted]],
      word "import",
      oneOf [sign "*", between "(" (series [names, optional comma]) ")", names]]]

/-- A statement that begins with a word of its own. -/
def worded : Piece :=
  let declared := separated comma name
  oneOf [
    word "pass", word "break", word "continue",
    series [word "return", optional expressions],
    importing,
    series [word "raise",
      optional (series [.rule .expression, optional (series [word "from", .rule .expression])])],
    series [word "assert", .rule .expression, optional (series [comma, .rule .expression])],
    series [word "del", commaListed (.rule .deleted)],
    series [word "global", declared],
    series [word "nonlocal", declared],
    .rule .yielding]

/-- A statement without a block. -/
def simple : Piece := oneOf [assignment, expressions, worded]

/-- Simple statements on one line. -/
def simpleLine : Piece := series [.listed (sign ";") simple, newline]

/-! ## Statements with blocks -/

/-- The statements below a colon. -/
def block : Piece :=
  oneOf [series [newline, indent, Phrase.some (.rule .statement), dedent], simpleLine]

/-- A colon and the statements below it. -/
def below : Piece := series [sign ":", .rule .block]

/-- What is done otherwise. -/
def otherwise : Piece := optional (series [word "else", below])

/-- A conditional. -/
def conditional : Piece :=
  series [word "if", named, below, repeated (series [word "elif", named, below]), otherwise]

/-- A loop with a condition. -/
def whileLoop : Piece := series [word "while", named, below, otherwise]

/-- A loop over the items of a value. -/
def forLoop : Piece := series [word "for", targets, word "in", expressions, below, otherwise]

/-- A block with resources. -/
def withBlock : Piece :=
  let resource :=
    series [.rule .expression, optional (series [word "as", .rule .starredTarget])]
  series [word "with",
    oneOf [
      series [between "(" (commaListed resource) ")", .ahead (sign ":")],
      separated comma resource],
    below]

/-- A block that handles exceptions, one by one or in groups. -/
def tryBlock : Piece :=
  let caught := series [.rule .expression, renamed]
  let one := series [word "except", optional caught, below]
  let group := series [word "except", sign "*", caught, below]
  let finally_ := series [word "finally", below]
  series [word "try", below,
    oneOf [
      finally_,
      series [oneOf [Phrase.some group, Phrase.some one], otherwise, optional finally_]]]

/-- A choice by patterns. -/
def matchBlock : Piece :=
  let subject :=
    oneOf [
      series [starred, comma, optional (commaListed (.rule .item))],
      series [named, furtherItems (.rule .item)]]
  let case_ := series [word "case", casePattern, optional (series [word "if", named]), below]
  series [word "match", subject, sign ":", newline, indent, Phrase.some case_, dedent]

/-- A function. -/
def function : Piece :=
  series [word "def", name, between "(" (optional (parameters true (sign ")"))) ")",
    optional (series [sign "->", .rule .expression]), below]

/-- A class. -/
def classBlock : Piece :=
  series [word "class", name, optional (between "(" (optional (arguments false)) ")"), below]

/-- A function or a class, with decorators. -/
def declaration : Piece :=
  series [repeated (series [sign "@", named, newline]),
    oneOf [series [optional (word "async"), function], classBlock]]

/-- A statement. -/
def statement : Piece :=
  oneOf [
    declaration, conditional, whileLoop, tryBlock,
    series [optional (word "async"), oneOf [forLoop, withBlock]],
    matchBlock, simpleLine]

/-! ## The grammar -/

/-- What each rule says. -/
def ofRule : Grammar Token Rule
  | .expression => expression
  | .disjunction => disjunction
  | .negation => negation
  | .operand => operand
  | .factor => factor
  | .primary => primary
  | .atom => atom
  | .lambda => lambda
  | .item => item
  | .yielding => yielding
  | .target => target
  | .starredTarget => starredTarget
  | .single => single
  | .deleted => deleted
  | .pattern => pattern
  | .closedPattern => closedPattern
  | .statement => statement
  | .block => block
  | .program => repeated (.rule .statement)
  | .field => series [expressions, newline]

end Grammar

end SchemaCodegen.Python
