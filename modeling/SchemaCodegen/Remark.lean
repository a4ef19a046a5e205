/-!
# Remarks

What a run notes down beside its results: the levels, who notes, and the line that is written.
-/

namespace SchemaCodegen

/-- How much a remark matters. -/
inductive Level where
  | debug
  | info
  | warning
  | error
  deriving DecidableEq, Repr

/-- The stage of the run that a remark comes from. -/
inductive Stage where
  | loading
  | reading
  | splitting
  | naming
  | references
  | generating
  | formatting
  | writing
  deriving DecidableEq, Repr

/-- A note of a run. -/
structure Remark where
  level : Level
  stage : Stage
  text : String
  deriving DecidableEq, Repr

namespace Level

/-- The name of a level in a line. -/
def name : Level → String
  | .debug => "DEBUG"
  | .info => "INFO"
  | .warning => "WARNING"
  | .error => "ERROR"

/-- Whether a level is shown without being asked for. -/
def isPlain : Level → Bool
  | .debug | .info => false
  | .warning | .error => true

end Level

/-- The name of a stage in a line. -/
def Stage.name : Stage → String
  | .loading => "json_schema_to_classes.loader"
  | .reading => "json_schema_to_classes.pipeline.parser.schema_parser"
  | .splitting => "json_schema_to_classes.pipeline.parser.conditional"
  | .naming => "json_schema_to_classes.pipeline.analyzer.name_resolver"
  | .references => "json_schema_to_classes.pipeline.analyzer.reference_resolver"
  | .generating => "json_schema_to_classes.pipeline.generator"
  | .formatting => "json_schema_to_classes.pipeline.formatters.black_formatter"
  | .writing => "json_schema_to_classes.pipeline.writer"

namespace Remark

/-- The remark as a line. -/
def line (remark : Remark) : String :=
  s!"{remark.level.name} {remark.stage.name}: {remark.text}"

/-- The lines that a run shows: all remarks, or only those that matter. -/
def shown (all : Bool) (remarks : List Remark) : List String :=
  (remarks.filter fun remark => all || remark.level.isPlain).map line

end Remark

end SchemaCodegen
