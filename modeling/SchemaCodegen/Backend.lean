import SchemaCodegen.Dart.Unit
import SchemaCodegen.Python.Forming

/-!
# Backends

A backend renders units in the language of its configuration, one after the other. What was noted
while one unit was formed is still there when the next is asked for, also if the first could not be
formed.
-/

namespace SchemaCodegen

/-- A unit before it is written. -/
inductive Draft where
  | dart (library : Dart.Library)
  | python (module : Python.Module)

/-- A unit as it is written. -/
def Draft.written : Draft → String
  | .dart library => library.written
  | .python module => module.written

/-- What renders units in the language of a configuration. -/
structure Backend where
  config : Config
  /-- The helpers that were noted since a unit was last begun. -/
  noted : List Python.Helper := []

namespace Backend

/-- The unit of models in the file of a stem, and the backend after it. Models at hand are not
imported. -/
def draft (backend : Backend) (models : List Model) (fileStem : String) (atHand : List String) :
    Outcome Draft × Backend :=
  let config := backend.config
  match config.language with
  | .dart => (Draft.dart <$> Dart.Library.ofModels config models fileStem atHand, backend)
  | .python =>
    let (module, noted) := (Python.Forming.module config models atHand).run.run backend.noted
    (Draft.python <$> module, { backend with noted })

/-- The text of the type of a field, and the backend after it. -/
def typeText (backend : Backend) (type : FieldType) (nullable : Bool) : String × Backend :=
  match backend.config.language with
  | .dart => (Dart.nullableType type nullable, backend)
  | .python =>
    (Python.nullableType type nullable,
      { backend with noted := Python.Forming.noting backend.noted (Python.Helper.ofType type) })

/-- What a backend can be asked for. -/
inductive Call where
  | unit (models : List Model) (fileStem : String) (atHand : List String)
  | typeText (type : FieldType) (nullable : Bool)

/-- A backend after a call, whether or not there was an answer. -/
def after (backend : Backend) : Call → Backend
  | .unit models fileStem atHand => (backend.draft models fileStem atHand).2
  | .typeText type nullable => (backend.typeText type nullable).2

/-- A backend after some calls. -/
def afterAll (backend : Backend) (calls : List Call) : Backend := calls.foldl after backend

end Backend

/-- Models as one unit. -/
def renderUnit (config : Config) (models : List Model) (fileStem : String)
    (atHand : List String) : Outcome String :=
  Draft.written <$> (Backend.draft { config } models fileStem atHand).1

end SchemaCodegen
