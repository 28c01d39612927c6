import SchemaCodegen.Column.Stream
import SchemaCodegen.Options.Basic
import SchemaCodegen.Vocabulary.Target

/-!
# Failures of generation

Why a unit or a whole request yields no source.
-/

namespace SchemaCodegen

inductive GenerationError where
  /-- The options do not fit the style. -/
  | invalidOptions (style : Style) (fault : OptionsFault)
  /-- No target has these names. -/
  | unsupportedTarget (language style : String)
  /-- The columns of a table cannot be read. -/
  | stream (table : String) (cause : StreamError)
deriving DecidableEq, Repr

namespace GenerationError

def message : GenerationError → String
  | invalidOptions style fault =>
    "invalid options for style '" ++ style.name ++ "': " ++ fault.message
  | unsupportedTarget language style =>
    "unsupported language/style '" ++ language ++ "/" ++ style ++ "'"
  | stream table _ => "failed to read columns of table '" ++ table ++ "'"

/-- The code under which the failure is documented. -/
def code : GenerationError → String
  | invalidOptions .. => "typegen::invalid_options"
  | unsupportedTarget .. => "typegen::unsupported_target"
  | stream .. => "typegen::stream_error"

def help : GenerationError → Option String
  | invalidOptions .. => some "options must be a JSON object whose values are booleans"
  | unsupportedTarget .. => some "run 'typegen list' to see the supported language/style pairs"
  | stream .. => none

end GenerationError

end SchemaCodegen
