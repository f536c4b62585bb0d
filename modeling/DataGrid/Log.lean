/-!
What is reported besides an answer: notes of a level and a text, in the order in which they were made.
-/

namespace DataGrid

inductive LogLevel where
  | debug | info | warning | error
  deriving DecidableEq, Repr

def LogLevel.word : LogLevel → String
  | .debug => "DEBUG"
  | .info => "INFO"
  | .warning => "WARNING"
  | .error => "ERROR"

structure Note where
  level : LogLevel
  text : String
  deriving DecidableEq, Repr

abbrev Log := List Note

end DataGrid
