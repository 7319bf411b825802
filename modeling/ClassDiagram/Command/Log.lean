/-!
# Log settings

How much a run logs and in what form is chosen by words. The words of the
command line have to match exactly; the word for the form may also come from
the environment, and there upper and lower case are the same.
-/

namespace ClassDiagram.Command

/-- How much is logged. -/
inductive LogLevel where
  | trace
  | debug
  | info
  | warn
  | error
deriving DecidableEq, Repr

namespace LogLevel

/-- The word for the level. -/
def name : LogLevel → String
  | trace => "trace"
  | debug => "debug"
  | info => "info"
  | warn => "warn"
  | error => "error"

/-- All levels, the most talkative first. -/
def all : List LogLevel := [trace, debug, info, warn, error]

/-- The level for which the word stands. -/
def ofName? (word : String) : Option LogLevel := all.find? (·.name = word)

end LogLevel

/-- The form in which lines are logged. -/
inductive LogFormat where
  | compact
  | pretty
  | json
deriving DecidableEq, Repr

namespace LogFormat

/-- The word for the form. -/
def name : LogFormat → String
  | compact => "compact"
  | pretty => "pretty"
  | json => "json"

/-- All forms. -/
def all : List LogFormat := [compact, pretty, json]

/-- The form for which the word stands. -/
def ofName? (word : String) : Option LogFormat := all.find? (·.name = word)

/-- The form for which the word stands, in any mixture of upper and lower case
letters. The lower case of a character beyond ASCII is never a letter of one of
the words, so only ASCII letters matter. -/
def ofWord? (word : String) : Option LogFormat :=
  all.find? fun format => format.name.toList = word.toList.map Char.toLower

/-- What is wrong with a word that stands for no form. -/
def unknownMessage (word : String) : String := "Unknown log format: " ++ word

/-- Why logging does not start if the word stands for no form. -/
def startMessage (word : String) : String := "Invalid log format: " ++ unknownMessage word

end LogFormat

end ClassDiagram.Command
