import JavaOutline.Text.Blank
import JavaOutline.Text.Letter

/-!
# Log levels

The levels that a log record can have or that a reader of the log can ask for. Two pairs of names
stand for the same severity and are kept apart as they were written.
-/

namespace JavaOutline

/-- A level of the log. -/
inductive Level where
  | critical
  | fatal
  | error
  | warning
  | warn
  | info
  | debug
  | notset
deriving DecidableEq, Repr

namespace Level

/-- The name of a level. -/
def name : Level → String
  | critical => "CRITICAL"
  | fatal => "FATAL"
  | error => "ERROR"
  | warning => "WARNING"
  | warn => "WARN"
  | info => "INFO"
  | debug => "DEBUG"
  | notset => "NOTSET"

/-- How severe a record of a level is; a log shows the records at least as severe as its level. -/
def severity : Level → Nat
  | critical => 50
  | fatal => 50
  | error => 40
  | warning => 30
  | warn => 30
  | info => 20
  | debug => 10
  | notset => 0

/-- Every level. -/
def all : List Level :=
  [critical, fatal, error, warning, warn, info, debug, notset]

/-- The level that a text names, in any case and with blanks around it. -/
def read? (s : String) : Option Level :=
  all.find? (·.name == Text.upper (Text.strip s))

end Level

end JavaOutline
