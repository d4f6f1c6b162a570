import JavaOutline.Level

/-!
# The log

Every part of the program that reports on its work does so in records, each with a level, the name
of the part and a message.
-/

namespace JavaOutline

/-- The parts of the program that write to the log. -/
inductive Component where
  | grammar
  | analyzer
  | traversal
deriving DecidableEq, Repr

/-- The name under which a part writes to the log. -/
def Component.name : Component → String
  | grammar => "analysis.grammar"
  | analyzer => "analysis.analyzer"
  | traversal => "analysis.traverse"

/-- One entry of the log. -/
structure LogRecord where
  level : Level
  component : Component
  message : String
deriving DecidableEq, Repr

/-- A log, oldest record first. -/
abbrev Log := List LogRecord

/-- The records that a log of some level shows. -/
def Log.atLevel (level : Level) (log : Log) : Log :=
  log.filter fun entry => level.severity ≤ entry.level.severity

/-- A record as a line of text, with a mark in place of the time. -/
def LogRecord.text (time : String) (entry : LogRecord) : String :=
  time ++ " " ++ entry.component.name ++ " " ++ entry.level.name ++ " " ++ entry.message

end JavaOutline
