import PlainSpec.Text.Case

/-!
# Log records

A record of the log has a level, which is a number with a name. Records below the level that is in force
are dropped.
-/

namespace PlainSpec

/-- The **named levels**, each with its number and its colour. -/
inductive Severity
  | debug
  | info
  | warning
  | error
  | critical
  deriving DecidableEq, Repr, Inhabited

namespace Severity

/-- All severities. -/
def all : List Severity := [debug, info, warning, error, critical]

/-- The **number** of a severity. -/
def level : Severity → Nat
  | debug => 10
  | info => 20
  | warning => 30
  | error => 40
  | critical => 50

/-- The **name** of a severity. -/
def name : Severity → Text
  | debug => "DEBUG"
  | info => "INFO"
  | warning => "WARNING"
  | error => "ERROR"
  | critical => "CRITICAL"

/-- The sequence that switches a terminal to the **colour** of a severity. -/
def colour : Severity → Text
  | debug => "\x1b[36m"
  | info => "\x1b[32m"
  | warning => "\x1b[33m"
  | error => "\x1b[31m"
  | critical => "\x1b[31m\x1b[1m"

end Severity

/-- A **record** of the log. -/
structure LogRecord where
  severity : Severity
  message : Text
  deriving DecidableEq, Repr

/-- The sequence that switches a terminal back to **no colour**. -/
def colourReset : Text := "\x1b[0m"

/-- The severity with a number. -/
def Severity.ofLevel? (level : Int) : Option Severity := Severity.all.find? fun s => (s.level : Int) == level

/-- The **name of a level**. -/
def levelName (level : Int) : Text :=
  match Severity.ofLevel? level with
  | some severity => severity.name
  | none => if level = 0 then "NOTSET" else "Level " ++ Text.ofInt level

/-- The names by which a level may be **asked for**, and their numbers. -/
def levelNames : List (Text × Nat) :=
  let others : List (Text × Nat) := [("FATAL", 50), ("WARN", 30), ("NOTSET", 0)]
  Severity.all.map (fun s => (s.name, s.level)) ++ others

/-- The level that a name in any case **asks for**; an unknown name asks for the level of information. -/
def levelOfName (name : Text) : Nat :=
  (levelNames.lookup (Text.upper name)).getD Severity.info.level

/-- The level in force: by the name that was **set**, or else by the environment, or else that of
information. -/
def levelInForce (set environment : Option Text) : Nat :=
  match set with
  | some name => if name.isEmpty then levelOfName (environment.getD Severity.info.name) else levelOfName name
  | none => levelOfName (environment.getD Severity.info.name)

/-- A record **as a line**: the level in its colour, the logger and the message. -/
def logLine (logger : Text) (level : Int) (message : Text) : Text :=
  let colour := (Severity.ofLevel? level).elim [] Severity.colour
  colour ++ levelName level ++ colourReset ++ " [" ++ logger ++ "] " ++ message

/-- The records that a level **lets through**. -/
def LogRecord.passing (level : Nat) (records : List LogRecord) : List LogRecord :=
  records.filter fun record => level ≤ record.severity.level

end PlainSpec
