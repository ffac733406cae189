/-
# Calculator.Session — lines one after another

A session remembers the values of variables and the lines that had a value.  Each line is answered
from what it asks for.  Only evaluating a line can change the session: its assignments take effect,
and the line joins the history if it had a value.
-/

import Calculator.Interpret
import Calculator.Session.Command
import Calculator.Session.History

namespace Calculator

/-- How many lines a history has room for when nothing else is asked for. -/
def History.defaultCapacity : Nat := 10

/-- What a session is started with. -/
structure Session.Config where
  separators : Separators := .standard
  historySize : Nat := History.defaultCapacity
  deriving DecidableEq

/-- What a session remembers. -/
structure Session where
  separators : Separators
  environment : Environment
  history : History

/-- The answer to a line. -/
inductive Reply where
  | nothing
  | value (value : Float)
  | environment (text : String)
  | history (entries : List String)
  | quit
  deriving DecidableEq

namespace Session

/-- A session at its start. -/
def start (config : Config) : Session :=
  ⟨config.separators, .empty, .empty config.historySize⟩

/-- The answer to an expression, and the session after it. -/
def evaluate (session : Session) (text : String) : Except Error Reply × Session :=
  match session.separators.interpret text session.environment with
  | (.error error, environment) => (.error error, { session with environment })
  | (.ok value, environment) =>
    (.ok (.value value), { session with environment, history := session.history.push text })

/-- The answer to a line, and the session after it. -/
def handle (session : Session) (line : String) : Except Error Reply × Session :=
  match Command.ofLine line with
  | .empty => (.ok .nothing, session)
  | .environment => (.ok (.environment session.environment.text), session)
  | .history => (.ok (.history session.history.entries), session)
  | .quit => (.ok .quit, session)
  | .evaluate text => session.evaluate text

/-- The records that handling a line leaves in a log: those of its parser. -/
def log (session : Session) (line : String) : List Log.Record :=
  match Command.ofLine line with
  | .evaluate text => (session.separators.parse text).events.map Parse.Event.record
  | _ => []

end Session

end Calculator
