import ChartCompiler.Failure

/-!
# Logged computations

A `Run` is a computation that writes log records and then returns a result or fails. Records
written before a failure are kept. All records are collected; what a log shows is selected from
them by a level.
-/

namespace ChartCompiler

/-- How much attention a log record asks for. -/
inductive Severity where
  | debug
  | info
  | warning
  | error
  deriving DecidableEq

namespace Severity

def name : Severity → String
  | .debug => "DEBUG"
  | .info => "INFO"
  | .warning => "WARNING"
  | .error => "ERROR"

def rank : Severity → Int
  | .debug => 10
  | .info => 20
  | .warning => 30
  | .error => 40

end Severity

/-- The part of the compiler that writes a record. -/
structure LogSource where
  name : String

namespace LogSource

def projection : LogSource := ⟨"plot2vega.projection"⟩
def analysis : LogSource := ⟨"plot2vega.analyzer"⟩
def parameters : LogSource := ⟨"plot2vega.vega_codegen.fragment"⟩
def plainLayers : LogSource := ⟨"plot2vega.vega_codegen.geoms"⟩
def statisticLayers : LogSource := ⟨"plot2vega.vega_codegen.stats"⟩
def drawing : LogSource := ⟨"plot2vega.vega_codegen.builders"⟩
def assembly : LogSource := ⟨"plot2vega.assembler"⟩
def legend : LogSource := ⟨"plot2vega.legend"⟩
def compilation : LogSource := ⟨"plot2vega.compiler"⟩
def files : LogSource := ⟨"plot2vega.export"⟩
def commandLine : LogSource := ⟨"plot2vega.__main__"⟩

end LogSource

/-- The text of a record; some records tell how long a step took. -/
inductive LogMessage where
  | plain (text : String)
  | timed (before after : String)

/-- The text of a record, given the text for the time that passed. -/
def LogMessage.render (elapsed : String) : LogMessage → String
  | .plain text => text
  | .timed before after => before ++ elapsed ++ after

/-- A log record. A record that is `detailed` is written only where debug records are shown,
whatever its own severity. -/
structure LogRecord where
  severity : Severity
  source : LogSource
  message : LogMessage
  detailed : Bool := false

/-- Whether a log with the given lowest rank shows a record. -/
def LogRecord.shownFrom (rank : Int) (record : LogRecord) : Bool :=
  rank ≤ record.severity.rank && (!record.detailed || rank ≤ Severity.debug.rank)

/-- A computation that writes log records, then returns a result or fails. -/
structure Run (α : Type) where
  records : List LogRecord
  outcome : Except Failure α

namespace Run

def pure (value : α) : Run α := ⟨[], .ok value⟩

def bind (first : Run α) (next : α → Run β) : Run β :=
  match first.outcome with
  | .error failure => ⟨first.records, .error failure⟩
  | .ok value =>
      let rest := next value
      ⟨first.records ++ rest.records, rest.outcome⟩

instance : Monad Run where
  pure := Run.pure
  bind := Run.bind

instance : MonadLift (Except Failure) Run where
  monadLift outcome := ⟨[], outcome⟩

def fail (failure : Failure) : Run α := ⟨[], .error failure⟩

def log (severity : Severity) (source : LogSource) (text : String) : Run Unit :=
  ⟨[⟨severity, source, .plain text, false⟩], .ok ()⟩

def debug : LogSource → String → Run Unit := log .debug
def info : LogSource → String → Run Unit := log .info
def warn : LogSource → String → Run Unit := log .warning

end Run

end ChartCompiler
