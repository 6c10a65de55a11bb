import FlatTables.Telemetry.Metrics
import FlatTables.Telemetry.Span

/-!
# Signals

Everything the engine lets the outside know besides its results: log entries, spans that open and
spans that are finished, and observations, in the order in which they arise. A span that is finished
while others are open lies inside the one that was opened last.
-/

namespace FlatTables
namespace Telemetry

/-- A log entry, a span with some name that opens, a finished span or an observation. -/
inductive Signal
  | log (entry : Entry)
  | opening (name : String)
  | span (span : Span)
  | observation (observation : Observation)
  deriving DecidableEq, Repr

namespace Signal

/-- The signal of an event outside statements. -/
def event (event : Event) : Signal :=
  .log { event }

/-- Signals that arise in a span: it opens before them and is finished after them. -/
def inSpan (name : String) (signals : List Signal) (span : Span) : List Signal :=
  .opening name :: signals ++ [.span span]

/-- Put log entries into the context of a statement. -/
def within (context : Context) : Signal → Signal
  | .log entry => .log { entry with context := some context }
  | signal => signal

end Signal

/-- The log entries among signals that weigh at least a threshold. -/
def entries (threshold : Nat) (signals : List Signal) : List Entry :=
  signals.filterMap fun
    | .log entry => if threshold ≤ entry.event.level.weight then some entry else none
    | _ => none

/-- The spans among signals. -/
def spans (signals : List Signal) : List Span :=
  signals.filterMap fun
    | .span span => some span
    | _ => none

/-- The finished spans among signals, each with the name of the span it lies in, if there is one.
The names of the spans that are open before the signals are given, the innermost first. -/
def enclosedSpans (opened : List String) : List Signal → List (Span × Option String)
  | [] => []
  | .opening name :: rest => enclosedSpans (name :: opened) rest
  | .span span :: rest => (span, opened.tail.head?) :: enclosedSpans opened.tail rest
  | _ :: rest => enclosedSpans opened rest

/-- The observations among signals. -/
def observations (signals : List Signal) : List Observation :=
  signals.filterMap fun
    | .observation observation => some observation
    | _ => none

end Telemetry
end FlatTables
