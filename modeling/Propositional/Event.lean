import Propositional.Notation
import Propositional.Rpn
import Propositional.Text.Quoted
import Propositional.Valuation
/-!
# Propositional.Event

What the stages of a computation report.

An **event** is one thing that happened, with the data it happened to. Its level says how much it
matters, its target names the stage that reports it, and its message puts it into words; a
`Record` is the three together. Which events a computation reports is decided where it is
computed (`Propositional.Instruments`); how they read is decided here.

Events are handed to a **facade**, which is set to a threshold and lets some of them through. The
facade is not part of the library: what it lets through is a parameter (`Facade`), and what the
library relies on is stated beside it (`Facade.Graded`).
-/

namespace Propositional

/-- How much an event matters, from the most to the least. -/
inductive Level where
  | error
  | warn
  | info
  | debug
  | trace
  deriving DecidableEq, Ord, Repr

namespace Level

/-- A smaller level matters more. -/
instance : LE Level := leOfOrd

theorem le_trace (level : Level) : level ≤ .trace := by
  cases level <;> decide

def name : Level → String
  | .error => "ERROR"
  | .warn => "WARN"
  | .info => "INFO"
  | .debug => "DEBUG"
  | .trace => "TRACE"

end Level

/-- The levels that a facade lets through, by the threshold that it is set to. -/
abbrev Facade := Option Level → Level → Bool

namespace Facade

/-- What is relied on: without a threshold nothing is let through, and with one what matters at
least as much. -/
structure Graded (facade : Facade) : Prop where
  off : ∀ level, facade none level = false
  upTo : ∀ threshold level, facade (some threshold) level = true ↔ level ≤ threshold

/-- A facade that compares levels. It stands in where no facade is given. -/
def comparing : Facade := fun threshold level => threshold.any (level ≤ ·)

theorem graded_comparing : comparing.Graded :=
  ⟨fun _ => rfl, fun _ _ => decide_eq_true_iff⟩

end Facade

/-- Something that a stage reports. -/
inductive Event where
  /-- A text was brought from one notation into another. -/
  | converted (text : Text) (source : Notation) (result : Text) (target : Notation)
  | noVariables (text : Text)
  | variablesFound (text : Text) (vars : VariableSet)
  /-- A text has more variables than the limit admits. -/
  | overLimit (text : Text) (found limit : Nat)
  | compiled (text : Text) (rpn : Rpn)
  /-- An evaluation ended with another number of values than one. -/
  | unsettled (rpn : Rpn) (count : Nat)
  | row (inputs : Valuation) (output : Bool)
  | tabulated (rows : Nat) (text : Text)
  deriving DecidableEq, Repr

namespace Event

/-- How much an event matters. -/
def level : Event → Level
  | .overLimit .. => .warn
  | .unsettled .. | .row .. => .trace
  | .converted .. | .noVariables .. | .variablesFound .. | .compiled .. | .tabulated .. => .debug

/-- The stage that reports an event. -/
def target : Event → String
  | .converted .. => "normalize"
  | .noVariables .. | .variablesFound .. => "extract"
  | .compiled .. => "compile"
  | .unsettled .. => "evaluate"
  | .overLimit .. | .row .. | .tabulated .. => "table"

/-- A text in quotes, for messages. -/
def quote (text : Text) : String := String.ofList text.quoted

/-- The sentence that reports an event. -/
def message : Event → String
  | .converted text source result target =>
    quote text ++ " (" ++ source.name ++ ") normalized to " ++ quote result ++ " (" ++
      target.name ++ ")."
  | .noVariables text => "No variables in " ++ quote text ++ "."
  | .variablesFound text vars => "Variables of " ++ quote text ++ ": " ++ vars.display
  | .overLimit text found limit =>
    "Formula " ++ quote text ++ " has " ++ toString found ++ " variables, limit is " ++
      toString limit ++ "."
  | .compiled text rpn => quote text ++ " compiled to " ++ quote rpn.text ++ "."
  | .unsettled rpn count =>
    String.ofList rpn.text ++ " leaves " ++ toString count ++ " values on the stack."
  | .row inputs output => inputs.display ++ " -> " ++ if output then "true" else "false"
  | .tabulated rows text => "Generated " ++ toString rows ++ " rows for " ++ quote text ++ "."

end Event

/-- An event in words. -/
structure Record where
  level : Level
  target : String
  message : String
  deriving DecidableEq, Repr

/-- An event in words. -/
def Event.record (event : Event) : Record := ⟨event.level, event.target, event.message⟩

/-- The records of the events that a facade lets through, in order. -/
def Event.records (threshold : Option Level) (events : List Event)
    (facade : Facade := .comparing) : List Record :=
  (events.filter fun event => facade threshold event.level).map Event.record

end Propositional
