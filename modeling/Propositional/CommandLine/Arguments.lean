import Propositional.Table.Rendering
import Propositional.Notation
/-!
# Propositional.CommandLine.Arguments

Reading the arguments of the command.

The command takes one formula and any number of settings around it. A setting has a short name of
one letter and a long name, and its value is a part of the same argument or the next argument:
`-f csv`, `-fcsv`, `-f=csv`, `--format csv`, `--format=csv`. An argument that begins with `-` is
never a formula and never the value in an argument of its own, a single `-` excepted; after
`--` everything is a formula.

Arguments are read from left to right. They are refused when there is no formula or more than
one, when a setting is unknown, is given twice, lacks its value or does not have it, and asking
for the version ends the reading at once.
-/

namespace Propositional.CommandLine

/-! ### Values -/

/-- The number that digits write in decimal, if there are any and nothing else. -/
def decimal? (digits : Text) : Option Nat :=
  if digits ≠ [] ∧ digits.all Char.isDigit then
    some (digits.foldl (fun n c => 10 * n + (c.toNat - '0'.toNat)) 0)
  else none

/-- The limit that a text writes: a decimal number between 0 and 65535, which may have a sign. -/
def limit? (text : Text) : Option Nat :=
  let magnitude :=
    match text with
    | '+' :: digits => decimal? digits
    | '-' :: digits => (decimal? digits).filter (· = 0)
    | digits => decimal? digits
  magnitude.filter (· ≤ 65535)

/-! ### Settings -/

/-- What can be set besides the formula. -/
inductive Setting where
  | style
  | format
  | limit
  /-- The notation to convert to, in place of a table. -/
  | target
  deriving DecidableEq, Repr

namespace Setting

/-- The name after `--`. -/
def long : Setting → String
  | .style => "notation"
  | .format => "format"
  | .limit => "max-variables"
  | .target => "convert-to"

/-- The name after `-`. -/
def short : Setting → Char
  | .style => 'n'
  | .format => 'f'
  | .limit => 'm'
  | .target => 'c'

def all : List Setting := [.style, .format, .limit, .target]

def ofLong? (name : Text) : Option Setting := all.find? (·.long.toList == name)

def ofShort? (name : Char) : Option Setting := all.find? (·.short == name)

end Setting

/-- What a single argument is. -/
inductive Argument where
  /-- A setting, perhaps with its value. -/
  | setting (s : Setting) (value? : Option Text)
  | version
  | endOfSettings
  /-- A formula, or the value of the setting before it. -/
  | operand (text : Text)
  | unknown
  deriving DecidableEq, Repr

/-- A text that may begin with `=` as a value, if it is not empty. -/
def attached? : Text → Option Text
  | [] => none
  | '=' :: value => some value
  | value => some value

/-- What a single argument is. -/
def Argument.ofText : Text → Argument
  | ['-', '-'] => .endOfSettings
  | '-' :: '-' :: body =>
    let name := body.takeWhile (· != '=')
    let value? := attached? (body.dropWhile (· != '='))
    match Setting.ofLong? name with
    | some s => .setting s value?
    | none => if name = "version".toList ∧ value? = none then .version else .unknown
  | '-' :: letter :: body =>
    match Setting.ofShort? letter with
    | some s => .setting s (attached? body)
    | none => if letter = 'V' then .version else .unknown
  | text => .operand text

/-! ### Requests -/

/-- A formula and what to do with it. -/
structure Invocation where
  formula : Text
  style : Notation := .symbolic
  format : Format := .grid
  config : Config := {}
  /-- The notation to convert to, in place of a table. -/
  target? : Option Notation := none
  deriving DecidableEq, Repr

/-- What the arguments ask for. -/
inductive Request where
  | version
  | invoke (i : Invocation)
  deriving DecidableEq, Repr

/-- The arguments read so far. -/
structure Draft where
  formula? : Option Text := none
  style? : Option Notation := none
  format? : Option Format := none
  limit? : Option Nat := none
  target? : Option Notation := none
  deriving DecidableEq, Repr

namespace Draft

/-- A place filled with a new value, unless it has one or there is none to fill it with. -/
def fill {α : Type} (place value? : Option α) : Option (Option α) :=
  match place with
  | none => value?.map some
  | some _ => none

/-- The draft with a formula, unless it has one. -/
def addFormula (draft : Draft) (text : Text) : Option Draft := do
  return { draft with formula? := ← fill draft.formula? (some text) }

/-- The draft with the value of a setting, unless the text is no value of it or the setting has
been given before. -/
def set (draft : Draft) (s : Setting) (text : Text) : Option Draft :=
  match s with
  | .style => do
    return { draft with style? := ← fill draft.style? (Notation.ofName? text) }
  | .format => do
    return { draft with format? := ← fill draft.format? (Format.ofName? text) }
  | .limit => do
    return { draft with limit? := ← fill draft.limit? (CommandLine.limit? text) }
  | .target => do
    return { draft with target? := ← fill draft.target? (Notation.ofName? text) }

/-- The request of a complete draft, which has a formula. What is not set has its usual value. -/
def finish (draft : Draft) : Option Request := do
  let formula ← draft.formula?
  return .invoke {
    formula
    style := draft.style?.getD .symbolic
    format := draft.format?.getD .grid
    config := (draft.limit?.map Config.ofLimit).getD {}
    target? := draft.target? }

/-- The request of the arguments that follow a draft, unless they are refused. -/
def complete (draft : Draft) : List Text → Option Request
  | [] => draft.finish
  | argument :: rest =>
    match Argument.ofText argument with
    | .version => some .version
    | .unknown => none
    | .endOfSettings => (rest.foldlM addFormula draft).bind finish
    | .operand text => (draft.addFormula text).bind (complete · rest)
    | .setting s (some value) => (draft.set s value).bind (complete · rest)
    | .setting s none =>
      match rest with
      | [] => none
      | value :: rest =>
        match Argument.ofText value with
        | .operand value => (draft.set s value).bind (complete · rest)
        | _ => none

end Draft

/-- What the arguments ask for, unless they are refused. -/
def request? (arguments : List Text) : Option Request := Draft.complete {} arguments

end Propositional.CommandLine
