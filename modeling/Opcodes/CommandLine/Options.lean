import Opcodes.Settings
import Opcodes.Text

/-! The options of the command line, and what a line without a usage error asks for. -/
namespace Opcodes.CommandLine

inductive Switch where
  | strict | check | list | quiet | help | version
  deriving DecidableEq, Repr

inductive Parameter where
  | input | out | target
  deriving DecidableEq, Repr

inductive Opt where
  | switch (s : Switch)
  | parameter (p : Parameter)
  deriving DecidableEq, Repr

def Opt.ofLong? (name : String) : Option Opt :=
  if name = "input" then some (.parameter .input)
  else if name = "out" then some (.parameter .out)
  else if name = "target" then some (.parameter .target)
  else if name = "strict" then some (.switch .strict)
  else if name = "check" then some (.switch .check)
  else if name = "list" then some (.switch .list)
  else if name = "quiet" then some (.switch .quiet)
  else if name = "help" then some (.switch .help)
  else if name = "version" then some (.switch .version)
  else none

def Opt.ofShort? (c : Char) : Option Opt :=
  if c = 'i' then some (.parameter .input)
  else if c = 'o' then some (.parameter .out)
  else if c = 't' then some (.parameter .target)
  else if c = 'q' then some (.switch .quiet)
  else if c = 'h' then some (.switch .help)
  else if c = 'V' then some (.switch .version)
  else none

def Switch.usage : Switch → String
  | .strict => "--strict"
  | .check => "--check"
  | .list => "--list"
  | .quiet => "--quiet"
  | .help => "--help"
  | .version => "--version"

def Parameter.usage : Parameter → String
  | .input => "--input <INPUT>"
  | .out => "--out <OUT>"
  | .target => "--target <TARGET>"

def Opt.usage : Opt → String
  | .switch s => s.usage
  | .parameter p => p.usage

/-- What is done with the artifact: it is written, compared with the file, or not rendered at
    all while the table is printed. -/
inductive Mode where
  | write | check | list
  deriving DecidableEq, Repr

structure Invocation where
  input : Option String := none
  output : String := ({} : Settings).output
  target : Target := .js
  strict : Bool := false
  quiet : Bool := false
  mode : Mode := .write
  deriving DecidableEq, Repr

inductive Request where
  | help
  | version
  | work (invocation : Invocation)
  deriving DecidableEq, Repr

inductive UsageError where
  | unexpectedArgument (argument : String)
  | unexpectedValue (value : String) (s : Switch)
  | missingValue (p : Parameter)
  | invalidValue (value : String) (p : Parameter) (reason : Error)
  | repeated (option : Opt)
  | conflict (first second : Switch)
  deriving DecidableEq, Repr

namespace UsageError

def fragments : UsageError → List Text.Fragment
  | .unexpectedArgument argument =>
    [.plain "unexpected argument '", .styled .yellow argument, .plain "' found"]
  | .unexpectedValue value s =>
    [.plain "unexpected value '", .styled .yellow value, .plain "' for '",
      .styled .bold s.usage, .plain "' found; no more were expected"]
  | .missingValue p =>
    [.plain "a value is required for '", .styled .yellow p.usage,
      .plain "' but none was supplied"]
  | .invalidValue value p reason =>
    [.plain "invalid value '", .styled .yellow value, .plain "' for '", .styled .bold p.usage,
      .plain ("': " ++ reason.message)]
  | .repeated option =>
    [.plain "the argument '", .styled .yellow option.usage,
      .plain "' cannot be used multiple times"]
  | .conflict first second =>
    [.plain "the argument '", .styled .yellow first.usage, .plain "' cannot be used with '",
      .styled .yellow second.usage, .plain "'"]

def report (e : UsageError) : List Text.Fragment :=
  [.styled .boldThenRed "error:", .plain " "] ++ e.fragments ++
    [.plain "\n\nFor more information, try '", .styled .bold Switch.help.usage, .plain "'.\n"]

/-- Arguments may hold control sequences of their own. They are sent where colour is wanted,
    and left out together with the styles where it is not. -/
def render (colour : Bool) (e : UsageError) : String :=
  let styled := Text.render true e.report
  if colour then styled else Text.printable styled

end UsageError
end Opcodes.CommandLine
