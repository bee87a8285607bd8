import Opcodes.CommandLine.Options

/-! Reading the arguments one after the other. A value may be attached to its option or be the
   next argument. The value of a separate argument is taken in only when a known option or the
   end of the line follows, so an unknown argument after it is reported first. -/
namespace Opcodes.CommandLine

/-- The outer form of an argument: `--name`, `--name=value`, letters after one hyphen, or a
    word, which a lone hyphen is too. -/
inductive Argument where
  | long (name : String) (value : Option String)
  | letters (cs : List Char)
  | word (text : String)
  deriving DecidableEq, Repr

def Argument.ofText (text : String) : Argument :=
  match text.toList with
  | '-' :: '-' :: cs =>
    let name := String.ofList (cs.takeWhile (· ≠ '='))
    match cs.dropWhile (· ≠ '=') with
    | [] => .long name none
    | _ :: value => .long name (some (String.ofList value))
  | '-' :: c :: cs => .letters (c :: cs)
  | _ => .word text

structure Pending where
  parameter : Parameter
  value : Option String
  deriving DecidableEq, Repr

/-- What has been read so far. `modes` holds the switches `check` and `list` in their order. -/
structure Choices where
  input : Option String := none
  output : Option String := none
  target : Option Target := none
  strict : Bool := false
  quiet : Bool := false
  modes : List Switch := []
  pending : Option Pending := none
  deriving DecidableEq, Repr

inductive Stop where
  | wrong (e : UsageError)
  | help
  | version
  deriving DecidableEq, Repr

namespace Choices

def assign (c : Choices) (p : Parameter) (value : String) : Except Stop Choices :=
  match p with
  | .input =>
    if c.input.isSome then .error (.wrong (.repeated (.parameter p)))
    else if value = "" then .error (.wrong (.missingValue p))
    else .ok { c with input := some value }
  | .out =>
    if c.output.isSome then .error (.wrong (.repeated (.parameter p)))
    else if value = "" then .error (.wrong (.missingValue p))
    else .ok { c with output := some value }
  | .target =>
    if c.target.isSome then .error (.wrong (.repeated (.parameter p)))
    else
      match Target.parse value with
      | .error reason => .error (.wrong (.invalidValue value p reason))
      | .ok target => .ok { c with target := some target }

def settle (c : Choices) : Except Stop Choices :=
  match c.pending with
  | none => .ok c
  | some ⟨p, none⟩ => .error (.wrong (.missingValue p))
  | some ⟨p, some value⟩ => { c with pending := none }.assign p value

def turnOn (c : Choices) (s : Switch) : Except Stop Choices :=
  let again := .error (.wrong (.repeated (.switch s)))
  match s with
  | .help => .error .help
  | .version => .error .version
  | .strict => if c.strict then again else .ok { c with strict := true }
  | .quiet => if c.quiet then again else .ok { c with quiet := true }
  | .check | .list => if s ∈ c.modes then again else .ok { c with modes := c.modes ++ [s] }

def await (c : Choices) (p : Parameter) : Choices := { c with pending := some ⟨p, none⟩ }

/-- Letters after one hyphen are switches, up to a parameter, whose value is the rest of the
    argument, or the next argument when there is no rest. -/
def readLetters (c : Choices) : List Char → Except Stop Choices
  | [] => .ok c
  | letter :: rest =>
    match Opt.ofShort? letter with
    | none => .error (.wrong (.unexpectedArgument (String.ofList ['-', letter])))
    | some (.switch s) => do (← (← c.settle).turnOn s).readLetters rest
    | some (.parameter p) => do
      let settled ← c.settle
      match rest with
      | [] => .ok (settled.await p)
      | '=' :: value => settled.assign p (String.ofList value)
      | value => settled.assign p (String.ofList value)

def readArgument (c : Choices) (text : String) : Except Stop Choices :=
  match Argument.ofText text with
  | .letters letters => c.readLetters letters
  | .long name value =>
    match Opt.ofLong? name, value with
    | none, _ => .error (.wrong (.unexpectedArgument ("--" ++ name)))
    | some (.switch s), some value => .error (.wrong (.unexpectedValue value s))
    | some (.switch s), none => do (← c.settle).turnOn s
    | some (.parameter p), some value => do (← c.settle).assign p value
    | some (.parameter p), none => do return (← c.settle).await p
  | .word text =>
    match c.pending with
    | some ⟨p, none⟩ => .ok { c with pending := some ⟨p, some text⟩ }
    | _ => .error (.wrong (.unexpectedArgument text))

def toInvocation (c : Choices) : Except Stop Invocation :=
  let work (mode : Mode) : Invocation :=
    { input := c.input, output := c.output.getD ({} : Settings).output,
      target := c.target.getD .js, strict := c.strict, quiet := c.quiet, mode := mode }
  match c.modes with
  | first :: second :: _ => .error (.wrong (.conflict first second))
  | [.check] => .ok (work .check)
  | [.list] => .ok (work .list)
  | _ => .ok (work .write)

/-- The argument `--` ends the options, and nothing else may follow it. -/
def readArguments (c : Choices) : List String → Except Stop Invocation
  | [] => do (← c.settle).toInvocation
  | ["--"] => do (← c.settle).toInvocation
  | "--" :: extra :: _ => .error (.wrong (.unexpectedArgument extra))
  | argument :: rest => do (← c.readArgument argument).readArguments rest

end Choices

def Request.ofArguments (arguments : List String) : Except UsageError Request :=
  match ({} : Choices).readArguments arguments with
  | .ok invocation => .ok (.work invocation)
  | .error .help => .ok .help
  | .error .version => .ok .version
  | .error (.wrong e) => .error e

end Opcodes.CommandLine
