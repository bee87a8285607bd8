import Opcodes.CommandLine.Arguments
import Opcodes.CommandLine.Options
import Opcodes.Generation
import Opcodes.Text

/-! What the program does for a command line: the files that it reads and writes, its two
   outputs and its exit status. -/
namespace Opcodes.CommandLine

def versionText : String := Text.ofLines ["irgen 0.1.0"]

/-- The width that an option has in the help, with its value and the gap after it. -/
def optionWidth : Nat := 19

def optionLine (letter : Option Char) (option : Opt) (description : String) :
    List Text.Fragment :=
  let lead := match letter with
    | some c => [.plain "  ", .styled .bold (String.ofList ['-', c]), .plain ", "]
    | none => [.plain "      "]
  let name := option.usage.toList.takeWhile (· ≠ ' ')
  let rest := option.usage.toList.dropWhile (· ≠ ' ')
  let column := rest.rightpad (optionWidth - name.length) ' '
  lead ++ [.styled .bold (String.ofList name),
    .plain (String.ofList column ++ description ++ "\n")]

def helpText : List Text.Fragment :=
  [.plain "Generate the opcode table of the meep IR\n\n",
    .styled .boldThenUnderlined "Usage:", .plain " ", .styled .bold "irgen",
    .plain " [OPTIONS]\n\n", .styled .boldThenUnderlined "Options:", .plain "\n"] ++
  optionLine 'i' (.parameter .input)
    "Read mnemonics from a file instead of the built-in listing" ++
  optionLine 'o' (.parameter .out) "Artifact to (over)write [default: src/meep/ir.js]" ++
  optionLine 't' (.parameter .target) "Output language: js, rust or json [default: js]" ++
  optionLine none (.switch .strict) "Reject repeated mnemonics" ++
  optionLine none (.switch .check)
    "Exit with an error if the artifact is stale; write nothing" ++
  optionLine none (.switch .list) "Print the table; write nothing" ++
  optionLine 'q' (.switch .quiet) "Only print warnings and errors" ++
  optionLine 'h' (.switch .help) "Print help" ++
  optionLine 'V' (.switch .version) "Print version"

structure Answer where
  status : Nat
  output : List Text.Fragment
  notices : List Notice
  deriving DecidableEq, Repr

namespace Answer

def succeed (output : List Text.Fragment) (notices : List Notice) : Answer :=
  ⟨0, output, notices⟩

def fail (notices : List Notice) (reason : String) : Answer :=
  ⟨1, [], notices ++ [.failed reason]⟩

end Answer

inductive Response where
  | refused (e : UsageError)
  | answered (a : Answer)
  deriving DecidableEq, Repr

namespace Response

def status : Response → Nat
  | .refused _ => 2
  | .answered a => a.status

def stdout (colour : Bool) : Response → String
  | .refused _ => ""
  | .answered a => Text.render colour a.output

def stderr (colour : Bool) : Response → String
  | .refused e => e.render colour
  | .answered a => Notice.log colour a.notices

end Response

def listLine (entry : Entry) : List Text.Fragment :=
  let code := String.ofList (entry.code.decimal.toList.leftpad 4 ' ')
  let mnemonic := String.ofList (entry.mnemonic.name.toList.rightpad 16 ' ')
  [.styled .cyan code, .plain ("  " ++ mnemonic ++ " "),
   .styled .bold entry.mnemonic.upper, .plain "\n"]

def list (settings : Settings) : Answer :=
  let numbered := settings.table
  match numbered.result with
  | .error e => .fail numbered.notices e.message
  | .ok table => .succeed (table.entries.flatMap listLine) numbered.notices

def check (settings : Settings) : Files.Action Answer := do
  let compared ← settings.isDelivered
  match compared.result with
  | .error e => return .fail compared.notices e.message
  | .ok true => return .succeed [] (compared.notices ++ [.upToDate settings.output])
  | .ok false =>
    return .fail compared.notices (settings.output ++ " is out of date; rerun irgen")

def write (settings : Settings) : Files.Action Answer := do
  let delivered ← settings.deliver
  match delivered.result with
  | .error e => return .fail delivered.notices e.message
  | .ok _ => return .succeed [] delivered.notices

namespace Invocation

def source (inv : Invocation) : Files.Action (Except Error String) :=
  match inv.input with
  | none => pure (.ok Listing.builtin)
  | some path => Files.readText path

def settings (inv : Invocation) (source : String) : Settings :=
  { source := source, output := inv.output, target := inv.target, strict := inv.strict }

def answer (inv : Invocation) : Files.Action Answer := do
  match ← inv.source with
  | .error e => return .fail [] e.message
  | .ok source =>
    match inv.mode with
    | .list => return list (inv.settings source)
    | .check => check (inv.settings source)
    | .write => write (inv.settings source)

def perform (inv : Invocation) : Files.Action Answer := do
  let answer ← inv.answer
  return { answer with notices := answer.notices.filter (Notice.isShown inv.quiet) }

end Invocation

def Request.perform : Request → Files.Action Answer
  | .help => pure (.succeed helpText [])
  | .version => pure (.succeed [.plain versionText] [])
  | .work invocation => invocation.perform

def respond (arguments : List String) : Files.Action Response :=
  match Request.ofArguments arguments with
  | .error e => pure (.refused e)
  | .ok request => do return .answered (← request.perform)

end Opcodes.CommandLine
