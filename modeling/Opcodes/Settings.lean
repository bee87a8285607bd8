import Opcodes.Artifact
import Opcodes.Error
import Opcodes.Files.Tree
import Opcodes.Listing
import Opcodes.Table
import Opcodes.Text

/-! What an artifact is made from, the language that it is written in and the file that it is for, and
   what a run tells its user on the side. Warnings are always shown; information is not when the user
   has asked for quiet. -/
namespace Opcodes

inductive Target where
  | js | rust | json
  deriving DecidableEq, Repr

namespace Target

def name : Target → String
  | .js => "js"
  | .rust => "rust"
  | .json => "json"

def parse (text : String) : Except Error Target :=
  let lowered := String.ofList (text.toList.map Char.toLower)
  if lowered = "js" ∨ lowered = "javascript" then .ok .js
  else if lowered = "rs" ∨ lowered = "rust" then .ok .rust
  else if lowered = "json" then .ok .json
  else .error (.unknownTarget text)

/-- An enumeration cannot hold a repeated mnemonic. -/
def refusesRepeats : Target → Bool
  | .rust => true
  | .js | .json => false

end Target

structure Settings where
  source : String := Listing.builtin
  output : String := "src/meep/ir.js"
  target : Target := .js
  strict : Bool := false
  names : Artifact.ScriptNames := {}
  deriving DecidableEq, Repr

namespace Settings

def refusesRepeats (settings : Settings) : Bool :=
  settings.strict || settings.target.refusesRepeats

def hasBuiltinSource (settings : Settings) : Bool := settings.source == Listing.builtin

/-- Whether nothing has been chosen. Another spelling of the same output path is no choice. -/
def isDefault (settings : Settings) : Bool :=
  { settings with output := "" } == { output := "" : Settings } &&
    Files.Path.sameComponents settings.output ({} : Settings).output

end Settings

inductive Severity where
  | info | warning | error
  deriving DecidableEq, Repr

def Severity.label : Severity → Text.Fragment
  | .info => .styled .boldGreen "info:"
  | .warning => .styled .boldYellow "warning:"
  | .error => .styled .boldRed "error:"

inductive Notice where
  | shadowed (r : Repeat)
  | wrote (count : Nat) (path : String) (target : Target)
  | upToDate (path : String)
  | failed (reason : String)
  deriving DecidableEq, Repr

namespace Notice

def severity : Notice → Severity
  | .shadowed _ => .warning
  | .wrote .. | .upToDate _ => .info
  | .failed _ => .error

def message : Notice → String
  | .shadowed r =>
    "`" ++ r.mnemonic.name ++ "` is declared at codes " ++ r.earlier.decimal ++ " and " ++
      r.later.decimal ++ "; lookups by name resolve to " ++ r.later.decimal
  | .wrote count path target =>
    "wrote " ++ Nat.repr count ++ " opcodes to " ++ path ++ " (" ++ target.name ++ ")"
  | .upToDate path => path ++ " is up to date"
  | .failed reason => reason

def isShown (quiet : Bool) (notice : Notice) : Bool := !(quiet && notice.severity == .info)

def styled (notice : Notice) : List Text.Fragment :=
  [notice.severity.label, .plain (" " ++ notice.message ++ "\n")]

def log (colour : Bool) (notices : List Notice) : String :=
  Text.render colour (notices.flatMap styled)

end Notice
end Opcodes
