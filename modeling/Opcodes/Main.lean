import Opcodes.CommandLine.Response

/-! The program: its files are those of the disk, and its outputs are the standard ones. -/
namespace Opcodes.Main

def report : IO.Error → Option (UInt32 × String)
  | .alreadyExists _ number text | .inappropriateType _ number text
  | .interrupted _ number text | .invalidArgument _ number text
  | .noFileOrDirectory _ number text | .noSuchThing _ number text
  | .permissionDenied _ number text | .resourceExhausted _ number text
  | .hardwareFault number text | .illegalOperation number text | .otherError number text
  | .protocolError number text | .resourceBusy number text | .resourceVanished number text
  | .timeExpired number text | .unsatisfiedConstraints number text
  | .unsupportedOperation number text => some (number, text)
  | .unexpectedEof | .userError _ => none

/-- Some calls report the number negated, and with a text of their own. -/
def faultOf (e : IO.Error) : Files.Fault :=
  match report e with
  | none => ⟨if e matches .unexpectedEof then .endOfFile else .other, toString e⟩
  | some (number, text) =>
    match number.toInt32.toInt.natAbs with
    | 2 => .missing
    | 20 => .notDirectory
    | 21 => .directory
    | 36 => .nameTooLong
    | positive => .ofNumber positive text

def onDisk {α : Type} (path : String) (access : IO α) : IO (Except Files.Fault α) := do
  if path.toList.contains '\x00' then return .error .nulInPath
  try return .ok (← access) catch e => return .error (faultOf e)

def perform {α : Type} : Files.Action α → IO α
  | .done result => return result
  | .read path next => do perform (next (← onDisk path (IO.FS.readBinFile path)))
  | .write path content next => do
    perform (next (← onDisk path (IO.FS.writeBinFile path content)))

def isOn (name : String) : IO (Option Bool) := do return (← IO.getEnv name).map (· != "0")

def wantsColour : IO Bool := do
  if (← isOn "CLICOLOR_FORCE") == some true then return true
  if (← isOn "NO_COLOR").isSome then return false
  return (← isOn "CLICOLOR").getD true && (← (← IO.getStdout).isTty)

/-- A usage error and the help are styled by stricter rules: what rules colour out comes first,
    and a terminal has to be known for its colours. -/
def wantsStyledUsage (stream : IO.FS.Stream) : IO Bool := do
  if ((← IO.getEnv "NO_COLOR").getD "") != "" then return false
  if (← isOn "CLICOLOR_FORCE") == some true then return true
  let wish ← isOn "CLICOLOR"
  let isKnown := match ← IO.getEnv "TERM" with
    | none => false
    | some terminal => terminal != "dumb"
  let isAutomatic := (← IO.getEnv "CI").isSome
  return wish != some false && (← stream.isTty) && (isKnown || wish == some true || isAutomatic)

def coloursFor (arguments : List String) : IO Bool := do
  match CommandLine.Request.ofArguments arguments with
  | .error _ => wantsStyledUsage (← IO.getStderr)
  | .ok .help => wantsStyledUsage (← IO.getStdout)
  | .ok _ => wantsColour

end Opcodes.Main

open Opcodes in
def main (arguments : List String) : IO UInt32 := do
  let response ← Main.perform (CommandLine.respond arguments)
  let colour ← Main.coloursFor arguments
  (← IO.getStderr).putStr (response.stderr colour)
  (← IO.getStdout).putStr (response.stdout colour)
  return .ofNat response.status
