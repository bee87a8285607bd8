/-! Everything that can go wrong on the way from a listing to an artifact, and how each
   failure is worded. Names are shown raw. An access to a file fails with a fault, which has a kind,
   on which callers decide, and a reason, which is only shown. -/
namespace Opcodes

abbrev Code := UInt32

def Code.decimal (code : Code) : String := Nat.repr code.toNat

namespace Files

inductive FaultKind where
  | missing | denied | exists | directory | notDirectory | notEmpty
  | badName | badArgument | badData | endOfFile
  | readOnly | noSpace | overQuota | tooLarge | tooManyLinks | otherDevice
  | busy | running | deadlock | stale | brokenPipe | wouldBlock | nothingWritten
  | timeout | interrupted | noMemory | unsupported | other
  deriving DecidableEq, Repr

/-- The kind of a failure that the operating system reports by its number. -/
def FaultKind.ofNumber : Nat → FaultKind
  | 1 | 13 => .denied
  | 2 => .missing
  | 4 => .interrupted
  | 11 => .wouldBlock
  | 12 => .noMemory
  | 16 => .busy
  | 17 => .exists
  | 18 => .otherDevice
  | 20 => .notDirectory
  | 21 => .directory
  | 22 => .badArgument
  | 26 => .running
  | 27 => .tooLarge
  | 28 => .noSpace
  | 30 => .readOnly
  | 31 => .tooManyLinks
  | 32 => .brokenPipe
  | 35 => .deadlock
  | 36 => .badName
  | 38 | 95 => .unsupported
  | 39 => .notEmpty
  | 110 => .timeout
  | 116 => .stale
  | 122 => .overQuota
  | _ => .other

structure Fault where
  kind : FaultKind
  reason : String
  deriving DecidableEq, Repr

namespace Fault

def ofNumber (number : Nat) (text : String) : Fault :=
  ⟨.ofNumber number, text ++ " (os error " ++ Nat.repr number ++ ")"⟩

def missing : Fault := ofNumber 2 "No such file or directory"
def notDirectory : Fault := ofNumber 20 "Not a directory"
def directory : Fault := ofNumber 21 "Is a directory"
def nameTooLong : Fault := ofNumber 36 "File name too long"
def nulInPath : Fault := ⟨.badArgument, "file name contained an unexpected NUL byte"⟩
def notText : Fault := ⟨.badData, "stream did not contain valid UTF-8"⟩

end Fault
end Files

inductive Error where
  | repeatedMnemonic (mnemonic : String) (first second : Code)
  | unknownCode (code : Code)
  | unknownMnemonic (name : String)
  | notAnIdentifier (mnemonic : String)
  | variantClash (variant : String) (first second : Code)
  | unknownTarget (name : String)
  | unserializable (reason : String)
  | unwritable (path : String) (fault : Files.Fault)
  | unreadable (path : String) (fault : Files.Fault)
  deriving DecidableEq, Repr

def Error.message : Error → String
  | .repeatedMnemonic mnemonic first second =>
    "mnemonic `" ++ mnemonic ++ "` is declared twice (codes " ++ first.decimal ++ " and " ++
      second.decimal ++ ")"
  | .unknownCode code => "no opcode has code " ++ code.decimal
  | .unknownMnemonic name => "no opcode is named `" ++ name ++ "`"
  | .notAnIdentifier mnemonic =>
    "mnemonic `" ++ mnemonic ++ "` cannot be written as a bare identifier"
  | .variantClash variant first second =>
    "variant `" ++ variant ++ "` would be generated for both code " ++ first.decimal ++
      " and code " ++ second.decimal
  | .unknownTarget name =>
    "unknown target `" ++ name ++ "` (expected one of: js, rust, json)"
  | .unserializable reason => "could not serialize the table: " ++ reason
  | .unwritable path fault => "could not write `" ++ path ++ "`: " ++ fault.reason
  | .unreadable path fault => "could not read `" ++ path ++ "`: " ++ fault.reason

end Opcodes
