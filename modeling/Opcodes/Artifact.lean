import Std.Data.TreeMap
import Opcodes.Mnemonic.Variant
import Opcodes.Table
import Opcodes.Text
import Opcodes.Unicode.Classes

/-! A table as an artifact, in one of three forms. A JSON document is an object whose one member
   `opcodes` lists the entries in order, laid out with two spaces for each level. A JavaScript module
   has a frozen object from mnemonics to codes, and a function that switches from codes to upper-cased
   names; both halves have a line for every entry, so a repeated mnemonic has several keys, of which
   the last one counts, and as many cases. A Rust enumeration has one variant for every entry, and two
   functions on it: from a code to its variant, and from a variant to its upper-cased name. -/
namespace Opcodes.Artifact

namespace Document

def row (entry : Entry) : String :=
  "    \x7b\n" ++
  "      \"mnemonic\": " ++ Text.quoted entry.mnemonic.name ++ ",\n" ++
  "      \"code\": " ++ entry.code.decimal ++ ",\n" ++
  "      \"name\": " ++ Text.quoted entry.mnemonic.upper ++ "\n" ++
  "    \x7d"

def list (rows : List String) : String :=
  if rows.isEmpty then "[]" else "[\n" ++ String.intercalate ",\n" rows ++ "\n  ]"

def render (table : Table) : String :=
  "\x7b\n  \"opcodes\": " ++ list (table.entries.map row) ++ "\n\x7d\n"

end Document

structure ScriptNames where
  map : String := "IR"
  function : String := "irToString"
  deriving DecidableEq, Repr

namespace Script

def keyLine (entry : Entry) : String :=
  "\t" ++ entry.mnemonic.name ++ ": " ++ entry.code.decimal ++ ","

def caseLine (entry : Entry) : String :=
  "\tcase " ++ entry.code.decimal ++ ": return '" ++ entry.mnemonic.upper ++ "';"

def lines (names : ScriptNames) (table : Table) : List String :=
  ["const " ++ names.map ++ " = Object.freeze(\x7b"] ++
  table.entries.map keyLine ++
  ["\x7d);", "", "function " ++ names.function ++ "(op) \x7b", "\tswitch(op) \x7b"] ++
  table.entries.map caseLine ++
  ["\t\x7d", "\x7d", "",
    "module.exports = \x7b" ++ names.map ++ ", " ++ names.function ++ "\x7d;"]

def render (names : ScriptNames) (table : Table) : Except Error String :=
  match table.entries.find? (!·.mnemonic.standsUnquoted) with
  | some entry => .error (.notAnIdentifier entry.mnemonic.name)
  | none => .ok (Text.ofLines (lines names table))

end Script

structure Arm where
  variant : String
  code : Code
  name : String
  deriving DecidableEq, Repr

namespace Enumeration

/-- A variant starts with a letter and is not the keyword `Self`, the only one that starts
    with a capital. -/
def isLegalVariant (variant : String) : Bool :=
  match variant.toList with
  | [] => false
  | c :: _ => Unicode.isAlphabetic c && variant != "Self"

/-- Checks the entries in order, where `taken` holds the codes of the variants so far. -/
def armsFrom (taken : Std.TreeMap String Code) : List Entry → Except Error (List Arm)
  | [] => .ok []
  | entry :: rest =>
    let variant := entry.mnemonic.variant
    if isLegalVariant variant then
      match taken[variant]? with
      | some first => .error (.variantClash variant first entry.code)
      | none =>
        match armsFrom (taken.insert variant entry.code) rest with
        | .error e => .error e
        | .ok later => .ok (⟨variant, entry.code, entry.mnemonic.upper⟩ :: later)
    else .error (.notAnIdentifier entry.mnemonic.name)

def arms (table : Table) : Except Error (List Arm) := armsFrom ∅ table.entries

def variantLine (arm : Arm) : String :=
  "    " ++ arm.variant ++ " = " ++ arm.code.decimal ++ ","

def codeLine (arm : Arm) : String :=
  "            " ++ arm.code.decimal ++ " => Some(Self::" ++ arm.variant ++ "),"

def nameLine (arm : Arm) : String :=
  "            Self::" ++ arm.variant ++ " => \"" ++ arm.name ++ "\","

/-- An enumeration without variants can have no representation. -/
def representation (arms : List Arm) : List String :=
  if arms.isEmpty then [] else ["#[repr(u32)]"]

def lines (enumName : String) (arms : List Arm) : List String :=
  ["// Generated by irgen. Do not edit.", ""] ++
  representation arms ++
  ["#[derive(Clone, Copy, Debug, PartialEq, Eq, Hash)]", "pub enum " ++ enumName ++ " \x7b"] ++
  arms.map variantLine ++
  ["\x7d", "", "impl " ++ enumName ++ " \x7b",
    "    pub fn from_code(code: u32) -> Option<Self> \x7b", "        match code \x7b"] ++
  arms.map codeLine ++
  ["            _ => None,", "        \x7d", "    \x7d", "",
    "    pub fn name(self) -> &'static str \x7b", "        match self \x7b"] ++
  arms.map nameLine ++
  ["        \x7d", "    \x7d", "\x7d"]

def render (enumName : String) (table : Table) : Except Error String :=
  match arms table with
  | .error e => .error e
  | .ok arms => .ok (Text.ofLines (lines enumName arms))

end Enumeration
end Opcodes.Artifact
