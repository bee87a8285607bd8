import Opcodes.Table

/-! The instructions of the builtin listing as a type of their own. They are declared in the order of
   their codes, and their names are read back from the table of the listing. -/
namespace Opcodes

inductive Instruction where
  | pop | push | inc | dec | add | sub | equals
  | setVar | getVar | incN | false_ | true_ | loadByte | print
  | startIf | closeIfBody | endIf | startElse | endElse | startLoop | endLoop
  | popn | cmpLess | cmpGreater | loadString | makeBus | indexVar | mutateBus
  deriving DecidableEq, Repr

namespace Instruction

def all : List Instruction :=
  [.pop, .push, .inc, .dec, .add, .sub, .equals,
   .setVar, .getVar, .incN, .false_, .true_, .loadByte, .print,
   .startIf, .closeIfBody, .endIf, .startElse, .endElse, .startLoop, .endLoop,
   .popn, .cmpLess, .cmpGreater, .loadString, .makeBus, .indexVar, .mutateBus]

def count : Nat := all.length

def code (i : Instruction) : Code := .ofNat i.ctorIdx

def variant : Instruction → String
  | .pop => "Pop"
  | .push => "Push"
  | .inc => "Inc"
  | .dec => "Dec"
  | .add => "Add"
  | .sub => "Sub"
  | .equals => "Equals"
  | .setVar => "SetVar"
  | .getVar => "GetVar"
  | .incN => "IncN"
  | .false_ => "False"
  | .true_ => "True"
  | .loadByte => "LoadByte"
  | .print => "Print"
  | .startIf => "StartIf"
  | .closeIfBody => "CloseIfBody"
  | .endIf => "EndIf"
  | .startElse => "StartElse"
  | .endElse => "EndElse"
  | .startLoop => "StartLoop"
  | .endLoop => "EndLoop"
  | .popn => "Popn"
  | .cmpLess => "CmpLess"
  | .cmpGreater => "CmpGreater"
  | .loadString => "LoadString"
  | .makeBus => "MakeBus"
  | .indexVar => "IndexVar"
  | .mutateBus => "MutateBus"

theorem variants_listed :
    (Listing.mnemonics Listing.builtin).map Mnemonic.variant = all.map variant := by
  delta Listing.mnemonics Listing.words Listing.builtin
  -- Characters that are spelled out are looked up once each; others at every place.
  simp only [String.toList_append, String.reduceToList]
  decide +kernel

theorem builtin_size : Table.builtin.entries.length = count := by
  have numbered : Table.builtin.size = (Listing.mnemonics Listing.builtin).length := by
    rw [Table.builtin_eq, Table.ofListing, Table.size_of_mnemonics]
  have same := congrArg List.length variants_listed
  rw [List.length_map, List.length_map] at same
  rw [← Table.size, numbered, same, count]

theorem code_in_table (i : Instruction) : i.code.toNat < Table.builtin.entries.length := by
  rw [builtin_size]
  cases i <;> decide

def entry (i : Instruction) : Entry := Table.builtin.entries.get ⟨i.code.toNat, code_in_table i⟩

def mnemonic (i : Instruction) : Mnemonic := i.entry.mnemonic

-- As functions the two sides are equal by definition; at an argument the entry would be looked up.
theorem mnemonic_eq : mnemonic = fun i => i.entry.mnemonic := rfl

def names : List String := Table.builtin.entries.map (·.mnemonic.upper)

theorem code_in_names (i : Instruction) : i.code.toNat < names.length := by
  rw [names, List.length_map]
  exact code_in_table i

def name (i : Instruction) : String := names.get ⟨i.code.toNat, code_in_names i⟩

def ofCode? (code : Code) : Option Instruction := all.find? (·.code == code)

def ofCode (code : Code) : Except Error Instruction :=
  match ofCode? code with
  | some i => .ok i
  | none => .error (.unknownCode code)

def parse (text : String) : Except Error Instruction :=
  match (Table.builtin.codeOf? text).bind ofCode? with
  | some i => .ok i
  | none => .error (.unknownMnemonic text)

end Instruction
end Opcodes
