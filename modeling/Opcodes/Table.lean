import Std.Data.TreeMap
import Opcodes.Error
import Opcodes.Listing

/-! A table numbers mnemonics in the order in which they are declared. A mnemonic may be
   declared more than once: each declaration has a code of its own, and a look-up by name
   finds the last one. One that is declared three times repeats twice, each time after its last
   declaration before. -/
namespace Opcodes

structure Entry where
  mnemonic : Mnemonic
  code : Code
  deriving DecidableEq, Repr

structure Table where
  entries : List Entry
  deriving DecidableEq, Repr

namespace Table

/-- The code of a declaration is its position, counted from zero. -/
def ofMnemonics (ms : List Mnemonic) : Table :=
  ⟨ms.zipIdx.map fun (m, position) => ⟨m, .ofNat position⟩⟩

def ofListing (source : String) : Table := ofMnemonics (Listing.mnemonics source)

def builtin : Table := ofListing Listing.builtin

theorem builtin_eq : builtin = ofListing Listing.builtin := rfl

-- What is checked against the table must not scan the listing on the way.
attribute [irreducible] builtin

def size (table : Table) : Nat := table.entries.length

def isEmpty (table : Table) : Bool := table.entries.isEmpty

/-- The code of the last declaration of exactly this name. -/
def codeOf? (table : Table) (name : String) : Option Code :=
  (table.entries.reverse.find? (·.mnemonic.name == name)).map (·.code)

def nameOf (table : Table) (code : Code) : Except Error String :=
  match table.entries[code.toNat]? with
  | some entry => .ok entry.mnemonic.upper
  | none => .error (.unknownCode code)

/-- The codes by name, as a reader of an artifact finds them: the last declaration counts. -/
def codeMap (table : Table) : Std.TreeMap String Code :=
  table.entries.foldl (fun found entry => found.insert entry.mnemonic.name entry.code) ∅

theorem size_of_mnemonics (ms : List Mnemonic) : (ofMnemonics ms).size = ms.length := by
  simp [ofMnemonics, size]

theorem mnemonics_of_entries (ms : List Mnemonic) :
    (ofMnemonics ms).entries.map (·.mnemonic) = ms := by
  simp [ofMnemonics, Function.comp_def]

theorem entry_at (ms : List Mnemonic) (position : Nat) :
    (ofMnemonics ms).entries[position]? = ms[position]?.map (⟨·, .ofNat position⟩) := by
  simp [ofMnemonics, List.getElem?_zipIdx, Function.comp_def]

end Table

structure Repeat where
  mnemonic : Mnemonic
  earlier : Code
  later : Code
  deriving DecidableEq, Repr

namespace Table

/-- Goes on through the entries, where `latest` holds the code of each name's last
    declaration so far. -/
def repeatsFrom (latest : Std.TreeMap String Code) : List Entry → List Repeat
  | [] => []
  | entry :: rest =>
    let later := repeatsFrom (latest.insert entry.mnemonic.name entry.code) rest
    match latest[entry.mnemonic.name]? with
    | some earlier => ⟨entry.mnemonic, earlier, entry.code⟩ :: later
    | none => later

def repeats (table : Table) : List Repeat := repeatsFrom ∅ table.entries

def ofDistinct (ms : List Mnemonic) : Except Error Table :=
  let table := ofMnemonics ms
  match table.repeats with
  | [] => .ok table
  | r :: _ => .error (.repeatedMnemonic r.mnemonic.name r.earlier r.later)

end Table
end Opcodes
