import Opcodes.Unicode.Classes
import Opcodes.Unicode.Uppercase

/-! A mnemonic is the symbolic name of an opcode, as the listing spells it. Mnemonics are
   ordered by the code points of their names, which is also the byte order of their UTF-8. The variant
   of a mnemonic joins its parts between underscores, each with its first character upper-cased:
   `close_if_body` becomes `CloseIfBody`, and `pop_` becomes `Pop`. -/
namespace Opcodes

structure Mnemonic where
  name : String
  deriving DecidableEq, Repr

namespace Mnemonic

def upper (m : Mnemonic) : String := Unicode.upper m.name

/-- A bare word can stand unquoted as a key: it is not empty and starts with no numeral. -/
def standsUnquoted (m : Mnemonic) : Bool :=
  match m.name.toList with
  | [] => false
  | c :: _ => !Unicode.isNumeric c

def precedes (a b : Mnemonic) : Bool := a.name ≤ b.name

def sortDistinct (ms : List Mnemonic) : List Mnemonic := (ms.mergeSort precedes).eraseReps

/-- Reads on inside a part, or at the head of the next one. -/
def variantFrom (atHead : Bool) : List Char → List Char
  | [] => []
  | c :: rest =>
    if c = '_' then variantFrom true rest
    else (if atHead then Unicode.upperChar c else [c]) ++ variantFrom false rest

theorem variant_from_append (atHead : Bool) (cs ds : List Char) :
    variantFrom atHead (cs ++ '_' :: ds) = variantFrom atHead cs ++ variantFrom true ds := by
  induction cs generalizing atHead with
  | nil => simp [variantFrom]
  | cons c cs ih => by_cases same : c = '_' <;> simp [variantFrom, same, ih]

def variant (m : Mnemonic) : String := String.ofList (variantFrom true m.name.toList)

end Mnemonic
end Opcodes
