import Mathlib.Data.List.TakeDrop
import Opcodes.Proofs.Text.Fields

/-! A reader of JSON texts. It takes one character at a time; characters make lexemes, and each
   lexeme moves the reader on within the lists and objects that are still open. -/
namespace Opcodes.Json
open Text

/-- The number `mantissa * 10 ^ exponent`. -/
structure Number where
  mantissa : Int
  exponent : Int
  deriving DecidableEq, Repr

inductive Value where
  | null
  | boolean (truth : Bool)
  | number (n : Number)
  | text (s : String)
  | list (items : List Value)
  | object (members : List (String × Value))

inductive Lexeme where
  | openList | closeList | openObject | closeObject | comma | colon
  | text (s : String)
  | plain (v : Value)

def isBlank (c : Char) : Bool := c == ' ' || c == '\t' || c == '\n' || c == '\r'

def mark? (c : Char) : Option Lexeme :=
  if c = '[' then some .openList
  else if c = ']' then some .closeList
  else if c = '\x7b' then some .openObject
  else if c = '\x7d' then some .closeObject
  else if c = ',' then some .comma
  else if c = ':' then some .colon
  else none

def fraction? : List Char → Option (List Char × List Char)
  | '.' :: cs =>
    let (digits, rest) := cs.span Char.isDigit
    if digits.isEmpty then none else some (digits, rest)
  | cs => some ([], cs)

def digits? (cs : List Char) : Option Nat :=
  if cs.all Char.isDigit ∧ cs ≠ [] then some (Nat.ofDigitChars 10 cs 0) else none

def exponent? : List Char → Option Int
  | [] => some 0
  | e :: cs =>
    if e = 'e' ∨ e = 'E' then
      match cs with
      | '-' :: digits => (digits? digits).map fun n => -(n : Int)
      | '+' :: digits => (digits? digits).map Int.ofNat
      | digits => (digits? digits).map Int.ofNat
    else none

def unsigned? (cs : List Char) : Option Number := do
  let (whole, rest) := cs.span Char.isDigit
  let value ← decimal? whole
  let (fraction, rest) ← fraction? rest
  let exponent ← exponent? rest
  return ⟨Nat.ofDigitChars 10 fraction value, exponent - fraction.length⟩

def number? : List Char → Option Number
  | '-' :: cs => (unsigned? cs).map fun n => { n with mantissa := -n.mantissa }
  | cs => unsigned? cs

def bare? (cs : List Char) : Option Value :=
  match number? cs with
  | some n => some (.number n)
  | none =>
    if cs = "null".toList then some .null
    else if cs = "true".toList then some (.boolean true)
    else if cs = "false".toList then some (.boolean false)
    else none

/-- A quoted text as far as it has been read, last character first. A high surrogate waits for
    the low one that completes its character. -/
structure Quotation where
  held : List Char := []
  high : Option Nat := none

def Quotation.addUnit (q : Quotation) (unit : Nat) : Option Quotation :=
  match q.high with
  | some high =>
    if 0xDC00 ≤ unit ∧ unit ≤ 0xDFFF then
      some ⟨Char.ofNat (0x10000 + (high - 0xD800) * 0x400 + (unit - 0xDC00)) :: q.held, none⟩
    else none
  | none =>
    if 0xD800 ≤ unit ∧ unit ≤ 0xDBFF then some ⟨q.held, some unit⟩
    else if 0xDC00 ≤ unit ∧ unit ≤ 0xDFFF then none
    else some ⟨Char.ofNat unit :: q.held, none⟩

def hexDigit? (c : Char) : Option Nat :=
  if '0' ≤ c ∧ c ≤ '9' then some (c.toNat - '0'.toNat)
  else if 'a' ≤ c ∧ c ≤ 'f' then some (c.toNat - 'a'.toNat + 10)
  else if 'A' ≤ c ∧ c ≤ 'F' then some (c.toNat - 'A'.toNat + 10)
  else none

def escaped? (c : Char) : Option Char :=
  if c = '"' ∨ c = '\\' ∨ c = '/' then some c
  else if c = 'b' then some '\x08'
  else if c = 'f' then some '\x0c'
  else if c = 'n' then some '\n'
  else if c = 'r' then some '\r'
  else if c = 't' then some '\t'
  else none

inductive Place where
  | between
  | bare (held : List Char)
  | quoted (q : Quotation)
  | escaped (q : Quotation)
  | unit (q : Quotation) (digits : List Nat)

namespace Place

def start (c : Char) : Place × List Lexeme :=
  if isBlank c then (.between, [])
  else if c = '"' then (.quoted {}, [])
  else
    match mark? c with
    | some mark => (.between, [mark])
    | none => (.bare [c], [])

def endsBare (c : Char) : Bool := isBlank c || c == '"' || (mark? c).isSome

def step : Place → Char → Option (Place × List Lexeme)
  | .between, c => some (start c)
  | .bare held, c =>
    if endsBare c then
      (bare? held.reverse).map fun v => ((start c).1, .plain v :: (start c).2)
    else some (.bare (c :: held), [])
  | .quoted q, c =>
    if c = '\\' then some (.escaped q, [])
    else if q.high.isSome then none
    else if c = '"' then some (.between, [.text (String.ofList q.held.reverse)])
    else if c.toNat < 0x20 then none
    else some (.quoted { q with held := c :: q.held }, [])
  | .escaped q, c =>
    if c = 'u' then some (.unit q [], [])
    else if q.high.isSome then none
    else (escaped? c).map fun d => (.quoted { q with held := d :: q.held }, [])
  | .unit q digits, c => do
    let digit ← hexDigit? c
    if digits.length < 3 then return (.unit q (digits ++ [digit]), [])
    let next ← q.addUnit ((digits ++ [digit]).foldl (fun n d => 16 * n + d) 0)
    return (.quoted next, [])

end Place

/-- A list or an object that is still open; what it holds so far comes last first. -/
inductive Frame where
  | list (items : List Value)
  | object (members : List (String × Value)) (name : String)

inductive State where
  | value (stack : List Frame)
  | listOpened (stack : List Frame)
  | objectOpened (stack : List Frame)
  | key (members : List (String × Value)) (stack : List Frame)
  | colon (members : List (String × Value)) (name : String) (stack : List Frame)
  | complete (v : Value) (stack : List Frame)

namespace State

def begin (stack : List Frame) : Lexeme → Option State
  | .text s => some (.complete (.text s) stack)
  | .plain v => some (.complete v stack)
  | .openList => some (.listOpened stack)
  | .openObject => some (.objectOpened stack)
  | _ => none

def step : State → Lexeme → Option State
  | .value stack, lexeme => begin stack lexeme
  | .listOpened stack, .closeList => some (.complete (.list []) stack)
  | .listOpened stack, lexeme => begin (.list [] :: stack) lexeme
  | .objectOpened stack, .closeObject => some (.complete (.object []) stack)
  | .objectOpened stack, .text name => some (.colon [] name stack)
  | .key members stack, .text name => some (.colon members name stack)
  | .colon members name stack, .colon => some (.value (.object members name :: stack))
  | .complete v (.list items :: stack), .comma => some (.value (.list (v :: items) :: stack))
  | .complete v (.list items :: stack), .closeList =>
    some (.complete (.list (v :: items).reverse) stack)
  | .complete v (.object members name :: stack), .comma =>
    some (.key ((name, v) :: members) stack)
  | .complete v (.object members name :: stack), .closeObject =>
    some (.complete (.object ((name, v) :: members).reverse) stack)
  | _, _ => none

end State

structure Reader where
  place : Place
  state : State

namespace Reader

def step (r : Reader) (c : Char) : Option Reader := do
  let (place, lexemes) ← r.place.step c
  let state ← lexemes.foldlM State.step r.state
  return ⟨place, state⟩

def value? : Reader → Option Value
  | ⟨.between, .complete v []⟩ => some v
  | _ => none

end Reader

/-- The value that a text holds. A blank after the text ends a last word without quotes. -/
def read (text : String) : Option Value :=
  ((text.toList ++ [' ']).foldlM Reader.step ⟨.between, .value []⟩).bind Reader.value?

end Opcodes.Json
