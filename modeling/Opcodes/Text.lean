/-! Texts as they are written out. Every line is ended by a line feed, the last one too. JSON quotes a
   text and escapes quotes, backslashes and control characters in it. On a terminal a fragment may
   have a style, which shows only where colour is wanted. The printable part of a text leaves control
   sequences out as a terminal reads them, and control characters other than white space; white space
   is kept inside a sequence too, and what follows it there stands as text up to the next control
   character. -/
namespace Opcodes.Text

def ofLines (lines : List String) : String := String.join (lines.map (· ++ "\n"))

def escapeChar (c : Char) : List Char :=
  if c = '"' then ['\\', '"']
  else if c = '\\' then ['\\', '\\']
  else if c = '\x08' then ['\\', 'b']
  else if c = '\x0c' then ['\\', 'f']
  else if c = '\n' then ['\\', 'n']
  else if c = '\r' then ['\\', 'r']
  else if c = '\t' then ['\\', 't']
  else if c.toNat < 0x20 then
    ['\\', 'u', '0', '0', Nat.digitChar (c.toNat / 16), Nat.digitChar (c.toNat % 16)]
  else [c]

def quotedChars (cs : List Char) : List Char := '"' :: (cs.flatMap escapeChar ++ ['"'])

def quoted (text : String) : String := String.ofList (quotedChars text.toList)

inductive Style where
  | boldGreen | boldYellow | boldRed | cyan | yellow | bold | boldThenRed | boldThenUnderlined
  deriving DecidableEq, Repr

/-- The parameters of the select-graphic-rendition sequences that switch the style on, in order.
    Attributes set by one sequence look the same as those set one after the other. -/
def Style.parameters : Style → List String
  | .boldGreen => ["1;32"]
  | .boldYellow => ["1;33"]
  | .boldRed => ["1;31"]
  | .cyan => ["36"]
  | .yellow => ["33"]
  | .bold => ["1"]
  | .boldThenRed => ["1", "31"]
  | .boldThenUnderlined => ["1", "4"]

def Style.switchOn (style : Style) : String :=
  String.join (style.parameters.map fun p => "\x1b[" ++ p ++ "m")

def Style.switchOff : String := "\x1b[0m"

structure Fragment where
  style : Option Style
  text : String
  deriving DecidableEq, Repr

namespace Fragment

def plain (text : String) : Fragment := ⟨none, text⟩

def styled (style : Style) (text : String) : Fragment := ⟨some style, text⟩

def render (colour : Bool) (fragment : Fragment) : String :=
  match colour, fragment.style with
  | true, some style => style.switchOn ++ fragment.text ++ Style.switchOff
  | _, _ => fragment.text

end Fragment

def render (colour : Bool) (fragments : List Fragment) : String :=
  String.join (fragments.map (·.render colour))

/-- Where a reader stands: in text, or inside a control sequence. A device string has a head
    before its content, and a string of any other kind but a command is content from the start. -/
inductive Reading where
  | text
  | escape
  | designation
  | sequence
  | command
  | deviceStart
  | deviceParameters
  | deviceDesignation
  | content
  deriving DecidableEq, Repr

namespace Reading

def isSpace (c : Char) : Bool := c = '\t' ∨ c = '\n' ∨ c = '\x0c' ∨ c = '\r'

def keeps (reading : Reading) (c : Char) : Bool :=
  match reading with
  | .text => isSpace c || (' ' ≤ c && c != '\x7f')
  | .escape | .designation | .sequence => isSpace c
  | _ => false

/-- Content is read byte by byte, and ends also at a byte 0x9C within a character. -/
def endsContent (c : Char) : Bool := (String.utf8EncodeChar c).contains 0x9C

def afterEscape (c : Char) : Reading :=
  if ' ' ≤ c ∧ c ≤ '/' then .designation
  else if c = '[' then .sequence
  else if c = ']' then .command
  else if c = 'P' then .deviceStart
  else if c = 'X' ∨ c = '^' ∨ c = '_' then .content
  else if '0' ≤ c ∧ c ≤ '~' then .text
  else .escape

/-- Escape starts a sequence anywhere, and cancel and substitute break any sequence off. -/
def after (reading : Reading) (c : Char) : Reading :=
  if c = '\x1b' then .escape
  else if c = '\x18' ∨ c = '\x1a' then .text
  else
    match reading with
    | .text => .text
    | .escape => afterEscape c
    | .designation => if '0' ≤ c ∧ c ≤ '~' then .text else .designation
    | .sequence => if '@' ≤ c ∧ c ≤ '~' then .text else .sequence
    | .command => if c = '\x07' then .text else .command
    | .deviceStart =>
      if ' ' ≤ c ∧ c ≤ '/' then .deviceDesignation
      else if '0' ≤ c ∧ c ≤ '?' then .deviceParameters
      else if '@' ≤ c ∧ c ≤ '~' then .content
      else .deviceStart
    | .deviceParameters =>
      if ' ' ≤ c ∧ c ≤ '/' then .deviceDesignation
      else if '<' ≤ c ∧ c ≤ '~' then .content
      else .deviceParameters
    | .deviceDesignation => if '0' ≤ c ∧ c ≤ '~' then .content else .deviceDesignation
    | .content => if endsContent c then .text else .content

end Reading

/-- Reads on, where `shown` says that the character before was kept. Behind a kept character
    everything is text, and a sequence that was left open goes on at the next control
    character, unless a character beyond ASCII came in between. -/
def printableFrom (reading : Reading) (shown : Bool) : List Char → List Char
  | [] => []
  | c :: rest =>
    if (if shown then Reading.text else reading).keeps c then
      c :: printableFrom (if c.toNat < 0x80 then reading else .text) true rest
    else printableFrom (reading.after c) false rest

def printable (text : String) : String := String.ofList (printableFrom .text false text.toList)

end Opcodes.Text
