import Lineage.Json.Numeral

/-! The tokens of a JSON text. The scanner takes one character at a time. -/

namespace Lineage.Json

/-- A text token is `none` when an escape in it names half of a surrogate pair: such a text is well
formed but no text of Unicode characters. -/
inductive Token
  | beginObject
  | endObject
  | beginArray
  | endArray
  | colon
  | comma
  | null
  | bool (value : Bool)
  | number (literal : Numeral)
  | text (content : Option String)
  deriving DecidableEq, Repr

/-- One element of a text token. -/
inductive Piece
  | char (c : Char)
  /-- A surrogate, written as an escape. -/
  | half (unit : Nat)
  deriving DecidableEq, Repr

namespace Piece

def ofUnit (n : Nat) : Piece :=
  if 0xD800 ≤ n && n < 0xE000 then .half n else .char (Char.ofNat n)

/-- A high surrogate and a low one right behind it are one character; a half alone is none. -/
def join : List Piece → Option (List Char)
  | [] => some []
  | .char c :: rest => (join rest).map (c :: ·)
  | .half high :: .half low :: rest =>
    if high < 0xDC00 && 0xDC00 ≤ low then
      (join rest).map (Char.ofNat (0x10000 + (high - 0xD800) * 0x400 + (low - 0xDC00)) :: ·)
    else none
  | .half _ :: _ => none

end Piece

namespace Token

/-- Where the scanner stands. What was read of the open token is held in reverse. -/
inductive Mode
  | between
  | text (read : List Piece)
  /-- After a backslash. -/
  | escape (read : List Piece)
  /-- In the four digits of an escape. -/
  | hex (read : List Piece) (left value : Nat)
  | number (read : List Char)
  | word (read : List Char)
  deriving DecidableEq, Repr

structure Scanner where
  mode : Mode
  /-- In reverse. -/
  tokens : List Token
  deriving DecidableEq, Repr

def hexValue? (c : Char) : Option Nat :=
  if c.isDigit then some (c.toNat - '0'.toNat)
  else if 'a' ≤ c && c ≤ 'f' then some (c.toNat - 'a'.toNat + 10)
  else if 'A' ≤ c && c ≤ 'F' then some (c.toNat - 'A'.toNat + 10)
  else none

/-- The characters of the short escapes. -/
def shortEscape? (c : Char) : Option Char :=
  match c with
  | '"' => some '"'
  | '\\' => some '\\'
  | '/' => some '/'
  | 'b' => some '\x08'
  | 'f' => some '\x0c'
  | 'n' => some '\n'
  | 'r' => some '\r'
  | 't' => some '\t'
  | _ => none

def word? (cs : List Char) : Option Token :=
  if cs == ['n', 'u', 'l', 'l'] then some .null
  else if cs == ['t', 'r', 'u', 'e'] then some (.bool true)
  else if cs == ['f', 'a', 'l', 's', 'e'] then some (.bool false)
  else none

def isNumberChar (c : Char) : Bool :=
  c.isDigit || c == '-' || c == '+' || c == '.' || c == 'e' || c == 'E'

/-- JSON's white space. -/
def isSpace (c : Char) : Bool :=
  c == ' ' || c == '\t' || c == '\n' || c == '\r'

/-- A character outside of any token. -/
def start (tokens : List Token) (c : Char) : Option Scanner :=
  if isSpace c then some ⟨.between, tokens⟩
  else if c == '{' then some ⟨.between, .beginObject :: tokens⟩
  else if c == '}' then some ⟨.between, .endObject :: tokens⟩
  else if c == '[' then some ⟨.between, .beginArray :: tokens⟩
  else if c == ']' then some ⟨.between, .endArray :: tokens⟩
  else if c == ':' then some ⟨.between, .colon :: tokens⟩
  else if c == ',' then some ⟨.between, .comma :: tokens⟩
  else if c == '"' then some ⟨.text [], tokens⟩
  else if c == '-' || c.isDigit then some ⟨.number [c], tokens⟩
  else if c.isLower then some ⟨.word [c], tokens⟩
  else none

def Scanner.step (s : Scanner) (c : Char) : Option Scanner :=
  match s.mode with
  | .between => start s.tokens c
  | .text read =>
    if c == '"' then
      some ⟨.between, .text ((Piece.join read.reverse).map String.ofList) :: s.tokens⟩
    else if c == '\\' then some ⟨.escape read, s.tokens⟩
    else if c.toNat < 0x20 then none
    else some ⟨.text (.char c :: read), s.tokens⟩
  | .escape read =>
    if c == 'u' then some ⟨.hex read 4 0, s.tokens⟩
    else (shortEscape? c).map fun e => ⟨.text (.char e :: read), s.tokens⟩
  | .hex read left value =>
    (hexValue? c).map fun d =>
      let value := value * 16 + d
      if left ≤ 1 then ⟨.text (Piece.ofUnit value :: read), s.tokens⟩
      else ⟨.hex read (left - 1) value, s.tokens⟩
  | .number read =>
    if isNumberChar c then some ⟨.number (c :: read), s.tokens⟩
    else (Numeral.ofChars? read.reverse).bind fun n => start (.number n :: s.tokens) c
  | .word read =>
    if c.isLower then some ⟨.word (c :: read), s.tokens⟩
    else (word? read.reverse).bind fun t => start (t :: s.tokens) c

/-- The tokens once the text is over. -/
def Scanner.finish (s : Scanner) : Option (List Token) :=
  match s.mode with
  | .between => some s.tokens.reverse
  | .number read => (Numeral.ofChars? read.reverse).map fun n => (.number n :: s.tokens).reverse
  | .word read => (word? read.reverse).map fun t => (t :: s.tokens).reverse
  | _ => none

def scan (cs : List Char) : Option (List Token) :=
  (cs.foldlM Scanner.step ⟨.between, []⟩).bind Scanner.finish

end Token

end Lineage.Json
