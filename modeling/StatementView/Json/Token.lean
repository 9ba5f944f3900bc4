import StatementView.Text.Hex
import StatementView.Decimal.Numeral

namespace StatementView.Json

open Decimal (Numeral)

inductive Piece where
  | char (c : Char)
  | unit (n : Nat)

inductive Token where
  | openArray
  | closeArray
  | openObject
  | closeObject
  | colon
  | comma
  | null
  | bool (b : Bool)
  | number (n : Numeral)
  | string (pieces : List Piece)

/-- What the scan stands in; what it has collected there is held last first. -/
inductive Scan where
  | between
  | word (letters : Text)
  | number (characters : Text)
  | string (pieces : List Piece)
  | escape (pieces : List Piece)
  | unit (pieces : List Piece) (count value : Nat)

def wordToken? (word : Text) : Option Token :=
  if word = "null".toList then some .null
  else if word = "true".toList then some (.bool true)
  else if word = "false".toList then some (.bool false)
  else none

def unescape? : Char → Option Char
  | '"' => some '"'
  | '\\' => some '\\'
  | '/' => some '/'
  | 'b' => some '\x08'
  | 'f' => some '\x0C'
  | 'n' => some '\n'
  | 'r' => some '\r'
  | 't' => some '\t'
  | _ => none

def isNumberChar (c : Char) : Bool :=
  c.isDigit || c = '-' || c = '+' || c = '.' || c = 'e' || c = 'E'

def begin? (tokens : List Token) (c : Char) : Option (List Token × Scan) :=
  match c with
  | ' ' | '\t' | '\n' | '\r' => some (tokens, .between)
  | '[' => some (.openArray :: tokens, .between)
  | ']' => some (.closeArray :: tokens, .between)
  | '\x7b' => some (.openObject :: tokens, .between)
  | '\x7d' => some (.closeObject :: tokens, .between)
  | ':' => some (.colon :: tokens, .between)
  | ',' => some (.comma :: tokens, .between)
  | '"' => some (tokens, .string [])
  | _ =>
    if c.isDigit ∨ c = '-' then some (tokens, .number [c])
    else if c.isLower then some (tokens, .word [c])
    else none

def scanChar : List Token × Scan → Char → Option (List Token × Scan)
  | (tokens, .between), c => begin? tokens c
  | (tokens, .word letters), c =>
    if c.isLower then some (tokens, .word (c :: letters))
    else (wordToken? letters.reverse).bind fun token ↦ begin? (token :: tokens) c
  | (tokens, .number characters), c =>
    if isNumberChar c then some (tokens, .number (c :: characters))
    else (Numeral.ofText? characters.reverse).bind fun n ↦ begin? (.number n :: tokens) c
  | (tokens, .string pieces), c =>
    if c = '"' then some (.string pieces.reverse :: tokens, .between)
    else if c = '\\' then some (tokens, .escape pieces)
    else if c < ' ' then none
    else some (tokens, .string (.char c :: pieces))
  | (tokens, .escape pieces), c =>
    if c = 'u' then some (tokens, .unit pieces 0 0)
    else (unescape? c).map fun d ↦ (tokens, .string (.char d :: pieces))
  | (tokens, .unit pieces count value), c =>
    (Text.hexValue? c).map fun digit ↦
      if count = 3 then (tokens, .string (.unit (16 * value + digit) :: pieces))
      else (tokens, .unit pieces (count + 1) (16 * value + digit))

def endScan? : List Token × Scan → Option (List Token)
  | (tokens, .between) => some tokens
  | (tokens, .word letters) => (wordToken? letters.reverse).map (· :: tokens)
  | (tokens, .number characters) => (Numeral.ofText? characters.reverse).map (.number · :: tokens)
  | _ => none

def tokens? (t : Text) : Option (List Token) :=
  ((t.foldlM scanChar ([], .between)).bind endScan?).map List.reverse

end StatementView.Json
