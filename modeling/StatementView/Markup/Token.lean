import StatementView.Text.Blank
import StatementView.Text.Category

namespace StatementView.Markup

inductive Kind where
  | comment
  | quote
  | backtickQuote
  | parameter
  | number
  | word
  | boundary
  | space
  | stray
deriving DecidableEq

structure Token where
  kind : Kind
  text : Text

open Text (isLetter isDecimalDigit isNumeral isWordChar isBlank)

def run (p : Char → Bool) (t : Text) : Nat := (t.takeWhile p).length

def blockCommentLength : Text → Nat
  | [] => 0
  | [_] => 1
  | c :: d :: t => if c = '*' ∧ d = '/' then 2 else blockCommentLength (d :: t) + 1

def comment? : Char → Text → Option Nat
  | '-', '-' :: t => some (run (· ≠ '\n') t + 1)
  | '#', t => some (run (· ≠ '\n') t)
  | '/', '*' :: t => some (blockCommentLength t + 1)
  | _, _ => none

/-- The characters of a quoted literal behind its opening `mark`. A backslash takes the next
character with it and a doubled mark stands for itself; the literal ends with the mark or with the
text. It cannot end behind a backslash: then it ends within the last doubled mark before it, if
there is one. -/
def quoteLength? (mark : Char) : Text → Option Nat
  | [] => some 0
  | [c] => if c = '\\' then none else some 1
  | c :: d :: t =>
    if c = '\\' then (quoteLength? mark t).map (· + 2)
    else if c = mark then
      if d = mark then
        match quoteLength? mark t with
        | some n => some (n + 2)
        | none => some 1
      else some 1
    else (quoteLength? mark (d :: t)).map (· + 1)

def quote? (c : Char) (t : Text) : Option Nat :=
  if c = '\'' ∨ c = '"' then quoteLength? c t else none

def backtickLength : Text → Nat
  | [] => 0
  | [_] => 1
  | c :: d :: t =>
    if c = '\x60' then if d = '\x60' then backtickLength t + 2 else 1
    else backtickLength (d :: t) + 1

def backtickQuote? (c : Char) (t : Text) : Option Nat :=
  if c = '\x60' then some (backtickLength t) else none

def isNameStart (c : Char) : Bool := isLetter c || c = '_'

def run? (p : Char → Bool) (t : Text) : Option Nat :=
  if run p t = 0 then none else some (run p t)

def parameter? (c : Char) (t : Text) : Option Nat :=
  if c = '?' then some 0
  else if c = ':' then
    match t with
    | d :: u =>
      if isNameStart d then some (run (fun e ↦ isLetter e || isNumeral e || e = '_') u + 1)
      else none
    | [] => none
  else if c = '@' then
    run? (fun e ↦ isLetter e || isNumeral e || e = '_' || e = '.' || e = '$') t
  else if c = '$' then run? isDecimalDigit t
  else none

def endsNumber : Text → Bool
  | [] => true
  | c :: _ => !isWordChar c

def exponentLength? : Text → Option Nat
  | [] => none
  | c :: t =>
    if c = 'e' ∨ c = 'E' then
      match t with
      | d :: u =>
        if d = '+' ∨ d = '-' then (run? isDecimalDigit u).map (· + 2)
        else (run? isDecimalDigit t).map (· + 1)
      | [] => none
    else none

def fractionLength? : Text → Option Nat
  | '.' :: t => (run? isDecimalDigit t).map (· + 1)
  | _ => none

def decimalLengths (t : Text) : List Nat :=
  let whole := run isDecimalDigit t
  let fraction := (fractionLength? (t.drop whole)).map (whole + ·)
  let body := fraction.getD whole
  let exponent := (exponentLength? (t.drop body)).map (body + ·)
  -- the longest first
  exponent.toList ++ fraction.toList ++ [whole]

def isHexDigit (c : Char) : Bool :=
  c.isDigit || ('a' ≤ c && c ≤ 'f') || ('A' ≤ c && c ≤ 'F')

/-- The lengths that a number can have behind its first character, in order of preference. -/
def numberLengths (c : Char) (t : Text) : List Nat :=
  if isDecimalDigit c then
    let hex := match c, t with
      | '0', d :: u => if d = 'x' ∨ d = 'X' then ((run? isHexDigit u).map (· + 1)).toList else []
      | _, _ => []
    hex ++ decimalLengths t
  else if c = '.' then (run? isDecimalDigit t).toList
  else []

def number? (c : Char) (t : Text) : Option Nat :=
  (numberLengths c t).find? fun n ↦ endsNumber (t.drop n)

def word? (c : Char) (t : Text) : Option Nat :=
  if isNameStart c then
    some (run (fun e ↦ isLetter e || isNumeral e || e = '_' || e = '$') t)
  else none

def marks : Text := "(),;.=<>!+-*/%|&^~[]\x7b\x7d:".toList

def boundary? (c : Char) (t : Text) : Option Nat :=
  if c = ':' ∧ t.head? = some ':' then some 1
  else if marks.contains c then some 0
  else none

def space? (c : Char) (t : Text) : Option Nat :=
  if isBlank c then some (run isBlank t) else none

def Kind.length? : Kind → Char → Text → Option Nat
  | .comment => comment?
  | .quote => quote?
  | .backtickQuote => backtickQuote?
  | .parameter => parameter?
  | .number => number?
  | .word => word?
  | .boundary => boundary?
  | .space => space?
  | .stray => fun _ _ ↦ none

def Kind.order : List Kind :=
  [.comment, .quote, .backtickQuote, .parameter, .number, .word, .boundary, .space]

def lexeme? (c : Char) (t : Text) : Option (Kind × Nat) :=
  Kind.order.findSome? fun kind ↦ (kind.length? c t).map (kind, ·)

/-- Tokens with one stray character in front, which joins stray text. -/
def addStray (c : Char) : List Token → List Token
  | ⟨.stray, t⟩ :: tokens => ⟨.stray, c :: t⟩ :: tokens
  | tokens => ⟨.stray, [c]⟩ :: tokens

def tokens : Text → List Token
  | [] => []
  | c :: t =>
    match lexeme? c t with
    | some (kind, n) => ⟨kind, c :: t.take n⟩ :: tokens (t.drop n)
    | none => addStray c (tokens t)
termination_by t => t.length
decreasing_by
  · simp only [List.length_drop, List.length_cons]; omega
  · simp

end StatementView.Markup
