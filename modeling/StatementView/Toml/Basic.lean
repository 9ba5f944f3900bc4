import StatementView.Text.Hex
import StatementView.Decimal.Digits

namespace StatementView

namespace Toml

inductive Token where
  | word (t : Text)
  | quoted (t : Text)
  | mark (c : Char)
  | comment

def isPrintable (c : Char) : Bool := c = '\t' || (' ' ≤ c && c ≠ '\x7F')

def isWordChar (c : Char) : Bool := c.isAlphanum || c = '_' || c = '-' || c = '+'

def scalar? (digits : Text) : Option Char := do
  let values ← digits.mapM Text.hexValue?
  let n := values.foldl (fun n d ↦ 16 * n + d) 0
  if n < 0xD800 ∨ (0xE000 ≤ n ∧ n < 0x110000) then some (Char.ofNat n) else none

def unescape? : Char → Option Char
  | 'b' => some '\x08'
  | 't' => some '\t'
  | 'n' => some '\n'
  | 'f' => some '\x0C'
  | 'r' => some '\r'
  | '"' => some '"'
  | '\\' => some '\\'
  | _ => none

/-- The text of a string behind its opening quote, and the number of characters it takes with its
closing quote. -/
def string? : Text → Option (Text × Nat)
  | [] => none
  | '"' :: _ => some ([], 1)
  | '\\' :: 'u' :: a :: b :: c :: d :: t => do
    let x ← scalar? [a, b, c, d]
    let (rest, n) ← string? t
    pure (x :: rest, n + 6)
  | '\\' :: 'U' :: a :: b :: c :: d :: e :: f :: g :: h :: t => do
    let x ← scalar? [a, b, c, d, e, f, g, h]
    let (rest, n) ← string? t
    pure (x :: rest, n + 10)
  | '\\' :: c :: t => do
    let x ← unescape? c
    let (rest, n) ← string? t
    pure (x :: rest, n + 2)
  | c :: t => do
    if c ≠ '\\' ∧ isPrintable c then
      let (rest, n) ← string? t
      pure (c :: rest, n + 1)
    else none

def literal? (t : Text) : Option (Text × Nat) :=
  let body := t.takeWhile (· ≠ '\'')
  if body.length < t.length ∧ body.all isPrintable then some (body, body.length + 1) else none

def token? (c : Char) (t : Text) : Option (Token × Nat) :=
  if c = '#' then if t.all isPrintable then some (.comment, t.length) else none
  else if c = '"' then (string? t).map fun (body, n) ↦ (.quoted body, n)
  else if c = '\'' then (literal? t).map fun (body, n) ↦ (.quoted body, n)
  else if c = '=' ∨ c = '.' ∨ c = '[' ∨ c = ']' then some (.mark c, 0)
  else if isWordChar c then
    some (.word (c :: t.takeWhile isWordChar), (t.takeWhile isWordChar).length)
  else none

def tokens? : Text → Option (List Token)
  | [] => some []
  | c :: t =>
    if c = ' ' ∨ c = '\t' then tokens? t
    else
      match token? c t with
      | none => none
      | some (token, n) => (tokens? (t.drop n)).map (token :: ·)
termination_by t => t.length
decreasing_by
  · simp
  · simp only [List.length_drop, List.length_cons]; omega

inductive Value where
  | string (t : Text)
  | integer (n : Int)
  | bool (b : Bool)

def groupedDigits? (t : Text) : Option Nat :=
  let groups := t.splitBy fun a b ↦ (a = '_') = (b = '_')
  let isApart := groups.all (fun g ↦ g.all Char.isDigit || g = ['_'])
  let isOpen := t.head? = some '_' ∨ t.getLast? = some '_'
  if !isApart ∨ isOpen ∨ (t.head? = some '0' ∧ t.length > 1) then none
  else Decimal.natural? (t.filter Char.isDigit)

def integer? : Text → Option Int
  | '-' :: t => (groupedDigits? t).map fun n ↦ -(n : Int)
  | '+' :: t => (groupedDigits? t).map fun n ↦ (n : Int)
  | t => (groupedDigits? t).map fun n ↦ (n : Int)

def Value.ofToken? : Token → Option Value
  | .quoted t => some (.string t)
  | .word t =>
    if t = "true".toList then some (.bool true)
    else if t = "false".toList then some (.bool false)
    else (integer? t).map .integer
  | _ => none

def key? : Token → Option Text
  | .quoted t => some t
  | .word t => if t.contains '+' then none else some t
  | _ => none

def path? (stop : Char) : List Token → Option (List Text × List Token)
  | k :: .mark c :: rest => do
    let key ← key? k
    if c = stop then some ([key], rest)
    else if c = '.' then
      let (path, rest) ← path? stop rest
      pure (key :: path, rest)
    else none
  | _ => none

def isOver : List Token → Bool
  | [] => true
  | [.comment] => true
  | _ => false

end Toml

/-- A document: its tables and its values by their paths. A value is a string, an integer or a truth
value; arrays, inline tables, floats and dates are refused. -/
structure Toml where
  tables : List (List Text)
  values : List (List Text × Toml.Value)

namespace Toml

def reaches (d : Toml) (path : List Text) : Bool :=
  d.tables.any path.isPrefixOf || d.values.any fun value ↦ path.isPrefixOf value.1

def isBlocked (d : Toml) (path : List Text) : Bool :=
  d.values.any fun value ↦ value.1.isPrefixOf path

structure Progress where
  document : Toml
  table : List Text

def takeLine? (p : Progress) (line : Text) : Option Progress := do
  match ← tokens? line with
  | .mark '[' :: tokens =>
    -- a table that is there already is refused, and so is a value below
    let (path, rest) ← path? ']' tokens
    if isOver rest ∧ path ∉ p.document.tables ∧ !p.document.isBlocked path then
      some ⟨{ p.document with tables := p.document.tables ++ [path] }, path⟩
    else none
  | tokens =>
    if isOver tokens then some p
    else
      let (keys, rest) ← path? '=' tokens
      let path := p.table ++ keys
      match rest with
      | token :: rest =>
        let value ← Value.ofToken? token
        if isOver rest ∧ !p.document.reaches path ∧ !p.document.isBlocked path then
          let values := p.document.values ++ [(path, value)]
          some { p with document := { p.document with values := values } }
        else none
      | [] => none

def lines (t : Text) : List Text :=
  -- a carriage return before a line break belongs to the break
  (t.splitOn '\n').map fun line ↦ (Text.before? ['\r'] line).getD line

def ofText? (t : Text) : Option Toml :=
  ((lines t).foldlM takeLine? ⟨⟨[], []⟩, []⟩).map Progress.document

def get? (d : Toml) (path : List Text) : Option Value := d.values.lookup path

end Toml

end StatementView
