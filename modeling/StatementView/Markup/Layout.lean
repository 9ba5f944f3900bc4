import StatementView.Text.Blank

namespace StatementView.Markup.Layout

open Text (isBlank)

structure Lexeme where
  text : Text
  spaced : Bool

def isComparison (c : Char) : Bool := c = '=' || c = '<' || c = '>' || c = '!'

def isMark (c : Char) : Bool := c = ',' || c = '(' || c = ')' || c = '*' || c = '?'

def isPlain (c : Char) : Bool := !isBlank c && !isMark c && !isComparison c && c ≠ '\''

def extent (c : Char) (t : Text) : Nat :=
  if c = '\'' then (t.takeWhile (· ≠ '\'')).length + 1
  else if isMark c then 0
  else if isComparison c then (t.takeWhile isComparison).length
  else (t.takeWhile isPlain).length

def lexemes (spaced : Bool) : Text → List Lexeme
  | [] => []
  | c :: t =>
    if isBlank c then lexemes true t
    else ⟨c :: t.take (extent c t), spaced⟩ :: lexemes false (t.drop (extent c t))
termination_by t => t.length
decreasing_by
  · simp
  · simp only [List.length_drop, List.length_cons]; omega

def clauses : List (List Text) :=
  [["SELECT".toList], ["FROM".toList], ["WHERE".toList], ["GROUP".toList, "BY".toList],
    ["HAVING".toList], ["ORDER".toList, "BY".toList], ["LIMIT".toList],
    ["DELETE".toList, "FROM".toList], ["UPDATE".toList], ["SET".toList],
    ["INSERT".toList, "INTO".toList], ["VALUES".toList]]

inductive Part where
  | clause (phrase : Text)
  | comma
  | opening (spaced : Bool)
  | closing
  | connective (word : Text)
  | word (t : Text)

def Part.ofLexeme (l : Lexeme) : Part :=
  if l.text = [','] then .comma
  else if l.text = ['('] then .opening l.spaced
  else if l.text = [')'] then .closing
  else if l.text.upper = "AND".toList ∨ l.text.upper = "OR".toList then .connective l.text.upper
  else if l.text.upper = "IN".toList then .word l.text.upper
  else .word l.text

def parts : List Lexeme → List Part
  | [] => []
  | [l] =>
    if clauses.contains [l.text.upper] then [.clause l.text.upper] else [.ofLexeme l]
  | l :: l' :: ls =>
    if clauses.contains [l.text.upper, l'.text.upper] then
      .clause (l.text.upper ++ ' ' :: l'.text.upper) :: parts ls
    else if clauses.contains [l.text.upper] then .clause l.text.upper :: parts (l' :: ls)
    else .ofLexeme l :: parts (l' :: ls)

inductive Lead where
  | nothing
  | blank
  | line

/-- Where the layout stands: inside how many parentheses, in a clause whose items share a line, and
what goes before the next part. -/
structure Place where
  depth : Nat
  shared : Bool
  lead : Lead

def Lead.text (indent : Nat) : Lead → Text
  | .nothing => []
  | .blank => [' ']
  | .line => '\n' :: List.replicate indent ' '

def Lead.tight : Lead → Text
  | .line => ['\n']
  | _ => []

def write (indent : Nat) (place : Place) : List Part → Text
  | [] => []
  | part :: rest =>
    let lead := place.lead.text indent
    match part with
    | .clause phrase =>
      if place.depth = 0 then
        '\n' :: phrase ++ write indent ⟨0, phrase = "LIMIT".toList, .line⟩ rest
      else lead ++ phrase ++ write indent { place with lead := .blank } rest
    | .comma =>
      let lead := if place.depth = 0 ∧ !place.shared then .line else .blank
      ',' :: write indent { place with lead := lead } rest
    | .opening spaced =>
      (if spaced then lead else place.lead.tight) ++
        '(' :: write indent { place with depth := place.depth + 1, lead := .nothing } rest
    | .closing => ')' :: write indent { place with depth := place.depth - 1, lead := .blank } rest
    | .connective word =>
      (if place.depth = 0 then Lead.line.text indent else lead) ++ word ++
        write indent { place with lead := .blank } rest
    | .word t => lead ++ t ++ write indent { place with lead := .blank } rest

end Layout

/-- A statement laid out with clause bodies indented by `indent` blanks. This covers the plain
statements of the four families: words, numbers, quoted literals without escapes, comparisons, lists
and parentheses. -/
def layout (indent : Nat) (t : Text) : Text :=
  Text.trim (Layout.write indent ⟨0, false, .nothing⟩ (Layout.parts (Layout.lexemes false t)))

end StatementView.Markup
