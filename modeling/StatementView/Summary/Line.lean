import StatementView.Literal
import StatementView.Text.Blank
import StatementView.Clause.Pattern

namespace StatementView.Summary

/-- Characters set aside for each keyword and the blanks around it. -/
def overhead : Nat := 5

def budget (width count : Nat) : Nat :=
  if count = 0 then max width 1 else max ((width - overhead * count) / count) 1

inductive Fit where
  | whole (line : Text)
  | broken (atBlank : Option Text) (atEnd : Text)

/-- The first line of a text held against `room` characters. A blank just behind the room still
serves as the place of the break. -/
def fit : Nat → Text → Fit
  | _, [] => .whole []
  | 0, c :: _ =>
    if c = '\n' then .whole [] else .broken (if c = ' ' then some [] else none) []
  | room + 1, c :: t =>
    if c = '\n' then .whole []
    else
      match fit room t with
      | .whole line => .whole (c :: line)
      | .broken (some line) atEnd => .broken (some (c :: line)) (c :: atEnd)
      | .broken none atEnd => .broken (if c = ' ' then some [] else none) (c :: atEnd)

def firstLine (width : Nat) (t : Text) : Text :=
  match fit width t with
  | .whole line => line
  | .broken atBlank atEnd => atBlank.getD atEnd

def shorten (share : Nat) (marker value : Text) : Text :=
  -- a value is measured and cut before it is escaped
  if value.length > share then Literal.escape (firstLine share value) ++ marker
  else Literal.escape value

def part (share : Nat) (marker : Text) (c : Capture) : Text :=
  let value := shorten share marker c.value
  if value.isEmpty then c.keyword else c.keyword ++ ' ' :: value

def shrink (width : Nat) (marker : Text) (captures : List Capture) : Text :=
  Text.trim (Text.join [' '] (captures.map (part (budget width captures.length) marker)))

end StatementView.Summary
