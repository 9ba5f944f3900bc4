import StatementView.Decimal.Digits

namespace StatementView

inductive Key where
  | index (n : Nat)
  | name (t : Text)
deriving DecidableEq

namespace Key

/-- The key that a name in a statement or a document stands for: it is a position where reading a
word from it and writing the word again gives it back. -/
def ofName (t : Text) : Key :=
  match Decimal.word? t with
  | some n => if Decimal.natural n = t then .index n else .name t
  | none => .name t

def text : Key → Text
  | .index n => Decimal.natural n
  | .name t => t

end Key

end StatementView
