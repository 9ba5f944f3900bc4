import StatementView.Text.Basic

namespace StatementView

inductive Level where
  | trace
  | debug
  | info
  | warn
  | error

inductive Field where
  | text (t : Text)
  | count (n : Nat)

structure Event where
  target : Text
  level : Level
  fields : List (Text × Field)

end StatementView
