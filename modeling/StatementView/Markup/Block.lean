import StatementView.Text.Blank
import StatementView.Markup.Html

namespace StatementView.Markup

structure Block where
  cls : Text
  body : Text

namespace Block

def html (b : Block) : Text := element "pre".toList b.cls b.body

/-- The block that a text is, blanks around it aside: the class ends with the first quote, and the
body with the last closing tag. -/
def ofHtml? (t : Text) : Option Block := do
  let inner ← Text.after? "<pre class=\"".toList t.trim
  let rest ← Text.after? "\">".toList (inner.dropWhile (· ≠ '"'))
  let body ← Text.before? "</pre>".toList rest
  pure ⟨inner.takeWhile (· ≠ '"'), body⟩

def division (b : Block) : Text :=
  element "div".toList b.cls ("<pre>".toList ++ b.body ++ "</pre>".toList)

end Block

end StatementView.Markup
