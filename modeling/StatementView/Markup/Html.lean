import StatementView.Text.Basic

namespace StatementView.Markup

def entity (c : Char) : Text :=
  if c = '&' then "&amp;".toList
  else if c = '<' then "&lt;".toList
  else if c = '>' then "&gt;".toList
  else if c = '"' then "&quot;".toList
  else [c]

def escape (t : Text) : Text := t.flatMap entity

def element (tag cls body : Text) : Text :=
  '<' :: tag ++ " class=\"".toList ++ cls ++ "\">".toList ++ body ++ "</".toList ++ tag ++ ['>']

end StatementView.Markup
