import StatementView.Markup.Classes
import StatementView.Markup.Html
import StatementView.Markup.Token

namespace StatementView.Markup

def reservedWords : List Text :=
  ["ALL", "ALTER", "AND", "AS", "ASC", "BETWEEN", "BY", "CASE", "CREATE", "CROSS", "DELETE",
    "DESC", "DISTINCT", "DROP", "ELSE", "END", "EXISTS", "FALSE", "FOR", "FROM", "FULL", "GROUP",
    "HAVING", "IN", "INNER", "INSERT", "INTERSECT", "INTO", "IS", "JOIN", "LEFT", "LIKE", "LIMIT",
    "NOT", "NULL", "OFFSET", "ON", "OR", "ORDER", "OUTER", "RETURNING", "RIGHT", "SELECT", "SET",
    "TABLE", "THEN", "TRUE", "UNION", "UPDATE", "USING", "VALUE", "VALUES", "WHEN", "WHERE",
    "WITH"].map String.toList

def isReserved (word : Text) : Bool := reservedWords.contains word.upper

def Classes.of? (classes : Classes) (token : Token) : Option Text :=
  match token.kind with
  | .comment => some classes.comment
  | .quote => some classes.quote
  | .backtickQuote => some classes.backtickQuote
  | .parameter => some classes.parameter
  | .number => some classes.number
  | .word => some (if isReserved token.text then classes.reserved else classes.word)
  | .boundary => some classes.boundary
  | .space => none
  | .stray => some classes.error

def span (cls t : Text) : Text := element "span".toList (escape cls) (escape t)

def Token.html (classes : Classes) (token : Token) : Text :=
  match classes.of? token with
  | some cls => span cls token.text
  | none => token.text

def tokenHtml (classes : Classes) (t : Text) : Text := (tokens t).flatMap (Token.html classes)

end StatementView.Markup
