import StatementView.Json.Basic

namespace StatementView.Markup

structure Classes where
  pre : Text
  quote : Text
  backtickQuote : Text
  reserved : Text
  boundary : Text
  number : Text
  word : Text
  error : Text
  comment : Text
  parameter : Text

namespace Classes

def default : Classes where
  pre := "highlight highlight-sql".toList
  quote := "string".toList
  backtickQuote := "string".toList
  reserved := "keyword".toList
  boundary := "symbol".toList
  number := "number".toList
  word := "word".toList
  error := "error".toList
  comment := "comment".toList
  parameter := "variable".toList

def names : List Text :=
  ["pre", "quote", "backtick_quote", "reserved", "boundary", "number", "word", "error", "comment",
    "variable"].map String.toList

def read? {α : Type} (string? : α → Option Text) (given : Text → Option α) : Option Classes := do
  let field (name : String) (fallback : Text) : Option Text :=
    match given name.toList with
    | some value => string? value
    | none => some fallback
  pure
    { pre := ← field "pre" default.pre
      quote := ← field "quote" default.quote
      backtickQuote := ← field "backtick_quote" default.backtickQuote
      reserved := ← field "reserved" default.reserved
      boundary := ← field "boundary" default.boundary
      number := ← field "number" default.number
      word := ← field "word" default.word
      error := ← field "error" default.error
      comment := ← field "comment" default.comment
      parameter := ← field "variable" default.parameter }

def string? : Json → Option Text
  | .string t => some t
  | _ => none

/-- The classes that a document writes: an object, of which other fields are ignored, or an array of
classes in their order. -/
def ofJson? : Json → Option Classes
  | .array items =>
    if items.length > names.length then none
    else read? string? fun name ↦ items[names.idxOf name]?
  | .object fields => read? string? fun name ↦ fields.lookup name
  | _ => none

end Classes

end StatementView.Markup
