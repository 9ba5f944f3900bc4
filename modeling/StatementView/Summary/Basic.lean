import StatementView.Clause.Table
import StatementView.Summary.Line
import StatementView.Summary.Settings
import StatementView.Event

namespace StatementView.Summary

open Clause (Pattern)

inductive Finding where
  | unclassified
  | unmatched (family : Family)
  | matched (family : Family) (pattern : Pattern) (captures : List Capture)

def find (t : Text) : Finding :=
  match Family.detect t with
  | none => .unclassified
  | some family =>
    match family.firstMatch? t with
    | none => .unmatched family
    | some (pattern, captures) => .matched family pattern captures

def Settings.truncate (s : Settings) (t : Text) : Text := t.take s.width

def Settings.summarize (s : Settings) (t : Text) : Text :=
  match find t with
  | .matched _ _ captures => shrink s.width s.marker captures
  | _ => s.truncate t

def listText (keywords : List Text) : Text :=
  '[' :: Text.join [',', ' '] (keywords.map fun k ↦ '"' :: k ++ ['"']) ++ [']']

def Finding.fields : Finding → List (Text × Field)
  | .unclassified => [("message".toList, .text "unclassified statement; truncating".toList)]
  | .unmatched family =>
    [("family".toList, .text family.title),
     ("message".toList, .text "no keyword pattern matched; truncating".toList)]
  | .matched family pattern _ =>
    [("family".toList, .text family.title),
     ("keywords".toList, .text (listText pattern.keywords)),
     ("message".toList, .text "keyword pattern matched".toList)]

def Finding.event (f : Finding) : Event := ⟨"sqlpeek.minify".toList, .trace, f.fields⟩

end StatementView.Summary
