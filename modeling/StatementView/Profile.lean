import StatementView.Summary.Basic
import StatementView.Placeholder.Substitution

namespace StatementView

structure Row where
  summary : Text
  runnable : Text
  family : Option Family
  bound : Nat

namespace Row

def describe (s : Summary.Settings) (b : Bindings) (t : Text) : Row where
  summary := s.summarize t
  runnable := Placeholder.substitute b t
  family := Family.detect t
  bound := b.size

inductive Extent where
  | nothing
  | whole
  | upTo (length : Nat)

def Extent.default : Extent := .upTo 1000

def Extent.of? : Extent → Text → Option Text
  | .nothing, _ => none
  | .whole, t => some t
  | .upTo length, t => if t.length > length then some (t.take length ++ "...".toList) else some t

def statement? (r : Row) (extent : Extent) : Option Text := extent.of? r.runnable

def event (level : Level) (extent : Extent) (r : Row) : Event where
  target := "sqlpeek.sql".toList
  level := level
  fields :=
    (r.family.map fun f ↦ ("family".toList, Field.text f.keyword)).toList ++
      [("param_count".toList, .count r.bound), ("summary".toList, .text r.summary)] ++
      ((r.statement? extent).map fun t ↦ ("sql".toList, Field.text t)).toList

end Row

end StatementView
