import StatementView.Combination
import StatementView.Statement.Family
import StatementView.Clause.Pattern

namespace StatementView.Family

open Clause (Pattern)

/-- The keyword sequences of a family: more optional clauses before fewer, of equally many in the
order of the vocabulary, and the mandatory keywords alone at the end. -/
def sequences (f : Family) : List (List Text) :=
  let mandatory := f.vocabulary.mandatory
  let optional := f.vocabulary.optional
  let counts := (List.range' 1 optional.length).reverse
  counts.flatMap (fun count ↦ (combinations optional count).map (mandatory ++ ·)) ++ [mandatory]

def patterns (f : Family) : List Pattern := f.sequences.map Pattern.ofKeywords

def firstMatch? (f : Family) (t : Text) : Option (Pattern × List Capture) :=
  f.patterns.findSome? fun p ↦ (p.captures? t).map (p, ·)

end StatementView.Family
