import StatementView.Text.Basic

namespace StatementView

inductive Family where
  | select
  | delete
  | update
  | insert
deriving DecidableEq

/-- The clause keywords of a family in the order of a statement. Every statement of the family has
the first `required` of them; the others are optional. -/
structure Vocabulary where
  keywords : List Text
  required : Nat

namespace Vocabulary

def mandatory (v : Vocabulary) : List Text := v.keywords.take v.required

def optional (v : Vocabulary) : List Text := v.keywords.drop v.required

end Vocabulary

namespace Family

def all : List Family := [.select, .delete, .update, .insert]

def keyword : Family → Text
  | .select => "SELECT".toList
  | .delete => "DELETE".toList
  | .update => "UPDATE".toList
  | .insert => "INSERT".toList

def title : Family → Text
  | .select => "Select".toList
  | .delete => "Delete".toList
  | .update => "Update".toList
  | .insert => "Insert".toList

def name (f : Family) : Text := f.keyword.lower

def ofName? (t : Text) : Option Family := all.find? fun f ↦ f.name = t

def vocabulary : Family → Vocabulary
  | .select => ⟨["SELECT".toList, "FROM".toList, "WHERE".toList, "HAVING".toList,
      "ORDER BY".toList, "LIMIT".toList], 2⟩
  | .delete => ⟨["DELETE".toList, "FROM".toList, "WHERE".toList, "ORDER BY".toList,
      "LIMIT".toList], 2⟩
  | .update => ⟨["UPDATE".toList, "SET".toList, "WHERE".toList, "ORDER BY".toList,
      "LIMIT".toList], 2⟩
  | .insert => ⟨["INSERT".toList, "INTO".toList, "VALUE".toList, "VALUES".toList], 2⟩

/-- The first family whose keyword stands anywhere in the text, in any case of its letters. -/
def detect (t : Text) : Option Family := all.find? fun f ↦ Text.holds f.keyword t.upper

end Family

end StatementView
