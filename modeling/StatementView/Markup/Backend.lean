import StatementView.Markup.Block
import StatementView.Markup.Highlight

namespace StatementView.Markup

structure Backend where
  highlight : Classes → Text → Text
  format : Classes → Text → Text

namespace Backend

def plain : Backend :=
  let block (classes : Classes) (t : Text) : Text := Block.html ⟨escape classes.pre, escape t⟩
  { highlight := block
    format := fun classes t ↦ block classes t.trim }

def spans (layout : Text → Text) : Backend :=
  let block (classes : Classes) (t : Text) : Text :=
    Block.html ⟨escape classes.pre, tokenHtml classes t⟩
  { highlight := block
    format := fun classes t ↦ block classes (layout t) }

/-- A statement for a page: the inner markup of a highlighted block with `inline`, and a division
otherwise. An answer that is no block is kept. -/
def render (b : Backend) (classes : Classes) (t : Text) (inline : Bool) : Text :=
  let html := if inline then b.highlight classes t else b.format classes t
  match Block.ofHtml? html with
  | some block => if inline then block.body else block.division
  | none => html

end Backend

end StatementView.Markup
