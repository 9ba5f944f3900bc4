import StatementView.Proofs.Markup.Wrapper

namespace StatementView.Markup

def Backend.answer (b : Backend) (classes : Classes) (t : Text) (inline : Bool) : Text :=
  if inline then b.highlight classes t else b.format classes t

def closings : Text → Nat
  | [] => 0
  | c :: t => (if "</pre>".toList.isPrefixOf (c :: t) then 1 else 0) + closings t

namespace Block

/-- The text is the block with blanks around it, and no closing tag stands inside the block. -/
def IsSingle (b : Block) (html : Text) : Prop := b.Fills html ∧ ¬ "</pre>".toList <:+: b.body

def page (b : Block) (inline : Bool) : Text := if inline then b.body else b.division

end Block

variable {t u html : Text}

theorem closings_append_le (t u : Text) : closings t + closings u ≤ closings (t ++ u) := by
  induction t with
  | nil => rw [List.nil_append, closings, Nat.zero_add]
  | cons c t ih =>
    rw [List.cons_append, closings, closings]
    split
    · next h =>
      have happ : "</pre>".toList.isPrefixOf (c :: (t ++ u)) = true :=
        List.isPrefixOf_iff_prefix.mpr
          ((List.isPrefixOf_iff_prefix.mp h).trans (List.prefix_append (c :: t) u))
      rw [if_pos happ]
      omega
    · omega

theorem closings_le_of_infix (h : t <:+: u) : closings t ≤ closings u := by
  obtain ⟨front, back, rfl⟩ := h
  have hfront := closings_append_le front t
  have hback := closings_append_le (front ++ t) back
  omega

namespace Block

variable {b : Block}

theorem infix_of_fills (h : b.Fills html) : b.body ++ "</pre>".toList <:+: html := by
  obtain ⟨-, front, back, -, -, rfl⟩ := h
  have hbody : b.body ++ "</pre>".toList <:+ b.html := by
    rw [html_eq, ← List.append_assoc, ← List.append_assoc]
    exact List.suffix_append _ _
  exact hbody.isInfix.trans ⟨front, back, rfl⟩

theorem isSingle_of_closings (hc : closings html ≤ 1) (h : b.Fills html) : b.IsSingle html := by
  refine ⟨h, fun hin ↦ ?_⟩
  have hone : closings "</pre>".toList = 1 := by decide
  have hbody := closings_le_of_infix hin
  have happ := closings_append_le b.body "</pre>".toList
  have hhtml := closings_le_of_infix (infix_of_fills h)
  omega

end Block

namespace Backend

variable {b : Backend} {classes : Classes} {inline : Bool}

theorem render_of_fills {block : Block} (h : block.Fills (b.answer classes t inline)) :
    b.render classes t inline = block.page inline := by
  have hsome := Block.ofHtml?_eq_some_iff.mpr h
  unfold answer at hsome
  simp only [render, hsome, Block.page]

theorem render_of_not_fills (h : ∀ block : Block, ¬ block.Fills (b.answer classes t inline)) :
    b.render classes t inline = b.answer classes t inline := by
  have hnone : Block.ofHtml? (b.answer classes t inline) = none :=
    Option.eq_none_iff_forall_ne_some.mpr fun block hb ↦
      h block (Block.ofHtml?_eq_some_iff.mp hb)
  unfold answer at hnone
  simp only [render, hnone, answer]

/-- An answer that is no single block is kept as it is, if it holds no more than one closing tag. The
only ones that are not kept begin and end as a block does and have a closing tag in between: of these
the page shows all that stands between the first tag and the last one. -/
theorem render_of_not_single
    (h : ∀ block : Block, ¬ block.IsSingle (b.answer classes t inline)) :
    (closings (b.answer classes t inline) ≤ 1 →
        b.render classes t inline = b.answer classes t inline) ∧
      (b.render classes t inline ≠ b.answer classes t inline →
        ∃ block : Block, block.Fills (b.answer classes t inline) ∧
          "</pre>".toList <:+: block.body ∧ b.render classes t inline = block.page inline) := by
  constructor
  · intro hc
    exact render_of_not_fills fun block hb ↦ h block (Block.isSingle_of_closings hc hb)
  · intro hne
    by_cases hfills : ∃ block : Block, block.Fills (b.answer classes t inline)
    · obtain ⟨block, hb⟩ := hfills
      exact ⟨block, hb, not_not.mp fun hin ↦ h block ⟨hb, hin⟩, render_of_fills hb⟩
    · exact absurd (render_of_not_fills (not_exists.mp hfills)) hne

theorem render_of_not_single_tail :
    let html := "<pre class=\"a\">x</pre> y".toList
    let b : Backend := ⟨fun _ _ ↦ html, fun _ _ ↦ html⟩
    (∀ block : Block, ¬ block.IsSingle (b.answer .default ['x'] true)) ∧
      closings (b.answer .default ['x'] true) ≤ 1 ∧ b.render .default ['x'] true = html := by
  intro html b
  have hnone : Block.ofHtml? html = none := by decide
  have hsingle : ∀ block : Block, ¬ block.IsSingle (b.answer .default ['x'] true) := by
    rintro block ⟨hb, -⟩
    cases hnone.symm.trans (Block.ofHtml?_eq_some_iff.mpr hb)
  have hc : closings (b.answer .default ['x'] true) ≤ 1 := by decide
  obtain ⟨hkept, -⟩ := render_of_not_single hsingle
  exact ⟨hsingle, hc, hkept hc⟩

/-- Two blocks are no single block, but they are not kept: the first tag and the last one are gone. -/
theorem render_two_blocks :
    let html := "<pre class=\"a\">x</pre><pre class=\"b\">y</pre>".toList
    let b : Backend := ⟨fun _ _ ↦ html, fun _ _ ↦ html⟩
    (∀ block : Block, ¬ block.IsSingle html) ∧
      b.render .default ['x'] true = "x</pre><pre class=\"b\">y".toList ∧
      b.render .default ['x'] false =
        "<div class=\"a\"><pre>x</pre><pre class=\"b\">y</pre></div>".toList := by
  intro html b
  have hfills : (Block.mk ['a'] "x</pre><pre class=\"b\">y".toList).Fills html :=
    ⟨by decide, [], [], by simp, by simp, by decide⟩
  have hpage (inline : Bool) :
      b.render .default ['x'] inline =
        (Block.mk ['a'] "x</pre><pre class=\"b\">y".toList).page inline := by
    apply render_of_fills
    cases inline <;> exact hfills
  refine ⟨?_, hpage true, ?_⟩
  · rintro block ⟨hb, hin⟩
    rw [hfills.unique hb] at hin
    exact hin ⟨['x'], "<pre class=\"b\">y".toList, by decide⟩
  · rw [hpage false, Block.page, if_neg Bool.false_ne_true, Block.division_eq]
    rfl

end Backend

end StatementView.Markup
