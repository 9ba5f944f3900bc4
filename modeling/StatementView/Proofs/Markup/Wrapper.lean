import StatementView.Markup.Backend
import StatementView.Proofs.Text.Runs
import StatementView.Proofs.Markup.Fragments

namespace StatementView.Markup

open Text (isBlank)

namespace Block

/-- The text is the block with blanks around it, and the class of the block ends at the first
quote. -/
def Fills (b : Block) (html : Text) : Prop :=
  '"' ∉ b.cls ∧ ∃ front back : Text, (∀ c ∈ front, isBlank c = true) ∧
    (∀ c ∈ back, isBlank c = true) ∧ html = front ++ b.html ++ back

theorem html_eq (b : Block) :
    b.html =
      "<pre class=\"".toList ++ (b.cls ++ ("\">".toList ++ (b.body ++ "</pre>".toList))) := by
  have hopen : "<pre class=\"".toList = '<' :: "pre".toList ++ " class=\"".toList := rfl
  have hclose : "</pre>".toList = "</".toList ++ "pre".toList ++ ['>'] := rfl
  rw [hopen, hclose, html, element]
  simp only [List.append_assoc]

theorem trim_html {b : Block} {front back : Text} (hf : ∀ c ∈ front, isBlank c = true)
    (hb : ∀ c ∈ back, isBlank c = true) : Text.trim (front ++ b.html ++ back) = b.html := by
  obtain ⟨t, ht⟩ : ∃ t, b.html = '<' :: t := ⟨_, rfl⟩
  obtain ⟨u, hu⟩ : ∃ u, b.html = u ++ ['>'] := ⟨_, rfl⟩
  have hs : ¬ Text.Begins isBlank b.html := by
    rw [ht, Text.begins_cons]
    decide
  have he : ¬ Text.Begins isBlank b.html.reverse := by
    rw [hu, List.reverse_append, List.reverse_singleton, List.singleton_append, Text.begins_cons]
    decide
  exact Text.trim_run hf hb (by simp [ht]) hs he

theorem ofHtml?_eq_some_iff {b : Block} {html : Text} :
    ofHtml? html = some b ↔ b.Fills html := by
  constructor
  · intro h
    obtain ⟨front, back, hf, hb, hhtml⟩ := Text.exists_trim html
    obtain ⟨inner, hi, h⟩ := Option.bind_eq_some_iff.mp h
    obtain ⟨rest, hr, h⟩ := Option.bind_eq_some_iff.mp h
    obtain ⟨body, hbody, h⟩ := Option.bind_eq_some_iff.mp h
    obtain rfl := Option.some.inj h
    have hcls : '"' ∉ inner.takeWhile (· ≠ '"') := fun hm ↦
      absurd (List.mem_takeWhile_imp hm) (by decide)
    refine ⟨hcls, front, back, hf, hb, ?_⟩
    rw [html_eq]
    dsimp only
    rw [← Text.before?_eq_some_iff.mp hbody, ← Text.after?_eq_some_iff.mp hr,
      List.takeWhile_append_dropWhile, ← Text.after?_eq_some_iff.mp hi]
    exact hhtml
  · intro h
    obtain ⟨hcls, front, back, hf, hb, rfl⟩ := h
    have hnot : ∀ c ∈ b.cls, decide (c ≠ '"') = true := by
      intro c hc
      apply decide_eq_true
      rintro rfl
      exact hcls hc
    have hquote (t : Text) : ¬ Text.Begins (fun c ↦ decide (c ≠ '"')) ("\">".toList ++ t) :=
      mt Text.begins_cons.mp (by decide)
    rw [ofHtml?, trim_html hf hb, html_eq, Text.after?_append, Option.bind_eq_bind,
      Option.bind_some, Text.dropWhile_run hnot (hquote _), Text.takeWhile_run hnot (hquote _),
      Text.after?_append, Option.bind_some, Text.before?_eq_some_iff.mpr rfl]
    rfl

theorem Fills.unique {b b' : Block} {html : Text} (h : b.Fills html) (h' : b'.Fills html) :
    b' = b := by
  have hb := ofHtml?_eq_some_iff.mpr h
  rw [ofHtml?_eq_some_iff.mpr h'] at hb
  exact Option.some.inj hb

end Block

theorem quote_not_mem_escape (t : Text) : '"' ∉ escape t := by
  intro h
  obtain ⟨c, -, hc⟩ := List.mem_flatMap.mp h
  by_cases hq : c = '"'
  · subst hq
    exact absurd hc (by decide)
  · rcases entity_cases c with ⟨-, he⟩ | ⟨-, he⟩ | ⟨-, he⟩ | ⟨-, he⟩ | ⟨-, -, -, he⟩ <;>
      rw [he] at hc
    · exact absurd hc (by decide)
    · exact absurd hc (by decide)
    · exact absurd hc (by decide)
    · exact absurd hc (by decide)
    · exact hq (List.mem_singleton.mp hc).symm

theorem fills_html (cls body : Text) :
    (Block.mk (escape cls) body).Fills (Block.html ⟨escape cls, body⟩) :=
  ⟨quote_not_mem_escape cls, [], [], by simp, by simp, by simp⟩

/-- What comes of a statement: both answers of the backend are one block each and are so in one way
only, the page has the body of the first inline, and that of the second in a division. -/
structure Backend.Shows (b : Backend) (classes : Classes) (t body laidOut : Text) : Prop where
  highlight (block : Block) :
    block.Fills (b.highlight classes t) ↔ block = ⟨escape classes.pre, body⟩
  format (block : Block) :
    block.Fills (b.format classes t) ↔ block = ⟨escape classes.pre, laidOut⟩
  render_inline : b.render classes t true = body
  render_division : b.render classes t false =
    "<div class=\"".toList ++ escape classes.pre ++ "\"><pre>".toList ++ laidOut ++
      "</pre></div>".toList

theorem Block.division_eq (cls body : Text) :
    Block.division ⟨cls, body⟩ =
      "<div class=\"".toList ++ cls ++ "\"><pre>".toList ++ body ++ "</pre></div>".toList := by
  have hopen : "<div class=\"".toList = '<' :: "div".toList ++ " class=\"".toList := rfl
  have hmiddle : "\"><pre>".toList = "\">".toList ++ "<pre>".toList := rfl
  have hclose : "</pre></div>".toList =
    "</pre>".toList ++ ("</".toList ++ ("div".toList ++ ['>'])) := rfl
  rw [hopen, hmiddle, hclose, division, element]
  simp only [List.append_assoc]

theorem Backend.shows_of_html {b : Backend} {classes : Classes} {t body laidOut : Text}
    (hh : b.highlight classes t = Block.html ⟨escape classes.pre, body⟩)
    (hl : b.format classes t = Block.html ⟨escape classes.pre, laidOut⟩) :
    b.Shows classes t body laidOut := by
  have hbody := fills_html classes.pre body
  have hlaid := fills_html classes.pre laidOut
  refine ⟨fun block ↦ ?_, fun block ↦ ?_, ?_, ?_⟩
  · rw [hh]
    exact ⟨hbody.unique, fun h ↦ h ▸ hbody⟩
  · rw [hl]
    exact ⟨hlaid.unique, fun h ↦ h ▸ hlaid⟩
  · rw [render, if_pos rfl, hh, Block.ofHtml?_eq_some_iff.mpr hbody]
    rfl
  · rw [render, if_neg Bool.false_ne_true, hl, Block.ofHtml?_eq_some_iff.mpr hlaid]
    exact Block.division_eq _ _

/-- The blocks of the two backends are always found again, whatever the statement, the layout and
the classes hold: the escaped statement and its tokens stand inline as they were written, and laid
out they stand in a division that has the escaped class. -/
theorem render_finds_block (classes : Classes) (t : Text) :
    Backend.plain.Shows classes t (escape t) (escape t.trim) ∧
      ∀ layout : Text → Text,
        (Backend.spans layout).Shows classes t (tokenHtml classes t)
          (tokenHtml classes (layout t)) := by
  refine ⟨?_, fun layout ↦ ?_⟩
  · exact Backend.shows_of_html rfl rfl
  · exact Backend.shows_of_html rfl rfl

end StatementView.Markup
