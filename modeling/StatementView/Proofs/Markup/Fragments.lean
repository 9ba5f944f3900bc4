import Mathlib.Data.List.TakeWhile
import StatementView.Markup.Backend

namespace StatementView.Markup

open Text (isBlank)

/-- A run of blanks that stands as it is, or a text inside a span of a class. -/
inductive Fragment where
  | blanks (t : Text)
  | span (cls t : Text)

def Classes.ofSpans (classes : Classes) : List Text :=
  [classes.comment, classes.quote, classes.backtickQuote, classes.parameter, classes.number,
    classes.reserved, classes.word, classes.boundary, classes.error]

namespace Fragment

def html : Fragment → Text
  | .blanks t => t
  | .span cls t =>
    "<span class=\"".toList ++ escape cls ++ "\">".toList ++ escape t ++ "</span>".toList

def source : Fragment → Text
  | .blanks t => t
  | .span _ t => t

/-- The fragment shows something, and only blanks stand outside a span of one of the classes. -/
def IsOf (classes : Classes) : Fragment → Prop
  | .blanks t => t ≠ [] ∧ ∀ c ∈ t, isBlank c = true
  | .span cls t => cls ∈ classes.ofSpans ∧ t ≠ []

end Fragment

/-- HTML without its tags; `inside` tells whether the text begins inside a tag. -/
def dropTags : Bool → Text → Text
  | _, [] => []
  | true, c :: t => dropTags (c ≠ '>') t
  | false, c :: t => if c = '<' then dropTags true t else c :: dropTags false t

def resolve : Text → Text
  | '&' :: 'a' :: 'm' :: 'p' :: ';' :: t => '&' :: resolve t
  | '&' :: 'l' :: 't' :: ';' :: t => '<' :: resolve t
  | '&' :: 'g' :: 't' :: ';' :: t => '>' :: resolve t
  | '&' :: 'q' :: 'u' :: 'o' :: 't' :: ';' :: t => '"' :: resolve t
  | c :: t => c :: resolve t
  | [] => []

def shown (html : Text) : Text := resolve (dropTags false html)

theorem entity_cases (c : Char) :
    (c = '&' ∧ entity c = "&amp;".toList) ∨ (c = '<' ∧ entity c = "&lt;".toList) ∨
      (c = '>' ∧ entity c = "&gt;".toList) ∨ (c = '"' ∧ entity c = "&quot;".toList) ∨
      c ≠ '&' ∧ c ≠ '<' ∧ c ≠ '>' ∧ entity c = [c] := by
  unfold entity
  split
  · next h => exact .inl ⟨h, rfl⟩
  · next h₁ =>
    split
    · next h => exact .inr (.inl ⟨h, rfl⟩)
    · next h₂ =>
      split
      · next h => exact .inr (.inr (.inl ⟨h, rfl⟩))
      · next h₃ =>
        split
        · next h => exact .inr (.inr (.inr (.inl ⟨h, rfl⟩)))
        · exact .inr (.inr (.inr (.inr ⟨h₁, h₂, h₃, rfl⟩)))

theorem not_mem_escape (t : Text) : '<' ∉ escape t ∧ '>' ∉ escape t := by
  have h (c : Char) : '<' ∉ entity c ∧ '>' ∉ entity c := by
    rcases entity_cases c with ⟨-, h⟩ | ⟨-, h⟩ | ⟨-, h⟩ | ⟨-, h⟩ | ⟨-, hl, hg, h⟩ <;> rw [h]
    · decide
    · decide
    · decide
    · decide
    · simp [Ne.symm hl, Ne.symm hg]
  simp only [escape, List.mem_flatMap, not_exists, not_and]
  constructor
  · intro c _
    exact (h c).1
  · intro c _
    exact (h c).2

theorem resolve_entity_append (c : Char) (t : Text) : resolve (entity c ++ t) = c :: resolve t := by
  rcases entity_cases c with ⟨rfl, h⟩ | ⟨rfl, h⟩ | ⟨rfl, h⟩ | ⟨rfl, h⟩ | ⟨ha, -, -, h⟩
  · rfl
  · rfl
  · rfl
  · rfl
  · rw [h, List.singleton_append, resolve] <;>
      · intro u hu
        exact absurd hu ha

theorem resolve_escape (t : Text) : resolve (escape t) = t := by
  induction t with
  | nil => rfl
  | cons c t ih =>
    rw [escape, List.flatMap_cons, resolve_entity_append]
    exact congrArg (c :: ·) ih

theorem dropTags_append {body : Text} (h : '<' ∉ body) (t : Text) :
    dropTags false (body ++ t) = body ++ dropTags false t := by
  induction body with
  | nil => rfl
  | cons c body ih =>
    obtain ⟨hc, hb⟩ : '<' ≠ c ∧ '<' ∉ body := by simpa using h
    rw [List.cons_append, dropTags, if_neg hc.symm, ih hb, List.cons_append]

theorem dropTags_tag {tag : Text} (h : '>' ∉ tag) (t : Text) :
    dropTags true (tag ++ '>' :: t) = dropTags false t := by
  induction tag with
  | nil => rfl
  | cons c tag ih =>
    obtain ⟨hc, hb⟩ : '>' ≠ c ∧ '>' ∉ tag := by simpa using h
    rw [List.cons_append, dropTags, decide_eq_true hc.symm, ih hb]

namespace Fragment

variable {classes : Classes} {f : Fragment}

theorem escape_eq_of_isBlank {t : Text} (h : ∀ c ∈ t, isBlank c = true) : escape t = t := by
  induction t with
  | nil => rfl
  | cons c t ih =>
    have hc : entity c = [c] := by
      have hb := h c (by simp)
      rcases entity_cases c with ⟨rfl, -⟩ | ⟨rfl, -⟩ | ⟨rfl, -⟩ | ⟨rfl, -⟩ | ⟨-, -, -, he⟩
      · exact absurd hb (by decide)
      · exact absurd hb (by decide)
      · exact absurd hb (by decide)
      · exact absurd hb (by decide)
      · exact he
    rw [escape, List.flatMap_cons, hc, List.singleton_append]
    exact congrArg (c :: ·) (ih fun d hd ↦ h d (List.mem_cons_of_mem _ hd))

theorem html_span (cls t : Text) : html (.span cls t) = Markup.span cls t := by
  have h₁ : "<span class=\"".toList = '<' :: ("span".toList ++ " class=\"".toList) := rfl
  have h₂ : "</span>".toList = "</".toList ++ "span".toList ++ ['>'] := rfl
  change "<span class=\"".toList ++ escape cls ++ "\">".toList ++ escape t ++ "</span>".toList = _
  rw [h₁, h₂, Markup.span, element]
  simp only [List.append_assoc, List.cons_append]

theorem html_span_append (cls t u : Text) :
    html (.span cls t) ++ u =
      '<' :: (("span class=\"".toList ++ escape cls ++ ['"']) ++
        '>' :: (escape t ++ '<' :: ("/span".toList ++ '>' :: u))) := by
  have h₁ : "<span class=\"".toList = '<' :: "span class=\"".toList := rfl
  have h₂ : "\">".toList = ['"', '>'] := rfl
  have h₃ : "</span>".toList = '<' :: ("/span".toList ++ ['>']) := rfl
  change "<span class=\"".toList ++ escape cls ++ "\">".toList ++ escape t ++ "</span>".toList ++
    u = _
  rw [h₁, h₂, h₃]
  simp only [List.append_assoc, List.cons_append, List.nil_append]

theorem not_mem_opening (cls : Text) : '>' ∉ "span class=\"".toList ++ escape cls ++ ['"'] := by
  have h : '>' ∉ "span class=\"".toList := by decide
  rw [List.mem_append, List.mem_append, not_or, not_or]
  exact ⟨⟨h, (not_mem_escape cls).2⟩, by decide⟩

theorem dropTags_html_append (h : f.IsOf classes) (t : Text) :
    dropTags false (f.html ++ t) = escape f.source ++ dropTags false t := by
  cases f with
  | blanks u =>
    have he := escape_eq_of_isBlank h.2
    change dropTags false (u ++ t) = escape u ++ dropTags false t
    rw [he, dropTags_append (he ▸ (not_mem_escape u).1)]
  | span cls u =>
    rw [html_span_append, dropTags, if_pos rfl, dropTags_tag (not_mem_opening cls),
      dropTags_append (not_mem_escape u).1, dropTags, if_pos rfl, dropTags_tag (by decide), source]

theorem shown_html {fragments : List Fragment} (h : ∀ f ∈ fragments, f.IsOf classes) :
    shown (fragments.flatMap html) = fragments.flatMap source := by
  have hdrop : dropTags false (fragments.flatMap html) = escape (fragments.flatMap source) := by
    induction fragments with
    | nil => rfl
    | cons f fragments ih =>
      rw [List.flatMap_cons, dropTags_html_append (h f (by simp)),
        ih fun g hg ↦ h g (List.mem_cons_of_mem _ hg), List.flatMap_cons]
      exact List.flatMap_append.symm
  rw [shown, hdrop, resolve_escape]

end Fragment

structure Token.Valid (token : Token) : Prop where
  ne_nil : token.text ≠ []
  blanks : token.kind = .space → ∀ c ∈ token.text, isBlank c = true

theorem length?_of_lexeme? {c : Char} {t : Text} {kind : Kind} {n : Nat}
    (h : lexeme? c t = some (kind, n)) : kind.length? c t = some n := by
  obtain ⟨k, -, hk⟩ := List.exists_of_findSome?_eq_some h
  obtain ⟨m, hm, he⟩ := Option.map_eq_some_iff.mp hk
  obtain ⟨rfl, rfl⟩ := Prod.mk.inj he
  exact hm

theorem take_run (p : Char → Bool) (t : Text) : t.take (run p t) = t.takeWhile p :=
  (List.prefix_iff_eq_take.mp (List.takeWhile_prefix p)).symm

theorem valid_of_lexeme? {c : Char} {t : Text} {kind : Kind} {n : Nat}
    (h : lexeme? c t = some (kind, n)) : Token.Valid ⟨kind, c :: t.take n⟩ := by
  refine ⟨by simp, ?_⟩
  intro hk d hd
  subst hk
  have hn : space? c t = some n := length?_of_lexeme? h
  rw [space?] at hn
  split at hn
  · next hc =>
    obtain rfl := Option.some.inj hn
    rw [take_run] at hd
    rcases List.mem_cons.mp hd with rfl | hd
    · exact hc
    · exact List.mem_takeWhile_imp hd
  · exact absurd hn (by simp)

theorem flatMap_text_addStray (c : Char) (ts : List Token) :
    (addStray c ts).flatMap Token.text = c :: ts.flatMap Token.text := by
  unfold addStray
  split <;> rfl

theorem valid_addStray {c : Char} {ts : List Token} (h : ∀ token ∈ ts, token.Valid) :
    ∀ token ∈ addStray c ts, token.Valid := by
  have hstray (t : Text) : Token.Valid ⟨.stray, c :: t⟩ := ⟨by simp, by simp⟩
  unfold addStray
  split
  · exact List.forall_mem_cons.mpr ⟨hstray _, (List.forall_mem_cons.mp h).2⟩
  · exact List.forall_mem_cons.mpr ⟨hstray _, h⟩

theorem tokens_spec (t : Text) :
    (tokens t).flatMap Token.text = t ∧ ∀ token ∈ tokens t, token.Valid := by
  induction t using tokens.induct with
  | case1 => simp [tokens]
  | case2 c t kind n h ih =>
    rw [tokens, h]
    refine ⟨?_, List.forall_mem_cons.mpr ⟨valid_of_lexeme? h, ih.2⟩⟩
    rw [List.flatMap_cons, ih.1, List.cons_append, List.take_append_drop]
  | case3 c t h ih =>
    rw [tokens, h]
    exact ⟨by rw [flatMap_text_addStray, ih.1], valid_addStray ih.2⟩

def Token.fragment (classes : Classes) (token : Token) : Fragment :=
  match classes.of? token with
  | some cls => .span cls token.text
  | none => .blanks token.text

namespace Token

variable (classes : Classes) (token : Token)

theorem html_fragment : (token.fragment classes).html = token.html classes := by
  rw [fragment, html]
  cases classes.of? token with
  | none => rfl
  | some cls => exact Fragment.html_span cls token.text

theorem source_fragment : (token.fragment classes).source = token.text := by
  unfold fragment
  split <;> rfl

theorem isOf_fragment {token : Token} (h : token.Valid) :
    (token.fragment classes).IsOf classes := by
  obtain ⟨kind, text⟩ := token
  have hne : text ≠ [] := h.ne_nil
  cases kind with
  | word => by_cases hr : isReserved text = true <;>
      exact ⟨by simp [hr, Classes.ofSpans], hne⟩
  | space => exact ⟨hne, h.blanks rfl⟩
  | _ => exact ⟨by simp [Classes.ofSpans], hne⟩

end Token

/-- The block that is written for a statement is a row of fragments: runs of its blanks, and its
other pieces in spans of the classes. They are the statement, piece by piece, and a reader that drops
the tags and resolves the entities finds it. -/
theorem highlight_shows (layout : Text → Text) (classes : Classes) (t : Text) :
    ∃ fragments : List Fragment,
      (Backend.spans layout).highlight classes t =
        Block.html ⟨escape classes.pre, fragments.flatMap Fragment.html⟩ ∧
      (∀ f ∈ fragments, f.IsOf classes) ∧ fragments.flatMap Fragment.source = t ∧
      shown (fragments.flatMap Fragment.html) = t := by
  obtain ⟨htext, hvalid⟩ := tokens_spec t
  have hof : ∀ f ∈ (tokens t).map (Token.fragment classes), f.IsOf classes := by
    intro f hf
    obtain ⟨token, ht, rfl⟩ := List.mem_map.mp hf
    exact Token.isOf_fragment classes (hvalid token ht)
  have hsource : ((tokens t).map (Token.fragment classes)).flatMap Fragment.source = t := by
    simp only [List.flatMap_map, Token.source_fragment, htext]
  have hhtml : ((tokens t).map (Token.fragment classes)).flatMap Fragment.html =
      tokenHtml classes t := by
    simp only [List.flatMap_map, Token.html_fragment, tokenHtml]
  refine ⟨_, ?_, hof, hsource, ?_⟩
  · rw [hhtml]
    rfl
  · rw [Fragment.shown_html hof, hsource]

end StatementView.Markup
