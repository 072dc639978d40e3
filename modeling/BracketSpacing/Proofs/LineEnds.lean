import Mathlib
import BracketSpacing.Proofs.Pairs
import BracketSpacing.Proofs.Returns

/-!
# Line feeds for carriage returns and line feeds

* `Piece.Paired`: the carriage returns among the pieces of a text are paired, within a literal or with a piece of code.
  The pieces of a text with paired carriage returns are of this form (`Anchored.paired`), and slack inside brackets does
  not come between a carriage return and its line feed (`Respaced.paired`).
* No span holds a line break, so a sweep commutes with leaving out the carriage returns
  (`Piece.padAll_dropReturns`).
* A text with paired carriage returns is told by its line feeds and by what is no slack
  (`eq_of_withoutReturns_of_withoutSlack`), so a text is changed in the one form exactly if it is in the other.
* `normalizeWith_lineFeeds`: hence it does not matter which of the two line ends a text has.
-/

namespace BracketSpacing

open Piece Placeholder

/-! ## Pieces with paired carriage returns -/

namespace Piece

variable {through : Bool} {p q interior rest : List Piece} {s : List Char}

/-- The pieces without their carriage returns. -/
def dropReturns : List Piece → List Piece
  | [] => []
  | code c :: p => if c = '\r' then dropReturns p else code c :: dropReturns p
  | literal s :: p => literal (withoutReturns s) :: dropReturns p

/-- Each carriage return is followed by a line feed, in its literal or as the next piece. -/
def Paired : List Piece → Prop
  | [] => True
  | code c :: p => (c = '\r' → [code '\n'] <+: p) ∧ Paired p
  | literal s :: p => ReturnsPaired s ∧ Paired p

@[simp] theorem dropReturns_nil : dropReturns [] = [] := rfl

@[simp] theorem dropReturns_return (p : List Piece) : dropReturns (code '\r' :: p) = dropReturns p := rfl

@[simp] theorem dropReturns_literal (s : List Char) (p : List Piece) :
    dropReturns (literal s :: p) = literal (withoutReturns s) :: dropReturns p := rfl

theorem dropReturns_code {c : Char} (hc : c ≠ '\r') (p : List Piece) :
    dropReturns (code c :: p) = code c :: dropReturns p :=
  if_neg hc

theorem dropReturns_append : ∀ p q : List Piece, dropReturns (p ++ q) = dropReturns p ++ dropReturns q
  | [], _ => rfl
  | code c :: p, q => by
    have ih := dropReturns_append p q
    by_cases hc : c = '\r'
    · subst hc
      exact ih
    · rw [List.cons_append, dropReturns_code hc, dropReturns_code hc, ih]
      rfl
  | literal s :: p, q => congrArg (literal (withoutReturns s) :: ·) (dropReturns_append p q)

theorem dropReturns_codes : ∀ s : List Char, dropReturns (codes s) = codes (withoutReturns s)
  | [] => rfl
  | c :: s => by
    have ih := dropReturns_codes s
    by_cases hc : c = '\r'
    · subst hc
      exact ih
    · rw [codes_cons, dropReturns_code hc, withoutReturns_cons hc, codes_cons, ih]

theorem joined_dropReturns : ∀ p : List Piece, joined (dropReturns p) = withoutReturns (joined p)
  | [] => rfl
  | code c :: p => by
    have ih := joined_dropReturns p
    by_cases hc : c = '\r'
    · subst hc
      exact ih
    · rw [dropReturns_code hc, joined_code, joined_code, withoutReturns_cons hc, ih]
  | literal s :: p => by
    rw [dropReturns_literal, joined_literal, joined_literal, withoutReturns_append, joined_dropReturns p]

theorem ofSegments_map_withoutReturns : ∀ segments : List Segment,
    ofSegments (segments.map Segment.withoutReturns) = dropReturns (ofSegments segments)
  | [] => rfl
  | ⟨.code, s⟩ :: segments => by
    rw [ofSegments, dropReturns_append, dropReturns_codes, ← ofSegments_map_withoutReturns segments]
    rfl
  | ⟨.literal, s⟩ :: segments => by
    rw [ofSegments, dropReturns_literal, ← ofSegments_map_withoutReturns segments]
    rfl

namespace Paired

theorem of_append : ∀ {p : List Piece}, Paired (p ++ q) → Paired q
  | [], h => h
  | code _ :: p, h => of_append (p := p) h.2
  | literal _ :: p, h => of_append (p := p) h.2

/-- Code without carriage returns may be put in front. -/
theorem codes_append {a : List Char} (ha : ∀ c ∈ a, c ≠ '\r') (h : Paired p) : Paired (codes a ++ p) := by
  induction a with
  | nil => exact h
  | cons c a ih =>
    refine ⟨fun hc => absurd hc (ha c List.mem_cons_self), ih fun d hd => ha d (List.mem_cons_of_mem _ hd)⟩

/-- The text of the pieces has paired carriage returns. -/
theorem returnsPaired : ∀ {p : List Piece}, Paired p → ReturnsPaired (joined p)
  | [], _ => .nil
  | code c :: p, h => by
    have ih : ReturnsPaired (joined p) := returnsPaired h.2
    refine ReturnsPaired.cons_iff.mpr ⟨fun hc => ?_, ih⟩
    obtain ⟨t, rfl⟩ := h.1 hc
    exact ⟨joined t, rfl⟩
  | literal s :: p, h => h.1.append (returnsPaired h.2)

/-- Code that no further code follows has paired carriage returns of its own. -/
theorem returnsPaired_codes (hp : ¬[code '\n'] <+: p) : ∀ {s : List Char}, Paired (codes s ++ p) → ReturnsPaired s
  | [], _ => .nil
  | c :: s, h => by
    refine ReturnsPaired.cons_iff.mpr ⟨fun hc => ?_, returnsPaired_codes hp h.2⟩
    have hnext : [code '\n'] <+: codes s ++ p := h.1 hc
    cases s with
    | nil => exact absurd hnext hp
    | cons d s =>
      obtain ⟨he, -⟩ := List.cons_prefix_cons.mp hnext
      cases he
      exact ⟨s, rfl⟩

/-- The segments have paired carriage returns if their pieces have. -/
theorem returnsPaired_segment : ∀ {segments : List Segment}, IsMerged segments → Paired (ofSegments segments) →
    ∀ t ∈ segments, ReturnsPaired t.text
  | [], _, _ => by simp
  | ⟨.code, s⟩ :: segments, ⟨_, hn, hm⟩, h => by
    have hnext : ¬[code '\n'] <+: ofSegments segments := by
      rcases segments with _ | ⟨⟨_ | _, t⟩, segments⟩
      · simp [ofSegments]
      · exact absurd (hn _ rfl) (by simp)
      · simp [ofSegments]
    have hrest : Paired (ofSegments segments) := of_append (p := codes s) h
    intro t ht
    rcases List.mem_cons.mp ht with rfl | ht
    · exact returnsPaired_codes hnext h
    · exact returnsPaired_segment hm hrest t ht
  | ⟨.literal, s⟩ :: segments, hm, h => by
    have hrest : IsMerged segments := hm
    intro t ht
    rcases List.mem_cons.mp ht with rfl | ht
    · exact h.1
    · exact returnsPaired_segment hrest h.2 t ht

end Paired

/-! ## Sweeps without carriage returns -/

theorem hasLineBreak_withoutReturns (h : ReturnsPaired s) : hasLineBreak (withoutReturns s) = hasLineBreak s := by
  induction s with
  | nil => rfl
  | cons c s ih =>
    rcases h.cons_cases with ⟨rfl, t, rfl⟩ | hc
    · simp [hasLineBreak]
    · have ih := ih h.tail
      rw [hasLineBreak] at ih ⊢
      rw [withoutReturns_cons hc, List.any_cons, ih]
      rfl

/-- An interior holds no line breaks. -/
theorem dropReturns_of_not_isFence : ∀ {p : List Piece}, (∀ x ∈ p, x.isFence through = false) → dropReturns p = p
  | [], _ => rfl
  | code c :: p, h => by
    have hc : c ≠ '\r' := by
      rintro rfl
      have hf : (code '\r').isFence through = false := h _ List.mem_cons_self
      cases hf
    rw [dropReturns_code hc, dropReturns_of_not_isFence fun y hy => h y (List.mem_cons_of_mem _ hy)]
  | literal s :: p, h => by
    have hs : ∀ c ∈ s, c ≠ '\r' := by
      rintro c hc rfl
      have hf : (!through || hasLineBreak s) = false := h (literal s) List.mem_cons_self
      rw [Bool.or_eq_false_iff, hasLineBreak, List.any_eq_false] at hf
      exact hf.2 _ hc rfl
    rw [dropReturns_literal, withoutReturns_eq_self hs,
      dropReturns_of_not_isFence fun y hy => h y (List.mem_cons_of_mem _ hy)]

/-- A closing bracket is the first fence with the carriage returns if it is without them. -/
theorem find?_isFence_dropReturns : ∀ {p : List Piece}, Paired p →
    ((dropReturns p).find? (isFence through) = some (code ']') ↔ p.find? (isFence through) = some (code ']'))
  | [], _ => Iff.rfl
  | code c :: p, h => by
    have ih := find?_isFence_dropReturns (p := p) h.2
    by_cases hc : c = '\r'
    · subst hc
      obtain ⟨t, rfl⟩ := h.1 rfl
      have hfeed : (code '\n').isFence through = true := rfl
      have hreturn : (code '\r').isFence through = true := rfl
      have hne : '\n' ≠ '\r' := by decide
      simp [dropReturns_code hne, hfeed, hreturn]
    · rw [dropReturns_code hc, List.find?_cons, List.find?_cons]
      split
      · rfl
      · exact ih
  | literal s :: p, h => by
    have ih := find?_isFence_dropReturns (p := p) h.2
    have hf : (literal (withoutReturns s)).isFence through = (literal s).isFence through := by
      rw [isFence, isFence, hasLineBreak_withoutReturns h.1]
    rw [dropReturns_literal, List.find?_cons, List.find?_cons, hf]
    split
    · simp
    · exact ih

/-- A sweep commutes with leaving out the carriage returns. -/
theorem padAll_dropReturns (guard : Bool) (h : Paired p) :
    (alphabet through).padAll guard (dropReturns p) = dropReturns ((alphabet through).padAll guard p) := by
  fun_induction (alphabet through).padAll guard p with
  | case1 => rw [dropReturns_nil, Alphabet.padAll]
  | case2 p interior rest hs ih =>
    obtain ⟨rfl, hi⟩ := Alphabet.eq_of_span? hs
    have hrest : Paired rest := Paired.of_append (p := interior) h.2 |>.2
    rw [dropReturns_code (by decide), dropReturns_append, dropReturns_code (by decide), dropReturns_of_not_isFence hi,
      Alphabet.padAll_span hi, ih hrest, dropReturns_code (by decide), dropReturns_append, dropReturns_code (by decide),
      dropReturns_of_not_isFence (Alphabet.isFence_of_mem_spaced guard hi)]
  | case3 p hs ih =>
    have hn : (alphabet through).span? (dropReturns p) = none := by
      rw [Alphabet.span?_eq_none_iff, ne_eq, find?_isFence_dropReturns h.2]
      exact Alphabet.span?_eq_none_iff.mp hs
    rw [dropReturns_code (by decide), Alphabet.padAll_opening_of_none hn, dropReturns_code (by decide), ih h.2]
  | case4 x p hx ih =>
    cases x with
    | code c =>
      by_cases hc : c = '\r'
      · subst hc
        exact ih h.2
      · rw [dropReturns_code hc, dropReturns_code hc, Alphabet.padAll_cons_of_ne hx, ih h.2]
    | literal s => rw [dropReturns_literal, dropReturns_literal, Alphabet.padAll_cons_of_ne (by simp), ih h.2]

end Piece

/-! ## The pieces of a text -/

/-- A literal that does not go to the end of the text does not end in a carriage return. -/
theorem IsLiteral.getLast?_ne_return {kind : LiteralKind} {s rest : List Char} (h : IsLiteral kind s rest) :
    rest = [] ∨ s.getLast? ≠ some '\r' := by
  rcases h.getLast?_cases with hend | rfl | hlast
  · exact Or.inl hend
  · cases h with
    | @lineComment opener body _ ho hb =>
      right
      intro hlast
      rcases List.mem_append.mp (List.mem_of_getLast? hlast) with hm | hm
      · rcases ho with rfl | ⟨rfl, -⟩ <;> simp at hm
      · exact (hb.no_line_break _ hm).2 rfl
  · exact Or.inr fun hreturn => absurd (hlast _ hreturn) (by decide)

/-- The front of a text has paired carriage returns of its own if it does not end in one. -/
theorem ReturnsPaired.of_append_left {s t : List Char} (h : ReturnsPaired (s ++ t))
    (hend : t = [] ∨ s.getLast? ≠ some '\r') : ReturnsPaired s := by
  rcases hend with rfl | hend
  · rwa [List.append_nil] at h
  · rintro before after rfl
    have hnext : ['\n'] <+: after ++ t := h before (after ++ t) (by simp)
    cases after with
    | nil => exact absurd List.getLast?_concat hend
    | cons c after =>
      obtain ⟨rfl, -⟩ := List.cons_prefix_cons.mp hnext
      exact ⟨after, rfl⟩

/-- A text with paired carriage returns has pieces of that form. -/
theorem Anchored.paired : ∀ {p : List Piece}, Anchored p → ReturnsPaired (joined p) → Paired p
  | [], _, _ => trivial
  | code c :: p, ha, h => by
    have hp : Anchored p := ha
    refine ⟨?_, hp.paired h.tail⟩
    rintro rfl
    obtain ⟨t, ht⟩ := h.exists_of_return
    match p, hp, ht with
    | code d :: p, _, ht =>
      obtain ⟨rfl, -⟩ := List.cons.inj ht
      exact ⟨p, rfl⟩
    | literal s :: p, ⟨⟨_, hk⟩, _⟩, ht =>
      obtain ⟨d, u, rfl, hd, -⟩ := hk.exists_head
      obtain ⟨rfl, -⟩ := List.cons.inj ht
      exact absurd hd (by decide)
  | literal s :: p, ⟨⟨_, hk⟩, hp⟩, h => by
    have hs : ReturnsPaired s := ReturnsPaired.of_append_left h hk.getLast?_ne_return
    exact ⟨hs, hp.paired h.of_append⟩

theorem ne_return_of_isSlack {a : List Char} (ha : ∀ c ∈ a, isSlack c = true) : ∀ c ∈ a, c ≠ '\r' := by
  rintro c hc rfl
  exact absurd (ha _ hc) (by decide)

/-- Slack inside brackets does not come between a carriage return and its line feed. -/
theorem Respaced.paired {p q : List Piece} (h : Respaced p q) (hp : Paired p) : Paired q := by
  induction h with
  | nil => trivial
  | @cons p q x h ih =>
    cases x with
    | code c =>
      refine ⟨fun hc => ?_, ih hp.2⟩
      obtain ⟨t, rfl⟩ := hp.1 hc
      obtain ⟨u, rfl, -⟩ := h.cons_code (by decide) (by decide) (by decide)
      exact ⟨u, rfl⟩
    | literal s => exact ⟨hp.1, ih hp.2⟩
  | @opening a b p q ha hb _ ih =>
    have hrest : Paired p := Paired.of_append (p := code '[' :: codes a) hp
    exact ⟨fun hc => absurd hc (by decide), Paired.codes_append (ne_return_of_isSlack hb) (ih hrest)⟩
  | @closing a b p q ha hb _ ih =>
    have hrest : Paired (code ']' :: p) := Paired.of_append hp
    exact Paired.codes_append (ne_return_of_isSlack hb) ⟨fun hc => absurd hc (by decide), ih hrest.2⟩

/-! ## Changes, passes and convergence -/

variable {limit : Nat} {strategy : Strategy} {guard : Bool} {text : List Char}

/-- A text with paired carriage returns is told by its line feeds and by what is no slack. -/
theorem eq_of_withoutReturns_of_withoutSlack : ∀ {s t : List Char}, ReturnsPaired s → ReturnsPaired t →
    withoutReturns s = withoutReturns t → withoutSlack s = withoutSlack t → s = t
  | [], t, _, ht, hr, _ => ((withoutReturns_eq_nil_iff ht).mp hr.symm).symm
  | _ :: _, [], hs, _, hr, _ => (withoutReturns_eq_nil_iff hs).mp hr
  | c :: s, d :: t, hs, ht, hr, hk => by
    -- No slack is a line break, so both texts start with a carriage return or neither does.
    have hreturn : ∀ u v : List Char, withoutSlack ('\r' :: u) ≠ withoutSlack ('\n' :: v) := by
      intro u v he
      exact absurd (List.cons.inj he).1 (by decide)
    rcases hs.cons_cases with ⟨rfl, u, rfl⟩ | hc
    · by_cases hd : d = '\r'
      · subst hd
        rw [eq_of_withoutReturns_of_withoutSlack hs.tail ht.tail hr (List.cons.inj hk).2]
      · rw [withoutReturns_return, withoutReturns_lineFeed, withoutReturns_cons hd] at hr
        obtain ⟨rfl, -⟩ := List.cons.inj hr
        exact absurd hk (hreturn _ _)
    · rcases ht.cons_cases with ⟨rfl, v, rfl⟩ | hd
      · rw [withoutReturns_return, withoutReturns_lineFeed, withoutReturns_cons hc] at hr
        obtain ⟨rfl, -⟩ := List.cons.inj hr
        exact absurd hk.symm (hreturn _ _)
      · rw [withoutReturns_cons hc, withoutReturns_cons hd] at hr
        obtain ⟨rfl, htail⟩ := List.cons.inj hr
        have hkept : withoutSlack s = withoutSlack t := by
          cases hslack : isSlack c with
          | true => simpa [withoutSlack, hslack] using hk
          | false => simpa [withoutSlack, hslack] using hk
        rw [eq_of_withoutReturns_of_withoutSlack hs.tail ht.tail htail hkept]

/-- Two runs change as much, in as many passes, if they are repeated over something in both cases or in neither, and if
both texts are settled or neither is. -/
theorem outcome_eq_of_settled_iff (h : 1 ≤ limit) {text' : List Char}
    (hnone : sweptTexts (strategy.segments text') text' = [] ↔ sweptTexts (strategy.segments text) text = [])
    (hself : (normalizeWith strategy guard limit text').text = text' ↔
      (normalizeWith strategy guard limit text).text = text) :
    (normalizeWith strategy guard limit text').changed = (normalizeWith strategy guard limit text).changed ∧
    (normalizeWith strategy guard limit text').passes = (normalizeWith strategy guard limit text).passes ∧
    (normalizeWith strategy guard limit text').converged = (normalizeWith strategy guard limit text).converged := by
  have hsettled : (∀ u ∈ sweptTexts (strategy.segments text') text', Bracket.padAll guard u = u) ↔
      ∀ u ∈ sweptTexts (strategy.segments text) text, Bracket.padAll guard u = u := by
    rw [← text_normalizeWith_eq_self_iff h, hself, text_normalizeWith_eq_self_iff h]
  have hmoved : (∃ u ∈ sweptTexts (strategy.segments text') text', Bracket.padAll guard u ≠ u) ↔
      ∃ u ∈ sweptTexts (strategy.segments text) text, Bracket.padAll guard u ≠ u := by
    simpa using not_congr hsettled
  refine ⟨?_, ?_, ?_⟩
  · exact decide_eq_decide.mpr (not_congr hself)
  · show (settleText guard limit _ text').passes = (settleText guard limit _ text).passes
    simp only [passes_settleText h, hnone, hmoved]
  · show (settleText guard limit _ text').converged = (settleText guard limit _ text).converged
    rw [Bool.eq_iff_iff, converged_settleText h, converged_settleText h, hsettled]

/-! ## Normalizing -/

theorem any_isDelimiter_withoutReturns (s : List Char) : (withoutReturns s).any isDelimiter = s.any isDelimiter := by
  rw [withoutReturns, List.any_filter]
  congr 1
  funext c
  by_cases hc : c = '\r'
  · subst hc
    rfl
  · simp [hc]

theorem paired_segments (strategy : Strategy) (h : ReturnsPaired text) :
    Paired (ofSegments (strategy.segments text)) := by
  refine (anchored_segments strategy text).paired ?_
  rwa [joined_ofSegments, Strategy.joined_segments]

/-- Normalizing keeps carriage returns paired. -/
theorem returnsPaired_text_normalizeWith (h : 1 ≤ limit) (strategy : Strategy) (guard : Bool)
    (hp : ReturnsPaired text) : ReturnsPaired (normalizeWith strategy guard limit text).text := by
  rw [text_normalizeWith_eq h]
  exact ((respaced_padAll guard _ _).paired (paired_segments strategy hp)).returnsPaired

/-- Normalizing commutes with leaving out the carriage returns. -/
theorem text_normalizeWith_withoutReturns (h : 1 ≤ limit) (strategy : Strategy) (guard : Bool)
    (hp : ReturnsPaired text) : (normalizeWith strategy guard limit (withoutReturns text)).text =
      withoutReturns (normalizeWith strategy guard limit text).text := by
  rw [text_normalizeWith_eq h, text_normalizeWith_eq h, any_isDelimiter_withoutReturns,
    segments_withoutReturns strategy hp, ofSegments_map_withoutReturns,
    padAll_dropReturns guard (paired_segments strategy hp), joined_dropReturns]

theorem text_normalizeWith_withoutReturns_eq_self_iff (h : 1 ≤ limit) (hp : ReturnsPaired text) :
    (normalizeWith strategy guard limit (withoutReturns text)).text = withoutReturns text ↔
      (normalizeWith strategy guard limit text).text = text := by
  rw [text_normalizeWith_withoutReturns h strategy guard hp]
  constructor
  · intro hsame
    exact eq_of_withoutReturns_of_withoutSlack (returnsPaired_text_normalizeWith h strategy guard hp) hp hsame
      (withoutSlack_text_normalizeWith h strategy guard text)
  · intro hself
    rw [hself]

theorem sweptTexts_withoutReturns_eq_nil_iff (hp : ReturnsPaired text) :
    sweptTexts (strategy.segments (withoutReturns text)) (withoutReturns text) = [] ↔
      sweptTexts (strategy.segments text) text = [] := by
  rw [sweptTexts_eq_nil_iff, sweptTexts_eq_nil_iff, any_isDelimiter_withoutReturns, segments_withoutReturns strategy hp]
  simp [Segment.withoutReturns, Segment.isCode]

/-- **Line ends do not matter.** If every carriage return of a text has its line feed, the text with line feeds only is
normalized to the normalized text with line feeds only. It is changed if the text is, in as many passes, and they
converge if those of the text do. Its segments are those of the text with line feeds only. -/
theorem normalizeWith_lineFeeds (h : 1 ≤ limit) (strategy : Strategy) (guard : Bool) (hp : ReturnsPaired text) :
    (normalizeWith strategy guard limit (lineFeeds text)).text =
      lineFeeds (normalizeWith strategy guard limit text).text ∧
    (normalizeWith strategy guard limit (lineFeeds text)).changed =
      (normalizeWith strategy guard limit text).changed ∧
    (normalizeWith strategy guard limit (lineFeeds text)).passes = (normalizeWith strategy guard limit text).passes ∧
    (normalizeWith strategy guard limit (lineFeeds text)).converged =
      (normalizeWith strategy guard limit text).converged ∧
    Strategy.php.segments (lineFeeds text) =
      (Strategy.php.segments text).map fun s => ⟨s.kind, lineFeeds s.text⟩ := by
  have hpaired : ReturnsPaired (normalizeWith strategy guard limit text).text :=
    returnsPaired_text_normalizeWith h strategy guard hp
  rw [lineFeeds_eq_withoutReturns hp, lineFeeds_eq_withoutReturns hpaired]
  have hself : (normalizeWith strategy guard limit (withoutReturns text)).text = withoutReturns text ↔
      (normalizeWith strategy guard limit text).text = text := text_normalizeWith_withoutReturns_eq_self_iff h hp
  obtain ⟨hchanged, hpasses, hconverged⟩ :=
    outcome_eq_of_settled_iff h (sweptTexts_withoutReturns_eq_nil_iff hp) hself
  refine ⟨text_normalizeWith_withoutReturns h strategy guard hp, hchanged, hpasses, hconverged, ?_⟩
  rw [segments_withoutReturns .php hp]
  refine List.map_congr_left fun s hs => ?_
  have hsegment : ReturnsPaired s.text :=
    Paired.returnsPaired_segment (isMerged_segments_php text) (paired_segments .php hp) s hs
  rw [lineFeeds_eq_withoutReturns hsegment]
  rfl

theorem normalizeWith_lineFeeds_heredoc : 1 ≤ 1 ∧ ReturnsPaired "<<<A\r\n[,]\r\nA;'\\\r\n';[$a]".toList ∧
    lineFeeds "<<<A\r\n[,]\r\nA;'\\\r\n';[$a]".toList = "<<<A\n[,]\nA;'\\\n';[$a]".toList ∧
    (normalizeWith .php true 1 "<<<A\r\n[,]\r\nA;'\\\r\n';[$a]".toList).text =
      "<<<A\r\n[,]\r\nA;'\\\r\n';[ $a ]".toList ∧
    (normalizeWith .php true 1 "<<<A\n[,]\nA;'\\\n';[$a]".toList).text = "<<<A\n[,]\nA;'\\\n';[ $a ]".toList ∧
    (normalizeWith .php true 1 "<<<A\n[,]\nA;'\\\n';[$a]".toList).passes =
      (normalizeWith .php true 1 "<<<A\r\n[,]\r\nA;'\\\r\n';[$a]".toList).passes ∧
    Strategy.php.segments "<<<A\n[,]\nA;'\\\n';[$a]".toList =
      [Segment.literal "<<<A\n[,]\nA".toList, Segment.code [';'], Segment.literal "'\\\n'".toList,
        Segment.code ";[$a]".toList] := by
  have hp : ReturnsPaired "<<<A\r\n[,]\r\nA;'\\\r\n';[$a]".toList := by
    simp [ReturnsPaired.cons_iff, ReturnsPaired.nil]
  have hf : lineFeeds "<<<A\r\n[,]\r\nA;'\\\r\n';[$a]".toList = "<<<A\n[,]\nA;'\\\n';[$a]".toList := by cbv
  have ht : (normalizeWith .php true 1 "<<<A\r\n[,]\r\nA;'\\\r\n';[$a]".toList).text =
      "<<<A\r\n[,]\r\nA;'\\\r\n';[ $a ]".toList := by cbv
  have hs : Strategy.php.segments "<<<A\r\n[,]\r\nA;'\\\r\n';[$a]".toList =
      [Segment.literal "<<<A\r\n[,]\r\nA".toList, Segment.code [';'], Segment.literal "'\\\r\n'".toList,
        Segment.code ";[$a]".toList] := by cbv
  obtain ⟨htext, -, hpasses, -, hsegments⟩ := normalizeWith_lineFeeds (Nat.le_refl 1) .php true hp
  rw [hf] at htext hpasses hsegments
  rw [ht] at htext
  rw [hs] at hsegments
  refine ⟨Nat.le_refl 1, hp, hf, ht, htext.trans ?_, hpasses, hsegments.trans ?_⟩
  · cbv
  · cbv

end BracketSpacing
