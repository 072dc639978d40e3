import BracketSpacing.Proofs.Grammar

/-!
# Texts that differ in the spaces inside their brackets

* `isSlack`: a trimmable character that is no line break.
* `Respaced p q`: the pieces differ in slack after opening and before closing brackets of the code.
* Such texts agree on every prefix that slack and brackets cannot be part of (`Respaced.concat_isPrefix`), so the same
  literals and tags start in them, and they start in the same mode (`Respaced.startMode_eq`).
* **Simulation**: if one of them is lexed into its pieces, so is the other (`Respaced.lexed`).
* Their segments are of the same kinds, with the same literals and with code that differs in slack only
  (`Respaced.forall₂_merged`).
-/

namespace BracketSpacing

open Piece Text

/-- White space or an invisible character, but no line break. -/
def isSlack (c : Char) : Bool :=
  isTrimmable c && c != '\n' && c != '\r'

/-- Pieces of which the second differ from the first in the slack next to the inside of brackets in the code. -/
inductive Respaced : List Piece → List Piece → Prop
  | nil : Respaced [] []
  | cons {p q : List Piece} (x : Piece) : Respaced p q → Respaced (x :: p) (x :: q)
  | opening {a b : List Char} {p q : List Piece} : (∀ c ∈ a, isSlack c = true) → (∀ c ∈ b, isSlack c = true) →
      Respaced p q → Respaced (code '[' :: (codes a ++ p)) (code '[' :: (codes b ++ q))
  | closing {a b : List Char} {p q : List Piece} : (∀ c ∈ a, isSlack c = true) → (∀ c ∈ b, isSlack c = true) →
      Respaced p q → Respaced (codes a ++ code ']' :: p) (codes b ++ code ']' :: q)

/-- A prefix of two texts in a row is one of the first, or all but its last character goes through the first. -/
theorem isPrefix_or_of_append {u s v : List Char} {c : Char} (h : v ++ [c] <+: u ++ s) :
    v ++ [c] <+: u ∨ ∃ w, v = u ++ w ∧ w ++ [c] <+: s := by
  obtain ⟨t, ht⟩ := h
  rcases List.append_eq_append_iff.mp ht with ⟨w, hw, -⟩ | ⟨w, hw, hs⟩
  · exact Or.inl ⟨w, hw.symm⟩
  · cases w using List.reverseRecOn with
    | nil =>
      rw [List.append_nil] at hw
      exact Or.inl ⟨[], by rw [hw, List.append_nil]⟩
    | append_singleton w d =>
      rw [← List.append_assoc] at hw
      obtain ⟨rfl, hd⟩ := List.append_inj' hw rfl
      obtain rfl := List.singleton_inj.mp hd
      exact Or.inr ⟨w, rfl, t, hs.symm⟩

namespace Respaced

variable {p q : List Piece}

theorem symm (h : Respaced p q) : Respaced q p := by
  induction h with
  | nil => exact .nil
  | cons x _ ih => exact .cons x ih
  | opening ha hb _ ih => exact .opening hb ha ih
  | closing ha hb _ ih => exact .closing hb ha ih

theorem append_left (h : Respaced p q) : ∀ r : List Piece, Respaced (r ++ p) (r ++ q)
  | [] => h
  | x :: r => .cons x (append_left h r)

/-- A piece that is no slack and no bracket is the same in both. -/
theorem cons_code {c : Char} {r : List Piece} (h : Respaced (code c :: p) r) (hs : isSlack c = false) (ho : c ≠ '[')
    (hc : c ≠ ']') : ∃ q, r = code c :: q ∧ Respaced p q := by
  generalize hx : code c :: p = x at h
  cases h with
  | nil => cases hx
  | cons y h =>
    cases hx
    exact ⟨_, rfl, h⟩
  | opening _ _ _ =>
    cases hx
    exact absurd rfl ho
  | @closing a _ _ _ ha _ _ =>
    cases a with
    | nil =>
      cases hx
      exact absurd rfl hc
    | cons y a =>
      cases hx
      exact absurd (ha c List.mem_cons_self) (by simp [hs])

/-! ## Prefixes -/

theorem joined_eq_nil (h : Respaced p q) (hp : joined p = []) : joined q = [] := by
  induction h with
  | nil => rfl
  | cons x _ ih =>
    obtain ⟨hx, hp⟩ := List.append_eq_nil_iff.mp hp
    exact List.append_eq_nil_iff.mpr ⟨hx, ih hp⟩
  | opening _ _ _ _ => cases hp
  | closing _ _ _ _ => simp at hp

/-- A prefix is kept if no bracket is in it and it does not end in slack. It may end in an opening bracket. -/
theorem concat_isPrefix (h : Respaced p q) {v : List Char} {c : Char} (hv : ∀ d ∈ v, d ≠ '[' ∧ d ≠ ']')
    (hs : isSlack c = false) (hc : c ≠ ']') (hp : v ++ [c] <+: joined p) : v ++ [c] <+: joined q := by
  induction h generalizing v with
  | nil => simp at hp
  | @cons p q x _ ih =>
    have hx : v ++ [c] <+: x.text ++ joined p := hp
    show v ++ [c] <+: x.text ++ joined q
    rcases isPrefix_or_of_append hx with hx | ⟨w, rfl, hw⟩
    · exact List.prefix_append_of_prefix hx
    · rw [List.append_assoc, List.prefix_append_right_inj]
      exact ih (fun d hd => hv d (List.mem_append_right _ hd)) hw
  | opening _ _ _ _ =>
    cases v with
    | nil =>
      obtain ⟨rfl, -⟩ := List.cons_prefix_cons.mp hp
      simp
    | cons d v =>
      obtain ⟨rfl, -⟩ := List.cons_prefix_cons.mp hp
      exact absurd rfl (hv '[' List.mem_cons_self).1
  | @closing a b p q ha _ _ _ =>
    rw [joined_append, joined_codes, joined_code] at hp
    rcases isPrefix_or_of_append hp with hp | ⟨w, rfl, hw⟩
    · have hmem : c ∈ a := hp.subset (by simp)
      exact absurd (ha c hmem) (by simp [hs])
    · cases w with
      | nil =>
        obtain ⟨rfl, -⟩ := List.cons_prefix_cons.mp hw
        exact absurd rfl hc
      | cons d w =>
        obtain ⟨rfl, -⟩ := List.cons_prefix_cons.mp hw
        exact absurd rfl (hv ']' (by simp)).2

theorem head_isPrefix (h : Respaced p q) {c : Char} (hs : isSlack c = false) (hc : c ≠ ']') (hp : [c] <+: joined p) :
    [c] <+: joined q :=
  h.concat_isPrefix (v := []) (by simp) hs hc hp

theorem pair_isPrefix (h : Respaced p q) {c d : Char} (hcs : c ≠ '[' ∧ c ≠ ']') (hs : isSlack d = false) (hd : d ≠ ']')
    (hp : [c, d] <+: joined p) : [c, d] <+: joined q :=
  h.concat_isPrefix (v := [c]) (by simpa using hcs) hs hd hp

/-! ## Literals -/

theorem stopsComment (h : Respaced p q) (hp : StopsComment (joined p)) : StopsComment (joined q) := by
  rcases hp with hp | hp | hp | hp
  · exact Or.inl (h.joined_eq_nil hp)
  · exact Or.inr (Or.inl (h.head_isPrefix (by decide) (by decide) hp))
  · exact Or.inr (Or.inr (Or.inl (h.head_isPrefix (by decide) (by decide) hp)))
  · exact Or.inr (Or.inr (Or.inr (h.pair_isPrefix (by decide) (by decide) (by decide) hp)))

theorem isSlack_of_isWordChar {c : Char} (hc : isWordChar c = true) : isSlack c = false := by
  cases hs : isTrimmable c with
  | false => simp [isSlack, hs]
  | true => rw [isWordChar_of_isTrimmable hs] at hc; cases hc

theorem head?_isWordChar (h : Respaced p q) (hp : ∀ c ∈ (joined p).head?, isWordChar c = false) :
    ∀ c ∈ (joined q).head?, isWordChar c = false := by
  intro c hc
  cases hw : isWordChar c with
  | false => rfl
  | true =>
    have hne : c ≠ ']' := by rintro rfl; revert hw; decide
    have hq : [c] <+: joined q := by
      cases hj : joined q with
      | nil => rw [hj] at hc; cases hc
      | cons d t => rw [hj] at hc; cases hc; simp
    obtain ⟨t, ht⟩ := h.symm.head_isPrefix (isSlack_of_isWordChar hw) hne hq
    exact absurd (hp c (by simp [← ht])) (by simp [hw])

/-- A literal may be followed by either text. -/
theorem isLiteral (h : Respaced p q) {kind : LiteralKind} {s : List Char} (hl : IsLiteral kind s (joined p)) :
    IsLiteral kind s (joined q) :=
  hl.follow h.joined_eq_nil h.stopsComment h.head?_isWordChar

end Respaced

/-- Openers hold no bracket and end in their only line feed. -/
theorem IsOpener.exists_concat {text label : List Char} (h : IsOpener text label) :
    ∃ v, text = v ++ ['\n'] ∧ ∀ d ∈ v, d ≠ '[' ∧ d ≠ ']' ∧ d ≠ '\n' := by
  obtain ⟨indent, quote, lineEnd, rfl, hi, hq, hl, he⟩ := h
  have hindent : ∀ d ∈ indent, d ≠ '[' ∧ d ≠ ']' ∧ d ≠ '\n' := by
    intro d hd
    rcases hi d hd with rfl | rfl <;> decide
  have hquote : ∀ d ∈ quote, d ≠ '[' ∧ d ≠ ']' ∧ d ≠ '\n' := by
    intro d hd
    rcases hq with rfl | rfl | rfl
    · cases hd
    · rw [List.mem_singleton.mp hd]; decide
    · rw [List.mem_singleton.mp hd]; decide
  have hlabel : ∀ d ∈ label, d ≠ '[' ∧ d ≠ ']' ∧ d ≠ '\n' := by
    intro d hd
    have hr := hl.isLabelRest_of_mem d hd
    refine ⟨?_, ?_, ?_⟩ <;> rintro rfl <;> exact absurd hr (by decide)
  have hfront : ∀ d ∈ indent ++ quote ++ label ++ quote, d ≠ '[' ∧ d ≠ ']' ∧ d ≠ '\n' := by
    intro d hd
    simp only [List.mem_append] at hd
    rcases hd with ((hd | hd) | hd) | hd
    · exact hindent d hd
    · exact hquote d hd
    · exact hlabel d hd
    · exact hquote d hd
  rcases he with rfl | rfl
  · exact ⟨_, rfl, hfront⟩
  · refine ⟨indent ++ quote ++ label ++ quote ++ ['\r'], by simp, fun d hd => ?_⟩
    rcases List.mem_append.mp hd with hd | hd
    · exact hfront d hd
    · rw [List.mem_singleton.mp hd]; decide

/-- A literal starts in both texts or in neither. -/
theorem Respaced.startsLiteral {p q : List Piece} (h : Respaced p q) (hl : StartsLiteral (joined p)) :
    StartsLiteral (joined q) := by
  obtain ⟨kind, text, rest, he, hl⟩ := hl
  rw [startsLiteral_iff]
  cases hl with
  | @quoted quote body _ hq _ =>
    have hp : [quote] <+: joined p := ⟨body ++ rest, he.symm⟩
    obtain ⟨t, ht⟩ := h.head_isPrefix (by rcases hq with rfl | rfl | rfl <;> decide)
      (by rcases hq with rfl | rfl | rfl <;> decide) hp
    rw [← ht, List.singleton_append]
    rcases hq with rfl | rfl | rfl <;> simp [literal?, isQuote]
  | @lineComment opener body _ ho _ =>
    rcases ho with rfl | ⟨rfl, hno⟩
    · obtain ⟨t, ht⟩ := h.pair_isPrefix (c := '/') (d := '/') (by decide) (by decide) (by decide) (by rw [he]; simp)
      rw [← ht]
      simp [literal?]
    · obtain ⟨t, ht⟩ := h.head_isPrefix (c := '#') (by decide) (by decide) (by rw [he]; simp)
      have hno' : ¬['['] <+: t := by
        intro hb
        have hq : ['#', '['] <+: joined q := by
          rw [← ht]
          exact List.cons_prefix_cons.mpr ⟨rfl, hb⟩
        have hp := h.symm.pair_isPrefix (by decide) (by decide) (by decide) hq
        rw [he] at hp
        exact hno (List.cons_prefix_cons.mp hp).2
      rw [← head?_eq_bracket_iff] at hno'
      rw [← ht, List.singleton_append, literal?, if_neg hno']
      simp
  | @blockComment body _ _ =>
    obtain ⟨t, ht⟩ := h.pair_isPrefix (c := '/') (d := '*') (by decide) (by decide) (by decide) (by rw [he]; simp)
    rw [← ht]
    simp [literal?]
  | @heredoc opener label body _ ho _ =>
    obtain ⟨v, rfl, hv⟩ := ho.exists_concat
    have hp : ('<' :: '<' :: '<' :: v) ++ ['\n'] <+: joined p := by
      rw [he]
      exact ⟨body ++ rest, by simp⟩
    have hv' : ∀ d ∈ '<' :: '<' :: '<' :: v, d ≠ '[' ∧ d ≠ ']' := by
      intro d hd
      simp only [List.mem_cons] at hd
      rcases hd with rfl | rfl | rfl | hd
      · decide
      · decide
      · decide
      · exact ⟨(hv d hd).1, (hv d hd).2.1⟩
    obtain ⟨t, ht⟩ := h.concat_isPrefix hv' (by decide) (by decide) hp
    have ht' : joined q = '<' :: '<' :: '<' :: ((v ++ ['\n']) ++ t) := by rw [← ht]; simp
    rw [ht', literal?, opener?_append ho]
    simp

/-! ## The simulation -/

/-- A character that no literal and no tag starts with. -/
def IsInert (c : Char) : Prop :=
  c ≠ '<' ∧ c ≠ '?' ∧ c ≠ '/' ∧ c ≠ '#' ∧ isQuote c = false

theorem isInert_of_isSlack {c : Char} (hc : isSlack c = true) : IsInert c := by
  refine ⟨?_, ?_, ?_, ?_, ?_⟩
  · rintro rfl; revert hc; decide
  · rintro rfl; revert hc; decide
  · rintro rfl; revert hc; decide
  · rintro rfl; revert hc; decide
  · rw [Bool.eq_false_iff, ne_eq, isQuote_iff]
    rintro (rfl | rfl | rfl) <;> revert hc <;> decide

theorem IsInert.not_startsLiteral {c : Char} (hc : IsInert c) (s : List Char) : ¬StartsLiteral (c :: s) := by
  obtain ⟨h1, -, h3, h4, h5⟩ := hc
  rw [startsLiteral_iff, not_not]
  unfold literal?
  split <;> simp_all

/-- Inert code may be put in front of a lexed text or taken away. -/
theorem lexed_inert_iff {mode : Mode} {c : Char} (hc : IsInert c) (p : List Piece) :
    Lexed mode (code c :: p) ↔ Lexed mode p := by
  constructor
  · intro h
    cases h with
    | opens _ => exact absurd rfl hc.1
    | markup _ h => exact h
    | closes _ => exact absurd rfl hc.2.1
    | script _ _ h => exact h
  · intro h
    cases mode with
    | markup => exact .markup (fun hp => hc.1 (List.cons_prefix_cons.mp hp).1.symm) h
    | script => exact .script (fun hp => hc.2.1 (List.cons_prefix_cons.mp hp).1.symm) (hc.not_startsLiteral _) h

theorem lexed_codes_iff {mode : Mode} {p : List Piece} :
    ∀ {a : List Char}, (∀ c ∈ a, IsInert c) → (Lexed mode (codes a ++ p) ↔ Lexed mode p)
  | [], _ => Iff.rfl
  | c :: a, ha => by
    rw [codes_cons, List.cons_append, lexed_inert_iff (ha c List.mem_cons_self),
      lexed_codes_iff fun d hd => ha d (List.mem_cons_of_mem _ hd)]

theorem lexed_slack_iff {mode : Mode} {p : List Piece} {a : List Char} (ha : ∀ c ∈ a, isSlack c = true) :
    Lexed mode (codes a ++ p) ↔ Lexed mode p :=
  lexed_codes_iff fun c hc => isInert_of_isSlack (ha c hc)

theorem isInert_opening : IsInert '[' := ⟨by decide, by decide, by decide, by decide, rfl⟩

theorem isInert_closing : IsInert ']' := ⟨by decide, by decide, by decide, by decide, rfl⟩

/-- **Simulation.** Slack inside brackets does not change how the rest of a text is lexed. -/
theorem Respaced.lexed {p q : List Piece} (h : Respaced p q) {mode : Mode} (hl : Lexed mode p) : Lexed mode q := by
  -- Tags take two pieces at once, so the induction is on the length and not on the derivation.
  induction hn : p.length using Nat.strong_induction_on generalizing p q mode with
  | _ n ih =>
    subst hn
    cases h with
    | nil => exact .nil
    | @cons p q x h =>
      cases hl with
      | @opens p hl =>
        obtain ⟨q, rfl, hq⟩ := h.cons_code (by decide) (by decide) (by decide)
        exact .opens (ih p.length (by simp only [List.length_cons]; omega) hq hl rfl)
      | @markup c p hc hl =>
        refine .markup (fun hp => hc ?_) (ih p.length (by simp) h hl rfl)
        exact (h.cons (code c)).symm.pair_isPrefix (by decide) (by decide) (by decide) hp
      | @closes p hl =>
        obtain ⟨q, rfl, hq⟩ := h.cons_code (by decide) (by decide) (by decide)
        exact .closes (ih p.length (by simp only [List.length_cons]; omega) hq hl rfl)
      | @literal s p hk hl =>
        obtain ⟨kind, hk, -⟩ := hk
        have hk' := h.isLiteral hk
        exact .literal ⟨kind, hk', fun _ hj => hj.kind_eq.trans hk'.kind_eq.symm⟩ (ih p.length (by simp) h hl rfl)
      | @script c p hc hk hl =>
        refine .script (fun hp => hc ?_) (fun hs => hk ?_) (ih p.length (by simp) h hl rfl)
        · exact (h.cons (code c)).symm.pair_isPrefix (by decide) (by decide) (by decide) hp
        · exact (h.cons (code c)).symm.startsLiteral hs
    | @opening a b p q ha hb h =>
      rw [lexed_inert_iff isInert_opening, lexed_slack_iff ha] at hl
      rw [lexed_inert_iff isInert_opening, lexed_slack_iff hb]
      exact ih p.length (by simp only [List.length_cons, List.length_append]; omega) h hl rfl
    | @closing a b p q ha hb h =>
      rw [lexed_slack_iff ha, lexed_inert_iff isInert_closing] at hl
      rw [lexed_slack_iff hb, lexed_inert_iff isInert_closing]
      exact ih p.length (by simp only [List.length_cons, List.length_append]; omega) h hl rfl

/-! ## Where the texts start -/

theorem infix_openTag_cons_iff {c : Char} (hc : c ≠ '<') (s : List Char) :
    ['<', '?'] <:+: c :: s ↔ ['<', '?'] <:+: s := by
  rw [List.infix_cons_iff, or_iff_right]
  exact fun h => hc (List.cons_prefix_cons.mp h).1.symm

theorem infix_openTag_slack_iff {s : List Char} :
    ∀ {a : List Char}, (∀ c ∈ a, isSlack c = true) → (['<', '?'] <:+: a ++ s ↔ ['<', '?'] <:+: s)
  | [], _ => Iff.rfl
  | c :: a, ha => by
    rw [List.cons_append, infix_openTag_cons_iff (isInert_of_isSlack (ha c List.mem_cons_self)).1,
      infix_openTag_slack_iff fun d hd => ha d (List.mem_cons_of_mem _ hd)]

namespace Respaced

variable {p q : List Piece}

theorem infix_cons (h : Respaced p q) (x : Piece) (hi : ['<', '?'] <:+: joined p → ['<', '?'] <:+: joined q)
    (hp : ['<', '?'] <:+: joined (x :: p)) : ['<', '?'] <:+: joined (x :: q) := by
  cases x with
  | code c =>
    rcases List.infix_cons_iff.mp hp with hp | hp
    · exact ((h.cons (code c)).pair_isPrefix (by decide) (by decide) (by decide) hp).isInfix
    · exact List.infix_cons_iff.mpr (Or.inr (hi hp))
  | literal s =>
    rw [joined_literal] at hp ⊢
    induction s with
    | nil => exact hi hp
    | cons c s ih =>
      rcases List.infix_cons_iff.mp hp with hp | hp
      · exact ((h.cons (literal (c :: s))).pair_isPrefix (by decide) (by decide) (by decide) hp).isInfix
      · exact List.infix_cons_iff.mpr (Or.inr (ih hp))

/-- An open tag is somewhere in both texts or in neither. -/
theorem infix_openTag (h : Respaced p q) (hp : ['<', '?'] <:+: joined p) : ['<', '?'] <:+: joined q := by
  induction h with
  | nil => exact hp
  | cons x h ih => exact h.infix_cons x ih hp
  | opening ha hb _ ih =>
    rw [joined_code, joined_append, joined_codes, infix_openTag_cons_iff (by decide), infix_openTag_slack_iff ha] at hp
    rw [joined_code, joined_append, joined_codes, infix_openTag_cons_iff (by decide), infix_openTag_slack_iff hb]
    exact ih hp
  | closing ha hb _ ih =>
    rw [joined_append, joined_codes, joined_code, infix_openTag_slack_iff ha, infix_openTag_cons_iff (by decide)] at hp
    rw [joined_append, joined_codes, joined_code, infix_openTag_slack_iff hb, infix_openTag_cons_iff (by decide)]
    exact ih hp

theorem dropWhile_codes_append {p : List Piece} (hp : (joined p).dropWhile isTemplateMargin = joined p) :
    ∀ a : List Char, ∃ b, (∀ c ∈ b, c ∈ a) ∧ (joined (codes a ++ p)).dropWhile isTemplateMargin = joined (codes b ++ p)
  | [] => ⟨[], by simp, hp⟩
  | c :: a => by
    cases hc : isTemplateMargin c with
    | true =>
      obtain ⟨b, hb, he⟩ := dropWhile_codes_append hp a
      refine ⟨b, fun d hd => List.mem_cons_of_mem _ (hb d hd), ?_⟩
      rw [codes_cons, List.cons_append, joined_code, List.dropWhile_cons_of_pos hc, he]
    | false =>
      refine ⟨c :: a, fun d hd => hd, ?_⟩
      rw [codes_cons, List.cons_append, joined_code, List.dropWhile_cons_of_neg (by simp [hc])]

/-- Without their margins the texts are still made of pieces that differ in slack inside brackets. -/
theorem exists_dropMargin (h : Respaced p q) : ∃ p' q', Respaced p' q' ∧
    (joined p).dropWhile isTemplateMargin = joined p' ∧ (joined q).dropWhile isTemplateMargin = joined q' := by
  induction h with
  | nil => exact ⟨[], [], .nil, rfl, rfl⟩
  | @cons p q x h ih =>
    cases x with
    | code c =>
      cases hc : isTemplateMargin c with
      | true =>
        rw [joined_code, joined_code, List.dropWhile_cons_of_pos hc, List.dropWhile_cons_of_pos hc]
        exact ih
      | false =>
        refine ⟨_, _, h.cons (code c), ?_, ?_⟩
        · rw [joined_code, List.dropWhile_cons_of_neg (by simp [hc])]
        · rw [joined_code, List.dropWhile_cons_of_neg (by simp [hc])]
    | literal s =>
      rw [joined_literal, joined_literal]
      induction s with
      | nil => exact ih
      | cons c s ihs =>
        cases hc : isTemplateMargin c with
        | true =>
          rw [List.cons_append, List.cons_append, List.dropWhile_cons_of_pos hc, List.dropWhile_cons_of_pos hc]
          exact ihs
        | false =>
          refine ⟨_, _, h.cons (literal (c :: s)), ?_, ?_⟩
          · rw [List.cons_append, List.dropWhile_cons_of_neg (by simp [hc])]; rfl
          · rw [List.cons_append, List.dropWhile_cons_of_neg (by simp [hc])]; rfl
  | opening ha hb h _ =>
    refine ⟨_, _, .opening ha hb h, ?_, ?_⟩
    · rw [joined_code, List.dropWhile_cons_of_neg (by decide)]
    · rw [joined_code, List.dropWhile_cons_of_neg (by decide)]
  | @closing a b p q ha hb h _ =>
    obtain ⟨a', ha', hea⟩ := dropWhile_codes_append (p := code ']' :: p)
      (by rw [joined_code, List.dropWhile_cons_of_neg (by decide)]) a
    obtain ⟨b', hb', heb⟩ := dropWhile_codes_append (p := code ']' :: q)
      (by rw [joined_code, List.dropWhile_cons_of_neg (by decide)]) b
    exact ⟨_, _, .closing (fun c hc => ha c (ha' c hc)) (fun c hc => hb c (hb' c hc)) h, hea, heb⟩

theorem isTemplate_of (h : Respaced p q) (hp : isTemplate (joined p) = true) : isTemplate (joined q) = true := by
  rw [isTemplate_iff] at hp ⊢
  obtain ⟨p', q', h', hep, heq⟩ := h.exists_dropMargin
  rw [hep] at hp
  rw [heq]
  rcases hp with hp | ⟨hp, hno, hi⟩
  · exact Or.inl (h'.pair_isPrefix (by decide) (by decide) (by decide) hp)
  · refine Or.inr ⟨h'.head_isPrefix (by decide) (by decide) hp, fun hq => hno ?_, h'.infix_openTag hi⟩
    exact h'.symm.concat_isPrefix (v := ['<', '<']) (by simp) (by decide) (by decide) hq

/-- Both texts start in the same mode. -/
theorem startMode_eq (h : Respaced p q) : startMode (joined q) = startMode (joined p) := by
  have heq : isTemplate (joined q) = isTemplate (joined p) :=
    Bool.eq_iff_iff.mpr ⟨h.symm.isTemplate_of, h.isTemplate_of⟩
  rw [startMode, startMode, heq]

end Respaced

/-! ## Segments up to slack -/

/-- A text without its slack. -/
def withoutSlack (s : List Char) : List Char :=
  s.filter fun c => !isSlack c

/-- Segments of one kind: equal literals, or code that differs in slack only. -/
structure SameButSlack (s t : Segment) : Prop where
  kind : t.kind = s.kind
  literal : s.kind = .literal → t.text = s.text
  code : s.kind = .code → withoutSlack t.text = withoutSlack s.text

/-- A literal is the same text. -/
theorem SameButSlack.eq_literal {s : List Char} {x : Segment} (h : SameButSlack (Segment.literal s) x) :
    x = Segment.literal s := by
  obtain ⟨kind, r⟩ := x
  obtain ⟨hkind, hliteral, -⟩ := h
  obtain rfl : kind = .literal := hkind
  obtain rfl : r = s := hliteral rfl
  rfl

theorem withoutSlack_append (s t : List Char) : withoutSlack (s ++ t) = withoutSlack s ++ withoutSlack t :=
  List.filter_append s t

theorem withoutSlack_eq_nil {a : List Char} (ha : ∀ c ∈ a, isSlack c = true) : withoutSlack a = [] :=
  List.filter_eq_nil_iff.mpr fun c hc => by simp [ha c hc]

/-- Runs of code that differ in slack only may stand in front. -/
theorem forall₂_prependCode {s t : List Segment} {a b : List Char} (ha : a ≠ []) (hb : b ≠ [])
    (hab : withoutSlack b = withoutSlack a) (h : List.Forall₂ SameButSlack s t) :
    List.Forall₂ SameButSlack (Segment.prependCode a s) (Segment.prependCode b t) := by
  obtain ⟨c, a, rfl⟩ := List.exists_cons_of_ne_nil ha
  obtain ⟨d, b, rfl⟩ := List.exists_cons_of_ne_nil hb
  have hcode : SameButSlack (Segment.code (c :: a)) (Segment.code (d :: b)) :=
    ⟨rfl, fun h => (by cases h), fun _ => hab⟩
  cases h with
  | nil => exact .cons hcode .nil
  | @cons x y s t hxy h =>
    obtain ⟨kx, x⟩ := x
    obtain ⟨ky, y⟩ := y
    obtain rfl : ky = kx := hxy.kind
    cases ky with
    | literal => exact .cons hcode (.cons hxy h)
    | code =>
      refine .cons ⟨rfl, fun h => (by cases h), fun _ => ?_⟩ h
      show withoutSlack ((d :: b) ++ y) = withoutSlack ((c :: a) ++ x)
      rw [withoutSlack_append, withoutSlack_append, hab, hxy.code rfl]

theorem forall₂_codes_append {p q : List Piece} {a b : List Char} (ha : a ≠ []) (hb : b ≠ [])
    (hab : withoutSlack b = withoutSlack a) (h : List.Forall₂ SameButSlack (merged p) (merged q)) :
    List.Forall₂ SameButSlack (merged (codes a ++ p)) (merged (codes b ++ q)) := by
  rw [merged_codes_append_eq, merged_codes_append_eq]
  exact forall₂_prependCode ha hb hab h

/-- The segments are the same up to slack. -/
theorem Respaced.forall₂_merged {p q : List Piece} (h : Respaced p q) :
    List.Forall₂ SameButSlack (merged p) (merged q) := by
  induction h with
  | nil => exact .nil
  | cons x _ ih =>
    cases x with
    | code c => exact forall₂_codes_append (a := [c]) (b := [c]) (by simp) (by simp) rfl ih
    | literal s => exact .cons ⟨rfl, fun _ => rfl, fun h => (by cases h)⟩ ih
  | @opening a b p q ha hb _ ih =>
    refine forall₂_codes_append (a := '[' :: a) (b := '[' :: b) (by simp) (by simp) ?_ ih
    show withoutSlack (['['] ++ b) = withoutSlack (['['] ++ a)
    rw [withoutSlack_append, withoutSlack_append, withoutSlack_eq_nil ha, withoutSlack_eq_nil hb]
  | @closing a b p q ha hb _ ih =>
    have h := forall₂_codes_append (a := a ++ [']']) (b := b ++ [']']) (by simp) (by simp)
      (by rw [withoutSlack_append, withoutSlack_append, withoutSlack_eq_nil ha, withoutSlack_eq_nil hb]) ih
    simpa [codes] using h

/-- The texts are the same up to slack. -/
theorem Respaced.withoutSlack_joined {p q : List Piece} (h : Respaced p q) :
    withoutSlack (joined q) = withoutSlack (joined p) := by
  induction h with
  | nil => rfl
  | cons x _ ih =>
    show withoutSlack (x.text ++ _) = withoutSlack (x.text ++ _)
    rw [withoutSlack_append, withoutSlack_append, ih]
  | @opening a b p q ha hb _ ih =>
    show withoutSlack (['['] ++ joined (codes b ++ q)) = withoutSlack (['['] ++ joined (codes a ++ p))
    simp only [joined_append, joined_codes, withoutSlack_append, withoutSlack_eq_nil ha, withoutSlack_eq_nil hb, ih]
  | @closing a b p q ha hb _ ih =>
    rw [joined_append, joined_append, joined_codes, joined_codes, joined_code, joined_code, withoutSlack_append,
      withoutSlack_append, withoutSlack_eq_nil ha, withoutSlack_eq_nil hb]
    show withoutSlack ([']'] ++ joined q) = withoutSlack ([']'] ++ joined p)
    rw [withoutSlack_append, withoutSlack_append, ih]

/-- Characters that are no slack occur in both texts or in neither. -/
theorem Respaced.any_joined {p q : List Piece} (h : Respaced p q) {f : Char → Bool}
    (hf : ∀ c, isSlack c = true → f c = false) : (joined q).any f = (joined p).any f := by
  have hany : ∀ s : List Char, (withoutSlack s).any f = s.any f := by
    intro s
    rw [withoutSlack, List.any_filter]
    congr 1
    funext c
    cases hc : isSlack c with
    | false => rfl
    | true => rw [hf c hc]; rfl
  rw [← hany, h.withoutSlack_joined, hany]

/-- The segments of the second text are those of its pieces, and they are those of the first text up to slack. -/
theorem Respaced.segments_eq {s : List Char} {q : List Piece}
    (h : Respaced (ofSegments (Strategy.php.segments s)) q) : Strategy.php.segments (joined q) = merged q := by
  have hs : joined (ofSegments (Strategy.php.segments s)) = s := by
    rw [joined_ofSegments, Strategy.joined_segments]
  have hmode := h.startMode_eq
  rw [hs] at hmode
  rw [Strategy.segments, hmode]
  exact (h.lexed (lexed_scan (startMode s) s)).scan_eq

end BracketSpacing
