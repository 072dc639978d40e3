import BracketSpacing.Proofs.Masking

/-!
# Interiors with literals in them

* `Anchored`: pieces in which each literal may stand in front of what follows it. Lexed texts are of this form.
* A literal starts with a character that is neither trimmed nor part of a character class (`IsLiteral.exists_head`).
  What ends it is not trimmed either, unless it is a line comment or the text ends there (`IsLiteral.getLast?_cases`).
* So an interior is trimmed, guarded and spaced piece by piece as its text is (`trim_joined`, `isClassLike_joined`,
  `spaced_joined`).
-/

namespace BracketSpacing

open Piece Placeholder

/-! ## The ends of literals -/

/-- The first character of a literal is neither trimmed nor part of a character class. -/
theorem IsLiteral.exists_head {kind : LiteralKind} {s rest : List Char} (h : IsLiteral kind s rest) :
    ∃ c t, s = c :: t ∧ Text.isTrimmable c = false ∧ Bracket.isClassChar c = false := by
  cases h with
  | quoted hq _ => rcases hq with rfl | rfl | rfl <;> exact ⟨_, _, rfl, by decide, by decide⟩
  | lineComment ho _ => rcases ho with rfl | ⟨rfl, -⟩ <;> exact ⟨_, _, rfl, by decide, by decide⟩
  | blockComment _ => exact ⟨_, _, rfl, by decide, by decide⟩
  | heredoc _ _ => exact ⟨_, _, rfl, by decide, by decide⟩

theorem IsLiteral.ne_nil {kind : LiteralKind} {s rest : List Char} (h : IsLiteral kind s rest) : s ≠ [] := by
  obtain ⟨c, t, rfl, -, -⟩ := h.exists_head
  exact List.cons_ne_nil c t

/-- What ends a literal is not trimmed, unless it is a line comment or the text ends there. -/
theorem IsLiteral.getLast?_cases {kind : LiteralKind} {s rest : List Char} (h : IsLiteral kind s rest) :
    rest = [] ∨ kind = .lineComment ∨ ∀ c ∈ s.getLast?, Text.isTrimmable c = false := by
  cases h with
  | @quoted quote body _ hq hb =>
    rcases hb with ⟨before, closing, rfl, ⟨rfl, -⟩, -⟩ | ⟨rfl, -⟩
    · right; right
      intro c hc
      rw [← List.cons_append, List.getLast?_concat] at hc
      cases hc
      rcases hq with rfl | rfl | rfl <;> decide
    · exact Or.inl rfl
  | lineComment _ _ => exact Or.inr (Or.inl rfl)
  | @blockComment body _ hb =>
    rcases hb with ⟨before, closing, rfl, rfl, -⟩ | ⟨rfl, -⟩
    · right; right
      intro c hc
      have he : '/' :: '*' :: (before ++ ['*', '/']) = ('/' :: '*' :: before) ++ ['*'] ++ ['/'] := by simp
      rw [he, List.getLast?_concat] at hc
      cases hc
      decide
    · exact Or.inl rfl
  | @heredoc opener label body _ ho hb =>
    obtain ⟨-, -, -, -, -, -, hl, -⟩ := id ho
    rcases hb with ⟨before, closing, rfl, ⟨-, ⟨indent, -, rfl⟩, -⟩, -⟩ | ⟨rfl, -⟩
    · right; right
      intro c hc
      have he : '<' :: '<' :: '<' :: (opener ++ (before ++ (indent ++ label))) =
          ('<' :: '<' :: '<' :: (opener ++ (before ++ indent))) ++ label := by simp
      rw [he, List.getLast?_append_of_ne_nil _ hl.ne_nil] at hc
      have hrest := hl.isLabelRest_of_mem c (List.mem_of_getLast? hc)
      rw [Bool.eq_false_iff]
      intro ht
      rw [Text.isLabelRest_of_isTrimmable ht] at hrest
      cases hrest
    · exact Or.inl rfl

/-- A literal ends with a character that is not trimmed, or what follows it is what stops a comment. -/
theorem IsLiteral.stopsComment_or_getLast? {kind : LiteralKind} {s rest : List Char} (h : IsLiteral kind s rest) :
    StopsComment rest ∨ ∀ c ∈ s.getLast?, Text.isTrimmable c = false := by
  rcases h.getLast?_cases with hend | rfl | hlast
  · exact Or.inl (Or.inl hend)
  · cases h with
    | lineComment _ hb => exact Or.inl hb.stops
  · exact Or.inr hlast

/-- Neither slack nor a closing bracket stops a comment. -/
theorem not_stopsComment_of_isSlack {b : List Char} (hb : ∀ c ∈ b, isSlack c = true) (s : List Char) :
    ¬StopsComment (b ++ ']' :: s) := by
  cases b with
  | nil => simp [StopsComment]
  | cons c b =>
    have hc : isSlack c = true := hb c List.mem_cons_self
    rintro (h | ⟨t, h⟩ | ⟨t, h⟩ | ⟨t, h⟩)
    · cases h
    · obtain ⟨rfl, -⟩ := List.cons.inj h
      exact absurd hc (by decide)
    · obtain ⟨rfl, -⟩ := List.cons.inj h
      exact absurd hc (by decide)
    · obtain ⟨rfl, -⟩ := List.cons.inj h
      exact absurd hc (by decide)

/-! ## Anchored pieces -/

/-- Each literal is one in front of what follows it. -/
def Anchored : List Piece → Prop
  | [] => True
  | code _ :: p => Anchored p
  | literal s :: p => (∃ kind, IsLiteral kind s (joined p)) ∧ Anchored p

theorem Anchored.of_append : ∀ {p q : List Piece}, Anchored (p ++ q) → Anchored q
  | [], _, h => h
  | code _ :: p, _, h => Anchored.of_append (p := p) h
  | literal _ :: p, _, h => Anchored.of_append (p := p) h.2

/-- Lexed pieces are anchored. -/
theorem Lexed.anchored {mode : Mode} {p : List Piece} (h : Lexed mode p) : Anchored p := by
  induction h with
  | nil => trivial
  | opens _ ih => exact ih
  | markup _ _ ih => exact ih
  | closes _ ih => exact ih
  | literal hl _ ih =>
    obtain ⟨kind, hk, -⟩ := hl
    exact ⟨⟨kind, hk⟩, ih⟩
  | script _ _ _ ih => exact ih

/-! ## Interiors and their texts -/

namespace Piece

variable {through : Bool} {interior rest p q : List Piece}

theorem joined_eq_nil_iff : ∀ {p : List Piece}, Anchored (p ++ q) → (joined p = [] ↔ p = [])
  | [], _ => by simp
  | code c :: p, _ => by simp
  | literal s :: p, ⟨⟨_, hk⟩, _⟩ => by simp [hk.ne_nil]

theorem all_isClassChar_joined : ∀ {p : List Piece}, Anchored (p ++ q) →
    (joined p).all Bracket.isClassChar = p.all isClassChar
  | [], _ => rfl
  | code c :: p, h => by
    have ih := all_isClassChar_joined (p := p) h
    rw [joined_code, List.all_cons, List.all_cons, ih]
    rfl
  | literal s :: p, ⟨⟨_, hk⟩, _⟩ => by
    obtain ⟨c, t, rfl, -, hc⟩ := hk.exists_head
    have hl : isClassChar (literal (c :: t)) = false := rfl
    rw [joined_literal, List.cons_append, List.all_cons, List.all_cons, hc, hl, Bool.false_and, Bool.false_and]

/-- The guard judges an interior as its text. -/
theorem isClassLike_joined (through : Bool) (h : Anchored (p ++ q)) :
    Bracket.isClassLike (joined p) = (alphabet through).isClassLike p := by
  have hempty : (joined p).isEmpty = p.isEmpty := by
    rw [Bool.eq_iff_iff, List.isEmpty_iff, List.isEmpty_iff]
    exact joined_eq_nil_iff h
  rw [Bracket.isClassLike, Alphabet.isClassLike, hempty, all_isClassChar_joined h]

/-- A trimmed list of pieces makes a trimmed text, if slack and a closing bracket follow it. -/
theorem solid_joined {b : List Char} (hs : Text.Solid isTrimmable p) (h : Anchored (p ++ (codes b ++ code ']' :: rest)))
    (hb : ∀ c ∈ b, isSlack c = true) : Text.Solid Text.isTrimmable (joined p) := by
  constructor
  · intro c hc
    match p, hs, h, hc with
    | code d :: p, hs, _, hc =>
      cases hc
      exact hs.1 (code c) rfl
    | literal s :: p, _, ⟨⟨_, hk⟩, _⟩, hc =>
      obtain ⟨d, t, rfl, hd, -⟩ := hk.exists_head
      cases hc
      exact hd
  · intro c hc
    cases p using List.reverseRecOn with
    | nil => cases hc
    | append_singleton p x =>
      rw [joined_append] at hc
      cases x with
      | code d =>
        rw [joined_code, joined_nil, List.getLast?_concat] at hc
        cases hc
        exact hs.2 (code c) (by rw [List.getLast?_concat]; rfl)
      | literal s =>
        rw [List.append_assoc, List.singleton_append] at h
        obtain ⟨⟨kind, hk⟩, -⟩ := h.of_append
        rcases hk.stopsComment_or_getLast? with hstop | hlast
        · rw [joined_append, joined_codes, joined_code] at hstop
          exact absurd hstop (not_stopsComment_of_isSlack hb _)
        · rw [joined_literal, joined_nil, List.append_nil, List.getLast?_append_of_ne_nil _ hk.ne_nil] at hc
          exact hlast c hc

/-- An interior is trimmed as its text. -/
theorem trim_joined (h : Anchored (interior ++ code ']' :: rest)) (hf : ∀ x ∈ interior, x.isFence through = false) :
    Text.trim (joined interior) = joined ((alphabet through).trim interior) := by
  obtain ⟨a, b, he, ha, hb⟩ := exists_trim through interior
  have hslack : ∀ c ∈ b, isSlack c = true := fun c hc =>
    isSlack_of_not_isFence (hb c hc) (hf _ (by rw [he]; simp [mem_codes hc]))
  have hanchored : Anchored ((alphabet through).trim interior ++ (codes b ++ code ']' :: rest)) := by
    rw [he, List.append_assoc, List.append_assoc] at h
    exact h.of_append
  have hsolid : Text.Solid Text.isTrimmable (joined ((alphabet through).trim interior)) :=
    solid_joined (Text.solid_strippedOf isTrimmable interior) hanchored hslack
  have hj : joined interior = a ++ joined ((alphabet through).trim interior) ++ b := by
    conv_lhs => rw [he]
    rw [joined_append, joined_append, joined_codes, joined_codes]
  rw [hj, Text.trim_append ha hsolid hb]

theorem trim_joined_eq_nil_iff (h : Anchored (interior ++ code ']' :: rest))
    (hf : ∀ x ∈ interior, x.isFence through = false) :
    Text.trim (joined interior) = [] ↔ (alphabet through).trim interior = [] := by
  obtain ⟨a, b, he, -, -⟩ := exists_trim through interior
  rw [trim_joined h hf]
  rw [he, List.append_assoc, List.append_assoc] at h
  exact joined_eq_nil_iff h.of_append

/-- An interior is spaced as its text. -/
theorem spaced_joined (guard : Bool) (h : Anchored (interior ++ code ']' :: rest))
    (hf : ∀ x ∈ interior, x.isFence through = false) :
    Bracket.alphabet.spaced guard (joined interior) = joined ((alphabet through).spaced guard interior) := by
  have htrim : Bracket.alphabet.trim (joined interior) = joined ((alphabet through).trim interior) := by
    rw [← Bracket.trim_eq, trim_joined h hf]
  have hempty := trim_joined_eq_nil_iff h hf
  rw [Bracket.trim_eq, htrim] at hempty
  exact Alphabet.spaced_image htrim hempty (isClassLike_joined through h) (by simp)

end Piece

end BracketSpacing
