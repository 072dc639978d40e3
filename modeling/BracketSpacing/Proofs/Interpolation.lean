import BracketSpacing.Proofs.Normalization

/-!
# Strings with interpolations

* `Interpolated bare place s`: the body of a string whose interpolations `{$ … }` have balanced braces and may hold
  strings of their own. The flag says whether double quotes may stand in these strings and around them.
* The reader of a double-quoted string knows no interpolations. It passes over a body whose interpolations hold no
  double quotes but escaped ones (`Interpolated.isPassed`), and every other body is cut at a double quote in it
  (`Interpolated.or_isCut`).
* `segments_interpolated`: so a string is one literal, and is normalized as one, exactly if its interpolations hold no
  such double quotes. Else the literal ends at the first of them, and what follows is read as code.
-/

namespace BracketSpacing

open Piece

/-! ## The grammar -/

/-- Where a body goes on: in a string with this quote, or in the code between the braces of an interpolation. -/
inductive Place where
  | string (quote : Char)
  | braces

/-- Neither a quote nor a backslash nor a brace. -/
def IsPlain (c : Char) : Prop :=
  isQuote c = false ∧ c ≠ '\\' ∧ c ≠ '{' ∧ c ≠ '}'

/-- Bodies of strings, and code between balanced braces with strings in it. -/
inductive Interpolated (bare : Bool) : Place → List Char → Prop
  | nil {place : Place} : Interpolated bare place []
  /-- In a string a backslash escapes the next character. -/
  | escaped {quote : Char} (c : Char) {s : List Char} : Interpolated bare (.string quote) s →
      Interpolated bare (.string quote) ('\\' :: c :: s)
  /-- Other characters stand for themselves. In a string with single quotes that includes the opening of an
  interpolation. -/
  | other {quote c : Char} {s : List Char} : c ≠ quote → c ≠ '\\' → (c = '"' → bare = true) →
      (['{', '$'] <+: c :: s → quote = '\'') → Interpolated bare (.string quote) s →
      Interpolated bare (.string quote) (c :: s)
  | interpolation {quote : Char} {code s : List Char} : quote ≠ '\'' → Interpolated bare .braces code →
      Interpolated bare (.string quote) s → Interpolated bare (.string quote) ('{' :: '$' :: (code ++ '}' :: s))
  | token {c : Char} {s : List Char} : IsPlain c → Interpolated bare .braces s → Interpolated bare .braces (c :: s)
  /-- In code a backslash is part of a name. -/
  | name {c : Char} {s : List Char} : IsPlain c → Interpolated bare .braces s →
      Interpolated bare .braces ('\\' :: c :: s)
  | block {code s : List Char} : Interpolated bare .braces code → Interpolated bare .braces s →
      Interpolated bare .braces ('{' :: (code ++ '}' :: s))
  | quoted {quote : Char} {body s : List Char} : isQuote quote = true → (quote = '"' → bare = true) →
      Interpolated bare (.string quote) body → Interpolated bare .braces s →
      Interpolated bare .braces (quote :: (body ++ quote :: s))

variable {bare : Bool} {place : Place} {s t : List Char}

theorem IsPlain.ne_quote {c : Char} (hc : IsPlain c) : c ≠ '"' := by
  rintro rfl
  exact absurd hc.1 (by decide)

theorem ne_backslash_of_isQuote {c : Char} (hc : isQuote c = true) : c ≠ '\\' := by
  rintro rfl
  exact absurd hc (by decide)

/-- Plain characters may stand in front, in code and in strings. -/
theorem Interpolated.plain_append (hs : ∀ c ∈ s, IsPlain c) (ht : Interpolated bare .braces t) :
    Interpolated bare .braces (s ++ t) := by
  induction s with
  | nil => exact ht
  | cons c s ih => exact .token (hs c List.mem_cons_self) (ih fun d hd => hs d (List.mem_cons_of_mem _ hd))

theorem Interpolated.plain_append_string {quote : Char} (hquote : isQuote quote = true) (hs : ∀ c ∈ s, IsPlain c)
    (ht : Interpolated bare (.string quote) t) : Interpolated bare (.string quote) (s ++ t) := by
  induction s with
  | nil => exact ht
  | cons c s ih =>
    have hc : IsPlain c := hs c List.mem_cons_self
    refine .other ?_ hc.2.1 ?_ ?_ (ih fun d hd => hs d (List.mem_cons_of_mem _ hd))
    · rintro rfl
      rw [hc.1] at hquote
      cases hquote
    · intro he
      exact absurd he hc.ne_quote
    · intro hopen
      exact absurd (List.cons_prefix_cons.mp hopen).1.symm hc.2.2.1

/-- The body `a{$v[k]}c` with quotes around the key. -/
def keyed (quote : Char) (a v k c : List Char) : List Char :=
  a ++ '{' :: '$' :: ((v ++ '[' :: quote :: (k ++ quote :: [']'])) ++ '}' :: c)

theorem interpolated_keyed {quote : Char} {a v k c : List Char} (hquote : isQuote quote = true)
    (hbare : quote = '"' → bare = true) (ha : ∀ x ∈ a, IsPlain x) (hv : ∀ x ∈ v, IsPlain x) (hk : ∀ x ∈ k, IsPlain x)
    (hc : ∀ x ∈ c, IsPlain x) : Interpolated bare (.string '"') (keyed quote a v k c) := by
  have hopening : IsPlain '[' := ⟨rfl, by decide, by decide, by decide⟩
  have hclosing : IsPlain ']' := ⟨rfl, by decide, by decide, by decide⟩
  have hkey : Interpolated bare (.string quote) k := by
    rw [← List.append_nil k]
    exact .plain_append_string hquote hk .nil
  have hend : Interpolated bare (.string '"') c := by
    rw [← List.append_nil c]
    exact .plain_append_string rfl hc .nil
  apply Interpolated.plain_append_string rfl ha
  apply Interpolated.interpolation (by decide) _ hend
  apply Interpolated.plain_append hv
  apply Interpolated.token hopening
  exact .quoted hquote hbare hkey (.token hclosing .nil)

/-! ## What the reader of strings makes of it -/

/-- The reader of a double-quoted string goes over the text, whatever follows it. -/
def IsPassed (s : List Char) : Prop :=
  ∀ rest, readQuoted '"' (s ++ rest) = (readQuoted '"' rest).pushAll s

/-- The reader of a double-quoted string stops within the text, at a double quote. -/
def IsCut (s : List Char) : Prop :=
  ∃ lead tail, s = lead ++ '"' :: tail ∧ IsPassed lead

theorem isPassed_nil : IsPassed [] := fun _ => rfl

theorem IsPassed.append (hs : IsPassed s) (ht : IsPassed t) : IsPassed (s ++ t) := by
  intro rest
  rw [List.append_assoc, hs, ht]
  simp [Reading.pushAll]

theorem isPassed_pair (c : Char) : IsPassed ['\\', c] := fun _ => rfl

theorem isPassed_singleton {c : Char} (hq : c ≠ '"') (hb : c ≠ '\\') : IsPassed [c] := by
  intro rest
  rw [List.singleton_append, readQuoted.eq_def]
  split
  · rename_i h
    cases h
  · rename_i h
    exact absurd (List.cons.inj h).1 hb
  · rename_i h
    obtain ⟨rfl, rfl⟩ := List.cons.inj h
    rw [if_neg hq]
    rfl

theorem isPassed_of_isPlain (hs : ∀ c ∈ s, IsPlain c) : IsPassed s := by
  induction s with
  | nil => exact isPassed_nil
  | cons c s ih =>
    have hc : IsPlain c := hs c List.mem_cons_self
    exact (isPassed_singleton hc.ne_quote hc.2.1).append (ih fun d hd => hs d (List.mem_cons_of_mem _ hd))

/-- The characters that open an interpolation. -/
theorem isPassed_opening : IsPassed ['{', '$'] :=
  (isPassed_singleton (by decide) (by decide)).append (isPassed_singleton (by decide) (by decide))

theorem isPassed_brace {c : Char} (hc : c = '{' ∨ c = '}') : IsPassed [c] := by
  rcases hc with rfl | rfl
  · exact isPassed_singleton (by decide) (by decide)
  · exact isPassed_singleton (by decide) (by decide)

theorem isCut_quote (s : List Char) : IsCut ('"' :: s) := ⟨[], s, rfl, isPassed_nil⟩

theorem IsCut.append (h : IsCut s) (t : List Char) : IsCut (s ++ t) := by
  obtain ⟨lead, tail, rfl, hlead⟩ := h
  exact ⟨lead, tail ++ t, by simp, hlead⟩

theorem IsPassed.append_isCut (hs : IsPassed s) (ht : IsCut t) : IsCut (s ++ t) := by
  obtain ⟨lead, tail, rfl, hlead⟩ := ht
  exact ⟨s ++ lead, tail, by simp, hs.append hlead⟩

/-- No text is both gone over and cut. -/
theorem IsPassed.not_isCut (hs : IsPassed s) : ¬IsCut s := by
  rintro ⟨lead, tail, rfl, hlead⟩
  have hread := hs ['.']
  rw [List.append_assoc, hlead] at hread
  have hrest : tail ++ ['.'] = [] := congrArg Reading.rest hread
  simp at hrest

/-- An enclosed part and what follows it are kept, or the whole is cut in one of them. -/
theorem and_or_isCut_enclosed {a b : List Char} {kept kept' : Prop} (ha : IsPassed a) (hb : IsPassed b)
    (hs : kept ∨ IsCut s) (hpassed : kept → IsPassed s) (ht : kept' ∨ IsCut t) :
    (kept ∧ kept') ∨ IsCut (a ++ (s ++ (b ++ t))) := by
  rcases hs with hs | hcut
  · rcases ht with ht | hcut
    · exact Or.inl ⟨hs, ht⟩
    · exact Or.inr (ha.append_isCut ((hpassed hs).append_isCut (hb.append_isCut hcut)))
  · exact Or.inr (ha.append_isCut (hcut.append (b ++ t)))

/-- Without bare double quotes in interpolations the reader goes over the whole body. -/
theorem Interpolated.isPassed (h : Interpolated false place s) : IsPassed s := by
  induction h with
  | nil => exact isPassed_nil
  | escaped c _ ih => exact (isPassed_pair c).append ih
  | @other quote c s _ hb hbare _ _ ih =>
    have hq : c ≠ '"' := by
      intro he
      cases hbare he
    exact (isPassed_singleton hq hb).append ih
  | interpolation _ _ _ ihcode ih =>
    exact isPassed_opening.append (ihcode.append ((isPassed_brace (Or.inr rfl)).append ih))
  | token hc _ ih => exact (isPassed_singleton hc.ne_quote hc.2.1).append ih
  | @name c s _ _ ih => exact (isPassed_pair c).append ih
  | block _ _ ihcode ih =>
    exact (isPassed_brace (Or.inl rfl)).append (ihcode.append ((isPassed_brace (Or.inr rfl)).append ih))
  | @quoted quote body s hquote hbare _ _ ihbody ih =>
    have hq : quote ≠ '"' := by
      intro he
      cases hbare he
    have hpassed : IsPassed [quote] := isPassed_singleton hq (ne_backslash_of_isQuote hquote)
    exact hpassed.append (ihbody.append (hpassed.append ih))

/-- Every other body is cut at a double quote. -/
theorem Interpolated.or_isCut (h : Interpolated true place s) : Interpolated false place s ∨ IsCut s := by
  induction h with
  | nil => exact Or.inl .nil
  | escaped c _ ih => exact ih.imp (.escaped c) (isPassed_pair c).append_isCut
  | @other quote c s hne hb _ hopen _ ih =>
    by_cases hq : c = '"'
    · subst hq
      exact Or.inr (isCut_quote s)
    · refine ih.imp ?_ (isPassed_singleton hq hb).append_isCut
      exact .other hne hb (fun he => absurd he hq) hopen
  | interpolation hquote _ _ ihcode ih =>
    refine (and_or_isCut_enclosed isPassed_opening (isPassed_brace (Or.inr rfl)) ihcode isPassed ih).imp_left ?_
    rintro ⟨hcode, h⟩
    exact .interpolation hquote hcode h
  | token hc _ ih => exact ih.imp (.token hc) (isPassed_singleton hc.ne_quote hc.2.1).append_isCut
  | @name c s hc _ ih => exact ih.imp (.name hc) (isPassed_pair c).append_isCut
  | block _ _ ihcode ih =>
    have hopen : IsPassed ['{'] := isPassed_brace (Or.inl rfl)
    have hclose : IsPassed ['}'] := isPassed_brace (Or.inr rfl)
    refine (and_or_isCut_enclosed hopen hclose ihcode isPassed ih).imp_left ?_
    rintro ⟨hcode, h⟩
    exact .block hcode h
  | @quoted quote body s hquote _ _ _ ihbody ih =>
    by_cases hq : quote = '"'
    · subst hq
      exact Or.inr (isCut_quote _)
    · have hpassed : IsPassed [quote] := isPassed_singleton hq (ne_backslash_of_isQuote hquote)
      refine (and_or_isCut_enclosed hpassed hpassed ihbody isPassed ih).imp_left ?_
      rintro ⟨hbody, h⟩
      exact .quoted hquote (fun he => absurd he hq) hbody h

/-- A body is cut exactly if double quotes stand bare in its interpolations. -/
theorem Interpolated.isCut_iff (h : Interpolated true place s) : IsCut s ↔ ¬Interpolated false place s := by
  constructor
  · intro hcut hkept
    exact hkept.isPassed.not_isCut hcut
  · intro hkept
    exact h.or_isCut.resolve_left hkept

/-! ## Strings in a text -/

variable {text lead body after rest : List Char} {front back : List Piece} {limit : Nat}

/-- The scanner comes to the rest of a text in script mode: the pieces of the text are those in front, and then those of
the rest. -/
def IsReached (text : List Char) (front : List Piece) (rest : List Char) : Prop :=
  ofSegments (Strategy.php.segments text) = front ++ ofSegments (scan .script rest)

/-- The literal of a double-quoted string runs to the double quote behind what the reader goes over. -/
theorem IsPassed.scan_string (h : IsPassed lead) (rest : List Char) :
    scan .script ('"' :: (lead ++ '"' :: rest)) = Segment.literal ('"' :: (lead ++ ['"'])) :: scan .script rest := by
  have hread : readQuoted '"' (lead ++ '"' :: rest) = ⟨lead ++ ['"'], rest⟩ := by
    rw [h]
    rfl
  have hliteral : literal? ('"' :: (lead ++ '"' :: rest)) = some ⟨'"' :: (lead ++ ['"']), rest⟩ := by
    rw [literal?, if_pos (by decide), hread]
    · rfl
    all_goals simp
  exact scan_literal hliteral

theorem IsReached.ofSegments_string (hreached : IsReached text front ('"' :: (lead ++ '"' :: rest)))
    (h : IsPassed lead) : ofSegments (Strategy.php.segments text) =
      front ++ .literal ('"' :: (lead ++ ['"'])) :: ofSegments (scan .script rest) := by
  rw [IsReached, h.scan_string] at hreached
  exact hreached

/-- A literal of a text has the same place among the segments of the normalized text. -/
theorem getElem?_segments_normalizeWith (h : 1 ≤ limit) (guard : Bool)
    (hpieces : ofSegments (Strategy.php.segments text) = front ++ .literal s :: back) :
    (Strategy.php.segments text)[(merged front).length]? = some (Segment.literal s) ∧
      (Strategy.php.segments (normalizeWith .php guard limit text).text)[(merged front).length]? =
        some (Segment.literal s) := by
  have hsegments : Strategy.php.segments text = merged front ++ Segment.literal s :: merged back := by
    rw [← merged_ofSegments (isMerged_segments_php text), hpieces, merged_append_literal]
  have hplace : (Strategy.php.segments text)[(merged front).length]? = some (Segment.literal s) := by
    rw [hsegments, List.getElem?_append_right (Nat.le_refl _), Nat.sub_self]
    rfl
  refine ⟨hplace, ?_⟩
  obtain ⟨hlt, hget⟩ := List.getElem?_eq_some_iff.mp hplace
  rw [text_normalizeWith_php h]
  have hsame := forall₂_segments_swept guard (!text.any Placeholder.isDelimiter) text
  have hlt' := hsame.length_eq ▸ hlt
  have hslack := hsame.get hlt hlt'
  rw [List.get_eq_getElem, hget] at hslack
  rw [List.getElem?_eq_getElem hlt']
  exact congrArg some hslack.eq_literal

/-- **Strings with interpolations.** Where the scanner comes to a double-quoted string whose body consists of plain
characters, escaped pairs and interpolations, the string is one literal, and has its place among the segments of the
normalized text, if its interpolations hold no double quotes but escaped ones. Otherwise the literal ends at a double
quote in an interpolation, and the scanner goes on behind that in script mode, within the string. -/
theorem segments_interpolated (h : 1 ≤ limit) (guard : Bool) (hbody : Interpolated true (.string '"') body)
    (hreached : IsReached text front ('"' :: (body ++ '"' :: after))) :
    (Interpolated false (.string '"') body →
      ofSegments (Strategy.php.segments text) =
          front ++ .literal ('"' :: (body ++ ['"'])) :: ofSegments (scan .script after) ∧
        (Strategy.php.segments text)[(merged front).length]? = some (Segment.literal ('"' :: (body ++ ['"']))) ∧
        (Strategy.php.segments (normalizeWith .php guard limit text).text)[(merged front).length]? =
          some (Segment.literal ('"' :: (body ++ ['"'])))) ∧
    (¬Interpolated false (.string '"') body → ∃ lead tail, body = lead ++ '"' :: tail ∧
      ofSegments (Strategy.php.segments text) =
        front ++ .literal ('"' :: (lead ++ ['"'])) :: ofSegments (scan .script (tail ++ '"' :: after))) := by
  constructor
  · intro hkept
    have hpieces := hreached.ofSegments_string hkept.isPassed
    exact ⟨hpieces, getElem?_segments_normalizeWith h guard hpieces⟩
  · intro hkept
    obtain ⟨lead, tail, rfl, hlead⟩ := hbody.isCut_iff.mpr hkept
    rw [List.append_assoc] at hreached
    exact ⟨lead, tail, rfl, hreached.ofSegments_string hlead⟩

theorem segments_interpolated_singleQuotes : 1 ≤ 1 ∧
    Interpolated true (.string '"') (keyed '\'' ['A'] ['v'] ['[', '1', ']'] ['C']) ∧
    IsReached "f(\"A\x7b$v['[1]']\x7dC\"[2])".toList (codes ['f', '('])
      ('"' :: (keyed '\'' ['A'] ['v'] ['[', '1', ']'] ['C'] ++ '"' :: ['[', '2', ']', ')'])) ∧
    Interpolated false (.string '"') (keyed '\'' ['A'] ['v'] ['[', '1', ']'] ['C']) ∧
    (Strategy.php.segments (normalizeWith .php true 1 "f(\"A\x7b$v['[1]']\x7dC\"[2])".toList).text)[1]? =
      some (Segment.literal ('"' :: (keyed '\'' ['A'] ['v'] ['[', '1', ']'] ['C'] ++ ['"']))) := by
  have hplain : ∀ s ∈ [['A'], ['v'], ['[', '1', ']'], ['C']], ∀ x ∈ s, IsPlain x := by simp [IsPlain, isQuote]
  have hbody (bare : Bool) : Interpolated bare (.string '"') (keyed '\'' ['A'] ['v'] ['[', '1', ']'] ['C']) :=
    interpolated_keyed rfl (fun h => absurd h (by decide)) (hplain _ (by simp)) (hplain _ (by simp))
      (hplain _ (by simp)) (hplain _ (by simp))
  have htext : Strategy.php.segments "f(\"A\x7b$v['[1]']\x7dC\"[2])".toList = [Segment.code ['f', '('],
      Segment.literal "\"A\x7b$v['[1]']\x7dC\"".toList, Segment.code ['[', '2', ']', ')']] := by cbv
  have hrest : scan .script ('"' :: (keyed '\'' ['A'] ['v'] ['[', '1', ']'] ['C'] ++ '"' :: ['[', '2', ']', ')'])) =
      [Segment.literal "\"A\x7b$v['[1]']\x7dC\"".toList, Segment.code ['[', '2', ']', ')']] := by cbv
  have hreached : IsReached "f(\"A\x7b$v['[1]']\x7dC\"[2])".toList (codes ['f', '('])
      ('"' :: (keyed '\'' ['A'] ['v'] ['[', '1', ']'] ['C'] ++ '"' :: ['[', '2', ']', ')'])) := by
    rw [IsReached, htext, hrest]
    rfl
  obtain ⟨-, -, hplace⟩ := (segments_interpolated (Nat.le_refl 1) true (hbody true) hreached).1 (hbody false)
  exact ⟨Nat.le_refl 1, hbody true, hreached, hbody false, hplace⟩

/-- A key in double quotes breaks the string up: the scanner comes to the key in script mode, as it comes to code. -/
theorem isReached_key {a v k c : List Char} (ha : ∀ x ∈ a, IsPlain x) (hv : ∀ x ∈ v, IsPlain x)
    (hreached : IsReached text front ('"' :: (keyed '"' a v k c ++ '"' :: after))) :
    IsReached text (front ++ [.literal ('"' :: (a ++ '{' :: '$' :: (v ++ ['[', '"'])))])
      (k ++ '"' :: ']' :: '}' :: (c ++ '"' :: after)) := by
  have hbracket : IsPassed ['['] := isPassed_singleton (by decide) (by decide)
  have hlead : IsPassed (a ++ (['{', '$'] ++ (v ++ ['[']))) :=
    (isPassed_of_isPlain ha).append (isPassed_opening.append ((isPassed_of_isPlain hv).append hbracket))
  have htext : keyed '"' a v k c ++ '"' :: after =
      (a ++ (['{', '$'] ++ (v ++ ['[']))) ++ '"' :: (k ++ '"' :: ']' :: '}' :: (c ++ '"' :: after)) := by
    simp [keyed]
  rw [htext] at hreached
  have hpieces := hreached.ofSegments_string hlead
  unfold IsReached
  rw [hpieces]
  simp

/-- The bracket of a key in double quotes is rewritten, and the string is no literal. -/
theorem segments_interpolated_doubleQuotes :
    Interpolated true (.string '"') (keyed '"' ['A'] ['v'] ['[', '1', ',', '2', ']'] ['C']) ∧
    IsReached "$x = \"A\x7b$v[\"[1,2]\"]\x7dC\";".toList (codes ['$', 'x', ' ', '=', ' '])
      ('"' :: (keyed '"' ['A'] ['v'] ['[', '1', ',', '2', ']'] ['C'] ++ '"' :: [';'])) ∧
    Strategy.php.segments "$x = \"A\x7b$v[\"[1,2]\"]\x7dC\";".toList = [Segment.code "$x = ".toList,
      Segment.literal "\"A\x7b$v[\"".toList, Segment.code "[1,2]".toList, Segment.literal "\"]\x7dC\"".toList,
      Segment.code ";".toList] ∧
    Segment.literal ('"' :: (keyed '"' ['A'] ['v'] ['[', '1', ',', '2', ']'] ['C'] ++ ['"'])) ∉
      Strategy.php.segments "$x = \"A\x7b$v[\"[1,2]\"]\x7dC\";".toList ∧
    (normalize "$x = \"A\x7b$v[\"[1,2]\"]\x7dC\";".toList).text = "$x = \"A\x7b$v[\"[ 1,2 ]\"]\x7dC\";".toList := by
  have hplain : ∀ s ∈ [['A'], ['v'], ['[', '1', ',', '2', ']'], ['C']], ∀ x ∈ s, IsPlain x := by
    simp [IsPlain, isQuote]
  have hbody : Interpolated true (.string '"') (keyed '"' ['A'] ['v'] ['[', '1', ',', '2', ']'] ['C']) :=
    interpolated_keyed rfl (fun _ => rfl) (hplain _ (by simp)) (hplain _ (by simp)) (hplain _ (by simp))
      (hplain _ (by simp))
  have htext : Strategy.php.segments "$x = \"A\x7b$v[\"[1,2]\"]\x7dC\";".toList = [Segment.code "$x = ".toList,
      Segment.literal "\"A\x7b$v[\"".toList, Segment.code "[1,2]".toList, Segment.literal "\"]\x7dC\"".toList,
      Segment.code ";".toList] := by cbv
  have hrest : scan .script ('"' :: (keyed '"' ['A'] ['v'] ['[', '1', ',', '2', ']'] ['C'] ++ '"' :: [';'])) =
      [Segment.literal "\"A\x7b$v[\"".toList, Segment.code "[1,2]".toList, Segment.literal "\"]\x7dC\"".toList,
        Segment.code ";".toList] := by cbv
  refine ⟨hbody, ?_, htext, ?_, by cbv⟩
  · rw [IsReached, htext, hrest]
    rfl
  · rw [htext]
    decide

end BracketSpacing
