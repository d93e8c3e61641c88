import Bindery.Proofs.Legacy.Grammar
import Bindery.Proofs.Text.Digits
/-!
# Reading tokens, against their spellings

What the reader takes for a token is spelled like one, and what it passes over is white space and
comments. The other way round, a token that a space follows is read as what it is, in every context
that knows it.
-/
namespace Bindery.Legacy

/-- A comment goes up to the first mark that closes it: a star in front of that would have closed it
earlier. -/
theorem blockComment_eq_some {s stretch rest : List Char}
    (h : blockComment s = some (stretch, rest)) :
    ∃ comment, s = comment ++ '*' :: '/' :: rest ∧ ¬ ['*', '/'] <:+: comment ++ ['*'] := by
  fun_induction blockComment s generalizing stretch with
  | case1 => cases h
  | case2 rest' =>
    cases h
    exact ⟨[], rfl, by decide⟩
  | case3 c more hnot ih =>
    obtain ⟨⟨found, rest'⟩, hfound, h⟩ := Option.map_eq_some_iff.1 h
    cases h
    obtain ⟨comment, rfl, hcomment⟩ := ih hfound
    refine ⟨c :: comment, rfl, ?_⟩
    rw [List.cons_append, List.infix_cons_iff, not_or]
    refine ⟨?_, hcomment⟩
    intro hstart
    obtain ⟨rfl, hslash⟩ := List.cons_prefix_cons.1 hstart
    cases comment with
    | nil => simp at hslash
    | cons d comment =>
      obtain ⟨rfl, -⟩ := List.cons_prefix_cons.1 hslash
      exact hnot _ rfl rfl

theorem Skips.of_blank? {s stretch rest t : List Char} (h : blank? s = some (stretch, rest))
    (ht : Skips rest t) : Skips s t := by
  unfold blank? at h
  split at h
  · rename_i line
    cases h
    have hline : '\n' ∉ line.takeWhile (· ≠ '\n') := fun hmem => by
      simpa using List.all_eq_true.1 List.all_takeWhile _ hmem
    have hend : ∀ c ∈ (line.dropWhile (· ≠ '\n')).head?, c = '\n' := fun c hc => by
      have hstop := List.head?_dropWhile_not (· ≠ '\n') line
      rw [Option.mem_def.1 hc] at hstop
      simpa using hstop
    simpa using Skips.line hline hend ht
  · obtain ⟨⟨found, rest'⟩, hfound, h⟩ := Option.map_eq_some_iff.1 h
    obtain ⟨-, rfl⟩ := Prod.mk.inj h
    obtain ⟨comment, rfl, hcomment⟩ := blockComment_eq_some hfound
    exact .block hcomment ht
  · split at h
    · rename_i hblank
      cases h
      exact .blank hblank ht
    · cases h
  · cases h

/-- Only white space and comments are passed over. -/
theorem skips_skipBlanks (fuel : Nat) (c : Cursor) : Skips c.rest (skipBlanks fuel c).rest := by
  induction fuel generalizing c with
  | zero => exact .refl
  | succ fuel ih =>
    rw [skipBlanks]
    split
    · exact .refl
    · rename_i stretch rest h
      exact .of_blank? h (ih (c.pass stretch rest))

theorem Skips.trans {s t u : List Char} (h : Skips s t) (h' : Skips t u) : Skips s u := by
  induction h with
  | refl => exact h'
  | blank hc _ ih => exact .blank hc (ih h')
  | line hline hend _ ih => exact .line hline hend (ih h')
  | block hcomment _ ih => exact .block hcomment (ih h')

theorem Splits.skip {s t : List Char} {ls : List Lexeme} (h : Skips s t) (ht : Splits t ls) :
    Splits s ls := by
  cases ht with
  | nil hend => exact .nil (h.trans hend)
  | cons hskip hspelled hrest => exact .cons (h.trans hskip) hspelled hrest

theorem literalBody_eq_some {s found rest : List Char} (h : literalBody s = some (found, rest)) :
    ∃ content, found = content ++ ['"'] ∧ s = found ++ rest ∧ Escaped content := by
  fun_induction literalBody s generalizing found with
  | case1 | case3 | case4 => cases h
  | case2 more =>
    cases h
    exact ⟨[], rfl, rfl, .nil⟩
  | case5 c more hc ih =>
    obtain ⟨⟨found, rest'⟩, hfound, h⟩ := Option.map_eq_some_iff.1 h
    cases h
    obtain ⟨content, rfl, rfl, hcontent⟩ := ih hfound
    exact ⟨'\\' :: c :: content, rfl, rfl, .escape (fun e => hc e) hcontent⟩
  | case6 c more hquote hline hslash hescape ih =>
    obtain ⟨⟨found, rest'⟩, hfound, h⟩ := Option.map_eq_some_iff.1 h
    cases h
    have hc : c ≠ '\\' := by
      cases more with
      | nil => cases hfound
      | cons d more => exact fun e => hescape d more e rfl
    obtain ⟨content, rfl, rfl, hcontent⟩ := ih hfound
    exact ⟨c :: content, rfl, rfl, .plain hquote hc hline hcontent⟩

/-- A literal that is read is spelled like one. -/
theorem literal?_eq_some {s lexeme rest : List Char} (h : literal? s = some (lexeme, rest)) :
    s = lexeme ++ rest ∧ Spelled .text lexeme := by
  unfold literal? at h
  split at h
  · obtain ⟨⟨found, rest'⟩, hfound, h⟩ := Option.map_eq_some_iff.1 h
    obtain ⟨rfl, rfl⟩ := Prod.mk.inj h
    obtain ⟨content, rfl, rfl, hcontent⟩ := literalBody_eq_some hfound
    exact ⟨rfl, content, rfl, hcontent⟩
  · cases h

theorem digits_takeWhile {s : List Char} (h : s.takeWhile Text.isDigit ≠ []) :
    Digits (s.takeWhile Text.isDigit) :=
  ⟨h, fun c hc => List.all_eq_true.1 List.all_takeWhile c hc⟩

theorem takeWhile_append_drop (p : Char → Bool) (s : List Char) :
    s.takeWhile p ++ s.drop (s.takeWhile p).length = s :=
  List.prefix_iff_eq_append.1 <| List.takeWhile_prefix p

/-- The digits behind a point stand at the front of the text. -/
theorem fractionPart_spec (s : List Char) :
    fractionPart s ++ s.drop (fractionPart s).length = s ∧
      (fractionPart s = [] ∨ ∃ digits, fractionPart s = '.' :: digits ∧ Digits digits) := by
  unfold fractionPart
  split
  · rename_i rest
    dsimp only
    split
    · exact ⟨rfl, .inl rfl⟩
    · rename_i h
      refine ⟨?_, .inr ⟨_, rfl, digits_takeWhile h⟩⟩
      simp [takeWhile_append_drop]
  · exact ⟨rfl, .inl rfl⟩

/-- The sign of a number, and what follows it. -/
def splitSign : List Char → List Char × List Char
  | '-' :: rest => (['-'], rest)
  | rest => ([], rest)

theorem number?_eq (s : List Char) :
    number? s =
      let digits := (splitSign s).2.takeWhile Text.isDigit
      let rest := (splitSign s).2.drop digits.length
      if digits = [] then none
      else some ((splitSign s).1 ++ digits ++ fractionPart rest,
        rest.drop (fractionPart rest).length) :=
  rfl

theorem splitSign_spec (s : List Char) :
    (splitSign s).1 ++ (splitSign s).2 = s ∧ ((splitSign s).1 = [] ∨ (splitSign s).1 = ['-']) := by
  unfold splitSign
  split
  · exact ⟨rfl, .inr rfl⟩
  · exact ⟨rfl, .inl rfl⟩

/-- A number that is read is spelled like one. -/
theorem number?_eq_some {s lexeme rest : List Char} (h : number? s = some (lexeme, rest)) :
    s = lexeme ++ rest ∧ Spelled .number lexeme := by
  obtain ⟨hs, hsign⟩ := splitSign_spec s
  rw [number?_eq] at h
  dsimp only at h
  split at h
  · cases h
  · rename_i hdigits
    have hwhole := takeWhile_append_drop Text.isDigit (splitSign s).2
    obtain ⟨hfraction, hspelled⟩ :=
      fractionPart_spec ((splitSign s).2.drop ((splitSign s).2.takeWhile Text.isDigit).length)
    cases h
    refine ⟨?_, _, _, _, List.append_assoc .., hsign, digits_takeWhile hdigits, hspelled⟩
    rw [List.append_assoc, List.append_assoc, hfraction, hwhole, hs]

/-- A word that starts like a name is spelled as what it is taken for. -/
theorem spelled_wordKind {keywords : List Keyword} {word : List Char} (h : Spelled .name word) :
    Spelled (wordKind keywords word) word := by
  unfold wordKind
  split
  · rename_i k hfind
    have hk := List.find?_some hfind
    exact (of_decide_eq_true hk).symm
  · exact h

/-- A word that is read is spelled like a name, or like the keyword it is. -/
theorem word?_eq_some {keywords : List Keyword} {s lexeme rest : List Char} {kind : TokenKind}
    (h : word? keywords s = some (kind, lexeme, rest)) :
    s = lexeme ++ rest ∧ Spelled kind lexeme := by
  unfold word? at h
  split at h
  · cases h
  · rename_i c more
    split at h
    · rename_i hc
      obtain ⟨hkind, h⟩ := Prod.mk.inj (Option.some.inj h)
      obtain ⟨rfl, rfl⟩ := Prod.mk.inj h
      subst hkind
      refine ⟨List.takeWhile_append_dropWhile.symm, spelled_wordKind ?_⟩
      refine ⟨c, more.takeWhile isWordChar, ?_, hc, fun d hd => ?_⟩
      · rw [List.takeWhile_cons_of_pos (by simp [isWordChar, hc])]
      · exact List.all_eq_true.1 List.all_takeWhile d hd
    · cases h

theorem dropHead?_eq_some {head s rest : List Char} (h : Text.dropHead? head s = some rest) :
    s = head ++ rest := by
  fun_induction Text.dropHead? head s with
  | case1 => exact Option.some.inj h
  | case2 | case4 => cases h
  | case3 c head more ih => rw [ih h, List.cons_append]

theorem keyword?_eq_some {keywords : List Keyword} {s lexeme rest : List Char} {kind : TokenKind}
    (h : keyword? keywords s = some (kind, lexeme, rest)) :
    s = lexeme ++ rest ∧ Spelled kind lexeme := by
  obtain ⟨k, -, hk⟩ := List.exists_of_findSome?_eq_some h
  obtain ⟨more, hmore, hk⟩ := Option.map_eq_some_iff.1 hk
  cases hk
  exact ⟨dropHead?_eq_some hmore, rfl⟩

theorem Punctuation.ofChar?_eq_some {c : Char} {p : Punctuation} :
    ofChar? c = some p ↔ p.char = c := by
  constructor
  · intro h
    simpa using List.find?_some h
  · rintro rfl
    cases p <;> rfl

theorem symbol?_eq_some {s lexeme rest : List Char} {kind : TokenKind}
    (h : symbol? s = some (kind, lexeme, rest)) : s = lexeme ++ rest ∧ Spelled kind lexeme := by
  unfold symbol? at h
  split at h
  · rename_i hliteral
    cases h
    exact literal?_eq_some hliteral
  · split at h
    · rename_i hnumber
      cases h
      exact number?_eq_some hnumber
    · split at h
      · cases h
      · obtain ⟨p, hp, h⟩ := Option.map_eq_some_iff.1 h
        cases h
        exact ⟨rfl, by rw [Spelled, Punctuation.ofChar?_eq_some.1 hp]⟩

theorem tokenIn_eq_some {ctx : Context} {s lexeme rest : List Char} {kind : TokenKind}
    (h : tokenIn ctx s = some (kind, lexeme, rest)) : s = lexeme ++ rest ∧ Spelled kind lexeme := by
  unfold tokenIn at h
  dsimp only at h
  split at h
  · rename_i found hfound
    cases h
    split at hfound
    · exact word?_eq_some hfound
    · exact keyword?_eq_some hfound
  · exact symbol?_eq_some h

/-- A token that is read stands at the front of the text, and it is spelled like its kind. -/
theorem token?_eq_some {ctx : Context} {s lexeme rest : List Char} {kind : TokenKind}
    (h : token? ctx s = some (kind, lexeme, rest)) : s = lexeme ++ rest ∧ Spelled kind lexeme := by
  unfold token? at h
  split at h
  · rename_i hfound
    exact tokenIn_eq_some (hfound.trans h)
  · exact tokenIn_eq_some h

/-- A context in which a token of a kind may stand. -/
def Context.Knows (ctx : Context) : TokenKind → Prop
  | .keyword k => k ∈ ctx.keywords
  | .name => ctx.names = true
  | .text | .number | .mark _ | .finish => True

instance (ctx : Context) : (kind : TokenKind) → Decidable (ctx.Knows kind)
  | .keyword k => inferInstanceAs (Decidable (k ∈ ctx.keywords))
  | .name => inferInstanceAs (Decidable (ctx.names = true))
  | .text | .number | .mark _ | .finish => .isTrue trivial

/-- A token that is spelled right, and no name that is spelled like a keyword. -/
structure Lexeme.Plain (l : Lexeme) : Prop where
  spelled : Spelled l.kind l.text
  not_keyword : l.kind = .name → ∀ k : Keyword, l.text ≠ k.spelling.toList

/-- The content of a literal is read up to the quote behind it. -/
theorem literalBody_append {content : List Char} (h : Escaped content) (rest : List Char) :
    literalBody (content ++ '"' :: rest) = some (content ++ ['"'], rest) := by
  induction h with
  | nil => rfl
  | @plain c content hquote hslash hline _ ih =>
    rw [List.cons_append, literalBody.eq_6 _ _ hquote hline (fun _ e => (hslash e).elim)
      (fun _ _ e => (hslash e).elim), ih]
    rfl
  | @escape c content hline _ ih =>
    rw [List.cons_append, List.cons_append, literalBody.eq_5 _ _ (fun e => hline e), ih]
    rfl

section
variable {rest : List Char} (hrest : ∀ c ∈ rest.head?, c = ' ')
include hrest

/-- A stretch of characters of one sort ends where the token does. -/
theorem takeWhile_token {p : Char → Bool} {stretch : List Char} (hall : ∀ c ∈ stretch, p c = true)
    (hspace : p ' ' = false) :
    (stretch ++ rest).takeWhile p = stretch ∧ (stretch ++ rest).dropWhile p = rest :=
  Text.takeWhile_stretch hall fun c hc => by rw [hrest c hc, hspace]

theorem fractionPart_append {fraction : List Char}
    (h : fraction = [] ∨ ∃ digits, fraction = '.' :: digits ∧ Digits digits) :
    fractionPart (fraction ++ rest) = fraction := by
  obtain rfl | ⟨digits, rfl, hne, hdigits⟩ := h
  · cases rest with
    | nil => rfl
    | cons c rest => rw [hrest c rfl]; rfl
  · have htake := (takeWhile_token hrest hdigits rfl).1
    simp [fractionPart, htake, hne]

/-- A number is read up to the space behind it. -/
theorem number?_append {text : List Char} (h : Spelled .number text) :
    number? (text ++ rest) = some (text, rest) := by
  obtain ⟨sign, whole, fraction, rfl, hsign, ⟨hne, hwhole⟩, hfraction⟩ := h
  have hsplit : splitSign (sign ++ (whole ++ fraction) ++ rest) =
      (sign, whole ++ (fraction ++ rest)) := by
    obtain rfl | rfl := hsign
    · cases whole with
      | nil => exact absurd rfl hne
      | cons c whole =>
        have hc : c ≠ '-' := by
          rintro rfl
          exact absurd (hwhole '-' List.mem_cons_self) (by decide)
        rw [List.nil_append, List.append_assoc, List.cons_append,
          splitSign.eq_2 _ fun _ e => hc (List.cons.inj e).1]
    · simp [splitSign]
  have hbehind : ∀ c ∈ (fraction ++ rest).head?, Text.isDigit c = false := by
    obtain rfl | ⟨digits, rfl, -⟩ := hfraction
    · intro c hc
      rw [hrest c hc]
      rfl
    · rintro c ⟨⟩
      rfl
  obtain ⟨htake, -⟩ := Text.takeWhile_stretch hwhole hbehind
  rw [number?_eq, hsplit]
  simp [htake, hne, fractionPart_append hrest hfraction]

/-- A word is read up to the space behind it, as a keyword if it is one of those. -/
theorem word?_append {keywords : List Keyword} {text : List Char} (h : Spelled .name text) :
    word? keywords (text ++ rest) = some (wordKind keywords text, text, rest) := by
  obtain ⟨c, more, rfl, hc, hmore⟩ := h
  have hall : ∀ d ∈ c :: more, isWordChar d = true :=
    List.forall_mem_cons.2 ⟨by simp [isWordChar, hc], hmore⟩
  obtain ⟨htake, hdrop⟩ := takeWhile_token hrest hall rfl
  rw [List.cons_append] at htake hdrop ⊢
  simp [word?, hc, htake, hdrop]

end

theorem Keyword.spelled_word (k : Keyword) : Spelled .name k.spelling.toList := by
  cases k <;> exact ⟨_, _, rfl, by decide, List.all_eq_true.1 (by decide)⟩

/-- No keyword starts with another one. -/
theorem Keyword.dropHead?_spelling {k k' : Keyword} (h : k' ≠ k) (rest : List Char) :
    Text.dropHead? k'.spelling.toList (k.spelling.toList ++ rest) = none := by
  cases k <;> cases k' <;> first | rfl | exact absurd rfl h

theorem keyword?_append {keywords : List Keyword} {k : Keyword} (h : k ∈ keywords)
    (rest : List Char) :
    keyword? keywords (k.spelling.toList ++ rest) =
      some (.keyword k, k.spelling.toList, rest) := by
  unfold keyword?
  induction keywords with
  | nil => cases h
  | cons k' keywords ih =>
    rw [List.findSome?_cons]
    by_cases hk : k' = k
    · rw [hk, Text.dropHead?_append]
      rfl
    · rw [Keyword.dropHead?_spelling hk]
      exact ih ((List.mem_cons.1 h).resolve_left (Ne.symm hk))

theorem find?_spelling {keywords : List Keyword} {k : Keyword} (h : k ∈ keywords) :
    keywords.find? (·.spelling.toList = k.spelling.toList) = some k := by
  induction keywords with
  | nil => cases h
  | cons k' keywords ih =>
    by_cases hk : k' = k
    · simp [hk]
    · have hne : k'.spelling.toList ≠ k.spelling.toList := by
        intro e
        have hnone := Keyword.dropHead?_spelling hk []
        rw [← e, Text.dropHead?_append] at hnone
        cases hnone
      rw [List.find?_cons_of_neg (by simpa using hne)]
      exact ih ((List.mem_cons.1 h).resolve_left (Ne.symm hk))

/-- A token that is no word starts with no letter. -/
theorem tokenIn_of_not_word {ctx : Context} {c : Char} {s : List Char} (h : isWordStart c = false) :
    tokenIn ctx (c :: s) = symbol? (c :: s) := by
  have hkeyword : ∀ k : Keyword, Text.dropHead? k.spelling.toList (c :: s) = none := by
    intro k
    obtain ⟨d, more, htext, hd, -⟩ := k.spelled_word
    have hne : d ≠ c := by
      rintro rfl
      rw [hd] at h
      cases h
    simp [htext, Text.dropHead?, hne]
  have hwords : (if ctx.names then word? ctx.keywords (c :: s)
      else keyword? ctx.keywords (c :: s)) = none := by
    split
    · simp [word?, h]
    · simp [keyword?, hkeyword]
  rw [tokenIn, hwords]

/-- A number starts with its sign or a digit. -/
theorem Spelled.number_head {text : List Char} (h : Spelled .number text) :
    ∃ c rest, text = c :: rest ∧ (c = '-' ∨ Text.isDigit c = true) := by
  obtain ⟨sign, whole, fraction, rfl, rfl | rfl, ⟨hne, hwhole⟩, -⟩ := h
  · cases whole with
    | nil => exact absurd rfl hne
    | cons c whole => exact ⟨c, _, rfl, .inr (hwhole c List.mem_cons_self)⟩
  · exact ⟨'-', _, rfl, .inl rfl⟩

theorem isWordStart_of_isDigit {c : Char} (h : Text.isDigit c = true) : isWordStart c = false := by
  have hne : c ≠ '_' := by
    rintro rfl
    cases h
  simp only [Text.isDigit, decide_eq_true_eq] at h
  simp only [isWordStart, hne, decide_false, Bool.or_false, Bool.or_eq_false_iff,
    decide_eq_false_iff_not]
  omega

/-- A token is read up to the space behind it in every context that knows it. -/
theorem tokenIn_append {ctx : Context} {l : Lexeme} {rest : List Char} (hl : l.Plain)
    (hknows : ctx.Knows l.kind) (hrest : ∀ c ∈ rest.head?, c = ' ') :
    tokenIn ctx (l.text ++ rest) = some (l.kind, l.text, rest) := by
  obtain ⟨kind, text⟩ := l
  obtain ⟨hspelled, hname⟩ := hl
  cases kind with
  | keyword k =>
    obtain rfl : text = k.spelling.toList := hspelled
    have hk : k ∈ ctx.keywords := hknows
    have hwords : (if ctx.names then word? ctx.keywords (k.spelling.toList ++ rest)
        else keyword? ctx.keywords (k.spelling.toList ++ rest)) =
        some (.keyword k, k.spelling.toList, rest) := by
      split
      · rw [word?_append hrest k.spelled_word, wordKind, find?_spelling hk]
      · exact keyword?_append hk rest
    rw [tokenIn, hwords]
  | name =>
    have hnames : ctx.names = true := hknows
    have hfind : ctx.keywords.find? (·.spelling.toList = text) = none :=
      List.find?_eq_none.2 fun k _ => by simpa using (hname rfl k).symm
    simp only [tokenIn, hnames, if_true, word?_append hrest hspelled, wordKind, hfind]
  | text =>
    obtain ⟨content, rfl, hcontent⟩ := hspelled
    have hbody := literalBody_append hcontent rest
    rw [List.cons_append, List.append_assoc, List.singleton_append,
      tokenIn_of_not_word (by decide), symbol?, literal?, hbody]
    rfl
  | number =>
    have hnumber := number?_append hrest hspelled
    obtain ⟨c, more, rfl, hc⟩ := Spelled.number_head hspelled
    have hword : isWordStart c = false := by
      obtain rfl | hdigit := hc
      · rfl
      · exact isWordStart_of_isDigit hdigit
    have hquote : c ≠ '"' := by
      rintro rfl
      obtain h | h := hc <;> cases h
    have hliteral : literal? (c :: more ++ rest) = none :=
      literal?.eq_2 _ fun _ e => hquote (List.cons.inj e).1
    rw [List.cons_append] at hliteral hnumber ⊢
    simp only [tokenIn_of_not_word hword, symbol?, hliteral, hnumber]
  | mark p =>
    obtain rfl : text = [p.char] := hspelled
    rw [List.singleton_append, tokenIn_of_not_word (by cases p <;> rfl)]
    cases p <;> rfl
  | finish => exact hspelled.elim

/-- A token with a space or the end behind it is read as what it is. -/
theorem token?_append {ctx : Context} {l : Lexeme} {rest : List Char} (hl : l.Plain)
    (hknows : ctx.Knows l.kind) (hrest : ∀ c ∈ rest.head?, c = ' ') :
    token? ctx (l.text ++ rest) = some (l.kind, l.text, rest) := by
  rw [token?, tokenIn_append hl hknows hrest]

/-- White space and slashes are told from the characters that a token starts with. -/
theorem ne_slash_and_not_blank {p : Char → Bool} {c : Char}
    (hp : (['/', ' ', '\t', '\x0c', '\r', '\n'].all fun b => !p b) = true) (hc : p c = true) :
    c ≠ '/' ∧ isBlank c = false := by
  have hne : c ∉ ['/', ' ', '\t', '\x0c', '\r', '\n'] := by
    intro hmem
    have hnot := List.all_eq_true.1 hp c hmem
    simp [hc] at hnot
  rw [List.mem_cons, not_or] at hne
  exact ⟨hne.1, decide_eq_false hne.2⟩

/-- No token starts like white space or a comment. -/
theorem Spelled.head {kind : TokenKind} {text : List Char} (h : Spelled kind text) :
    ∃ c rest, text = c :: rest ∧ c ≠ '/' ∧ isBlank c = false := by
  have hword : ∀ {text : List Char}, Spelled .name text →
      ∃ c rest, text = c :: rest ∧ c ≠ '/' ∧ isBlank c = false := by
    rintro text ⟨c, rest, rfl, hc, -⟩
    exact ⟨c, rest, rfl, ne_slash_and_not_blank (by decide) hc⟩
  cases kind with
  | keyword k =>
    obtain rfl : text = k.spelling.toList := h
    exact hword k.spelled_word
  | name => exact hword h
  | text =>
    obtain ⟨content, rfl, -⟩ := h
    exact ⟨'"', _, rfl, by decide, by decide⟩
  | number =>
    obtain ⟨c, rest, rfl, hc⟩ := Spelled.number_head h
    refine ⟨c, rest, rfl, ?_⟩
    obtain rfl | hdigit := hc
    · exact ⟨by decide, by decide⟩
    · exact ne_slash_and_not_blank (by decide) hdigit
  | mark p =>
    obtain rfl : text = [p.char] := h
    exact ⟨p.char, [], rfl, by cases p <;> decide, by cases p <;> decide⟩
  | finish => exact h.elim

/-- No token starts like a blank. -/
theorem blank?_of_token {kind : TokenKind} {text : List Char} (h : Spelled kind text)
    (rest : List Char) : blank? (text ++ rest) = none := by
  obtain ⟨c, more, rfl, hslash, hblank⟩ := h.head
  rw [List.cons_append, blank?.eq_3 _ _ (fun _ e => (hslash e).elim) (fun _ e => (hslash e).elim)]
  simp [hblank]

end Bindery.Legacy
