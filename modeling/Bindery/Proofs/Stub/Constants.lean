import Bindery.Proofs.Legacy.Escapes
import Bindery.Proofs.Text.Quoted
/-!
# Constants read back

The constants that a stub gives as defaults, as Python reads them: `None`, and string literals on
one line. These have the escapes that the literals of a legacy file have, but a character that is
not escaped stands for itself and not for its bytes. Every quoted text is read back as it is.
-/
namespace Bindery.Stub

open Legacy.Escape (Denotes HexEscape IsHex bytePoints digitsValue letters)
open Text (IsQuote escapeChar)

/-- A character that cannot stand in a literal on one line. -/
def breaksLine (c : Char) : Bool := c = '\n' || c = '\r' || c.toNat = 0

/-- What stands in front of the quote that closes a literal. The literal ends there, on its first
line. -/
def content? (quote : Char) : List Char → Option (List Char)
  | [] => none
  | '\\' :: c :: rest =>
    if breaksLine c then none else (content? quote rest).map ('\\' :: c :: ·)
  | c :: rest =>
    if c = quote then if rest = [] then some [] else none
    else if breaksLine c then none
    else (content? quote rest).map (c :: ·)

def wideEscape (c : Char) : List Char := '\\' :: 'U' :: Text.hex 8 c.toNat

/-- The content of a literal in ASCII, with escapes for all other characters. A backslash in front
of one of these stands for itself. -/
def asciiForm : List Char → List Char
  | [] => []
  | '\\' :: c :: rest =>
    (if c.toNat < 0x80 then ['\\', c] else '\\' :: '\\' :: wideEscape c) ++ asciiForm rest
  | c :: rest => (if c.toNat < 0x80 then [c] else wideEscape c) ++ asciiForm rest

/-- The code points that a literal stands for. -/
def literal? : List Char → Option (List Nat)
  | [] => none
  | quote :: rest =>
    if quote = Text.apostrophe ∨ quote = '"' then
      match content? quote rest with
      | none => none
      | some content => (Legacy.Escape.points (Utf8.encodeChars (asciiForm content))).toOption
    else none

/-- The value of a default; a text goes by its code points. -/
inductive Constant where
  | none
  | text (points : List Nat)
  deriving DecidableEq, Repr

def constant? (s : String) : Option Constant :=
  if s = "None" then some .none else (literal? s.toList).map .text

variable {quote : Char}

/-- A character that stands for itself in a literal and does not end it. -/
def IsPlain (quote c : Char) : Prop := c ≠ '\\' ∧ c ≠ quote ∧ breaksLine c = false

/-- A character in a quoted text stands for itself, or it is an escape of one letter or sign, or
one of its code point. -/
theorem escapeChar_cases (hquote : IsQuote quote) (c : Char) :
    (escapeChar quote c = [c] ∧ IsPlain quote c) ∨
      (∃ entry ∈ letters, escapeChar quote c = ['\\', entry.1] ∧ c.toNat = entry.2) ∨
      ∃ kind : HexEscape, escapeChar quote c = '\\' :: kind.letter :: Text.hex kind.count c.toNat ∧
        c.toNat < 16 ^ kind.count := by
  have hwide : c.toNat < 16 ^ 8 := by
    have := Utf8.toNat_valid c
    omega
  unfold escapeChar
  split
  · rename_i hc
    refine .inr (.inl ⟨(c, c.toNat), ?_, rfl, rfl⟩)
    rcases hc with rfl | rfl
    · decide
    · rcases hquote with rfl | rfl <;> decide
  rename_i hplain
  split
  · rename_i hc
    exact .inr (.inl ⟨('n', 0x0A), by decide, rfl, by rw [hc]; rfl⟩)
  rename_i hfeed
  split
  · rename_i hc
    exact .inr (.inl ⟨('r', 0x0D), by decide, rfl, by rw [hc]; rfl⟩)
  rename_i hreturn
  split
  · rename_i hc
    exact .inr (.inl ⟨('t', 0x09), by decide, rfl, by rw [hc]; rfl⟩)
  split
  · rename_i hprintable
    refine .inl ⟨rfl, fun h => hplain (.inl h), fun h => hplain (.inr h), ?_⟩
    have hnul : c.toNat ≠ 0 := by
      intro h
      obtain rfl : c = Char.ofNat 0 := by rw [← h, Char.ofNat_toNat]
      exact absurd hprintable (by decide)
    simp [breaksLine, hfeed, hreturn, hnul]
  split
  · exact .inr (.inr ⟨.two, rfl, by assumption⟩)
  split
  · exact .inr (.inr ⟨.four, rfl, by assumption⟩)
  · exact .inr (.inr ⟨.eight, rfl, hwide⟩)

theorem isHex_of_mem_hex {width n : Nat} {d : Char} (h : d ∈ Text.hex width n) : IsHex d := by
  induction width generalizing n with
  | zero => cases h
  | succ width ih =>
    rw [Text.hex_succ, List.mem_append, List.mem_singleton] at h
    obtain h | rfl := h
    · exact ih h
    · rw [IsHex, Text.hexValue?_hexDigit (Nat.mod_lt n (by decide))]
      rfl

theorem content?_cons {c : Char} (h : c ≠ '\\') (rest : List Char) :
    content? quote (c :: rest) =
      if c = quote then if rest = [] then some [] else none
      else if breaksLine c then none
      else (content? quote rest).map (c :: ·) := by
  rw [content?.eq_3]
  simp [h]

theorem content?_plain {front : List Char} (h : ∀ c ∈ front, IsPlain quote c)
    (rest : List Char) :
    content? quote (front ++ rest) = (content? quote rest).map (front ++ ·) := by
  induction front with
  | nil => simp
  | cons c front ih =>
    obtain ⟨⟨hback, hquote, hbreak⟩, hfront⟩ := List.forall_mem_cons.1 h
    rw [List.cons_append, content?_cons hback, if_neg hquote, hbreak, ih hfront]
    simp [Function.comp_def]

theorem isPlain_of_isHex (hquote : IsQuote quote) {d : Char} (h : IsHex d) :
    IsPlain quote d := by
  have hnone : ∀ c : Char, Text.hexValue? c = none → d ≠ c := by
    rintro c hc rfl
    rw [IsHex, hc] at h
    cases h
  refine ⟨hnone _ (by decide), ?_, ?_⟩
  · rcases hquote with rfl | rfl <;> exact hnone _ (by decide)
  · have hnul : d.toNat ≠ 0 := by
      intro hd
      exact hnone (Char.ofNat 0) (by decide) (by rw [← hd, Char.ofNat_toNat])
    simp [breaksLine, hnone '\n' (by decide), hnone '\r' (by decide), hnul]

theorem content?_escapeChar (hquote : IsQuote quote) (c : Char) (rest : List Char) :
    content? quote (escapeChar quote c ++ rest) =
      (content? quote rest).map (escapeChar quote c ++ ·) := by
  obtain ⟨hraw, hc⟩ | ⟨entry, hentry, hescape, -⟩ | ⟨kind, hescape, -⟩ :=
    escapeChar_cases hquote c
  · rw [hraw]
    exact content?_plain (by simpa using hc) rest
  · have hbreak : breaksLine entry.1 = false :=
      (by decide : ∀ entry ∈ letters, breaksLine entry.1 = false) entry hentry
    rw [hescape, List.cons_append, List.cons_append, content?, hbreak]
    rfl
  · have hbreak : breaksLine kind.letter = false := by cases kind <;> decide
    have hplain : ∀ d ∈ Text.hex kind.count c.toNat, IsPlain quote d :=
      fun d hd => isPlain_of_isHex hquote (isHex_of_mem_hex hd)
    have hdigits := content?_plain hplain rest
    rw [hescape, List.cons_append, List.cons_append, content?, hbreak, hdigits]
    simp [Function.comp_def]

/-- An escaped text stands between its quotes as it is. -/
theorem content?_escaped (hquote : IsQuote quote) (s : List Char) :
    content? quote (s.flatMap (escapeChar quote) ++ [quote]) =
      some (s.flatMap (escapeChar quote)) := by
  induction s with
  | nil =>
    have hback : quote ≠ '\\' := by rcases hquote with rfl | rfl <;> decide
    rw [List.flatMap_nil, List.nil_append, content?_cons hback, if_pos rfl, if_pos rfl]
  | cons c s ih =>
    rw [List.flatMap_cons, List.append_assoc, content?_escapeChar hquote, ih]
    rfl

theorem asciiForm_cons {c : Char} (h : c ≠ '\\') (rest : List Char) :
    asciiForm (c :: rest) =
      (if c.toNat < 0x80 then [c] else wideEscape c) ++ asciiForm rest := by
  rw [asciiForm.eq_3]
  simp [h]

theorem asciiForm_hex {digits : List Char} (h : ∀ d ∈ digits, IsHex d) (rest : List Char) :
    asciiForm (digits ++ rest) = digits ++ asciiForm rest := by
  induction digits with
  | nil => rfl
  | cons d digits ih =>
    obtain ⟨hd, hdigits⟩ := List.forall_mem_cons.1 h
    have hback : d ≠ '\\' := by
      rintro rfl
      cases hd
    rw [List.cons_append, asciiForm_cons hback, if_pos hd.ascii, ih hdigits]
    rfl

theorem denotes_hex (kind : HexEscape) {c : Char} (h : c.toNat < 16 ^ kind.count)
    {rest : List Char} {points : List Nat} (hrest : Denotes rest points) :
    Denotes ('\\' :: kind.letter :: (Text.hex kind.count c.toNat ++ rest))
      (c.toNat :: points) := by
  have hvalue : digitsValue 16 (Text.hex kind.count c.toNat) = c.toNat :=
    Text.hexNumber_hex kind.count h
  have hbound : digitsValue 16 (Text.hex kind.count c.toNat) ≤ 0x10FFFF := by
    have := Utf8.toNat_valid c
    omega
  have hdenotes := Denotes.hex kind (Text.length_hex _ _) (fun d hd => isHex_of_mem_hex hd) hbound
    hrest
  rwa [hvalue] at hdenotes

/-- An escaped character denotes its code point. -/
theorem denotes_escapeChar (hquote : IsQuote quote) (c : Char) {rest : List Char}
    {points : List Nat} (h : Denotes (asciiForm rest) points) :
    Denotes (asciiForm (escapeChar quote c ++ rest)) (c.toNat :: points) := by
  obtain ⟨hraw, hback, -⟩ | ⟨entry, hentry, hescape, hc⟩ | ⟨kind, hescape, hc⟩ :=
    escapeChar_cases hquote c
  · rw [hraw, List.singleton_append, asciiForm_cons hback]
    split
    · rename_i hascii
      have hpoints : bytePoints c = [c.toNat] := by
        rw [bytePoints, Utf8.encodeChar_ascii hascii, List.map_singleton,
          Utf8.toNat_ofNat_ascii hascii]
      have hdenotes := Denotes.raw hback h
      rwa [hpoints] at hdenotes
    · have hwide : c.toNat < 16 ^ 8 := by
        have := Utf8.toNat_valid c
        omega
      exact denotes_hex .eight hwide h
  · have hascii : entry.1.toNat < 0x80 :=
      (by decide : ∀ entry ∈ letters, entry.1.toNat < 0x80) entry hentry
    rw [hescape, hc, List.cons_append, List.singleton_append, asciiForm, if_pos hascii]
    exact .letter entry hentry h
  · have hascii : kind.letter.toNat < 0x80 := by cases kind <;> decide
    rw [hescape, List.cons_append, List.cons_append, asciiForm, if_pos hascii,
      asciiForm_hex (fun d hd => isHex_of_mem_hex hd)]
    exact denotes_hex kind hc h

/-- An escaped text denotes its code points. -/
theorem denotes_escaped (hquote : IsQuote quote) (s : List Char) :
    Denotes (asciiForm (s.flatMap (escapeChar quote))) (s.map Char.toNat) := by
  induction s with
  | nil => exact .nil
  | cons c s ih =>
    rw [List.flatMap_cons]
    exact denotes_escapeChar hquote c ih

/-- A quoted text is a literal on one line, and stands for the text. -/
theorem literal?_quotedChars (s : List Char) :
    literal? (Text.quotedChars s) = some (s.map Char.toNat) := by
  have hquote := Text.isQuote_quoteFor s
  have hpoints := Legacy.Escape.denotes_iff.1 (denotes_escaped hquote s)
  rw [Text.quotedChars, List.cons_append, literal?, if_pos (show _ ∨ _ from hquote),
    content?_escaped hquote]
  dsimp only
  rw [hpoints]
  rfl

/-- No quoted text is the word for a missing value. -/
theorem quoted_ne_none (s : String) : Text.quoted s ≠ "None" := by
  intro h
  have hhead := congrArg (fun t : String => t.toList.head?) h
  rw [Text.quoted, String.toList_ofList] at hhead
  have hquote : Text.quoteFor s.toList = 'N' := Option.some.inj hhead
  rcases Text.isQuote_quoteFor s.toList with h | h <;> rw [h] at hquote <;>
    exact absurd hquote (by decide)

/-- A quoted text is evaluated to the text. -/
theorem constant?_quoted (s : String) :
    constant? (Text.quoted s) = some (.text (s.toList.map Char.toNat)) := by
  rw [constant?, if_neg (quoted_ne_none s), Text.quoted, String.toList_ofList,
    literal?_quotedChars]
  rfl

end Bindery.Stub
