import Bindery.Proofs.Text.Digits
import Bindery.Text.Quoted
import Mathlib.Algebra.Group.Nat.Defs
/-!
# Quoted texts can be told apart

A quoted text can be split off the front of any text in one way only, because each escape says how
long it is and the quote in use never begins one.
-/
namespace Bindery

/-- Texts that can be split off the front of a text in one way only. -/
def PrefixFree {α : Type} (f : α → List Char) : Prop :=
  ∀ a b rest rest', f a ++ rest = f b ++ rest' → a = b ∧ rest = rest'

namespace Text

/-- The number that digits of base sixteen spell. -/
def hexNumber (digits : List Char) : Nat :=
  digits.foldl (fun n d => n * 16 + (hexValue? d).getD 0) 0

theorem hexNumber_hex (width : Nat) {n : Nat} (h : n < 16 ^ width) :
    hexNumber (hex width n) = n := by
  induction width generalizing n with
  | zero =>
    rw [Nat.pow_zero] at h
    simp [hex, hexNumber]
    omega
  | succ width ih =>
    have hrest := ih (n := n / 16) (by rw [Nat.pow_succ] at h; omega)
    have hlast := hexValue?_hexDigit (Nat.mod_lt n (by decide : 0 < 16))
    rw [hexNumber] at hrest ⊢
    rw [hex_succ, List.foldl_append, hrest]
    simp only [List.foldl_cons, List.foldl_nil, hlast, Option.getD_some]
    omega

/-- The character at the front of an escaped text, and what follows it. -/
def unescape : List Char → Char × List Char
  | [] => (' ', [])
  | '\\' :: 'n' :: rest => ('\n', rest)
  | '\\' :: 'r' :: rest => ('\r', rest)
  | '\\' :: 't' :: rest => ('\t', rest)
  | '\\' :: 'x' :: rest => (Char.ofNat (hexNumber (rest.take 2)), rest.drop 2)
  | '\\' :: 'u' :: rest => (Char.ofNat (hexNumber (rest.take 4)), rest.drop 4)
  | '\\' :: 'U' :: rest => (Char.ofNat (hexNumber (rest.take 8)), rest.drop 8)
  | '\\' :: c :: rest => (c, rest)
  | c :: rest => (c, rest)

/-- The two characters that stand around quoted text. -/
def IsQuote (quote : Char) : Prop := quote = apostrophe ∨ quote = '"'

theorem isQuote_quoteFor (content : List Char) : IsQuote (quoteFor content) := by
  unfold quoteFor
  split
  · exact .inr rfl
  · exact .inl rfl

theorem hex_code (width : Nat) {c : Char} (h : c.toNat < 16 ^ width) (rest : List Char) :
    (Char.ofNat (hexNumber ((hex width c.toNat ++ rest).take width)),
      (hex width c.toNat ++ rest).drop width) = (c, rest) := by
  rw [List.take_left' (length_hex _ _), List.drop_left' (length_hex _ _), hexNumber_hex width h,
    Char.ofNat_toNat]

variable {quote : Char}

/-- An escaped character is read back, wherever it stands. -/
theorem unescape_escapeChar (hquote : IsQuote quote) (c : Char) (rest : List Char) :
    unescape (escapeChar quote c ++ rest) = (c, rest) := by
  unfold escapeChar
  split
  · rename_i hc
    rcases hc with rfl | rfl
    · rfl
    · rcases hquote with rfl | rfl <;> rfl
  split
  · rename_i hc
    rw [hc]
    rfl
  split
  · rename_i hc
    rw [hc]
    rfl
  split
  · rename_i hc
    rw [hc]
    rfl
  split
  · rename_i hplain _ _ _ _
    have hback : c ≠ '\\' := fun e => hplain (.inl e)
    simp [unescape, hback]
  have hwide : c.toNat < 16 ^ 8 := by
    rcases c.valid with h | h
    · exact Nat.lt_trans h (by decide)
    · exact Nat.lt_trans h.2 (by decide)
  split
  · rename_i h
    exact hex_code 2 h rest
  split
  · rename_i h
    exact hex_code 4 h rest
  · exact hex_code 8 hwide rest

theorem prefixFree_escapeChar (hquote : IsQuote quote) : PrefixFree (escapeChar quote) := by
  intro a b rest rest' h
  have hread := congrArg unescape h
  rw [unescape_escapeChar hquote, unescape_escapeChar hquote] at hread
  exact ⟨(Prod.mk.inj hread).1, (Prod.mk.inj hread).2⟩

/-- The quote in use begins no escape. -/
theorem escapeChar_ne_quote (hquote : IsQuote quote) (c : Char) (rest rest' : List Char) :
    escapeChar quote c ++ rest ≠ quote :: rest' := by
  have hback : '\\' ≠ quote := by
    rcases hquote with rfl | rfl <;> decide
  unfold escapeChar
  grind

/-- An escaped text ends at its closing quote. -/
theorem escaped_inj (hquote : IsQuote quote) {s t rest rest' : List Char}
    (h : s.flatMap (escapeChar quote) ++ quote :: rest =
      t.flatMap (escapeChar quote) ++ quote :: rest') : s = t ∧ rest = rest' := by
  induction s generalizing t with
  | nil =>
    cases t with
    | nil => simpa using h
    | cons d t =>
      rw [List.flatMap_cons, List.append_assoc] at h
      exact absurd h.symm (escapeChar_ne_quote hquote d _ _)
  | cons c s ih =>
    cases t with
    | nil =>
      rw [List.flatMap_cons, List.append_assoc] at h
      exact absurd h (escapeChar_ne_quote hquote c _ _)
    | cons d t =>
      rw [List.flatMap_cons, List.flatMap_cons, List.append_assoc, List.append_assoc] at h
      obtain ⟨rfl, htail⟩ := prefixFree_escapeChar hquote c d _ _ h
      obtain ⟨rfl, hrest⟩ := ih htail
      exact ⟨rfl, hrest⟩

/-- A quoted text says where it ends. -/
theorem prefixFree_quotedChars : PrefixFree quotedChars := by
  intro s t rest rest' h
  simp only [quotedChars, List.cons_append, List.append_assoc, List.nil_append] at h
  obtain ⟨hq, h⟩ := List.cons.inj h
  rw [← hq] at h
  exact escaped_inj (isQuote_quoteFor s) h

end Text
end Bindery
