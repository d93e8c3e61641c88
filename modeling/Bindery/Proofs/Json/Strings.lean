import Bindery.Json.Parser
import Bindery.Json.Printer
import Bindery.Proofs.Text.Digits
/-!
# Reading strings that were written

The reader of strings gives back what the escapes of the canonical form were made of.
-/
namespace Bindery.Json

/-- Four digits of base sixteen are read back wherever something follows them. -/
theorem hexCode?_hex {n : Nat} (h : n < 0x10000) {rest : List Char} (hrest : rest ≠ []) :
    hexCode? (Text.hex 4 n ++ rest) = some (n, rest) := by
  have h3 := Text.hexValue?_hexDigit (show n / 16 / 16 / 16 % 16 < 16 by omega)
  have h2 := Text.hexValue?_hexDigit (show n / 16 / 16 % 16 < 16 by omega)
  have h1 := Text.hexValue?_hexDigit (show n / 16 % 16 < 16 by omega)
  have h0 := Text.hexValue?_hexDigit (show n % 16 < 16 by omega)
  have hsum : ((n / 16 / 16 / 16 % 16 * 16 + n / 16 / 16 % 16) * 16 + n / 16 % 16) * 16 + n % 16
      = n := by omega
  simp [Text.hex, hexCode?, h3, h2, h1, h0, hsum, hrest]

/-- An escaped code unit outside the surrogates is the character with that code. -/
theorem unicodeEscape_hex {n : Nat} (h : n < 0xD800) {rest : List Char} (hrest : rest ≠ []) :
    unicodeEscape ('u' :: (Text.hex 4 n ++ rest)) = .ok (Char.ofNat n, rest) := by
  have hhigh : isHighSurrogate n = false := by simp [isHighSurrogate]; omega
  have hlow : isLowSurrogate n = false := by simp [isLowSurrogate]; omega
  have hcode := hexCode?_hex (show n < 0x10000 by omega) hrest
  simp [unicodeEscape, hcode, hhigh, hlow, ofUnit]

variable (opening : List Char)

/-- One written character costs the reader one unit of fuel. -/
theorem stringBody_escapeChar (c : Char) (fuel : Nat) {rest : List Char} (hrest : rest ≠ []) :
    stringBody opening (fuel + 1) (escapeChar c ++ rest) =
      (stringBody opening fuel rest).map fun read => (c :: read.1, read.2) := by
  have hbind : ∀ (d : Char) (r : Except Stop (List Char × List Char)),
      (r >>= fun read => pure (d :: read.1, read.2)) =
        r.map fun read => (d :: read.1, read.2) := by
    intro d r
    cases r <;> rfl
  by_cases hquote : c = '"'
  · subst hquote
    simpa [escapeChar, stringBody, shortEscape?] using hbind _ _
  by_cases hback : c = '\\'
  · subst hback
    simpa [escapeChar, stringBody, shortEscape?] using hbind _ _
  by_cases hline : c = '\n'
  · subst hline
    simpa [escapeChar, stringBody, shortEscape?] using hbind _ _
  by_cases hreturn : c = '\r'
  · subst hreturn
    simpa [escapeChar, stringBody, shortEscape?] using hbind _ _
  by_cases htab : c = '\t'
  · subst htab
    simpa [escapeChar, stringBody, shortEscape?] using hbind _ _
  by_cases hbell : c = '\x08'
  · subst hbell
    simpa [escapeChar, stringBody, shortEscape?] using hbind _ _
  by_cases hpage : c = '\x0c'
  · subst hpage
    simpa [escapeChar, stringBody, shortEscape?] using hbind _ _
  by_cases hlow : c.toNat < 0x20
  · have hread := unicodeEscape_hex (show c.toNat < 0xD800 by omega) hrest
    rw [Char.ofNat_toNat] at hread
    have hshape : escapeChar c = '\\' :: 'u' :: Text.hex 4 c.toNat := by
      simp [escapeChar, unitEscape, hquote, hback, hline, hreturn, htab, hbell, hpage, hlow]
    rw [hshape, List.cons_append, List.cons_append]
    simp only [stringBody, hread]
    exact hbind _ _
  · have hshape : escapeChar c = [c] := by
      simp [escapeChar, hquote, hback, hline, hreturn, htab, hbell, hpage, hlow]
    rw [hshape, List.singleton_append]
    simp only [stringBody, hquote, hback, hlow, if_false]
    exact hbind _ _

/-- An escaped text is read back up to the quote behind it. -/
theorem stringBody_flatMap (s rest : List Char) {fuel : Nat} (h : s.length < fuel) :
    stringBody opening fuel (s.flatMap escapeChar ++ '"' :: rest) = .ok (s, rest) := by
  induction s generalizing fuel with
  | nil =>
    obtain ⟨fuel, rfl⟩ := Nat.exists_eq_add_one_of_ne_zero (by simp at h; omega : fuel ≠ 0)
    simp [stringBody]
  | cons c s ih =>
    obtain ⟨fuel, rfl⟩ := Nat.exists_eq_add_one_of_ne_zero (by simp at h; omega : fuel ≠ 0)
    rw [List.flatMap_cons, List.append_assoc, stringBody_escapeChar opening c fuel (by simp),
      ih (by simpa using h)]
    rfl

theorem escapeChar_ne_nil (c : Char) : escapeChar c ≠ [] := by
  grind [escapeChar, unitEscape]

theorem length_le_length_flatMap_escapeChar (s : List Char) :
    s.length ≤ (s.flatMap escapeChar).length := by
  induction s with
  | nil => simp
  | cons c s ih =>
    have := List.length_pos_iff.2 (escapeChar_ne_nil c)
    simp only [List.flatMap_cons, List.length_append, List.length_cons]
    omega

/-- A string is read back from the text behind its opening quote. -/
theorem string_flatMap (s : String) (rest : List Char) :
    string (s.toList.flatMap escapeChar ++ '"' :: rest) = .ok (s, rest) := by
  have hlength := length_le_length_flatMap_escapeChar s.toList
  unfold string
  rw [stringBody_flatMap _ _ _ (by simp only [List.length_append, List.length_cons]; omega)]
  simp [bind, Except.bind, pure, Except.pure, String.ofList_toList]

end Bindery.Json
