import Bindery.Proofs.Outcome
import Bindery.Text.Utf8
/-!
# UTF-8 is read back

Decoding undoes encoding, and encoding undoes decoding. The second byte is the only one with limits
of its own, because it tells overlong forms, surrogates and values past the last code point from
the rest.
-/
namespace Bindery.Utf8

open Outcome

theorem toNat_ofNat {n : Nat} (h : n < 256) : (UInt8.ofNat n).toNat = n := by
  rw [UInt8.toNat_ofNat']
  exact Nat.mod_eq_of_lt h

theorem isSecond_iff (lead second : UInt8) :
    isSecond lead second = true ↔
      (if lead.toNat = 0xE0 then 0xA0 else if lead.toNat = 0xF0 then 0x90 else 0x80) ≤
        second.toNat ∧
      second.toNat ≤
        (if lead.toNat = 0xED then 0x9F else if lead.toNat = 0xF4 then 0x8F else 0xBF) := by
  unfold isSecond
  simp only [← UInt8.toNat_inj]
  grind

theorem isTail_iff (b : UInt8) : isTail b = true ↔ 0x80 ≤ b.toNat ∧ b.toNat ≤ 0xBF := by
  simp [isTail]

/-- Code points are below the surrogates or above them. -/
theorem toNat_valid (c : Char) : c.toNat < 0xD800 ∨ 0xDFFF < c.toNat ∧ c.toNat < 0x110000 :=
  c.valid

section

variable {a b c d : UInt8} (rest : List UInt8) (position : Nat)

theorem decodeFrom_one (ha : a.toNat < 0x80) :
    decodeFrom position (a :: rest) =
      (decodeFrom (position + 1) rest).map (Char.ofNat a.toNat :: ·) := by
  rw [decodeFrom.eq_def]
  simp only [ha, if_true]

theorem decodeFrom_two (hlow : 0xC2 ≤ a.toNat) (hhigh : a.toNat < 0xE0)
    (hb : isSecond a b = true) :
    decodeFrom position (a :: b :: rest) =
      (decodeFrom (position + 2) rest).map (join2 a b :: ·) := by
  rw [decodeFrom.eq_def]
  simp only [hb]
  rw [if_neg (by omega), if_neg (by omega), if_neg (by simp), if_pos hhigh]

theorem decodeFrom_three (hlow : 0xE0 ≤ a.toNat) (hhigh : a.toNat < 0xF0)
    (hb : isSecond a b = true) (hc : isTail c = true) :
    decodeFrom position (a :: b :: c :: rest) =
      (decodeFrom (position + 3) rest).map (join3 a b c :: ·) := by
  rw [decodeFrom.eq_def]
  simp only [hb, hc]
  rw [if_neg (by omega), if_neg (by omega), if_neg (by simp), if_neg (by omega), if_neg (by simp),
    if_pos hhigh]

theorem decodeFrom_four (hlow : 0xF0 ≤ a.toNat) (hhigh : a.toNat ≤ 0xF4)
    (hb : isSecond a b = true) (hc : isTail c = true) (hd : isTail d = true) :
    decodeFrom position (a :: b :: c :: d :: rest) =
      (decodeFrom (position + 4) rest).map (join4 a b c d :: ·) := by
  rw [decodeFrom.eq_def]
  simp only [hb, hc, hd]
  rw [if_neg (by omega), if_neg (by omega), if_neg (by simp), if_neg (by omega), if_neg (by simp),
    if_neg (by omega), if_neg (by simp)]

end

/-- A character is read back from the front of some bytes. -/
theorem decodeFrom_encodeChar (c : Char) (rest : List UInt8) (position : Nat) :
    decodeFrom position (encodeChar c ++ rest) =
      (decodeFrom (position + (encodeChar c).length) rest).map (c :: ·) := by
  have hvalid := toNat_valid c
  have hself := c.ofNat_toNat
  unfold encodeChar
  generalize c.toNat = n at hvalid hself
  simp only
  split
  · have ha := toNat_ofNat (show n < 256 by omega)
    have hone := decodeFrom_one rest position (a := UInt8.ofNat n) (by omega)
    rwa [ha, hself] at hone
  split
  · have ha := toNat_ofNat (show 0xC0 + n / 64 < 256 by omega)
    have hb := toNat_ofNat (show 0x80 + n % 64 < 256 by omega)
    have hsecond : isSecond (UInt8.ofNat (0xC0 + n / 64)) (UInt8.ofNat (0x80 + n % 64)) = true := by
      rw [isSecond_iff, ha, hb]
      grind
    have hsum : (0xC0 + n / 64) % 32 * 64 + (0x80 + n % 64) % 64 = n := by omega
    have htwo := decodeFrom_two rest position (by omega) (by omega) hsecond
    rwa [join2, ha, hb, hsum, hself] at htwo
  split
  · have ha := toNat_ofNat (show 0xE0 + n / 4096 < 256 by omega)
    have hb := toNat_ofNat (show 0x80 + n / 64 % 64 < 256 by omega)
    have hc := toNat_ofNat (show 0x80 + n % 64 < 256 by omega)
    have hsecond : isSecond (UInt8.ofNat (0xE0 + n / 4096))
        (UInt8.ofNat (0x80 + n / 64 % 64)) = true := by
      rw [isSecond_iff, ha, hb]
      grind
    have htail : isTail (UInt8.ofNat (0x80 + n % 64)) = true := by
      rw [isTail_iff, hc]
      omega
    have hsum : (0xE0 + n / 4096) % 16 * 4096 + (0x80 + n / 64 % 64) % 64 * 64 +
        (0x80 + n % 64) % 64 = n := by omega
    have hthree := decodeFrom_three rest position (by omega) (by omega) hsecond htail
    rwa [join3, ha, hb, hc, hsum, hself] at hthree
  · have ha := toNat_ofNat (show 0xF0 + n / 262144 < 256 by omega)
    have hb := toNat_ofNat (show 0x80 + n / 4096 % 64 < 256 by omega)
    have hc := toNat_ofNat (show 0x80 + n / 64 % 64 < 256 by omega)
    have hd := toNat_ofNat (show 0x80 + n % 64 < 256 by omega)
    have hsecond : isSecond (UInt8.ofNat (0xF0 + n / 262144))
        (UInt8.ofNat (0x80 + n / 4096 % 64)) = true := by
      rw [isSecond_iff, ha, hb]
      grind
    have htail : isTail (UInt8.ofNat (0x80 + n / 64 % 64)) = true := by
      rw [isTail_iff, hc]
      omega
    have hlast : isTail (UInt8.ofNat (0x80 + n % 64)) = true := by
      rw [isTail_iff, hd]
      omega
    have hsum : (0xF0 + n / 262144) % 8 * 262144 + (0x80 + n / 4096 % 64) % 64 * 4096 +
        (0x80 + n / 64 % 64) % 64 * 64 + (0x80 + n % 64) % 64 = n := by omega
    have hfour := decodeFrom_four rest position (by omega) (by omega) hsecond htail hlast
    rwa [join4, ha, hb, hc, hd, hsum, hself] at hfour

theorem encodeChars_cons (c : Char) (s : List Char) :
    encodeChars (c :: s) = encodeChar c ++ encodeChars s := List.flatMap_cons

theorem decodeFrom_append (s : List Char) (bytes : List UInt8) (position : Nat) :
    decodeFrom position (encodeChars s ++ bytes) =
      (decodeFrom (position + (encodeChars s).length) bytes).map (s ++ ·) := by
  induction s generalizing position with
  | nil =>
    show decodeFrom position bytes = (decodeFrom position bytes).map id
    cases decodeFrom position bytes <;> rfl
  | cons c s ih =>
    rw [encodeChars_cons, List.append_assoc, decodeFrom_encodeChar, ih, List.length_append,
      Nat.add_assoc]
    cases decodeFrom _ bytes <;> rfl

theorem decodeFrom_encodeChars (s : List Char) (position : Nat) :
    decodeFrom position (encodeChars s) = .ok s := by
  have happend := decodeFrom_append s [] position
  rwa [List.append_nil, decodeFrom, map_ok, List.append_nil] at happend

/-- A text is read back from its bytes. -/
theorem decodeChars_encodeChars (s : List Char) : decodeChars (encodeChars s) = .ok s :=
  decodeFrom_encodeChars s 0

theorem encodeChars_injective {s s' : List Char} (h : encodeChars s = encodeChars s') : s = s' := by
  have hdecoded := congrArg decodeChars h
  rw [decodeChars_encodeChars, decodeChars_encodeChars] at hdecoded
  exact Except.ok.inj hdecoded

theorem toNat_charOfNat {n : Nat} (h : n < 0xD800 ∨ 0xDFFF < n ∧ n < 0x110000) :
    (Char.ofNat n).toNat = n := by
  have hvalid : n.isValidChar := h
  rw [Char.ofNat, dif_pos hvalid]
  rfl

section

variable {a b c d : UInt8}

theorem encodeChar_one (ha : a.toNat < 0x80) : encodeChar (Char.ofNat a.toNat) = [a] := by
  unfold encodeChar
  rw [toNat_charOfNat (by omega)]
  simp only [ha, if_true, UInt8.ofNat_toNat]

theorem encodeChar_join2 (hlow : 0xC2 ≤ a.toNat) (hhigh : a.toNat < 0xE0)
    (hb : isSecond a b = true) : encodeChar (join2 a b) = [a, b] := by
  rw [isSecond_iff] at hb
  have hsecond : 0x80 ≤ b.toNat ∧ b.toNat ≤ 0xBF := by grind
  obtain ⟨n, hn⟩ : ∃ n, n = a.toNat % 32 * 64 + b.toNat % 64 := ⟨_, rfl⟩
  have hfirst : 0xC0 + n / 64 = a.toNat := by omega
  have hlast : 0x80 + n % 64 = b.toNat := by omega
  unfold encodeChar join2
  rw [← hn, toNat_charOfNat (by omega)]
  simp only [hfirst, hlast, UInt8.ofNat_toNat]
  rw [if_neg (by omega), if_pos (by omega)]

theorem encodeChar_join3 (hlow : 0xE0 ≤ a.toNat) (hhigh : a.toNat < 0xF0)
    (hb : isSecond a b = true) (hc : isTail c = true) : encodeChar (join3 a b c) = [a, b, c] := by
  rw [isSecond_iff] at hb
  rw [isTail_iff] at hc
  have hsecond : 0x80 ≤ b.toNat ∧ b.toNat ≤ 0xBF := by grind
  obtain ⟨n, hn⟩ : ∃ n, n = a.toNat % 16 * 4096 + b.toNat % 64 * 64 + c.toNat % 64 := ⟨_, rfl⟩
  have hfirst : 0xE0 + n / 4096 = a.toNat := by omega
  have hmiddle : 0x80 + n / 64 % 64 = b.toNat := by omega
  have hlast : 0x80 + n % 64 = c.toNat := by omega
  have hvalid : 0x800 ≤ n ∧ (n < 0xD800 ∨ 0xDFFF < n) := by grind
  unfold encodeChar join3
  rw [← hn, toNat_charOfNat (by omega)]
  simp only [hfirst, hmiddle, hlast, UInt8.ofNat_toNat]
  rw [if_neg (by omega), if_neg (by omega), if_pos (by omega)]

theorem encodeChar_join4 (hlow : 0xF0 ≤ a.toNat) (hhigh : a.toNat ≤ 0xF4)
    (hb : isSecond a b = true) (hc : isTail c = true) (hd : isTail d = true) :
    encodeChar (join4 a b c d) = [a, b, c, d] := by
  rw [isSecond_iff] at hb
  rw [isTail_iff] at hc hd
  have hsecond : 0x80 ≤ b.toNat ∧ b.toNat ≤ 0xBF := by grind
  obtain ⟨n, hn⟩ : ∃ n, n = a.toNat % 8 * 262144 + b.toNat % 64 * 4096 + c.toNat % 64 * 64 +
    d.toNat % 64 := ⟨_, rfl⟩
  have hfirst : 0xF0 + n / 262144 = a.toNat := by omega
  have hmiddle : 0x80 + n / 4096 % 64 = b.toNat := by omega
  have hthird : 0x80 + n / 64 % 64 = c.toNat := by omega
  have hlast : 0x80 + n % 64 = d.toNat := by omega
  have hvalid : 0x10000 ≤ n ∧ n < 0x110000 := by grind
  unfold encodeChar join4
  rw [← hn, toNat_charOfNat (by omega)]
  simp only [hfirst, hmiddle, hthird, hlast, UInt8.ofNat_toNat]
  rw [if_neg (by omega), if_neg (by omega), if_neg (by omega)]

end

/-- Bytes that are read are those of the text. -/
theorem encodeChars_of_decodeFrom {position : Nat} {bytes : List UInt8} {s : List Char}
    (h : decodeFrom position bytes = .ok s) : encodeChars s = bytes := by
  fun_induction decodeFrom position bytes generalizing s with
  | case1 =>
    obtain rfl := Except.ok.inj h
    rfl
  | case2 position a rest ha ih =>
    obtain ⟨s, hs, rfl⟩ := map_eq_ok.1 h
    rw [encodeChars_cons, encodeChar_one ha, ih hs, List.singleton_append]
  | case6 position a _ ha b rest hb hhigh ih =>
    obtain ⟨s, hs, rfl⟩ := map_eq_ok.1 h
    rw [encodeChars_cons, encodeChar_join2 (by omega) hhigh (by simpa using hb), ih hs]
    rfl
  | case9 position a _ ha b hb _ c rest hc hhigh ih =>
    obtain ⟨s, hs, rfl⟩ := map_eq_ok.1 h
    rw [encodeChars_cons,
      encodeChar_join3 (by omega) hhigh (by simpa using hb) (by simpa using hc), ih hs]
    rfl
  | case12 position a _ ha b hb _ c hc _ d rest hd ih =>
    obtain ⟨s, hs, rfl⟩ := map_eq_ok.1 h
    rw [encodeChars_cons, encodeChar_join4 (by omega) (by omega) (by simpa using hb)
      (by simpa using hc) (by simpa using hd), ih hs]
    rfl
  | _ => cases h

/-- Bytes are a text exactly if they are its bytes. -/
theorem decodeChars_eq_ok {bytes : List UInt8} {s : List Char} :
    decodeChars bytes = .ok s ↔ bytes = encodeChars s := by
  constructor
  · exact fun h => (encodeChars_of_decodeFrom h).symm
  · rintro rfl
    exact decodeChars_encodeChars s

/-- The bytes of a text that start with those of another are a longer text's. -/
theorem text_of_encodeChars_append {s t : List Char} {bytes : List UInt8}
    (h : encodeChars t = encodeChars s ++ bytes) : ∃ r, t = s ++ r ∧ bytes = encodeChars r := by
  have hdecode := decodeFrom_append s bytes 0
  rw [← h, decodeFrom_encodeChars] at hdecode
  obtain ⟨r, hr, rfl⟩ := map_eq_ok.1 hdecode.symm
  exact ⟨r, rfl, (encodeChars_of_decodeFrom hr).symm⟩

/-- A byte of one that a text starts with is its first character. -/
theorem head_of_encodeChars {s : List Char} {b : UInt8} {bytes more : List UInt8}
    (h : b :: bytes = encodeChars s ++ more) (hb : b.toNat < 0x80) :
    ∀ c ∈ s.head?, c = Char.ofNat b.toNat := by
  intro c hc
  obtain ⟨s, rfl⟩ := List.head?_eq_some_iff.1 hc
  have hdecode := decodeChars_encodeChars (c :: s)
  obtain ⟨hnil, -⟩ | ⟨rest, hrest, -⟩ := List.cons_eq_append_iff.1 h
  · have hempty : encodeChars (c :: s) = encodeChars [] := hnil
    cases encodeChars_injective hempty
  · rw [hrest, decodeChars, decodeFrom_one _ _ hb] at hdecode
    obtain ⟨_, -, hcons⟩ := map_eq_ok.1 hdecode
    exact (List.cons.inj hcons).1.symm

theorem encodeChar_ascii {c : Char} (h : c.toNat < 0x80) :
    encodeChar c = [UInt8.ofNat c.toNat] := by
  simp [encodeChar, h]

/-- Only ASCII characters have bytes below 0x80, and only one. -/
theorem ascii_of_mem_encodeChar {c : Char} {b : UInt8} (h : b ∈ encodeChar c)
    (hb : b.toNat < 0x80) : c = Char.ofNat b.toNat ∧ encodeChar c = [b] := by
  by_cases hc : c.toNat < 0x80
  · have hbyte := toNat_ofNat (show c.toNat < 256 by omega)
    rw [encodeChar_ascii hc, List.mem_singleton] at h
    rw [encodeChar_ascii hc, h, hbyte, Char.ofNat_toNat]
    exact ⟨rfl, rfl⟩
  · have hvalid := toNat_valid c
    have hhigh : ∀ {n}, 0x80 ≤ n → n < 256 → b ≠ UInt8.ofNat n := by
      rintro n hlow hlt rfl
      rw [toNat_ofNat hlt] at hb
      omega
    unfold encodeChar at h
    simp only [hc, if_false] at h
    split at h
    · simp only [List.mem_cons, List.not_mem_nil, or_false] at h
      rcases h with h | h <;> exact absurd h (hhigh (by omega) (by omega))
    · split at h
      · simp only [List.mem_cons, List.not_mem_nil, or_false] at h
        rcases h with h | h | h <;> exact absurd h (hhigh (by omega) (by omega))
      · simp only [List.mem_cons, List.not_mem_nil, or_false] at h
        rcases h with h | h | h | h <;> exact absurd h (hhigh (by omega) (by omega))

theorem encodeChars_append (s t : List Char) :
    encodeChars (s ++ t) = encodeChars s ++ encodeChars t := List.flatMap_append

theorem encodeChar_ne_nil (c : Char) : encodeChar c ≠ [] := by
  unfold encodeChar
  grind

theorem encodeChars_ascii_cons {c : Char} (h : c.toNat < 0x80) (rest : List Char) :
    encodeChars (c :: rest) = UInt8.ofNat c.toNat :: encodeChars rest := by
  rw [encodeChars_cons, encodeChar_ascii h, List.singleton_append]

theorem toNat_ofNat_ascii {c : Char} (h : c.toNat < 0x80) :
    (UInt8.ofNat c.toNat).toNat = c.toNat :=
  toNat_ofNat (by omega)

theorem toNat_charOfNat_byte (b : UInt8) : (Char.ofNat b.toNat).toNat = b.toNat :=
  toNat_charOfNat (by have := b.toNat_lt; omega)

/-- A byte below 128 is a character of its own. -/
theorem mem_of_mem_encodeChars {s : List Char} {b : UInt8} (h : b ∈ encodeChars s)
    (hb : b.toNat < 0x80) : Char.ofNat b.toNat ∈ s := by
  obtain ⟨c, hc, hmem⟩ := List.mem_flatMap.1 h
  exact (ascii_of_mem_encodeChar hmem hb).1 ▸ hc

end Bindery.Utf8
