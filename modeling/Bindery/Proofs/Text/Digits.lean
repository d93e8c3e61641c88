import Bindery.Text.Pieces
/-!
# Digits

Decimal and hexadecimal spellings of numbers: which characters they have, and that reading them
gives the number back.
-/
namespace Bindery.Text

theorem isDigit_of_isDigit {c : Char} (h : c.isDigit = true) : isDigit c = true := by
  simp only [Char.isDigit, ge_iff_le, Bool.and_eq_true, decide_eq_true_eq] at h
  obtain ⟨hlow, hhigh⟩ := h
  have hlow' : 48 ≤ c.toNat := UInt32.le_iff_toNat_le.1 hlow
  have hhigh' : c.toNat ≤ 57 := UInt32.le_iff_toNat_le.1 hhigh
  simp [isDigit, hlow', hhigh']

theorem isDigit_of_mem_ofNat {n : Nat} {c : Char} (h : c ∈ ofNat n) : isDigit c = true :=
  isDigit_of_isDigit (Nat.isDigit_of_mem_toDigits (by decide) (by decide) h)

theorem ofNat_ne_nil (n : Nat) : ofNat n ≠ [] := Nat.toDigits_ne_nil

theorem isDigit_of_ofNat_eq_cons {n : Nat} {c : Char} {rest : List Char}
    (h : ofNat n = c :: rest) : isDigit c = true := by
  apply isDigit_of_mem_ofNat
  rw [h]
  exact List.mem_cons_self

/-- Only the number zero is written with a zero in front. -/
theorem ofNat_eq_cons_zero {n : Nat} {rest : List Char} (h : ofNat n = '0' :: rest) :
    rest = [] ∧ n = 0 := by
  induction n using Nat.strongRecOn generalizing rest with
  | _ n ih =>
    by_cases hn : n < 10
    · rw [ofNat, Nat.toDigits_of_lt_base hn] at h
      obtain ⟨hc, rfl⟩ := List.cons.inj h
      refine ⟨rfl, ?_⟩
      have hval := Nat.toNat_digitChar_sub_48_of_lt_ten hn
      rw [hc] at hval
      exact hval.symm
    · rw [ofNat, Nat.toDigits_of_base_le (by decide) (by omega)] at h
      cases hq : Nat.toDigits 10 (n / 10) with
      | nil => exact absurd hq Nat.toDigits_ne_nil
      | cons c more =>
        rw [hq] at h
        obtain ⟨rfl, -⟩ := List.cons.inj h
        have := (ih (n / 10) (by omega) hq).2
        omega

/-- A number is read back from its digits. -/
theorem ofDigitChars_ofNat (n : Nat) : Nat.ofDigitChars 10 (ofNat n) 0 = n :=
  Nat.ofDigitChars_ten_toDigits

theorem ofNat_injective : Function.Injective ofNat := by
  intro m n h
  rw [← ofDigitChars_ofNat m, h, ofDigitChars_ofNat]

theorem ofNat_ne_minus (n : Nat) (rest : List Char) : ofNat n ≠ '-' :: rest :=
  fun h => absurd (isDigit_of_ofNat_eq_cons h) (by decide)

/-- Integers are told apart by their digits. -/
theorem ofInt_injective : Function.Injective ofInt := by
  intro a b h
  cases a with
  | ofNat m =>
    cases b with
    | ofNat n => rw [ofNat_injective h]
    | negSucc n => exact absurd h (ofNat_ne_minus m _)
  | negSucc m =>
    cases b with
    | ofNat n => exact absurd h.symm (ofNat_ne_minus n _)
    | negSucc n =>
      have := ofNat_injective (List.cons.inj h).2
      rw [Nat.succ.inj this]

/-- A stretch of characters of one sort is taken whole when one of another sort is behind it. -/
theorem takeWhile_stretch {p : Char → Bool} {stretch rest : List Char}
    (hall : ∀ c ∈ stretch, p c = true) (hrest : ∀ c ∈ rest.head?, p c = false) :
    (stretch ++ rest).takeWhile p = stretch ∧ (stretch ++ rest).dropWhile p = rest := by
  have hnone : rest.takeWhile p = [] ∧ rest.dropWhile p = rest := by
    cases rest with
    | nil => simp
    | cons c more => simp [hrest c (by simp)]
  constructor
  · rw [List.takeWhile_append_of_pos hall, hnone.1, List.append_nil]
  · rw [List.dropWhile_append_of_pos hall, hnone.2]

/-- A digit of base sixteen is read back. -/
theorem hexValue?_hexDigit {d : Nat} (h : d < 16) : hexValue? (hexDigit d) = some d := by
  revert d
  decide

/-- Reading the last digits of a number in base sixteen. -/
theorem hex_succ (width n : Nat) : hex (width + 1) n = hex width (n / 16) ++ [hexDigit (n % 16)] :=
  rfl

end Bindery.Text
