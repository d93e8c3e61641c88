import Bindery.Json.Parser
import Bindery.Json.Printer
import Bindery.Proofs.Text.Digits
import Mathlib.Algebra.Group.Nat.Defs
/-!
# Reading integers that were written

An integer is read back when it has no more digits than the reader takes, and the reader gives no
other integers.
-/
namespace Bindery.Json

/-- An integer that the reader takes. -/
def IsShort (n : Int) : Prop := n.natAbs < 10 ^ maxDigits

instance (n : Int) : Decidable (IsShort n) := inferInstanceAs (Decidable (_ < _))

/-- What may stand behind a value: nothing, or what ends it inside an array or an object. -/
def EndsValue (rest : List Char) : Prop := ∀ c ∈ rest.head?, c = ',' ∨ c = ']' ∨ c = '\x7d'

theorem EndsValue.not_digit {rest : List Char} (h : EndsValue rest) :
    ∀ c ∈ rest.head?, Text.isDigit c = false := by
  intro c hc
  rcases h c hc with rfl | rfl | rfl <;> decide

theorem EndsValue.no_point {rest : List Char} (h : EndsValue rest) : pointDigits? rest = none := by
  match rest with
  | [] => rfl
  | c :: more =>
    have hc : c ≠ '.' := by
      rcases h c (by simp) with rfl | rfl | rfl <;> decide
    unfold pointDigits?
    split
    · rename_i e
      exact absurd (List.cons.inj e).1 hc
    · rfl

theorem EndsValue.no_power {rest : List Char} (h : EndsValue rest) : power? rest = none := by
  match rest with
  | [] => rfl
  | c :: more =>
    have hc : (c = 'e' || c = 'E') = false := by
      rcases h c (by simp) with rfl | rfl | rfl <;> decide
    simp [power?, hc]

/-- The digits of a number are read up to where the value ends. -/
theorem wholeDigits_ofNat (n : Nat) {rest : List Char} (h : EndsValue rest) :
    wholeDigits (Text.ofNat n ++ rest) = (Text.ofNat n, rest) := by
  have hdigits : ∀ c ∈ Text.ofNat n, Text.isDigit c = true :=
    fun _ hc => Text.isDigit_of_mem_ofNat hc
  unfold wholeDigits
  split
  · rename_i more e
    cases hn : Text.ofNat n with
    | nil => exact absurd hn (Text.ofNat_ne_nil n)
    | cons c digits =>
      rw [hn, List.cons_append] at e
      obtain ⟨rfl, rfl⟩ := List.cons.inj e
      obtain ⟨rfl, -⟩ := Text.ofNat_eq_cons_zero hn
      rfl
  · obtain ⟨htake, hdrop⟩ := Text.takeWhile_stretch hdigits h.not_digit
    rw [htake, hdrop]

/-- A number has few enough digits if it is below the power of ten. -/
theorem length_ofNat_le_iff (n : Nat) : (Text.ofNat n).length ≤ maxDigits ↔ n < 10 ^ maxDigits :=
  Nat.length_toDigits_le_iff (by decide) (by decide)

theorem number_ofNat {n : Nat} (hn : n < 10 ^ maxDigits) {rest : List Char}
    (h : EndsValue rest) : number (Text.ofNat n ++ rest) = .ok (.int n, rest) := by
  have hwhole := wholeDigits_ofNat n h
  have hlength : ¬ maxDigits < (Text.ofNat n).length :=
    Nat.not_lt.2 ((length_ofNat_le_iff n).2 hn)
  have hvalue : digitsValue (Text.ofNat n) = n := Text.ofDigitChars_ofNat n
  obtain ⟨c, digits, hc⟩ : ∃ c digits, Text.ofNat n = c :: digits :=
    List.exists_cons_of_ne_nil (Text.ofNat_ne_nil n)
  have hminus : c ≠ '-' := by
    rintro rfl
    exact absurd (Text.isDigit_of_ofNat_eq_cons hc) (by decide)
  rw [hc] at hwhole hlength hvalue ⊢
  rw [List.cons_append] at hwhole ⊢
  simp [number, hminus, hwhole, h.no_point, h.no_power, hvalue]
  simpa using hlength

theorem number_neg {n : Nat} (hn : n < 10 ^ maxDigits) {rest : List Char} (h : EndsValue rest) :
    number ('-' :: (Text.ofNat n ++ rest)) = .ok (.int (-(n : Int)), rest) := by
  have hwhole := wholeDigits_ofNat n h
  have hlength : ¬ maxDigits < (Text.ofNat n).length :=
    Nat.not_lt.2 ((length_ofNat_le_iff n).2 hn)
  have hvalue : digitsValue (Text.ofNat n) = n := Text.ofDigitChars_ofNat n
  simp [number, hwhole, Text.ofNat_ne_nil, h.no_point, h.no_power, hlength, hvalue]

/-- A printed integer is read back, unless it is too long. -/
theorem number_ofInt {n : Int} (hn : IsShort n) {rest : List Char} (h : EndsValue rest) :
    number (Text.ofInt n ++ rest) = .ok (.int n, rest) := by
  cases n with
  | ofNat n => exact number_ofNat hn h
  | negSucc n => exact number_neg (n := n + 1) hn h

/-- Digits are worth less than the power of ten that they are many. -/
theorem digitsValue_lt {digits : List Char} (h : ∀ c ∈ digits, Text.isDigit c = true) :
    digitsValue digits < 10 ^ digits.length := by
  suffices hacc : ∀ acc, Nat.ofDigitChars 10 digits acc < 10 ^ digits.length * (acc + 1) by
    simpa [digitsValue] using hacc 0
  induction digits with
  | nil => simp
  | cons c digits ih =>
    intro acc
    have hc : c.toNat - 48 < 10 := by
      have := h c (by simp)
      simp [Text.isDigit] at this
      omega
    have hrest := ih (fun d hd => h d (List.mem_cons_of_mem _ hd)) (10 * acc + (c.toNat - 48))
    rw [Nat.ofDigitChars_cons, List.length_cons, Nat.pow_succ, Nat.mul_assoc]
    exact Nat.lt_of_lt_of_le hrest (Nat.mul_le_mul_left _ (by omega))

theorem isDigit_of_mem_wholeDigits {s : List Char} {c : Char} (h : c ∈ (wholeDigits s).1) :
    Text.isDigit c = true := by
  unfold wholeDigits at h
  split at h
  · rw [List.mem_singleton.1 h]
    decide
  · exact List.all_eq_true.1 List.all_takeWhile c h

/-- The reader of numbers gives no long integer. -/
theorem number_cases {s rest : List Char} {j : Json} (h : number s = .ok (j, rest)) :
    (∃ n, j = .int n ∧ IsShort n) ∨ ∃ x, j = .float x := by
  unfold number at h
  split at h
  rename_i negative digits hsign
  cases hwhole : wholeDigits digits with
  | mk whole left =>
  simp only [hwhole] at h
  split at h
  · cases h
  split at h
  · split at h
    · cases h
    · rename_i hlength
      simp only [Except.ok.injEq, Prod.mk.injEq] at h
      have hvalue : digitsValue whole < 10 ^ maxDigits :=
        Nat.lt_of_lt_of_le
          (digitsValue_lt fun c hc => isDigit_of_mem_wholeDigits (by rw [hwhole]; exact hc))
          (Nat.pow_le_pow_right (by decide) (Nat.not_lt.1 hlength))
      refine .inl ⟨_, h.1.symm, ?_⟩
      cases negative <;> simpa [IsShort] using hvalue
  · simp only [Except.ok.injEq, Prod.mk.injEq] at h
    exact .inr ⟨_, h.1.symm⟩

end Bindery.Json
