import Bindery.Proofs.Json.Brackets
import Bindery.Proofs.Json.RoundTrip
/-!
# Where an object ends

What the reader takes for a value has its quotes and brackets paired, like what the writer makes of
one. So an object ends at the brace that closes it: what stands behind its text is not read as part
of it, and nothing shorter is read instead.
-/
namespace Bindery.Json

open Outcome

variable {m : Mode} {text rest : List Char}

/-- A reader gets on in a text with all that it leaves behind paired. -/
def Reaches (m : Mode) (text rest : List Char) : Prop :=
  ∃ passed, text = passed ++ rest ∧ Passes m passed

theorem Reaches.refl (m : Mode) (text : List Char) : Reaches m text text := ⟨[], rfl, .nil m⟩

theorem Reaches.trans {rest' : List Char} (h : Reaches m text rest) (h' : Reaches m rest rest') :
    Reaches m text rest' := by
  obtain ⟨passed, rfl, hpassed⟩ := h
  obtain ⟨passed', rfl, hpassed'⟩ := h'
  exact ⟨passed ++ passed', (List.append_assoc _ _ _).symm, hpassed.append hpassed'⟩

/-- Something that may be missing. -/
theorem Reaches.optional {α : Type} {found : Option (α × List Char)} (h : Reaches m text rest)
    (hfound : ∀ {a left}, found = some (a, left) → Reaches m rest left) :
    Reaches m text ((found.map Prod.snd).getD rest) := by
  cases found with
  | none => exact h
  | some read => exact h.trans (hfound rfl)

theorem reaches_of_plain (h : ∀ c ∈ text, IsPlain c) (hm : m ≠ .escaped) (rest : List Char) :
    Reaches m (text ++ rest) rest := ⟨text, rfl, passes_of_plain h hm⟩

/-- The reader is outside again behind the closing quote. -/
theorem Reaches.quoted (h : Reaches .inside text ('"' :: rest)) :
    Reaches .outside ('"' :: text) rest := by
  obtain ⟨passed, rfl, hpassed⟩ := h
  exact ⟨'"' :: passed ++ ['"'], by simp, hpassed.quoted⟩

/-- The reader is outside again behind the closing bracket. -/
theorem Pairs.reaches {opener closer : Char} (h : Pairs opener closer)
    (htext : Reaches .outside text (closer :: rest)) : Reaches .outside (opener :: text) rest := by
  obtain ⟨passed, rfl, hpassed⟩ := htext
  exact ⟨opener :: passed ++ [closer], by simp, h.passes hpassed⟩

theorem isPlain_of_isSpace {c : Char} (h : isSpace c = true) : IsPlain c := by
  simp only [isSpace, Bool.or_eq_true, decide_eq_true_eq] at h
  rcases h with ((rfl | rfl) | rfl) | rfl <;> decide

/-- Space is passed outside of strings. -/
theorem reaches_skipSpace (text : List Char) : Reaches .outside text (skipSpace text) := by
  have hspaces : ∀ c ∈ text.takeWhile isSpace, IsPlain c := fun c hc =>
    isPlain_of_isSpace (List.all_eq_true.1 List.all_takeWhile c hc)
  have hreach := reaches_of_plain hspaces (by decide : Mode.outside ≠ .escaped) (skipSpace text)
  rwa [skipSpace, List.takeWhile_append_dropWhile] at hreach

theorem isPlain_of_hexValue? {c : Char} {n : Nat} (h : Text.hexValue? c = some n) : IsPlain c := by
  simp only [IsPlain, List.mem_cons, List.not_mem_nil, or_false, not_or]
  refine ⟨?_, ?_, ?_, ?_, ?_, ?_⟩ <;> (rintro rfl; cases h)

theorem reaches_of_hexCode? {n : Nat} (h : hexCode? text = some (n, rest)) :
    Reaches .inside text rest := by
  unfold hexCode? at h
  split at h
  · rename_i a b c d left
    split at h
    · rename_i ha hb hc hd
      split at h
      · cases h
      · obtain ⟨-, rfl⟩ := Prod.mk.inj (Option.some.inj h)
        have hplain : ∀ e ∈ [a, b, c, d], IsPlain e := by
          simp [isPlain_of_hexValue? ha, isPlain_of_hexValue? hb, isPlain_of_hexValue? hc,
            isPlain_of_hexValue? hd]
        exact reaches_of_plain hplain (by decide) left
    · cases h
  · cases h

theorem reaches_escape (c : Char) (rest : List Char) : Reaches .inside ('\\' :: c :: rest) rest :=
  ⟨['\\', c], rfl, passes_escape c⟩

theorem eq_of_ofUnit {s left : List Char} {unit : Nat} {c : Char}
    (h : ofUnit s unit left = .ok (c, rest)) : left = rest := by
  unfold ofUnit at h
  split at h
  · cases h
  · exact (Prod.mk.inj (Except.ok.inj h)).2

/-- An escape by a code unit is passed with the other half of its pair. -/
theorem reaches_of_unicodeEscape {c : Char} (h : unicodeEscape ('u' :: text) = .ok (c, rest)) :
    Reaches .inside ('\\' :: 'u' :: text) rest := by
  refine (reaches_escape 'u' text).trans ?_
  unfold unicodeEscape at h
  split at h
  · cases h
  · rename_i unit left hcode
    have hleft := reaches_of_hexCode? hcode
    split at h
    · split at h
      · exact eq_of_ofUnit h ▸ hleft
      · split at h
        · cases h
        · rename_i hlow
          split at h
          · obtain ⟨-, rfl⟩ := Prod.mk.inj (Except.ok.inj h)
            exact hleft.trans ((reaches_escape 'u' _).trans (reaches_of_hexCode? hlow))
          · exact eq_of_ofUnit h ▸ hleft
    · exact eq_of_ofUnit h ▸ hleft

/-- The rest of a string is passed up to its closing quote. -/
theorem reaches_of_stringBody {opening chars : List Char} {fuel : Nat}
    (h : stringBody opening fuel text = .ok (chars, rest)) :
    Reaches .inside text ('"' :: rest) := by
  induction fuel generalizing text chars with
  | zero => cases h
  | succ fuel ih =>
    cases text with
    | nil => cases h
    | cons c text =>
      unfold stringBody at h
      split at h
      · rename_i hquote
        obtain ⟨-, rfl⟩ := Prod.mk.inj (Except.ok.inj h)
        exact hquote ▸ .refl _ _
      · rename_i hquote
        split at h
        · rename_i hback
          subst hback
          split at h
          · cases h
          · rename_i e after
            split at h
            · rename_i hu
              subst hu
              obtain ⟨⟨char, left⟩, hescape, h⟩ := bind_eq_ok.1 h
              obtain ⟨⟨more, left'⟩, hmore, h⟩ := bind_eq_ok.1 h
              obtain ⟨-, rfl⟩ := Prod.mk.inj (Except.ok.inj h)
              exact (reaches_of_unicodeEscape hescape).trans (ih hmore)
            · split at h
              · cases h
              · obtain ⟨⟨more, left⟩, hmore, h⟩ := bind_eq_ok.1 h
                obtain ⟨-, rfl⟩ := Prod.mk.inj (Except.ok.inj h)
                exact (reaches_escape e after).trans (ih hmore)
        · rename_i hback
          split at h
          · cases h
          · obtain ⟨⟨more, left⟩, hmore, h⟩ := bind_eq_ok.1 h
            obtain ⟨-, rfl⟩ := Prod.mk.inj (Except.ok.inj h)
            exact Reaches.trans ⟨[c], rfl, passes_inside hquote hback⟩ (ih hmore)

/-- A string is passed as a whole. -/
theorem reaches_of_string {s : String} (h : string text = .ok (s, rest)) :
    Reaches .outside ('"' :: text) rest := by
  obtain ⟨⟨chars, left⟩, hbody, h⟩ := bind_eq_ok.1 h
  obtain ⟨-, rfl⟩ := Prod.mk.inj (Except.ok.inj h)
  exact (reaches_of_stringBody hbody).quoted

theorem reaches_digits (text : List Char) :
    Reaches .outside text (text.dropWhile Text.isDigit) := by
  have hdigits : ∀ c ∈ text.takeWhile Text.isDigit, IsPlain c := fun c hc =>
    isPlain_of_isDigit (List.all_eq_true.1 List.all_takeWhile c hc)
  have hreach := reaches_of_plain hdigits (by decide : Mode.outside ≠ .escaped)
    (text.dropWhile Text.isDigit)
  rwa [List.takeWhile_append_dropWhile] at hreach

theorem reaches_plain {c : Char} (h : IsPlain c) (rest : List Char) :
    Reaches .outside (c :: rest) rest := ⟨[c], rfl, passes_plain h (by decide)⟩

theorem reaches_wholeDigits (text : List Char) : Reaches .outside text (wholeDigits text).2 := by
  unfold wholeDigits
  split
  · exact reaches_plain (by decide) _
  · exact reaches_digits text

theorem reaches_of_pointDigits? {digits : List Char} (h : pointDigits? text = some (digits, rest)) :
    Reaches .outside text rest := by
  unfold pointDigits? at h
  split at h
  · dsimp only at h
    split at h
    · cases h
    · obtain ⟨-, rfl⟩ := Prod.mk.inj (Option.some.inj h)
      exact (reaches_plain (by decide) _).trans (reaches_digits _)
  · cases h

theorem reaches_of_power? {n : Int} (h : power? text = some (n, rest)) :
    Reaches .outside text rest := by
  unfold power? at h
  split at h
  · rename_i c left
    split at h
    · rename_i hc
      have hplain : IsPlain c := by
        simp only [Bool.or_eq_true, decide_eq_true_eq] at hc
        rcases hc with rfl | rfl <;> decide
      refine (reaches_plain hplain _).trans ?_
      split at h
      rename_i sign digits hsign
      have hleft : Reaches .outside left digits := by
        split at hsign <;> obtain ⟨-, rfl⟩ := Prod.mk.inj hsign
        · exact reaches_plain (by decide) _
        · exact reaches_plain (by decide) _
        · exact .refl _ _
      dsimp only at h
      split at h
      · cases h
      · obtain ⟨-, rfl⟩ := Prod.mk.inj (Option.some.inj h)
        exact hleft.trans (reaches_digits _)
    · cases h
  · cases h

/-- A number is passed as a whole. -/
theorem reaches_of_number {j : Json} (h : number text = .ok (j, rest)) :
    Reaches .outside text rest := by
  unfold number at h
  split at h
  rename_i negative unsigned hsign
  have hunsigned : Reaches .outside text unsigned := by
    split at hsign <;> obtain ⟨-, rfl⟩ := Prod.mk.inj hsign
    · exact reaches_plain (by decide) _
    · exact .refl _ _
  have hpoint := (hunsigned.trans (reaches_wholeDigits unsigned)).optional
    reaches_of_pointDigits?
  have hpower := hpoint.optional reaches_of_power?
  dsimp only at h
  split at h
  · cases h
  split at h
  · split at h
    · cases h
    · obtain ⟨-, rfl⟩ := Prod.mk.inj (Except.ok.inj h)
      exact hpoint
  · obtain ⟨-, rfl⟩ := Prod.mk.inj (Except.ok.inj h)
    exact hpower

theorem append_of_dropHead? {word left : List Char} (h : Text.dropHead? word text = some left) :
    text = word ++ left := by
  fun_induction Text.dropHead? word text with
  | case1 text => exact Option.some.inj h
  | case2 => cases h
  | case3 c word text ih => rw [ih h, List.cons_append]
  | case4 => cases h

/-- A word is passed as a whole. -/
theorem reaches_of_word? {j : Json} (h : word? text = some (j, rest)) :
    Reaches .outside text rest := by
  have hwords : ∀ entry ∈ words, entry.1.toList.all (IsPlain ·) = true := by decide
  obtain ⟨entry, hentry, hread⟩ := List.exists_of_findSome?_eq_some h
  obtain ⟨left, hleft, he⟩ := Option.map_eq_some_iff.1 hread
  obtain ⟨-, rfl⟩ := Prod.mk.inj he
  rw [append_of_dropHead? hleft]
  exact reaches_of_plain (isPlain_of_all (hwords entry hentry)) (by decide) left

/-- An object is read up to the brace that closes it. -/
theorem reaches_of_object {fuel : Nat} {j : Json}
    (hmembers : ∀ known text ms rest, members fuel known text = .ok (ms, rest) →
      Reaches .outside text ('\x7d' :: rest))
    (h : value (fuel + 1) ('\x7b' :: text) = .ok (j, rest)) :
    Reaches .outside text ('\x7d' :: rest) := by
  refine (reaches_skipSpace text).trans ?_
  simp only [value] at h
  split at h
  · rename_i hend
    obtain ⟨-, rfl⟩ := Prod.mk.inj (Except.ok.inj h)
    exact hend ▸ .refl _ _
  · obtain ⟨⟨ms, left⟩, hread, h⟩ := map_eq_ok.1 h
    obtain ⟨-, rfl⟩ := Prod.mk.inj h
    exact hmembers _ _ _ _ hread

/-- The induction is on the fuel that the three readers share. -/
theorem reaches_of_fuel (fuel : Nat) :
    (∀ text j rest, value fuel text = .ok (j, rest) → Reaches .outside text rest) ∧
    (∀ text js rest, elements fuel text = .ok (js, rest) → Reaches .outside text (']' :: rest)) ∧
    ∀ known text ms rest, members fuel known text = .ok (ms, rest) →
      Reaches .outside text ('\x7d' :: rest) := by
  induction fuel with
  | zero => simp [value, elements, members]
  | succ fuel ih =>
    obtain ⟨ihvalue, ihelements, ihmembers⟩ := ih
    refine ⟨fun text j rest h => ?_, fun text js rest h => ?_, fun known text ms rest h => ?_⟩
    · unfold value at h
      split at h
      · obtain ⟨⟨s, left⟩, hread, h⟩ := map_eq_ok.1 h
        obtain ⟨-, rfl⟩ := Prod.mk.inj h
        exact reaches_of_string hread
      · exact pairs_braces.reaches (reaches_of_object ihmembers h)
      · rename_i inside
        refine pairs_brackets.reaches ((reaches_skipSpace inside).trans ?_)
        split at h
        · rename_i hend
          obtain ⟨-, rfl⟩ := Prod.mk.inj (Except.ok.inj h)
          exact hend ▸ .refl _ _
        · obtain ⟨⟨js, left⟩, hread, h⟩ := map_eq_ok.1 h
          obtain ⟨-, rfl⟩ := Prod.mk.inj h
          exact ihelements _ _ _ hread
      · split at h
        · rename_i hword
          obtain rfl := Except.ok.inj h
          exact reaches_of_word? hword
        · exact reaches_of_number h
    · unfold elements at h
      obtain ⟨⟨read, left⟩, hread, h⟩ := bind_eq_ok.1 h
      refine (ihvalue _ _ _ hread).trans ((reaches_skipSpace left).trans ?_)
      dsimp only at h
      split at h
      · rename_i hend
        obtain ⟨-, rfl⟩ := Prod.mk.inj (Except.ok.inj h)
        exact hend ▸ .refl _ _
      · rename_i more hmore
        obtain ⟨⟨js, left'⟩, hread, h⟩ := bind_eq_ok.1 h
        obtain ⟨-, rfl⟩ := Prod.mk.inj (Except.ok.inj h)
        rw [hmore]
        exact (reaches_plain (by decide) _).trans
          ((reaches_skipSpace more).trans (ihelements _ _ _ hread))
      · cases h
    · unfold members at h
      split at h
      · obtain ⟨⟨key, left⟩, hkey, h⟩ := bind_eq_ok.1 h
        refine (reaches_of_string hkey).trans ((reaches_skipSpace left).trans ?_)
        dsimp only at h
        split at h
        · rename_i inside hinside
          obtain ⟨⟨read, left'⟩, hread, h⟩ := bind_eq_ok.1 h
          rw [hinside]
          refine (reaches_plain (by decide) _).trans ((reaches_skipSpace inside).trans
            ((ihvalue _ _ _ hread).trans ((reaches_skipSpace left').trans ?_)))
          dsimp only at h
          split at h
          · rename_i hend
            obtain ⟨-, rfl⟩ := Prod.mk.inj (Except.ok.inj h)
            exact hend ▸ .refl _ _
          · rename_i more hmore
            rw [hmore]
            exact (reaches_plain (by decide) _).trans
              ((reaches_skipSpace more).trans (ihmembers _ _ _ _ h))
          · cases h
        · cases h
      · cases h

/-- Of a text that goes on as the text of an object does, a value is read up to its end. -/
theorem rest_of_value {known : List (String × Json)} {fuel : Nat} {j : Json} {w tail : List Char}
    (h : value fuel text = .ok (j, rest)) (htext : text ≠ [])
    (heq : text ++ w = compact escapeChar (.obj known) ++ tail) : rest ++ w = tail := by
  obtain ⟨c, inside, rfl⟩ := List.exists_cons_of_ne_nil htext
  simp only [compact, List.cons_append, List.append_assoc, List.nil_append] at heq
  obtain ⟨rfl, hinside⟩ := List.cons.inj heq
  cases fuel with
  | zero => cases h
  | succ fuel =>
    obtain ⟨passed, rfl, hpassed⟩ := reaches_of_object (reaches_of_fuel fuel).2.2 h
    rw [List.append_assoc, List.cons_append] at hinside
    exact pairs_braces.rest_eq hpassed (passes_compactMembers known) hinside

/-- Neither a shorter nor a longer text than that of the object is read, where what stands behind it
is no space. -/
theorem eq_of_parseChars {known : List (String × Json)} {j : Json} {w tail : List Char}
    (h : parseChars text = .ok j) (heq : text ++ w = compact escapeChar (.obj known) ++ tail)
    (htail : ∀ c ∈ tail.head?, isSpace c = false) : text = compact escapeChar (.obj known) := by
  obtain ⟨fuel, rest, hvalue, hrest⟩ := value_of_parseChars h
  have htext : text ≠ [] := by
    rintro rfl
    cases h
  have hskip : skipSpace text = text := by
    obtain ⟨c, inside, rfl⟩ := List.exists_cons_of_ne_nil htext
    obtain ⟨rfl, -⟩ := List.cons.inj heq
    exact skipSpace_cons (by decide) inside
  rw [hskip] at hvalue
  obtain rfl := rest_of_value hvalue htext heq
  cases rest with
  | nil => exact List.append_cancel_right heq
  | cons c rest =>
    rw [skipSpace_cons (htail c (by simp))] at hrest
    cases hrest

end Bindery.Json
