import Bindery.Json.Printer
import Bindery.Proofs.Text.Digits
/-!
# Paired brackets

Everything that the text of a value opens is closed in it, quotes and brackets alike, and brackets
inside strings do not count. So the text alone tells where the bracket is that closes an array or an
object.
-/
namespace Bindery.Json

/-- Where in a text a character stands. -/
inductive Mode where
  | outside | inside
  /-- Behind a backslash inside a string. -/
  | escaped
  deriving DecidableEq

/-- What is left of a text behind the bracket that closes one more than those that are opened in it;
`depth` of them are open already. -/
def behind : Mode → (depth : Nat) → List Char → Option (List Char)
  | _, _, [] => none
  | .escaped, depth, _ :: rest => behind .inside depth rest
  | .inside, depth, c :: rest =>
    if c = '"' then behind .outside depth rest
    else if c = '\\' then behind .escaped depth rest
    else behind .inside depth rest
  | .outside, depth, c :: rest =>
    if c = '"' then behind .inside depth rest
    else if c = '\x7b' ∨ c = '[' then behind .outside (depth + 1) rest
    else if c = '\x7d' ∨ c = ']' then
      match depth with
      | 0 => some rest
      | depth + 1 => behind .outside depth rest
    else behind .outside depth rest

/-- Everything that is opened in the text is closed in it, and nothing else. -/
def Passes (m : Mode) (text : List Char) : Prop :=
  ∀ depth rest, behind m depth (text ++ rest) = behind m depth rest

/-- A character that opens and closes nothing. -/
def IsPlain (c : Char) : Prop := c ∉ ['"', '\\', '\x7b', '\x7d', '[', ']']

instance (c : Char) : Decidable (IsPlain c) := inferInstanceAs (Decidable (_ ∉ _))

variable {m : Mode} {text more : List Char}

theorem Passes.nil (m : Mode) : Passes m [] := fun _ _ => rfl

/-- Texts that are passed one after the other are passed together. -/
theorem Passes.append (h : Passes m text) (hmore : Passes m more) : Passes m (text ++ more) := by
  intro depth rest
  rw [List.append_assoc, h, hmore]

theorem passes_plain {c : Char} (h : IsPlain c) (hm : m ≠ .escaped) : Passes m [c] := by
  simp only [IsPlain, List.mem_cons, List.not_mem_nil, or_false, not_or] at h
  intro depth rest
  cases m with
  | outside => simp [behind, h]
  | inside => simp [behind, h]
  | escaped => exact absurd rfl hm

/-- Inside a string a bracket is a character like others. -/
theorem passes_inside {c : Char} (hquote : c ≠ '"') (hback : c ≠ '\\') : Passes .inside [c] := by
  intro depth rest
  simp [behind, hquote, hback]

theorem passes_of_plain (h : ∀ c ∈ text, IsPlain c) (hm : m ≠ .escaped) : Passes m text := by
  induction text with
  | nil => exact .nil m
  | cons c text ih =>
    rw [List.forall_mem_cons] at h
    exact (passes_plain h.1 hm).append (ih h.2)

/-- The characters of a text that is written out are looked at one by one. -/
theorem isPlain_of_all (h : text.all (IsPlain ·) = true) : ∀ c ∈ text, IsPlain c :=
  fun c hc => of_decide_eq_true (List.all_eq_true.1 h c hc)

theorem passes_escape (c : Char) : Passes .inside ['\\', c] := by
  intro depth rest
  simp [behind]

/-- A string is passed as a whole, whatever brackets stand in it. -/
theorem Passes.quoted (h : Passes .inside text) : Passes .outside ('"' :: text ++ ['"']) := by
  intro depth rest
  have hopen : behind .outside depth ('"' :: (text ++ '"' :: rest)) =
      behind .inside depth (text ++ '"' :: rest) := by simp [behind]
  have hclose : behind .inside depth ('"' :: rest) = behind .outside depth rest := by simp [behind]
  rw [List.append_assoc, List.cons_append, List.singleton_append, hopen, h, hclose]

/-- A pair of brackets of one kind. -/
structure Pairs (opener closer : Char) : Prop where
  opens : ∀ depth rest, behind .outside depth (opener :: rest) = behind .outside (depth + 1) rest
  closes : ∀ depth rest, behind .outside (depth + 1) (closer :: rest) = behind .outside depth rest
  ends : ∀ rest, behind .outside 0 (closer :: rest) = some rest

theorem pairs_braces : Pairs '\x7b' '\x7d' where
  opens := by simp [behind]
  closes := by simp [behind]
  ends := by simp [behind]

theorem pairs_brackets : Pairs '[' ']' where
  opens := by simp [behind]
  closes := by simp [behind]
  ends := by simp [behind]

/-- A text between a pair of brackets is passed with them. -/
theorem Pairs.passes {opener closer : Char} (h : Pairs opener closer)
    (htext : Passes .outside text) : Passes .outside (opener :: text ++ [closer]) := by
  intro depth rest
  rw [List.append_assoc, List.cons_append, List.singleton_append, h.opens, htext, h.closes]

/-- What stands behind a closing bracket is told by the text alone. -/
theorem Pairs.rest_eq {opener closer : Char} (h : Pairs opener closer) {rest rest' : List Char}
    (htext : Passes .outside text) (hmore : Passes .outside more)
    (heq : text ++ closer :: rest = more ++ closer :: rest') : rest = rest' := by
  have hbehind := congrArg (behind .outside 0) heq
  rw [htext, hmore, h.ends, h.ends] at hbehind
  exact Option.some.inj hbehind

theorem isPlain_of_isDigit {c : Char} (h : Text.isDigit c = true) : IsPlain c := by
  simp only [IsPlain, List.mem_cons, List.not_mem_nil, or_false, not_or]
  refine ⟨?_, ?_, ?_, ?_, ?_, ?_⟩ <;> (rintro rfl; revert h; decide)

theorem isPlain_of_mem_ofNat {n : Nat} {c : Char} (h : c ∈ Text.ofNat n) : IsPlain c :=
  isPlain_of_isDigit (Text.isDigit_of_mem_ofNat h)

theorem isPlain_of_mem_ofInt {n : Int} {c : Char} (h : c ∈ Text.ofInt n) : IsPlain c := by
  cases n with
  | ofNat n => exact isPlain_of_mem_ofNat h
  | negSucc n =>
    rcases List.mem_cons.1 h with rfl | h
    · decide
    · exact isPlain_of_mem_ofNat h

theorem isPlain_of_mem_shortest {mantissa : Nat} {exponent : Int} {c : Char}
    (h : c ∈ (Decimal.shortest mantissa exponent).digits) : IsPlain c := by
  have hdigits : c ∈ Text.ofNat _ :=
    List.mem_reverse.1 ((List.dropWhile_sublist _).subset (List.mem_reverse.1 h))
  exact isPlain_of_mem_ofNat hdigits

theorem isPlain_of_mem_zeros {n : Nat} {c : Char} (h : c ∈ List.replicate n '0') : IsPlain c := by
  rw [List.eq_of_mem_replicate h]
  decide

theorem isPlain_of_mem_positional {s : Decimal.Scientific} (hs : ∀ c ∈ s.digits, IsPlain c)
    {c : Char} (h : c ∈ Decimal.positional s) : IsPlain c := by
  unfold Decimal.positional at h
  split at h
  · simp only [List.mem_cons, List.mem_append] at h
    rcases h with rfl | rfl | h | h
    · decide
    · decide
    · exact isPlain_of_mem_zeros h
    · exact hs c h
  · simp only [List.mem_append, List.mem_cons] at h
    rcases h with (h | h) | rfl | h
    · exact hs c (List.mem_of_mem_take h)
    · exact isPlain_of_mem_zeros h
    · decide
    · split at h
      · rw [List.mem_singleton.1 h]
        decide
      · exact hs c (List.mem_of_mem_drop h)

theorem isPlain_of_mem_exponential {width : Nat} {s : Decimal.Scientific}
    (hs : ∀ c ∈ s.digits, IsPlain c) {c : Char} (h : c ∈ Decimal.exponential width s) :
    IsPlain c := by
  have hpower : ∀ n, ∀ c ∈ Decimal.padded width (Text.ofNat n), IsPlain c := by
    intro n c h
    rcases List.mem_append.1 h with h | h
    · exact isPlain_of_mem_zeros h
    · exact isPlain_of_mem_ofNat h
  unfold Decimal.exponential at h
  simp only [List.mem_append, List.mem_cons] at h
  rcases h with (h | h) | rfl | h
  · exact hs c (List.mem_of_mem_take h)
  · split at h
    · cases h
    · rcases List.mem_cons.1 h with rfl | h
      · decide
      · exact hs c (List.mem_of_mem_drop h)
  · decide
  · split at h <;> rcases List.mem_cons.1 h with rfl | h
    · decide
    · exact hpower _ c h
    · decide
    · exact hpower _ c h

/-- No number has a bracket or a quote in it. -/
theorem isPlain_of_mem_render {x : Decimal.Binary64} {c : Char}
    (h : c ∈ Decimal.render numberLayout x) : IsPlain c := by
  have hsign (negative : Bool) : ∀ c ∈ (if negative then ['-'] else []), IsPlain c :=
    isPlain_of_all (by cases negative <;> decide)
  have hnan : ∀ c ∈ numberLayout.nan.toList, IsPlain c := isPlain_of_all (by decide)
  have hinfinity : ∀ c ∈ numberLayout.infinity.toList, IsPlain c := isPlain_of_all (by decide)
  have hzero : ∀ c ∈ ['0', '.', '0'], IsPlain c := isPlain_of_all (by decide)
  cases x with
  | nan => exact hnan c h
  | infinite negative =>
    rcases List.mem_append.1 h with h | h
    · exact hsign negative c h
    · exact hinfinity c h
  | finite negative mantissa exponent =>
    rcases List.mem_append.1 h with h | h
    · exact hsign negative c h
    · split at h
      · exact hzero c h
      · dsimp only at h
        split at h
        · exact isPlain_of_mem_positional (fun _ => isPlain_of_mem_shortest) h
        · exact isPlain_of_mem_exponential (fun _ => isPlain_of_mem_shortest) h

theorem passes_unitEscape (n : Nat) : Passes .inside (unitEscape n) := by
  have hdigit : ∀ d, d < 16 → IsPlain (Text.hexDigit d) := by decide
  refine (passes_escape 'u').append (passes_of_plain (fun c hc => ?_) (by decide))
  simp only [Text.hex, List.nil_append, List.mem_append, List.mem_singleton] at hc
  rcases hc with ((rfl | rfl) | rfl) | rfl <;> exact hdigit _ (Nat.mod_lt _ (by decide))

theorem passes_escapeChar (c : Char) : Passes .inside (escapeChar c) := by
  unfold escapeChar
  split
  · exact passes_escape _
  · rename_i hquote
    split
    · exact passes_escape _
    · rename_i hback
      iterate 5
        split
        · exact passes_escape _
      split
      · exact passes_unitEscape _
      · exact passes_inside hquote hback

/-- A printed string is passed. -/
theorem passes_stringChars (s : String) : Passes .outside (stringChars escapeChar s) := by
  refine Passes.quoted ?_
  induction s.toList with
  | nil => exact .nil _
  | cons c chars ih =>
    rw [List.flatMap_cons]
    exact (passes_escapeChar c).append ih

theorem passes_entry (key : String) (h : Passes .outside text) :
    Passes .outside (stringChars escapeChar key ++ ':' :: text) :=
  (passes_stringChars key).append ((passes_plain (c := ':') (by decide) (by decide)).append h)

mutual

/-- Every printed value is passed: each bracket that it opens is closed. -/
theorem passes_compact : (j : Json) → Passes .outside (compact escapeChar j)
  | .null => passes_of_plain (isPlain_of_all (by decide)) (by decide)
  | .bool b => passes_of_plain (isPlain_of_all (by cases b <;> decide)) (by decide)
  | .int n => passes_of_plain (fun _ => isPlain_of_mem_ofInt) (by decide)
  | .float x => passes_of_plain (fun _ => isPlain_of_mem_render) (by decide)
  | .str s => passes_stringChars s
  | .arr [] => pairs_brackets.passes (.nil _)
  | .arr (element :: rest) =>
    pairs_brackets.passes ((passes_compact element).append (passes_compactMoreElements rest))
  | .obj members => pairs_braces.passes (passes_compactMembers members)

theorem passes_compactMoreElements :
    (elements : List Json) → Passes .outside (compactMoreElements escapeChar elements)
  | [] => .nil _
  | element :: rest =>
    (passes_plain (c := ',') (by decide) (by decide)).append
      ((passes_compact element).append (passes_compactMoreElements rest))

theorem passes_compactMembers :
    (members : List (String × Json)) → Passes .outside (compactMembers escapeChar members)
  | [] => .nil _
  | (key, value) :: rest =>
    (passes_entry key (passes_compact value)).append (passes_compactMoreMembers rest)

theorem passes_compactMoreMembers :
    (members : List (String × Json)) → Passes .outside (compactMoreMembers escapeChar members)
  | [] => .nil _
  | (key, value) :: rest =>
    (passes_plain (c := ',') (by decide) (by decide)).append
      ((passes_entry key (passes_compact value)).append (passes_compactMoreMembers rest))

end

end Bindery.Json
