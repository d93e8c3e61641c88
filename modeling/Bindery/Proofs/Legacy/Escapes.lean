import Bindery.Legacy.Escape
import Bindery.Proofs.Text.Utf8
import Bindery.Text.Quoted
import Mathlib.Data.List.TakeWhile
/-!
# The escapes of string literals

The content of a literal as a grammar of its characters, without bytes and places: each piece stands
for some code points. The grammar has exactly the literals that are read, with the code points that
they are read as.
-/
namespace Bindery.Legacy.Escape

open Outcome
open Utf8 (encodeChar encodeChars)

/-- The escapes of one character, with the code points that they stand for. -/
def letters : List (Char × Nat) :=
  [('\\', 0x5C), (Text.apostrophe, 0x27), ('"', 0x22), ('a', 0x07), ('b', 0x08), ('f', 0x0C),
    ('n', 0x0A), ('r', 0x0D), ('t', 0x09), ('v', 0x0B)]

def HexEscape.letter : HexEscape → Char
  | .two => 'x'
  | .four => 'u'
  | .eight => 'U'

def IsHex (c : Char) : Prop := (Text.hexValue? c).isSome = true

def IsOctal (c : Char) : Prop := 0x30 ≤ c.toNat ∧ c.toNat ≤ 0x37

/-- Digits as a number; a digit of base eight is worth the same in base sixteen. -/
def digitsValue (base : Nat) (digits : List Char) : Nat :=
  digits.foldl (fun value c => value * base + (Text.hexValue? c).getD 0) 0

/-- A character whose escape has a meaning. -/
def IsKnown (c : Char) : Prop :=
  c = '\n' ∨ c ∈ letters.map Prod.fst ∨ IsOctal c ∨ c ∈ ['x', 'u', 'U', 'N']

instance (c : Char) : Decidable (IsOctal c) := inferInstanceAs (Decidable (_ ∧ _))

instance (c : Char) : Decidable (IsKnown c) := inferInstanceAs (Decidable (_ ∨ _ ∨ _ ∨ _))

/-- The code points that stand for the bytes of a character. -/
def bytePoints (c : Char) : List Nat := (encodeChar c).map UInt8.toNat

/-- A name as it is looked up, with each byte for a character. Only ASCII is left as it is. -/
def byteChars (name : List Char) : List Char :=
  (encodeChars name).map fun b => Char.ofNat b.toNat

/-- The code points that the content of a literal stands for, when all its escapes are well
formed. -/
inductive Denotes : List Char → List Nat → Prop where
  | nil : Denotes [] []
  | raw {c : Char} {rest : List Char} {points : List Nat} : c ≠ '\\' → Denotes rest points →
      Denotes (c :: rest) (bytePoints c ++ points)
  | lineEnd {rest : List Char} {points : List Nat} : Denotes rest points →
      Denotes ('\\' :: '\n' :: rest) points
  | letter (entry : Char × Nat) {rest : List Char} {points : List Nat} : entry ∈ letters →
      Denotes rest points → Denotes ('\\' :: entry.1 :: rest) (entry.2 :: points)
  /-- Up to three digits, and fewer only where no other digit follows. -/
  | octal {digits rest : List Char} {points : List Nat} : digits ≠ [] → digits.length ≤ 3 →
      (∀ c ∈ digits, IsOctal c) → (digits.length = 3 ∨ ∀ c ∈ rest.head?, ¬ IsOctal c) →
      Denotes rest points → Denotes ('\\' :: (digits ++ rest)) (digitsValue 8 digits :: points)
  | hex (kind : HexEscape) {digits rest : List Char} {points : List Nat} :
      digits.length = kind.count → (∀ c ∈ digits, IsHex c) → digitsValue 16 digits ≤ 0x10FFFF →
      Denotes rest points →
      Denotes ('\\' :: kind.letter :: (digits ++ rest)) (digitsValue 16 digits :: points)
  | named {name rest : List Char} {point : Nat} {points : List Nat} : name ≠ [] → '\x7d' ∉ name →
      Text.named? (byteChars name) = some point → Denotes rest points →
      Denotes ('\\' :: 'N' :: '\x7b' :: (name ++ '\x7d' :: rest)) (point :: points)
  /-- An escape without a meaning stands for itself. -/
  | unknown {c : Char} {rest : List Char} {points : List Nat} : ¬ IsKnown c → Denotes rest points →
      Denotes ('\\' :: c :: rest) (0x5C :: (bytePoints c ++ points))

/-- Bytes without a backslash. -/
def Plain (bytes : List UInt8) : Prop := ∀ b ∈ bytes, b ≠ 0x5C

theorem plain_encodeChar {c : Char} (h : c ≠ '\\') : Plain (encodeChar c) := by
  rintro b hb rfl
  exact h (Utf8.ascii_of_mem_encodeChar hb (by decide)).1

/-- Bytes without a backslash are code points as they are. -/
theorem pointsFrom_plain {bytes : List UInt8} (h : Plain bytes) (left : List UInt8)
    (fuel position : Nat) :
    pointsFrom (bytes.length + fuel) position (bytes ++ left) =
      (pointsFrom fuel (position + bytes.length) left).map (bytes.map UInt8.toNat ++ ·) := by
  induction bytes generalizing position with
  | nil =>
    show pointsFrom (0 + fuel) position left = (pointsFrom fuel position left).map id
    rw [Nat.zero_add]
    cases pointsFrom fuel position left <;> rfl
  | cons b bytes ih =>
    obtain ⟨hb, hbytes⟩ := List.forall_mem_cons.1 h
    rw [List.length_cons, Nat.add_right_comm, List.cons_append, pointsFrom, if_neg hb, ih hbytes,
      Nat.add_assoc, Nat.add_comm 1]
    cases pointsFrom fuel _ left <;> rfl

/-- Plain bytes stand for themselves, wherever they are. -/
theorem pointsFrom_behind_plain {bytes left : List UInt8} {fuel position : Nat} {found : List Nat}
    (hbytes : Plain bytes) (hfuel : (bytes ++ left).length ≤ fuel)
    (h : pointsFrom fuel position (bytes ++ left) = .ok found) :
    ∃ fuel' position' more, left.length ≤ fuel' ∧ pointsFrom fuel' position' left = .ok more ∧
      found = bytes.map UInt8.toNat ++ more := by
  rw [List.length_append] at hfuel
  obtain ⟨fuel, rfl⟩ := Nat.exists_eq_add_of_le (show bytes.length ≤ fuel by omega)
  rw [pointsFrom_plain hbytes] at h
  obtain ⟨more, hmore, rfl⟩ := map_eq_ok.1 h
  exact ⟨fuel, _, more, by omega, hmore, rfl⟩

/-- Bytes are read wherever they stand. -/
def Reads (bytes : List UInt8) (points : List Nat) : Prop :=
  ∀ fuel position, bytes.length ≤ fuel → pointsFrom fuel position bytes = .ok points

theorem Reads.plain {bytes left : List UInt8} {points : List Nat} (hbytes : Plain bytes)
    (h : Reads left points) : Reads (bytes ++ left) (bytes.map UInt8.toNat ++ points) := by
  intro fuel position hfuel
  rw [List.length_append] at hfuel
  obtain ⟨fuel, rfl⟩ := Nat.exists_eq_add_of_le (show bytes.length ≤ fuel by omega)
  rw [pointsFrom_plain hbytes, h fuel _ (by omega), map_ok]

/-- An escape is read as its code points, in front of what follows. -/
theorem Reads.escape (bytes : List UInt8) {left : List UInt8} {points more : List Nat}
    (hescape : ∀ position, Escape.escape position (bytes ++ left) = .ok (points, left))
    (h : Reads left more) : Reads (0x5C :: (bytes ++ left)) (points ++ more) := by
  intro fuel position hfuel
  rw [List.length_cons, List.length_append] at hfuel
  obtain ⟨fuel, rfl⟩ := Nat.exists_eq_add_one_of_ne_zero (show fuel ≠ 0 by omega)
  rw [pointsFrom, if_pos rfl, hescape]
  dsimp only
  rw [h fuel _ (by omega), map_ok]

theorem IsHex.ascii {c : Char} (h : IsHex c) : c.toNat < 0x80 := by
  unfold IsHex Text.hexValue? at h
  grind

theorem IsOctal.ascii {c : Char} (h : IsOctal c) : c.toNat < 0x80 :=
  Nat.lt_of_le_of_lt h.2 (by decide)

/-- Digits of base sixteen are read as their value. -/
theorem hexDigits_encodeChars {digits : List Char} (h : ∀ c ∈ digits, IsHex c) (rest : List Char)
    (read value : Nat) :
    hexDigits digits.length read value (encodeChars (digits ++ rest)) =
      .ok (digits.foldl (fun value c => value * 16 + (Text.hexValue? c).getD 0) value,
        encodeChars rest) := by
  induction digits generalizing read value with
  | nil => rfl
  | cons c digits ih =>
    obtain ⟨hc, hdigits⟩ := List.forall_mem_cons.1 h
    obtain ⟨digit, hdigit⟩ := Option.isSome_iff_exists.1 hc
    rw [List.cons_append, Utf8.encodeChars_ascii_cons hc.ascii, List.length_cons, hexDigits,
      Utf8.toNat_ofNat_ascii hc.ascii, Char.ofNat_toNat, hdigit]
    dsimp only
    rw [ih hdigits, List.foldl_cons, hdigit, Option.getD_some]

theorem octalValue?_ascii {c : Char} (h : IsOctal c) :
    octalValue? (UInt8.ofNat c.toNat) = some ((Text.hexValue? c).getD 0) := by
  have hlow := h.1
  have hhigh := h.2
  rw [octalValue?, Utf8.toNat_ofNat_ascii h.ascii, if_pos ⟨hlow, hhigh⟩, Text.hexValue?,
    if_pos (by omega)]
  rfl

/-- No byte of another character is an octal digit. -/
theorem octalValue?_of_mem_encodeChar {c : Char} (h : ¬ IsOctal c) {b : UInt8}
    (hb : b ∈ encodeChar c) : octalValue? b = none := by
  rw [octalValue?, if_neg]
  rintro ⟨hlow, hhigh⟩
  obtain ⟨rfl, -⟩ := Utf8.ascii_of_mem_encodeChar hb (by omega)
  exact h (by rw [IsOctal, Utf8.toNat_charOfNat (by omega)]; omega)

/-- Digits of base eight are read as their value, as many of them as are asked for. -/
theorem octal_encodeChars {digits rest : List Char} (h : ∀ c ∈ digits, IsOctal c) {count : Nat}
    (hcount : digits.length ≤ count)
    (hend : digits.length = count ∨ ∀ c ∈ rest.head?, ¬ IsOctal c) (value : Nat) :
    octal count value (encodeChars (digits ++ rest)) =
      (digits.foldl (fun value c => value * 8 + (Text.hexValue? c).getD 0) value,
        encodeChars rest) := by
  induction digits generalizing count value with
  | nil =>
    cases count with
    | zero => rfl
    | succ count =>
      have hrest := hend.resolve_left (by simp)
      cases rest with
      | nil => rfl
      | cons c rest =>
        obtain ⟨b, bytes, hbytes⟩ := List.exists_cons_of_ne_nil (Utf8.encodeChar_ne_nil c)
        have hnone : octalValue? b = none :=
          octalValue?_of_mem_encodeChar (hrest c rfl) (by rw [hbytes]; exact List.mem_cons_self)
        rw [List.nil_append, Utf8.encodeChars_cons, hbytes, List.cons_append, octal, hnone]
        rfl
  | cons c digits ih =>
    obtain ⟨hc, hdigits⟩ := List.forall_mem_cons.1 h
    obtain ⟨count, rfl⟩ := Nat.exists_eq_add_one_of_ne_zero (show count ≠ 0 by
      rintro rfl
      simp at hcount)
    rw [List.length_cons] at hcount hend
    rw [List.cons_append, Utf8.encodeChars_ascii_cons hc.ascii, octal, octalValue?_ascii hc]
    dsimp only
    rw [ih hdigits (by omega) (hend.imp_left (by omega)), List.foldl_cons]

/-- A letter of the table stands for its code point. -/
theorem escape_letter {entry : Char × Nat} (h : entry ∈ letters) (position : Nat)
    (rest : List Char) :
    escape position (encodeChars (entry.1 :: rest)) = .ok ([entry.2], encodeChars rest) := by
  simp only [letters, List.mem_cons, List.not_mem_nil, or_false] at h
  rcases h with rfl | rfl | rfl | rfl | rfl | rfl | rfl | rfl | rfl | rfl <;> rfl

theorem mem_letters {b : UInt8} {point : Nat} (h : single? b = some point) :
    (Char.ofNat b.toNat, point) ∈ letters := by
  unfold single? at h
  iterate 10
    split at h
    · rename_i hb
      subst hb
      cases h
      decide
  cases h

theorem escape_octalValue {b : UInt8} {digit : Nat} (h : octalValue? b = some digit)
    (position : Nat) (rest : List UInt8) :
    escape position (b :: rest) = .ok ([(octal 2 digit rest).1], (octal 2 digit rest).2) := by
  have hline : b ≠ 0x0A := by
    rintro rfl
    cases h
  have hsingle : single? b = none := by
    cases hs : single? b with
    | none => rfl
    | some point =>
      have hletters : ∀ entry ∈ letters, ¬ IsOctal entry.1 := by decide
      refine absurd ?_ (hletters _ (mem_letters hs))
      rw [IsOctal, Utf8.toNat_charOfNat_byte]
      by_contra hrange
      rw [octalValue?, if_neg hrange] at h
      cases h
  simp only [escape, if_neg hline, hsingle, h]

/-- An octal escape stands for the value of its digits. -/
theorem escape_octal {digits rest : List Char} (hne : digits ≠ []) (hlength : digits.length ≤ 3)
    (hdigits : ∀ c ∈ digits, IsOctal c)
    (hend : digits.length = 3 ∨ ∀ c ∈ rest.head?, ¬ IsOctal c) (position : Nat) :
    escape position (encodeChars (digits ++ rest)) =
      .ok ([digitsValue 8 digits], encodeChars rest) := by
  obtain ⟨c, digits, rfl⟩ := List.exists_cons_of_ne_nil hne
  obtain ⟨hc, hmore⟩ := List.forall_mem_cons.1 hdigits
  rw [List.length_cons] at hlength hend
  rw [List.cons_append, Utf8.encodeChars_ascii_cons hc.ascii,
    escape_octalValue (octalValue?_ascii hc),
    octal_encodeChars hmore (by omega) (hend.imp_left (by omega))]
  simp [digitsValue]

theorem escape_hexLetter (kind : HexEscape) (position : Nat) (rest : List Char) :
    escape position (encodeChars (kind.letter :: rest)) =
      match hexDigits kind.count 0 0 (encodeChars rest) with
      | .error read => .error (.escape (.truncated kind) position (2 + read))
      | .ok (value, rest) =>
        if 0x10FFFF < value then
          .error (.escape .illegalCharacter position (2 + kind.count))
        else .ok ([value], rest) := by
  cases kind <;> rfl

/-- A hexadecimal escape stands for the value of its digits, unless that is no code point. -/
theorem escape_hex (kind : HexEscape) {digits : List Char} (hlength : digits.length = kind.count)
    (hdigits : ∀ c ∈ digits, IsHex c) (rest : List Char) (position : Nat) :
    escape position (encodeChars (kind.letter :: (digits ++ rest))) =
      if 0x10FFFF < digitsValue 16 digits then
        .error (.escape .illegalCharacter position (2 + kind.count))
      else .ok ([digitsValue 16 digits], encodeChars rest) := by
  have hread := hexDigits_encodeChars hdigits rest 0 0
  rw [hlength] at hread
  rw [escape_hexLetter, hread]
  rfl

theorem escape_name (position : Nat) (rest : List Char) :
    escape position (encodeChars ('N' :: rest)) = byName position (encodeChars rest) := rfl

theorem ofLetter?_eq_some {b : UInt8} {kind : HexEscape} (h : HexEscape.ofLetter? b = some kind) :
    b = UInt8.ofNat kind.letter.toNat := by
  unfold HexEscape.ofLetter? at h
  iterate 3
    split at h
    · cases h
      assumption
  cases h

/-- An escape that is none stands for itself, with its backslash. -/
theorem escape_unknown {c : Char} (h : ¬ IsKnown c) {b : UInt8} {bytes : List UInt8}
    (hc : encodeChar c = b :: bytes) (position : Nat) (left : List UInt8) :
    escape position (b :: left) = .ok ([0x5C, b.toNat], left) := by
  have hmem : b ∈ encodeChar c := by
    rw [hc]
    exact List.mem_cons_self
  have hne : ∀ d : Char, d.toNat < 0x80 → IsKnown d → b ≠ UInt8.ofNat d.toNat := by
    rintro d hascii hd rfl
    have hsame := (Utf8.ascii_of_mem_encodeChar hmem (by rwa [Utf8.toNat_ofNat_ascii hascii])).1
    rw [Utf8.toNat_ofNat_ascii hascii, Char.ofNat_toNat] at hsame
    exact h (hsame ▸ hd)
  have hline : b ≠ 0x0A := hne '\n' (by decide) (by decide)
  have hname : b ≠ 0x4E := hne 'N' (by decide) (by decide)
  have hsingle : single? b = none := by
    cases hs : single? b with
    | none => rfl
    | some point =>
      have hascii : ∀ entry ∈ letters, entry.1.toNat < 0x80 := by decide
      have hentry := mem_letters hs
      have hother := hne _ (hascii _ hentry) (.inr (.inl (List.mem_map_of_mem hentry)))
      rw [Utf8.toNat_charOfNat_byte, UInt8.ofNat_toNat] at hother
      exact absurd rfl hother
  have hoctal : octalValue? b = none :=
    octalValue?_of_mem_encodeChar (fun ho => h (.inr (.inr (.inl ho)))) hmem
  have hletter : HexEscape.ofLetter? b = none := by
    cases hk : HexEscape.ofLetter? b with
    | none => rfl
    | some kind =>
      exact absurd (ofLetter?_eq_some hk)
        (hne kind.letter (by cases kind <;> decide) (by cases kind <;> decide))
  simp only [escape, if_neg hline, hsingle, hoctal, hletter, if_neg hname]

theorem plain_of_unknown {c : Char} (h : ¬ IsKnown c) {b : UInt8} {bytes : List UInt8}
    (hc : encodeChar c = b :: bytes) : Plain bytes := by
  have hbackslash : c ≠ '\\' := by
    rintro rfl
    exact h (by decide)
  intro d hd
  exact plain_encodeChar hbackslash d (by rw [hc]; exact List.mem_cons_of_mem _ hd)

/-- A name with its braces is taken as a whole. -/
theorem byName_closed {name : List Char} (h : '\x7d' ∉ name) (rest : List Char) (position : Nat) :
    byName position (encodeChars ('\x7b' :: (name ++ '\x7d' :: rest))) =
      if encodeChars name = [] then .error (.escape .malformedName position 3)
      else match Text.named? (byteChars name) with
        | some point => .ok ([point], encodeChars rest)
        | none => .error (.escape .unknownName position (4 + (encodeChars name).length)) := by
  have hname : ∀ b ∈ encodeChars name, (decide (b ≠ 0x7D)) = true := by
    intro b hb
    rw [decide_eq_true_eq]
    rintro rfl
    exact h (Utf8.mem_of_mem_encodeChars hb (by decide))
  have hbytes : encodeChars ('\x7b' :: (name ++ '\x7d' :: rest)) =
      0x7B :: (encodeChars name ++ 0x7D :: encodeChars rest) := by
    simp [encodeChars, encodeChar]
  have htake : (encodeChars name ++ 0x7D :: encodeChars rest).takeWhile (fun b => b ≠ 0x7D) =
      encodeChars name := by
    rw [List.takeWhile_append_of_pos hname]
    simp
  have hlength : (encodeChars name).length ≠
      (encodeChars name ++ 0x7D :: encodeChars rest).length := by simp
  have hdrop : (encodeChars name ++ 0x7D :: encodeChars rest).drop ((encodeChars name).length + 1) =
      encodeChars rest := by simp
  rw [hbytes, byName]
  simp only [htake, if_neg hlength, hdrop]
  rfl

/-- A name without braces is refused. -/
theorem byName_open {rest : List Char} (h : rest.head? ≠ some '\x7b' ∨ '\x7d' ∉ rest)
    (position : Nat) : ∃ fault, byName position (encodeChars rest) = .error fault := by
  unfold byName
  split
  · rename_i left hleft
    rcases h with h | h
    · have hstart : 0x7B :: left = encodeChars rest ++ [] := by rw [hleft, List.append_nil]
      have hhead : ∀ c ∈ rest.head?, c = '\x7b' := Utf8.head_of_encodeChars hstart (by decide)
      cases rest with
      | nil => cases hleft
      | cons c rest => exact absurd (congrArg some (hhead c rfl)) h
    · have hall : ∀ b ∈ left, (decide (b ≠ 0x7D)) = true := by
        intro b hb
        rw [decide_eq_true_eq]
        rintro rfl
        refine h (Utf8.mem_of_mem_encodeChars (b := 0x7D) ?_ (by decide))
        rw [hleft]
        exact List.mem_cons_of_mem _ hb
      have htake : left.takeWhile (fun b => b ≠ 0x7D) = left := by
        rw [List.takeWhile_eq_self_iff]
        exact hall
      simp only [htake, if_true]
      exact ⟨_, rfl⟩
  · exact ⟨_, rfl⟩

/-- An escape of whole characters. -/
theorem Reads.escapeChars (taken : List Char) {rest : List Char} {points more : List Nat}
    (hescape : ∀ position,
      Escape.escape position (encodeChars (taken ++ rest)) = .ok (points, encodeChars rest))
    (h : Reads (encodeChars rest) more) :
    Reads (encodeChars ('\\' :: (taken ++ rest))) (points ++ more) := by
  rw [Utf8.encodeChars_ascii_cons (by decide), Utf8.encodeChars_append]
  exact Reads.escape _ (fun position => by rw [← Utf8.encodeChars_append, hescape]) h

/-- What a spelling denotes is read from its bytes. -/
theorem Denotes.reads {content : List Char} {points : List Nat} (h : Denotes content points) :
    Reads (encodeChars content) points := by
  induction h with
  | nil =>
    intro fuel position _
    cases fuel <;> rfl
  | raw hc _ ih =>
    rw [Utf8.encodeChars_cons]
    exact ih.plain (plain_encodeChar hc)
  | lineEnd _ ih => exact Reads.escapeChars ['\n'] (fun _ => rfl) ih
  | @letter entry rest _ hentry _ ih =>
    exact Reads.escapeChars [entry.1] (fun position => escape_letter hentry position rest) ih
  | octal hne hlength hdigits hend _ ih =>
    exact Reads.escapeChars _ (escape_octal hne hlength hdigits hend) ih
  | @hex kind digits rest _ hlength hdigits hbound _ ih =>
    have hread : ∀ position, escape position (encodeChars (kind.letter :: (digits ++ rest))) =
        .ok ([digitsValue 16 digits], encodeChars rest) := by
      intro position
      rw [escape_hex kind hlength hdigits, if_neg (Nat.not_lt.2 hbound)]
    exact Reads.escapeChars (kind.letter :: digits) hread ih
  | @named name rest point _ hne hbrace hnamed _ ih =>
    have hbytes : encodeChars name ≠ [] := fun hnil => hne (Utf8.encodeChars_injective hnil)
    have hshape : name ++ '\x7d' :: rest = name ++ ['\x7d'] ++ rest := by simp
    have hread : ∀ position,
        Escape.escape position (encodeChars ('N' :: '\x7b' :: (name ++ '\x7d' :: rest))) =
          .ok ([point], encodeChars rest) := by
      intro position
      rw [escape_name, byName_closed hbrace, if_neg hbytes, hnamed]
    rw [hshape] at hread ⊢
    exact Reads.escapeChars ('N' :: '\x7b' :: (name ++ ['\x7d'])) hread ih
  | @unknown c rest _ hc _ ih =>
    obtain ⟨b, bytes, hbytes⟩ := List.exists_cons_of_ne_nil (Utf8.encodeChar_ne_nil c)
    have hplain : Plain bytes := plain_of_unknown hc hbytes
    rw [Utf8.encodeChars_ascii_cons (by decide), Utf8.encodeChars_cons, bytePoints, hbytes]
    exact Reads.escape [b] (fun position => escape_unknown hc hbytes position _)
      (ih.plain hplain)

theorem exists_hexDigits {count read value found : Nat} {rest : List Char} {left : List UInt8}
    (h : hexDigits count read value (encodeChars rest) = .ok (found, left)) :
    ∃ digits rest', rest = digits ++ rest' ∧ digits.length = count ∧ ∀ c ∈ digits, IsHex c := by
  induction count generalizing read value rest with
  | zero => exact ⟨[], rest, rfl, rfl, by simp⟩
  | succ count ih =>
    cases rest with
    | nil => cases h
    | cons c rest =>
      obtain ⟨b, bytes, hbytes⟩ := List.exists_cons_of_ne_nil (Utf8.encodeChar_ne_nil c)
      rw [Utf8.encodeChars_cons, hbytes, List.cons_append, hexDigits] at h
      split at h
      · rename_i digit hdigit
        have hhex : IsHex (Char.ofNat b.toNat) := by rw [IsHex, hdigit, Option.isSome_some]
        have hascii := hhex.ascii
        rw [Utf8.toNat_charOfNat_byte] at hascii
        obtain ⟨rfl, hsingle⟩ :=
          Utf8.ascii_of_mem_encodeChar (c := c) (by rw [hbytes]; exact List.mem_cons_self) hascii
        rw [hsingle] at hbytes
        obtain rfl := (List.cons.inj hbytes).2
        obtain ⟨digits, rest', rfl, hlength, hdigits⟩ := ih h
        exact ⟨_ :: digits, rest', rfl, congrArg (· + 1) hlength,
          List.forall_mem_cons.2 ⟨hhex, hdigits⟩⟩
      · cases h

/-- The digits of an octal escape behind its first. -/
theorem exists_octalDigits (count : Nat) (rest : List Char) :
    ∃ digits rest', rest = digits ++ rest' ∧ digits.length ≤ count ∧ (∀ c ∈ digits, IsOctal c) ∧
      (digits.length = count ∨ ∀ c ∈ rest'.head?, ¬ IsOctal c) := by
  induction count generalizing rest with
  | zero => exact ⟨[], rest, rfl, Nat.le_refl 0, by simp, .inl rfl⟩
  | succ count ih =>
    cases rest with
    | nil => exact ⟨[], [], rfl, Nat.zero_le _, by simp, .inr (by simp)⟩
    | cons c rest =>
      by_cases hc : IsOctal c
      · obtain ⟨digits, rest', rfl, hlength, hdigits, hend⟩ := ih rest
        exact ⟨c :: digits, rest', rfl, Nat.succ_le_succ hlength,
          List.forall_mem_cons.2 ⟨hc, hdigits⟩, hend.imp_left (congrArg (· + 1))⟩
      · exact ⟨[], c :: rest, rfl, Nat.zero_le _, by simp, .inr (by simpa using hc)⟩

theorem exists_name {rest : List Char} {position : Nat} {found : List Nat × List UInt8}
    (h : byName position (encodeChars rest) = .ok found) :
    ∃ name rest', rest = '\x7b' :: (name ++ '\x7d' :: rest') ∧ '\x7d' ∉ name := by
  have hclosed : ¬ (rest.head? ≠ some '\x7b' ∨ '\x7d' ∉ rest) := by
    intro hopen
    obtain ⟨fault, hfault⟩ := byName_open hopen position
    rw [hfault] at h
    cases h
  simp only [not_or, not_not] at hclosed
  obtain ⟨rest, rfl⟩ := List.head?_eq_some_iff.1 hclosed.1
  have hmem : '\x7d' ∈ rest := by simpa using hclosed.2
  obtain ⟨name, rest', rfl, hname⟩ := List.eq_append_cons_of_mem hmem
  exact ⟨name, rest', rfl, hname⟩

/-- An escape that was read has taken whole characters, which stand for its code points. -/
def Takes (rest : List Char) (points : List Nat) (left : List UInt8) : Prop :=
  ∃ taken rest', rest = taken ++ rest' ∧ left = encodeChars rest' ∧
    ∀ {more}, Denotes rest' more → Denotes ('\\' :: rest) (points ++ more)

section

variable {rest : List Char} {position : Nat} {points : List Nat} {left : List UInt8}

/-- An escape that starts with an octal digit takes no more than its digits. -/
theorem takes_octal {c : Char} (hc : IsOctal c)
    (h : escape position (encodeChars (c :: rest)) = .ok (points, left)) :
    Takes (c :: rest) points left := by
  obtain ⟨digits, rest', rfl, hcount, hdigits, hend⟩ := exists_octalDigits 2 rest
  have hne : c :: digits ≠ [] := List.cons_ne_nil _ _
  have hlength : (c :: digits).length ≤ 3 := Nat.succ_le_succ hcount
  have hall : ∀ d ∈ c :: digits, IsOctal d := List.forall_mem_cons.2 ⟨hc, hdigits⟩
  have hstop := hend.imp_left (congrArg (· + 1))
  rw [← List.cons_append, escape_octal hne hlength hall hstop] at h
  obtain ⟨rfl, rfl⟩ := Prod.mk.inj (Except.ok.inj h)
  exact ⟨c :: digits, rest', rfl, rfl, .octal hne hlength hall hstop⟩

theorem takes_hex (kind : HexEscape)
    (h : escape position (encodeChars (kind.letter :: rest)) = .ok (points, left)) :
    Takes (kind.letter :: rest) points left := by
  have hread : ∃ found, hexDigits kind.count 0 0 (encodeChars rest) = .ok found := by
    rw [escape_hexLetter] at h
    split at h
    · cases h
    · exact ⟨_, by assumption⟩
  obtain ⟨⟨value, after⟩, hread⟩ := hread
  obtain ⟨digits, rest', rfl, hcount, hdigits⟩ := exists_hexDigits hread
  rw [escape_hex kind hcount hdigits] at h
  split at h
  · cases h
  · rename_i hbound
    obtain ⟨rfl, rfl⟩ := Prod.mk.inj (Except.ok.inj h)
    exact ⟨kind.letter :: digits, rest', rfl, rfl,
      .hex kind hcount hdigits (Nat.not_lt.1 hbound)⟩

theorem takes_named (h : escape position (encodeChars ('N' :: rest)) = .ok (points, left)) :
    Takes ('N' :: rest) points left := by
  rw [escape_name] at h
  obtain ⟨name, rest', rfl, hbrace⟩ := exists_name h
  rw [byName_closed hbrace] at h
  split at h
  · cases h
  rename_i hne
  split at h
  · rename_i point hnamed
    obtain ⟨rfl, rfl⟩ := Prod.mk.inj (Except.ok.inj h)
    exact ⟨'N' :: '\x7b' :: (name ++ ['\x7d']), rest', by simp, rfl,
      .named (fun e => hne (by rw [e]; rfl)) hbrace hnamed⟩
  · cases h

/-- An escape that is known takes what it spells. -/
theorem takes_known {c : Char} (hc : IsKnown c)
    (h : escape position (encodeChars (c :: rest)) = .ok (points, left)) :
    Takes (c :: rest) points left := by
  rcases hc with rfl | hc | hc | hc
  · obtain ⟨rfl, rfl⟩ := Prod.mk.inj (Except.ok.inj h)
    exact ⟨['\n'], rest, rfl, rfl, .lineEnd⟩
  · obtain ⟨entry, hentry, rfl⟩ := List.mem_map.1 hc
    rw [escape_letter hentry] at h
    obtain ⟨rfl, rfl⟩ := Prod.mk.inj (Except.ok.inj h)
    exact ⟨[entry.1], rest, rfl, rfl, .letter entry hentry⟩
  · exact takes_octal hc h
  · simp only [List.mem_cons, List.not_mem_nil, or_false] at hc
    rcases hc with rfl | rfl | rfl | rfl
    · exact takes_hex .two h
    · exact takes_hex .four h
    · exact takes_hex .eight h
    · exact takes_named h

end

/-- By induction on the length: each piece is told by what stands behind its backslash, and what
follows it is shorter. -/
theorem denotes_of_pointsFrom {content : List Char} {fuel position : Nat} {found : List Nat}
    (hfuel : (encodeChars content).length ≤ fuel)
    (h : pointsFrom fuel position (encodeChars content) = .ok found) : Denotes content found := by
  induction hlength : content.length using Nat.strongRecOn generalizing content fuel position found
  rename_i length ih
  subst hlength
  cases content with
  | nil =>
    obtain rfl : [] = found := by cases fuel <;> exact Except.ok.inj h
    exact .nil
  | cons c rest =>
    by_cases hc : c = '\\'
    · subst hc
      rw [Utf8.encodeChars_ascii_cons (by decide)] at h hfuel
      rw [List.length_cons] at hfuel
      obtain ⟨fuel, rfl⟩ := Nat.exists_eq_add_one_of_ne_zero (show fuel ≠ 0 by omega)
      rw [pointsFrom, if_pos (by decide)] at h
      split at h
      · cases h
      rename_i points left hescape
      obtain ⟨more, hmore, rfl⟩ := map_eq_ok.1 h
      cases rest with
      | nil => cases hescape
      | cons c rest =>
        by_cases hknown : IsKnown c
        · obtain ⟨taken, rest', htaken, rfl, hdenotes⟩ := takes_known hknown hescape
          have hshorter := congrArg List.length htaken
          have hbytes := congrArg (fun s => (encodeChars s).length) htaken
          simp only [Utf8.encodeChars_append, List.length_append] at hshorter hbytes
          exact hdenotes (ih _ (by rw [List.length_cons]; omega) (by omega) hmore rfl)
        · obtain ⟨b, bytes, hb⟩ := List.exists_cons_of_ne_nil (Utf8.encodeChar_ne_nil c)
          rw [Utf8.encodeChars_cons, hb, List.cons_append, escape_unknown hknown hb] at hescape
          obtain ⟨rfl, rfl⟩ := Prod.mk.inj (Except.ok.inj hescape)
          have hbytes : Plain bytes := plain_of_unknown hknown hb
          rw [Utf8.encodeChars_cons, hb, List.cons_append, List.length_cons] at hfuel
          obtain ⟨_, _, more, hfuel', hread, rfl⟩ :=
            pointsFrom_behind_plain hbytes (by omega) hmore
          have hunknown :=
            Denotes.unknown hknown (ih _ (by simp only [List.length_cons]; omega) hfuel' hread rfl)
          rw [bytePoints, hb] at hunknown
          exact hunknown
    · rw [Utf8.encodeChars_cons] at h hfuel
      obtain ⟨_, _, more, hfuel', hread, rfl⟩ :=
        pointsFrom_behind_plain (plain_encodeChar hc) hfuel h
      exact .raw hc (ih _ (Nat.lt_succ_self _) hfuel' hread rfl)

/-- The grammar of literals is the language that is read. -/
theorem denotes_iff {content : List Char} {found : List Nat} :
    Denotes content found ↔ points (encodeChars content) = .ok found :=
  ⟨fun h => h.reads _ 0 (Nat.le_refl _), denotes_of_pointsFrom (Nat.le_refl _)⟩

end Bindery.Legacy.Escape
