import Bindery.Legacy.Scope
import Bindery.Proofs.Legacy.Escapes
import Bindery.Proofs.Legacy.Grammar
/-!
# What string literals denote

A literal denotes the text whose bytes are its code points. A text may be spelled with its
characters as they are and as escapes of their bytes, in any mixture. A literal whose code points
are not the bytes of a text is refused, and so is one with an escape for a number that is no byte,
whatever else is wrong with it.
-/
namespace Bindery.Legacy

open Outcome
open Utf8 (encodeChar encodeChars)

namespace Escape

/-- Characters that a literal cannot hold as they are. -/
def IsSpecial (c : Char) : Prop := c = '\\' ∨ c = '"' ∨ c = '\n'

/-- Bytes as escapes of two digits each, in either case. -/
inductive SpellsBytes : List UInt8 → List Char → Prop where
  | nil : SpellsBytes [] []
  | cons {b : UInt8} {high low : Char} {bytes : List UInt8} {spelling : List Char} :
      Text.hexValue? high = some (b.toNat / 16) → Text.hexValue? low = some (b.toNat % 16) →
      SpellsBytes bytes spelling →
      SpellsBytes (b :: bytes) ('\\' :: 'x' :: high :: low :: spelling)

/-- A text and one of its spellings between quotes. -/
inductive Spells : List Char → List Char → Prop where
  | nil : Spells [] []
  | raw {c : Char} {text content : List Char} : ¬ IsSpecial c → Spells text content →
      Spells (c :: text) (c :: content)
  | bytes {c : Char} {text spelling content : List Char} : ¬ IsSpecial c →
      SpellsBytes (encodeChar c) spelling → Spells text content →
      Spells (c :: text) (spelling ++ content)
  | backslash {text content : List Char} : Spells text content →
      Spells ('\\' :: text) ('\\' :: '\\' :: content)
  | quote {text content : List Char} : Spells text content →
      Spells ('"' :: text) ('\\' :: '"' :: content)
  | newline {text content : List Char} : Spells text content →
      Spells ('\n' :: text) ('\\' :: 'n' :: content)

/-- A spelling of bytes is escaped, whatever stands behind it. -/
theorem SpellsBytes.escaped {bytes : List UInt8} {spelling content : List Char}
    (h : SpellsBytes bytes spelling) (hcontent : Escaped content) :
    Escaped (spelling ++ content) := by
  have hplain : ∀ {c n rest}, Text.hexValue? c = some n → Escaped rest → Escaped (c :: rest) := by
    intro c n rest hc hrest
    refine .plain ?_ ?_ ?_ hrest <;> (rintro rfl; cases hc)
  induction h with
  | nil => exact hcontent
  | cons hhigh hlow _ ih => exact .escape (by decide) (hplain hhigh (hplain hlow ih))

/-- A spelling of a text is the content of a literal. -/
theorem Spells.escaped {text content : List Char} (h : Spells text content) : Escaped content := by
  induction h with
  | nil => exact .nil
  | raw hc _ ih =>
    simp only [IsSpecial, not_or] at hc
    exact .plain hc.2.1 hc.1 hc.2.2 ih
  | bytes _ hbytes _ ih => exact hbytes.escaped ih
  | backslash _ ih => exact .escape (by decide) ih
  | quote _ ih => exact .escape (by decide) ih
  | newline _ ih => exact .escape (by decide) ih

theorem SpellsBytes.denotes {bytes : List UInt8} {spelling content : List Char} {points : List Nat}
    (h : SpellsBytes bytes spelling) (hcontent : Denotes content points) :
    Denotes (spelling ++ content) (bytes.map UInt8.toNat ++ points) := by
  induction h with
  | nil => exact hcontent
  | @cons b high low bytes spelling hhigh hlow _ ih =>
    have hvalue : digitsValue 16 [high, low] = b.toNat := by
      simp only [digitsValue, List.foldl, hhigh, hlow, Option.getD_some]
      omega
    have hdigits : ∀ c ∈ [high, low], IsHex c := by
      simp [IsHex, hhigh, hlow]
    have hbound : digitsValue 16 [high, low] ≤ 0x10FFFF := by
      have := b.toNat_lt
      omega
    have hescape := Denotes.hex .two rfl hdigits hbound ih
    rw [hvalue] at hescape
    exact hescape

/-- A spelling of a text denotes the bytes of the text. -/
theorem Spells.denotes {text content : List Char} (h : Spells text content) :
    Denotes content ((encodeChars text).map UInt8.toNat) := by
  induction h with
  | nil => exact .nil
  | @raw c text _ hc _ ih =>
    rw [Utf8.encodeChars_cons, List.map_append]
    exact .raw (fun e => hc (.inl e)) ih
  | bytes _ hbytes _ ih =>
    rw [Utf8.encodeChars_cons, List.map_append]
    exact hbytes.denotes ih
  | backslash _ ih => exact .letter ('\\', 0x5C) (by decide) ih
  | quote _ ih => exact .letter ('"', 0x22) (by decide) ih
  | newline _ ih => exact .letter ('n', 0x0A) (by decide) ih

/-- A numeric escape above 0xFF stands where escapes are read. In front of it every backslash takes
the next character with it, and a name in braces is passed as a whole. -/
inductive HoldsWide : List Char → Prop where
  | octal {digits rest : List Char} : digits.length = 3 → (∀ c ∈ digits, IsOctal c) →
      0xFF < digitsValue 8 digits → HoldsWide ('\\' :: (digits ++ rest))
  | hex (kind : HexEscape) {digits rest : List Char} : digits.length = kind.count →
      (∀ c ∈ digits, IsHex c) → 0xFF < digitsValue 16 digits →
      HoldsWide ('\\' :: kind.letter :: (digits ++ rest))
  | raw {c : Char} {rest : List Char} : c ≠ '\\' → HoldsWide rest → HoldsWide (c :: rest)
  | pair {c : Char} {rest : List Char} : c ≠ 'N' → HoldsWide rest → HoldsWide ('\\' :: c :: rest)
  | named {name rest : List Char} : '\x7d' ∉ name → HoldsWide rest →
      HoldsWide ('\\' :: 'N' :: '\x7b' :: (name ++ '\x7d' :: rest))
  | unnamed {rest : List Char} : rest.head? ≠ some '\x7b' ∨ '\x7d' ∉ rest → HoldsWide rest →
      HoldsWide ('\\' :: 'N' :: rest)

/-- Whatever is read from the bytes is not all bytes. -/
def Widens (bytes : List UInt8) : Prop :=
  ∀ fuel position points, bytes.length ≤ fuel → pointsFrom fuel position bytes = .ok points →
    ∃ point ∈ points, 0xFF < point

/-- The same from each place up to the first backslash. An escape may take some of the bytes behind
it, but no backslash. -/
def Ahead (bytes : List UInt8) : Prop :=
  ∀ passed left, bytes = passed ++ left → Plain passed → Widens left

theorem Ahead.widens {bytes : List UInt8} (h : Ahead bytes) : Widens bytes :=
  h [] bytes rfl (by simp [Plain])

theorem Widens.plain {bytes left : List UInt8} (hbytes : Plain bytes) (h : Widens left) :
    Widens (bytes ++ left) := by
  intro fuel position points hfuel hread
  obtain ⟨_, _, more, hfuel', hmore, rfl⟩ := pointsFrom_behind_plain hbytes hfuel hread
  obtain ⟨point, hpoint, hwide⟩ := h _ _ more hfuel' hmore
  exact ⟨point, List.mem_append_right _ hpoint, hwide⟩

theorem Ahead.plain {bytes left : List UInt8} (hbytes : Plain bytes) (h : Ahead left) :
    Ahead (bytes ++ left) := by
  intro passed rest heq hpassed
  rcases List.append_eq_append_iff.1 heq with ⟨more, rfl, hleft⟩ | ⟨more, rfl, rfl⟩
  · exact h more rest hleft fun b hb => hpassed b (List.mem_append_right _ hb)
  · exact h.widens.plain fun b hb => hbytes b (List.mem_append_right _ hb)

theorem Widens.ahead {rest : List UInt8} (h : Widens (0x5C :: rest)) : Ahead (0x5C :: rest) := by
  intro passed left heq hpassed
  cases passed with
  | nil =>
    rw [List.nil_append] at heq
    exact heq ▸ h
  | cons b passed => exact absurd (List.cons.inj heq).1.symm (hpassed b List.mem_cons_self)

/-- An escape that is read is wide itself or leaves what is. -/
theorem widens_escape {rest : List UInt8}
    (h : ∀ position points left, escape position rest = .ok (points, left) →
      (∃ point ∈ points, 0xFF < point) ∨ left.length ≤ rest.length ∧ Widens left) :
    Widens (0x5C :: rest) := by
  intro fuel position points hfuel hread
  rw [List.length_cons] at hfuel
  obtain ⟨fuel, rfl⟩ := Nat.exists_eq_add_one_of_ne_zero (show fuel ≠ 0 by omega)
  rw [pointsFrom, if_pos rfl] at hread
  split at hread
  · cases hread
  · rename_i first left hescape
    obtain ⟨more, hmore, rfl⟩ := map_eq_ok.1 hread
    rcases h _ _ _ hescape with ⟨point, hpoint, hwide⟩ | ⟨hleft, hwide⟩
    · exact ⟨point, List.mem_append_left _ hpoint, hwide⟩
    · obtain ⟨point, hpoint, hwide⟩ := hwide fuel _ more (by omega) hmore
      exact ⟨point, List.mem_append_right _ hpoint, hwide⟩

/-- An octal escape passes plain bytes only. -/
theorem octal_passes {count value : Nat} {rest : List UInt8} :
    ∃ passed, rest = passed ++ (octal count value rest).2 ∧ Plain passed := by
  fun_induction octal count value rest with
  | case1 => exact ⟨[], rfl, by simp [Plain]⟩
  | case2 => exact ⟨[], rfl, by simp [Plain]⟩
  | case3 count value b rest digit hdigit ih =>
    obtain ⟨passed, hpassed, hplain⟩ := ih
    have hb : b ≠ 0x5C := by
      rintro rfl
      cases hdigit
    exact ⟨b :: passed, congrArg (b :: ·) hpassed, List.forall_mem_cons.2 ⟨hb, hplain⟩⟩
  | case4 => exact ⟨[], rfl, by simp [Plain]⟩

theorem hexDigits_passes {count read value found : Nat} {rest left : List UInt8}
    (h : hexDigits count read value rest = .ok (found, left)) :
    ∃ passed, rest = passed ++ left ∧ Plain passed := by
  fun_induction hexDigits count read value rest with
  | case1 =>
    obtain ⟨-, rfl⟩ := Prod.mk.inj (Except.ok.inj h)
    exact ⟨[], rfl, by simp [Plain]⟩
  | case2 => cases h
  | case3 count read value b rest digit hdigit ih =>
    obtain ⟨passed, rfl, hplain⟩ := ih h
    have hb : b ≠ 0x5C := by
      rintro rfl
      cases hdigit
    exact ⟨b :: passed, rfl, List.forall_mem_cons.2 ⟨hb, hplain⟩⟩
  | case4 => cases h

/-- An escape other than by name takes the byte behind the backslash, and from then on no
backslash. -/
theorem escape_passes {b : UInt8} (hb : b ≠ 0x4E) {position : Nat} {rest left : List UInt8}
    {points : List Nat} (h : escape position (b :: rest) = .ok (points, left)) :
    ∃ passed, rest = passed ++ left ∧ Plain passed := by
  have hnone : rest = left → ∃ passed, rest = passed ++ left ∧ Plain passed :=
    fun e => ⟨[], e, by simp [Plain]⟩
  simp only [escape] at h
  split at h
  · exact hnone (Prod.mk.inj (Except.ok.inj h)).2
  split at h
  · exact hnone (Prod.mk.inj (Except.ok.inj h)).2
  split at h
  · obtain ⟨-, rfl⟩ := Prod.mk.inj (Except.ok.inj h)
    exact octal_passes
  split at h
  · split at h
    · cases h
    · rename_i hread
      split at h
      · cases h
      · obtain ⟨-, rfl⟩ := Prod.mk.inj (Except.ok.inj h)
        exact hexDigits_passes hread
  exact hnone (Prod.mk.inj (Except.ok.inj h)).2

/-- By induction on the way to the wide escape. What an escape takes may reach into the next piece,
but a wide escape begins with a backslash and so stays ahead. -/
theorem HoldsWide.ahead {content : List Char} (h : HoldsWide content) :
    Ahead (encodeChars content) := by
  have hbackslash : ∀ {rest : List Char}, Widens (0x5C :: encodeChars rest) →
      Ahead (encodeChars ('\\' :: rest)) := by
    intro rest h
    rw [Utf8.encodeChars_ascii_cons (by decide)]
    exact h.ahead
  induction h with
  | @octal digits rest hlength hdigits hwide =>
    refine hbackslash (widens_escape fun position points left hescape => .inl ?_)
    have hne : digits ≠ [] := by
      rintro rfl
      cases hlength
    rw [escape_octal hne (Nat.le_of_eq hlength) hdigits (.inl hlength)] at hescape
    obtain ⟨rfl, -⟩ := Prod.mk.inj (Except.ok.inj hescape)
    exact ⟨_, List.mem_cons_self, hwide⟩
  | hex kind hlength hdigits hwide =>
    refine hbackslash (widens_escape fun position points left hescape => .inl ?_)
    rw [escape_hex kind hlength hdigits] at hescape
    split at hescape
    · cases hescape
    · obtain ⟨rfl, -⟩ := Prod.mk.inj (Except.ok.inj hescape)
      exact ⟨_, List.mem_cons_self, hwide⟩
  | raw hc _ ih =>
    rw [Utf8.encodeChars_cons]
    exact ih.plain (plain_encodeChar hc)
  | @pair c rest hc _ ih =>
    refine hbackslash (widens_escape fun position points left hescape => .inr ?_)
    obtain ⟨b, bytes, hbytes⟩ := List.exists_cons_of_ne_nil (Utf8.encodeChar_ne_nil c)
    have hb : b ≠ 0x4E := by
      rintro rfl
      exact hc (Utf8.ascii_of_mem_encodeChar (b := 0x4E) (by simp [hbytes]) (by decide)).1
    rw [Utf8.encodeChars_cons, hbytes, List.cons_append] at hescape ⊢
    obtain ⟨passed, hpassed, hplain⟩ := escape_passes hb hescape
    have hahead : Ahead (bytes ++ encodeChars rest) := by
      by_cases hslash : c = '\\'
      · obtain rfl : bytes = [] := by
          rw [hslash] at hbytes
          exact (List.cons.inj hbytes).2.symm
        exact ih
      · exact ih.plain fun d hd =>
          plain_encodeChar hslash d (by rw [hbytes]; exact List.mem_cons_of_mem _ hd)
    refine ⟨?_, hahead passed left hpassed hplain⟩
    rw [hpassed, List.length_cons, List.length_append]
    omega
  | @named name rest hbrace _ ih =>
    refine hbackslash (widens_escape fun position points left hescape => .inr ?_)
    rw [escape_name, byName_closed hbrace] at hescape
    split at hescape
    · cases hescape
    split at hescape
    · obtain ⟨-, rfl⟩ := Prod.mk.inj (Except.ok.inj hescape)
      refine ⟨?_, ih.widens⟩
      simp only [Utf8.encodeChars_cons, Utf8.encodeChars_append, List.length_append]
      omega
    · cases hescape
  | @unnamed rest hopen _ _ =>
    refine hbackslash (widens_escape fun position points left hescape => ?_)
    rw [escape_name] at hescape
    obtain ⟨fault, hfault⟩ := byName_open hopen position
    rw [hfault] at hescape
    cases hescape

/-- Code points are narrowed to bytes exactly if each of them is one. -/
theorem narrowFrom_eq_ok {position : Nat} {points : List Nat} {bytes : List UInt8} :
    narrowFrom position points = .ok bytes ↔ points = bytes.map UInt8.toNat := by
  induction points generalizing position bytes with
  | nil =>
    cases bytes <;> simp [narrowFrom]
  | cons point points ih =>
    rw [narrowFrom]
    split
    · rename_i hpoint
      rw [map_eq_ok]
      constructor
      · rintro ⟨more, hmore, rfl⟩
        rw [List.map_cons, ← ih.1 hmore, Utf8.toNat_ofNat hpoint]
      · intro h
        obtain ⟨b, more, rfl, rfl, hmore⟩ := List.map_eq_cons_iff.1 h.symm
        exact ⟨more, ih.2 hmore.symm, by rw [UInt8.ofNat_toNat]⟩
    · rename_i hpoint
      refine ⟨fun h => (nomatch h), fun h => ?_⟩
      obtain ⟨b, more, rfl, rfl, hmore⟩ := List.map_eq_cons_iff.1 h.symm
      exact absurd b.toNat_lt hpoint

/-- The text of a literal is the one whose bytes are its code points. -/
theorem decode_eq_ok {content : List Char} {text : String} :
    decode content = .ok text ↔
      points (encodeChars content) = .ok ((Utf8.encode text).map UInt8.toNat) := by
  unfold decode
  constructor
  · intro h
    obtain ⟨found, hfound, h⟩ := bind_eq_ok.1 h
    obtain ⟨bytes, hbytes, h⟩ := bind_eq_ok.1 h
    split at h
    · rename_i read hread
      obtain rfl := Except.ok.inj h
      obtain ⟨chars, hchars, rfl⟩ := map_eq_ok.1 hread
      rw [hfound, narrowFrom_eq_ok.1 hbytes, Utf8.decodeChars_eq_ok.1 hchars, Utf8.encode,
        String.toList_ofList]
    · cases h
  · intro h
    rw [h, ok_bind, narrowFrom_eq_ok.2 rfl, ok_bind, Utf8.decode, Utf8.encode,
      Utf8.decodeChars_encodeChars, map_ok, String.ofList_toList]
    rfl

end Escape

/-- A literal is refused with an error about a legacy file that tells its place. -/
def RefusesLiteral (library : String) (l : Literal) : Prop :=
  ∃ fault d, decodeLiteral l = .error fault ∧ fault.report library = .ok d ∧
    d.reason = .legacySyntax ∧ d.line = some (l.mark.line : Int) ∧
    d.column = some (l.mark.column : Int)

open Escape

/-- A literal is decoded as a text exactly if it denotes the bytes of the text. -/
theorem decodeLiteral_eq_ok {l : Literal} {text : String} :
    decodeLiteral l = .ok text ↔ Denotes l.content ((Utf8.encode text).map UInt8.toNat) := by
  rw [decodeLiteral, mapError_eq_ok, decode_eq_ok, denotes_iff]

/-- A literal that is not decoded is refused with a report. -/
theorem refusesLiteral_of_not_ok (library : String) {l : Literal}
    (h : ∀ text, decodeLiteral l ≠ .ok text) : RefusesLiteral library l := by
  rw [RefusesLiteral]
  unfold decodeLiteral at h ⊢
  cases hdecode : Escape.decode l.content with
  | ok text => exact absurd (by rw [hdecode]; rfl) (h text)
  | error fault => exact ⟨.badEscape fault l.mark, _, rfl, rfl, rfl, rfl, rfl⟩

theorem Escape.Denotes.unique {content : List Char} {found found' : List Nat}
    (h : Denotes content found) (h' : Denotes content found') : found = found' :=
  Except.ok.inj ((denotes_iff.1 h).symm.trans (denotes_iff.1 h'))

/-- A literal with a code point that is no byte is refused. -/
theorem refusesLiteral_of_holdsWide (library : String) {l : Literal} (h : HoldsWide l.content) :
    RefusesLiteral library l := by
  refine refusesLiteral_of_not_ok library fun text htext => ?_
  have hread := denotes_iff.1 (decodeLiteral_eq_ok.1 htext)
  obtain ⟨point, hpoint, hwide⟩ := h.ahead.widens _ 0 _ (Nat.le_refl _) hread
  obtain ⟨b, -, rfl⟩ := List.mem_map.1 hpoint
  have := b.toNat_lt
  omega

/-- Every spelling of a text between quotes is one literal and denotes that text. A literal whose
code points are not the bytes of a text is refused, and so is one with an escape above 0xFF. -/
theorem literals_denote (library : String) (l : Literal) :
    (∀ text : String, Spells text.toList l.content →
      Escaped l.content ∧ decodeLiteral l = .ok text) ∧
    (∀ found, Denotes l.content found →
      (∀ text : String, found ≠ (Utf8.encode text).map UInt8.toNat) → RefusesLiteral library l) ∧
    (HoldsWide l.content → RefusesLiteral library l) := by
  refine ⟨fun text h => ⟨h.escaped, decodeLiteral_eq_ok.2 h.denotes⟩, fun found hfound hno => ?_,
    refusesLiteral_of_holdsWide library⟩
  refine refusesLiteral_of_not_ok library fun text htext => hno text ?_
  exact hfound.unique (decodeLiteral_eq_ok.1 htext)

theorem literals_denote_mixed :
    decodeLiteral ⟨"é\\xC3\\xa9\\\"".toList, {}⟩ = .ok "éé\"" ∧
      RefusesLiteral "a" ⟨"\\xe9".toList, {}⟩ ∧
      RefusesLiteral "a" ⟨"\\x\\u0100".toList, {}⟩ := by
  have hplain : ¬ IsSpecial 'é' := by
    unfold IsSpecial
    decide
  have hbytes : SpellsBytes (encodeChar 'é') "\\xC3\\xa9".toList :=
    .cons rfl rfl (.cons rfl rfl .nil)
  have hspells : Spells "éé\"".toList "é\\xC3\\xa9\\\"".toList :=
    .raw hplain (.bytes hplain hbytes (.quote .nil))
  have hdigits : ∀ c ∈ ['e', '9'], IsHex c := by
    simp [IsHex, Text.hexValue?]
  have hdenotes : Denotes "\\xe9".toList [0xE9] := .hex .two rfl hdigits (by decide) .nil
  have hno : ∀ text : String, [0xE9] ≠ (Utf8.encode text).map UInt8.toNat := by
    intro text h
    have hbyte : Utf8.encode text = [0xE9] :=
      List.map_injective_iff.2 (fun _ _ => UInt8.toNat_inj.1) h.symm
    have hread : Utf8.decodeChars [0xE9] = .ok text.toList := Utf8.decodeChars_eq_ok.2 hbyte.symm
    cases hread
  have hzeros : ∀ c ∈ ['0', '1', '0', '0'], IsHex c := by
    simp [IsHex, Text.hexValue?]
  have hwide : HoldsWide "\\x\\u0100".toList :=
    .pair (by decide) (.hex .four rfl hzeros (by decide))
  exact ⟨((literals_denote "a" _).1 _ hspells).2, (literals_denote "a" _).2.1 _ hdenotes hno,
    (literals_denote "a" _).2.2 hwide⟩

end Bindery.Legacy
