import Bindery.Proofs.Json.Numbers
import Bindery.Proofs.Json.Strings
import Bindery.Proofs.Order
import Bindery.Proofs.Outcome
import Bindery.Proofs.Table
/-!
# Reading canonical text

The parser reads a value back from its compact text when the integers are short, no object has a
key twice and the binary64 numbers are read back. What it reads has short integers and distinct
keys in any case, so the conditions are the ones that are needed.
-/
namespace Bindery.Json

open Decimal Outcome

/-- Short integers, distinct keys, and binary64 numbers of a given kind only. -/
inductive Legible (floats : Binary64 → Prop) : Json → Prop where
  | null : Legible floats .null
  | bool (b : Bool) : Legible floats (.bool b)
  | int {n : Int} : IsShort n → Legible floats (.int n)
  | float {x : Binary64} : floats x → Legible floats (.float x)
  | str (s : String) : Legible floats (.str s)
  | arr {elements : List Json} :
      (∀ element ∈ elements, Legible floats element) → Legible floats (.arr elements)
  | obj {members : List (String × Json)} :
      (members.map Prod.fst).Nodup → (∀ member ∈ members, Legible floats member.2) →
      Legible floats (.obj members)

/-- How a value may begin, so that neither a space nor the end of an array is seen there. -/
def StartsValue (c : Char) : Prop := isSpace c = false ∧ c ≠ ']' ∧ c ≠ '\uFEFF'

/-- A value that is read back from its compact text, whatever ends it there. -/
structure Readable (j : Json) : Prop where
  start : ∃ c more, compact escapeChar j = c :: more ∧ StartsValue c
  read : ∀ (rest : List Char) (fuel : Nat), EndsValue rest →
    2 * (compact escapeChar j).length ≤ fuel →
    value fuel (compact escapeChar j ++ rest) = .ok (j, rest)

theorem skipSpace_cons {c : Char} (h : isSpace c = false) (rest : List Char) :
    skipSpace (c :: rest) = c :: rest := by
  simp [skipSpace, h]

/-- No space stands in front of a printed value. -/
theorem skipSpace_compact {j : Json} (h : Readable j) (rest : List Char) :
    skipSpace (compact escapeChar j ++ rest) = compact escapeChar j ++ rest := by
  obtain ⟨c, more, hc, hstart, -⟩ := h.start
  rw [hc, List.cons_append, skipSpace_cons hstart]

theorem compactMoreElements_cons (escape : Char → List Char) (element : Json) (rest : List Json) :
    compactMoreElements escape (element :: rest) =
      ',' :: compactElements escape (element :: rest) := by
  simp [compactMoreElements, compactElements]

theorem compactMoreMembers_cons (escape : Char → List Char) (member : String × Json)
    (rest : List (String × Json)) :
    compactMoreMembers escape (member :: rest) =
      ',' :: compactMembers escape (member :: rest) := by
  simp [compactMoreMembers, compactMembers]

theorem readable_scalar {j : Json} (c : Char) (more : List Char)
    (hc : compact escapeChar j = c :: more) (hstart : StartsValue c)
    (hread : ∀ {rest : List Char} (fuel : Nat), EndsValue rest →
      value (fuel + 1) (c :: (more ++ rest)) = .ok (j, rest)) : Readable j where
  start := ⟨c, more, hc, hstart⟩
  read := by
    intro rest fuel hrest hfuel
    rw [hc] at hfuel ⊢
    obtain ⟨fuel, rfl⟩ := Nat.exists_eq_add_one_of_ne_zero
      (by simp only [List.length_cons] at hfuel; omega : fuel ≠ 0)
    exact hread fuel hrest

theorem readable_null : Readable .null := by
  refine readable_scalar 'n' "ull".toList rfl (by unfold StartsValue; decide) ?_
  intro rest fuel _
  simp [value, word?, words, Text.dropHead?]

theorem readable_bool (b : Bool) : Readable (.bool b) := by
  cases b with
  | true =>
    refine readable_scalar 't' "rue".toList rfl (by unfold StartsValue; decide) ?_
    intro rest fuel _
    simp [value, word?, words, Text.dropHead?]
  | false =>
    refine readable_scalar 'f' "alse".toList rfl (by unfold StartsValue; decide) ?_
    intro rest fuel _
    simp [value, word?, words, Text.dropHead?]

/-- A printed string is read back. -/
theorem readable_str (s : String) : Readable (.str s) := by
  refine readable_scalar '"' (s.toList.flatMap escapeChar ++ ['"']) rfl
    (by unfold StartsValue; decide) ?_
  intro rest fuel _
  simp only [List.append_assoc, List.singleton_append, value, string_flatMap]
  rfl

theorem startsValue_of_isDigit {c : Char} (h : Text.isDigit c = true) : StartsValue c := by
  refine ⟨?_, ?_, ?_⟩
  · have hc : c ≠ ' ' ∧ c ≠ '\t' ∧ c ≠ '\n' ∧ c ≠ '\r' := by
      refine ⟨?_, ?_, ?_, ?_⟩ <;> (rintro rfl; revert h; decide)
    simp [isSpace, hc]
  · rintro rfl
    revert h
    decide
  · rintro rfl
    revert h
    decide

/-- A digit begins none of the values that are spelled by a word. -/
theorem value_digit {c : Char} (h : Text.isDigit c = true) (rest : List Char) (fuel : Nat) :
    value (fuel + 1) (c :: rest) = number (c :: rest) := by
  have hc : c ≠ '"' ∧ c ≠ '\x7b' ∧ c ≠ '[' ∧ 'n' ≠ c ∧ 't' ≠ c ∧ 'f' ≠ c ∧ 'N' ≠ c ∧ 'I' ≠ c ∧
      '-' ≠ c := by
    refine ⟨?_, ?_, ?_, ?_, ?_, ?_, ?_, ?_, ?_⟩ <;> (rintro rfl; revert h; decide)
  have hword : word? (c :: rest) = none := by
    simp [word?, words, Text.dropHead?, hc]
  simp [value, hc, hword]

theorem value_minus {c : Char} (h : Text.isDigit c = true) (rest : List Char) (fuel : Nat) :
    value (fuel + 1) ('-' :: c :: rest) = number ('-' :: c :: rest) := by
  have hc : 'I' ≠ c := by
    rintro rfl
    revert h
    decide
  have hword : word? ('-' :: c :: rest) = none := by
    simp [word?, words, Text.dropHead?, hc]
  simp [value, hword]

/-- A printed integer is read back if it is short. -/
theorem readable_int {n : Int} (h : IsShort n) : Readable (.int n) := by
  cases n with
  | ofNat n =>
    obtain ⟨c, digits, hc⟩ := List.exists_cons_of_ne_nil (Text.ofNat_ne_nil n)
    have hdigit := Text.isDigit_of_ofNat_eq_cons hc
    refine readable_scalar c digits hc (startsValue_of_isDigit hdigit) ?_
    intro rest fuel hrest
    rw [value_digit hdigit, ← List.cons_append, ← hc]
    exact number_ofInt h hrest
  | negSucc n =>
    obtain ⟨c, digits, hc⟩ := List.exists_cons_of_ne_nil (Text.ofNat_ne_nil (n + 1))
    have hdigit := Text.isDigit_of_ofNat_eq_cons hc
    refine readable_scalar '-' (Text.ofNat (n + 1)) rfl (by unfold StartsValue; decide) ?_
    intro rest fuel hrest
    rw [hc, List.cons_append, value_minus hdigit, ← List.cons_append, ← hc]
    exact number_ofInt h hrest

theorem endsValue_cons {c : Char} (h : c = ',' ∨ c = ']' ∨ c = '\x7d') (rest : List Char) :
    EndsValue (c :: rest) := by
  intro d hd
  obtain rfl : c = d := by simpa using hd
  exact h

/-- Printed elements are read back one by one, up to the closing bracket. -/
theorem elements_compactElements (element : Json) (others : List Json)
    (h : ∀ j ∈ element :: others, Readable j) (rest : List Char) {fuel : Nat}
    (hfuel : 2 * (compactElements escapeChar (element :: others)).length + 1 ≤ fuel) :
    elements fuel (compactElements escapeChar (element :: others) ++ ']' :: rest) =
      .ok (element :: others, rest) := by
  induction others generalizing element fuel with
  | nil =>
    obtain ⟨fuel, rfl⟩ := Nat.exists_eq_add_one_of_ne_zero (by omega : fuel ≠ 0)
    have hread := (h element (by simp)).read (']' :: rest) fuel
      (endsValue_cons (by simp) _) (by simp [compactElements, compactMoreElements] at hfuel; omega)
    simp only [compactElements, compactMoreElements, List.append_nil, elements, hread]
    simp [bind, Except.bind, pure, Except.pure, skipSpace_cons (c := ']') (by decide)]
  | cons next others ih =>
    obtain ⟨fuel, rfl⟩ := Nat.exists_eq_add_one_of_ne_zero (by omega : fuel ≠ 0)
    have hnext := h next (by simp)
    rw [show compactElements escapeChar (element :: next :: others) =
      compact escapeChar element ++ ',' :: compactElements escapeChar (next :: others) from by
        rw [← compactMoreElements_cons]; rfl] at hfuel ⊢
    simp only [List.length_append, List.length_cons] at hfuel
    have hread := (h element (by simp)).read
      (',' :: (compactElements escapeChar (next :: others) ++ ']' :: rest)) fuel
      (endsValue_cons (by simp) _) (by omega)
    have hbound : 2 * (compactElements escapeChar (next :: others)).length + 1 ≤ fuel := by omega
    have hmore := ih next (fun j hj => h j (List.mem_cons_of_mem _ hj)) hbound
    have hskip : skipSpace (compactElements escapeChar (next :: others) ++ ']' :: rest) =
        compactElements escapeChar (next :: others) ++ ']' :: rest := by
      rw [compactElements, List.append_assoc, skipSpace_compact hnext]
    rw [List.append_assoc, List.cons_append, elements, hread]
    simp only [bind, Except.bind, pure, Except.pure, skipSpace_cons (c := ',') (by decide), hskip,
      hmore]

/-- One member with a new key, and what stands behind it. -/
theorem members_entry {known : List (String × Json)} {key : String} {j : Json} (hj : Readable j)
    (hnew : key ∉ known.map Prod.fst) (next : Char) (hnext : next = ',' ∨ next = '\x7d')
    (rest : List Char) {fuel : Nat} (hfuel : 2 * (compact escapeChar j).length ≤ fuel) :
    members (fuel + 1) known
        (stringChars escapeChar key ++ ':' :: (compact escapeChar j ++ next :: rest)) =
      if next = '\x7d' then .ok (known ++ [(key, j)], rest)
      else members fuel (known ++ [(key, j)]) (skipSpace rest) := by
  have hread := hj.read (next :: rest) fuel
    (endsValue_cons (by rcases hnext with rfl | rfl <;> simp) _) hfuel
  have hstore : Json.member known key j = known ++ [(key, j)] := Table.storeEntry_of_not_mem hnew j
  have hspace : isSpace next = false := by
    rcases hnext with rfl | rfl <;> decide
  simp only [stringChars, List.cons_append, List.append_assoc, List.nil_append, members,
    string_flatMap]
  simp only [bind, Except.bind, pure, Except.pure, skipSpace_cons (c := ':') (by decide),
    skipSpace_compact hj, hread, skipSpace_cons hspace, hstore]
  rcases hnext with rfl | rfl <;> rfl

/-- Printed members are read back behind those that are known, if no key comes twice. -/
theorem members_compactMembers (known : List (String × Json)) (member : String × Json)
    (others : List (String × Json)) (h : ∀ m ∈ member :: others, Readable m.2)
    (hkeys : ((known ++ member :: others).map Prod.fst).Nodup) (rest : List Char) {fuel : Nat}
    (hfuel : 2 * (compactMembers escapeChar (member :: others)).length + 1 ≤ fuel) :
    members fuel known (compactMembers escapeChar (member :: others) ++ '\x7d' :: rest) =
      .ok (known ++ member :: others, rest) := by
  induction others generalizing member known fuel with
  | nil =>
    obtain ⟨fuel, rfl⟩ := Nat.exists_eq_add_one_of_ne_zero (by omega : fuel ≠ 0)
    obtain ⟨key, j⟩ := member
    have hnew : key ∉ known.map Prod.fst := by
      simp only [List.map_append, List.map_cons, List.map_nil, List.nodup_append] at hkeys
      exact fun hmem => hkeys.2.2 key hmem key (by simp) rfl
    have hj : Readable j := h (key, j) (by simp)
    have hbound : 2 * (compact escapeChar j).length ≤ fuel := by
      simp [compactMembers, compactMoreMembers, stringChars] at hfuel
      omega
    have hentry := members_entry hj hnew '\x7d' (by simp) rest hbound
    simpa [compactMembers, compactMoreMembers] using hentry
  | cons next others ih =>
    obtain ⟨fuel, rfl⟩ := Nat.exists_eq_add_one_of_ne_zero (by omega : fuel ≠ 0)
    obtain ⟨key, j⟩ := member
    have hnew : key ∉ known.map Prod.fst := by
      simp only [List.map_append, List.map_cons, List.nodup_append] at hkeys
      exact fun hmem => hkeys.2.2 key hmem key (by simp) rfl
    have hshape : compactMembers escapeChar ((key, j) :: next :: others) =
        stringChars escapeChar key ++ ':' :: (compact escapeChar j ++
          ',' :: compactMembers escapeChar (next :: others)) := by
      rw [← compactMoreMembers_cons]
      simp [compactMembers]
    rw [hshape] at hfuel ⊢
    simp only [List.length_append, List.length_cons] at hfuel
    have hj : Readable j := h (key, j) (by simp)
    have hbound : 2 * (compact escapeChar j).length ≤ fuel := by omega
    have hentry := members_entry hj hnew ',' (by simp)
      (compactMembers escapeChar (next :: others) ++ '\x7d' :: rest) hbound
    have hlast : 2 * (compactMembers escapeChar (next :: others)).length + 1 ≤ fuel := by omega
    have hmore := ih (known ++ [(key, j)]) next (fun m hm => h m (List.mem_cons_of_mem _ hm))
      (by simpa using hkeys) hlast
    have hskip : skipSpace (compactMembers escapeChar (next :: others) ++ '\x7d' :: rest) =
        compactMembers escapeChar (next :: others) ++ '\x7d' :: rest :=
      skipSpace_cons (by decide) _
    simp only [List.append_assoc, List.cons_append] at hentry ⊢
    rw [hentry, if_neg (by decide), hskip, hmore]
    simp

/-- A list is read back if its elements are. -/
theorem readable_arr {elements : List Json} (h : ∀ j ∈ elements, Readable j) :
    Readable (.arr elements) where
  start := ⟨'[', _, rfl, by unfold StartsValue; decide⟩
  read := by
    intro rest fuel hrest hfuel
    simp only [compact, List.length_cons, List.length_append, List.length_nil] at hfuel
    obtain ⟨fuel, rfl⟩ := Nat.exists_eq_add_one_of_ne_zero (by omega : fuel ≠ 0)
    cases elements with
    | nil =>
      simp [compact, compactElements, value, skipSpace_cons (c := ']') (by decide)]
    | cons element others =>
      have hbound : 2 * (compactElements escapeChar (element :: others)).length + 1 ≤ fuel := by
        omega
      have hread := elements_compactElements element others h rest hbound
      obtain ⟨c, more, hc, hspace, hclose, -⟩ := (h element (by simp)).start
      have hhead : ∃ text, compactElements escapeChar (element :: others) ++ ']' :: rest =
          c :: text := by
        simp [compactElements, hc]
      obtain ⟨text, htext⟩ := hhead
      rw [htext] at hread
      simp only [compact, List.cons_append, List.append_assoc, List.nil_append, htext, value,
        skipSpace_cons hspace]
      simp [hclose, hread, Except.map]

/-- An object is read back whatever follows it. -/
theorem value_obj {members : List (String × Json)} (hkeys : (members.map Prod.fst).Nodup)
    (h : ∀ m ∈ members, Readable m.2) (rest : List Char) {fuel : Nat}
    (hfuel : 2 * (compact escapeChar (.obj members)).length ≤ fuel) :
    value fuel (compact escapeChar (.obj members) ++ rest) = .ok (.obj members, rest) := by
  simp only [compact, List.length_cons, List.length_append, List.length_nil] at hfuel
  obtain ⟨fuel, rfl⟩ := Nat.exists_eq_add_one_of_ne_zero (by omega : fuel ≠ 0)
  cases members with
  | nil =>
    simp [compact, compactMembers, value, skipSpace_cons (c := '\x7d') (by decide)]
  | cons member others =>
    have hbound : 2 * (compactMembers escapeChar (member :: others)).length + 1 ≤ fuel := by
      omega
    have hread := members_compactMembers [] member others h hkeys rest hbound
    have hhead : ∃ text, compactMembers escapeChar (member :: others) ++ '\x7d' :: rest =
        '"' :: text := by
      simp [compactMembers, stringChars]
    obtain ⟨text, htext⟩ := hhead
    rw [htext] at hread
    simp only [compact, List.cons_append, List.append_assoc, List.nil_append, htext, value,
      skipSpace_cons (c := '"') (by decide)]
    simp [hread, Except.map]

/-- An object is read back if its values are and no key comes twice. -/
theorem readable_obj {members : List (String × Json)} (hkeys : (members.map Prod.fst).Nodup)
    (h : ∀ m ∈ members, Readable m.2) : Readable (.obj members) where
  start := ⟨'\x7b', _, rfl, by unfold StartsValue; decide⟩
  read := fun rest _ _ hfuel => value_obj hkeys h rest hfuel

/-- A legible value is read back, as far as its numbers are. -/
theorem Legible.readable {floats : Binary64 → Prop} {j : Json} (h : Legible floats j)
    (hfloats : ∀ x, floats x → Readable (.float x)) : Readable j := by
  induction h with
  | null => exact readable_null
  | bool b => exact readable_bool b
  | int hn => exact readable_int hn
  | float hx => exact hfloats _ hx
  | str s => exact readable_str s
  | arr _ ih => exact readable_arr ih
  | obj hkeys _ ih => exact readable_obj hkeys ih

/-- A whole document, with spaces behind it. -/
theorem parseChars_of_value {j : Json} {rest : List Char} (h : Readable j)
    (hread : value (2 * (compact escapeChar j ++ rest).length + 2) (compact escapeChar j ++ rest) =
      .ok (j, rest)) (hrest : skipSpace rest = []) :
    parseChars (compact escapeChar j ++ rest) = .ok j := by
  obtain ⟨c, more, hc, hspace, -, hmark⟩ := h.start
  have hdocument : document (compact escapeChar j ++ rest) = .ok j := by
    unfold document
    split
    · rename_i e
      rw [hc] at e
      exact absurd (List.cons.inj e).1 hmark
    · rw [skipSpace_compact h, hread]
      simp only [ok_bind, hrest]
      rfl
  simp only [Json.parseChars, hdocument]

/-- A text that is one printed value is read as it. -/
theorem Readable.parseChars {j : Json} (h : Readable j) :
    parseChars (compact escapeChar j) = .ok j := by
  have hread := h.read [] (2 * (compact escapeChar j).length + 2)
    (by intro d hd; simp at hd) (by omega)
  have hparse : Json.parseChars (compact escapeChar j ++ []) = .ok j :=
    parseChars_of_value h (by simpa using hread) rfl
  rwa [List.append_nil] at hparse

/-- A line that holds an object. -/
theorem parseChars_line {members : List (String × Json)} (hkeys : (members.map Prod.fst).Nodup)
    (h : ∀ m ∈ members, Readable m.2) :
    parseChars (compact escapeChar (.obj members) ++ ['\n']) = .ok (.obj members) := by
  refine parseChars_of_value (readable_obj hkeys h) (value_obj hkeys h _ ?_) rfl
  rw [List.length_append]
  omega

/-- A value that the parser can read at all. -/
abbrev IsRead (j : Json) : Prop := Legible (fun _ => True) j

theorem isRead_of_word {s rest : List Char} {j : Json} (h : word? s = some (j, rest)) :
    IsRead j := by
  obtain ⟨entry, hentry, hread⟩ := List.exists_of_findSome?_eq_some h
  obtain ⟨left, -, he⟩ := Option.map_eq_some_iff.1 hread
  obtain rfl : entry.2 = j := (Prod.mk.inj he).1
  simp only [words, List.mem_cons, List.not_mem_nil, or_false] at hentry
  rcases hentry with rfl | rfl | rfl | rfl | rfl | rfl
  · exact .null
  · exact .bool true
  · exact .bool false
  · exact .float trivial
  · exact .float trivial
  · exact .float trivial

theorem isRead_of_number {s rest : List Char} {j : Json} (h : number s = .ok (j, rest)) :
    IsRead j := by
  rcases number_cases h with ⟨n, rfl, hn⟩ | ⟨x, rfl⟩
  · exact .int hn
  · exact .float trivial

/-- The invariant of the members that are read already. -/
structure AreRead (members : List (String × Json)) : Prop where
  nodup : (members.map Prod.fst).Nodup
  isRead : ∀ m ∈ members, IsRead m.2

theorem AreRead.member {known : List (String × Json)} (h : AreRead known) (key : String) {j : Json}
    (hj : IsRead j) : AreRead (Json.member known key j) where
  nodup := nodup_storeEntry key j h.nodup
  isRead m hm := by
    rcases Table.mem_storeEntry hm with hm | hm
    · exact h.isRead m hm
    · rw [hm]
      exact hj

/-- Whatever is read in a document has no key twice. The induction is on the fuel, for values,
elements and members at once. -/
theorem isRead_of_fuel (fuel : Nat) :
    (∀ s j rest, value fuel s = .ok (j, rest) → IsRead j) ∧
    (∀ s js rest, elements fuel s = .ok (js, rest) → ∀ j ∈ js, IsRead j) ∧
    ∀ known s ms rest, AreRead known → members fuel known s = .ok (ms, rest) → AreRead ms := by
  induction fuel with
  | zero => simp [value, elements, members]
  | succ fuel ih =>
    obtain ⟨ihvalue, ihelements, ihmembers⟩ := ih
    refine ⟨fun s j rest h => ?_, fun s js rest h => ?_, fun known s ms rest hknown h => ?_⟩
    · unfold value at h
      split at h
      · obtain ⟨⟨t, left⟩, -, h⟩ := map_eq_ok.1 h
        obtain rfl := (Prod.mk.inj h).1
        exact .str t
      · split at h
        · obtain rfl := (Prod.mk.inj (Except.ok.inj h)).1
          exact .obj List.nodup_nil (by simp)
        · obtain ⟨⟨ms, left⟩, hread, h⟩ := map_eq_ok.1 h
          obtain rfl := (Prod.mk.inj h).1
          have hms := ihmembers [] _ ms left ⟨List.nodup_nil, by simp⟩ hread
          exact .obj hms.nodup hms.isRead
      · split at h
        · obtain rfl := (Prod.mk.inj (Except.ok.inj h)).1
          exact .arr (by simp)
        · obtain ⟨⟨js, left⟩, hread, h⟩ := map_eq_ok.1 h
          obtain rfl := (Prod.mk.inj h).1
          exact .arr (ihelements _ js left hread)
      · split at h
        · rename_i read hword
          obtain rfl := Except.ok.inj h
          exact isRead_of_word hword
        · exact isRead_of_number h
    · unfold elements at h
      obtain ⟨⟨read, left⟩, hread, h⟩ := bind_eq_ok.1 h
      have hfirst := ihvalue _ _ _ hread
      simp only at h
      split at h
      · obtain rfl := (Prod.mk.inj (Except.ok.inj h)).1
        simpa using hfirst
      · obtain ⟨⟨more, left'⟩, hmore, h⟩ := bind_eq_ok.1 h
        obtain rfl := (Prod.mk.inj (Except.ok.inj h)).1
        intro j hj
        rcases List.mem_cons.1 hj with rfl | hj
        · exact hfirst
        · exact ihelements _ _ _ hmore j hj
      · cases h
    · unfold members at h
      split at h
      · obtain ⟨⟨key, left⟩, -, h⟩ := bind_eq_ok.1 h
        simp only at h
        split at h
        · obtain ⟨⟨read, left'⟩, hread, h⟩ := bind_eq_ok.1 h
          have hmember := hknown.member key (ihvalue _ _ _ hread)
          simp only at h
          split at h
          · obtain rfl := (Prod.mk.inj (Except.ok.inj h)).1
            exact hmember
          · exact ihmembers _ _ _ _ hmember h
          · cases h
        · cases h
      · cases h

/-- A document that is read is one value and spaces. -/
theorem value_of_parseChars {text : List Char} {j : Json} (h : parseChars text = .ok j) :
    ∃ fuel rest, value fuel (skipSpace text) = .ok (j, rest) ∧ skipSpace rest = [] := by
  unfold parseChars document at h
  split at h
  · rename_i read hread
    obtain rfl := Except.ok.inj h
    split at hread
    · cases hread
    · obtain ⟨⟨first, left⟩, hvalue, hread⟩ := bind_eq_ok.1 hread
      dsimp only at hread
      split at hread
      · rename_i hrest
        obtain rfl := Except.ok.inj hread
        exact ⟨_, left, hvalue, hrest⟩
      · cases hread
  · cases h

/-- In a document that is read no key comes twice. -/
theorem isRead_of_parseChars {text : List Char} {j : Json} (h : parseChars text = .ok j) :
    IsRead j := by
  obtain ⟨fuel, rest, hvalue, -⟩ := value_of_parseChars h
  exact (isRead_of_fuel fuel).1 _ _ _ hvalue

end Bindery.Json
