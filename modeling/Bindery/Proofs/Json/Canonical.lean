import Bindery.Proofs.Json.Writable
import Bindery.Proofs.Text.Utf8
/-!
# One canonical text for each value

The canonical layout tells where a value ends, so two values without binary64 numbers have one text
only if they differ in nothing but the order of members. Writer and reader refuse integers of more
than `maxDigits` digits, and so whatever is written is read back.
-/
namespace Bindery.Json

/-- No binary64 numbers, and no object with a key twice. -/
inductive Exact : Json → Prop where
  | null : Exact .null
  | bool (b : Bool) : Exact (.bool b)
  | int (n : Int) : Exact (.int n)
  | str (s : String) : Exact (.str s)
  | arr {elements : List Json} : (∀ element ∈ elements, Exact element) → Exact (.arr elements)
  | obj {members : List (String × Json)} : (members.map Prod.fst).Nodup →
      (∀ member ∈ members, Exact member.2) → Exact (.obj members)

/-- Values that differ at most in the order of members. -/
inductive Same : Json → Json → Prop where
  | null : Same .null .null
  | bool (b : Bool) : Same (.bool b) (.bool b)
  | int (n : Int) : Same (.int n) (.int n)
  | float (x : Decimal.Binary64) : Same (.float x) (.float x)
  | str (s : String) : Same (.str s) (.str s)
  | arr {elements elements' : List Json} : elements.length = elements'.length →
      (∀ entry ∈ elements.zip elements', Same entry.1 entry.2) →
      Same (.arr elements) (.arr elements')
  | obj {members members' : List (String × Json)} :
      (∀ key, (member? members key).isSome = (member? members' key).isSome) →
      (∀ key j j', member? members key = some j → member? members' key = some j' → Same j j') →
      Same (.obj members) (.obj members')

/-- The bytes are the text of a value that is the same. -/
def ReadsAs (bytes : List UInt8) (j : Json) : Prop :=
  ∃ text read, Utf8.decode bytes = .ok text ∧ parse text = .ok read ∧ Same read j

section

variable {α : Type} {entry : α → List Char} {P : α → Prop} {closer : Char}

/-- The text of `a` is told from what ends it and from the texts of the others. -/
def Ends (entry : α → List Char) (P : α → Prop) (a : α) : Prop :=
  ∀ {b rest rest'}, P b → EndsValue rest → EndsValue rest' →
    entry a ++ rest = entry b ++ rest' → a = b ∧ rest = rest'

/-- The entries of an array or an object behind the first one. -/
def trail (entry : α → List Char) : List α → List Char
  | [] => []
  | a :: more => ',' :: entry a ++ trail entry more

def listed (entry : α → List Char) : List α → List Char
  | [] => []
  | a :: more => entry a ++ trail entry more

theorem endsValue_trail (hcloser : closer = ']' ∨ closer = '\x7d') (as : List α)
    (rest : List Char) : EndsValue (trail entry as ++ closer :: rest) := by
  cases as with
  | nil => exact endsValue_cons (.inr hcloser) rest
  | cons a as => exact endsValue_cons (.inl rfl) _

/-- The entries behind the first are told apart, and so is what follows the closing bracket. -/
theorem trail_inj (hcloser : closer = ']' ∨ closer = '\x7d') {as bs : List α}
    {rest rest' : List Char} (has : ∀ a ∈ as, Ends entry P a) (hbs : ∀ b ∈ bs, P b)
    (h : trail entry as ++ closer :: rest = trail entry bs ++ closer :: rest') :
    as = bs ∧ rest = rest' := by
  have hcomma : closer ≠ ',' := by
    rcases hcloser with rfl | rfl <;> decide
  induction as generalizing bs with
  | nil =>
    cases bs with
    | nil => exact ⟨rfl, (List.cons.inj h).2⟩
    | cons b bs => exact absurd (List.cons.inj h).1 hcomma
  | cons a as ih =>
    cases bs with
    | nil => exact absurd (List.cons.inj h).1 hcomma.symm
    | cons b bs =>
      obtain ⟨ha, has'⟩ := List.forall_mem_cons.1 has
      obtain ⟨hb, hbs'⟩ := List.forall_mem_cons.1 hbs
      simp only [trail, List.cons_append, List.append_assoc, List.cons.injEq, true_and] at h
      obtain ⟨rfl, hmore⟩ :=
        ha hb (endsValue_trail hcloser as rest) (endsValue_trail hcloser bs rest') h
      obtain ⟨hlist, hrest⟩ := ih has' hbs' hmore
      exact ⟨by rw [hlist], hrest⟩

/-- No entry begins like the end of the list, so a list with none is told from the others. -/
theorem listed_inj (hcloser : closer = ']' ∨ closer = '\x7d')
    (hstart : ∀ a, P a → ∃ c more, entry a = c :: more ∧ c ≠ closer) {as bs : List α}
    {rest rest' : List Char} (has : ∀ a ∈ as, P a ∧ Ends entry P a) (hbs : ∀ b ∈ bs, P b)
    (h : listed entry as ++ closer :: rest = listed entry bs ++ closer :: rest') :
    as = bs ∧ rest = rest' := by
  cases as with
  | nil =>
    cases bs with
    | nil => exact ⟨rfl, (List.cons.inj h).2⟩
    | cons b bs =>
      obtain ⟨c, more, hc, hne⟩ := hstart b (hbs b List.mem_cons_self)
      rw [listed, listed, hc] at h
      exact absurd (List.cons.inj h).1.symm hne
  | cons a as =>
    obtain ⟨⟨ha, hends⟩, has'⟩ := List.forall_mem_cons.1 has
    cases bs with
    | nil =>
      obtain ⟨c, more, hc, hne⟩ := hstart a ha
      rw [listed, listed, hc] at h
      exact absurd (List.cons.inj h).1 hne
    | cons b bs =>
      obtain ⟨hb, hbs'⟩ := List.forall_mem_cons.1 hbs
      simp only [listed, List.append_assoc] at h
      obtain ⟨rfl, hmore⟩ :=
        hends hb (endsValue_trail hcloser as rest) (endsValue_trail hcloser bs rest') h
      obtain ⟨hlist, hrest⟩ := trail_inj hcloser (fun a ha => (has' a ha).2) hbs' hmore
      exact ⟨by rw [hlist], hrest⟩

end

/-- A member of an object as it is written. -/
def entryChars (member : String × Json) : List Char :=
  stringChars escapeChar member.1 ++ ':' :: compact escapeChar member.2

theorem compactElements_eq_listed (elements : List Json) :
    compactElements escapeChar elements = listed (compact escapeChar) elements := by
  have htrail : ∀ elements, compactMoreElements escapeChar elements =
      trail (compact escapeChar) elements := by
    intro elements
    induction elements with
    | nil => rfl
    | cons element more ih => rw [compactMoreElements, trail, ih]
  cases elements with
  | nil => rfl
  | cons element more => rw [compactElements, listed, htrail]

theorem compactMembers_eq_listed (members : List (String × Json)) :
    compactMembers escapeChar members = listed entryChars members := by
  have htrail : ∀ members, compactMoreMembers escapeChar members = trail entryChars members := by
    intro members
    induction members with
    | nil => rfl
    | cons member more ih => simp [compactMoreMembers, trail, entryChars, ih]
  cases members with
  | nil => rfl
  | cons member more => simp [compactMembers, listed, entryChars, htrail]

theorem compact_arr (elements : List Json) :
    compact escapeChar (.arr elements) = '[' :: listed (compact escapeChar) elements ++ [']'] := by
  rw [compact, compactElements_eq_listed]

theorem compact_obj (members : List (String × Json)) :
    compact escapeChar (.obj members) = '\x7b' :: listed entryChars members ++ ['\x7d'] := by
  rw [compact, compactMembers_eq_listed]

/-- What the first character of a value tells about it. -/
inductive Lead where
  | word | number | string | array | object
  deriving DecidableEq

def leadOf : Json → Lead
  | .null => .word
  | .bool _ => .word
  | .int _ => .number
  | .float _ => .number
  | .str _ => .string
  | .arr _ => .array
  | .obj _ => .object

/-- No value begins with a bracket that closes. -/
def leadOfFirst (c : Char) : Option Lead :=
  if c = ']' ∨ c = '\x7d' then none
  else if c = '"' then some .string
  else if c = '[' then some .array
  else if c = '\x7b' then some .object
  else if c = '-' ∨ Text.isDigit c = true then some .number
  else some .word

theorem leadOfFirst_of_isDigit {c : Char} (h : Text.isDigit c = true) :
    leadOfFirst c = some .number := by
  have hc : c ≠ ']' ∧ c ≠ '\x7d' ∧ c ≠ '"' ∧ c ≠ '[' ∧ c ≠ '\x7b' := by
    refine ⟨?_, ?_, ?_, ?_, ?_⟩ <;> (rintro rfl; revert h; decide)
  simp [leadOfFirst, hc, h]

/-- The first character of a value tells what kind of value it is. -/
theorem Exact.start {j : Json} (h : Exact j) :
    ∃ c more, compact escapeChar j = c :: more ∧ leadOfFirst c = some (leadOf j) := by
  cases h with
  | null => exact ⟨'n', _, rfl, by decide⟩
  | bool b =>
    cases b with
    | true => exact ⟨'t', _, rfl, by decide⟩
    | false => exact ⟨'f', _, rfl, by decide⟩
  | int n =>
    cases n with
    | ofNat n =>
      obtain ⟨c, digits, hc⟩ := List.exists_cons_of_ne_nil (Text.ofNat_ne_nil n)
      exact ⟨c, digits, hc, leadOfFirst_of_isDigit (Text.isDigit_of_ofNat_eq_cons hc)⟩
    | negSucc n => exact ⟨'-', Text.ofNat (n + 1), rfl, rfl⟩
  | str s => exact ⟨'"', _, rfl, rfl⟩
  | arr _ => exact ⟨'[', _, rfl, rfl⟩
  | obj _ _ => exact ⟨'\x7b', _, rfl, rfl⟩

/-- Values that are printed alike are of one kind. -/
theorem leadOf_eq {x y : Json} (hx : Exact x) (hy : Exact y) {rest rest' : List Char}
    (h : compact escapeChar x ++ rest = compact escapeChar y ++ rest') : leadOf x = leadOf y := by
  obtain ⟨c, more, hc, hlead⟩ := hx.start
  obtain ⟨c', more', hc', hlead'⟩ := hy.start
  rw [hc, hc'] at h
  obtain rfl := (List.cons.inj h).1
  exact Option.some.inj (hlead.symm.trans hlead')

/-- A printed integer says where it ends. -/
theorem ofInt_append_inj {m n : Int} {rest rest' : List Char} (hrest : EndsValue rest)
    (hrest' : EndsValue rest') (h : Text.ofInt m ++ rest = Text.ofInt n ++ rest') :
    m = n ∧ rest = rest' := by
  let ofNumber (c : Char) : Bool := c = '-' || Text.isDigit c
  have hall : ∀ n, ∀ c ∈ Text.ofInt n, ofNumber c = true := by
    intro n c hc
    cases n with
    | ofNat n => simp [ofNumber, Text.isDigit_of_mem_ofNat hc]
    | negSucc n =>
      rcases List.mem_cons.1 hc with rfl | hc
      · simp [ofNumber]
      · simp [ofNumber, Text.isDigit_of_mem_ofNat hc]
  have hend : ∀ {rest}, EndsValue rest → ∀ c ∈ rest.head?, ofNumber c = false := by
    intro rest hrest c hc
    rcases hrest c hc with rfl | rfl | rfl <;> decide
  obtain ⟨htake, hdrop⟩ := Text.takeWhile_stretch (hall m) (hend hrest)
  obtain ⟨htake', hdrop'⟩ := Text.takeWhile_stretch (hall n) (hend hrest')
  rw [h] at htake hdrop
  exact ⟨Text.ofInt_injective (htake.symm.trans htake'), hdrop.symm.trans hdrop'⟩

/-- A printed string says where it ends. -/
theorem stringChars_append_inj {s t : String} {rest rest' : List Char}
    (h : stringChars escapeChar s ++ rest = stringChars escapeChar t ++ rest') :
    s = t ∧ rest = rest' := by
  simp only [stringChars, List.cons_append, List.append_assoc, List.nil_append] at h
  have hread := congrArg string (List.cons.inj h).2
  rw [string_flatMap, string_flatMap] at hread
  exact Prod.mk.inj (Except.ok.inj hread)

/-- A member ends where its value ends. -/
theorem ends_entryChars {member : String × Json}
    (h : Ends (compact escapeChar) Exact member.2) :
    Ends entryChars (fun member => Exact member.2) member := by
  intro other rest rest' hother hrest hrest' heq
  simp only [entryChars, List.append_assoc] at heq
  obtain ⟨hkey, heq⟩ := stringChars_append_inj heq
  obtain ⟨hvalue, heq⟩ := h hother hrest hrest' (List.cons.inj heq).2
  exact ⟨Prod.ext hkey hvalue, heq⟩

theorem ends_compact {x : Json} (hx : Exact x) : Ends (compact escapeChar) Exact x := by
  induction hx with
  | null =>
    intro y rest rest' hy _ _ h
    have hlead := leadOf_eq .null hy h
    cases hy with
    | null => exact ⟨rfl, List.append_cancel_left h⟩
    | bool b => cases b <;> simp [compact, boolChars] at h
    | _ => cases hlead
  | bool b =>
    intro y rest rest' hy _ _ h
    have hlead := leadOf_eq (.bool b) hy h
    cases hy with
    | null => cases b <;> simp [compact, boolChars] at h
    | bool b' => cases b <;> cases b' <;> simp_all [compact, boolChars]
    | _ => cases hlead
  | int n =>
    intro y rest rest' hy hrest hrest' h
    have hlead := leadOf_eq (.int n) hy h
    cases hy with
    | int n' =>
      obtain ⟨rfl, heq⟩ := ofInt_append_inj hrest hrest' h
      exact ⟨rfl, heq⟩
    | _ => cases hlead
  | str s =>
    intro y rest rest' hy _ _ h
    have hlead := leadOf_eq (.str s) hy h
    cases hy with
    | str s' =>
      obtain ⟨rfl, heq⟩ := stringChars_append_inj h
      exact ⟨rfl, heq⟩
    | _ => cases hlead
  | arr helements ih =>
    intro y rest rest' hy _ _ h
    have hlead := leadOf_eq (.arr helements) hy h
    cases hy with
    | arr helements' =>
      have hstart : ∀ j, Exact j → ∃ c more, compact escapeChar j = c :: more ∧ c ≠ ']' := by
        intro j hj
        obtain ⟨c, more, hc, hlead⟩ := hj.start
        exact ⟨c, more, hc, by rintro rfl; cases hlead⟩
      simp only [compact_arr, List.cons_append, List.append_assoc, List.cons.injEq, true_and,
        List.nil_append] at h
      obtain ⟨rfl, heq⟩ := listed_inj (.inl rfl) hstart
        (fun j hj => ⟨helements j hj, ih j hj⟩) helements' h
      exact ⟨rfl, heq⟩
    | _ => cases hlead
  | obj hkeys hmembers ih =>
    intro y rest rest' hy _ _ h
    have hlead := leadOf_eq (.obj hkeys hmembers) hy h
    cases hy with
    | obj hkeys' hmembers' =>
      have hstart : ∀ m : String × Json, Exact m.2 →
          ∃ c more, entryChars m = c :: more ∧ c ≠ '\x7d' :=
        fun m _ => ⟨'"', _, rfl, by decide⟩
      simp only [compact_obj, List.cons_append, List.append_assoc, List.cons.injEq, true_and,
        List.nil_append] at h
      obtain ⟨rfl, heq⟩ := listed_inj (.inr rfl) hstart
        (fun m hm => ⟨hmembers m hm, ends_entryChars (ih m hm)⟩) hmembers' h
      exact ⟨rfl, heq⟩
    | _ => cases hlead

/-- Values are told apart by what is printed of them. -/
theorem compact_injective {x y : Json} (hx : Exact x) (hy : Exact y)
    (h : compact escapeChar x = compact escapeChar y) : x = y := by
  have hends : EndsValue [] := by simp [EndsValue]
  exact (ends_compact hx hy hends hends (by rw [h])).1

theorem Exact.sortMembers {j : Json} (h : Exact j) : Exact j.sortMembers := by
  induction h with
  | null => exact .null
  | bool b => exact .bool b
  | int n => exact .int n
  | str s => exact .str s
  | arr _ ih =>
    rw [sortMembers_arr]
    refine .arr fun j hj => ?_
    obtain ⟨i, hi, rfl⟩ := List.mem_map.1 hj
    exact ih i hi
  | @obj members hkeys _ ih =>
    rw [sortMembers_obj]
    refine .obj (nodup_keys_sortedMembers hkeys) fun m hm => ?_
    obtain ⟨i, hi, rfl⟩ := List.mem_map.1 ((perm_sortedMembers members).mem_iff.1 hm)
    exact ih i hi

/-- Keys that lead to values with one canonical form are put in one order. -/
theorem sortedMembers_congr {members members' : List (String × Json)}
    (hkeys : (members.map Prod.fst).Nodup) (hkeys' : (members'.map Prod.fst).Nodup)
    (h : ∀ key, (member? members key).map sortMembers = (member? members' key).map sortMembers) :
    sortedMembers members = sortedMembers members' := by
  have hnodup : ∀ {members : List (String × Json)}, (members.map Prod.fst).Nodup →
      ((members.map fun m => (m.1, sortMembers m.2)).map Prod.fst).Nodup := by
    intro members hkeys
    simpa [Function.comp_def] using hkeys
  have hmem : ∀ {members : List (String × Json)}, (members.map Prod.fst).Nodup → ∀ m,
      m ∈ members.map (fun m => (m.1, sortMembers m.2)) ↔
        (member? members m.1).map sortMembers = some m.2 := by
    intro members hkeys m
    rw [← member?_sortedMembers hkeys, member?_eq_some_iff (nodup_keys_sortedMembers hkeys),
      (perm_sortedMembers members).mem_iff]
  rw [sortedMembers, sortedMembers, sortValues_eq, sortValues_eq]
  refine Order.sortBy_eq_of_perm ((List.perm_ext_iff_of_nodup (hnodup hkeys).of_map
    (hnodup hkeys').of_map).2 fun m => ?_) fun a ha b hb hab => ?_
  · rw [hmem hkeys, hmem hkeys', h]
  · exact List.inj_on_of_nodup_map (hnodup hkeys) ha hb (Order.eq_of_compareText hab)

/-- Values that are the same have one sorted form. -/
theorem sortMembers_eq_of_same {x y : Json} (h : Same x y) (hx : Exact x) (hy : Exact y) :
    x.sortMembers = y.sortMembers := by
  induction h with
  | null => rfl
  | bool b => rfl
  | int n => rfl
  | float x => rfl
  | str s => rfl
  | @arr elements elements' hlength _ ih =>
    cases hx with | arr hx =>
    cases hy with | arr hy =>
    rw [sortMembers_arr, sortMembers_arr]
    refine congrArg _ (List.ext_getElem (by simpa using hlength) fun i hi hi' => ?_)
    simp only [List.length_map] at hi hi'
    rw [List.getElem_map, List.getElem_map]
    have hmem : (elements[i], elements'[i]) ∈ elements.zip elements' :=
      List.mem_iff_getElem.2 ⟨i, by rw [List.length_zip]; omega, List.getElem_zip⟩
    exact ih _ hmem (hx _ (List.getElem_mem hi)) (hy _ (List.getElem_mem hi'))
  | @obj members members' hsame _ ih =>
    cases hx with | obj hkeys hx =>
    cases hy with | obj hkeys' hy =>
    rw [sortMembers_obj, sortMembers_obj]
    refine congrArg _ (sortedMembers_congr hkeys hkeys' fun key => ?_)
    have hsome := hsame key
    cases hj : member? members key with
    | none =>
      rw [hj] at hsome
      rw [Option.isSome_eq_false_iff.1 hsome.symm |> Option.isNone_iff_eq_none.1]
    | some j =>
      rw [hj] at hsome
      obtain ⟨j', hj'⟩ := Option.isSome_iff_exists.1 hsome.symm
      have hmem := (member?_eq_some_iff hkeys key j).1 hj
      have hmem' := (member?_eq_some_iff hkeys' key j').1 hj'
      rw [hj', Option.map_some, Option.map_some, ih key j j' hj hj' (hx _ hmem) (hy _ hmem')]

/-- Values with one sorted form are the same. -/
theorem same_of_sortMembers_eq {x y : Json} (hx : Exact x) (hy : Exact y)
    (h : x.sortMembers = y.sortMembers) : Same x y := by
  induction hx generalizing y with
  | null =>
    cases hy <;> simp at h
    exact .null
  | bool b =>
    cases hy <;> simp at h
    exact h ▸ .bool b
  | int n =>
    cases hy <;> simp at h
    exact h ▸ .int n
  | str s =>
    cases hy <;> simp at h
    exact h ▸ .str s
  | @arr elements _ ih =>
    cases hy with
    | @arr elements' hy =>
      rw [sortMembers_arr, sortMembers_arr, Json.arr.injEq] at h
      have hlength : elements.length = elements'.length := by
        simpa using congrArg List.length h
      refine .arr hlength fun entry hentry => ?_
      obtain ⟨i, hi, rfl⟩ := List.mem_iff_getElem.1 hentry
      rw [List.length_zip] at hi
      have hat : elements[i].sortMembers = elements'[i].sortMembers := by
        have hi' := List.getElem_of_eq h (i := i) (by rw [List.length_map]; omega)
        rwa [List.getElem_map, List.getElem_map] at hi'
      rw [List.getElem_zip]
      exact ih _ (List.getElem_mem _) (hy _ (List.getElem_mem _)) hat
    | _ => simp at h
  | @obj members hkeys _ ih =>
    cases hy with
    | @obj members' hkeys' hy =>
      rw [sortMembers_obj, sortMembers_obj, Json.obj.injEq] at h
      have hat : ∀ key,
          (member? members key).map sortMembers = (member? members' key).map sortMembers := by
        intro key
        rw [← member?_sortedMembers hkeys, h, member?_sortedMembers hkeys']
      refine .obj (fun key => ?_) fun key j j' hj hj' => ?_
      · simpa using congrArg Option.isSome (hat key)
      · have hvalue := hat key
        rw [hj, hj', Option.map_some, Option.map_some, Option.some.injEq] at hvalue
        exact ih _ ((member?_eq_some_iff hkeys key j).1 hj)
          (hy _ ((member?_eq_some_iff hkeys' key j').1 hj')) hvalue
    | _ => simp at h

theorem same_iff {x y : Json} (hx : Exact x) (hy : Exact y) :
    Same x y ↔ x.sortMembers = y.sortMembers :=
  ⟨fun h => sortMembers_eq_of_same h hx hy, same_of_sortMembers_eq hx hy⟩

theorem Exact.sortMembers_sortMembers {j : Json} (h : Exact j) :
    j.sortMembers.sortMembers = j.sortMembers := by
  induction h with
  | null => rfl
  | bool b => rfl
  | int n => rfl
  | str s => rfl
  | arr _ ih =>
    rw [sortMembers_arr, sortMembers_arr, List.map_map]
    exact congrArg _ (List.map_congr_left ih)
  | @obj members hkeys _ ih =>
    rw [sortMembers_obj, sortMembers_obj]
    refine congrArg _ (sortedMembers_congr (nodup_keys_sortedMembers hkeys) hkeys fun key => ?_)
    rw [member?_sortedMembers hkeys]
    cases hj : member? members key with
    | none => rfl
    | some j => exact congrArg some (ih _ ((member?_eq_some_iff hkeys key j).1 hj))

theorem mem_of_member? {members : List (String × Json)} {key : String} {j : Json}
    (h : member? members key = some j) : (key, j) ∈ members := by
  obtain ⟨m, hfind, rfl⟩ := Option.map_eq_some_iff.1 h
  have hkey : m.1 = key := by simpa using List.find?_some hfind
  rw [← hkey]
  exact List.mem_of_find?_eq_some hfind

/-- Values that are the same hold the same integers. -/
theorem Same.holds {x y : Json} (h : Same x y) (hy : Exact y) {n : Int} (hn : Holds n y) :
    Holds n x := by
  induction hn generalizing x with
  | int =>
    cases h
    exact .int
  | @arr _ j hj _ ih =>
    cases hy with | arr hy =>
    cases h with | @arr elements _ hlength hsame =>
    obtain ⟨i, hi, rfl⟩ := List.mem_iff_getElem.1 hj
    have hentry := hsame _ (List.mem_iff_getElem.2 ⟨i, by rw [List.length_zip]; omega, rfl⟩)
    rw [List.getElem_zip] at hentry
    exact .arr (List.getElem_mem _) (ih hentry (hy _ hj))
  | @obj _ m hm _ ih =>
    cases hy with | obj hkeys hy =>
    cases h with | obj hsame hvalues =>
    have hfound := (member?_eq_some_iff hkeys m.1 m.2).2 hm
    obtain ⟨j, hj⟩ := Option.isSome_iff_exists.1 ((hsame m.1).trans (by rw [hfound]; rfl))
    exact .obj (mem_of_member? hj) (ih (hvalues m.1 j m.2 hj hfound) (hy m hm))

/-- An exact value is legible if its integers are short. -/
theorem legible_of_exact {floats : Decimal.Binary64 → Prop} {j : Json} (h : Exact j)
    (hshort : ∀ n, Holds n j → IsShort n) : Legible floats j := by
  induction h with
  | null => exact .null
  | bool b => exact .bool b
  | int n => exact .int (hshort n .int)
  | str s => exact .str s
  | arr _ ih => exact .arr fun j hj => ih j hj fun n hn => hshort n (.arr hj hn)
  | obj hkeys _ ih => exact .obj hkeys fun m hm => ih m hm fun n hn => hshort n (.obj hm hn)

theorem Legible.exact {j : Json} (h : Legible (fun _ => False) j) : Exact j := by
  induction h with
  | null => exact .null
  | bool b => exact .bool b
  | int _ => exact .int _
  | float hx => exact hx.elim
  | str s => exact .str s
  | arr _ ih => exact .arr ih
  | obj hkeys _ ih => exact .obj hkeys ih

/-- The canonical texts of two values are equal exactly if the values are the same. -/
theorem canonicalChars_eq_iff {x y : Json} (hx : Exact x) (hy : Exact y) :
    x.canonicalChars = y.canonicalChars ↔ Same x y := by
  rw [same_iff hx hy]
  constructor
  · exact compact_injective hx.sortMembers hy.sortMembers
  · intro h
    rw [canonicalChars, canonicalChars, h]

theorem canonicalBytes_eq_iff {x y : Json} (hx : Exact x) (hy : Exact y) {bytes : List UInt8}
    (h : canonicalBytes x = .ok bytes) : canonicalBytes y = .ok bytes ↔ Same x y := by
  obtain ⟨hwritable, rfl⟩ := canonicalBytes_eq_ok.1 h
  rw [canonicalBytes_eq_ok, ← canonicalChars_eq_iff hx hy]
  constructor
  · rintro ⟨-, hbytes⟩
    exact (Utf8.encodeChars_injective hbytes).symm
  · intro hchars
    have hsame := (canonicalChars_eq_iff hx hy).1 hchars
    refine ⟨isWritable_iff.2 fun n hn => ?_, by rw [hchars]⟩
    exact isWritable_iff.1 hwritable n (hsame.holds hy hn)

/-- Canonical bytes are read back, as the sorted form of what they were printed from. -/
theorem readsAs_of_canonicalBytes {x : Json} (hx : Exact x) {bytes : List UInt8}
    (h : canonicalBytes x = .ok bytes) : ReadsAs bytes x := by
  obtain ⟨hwritable, rfl⟩ := canonicalBytes_eq_ok.1 h
  have hback : parseChars x.canonicalChars = .ok x.sortMembers :=
    (legible_of_exact hx (isWritable_iff.1 hwritable)).readsBack
  refine ⟨x.canonical, x.sortMembers, ?_, ?_, ?_⟩
  · simp [Utf8.decode, canonical, Utf8.decodeChars_encodeChars, Except.map]
  · simpa [parse, canonical] using hback
  · exact (same_iff hx.sortMembers hx).2 hx.sortMembers_sortMembers

/-- A value has bytes unless one of its integers has more digits than the limit, and then the writer
says so. The bytes of a value are the bytes of exactly those that are the same, and they are read as
that value. -/
theorem canonicalBytes_unique {x y : Json} (hx : Exact x) (hy : Exact y) :
    ((∃ bytes, canonicalBytes x = .ok bytes) ↔ ∀ n, Holds n x → IsShort n) ∧
      (canonicalBytes x = .error .longInteger ↔ ∃ n, Holds n x ∧ ¬ IsShort n) ∧
        ∀ bytes, canonicalBytes x = .ok bytes →
          (canonicalBytes y = .ok bytes ↔ Same x y) ∧ ReadsAs bytes x :=
  ⟨exists_canonicalBytes_iff, canonicalBytes_eq_error, fun _ h =>
    ⟨canonicalBytes_eq_iff hx hy h, readsAs_of_canonicalBytes hx h⟩⟩

theorem canonicalBytes_unique_swapped :
    let entries := [("b", Json.int 1), ("a", .arr [.str "\n", .null])]
    ∃ bytes, canonicalBytes (.obj entries) = .ok bytes ∧
      canonicalBytes (.obj entries.reverse) = .ok bytes ∧
        Same (.obj entries) (.obj entries.reverse) ∧ ReadsAs bytes (.obj entries) := by
  intro entries
  have hkeys : (entries.map Prod.fst).Nodup := by decide
  have hone : IsShort 1 := Nat.one_lt_pow (by decide) (by decide)
  have hlegible : ∀ m ∈ entries, Legible (fun _ => False) m.2 := by
    simp only [entries, List.forall_mem_cons, List.not_mem_nil, false_implies, implies_true,
      and_true]
    refine ⟨.int hone, .arr fun j hj => ?_⟩
    simp only [List.mem_cons, List.not_mem_nil, or_false] at hj
    rcases hj with rfl | rfl
    · exact .str _
    · exact .null
  have hx : Exact (.obj entries) := .obj hkeys fun m hm => (hlegible m hm).exact
  have hy : Exact (.obj entries.reverse) :=
    .obj (by decide) fun m hm => (hlegible m (List.mem_reverse.1 hm)).exact
  have hshort : ∀ n, Holds n (.obj entries) → IsShort n :=
    fun n hn => (Legible.obj hkeys hlegible).isShort hn
  obtain ⟨hwritten, -, hbytes⟩ := canonicalBytes_unique hx hy
  obtain ⟨bytes, h⟩ := hwritten.2 hshort
  have h' : canonicalBytes (.obj entries.reverse) = .ok bytes := h ▸ by decide
  exact ⟨bytes, h, h', (hbytes bytes h).1.1 h', (hbytes bytes h).2⟩

/-- The shortest integer with more digits than the limit has no bytes. -/
theorem longInteger_unwritten :
    Exact (.int (10 ^ maxDigits : Nat)) ∧
      canonicalBytes (.int (10 ^ maxDigits : Nat)) = .error .longInteger := by
  refine ⟨.int _, canonicalBytes_eq_error.2 ⟨_, .int, fun hshort => ?_⟩⟩
  rw [IsShort, Int.natAbs_natCast] at hshort
  exact Nat.lt_irrefl _ hshort

end Bindery.Json
