import Bindery.Table
import Mathlib.Data.List.Induction
import Mathlib.Data.List.Nodup
import Mathlib.Data.List.Perm.Basic
import Mathlib.Data.Set.Function
/-!
# Looking up in tables

What a look-up finds after each way to build a table. A table holds each key once, so a look-up
finds exactly the entries that are listed.
-/
namespace Bindery.Table

variable {κ α β : Type} [DecidableEq κ]

/-- A key has the value it stands with. -/
theorem get?_eq_some_iff (t : Table κ α) (key : κ) (value : α) :
    t.get? key = some value ↔ (key, value) ∈ t.entries := by
  obtain ⟨entries, nodup⟩ := t
  simp only [get?]
  induction entries with
  | nil => simp
  | cons entry rest ih =>
    obtain ⟨k, v⟩ := entry
    have absent : k ∉ rest.map Prod.fst := (List.nodup_cons.1 nodup).1
    by_cases h : k = key
    · subst h
      have hrest : (k, value) ∉ rest := fun member => absent (List.mem_map_of_mem member)
      simp [hrest, eq_comm]
    · have hne : (key, value) ≠ (k, v) := fun e => h (congrArg Prod.fst e).symm
      simp only [List.find?_cons, h, decide_false, List.mem_cons, hne, false_or]
      exact ih (List.nodup_cons.1 nodup).2

theorem mem_keys_iff (t : Table κ α) (key : κ) :
    key ∈ t.keys ↔ ∃ value, t.get? key = some value := by
  simp [keys, get?_eq_some_iff]

theorem contains_iff (t : Table κ α) (key : κ) : t.contains key = true ↔ key ∈ t.keys := by
  simp [contains]

theorem contains_eq_isSome (t : Table κ α) (key : κ) : t.contains key = (t.get? key).isSome := by
  rw [Bool.eq_iff_iff, contains_iff, mem_keys_iff, Option.isSome_iff_exists]

@[simp] theorem get?_empty (key : κ) : (empty : Table κ α).get? key = none := rfl

theorem find?_storeEntry (key other : κ) (value : α) (entries : List (κ × α)) :
    ((storeEntry key value entries).find? (·.1 = other)).map Prod.snd =
      if other = key then some value else (entries.find? (·.1 = other)).map Prod.snd := by
  induction entries with
  | nil =>
    by_cases h : other = key
    · simp [storeEntry, h]
    · have h' : key ≠ other := fun e => h e.symm
      simp [storeEntry, h, h']
  | cons entry rest ih =>
    by_cases hk : entry.1 = key
    · by_cases h : other = key
      · simp [storeEntry, hk, h]
      · have h' : key ≠ other := fun e => h e.symm
        simp [storeEntry, hk, h, h']
    · by_cases h : entry.1 = other
      · have h' : other ≠ key := fun e => hk (h.trans e)
        simp [storeEntry, h, h']
      · simp [storeEntry, hk, h, ih]

theorem storeEntry_of_not_mem {key : κ} {entries : List (κ × α)}
    (h : key ∉ entries.map Prod.fst) (value : α) :
    storeEntry key value entries = entries ++ [(key, value)] := by
  induction entries with
  | nil => rfl
  | cons entry rest ih =>
    simp only [List.map_cons, List.mem_cons, not_or] at h
    have hne : entry.1 ≠ key := fun e => h.1 e.symm
    simp [storeEntry, hne, ih h.2]

theorem mem_storeEntry {key : κ} {value : α} {entries : List (κ × α)} {entry : κ × α}
    (h : entry ∈ storeEntry key value entries) : entry ∈ entries ∨ entry = (key, value) := by
  induction entries with
  | nil => simpa [storeEntry] using h
  | cons first rest ih =>
    by_cases hk : first.1 = key
    · simp only [storeEntry, hk, if_true, List.mem_cons] at h ⊢
      exact h.elim .inr fun hmem => .inl (.inr hmem)
    · simp only [storeEntry, hk, if_false, List.mem_cons] at h ⊢
      rcases h with rfl | h
      · exact .inl (.inl rfl)
      · exact (ih h).imp_left .inr

/-- An insertion changes the value of its key only. -/
theorem get?_insert (t : Table κ α) (key other : κ) (value : α) :
    (t.insert key value).get? other = if other = key then some value else t.get? other :=
  find?_storeEntry key other value t.entries

theorem get?_map (f : α → β) (t : Table κ α) (key : κ) :
    (t.map f).get? key = (t.get? key).map f := by
  simp [get?, map, List.find?_map, Function.comp_def]

theorem ofList_append_singleton (entries : List (κ × α)) (entry : κ × α) :
    ofList (entries ++ [entry]) = (ofList entries).insert entry.1 entry.2 := by
  simp [ofList]

/-- The value of a key is one of those it was listed with. -/
theorem mem_of_get?_ofList {entries : List (κ × α)} {key : κ} {value : α}
    (h : (ofList entries).get? key = some value) : (key, value) ∈ entries := by
  induction entries using List.reverseRecOn with
  | nil => cases h
  | append_singleton entries entry ih =>
    rw [ofList_append_singleton, get?_insert] at h
    split at h
    · rename_i hkey
      obtain rfl := Option.some.inj h
      simp [hkey]
    · exact List.mem_append_left _ (ih h)

theorem exists_get?_ofList {entries : List (κ × α)} {key : κ} {value : α}
    (h : (key, value) ∈ entries) : ∃ last, (ofList entries).get? key = some last := by
  induction entries using List.reverseRecOn with
  | nil => cases h
  | append_singleton entries entry ih =>
    rw [ofList_append_singleton, get?_insert]
    split
    · exact ⟨_, rfl⟩
    · rename_i hkey
      rcases List.mem_append.1 h with hmem | hlast
      · exact ih hmem
      · exact absurd (congrArg Prod.fst (List.mem_singleton.1 hlast)) hkey

/-- Entries with different keys are kept as they are listed. -/
theorem entries_ofList {entries : List (κ × α)} (h : (entries.map Prod.fst).Nodup) :
    (ofList entries).entries = entries := by
  induction entries using List.reverseRecOn with
  | nil => rfl
  | append_singleton entries entry ih =>
    rw [List.map_append, List.map_singleton, List.nodup_append] at h
    obtain ⟨hfront, -, hne⟩ := h
    have hnew : entry.1 ∉ entries.map Prod.fst := fun hmem =>
      hne _ hmem _ (List.mem_singleton.2 rfl) rfl
    have hstore := storeEntry_of_not_mem hnew entry.2
    rw [ofList_append_singleton]
    exact (congrArg _ (ih hfront)).trans hstore

theorem insertNew_of_mem {t : Table κ α} {key : κ} (h : key ∈ t.keys) (value : α) :
    t.insertNew key value = t := by
  rw [insertNew, if_pos ((t.contains_iff key).2 h)]

/-- Only a key that is vacant gets a new value. -/
theorem get?_insertNew (t : Table κ α) (key other : κ) (value : α) :
    (t.insertNew key value).get? other =
      (t.get? other).or (if other = key then some value else none) := by
  by_cases hkey : key ∈ t.keys
  · rw [insertNew_of_mem hkey]
    split
    · rename_i hother
      obtain ⟨known, hknown⟩ := (t.mem_keys_iff key).1 hkey
      simp [hother, hknown]
    · simp
  · have habsent : t.get? key = none := by
      rw [Option.eq_none_iff_forall_ne_some]
      exact fun known hknown => hkey ((t.mem_keys_iff key).2 ⟨known, hknown⟩)
    rw [insertNew, if_neg fun h => hkey ((t.contains_iff key).1 h), get?_insert]
    split
    · rename_i hother
      simp [hother, habsent]
    · simp

/-- Of many keys those that are new are added. -/
theorem get?_foldl_insertNew (f : κ → α) (keys : List κ) (t : Table κ α) (key : κ) :
    (keys.foldl (fun t k => t.insertNew k (f k)) t).get? key =
      (t.get? key).or (if key ∈ keys then some (f key) else none) := by
  induction keys generalizing t with
  | nil => simp
  | cons k keys ih =>
    rw [List.foldl_cons, ih, get?_insertNew]
    by_cases hkey : key = k
    · simp [hkey]
    · simp [hkey]

theorem foldl_insertNew_of_mem {f : κ → α} {keys : List κ} {t : Table κ α}
    (h : ∀ key ∈ keys, key ∈ t.keys) : keys.foldl (fun t k => t.insertNew k (f k)) t = t := by
  induction keys with
  | nil => rfl
  | cons k keys ih =>
    obtain ⟨hk, hkeys⟩ := List.forall_mem_cons.1 h
    rw [List.foldl_cons, insertNew_of_mem hk, ih hkeys]

omit [DecidableEq κ] in
theorem map_map {γ : Type} (f : α → β) (g : β → γ) (t : Table κ α) :
    (t.map f).map g = t.map (g ∘ f) := by
  simp [map, Function.comp_def]

omit [DecidableEq κ] in
/-- Changes none of which fails change every value. -/
theorem update_eq_map {ε : Type} {f : α → Except ε α} {g : α → α} (h : ∀ a, f a = .ok (g a))
    (t : Table κ α) : t.update f = (t.map g, .ok ()) := by
  have hentries : ∀ entries : List (κ × α),
      changeUntil f entries = (entries.map fun entry => (entry.1, g entry.2), .ok ()) := by
    intro entries
    induction entries with
    | nil => rfl
    | cons entry entries ih => simp [changeUntil, h, ih]
  simp only [update, map, hentries]

/-- Change every key and every value; of entries whose keys become equal the last value counts. -/
def rekey {κ' : Type} [DecidableEq κ'] (key : κ → κ') (f : α → β) (t : Table κ α) : Table κ' β :=
  ofList (t.entries.map fun entry => (key entry.1, f entry.2))

omit [DecidableEq κ] in
theorem entries_rekey {κ' : Type} [DecidableEq κ'] {key : κ → κ'} {f : α → β} {t : Table κ α}
    (hkey : Set.InjOn key {k | k ∈ t.keys}) :
    (t.rekey key f).entries = t.entries.map fun entry => (key entry.1, f entry.2) := by
  refine entries_ofList ?_
  have hkeys : (t.entries.map fun entry => (key entry.1, f entry.2)).map Prod.fst =
      t.keys.map key := by simp [keys]
  rw [hkeys]
  exact t.nodup.map_on fun _ hk _ hk' => hkey hk hk'

omit [DecidableEq κ] in
/-- Keys that stay apart keep their values, in order. -/
theorem values_rekey {κ' : Type} [DecidableEq κ'] {key : κ → κ'} {f : α → β} {t : Table κ α}
    (hkey : Set.InjOn key {k | k ∈ t.keys}) : (t.rekey key f).values = t.values.map f := by
  simp [values, entries_rekey hkey]

/-- Keys that stay apart have the values they had under the former keys. -/
theorem get?_rekey_eq_some_iff {κ' : Type} [DecidableEq κ'] {key : κ → κ'} {f : α → β}
    {t : Table κ α} (hkey : Set.InjOn key {k | k ∈ t.keys}) {newKey : κ'} {newValue : β} :
    (t.rekey key f).get? newKey = some newValue ↔
      ∃ k value, t.get? k = some value ∧ key k = newKey ∧ f value = newValue := by
  simp only [get?_eq_some_iff, entries_rekey hkey, List.mem_map, Prod.mk.injEq, Prod.exists]

/-- Tables with the same entries, in whichever order they came. -/
theorem perm_entries_iff {t t' : Table κ α} :
    t.entries.Perm t'.entries ↔ ∀ key, t.get? key = t'.get? key := by
  rw [List.perm_ext_iff_of_nodup (List.Nodup.of_map Prod.fst t.nodup)
    (List.Nodup.of_map Prod.fst t'.nodup)]
  constructor
  · intro h key
    refine Option.ext fun value => ?_
    rw [get?_eq_some_iff, get?_eq_some_iff, h]
  · rintro h ⟨key, value⟩
    rw [← get?_eq_some_iff, ← get?_eq_some_iff, h]

/-- To collect the entries of one key after the other is to collect them all. -/
theorem perm_flatMap_filter (key : α → κ) {keys : List κ} (hnodup : keys.Nodup) {xs : List α}
    (hkeys : ∀ x ∈ xs, key x ∈ keys) : (keys.flatMap fun k => xs.filter (key · = k)).Perm xs := by
  induction keys generalizing xs with
  | nil =>
    have hnil : xs = [] := List.eq_nil_iff_forall_not_mem.2 fun x hx => by simpa using hkeys x hx
    simp [hnil]
  | cons k keys ih =>
    obtain ⟨hk, hnodup⟩ := List.nodup_cons.1 hnodup
    have hothers : (keys.flatMap fun k' => xs.filter (key · = k')) =
        keys.flatMap fun k' => (xs.filter (key · ≠ k)).filter (key · = k') := by
      refine List.flatMap_congr fun k' hk' => ?_
      rw [List.filter_filter]
      refine List.filter_congr fun x _ => ?_
      have hne : key x = k' → key x ≠ k := fun hx hx' => hk (hx' ▸ hx ▸ hk')
      by_cases hx : key x = k' <;> simp_all
    have hrest : ∀ x ∈ xs.filter (key · ≠ k), key x ∈ keys := by
      intro x hx
      obtain ⟨hx, hne⟩ := List.mem_filter.1 hx
      exact (List.mem_cons.1 (hkeys x hx)).resolve_left (of_decide_eq_true hne)
    rw [List.flatMap_cons, hothers]
    refine ((ih hnodup hrest).append_left _).trans ?_
    simpa using List.filter_append_perm (fun x => decide (key x = k)) xs

end Bindery.Table
