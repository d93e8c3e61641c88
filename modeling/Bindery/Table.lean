/-!
# Tables

A finite map that remembers the order in which its keys came. Storing under a known key replaces
the value and leaves the key in its place.
-/
namespace Bindery

/-- Store under a key: in place when the key is there, at the end when it is new. -/
def storeEntry [DecidableEq κ] (key : κ) (value : α) : List (κ × α) → List (κ × α)
  | [] => [(key, value)]
  | entry :: rest =>
    if entry.1 = key then (entry.1, value) :: rest else entry :: storeEntry key value rest

theorem keys_storeEntry [DecidableEq κ] (key : κ) (value : α) (entries : List (κ × α)) :
    (storeEntry key value entries).map Prod.fst =
      if key ∈ entries.map Prod.fst then entries.map Prod.fst
      else entries.map Prod.fst ++ [key] := by
  induction entries with
  | nil => simp [storeEntry]
  | cons entry rest ih =>
    by_cases h : entry.1 = key
    · simp [storeEntry, h]
    · have h' : key ≠ entry.1 := fun e => h e.symm
      simp only [storeEntry, h, if_false, List.map_cons, ih, List.mem_cons, h', false_or]
      split <;> simp

theorem nodup_storeEntry [DecidableEq κ] (key : κ) (value : α) {entries : List (κ × α)}
    (h : (entries.map Prod.fst).Nodup) : ((storeEntry key value entries).map Prod.fst).Nodup := by
  rw [keys_storeEntry]
  split
  · exact h
  · rename_i absent
    refine List.nodup_append.2 ⟨h, by simp, ?_⟩
    intro a ha b hb e
    simp only [List.mem_singleton] at hb
    exact absent (hb ▸ e ▸ ha)

/-- Keys with their values, in the order in which the keys came. -/
structure Table (κ : Type) (α : Type) where
  entries : List (κ × α) := []
  nodup : (entries.map Prod.fst).Nodup := by exact List.nodup_nil
  deriving DecidableEq

namespace Table

def empty : Table κ α := ⟨[], List.nodup_nil⟩

instance : Inhabited (Table κ α) := ⟨empty⟩

def keys (t : Table κ α) : List κ := t.entries.map Prod.fst

def values (t : Table κ α) : List α := t.entries.map Prod.snd

def get? [DecidableEq κ] (t : Table κ α) (key : κ) : Option α :=
  (t.entries.find? (·.1 = key)).map Prod.snd

def contains [DecidableEq κ] (t : Table κ α) (key : κ) : Bool := decide (key ∈ t.keys)

def insert [DecidableEq κ] (t : Table κ α) (key : κ) (value : α) : Table κ α :=
  ⟨storeEntry key value t.entries, nodup_storeEntry key value t.nodup⟩

/-- Store unless the key is there already. -/
def insertNew [DecidableEq κ] (t : Table κ α) (key : κ) (value : α) : Table κ α :=
  if t.contains key then t else t.insert key value

def ofList [DecidableEq κ] (entries : List (κ × α)) : Table κ α :=
  entries.foldl (fun t entry => t.insert entry.1 entry.2) empty

/-- Change every value and leave the keys as they are. -/
def map (f : α → β) (t : Table κ α) : Table κ β :=
  ⟨t.entries.map fun entry => (entry.1, f entry.2), by
    have h : (t.entries.map fun entry => (entry.1, f entry.2)).map Prod.fst
        = t.entries.map Prod.fst := by simp [Function.comp_def]
    rw [h]; exact t.nodup⟩

/-- Change values in order up to the first one whose change fails; that one and those behind it
stay as they are. -/
def changeUntil (f : α → Except ε α) : List (κ × α) → List (κ × α) × Except ε Unit
  | [] => ([], .ok ())
  | (key, value) :: rest =>
    match f value with
    | .error e => ((key, value) :: rest, .error e)
    | .ok changed =>
      let (rest, outcome) := changeUntil f rest
      ((key, changed) :: rest, outcome)

theorem keys_changeUntil (f : α → Except ε α) (entries : List (κ × α)) :
    (changeUntil f entries).1.map Prod.fst = entries.map Prod.fst := by
  induction entries with
  | nil => rfl
  | cons entry rest ih =>
    obtain ⟨key, value⟩ := entry
    simp only [changeUntil]
    split <;> simp_all

/-- Change every value, or stop at the first change that fails. -/
def update (f : α → Except ε α) (t : Table κ α) : Table κ α × Except ε Unit :=
  (⟨(changeUntil f t.entries).1, by rw [keys_changeUntil]; exact t.nodup⟩,
    (changeUntil f t.entries).2)

@[simp] theorem keys_empty : (empty : Table κ α).keys = [] := rfl

@[simp] theorem keys_map (f : α → β) (t : Table κ α) : (t.map f).keys = t.keys := by
  simp [keys, map, Function.comp_def]

end Table
end Bindery
