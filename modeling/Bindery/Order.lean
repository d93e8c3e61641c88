/-!
# Order

Comparison of texts by code point, and a stable sort for any comparison. Everything that an
output lists in sorted order goes through these two.
-/
namespace Bindery.Order

/-- The first difference decides, and a text comes after the texts that it continues. -/
def compareChars : List Char → List Char → Ordering
  | [], [] => .eq
  | [], _ :: _ => .lt
  | _ :: _, [] => .gt
  | c :: cs, d :: ds =>
    if c.toNat < d.toNat then .lt
    else if d.toNat < c.toNat then .gt
    else compareChars cs ds

def compareText (s t : String) : Ordering := compareChars s.toList t.toList

def compareNat (m n : Nat) : Ordering :=
  if m < n then .lt else if n < m then .gt else .eq

def compareInt (m n : Int) : Ordering :=
  if m < n then .lt else if n < m then .gt else .eq

/-- Compare by a first key and, where it does not decide, by a second. -/
def both (first second : α → α → Ordering) (a b : α) : Ordering :=
  match first a b with
  | .eq => second a b
  | decided => decided

/-- Compare through a key. -/
def on (key : α → κ) (cmp : κ → κ → Ordering) (a b : α) : Ordering := cmp (key a) (key b)

def comparePair : String × String → String × String → Ordering :=
  both (on Prod.fst compareText) (on Prod.snd compareText)

/-- Put `x` in front of the first entry that is not smaller. -/
def insertBy (cmp : α → α → Ordering) (x : α) : List α → List α
  | [] => [x]
  | y :: ys => if cmp x y = .gt then y :: insertBy cmp x ys else x :: y :: ys

/-- Sort by a comparison; entries that compare equal keep their order. -/
def sortBy (cmp : α → α → Ordering) : List α → List α
  | [] => []
  | x :: xs => insertBy cmp x (sortBy cmp xs)

/-- Sort by a key that is computed once for each entry. -/
def sortOn (key : α → κ) (cmp : κ → κ → Ordering) (xs : List α) : List α :=
  (sortBy (on Prod.fst cmp) (xs.map fun x => (key x, x))).map Prod.snd

def sortTexts : List String → List String := sortBy compareText

/-- The entries of a list, each at its first place only. -/
def distinct [DecidableEq α] : List α → List α
  | [] => []
  | x :: xs => x :: (distinct xs).filter (· ≠ x)

@[simp] theorem compareChars_self (s : List Char) : compareChars s s = .eq := by
  induction s with
  | nil => rfl
  | cons c cs ih => simp [compareChars, ih]

theorem eq_of_compareChars {s t : List Char} (h : compareChars s t = .eq) : s = t := by
  fun_induction compareChars s t with
  | case1 => rfl
  | case2 => simp at h
  | case3 => simp at h
  | case4 => simp at h
  | case5 => simp at h
  | case6 c cs d ds hcd hdc ih =>
    have : c = d := Char.toNat_inj.1 (by omega)
    rw [this, ih h]

end Bindery.Order
