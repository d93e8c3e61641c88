import Bindery.Table
import Mathlib.Data.List.Forall2
/-!
# Outcomes of steps

When a chain of steps that can fail ends well.
-/
namespace Bindery.Outcome

variable {ε ε' α β : Type}

@[simp] theorem ok_bind (a : α) (f : α → Except ε β) : (Except.ok a >>= f) = f a := rfl

@[simp] theorem error_bind (e : ε) (f : α → Except ε β) :
    ((Except.error e : Except ε α) >>= f) = .error e := rfl

@[simp] theorem pure_eq (a : α) : (pure a : Except ε α) = .ok a := rfl

@[simp] theorem map_ok (f : α → β) (a : α) : (Except.ok a : Except ε α).map f = .ok (f a) := rfl

@[simp] theorem map_error (f : α → β) (e : ε) : (Except.error e).map f = .error e := rfl

@[simp] theorem toOption_ok (a : α) : (Except.ok a : Except ε α).toOption = some a := rfl

@[simp] theorem toOption_error (e : ε) : (Except.error e : Except ε α).toOption = none := rfl

theorem toOption_map (f : α → β) (x : Except ε α) : (x.map f).toOption = x.toOption.map f := by
  cases x <;> rfl

theorem toOption_eq_some {x : Except ε α} {a : α} : x.toOption = some a ↔ x = .ok a := by
  cases x <;> simp

/-- Two steps in a row give a result if the first does, and the second with it. -/
theorem bind_eq_ok {x : Except ε α} {f : α → Except ε β} {b : β} :
    (x >>= f) = .ok b ↔ ∃ a, x = .ok a ∧ f a = .ok b := by
  cases x <;> simp

theorem map_eq_ok {x : Except ε α} {f : α → β} {b : β} :
    x.map f = .ok b ↔ ∃ a, x = .ok a ∧ f a = b := by
  cases x <;> simp

theorem exists_map_eq_ok {x : Except ε α} {f : α → β} :
    (∃ b, x.map f = .ok b) ↔ ∃ a, x = .ok a := by
  cases x <;> simp

/-- A result is the same however failures are told. -/
theorem mapError_eq_ok {x : Except ε α} {f : ε → ε'} {a : α} :
    x.mapError f = .ok a ↔ x = .ok a := by
  cases x <;> simp [Except.mapError]

/-- Two steps in a row fail if the first does, or the second after it. -/
theorem bind_eq_error {x : Except ε α} {f : α → Except ε β} {e : ε} :
    (x >>= f) = .error e ↔ x = .error e ∨ ∃ a, x = .ok a ∧ f a = .error e := by
  cases x <;> simp

theorem map_eq_error {x : Except ε α} {f : α → β} {e : ε} : x.map f = .error e ↔ x = .error e := by
  cases x <;> simp

theorem mapError_eq_error {x : Except ε α} {f : ε → ε'} {e : ε'} :
    x.mapError f = .error e ↔ ∃ cause, x = .error cause ∧ f cause = e := by
  cases x <;> simp [Except.mapError]

/-- Whatever stands in the one list is related to an entry of the other. -/
theorem exists_left {R : α → β → Prop} {xs : List α} {ys : List β} (h : List.Forall₂ R xs ys)
    {y : β} (hy : y ∈ ys) : ∃ x ∈ xs, R x y := by
  induction h with
  | nil => cases hy
  | cons hxy _ ih =>
    rcases List.mem_cons.1 hy with rfl | hy
    · exact ⟨_, List.mem_cons_self, hxy⟩
    · obtain ⟨x, hx, hR⟩ := ih hy
      exact ⟨x, List.mem_cons_of_mem _ hx, hR⟩

theorem exists_right {R : α → β → Prop} {xs : List α} {ys : List β} (h : List.Forall₂ R xs ys)
    {x : α} (hx : x ∈ xs) : ∃ y ∈ ys, R x y := by
  obtain ⟨y, hy, hR⟩ := exists_left h.flip hx
  exact ⟨y, hy, hR⟩

/-- What is related to an entry stands at the same place. -/
theorem exists_zip {R : α → β → Prop} {xs : List α} {ys : List β} (h : List.Forall₂ R xs ys)
    {x : α} (hx : x ∈ xs) : ∃ y, (x, y) ∈ xs.zip ys ∧ R x y := by
  induction h with
  | nil => cases hx
  | cons hxy _ ih =>
    rcases List.mem_cons.1 hx with rfl | hx
    · exact ⟨_, List.mem_cons_self, hxy⟩
    · obtain ⟨y, hy, hR⟩ := ih hx
      exact ⟨y, List.mem_cons_of_mem _ hy, hR⟩

/-- Where every entry has a partner there is a list of partners. -/
theorem exists_related {R : α → β → Prop} {xs : List α} (h : ∀ x ∈ xs, ∃ y, R x y) :
    ∃ ys, List.Forall₂ R xs ys := by
  induction xs with
  | nil => exact ⟨[], .nil⟩
  | cons x xs ih =>
    obtain ⟨⟨y, hy⟩, hxs⟩ := List.forall_mem_cons.1 h
    obtain ⟨ys, hys⟩ := ih hxs
    exact ⟨y :: ys, .cons hy hys⟩

theorem map_eq_of_related {γ : Type} {R : α → β → Prop} {xs : List α} {ys : List β}
    (h : List.Forall₂ R xs ys) {f : α → γ} {g : β → γ} (hR : ∀ x y, R x y → f x = g y) :
    xs.map f = ys.map g := by
  induction h with
  | nil => rfl
  | cons hxy _ ih => rw [List.map_cons, List.map_cons, hR _ _ hxy, ih]

theorem related_and_right {R : α → β → Prop} {P : β → Prop} {xs : List α} {ys : List β} :
    List.Forall₂ (fun x y => R x y ∧ P y) xs ys ↔ List.Forall₂ R xs ys ∧ ∀ y ∈ ys, P y := by
  constructor
  · intro h
    refine ⟨h.imp fun _ _ => And.left, fun y hy => ?_⟩
    obtain ⟨_, -, -, hP⟩ := exists_left h hy
    exact hP
  · rintro ⟨h, hP⟩
    induction h with
    | nil => exact .nil
    | cons hxy _ ih =>
      exact .cons ⟨hxy, hP _ List.mem_cons_self⟩ (ih fun y hy => hP y (List.mem_cons_of_mem _ hy))

/-- Entries that are related to one entry of a list without repetition are the same, where each is
related to one entry only. -/
theorem eq_of_related {R : α → β → Prop} {xs : List α} {ys : List β} (h : List.Forall₂ R xs ys)
    (hnodup : ys.Nodup) (hunique : ∀ x y y', R x y → R x y' → y = y') {a b : α} {y : β}
    (ha : a ∈ xs) (hb : b ∈ xs) (hay : R a y) (hby : R b y) : a = b := by
  induction h with
  | nil => cases ha
  | @cons x y₀ xs ys hx hrest ih =>
    obtain ⟨hy₀, hys⟩ := List.nodup_cons.1 hnodup
    have hlater : ∀ c ∈ xs, R x y → R c y → False := by
      intro c hc hxy hcy
      obtain ⟨y', hy', hcy'⟩ := exists_right hrest hc
      obtain rfl := hunique c y y' hcy hcy'
      exact hy₀ (hunique x y₀ y hx hxy ▸ hy')
    rcases List.mem_cons.1 ha with rfl | ha' <;> rcases List.mem_cons.1 hb with rfl | hb'
    · rfl
    · exact (hlater b hb' hay hby).elim
    · exact (hlater a ha' hby hay).elim
    · exact ih hys ha' hb'

/-- A list of steps ends well when each step does. -/
theorem mapM_eq_ok {f : α → Except ε β} {xs : List α} {ys : List β} :
    xs.mapM f = .ok ys ↔ List.Forall₂ (fun x y => f x = .ok y) xs ys := by
  induction xs generalizing ys with
  | nil => simp [eq_comm]
  | cons x xs ih =>
    rw [List.mapM_cons, bind_eq_ok, List.forall₂_cons_left_iff]
    constructor
    · rintro ⟨y, hy, h⟩
      obtain ⟨rest, hrest, h⟩ := bind_eq_ok.1 h
      exact ⟨y, rest, hy, ih.1 hrest, (Except.ok.inj h).symm⟩
    · rintro ⟨y, rest, hy, hrest, rfl⟩
      exact ⟨y, hy, bind_eq_ok.2 ⟨rest, ih.2 hrest, rfl⟩⟩

/-- A list of steps fails with its first step that fails. -/
theorem mapM_eq_error {f : α → Except ε β} {xs : List α} {e : ε} :
    xs.mapM f = .error e ↔ ∃ before x after ys, xs = before ++ x :: after ∧
      List.Forall₂ (fun x y => f x = .ok y) before ys ∧ f x = .error e := by
  induction xs with
  | nil => simp
  | cons x xs ih =>
    rw [List.mapM_cons, bind_eq_error]
    constructor
    · rintro (hx | ⟨y, hy, h⟩)
      · exact ⟨[], x, xs, [], rfl, .nil, hx⟩
      · obtain hrest | ⟨rest, -, h⟩ := bind_eq_error.1 h
        · obtain ⟨before, z, after, ys, rfl, hbefore, hz⟩ := ih.1 hrest
          exact ⟨x :: before, z, after, y :: ys, rfl, .cons hy hbefore, hz⟩
        · cases h
    · rintro ⟨before, z, after, ys, hxs, hbefore, hz⟩
      cases hbefore with
      | nil =>
        obtain ⟨rfl, rfl⟩ := List.cons.inj hxs
        exact .inl hz
      | @cons a y before ys hy hbefore =>
        obtain ⟨rfl, rfl⟩ := List.cons.inj hxs
        exact .inr ⟨y, hy, bind_eq_error.2 (.inl (ih.2 ⟨before, z, after, ys, rfl, hbefore, hz⟩))⟩

/-- Steps of which each ends well give their ends in order. -/
theorem mapM_eq_ok_map {f : α → Except ε β} {g : α → β} {xs : List α}
    (h : ∀ x ∈ xs, f x = .ok (g x)) : xs.mapM f = .ok (xs.map g) := by
  rw [mapM_eq_ok, List.forall₂_map_right_iff, List.forall₂_same]
  exact h

/-- Steps over related entries end alike. -/
theorem mapM_of_related {R : α → α → Prop} {xs xs' : List α} (h : List.Forall₂ R xs xs')
    {f f' : α → Except ε β} (hf : ∀ x x' y, R x x' → f x = .ok y → f' x' = .ok y) {ys : List β}
    (hys : xs.mapM f = .ok ys) : xs'.mapM f' = .ok ys := by
  rw [mapM_eq_ok] at hys ⊢
  induction h generalizing ys with
  | nil =>
    cases hys
    exact .nil
  | cons hx _ ih =>
    cases hys with
    | cons hy hrest => exact .cons (hf _ _ _ hx hy) (ih hrest)

/-- A reader that undoes a writer on the entries of a list undoes it on the list. -/
theorem mapM_map_eq_ok {read : β → Except ε α} {write : α → β} {xs : List α}
    (h : ∀ a ∈ xs, read (write a) = .ok a) : (xs.map write).mapM read = .ok xs := by
  rw [mapM_eq_ok, List.forall₂_map_left_iff, List.forall₂_same]
  exact h

/-- What a step of a fold establishes for its entry, and no later step undoes, holds in the end. -/
theorem forall_of_foldlM {f : β → α → Except ε β} {R : β → β → Prop} {P : α → β → Prop}
    (hrefl : ∀ b, R b b) (htrans : ∀ b b' b'', R b b' → R b' b'' → R b b'')
    (hkeep : ∀ x b b', P x b → R b b' → P x b')
    (hstep : ∀ b x b', f b x = .ok b' → R b b' ∧ P x b') {xs : List α} {b b' : β}
    (h : xs.foldlM f b = .ok b') : R b b' ∧ ∀ x ∈ xs, P x b' := by
  induction xs generalizing b with
  | nil =>
    obtain rfl := Except.ok.inj h
    exact ⟨hrefl b, by simp⟩
  | cons x xs ih =>
    rw [List.foldlM_cons] at h
    obtain ⟨next, hnext, hrest⟩ := bind_eq_ok.1 h
    obtain ⟨hR, hP⟩ := hstep b x next hnext
    obtain ⟨hR', hall⟩ := ih hrest
    refine ⟨htrans b next b' hR hR', fun y hy => ?_⟩
    rcases List.mem_cons.1 hy with rfl | hy
    · exact hkeep y next b' hP hR'
    · exact hall y hy

section Orders

variable {f : β → α → Except ε β} {S : β → β → Prop}
  (hstep : ∀ b b' x c, S b b' → f b x = .ok c → ∃ c', f b' x = .ok c' ∧ S c c')

include hstep

/-- A fold from a state that is alike ends in one that is alike. -/
theorem foldlM_of_alike {xs : List α} {b b' c : β} (hb : S b b') (h : xs.foldlM f b = .ok c) :
    ∃ c', xs.foldlM f b' = .ok c' ∧ S c c' := by
  induction xs generalizing b b' with
  | nil =>
    obtain rfl := Except.ok.inj h
    exact ⟨b', rfl, hb⟩
  | cons x xs ih =>
    rw [List.foldlM_cons] at h
    obtain ⟨next, hnext, hrest⟩ := bind_eq_ok.1 h
    obtain ⟨next', hnext', halike⟩ := hstep b b' x next hb hnext
    obtain ⟨c', hc', hc⟩ := ih halike hrest
    exact ⟨c', by rw [List.foldlM_cons, hnext', ok_bind, hc'], hc⟩

/-- Steps that can change places end alike in every order. -/
theorem foldlM_perm (hrefl : ∀ b, S b b) (htrans : ∀ b b' b'', S b b' → S b' b'' → S b b'')
    (hswap : ∀ b x y c d, f b x = .ok c → f c y = .ok d →
      ∃ c' d', f b y = .ok c' ∧ f c' x = .ok d' ∧ S d d')
    {xs xs' : List α} (hperm : xs.Perm xs') {b b' c : β} (hb : S b b')
    (h : xs.foldlM f b = .ok c) : ∃ c', xs'.foldlM f b' = .ok c' ∧ S c c' := by
  induction hperm generalizing b b' c with
  | nil => exact foldlM_of_alike hstep hb h
  | cons x _ ih =>
    rw [List.foldlM_cons] at h
    obtain ⟨next, hnext, hrest⟩ := bind_eq_ok.1 h
    obtain ⟨next', hnext', halike⟩ := hstep b b' x next hb hnext
    obtain ⟨c', hc', hc⟩ := ih halike hrest
    exact ⟨c', by rw [List.foldlM_cons, hnext', ok_bind, hc'], hc⟩
  | swap y x xs =>
    rw [List.foldlM_cons] at h
    obtain ⟨first, hfirst, h⟩ := bind_eq_ok.1 h
    rw [List.foldlM_cons] at h
    obtain ⟨second, hsecond, hrest⟩ := bind_eq_ok.1 h
    obtain ⟨first', second', hfirst', hsecond', halike⟩ := hswap b x y first second hfirst hsecond
    -- the steps in the other order, first from one state and then from the other
    obtain ⟨first'', hfirst'', halike'⟩ := hstep b b' y first' hb hfirst'
    obtain ⟨second'', hsecond'', halike''⟩ := hstep first' first'' x second' halike' hsecond'
    obtain ⟨c', hc', hc⟩ :=
      foldlM_of_alike hstep (htrans _ _ _ halike halike'') hrest
    refine ⟨c', ?_, hc⟩
    rw [List.foldlM_cons, hfirst'', ok_bind, List.foldlM_cons, hsecond'', ok_bind, hc']
  | trans _ _ ih ih' =>
    obtain ⟨next, hnext, halike⟩ := ih hb h
    obtain ⟨c', hc', hc⟩ := ih' (hrefl b') hnext
    exact ⟨c', hc', htrans _ _ _ halike hc⟩

end Orders

/-- Whatever a step fails with has a property. -/
def FailsOnly (P : ε → Prop) (x : Except ε α) : Prop := ∀ e, x = .error e → P e

namespace FailsOnly

variable {P : ε → Prop}

@[simp] theorem ok (a : α) : FailsOnly P (.ok a) := by rintro _ ⟨⟩

@[simp] theorem error_iff {e : ε} : FailsOnly P (.error e : Except ε α) ↔ P e := by
  simp [FailsOnly]

theorem bind {x : Except ε α} {f : α → Except ε β} (hx : FailsOnly P x)
    (hf : ∀ a, FailsOnly P (f a)) : FailsOnly P (x >>= f) := by
  cases x with
  | ok a => exact hf a
  | error e => exact error_iff.2 (error_iff.1 hx)

theorem map {x : Except ε α} (hx : FailsOnly P x) (f : α → β) : FailsOnly P (x.map f) := by
  cases x with
  | ok a => exact ok (f a)
  | error e => exact error_iff.2 (error_iff.1 hx)

theorem mapError {x : Except ε α} {f : ε → ε'} {P : ε' → Prop} (hf : ∀ e, P (f e)) :
    FailsOnly P (x.mapError f) := by
  cases x with
  | ok a => exact ok a
  | error e => exact error_iff.2 (hf e)

theorem mono {Q : ε → Prop} {x : Except ε α} (hx : FailsOnly P x) (h : ∀ e, P e → Q e) :
    FailsOnly Q x := fun e he => h e (hx e he)

/-- A step for every entry fails only as one of the steps does. -/
theorem mapM_of_mem {f : α → Except ε β} {xs : List α} (hf : ∀ a ∈ xs, FailsOnly P (f a)) :
    FailsOnly P (xs.mapM f) := by
  induction xs with
  | nil => exact ok []
  | cons x xs ih =>
    obtain ⟨hx, hxs⟩ := List.forall_mem_cons.1 hf
    rw [List.mapM_cons]
    exact hx.bind fun _ => (ih hxs).bind fun _ => ok _

theorem mapM {f : α → Except ε β} (hf : ∀ a, FailsOnly P (f a)) (xs : List α) :
    FailsOnly P (xs.mapM f) := mapM_of_mem fun a _ => hf a

/-- A fold fails only as one of its steps does. -/
theorem foldlM_of_mem {f : β → α → Except ε β} {xs : List α}
    (hf : ∀ b, ∀ a ∈ xs, FailsOnly P (f b a)) (b : β) : FailsOnly P (xs.foldlM f b) := by
  induction xs generalizing b with
  | nil => exact ok b
  | cons x xs ih =>
    rw [List.foldlM_cons]
    exact (hf b x List.mem_cons_self).bind
      (ih fun b a ha => hf b a (List.mem_cons_of_mem _ ha))

theorem foldlM {f : β → α → Except ε β} (hf : ∀ b a, FailsOnly P (f b a)) (xs : List α) (b : β) :
    FailsOnly P (xs.foldlM f b) := foldlM_of_mem (fun b a _ => hf b a) b

theorem update {κ : Type} {f : α → Except ε α} (hf : ∀ a, FailsOnly P (f a)) (t : Table κ α) :
    FailsOnly P (t.update f).2 := by
  have hentries : ∀ entries : List (κ × α), FailsOnly P (Table.changeUntil f entries).2 := by
    intro entries
    induction entries with
    | nil => exact ok ()
    | cons entry rest ih =>
      have hentry := hf entry.2
      simp only [Table.changeUntil]
      split
      · rename_i e he
        exact error_iff.2 (hentry e he)
      · exact ih
  exact hentries t.entries

end FailsOnly

end Bindery.Outcome
