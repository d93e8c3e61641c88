import Bindery.Text.Lines
import Mathlib.Data.List.Infix
/-!
# Cutting a text into lines

One step of `splitLines` at a character that ends a line, and one at a character that does not. Line
ends that were made one leave no carriage return.
-/
namespace Bindery.Text

variable {c : Char} {u line : List Char} {lines : List (List Char)}

/-- A line end cuts, but not behind a carriage return in front of a line feed. -/
theorem splitLines_cons_of_end (hc : isLineEnd c = true) (u : List Char) :
    splitLines (c :: u) =
      if c = '\r' ∧ u.head? = some '\n' then splitLines u else [] :: splitLines u := by
  have hfeed : isLineEnd '\n' = true := by decide
  match u with
  | [] => simp [splitLines, hc]
  | d :: v =>
    by_cases hd : c = '\r' ∧ d = '\n'
    · obtain ⟨rfl, rfl⟩ := hd
      simp [splitLines, hfeed]
    · rw [splitLines.eq_3 c (d :: v) fun w hr hw => hd ⟨hr, (List.cons_eq_cons.1 hw).1⟩]
      simp [hc, hd]

theorem splitLines_cons_of_mid (hc : isLineEnd c = false) (u : List Char) :
    splitLines (c :: u) =
      match splitLines u with
      | [] => [[c]]
      | line :: lines => (c :: line) :: lines := by
  rw [splitLines.eq_3]
  · cases splitLines u <;> simp [hc]
  · rintro _ rfl
    exact absurd hc (by decide)

/-- A text starts with its first line. -/
theorem prefix_of_splitLines (h : splitLines u = line :: lines) : line <+: u := by
  induction u generalizing line lines with
  | nil => cases h
  | cons c u ih =>
    cases hc : isLineEnd c with
    | true =>
      suffices line = [] from this ▸ List.nil_prefix
      rw [splitLines_cons_of_end hc] at h
      split at h
      · rename_i hcr
        obtain ⟨v, rfl⟩ := List.head?_eq_some_iff.1 hcr.2
        rw [splitLines_cons_of_end (by decide), if_neg (by simp)] at h
        exact (List.cons_eq_cons.1 h).1.symm
      · exact (List.cons_eq_cons.1 h).1.symm
    | false =>
      rw [splitLines_cons_of_mid hc] at h
      cases hlines : splitLines u with
      | nil =>
        rw [hlines] at h
        exact (List.cons_eq_cons.1 h).1 ▸ (List.prefix_cons_inj c).2 List.nil_prefix
      | cons first others =>
        rw [hlines] at h
        exact (List.cons_eq_cons.1 h).1 ▸ (List.prefix_cons_inj c).2 (ih hlines)

/-- No carriage return is left once line ends are made one. -/
theorem cr_not_mem_unifyLineEnds (u : List Char) : '\r' ∉ unifyLineEnds u := by
  fun_induction unifyLineEnds u with
  | case1 => simp
  | case2 rest ih => simp [ih]
  | case3 rest _ ih => simp [ih]
  | case4 c rest _ hc ih => simp [ih, Ne.symm hc]

/-- Only a carriage return is read as something else. -/
theorem unifyLineEnds_eq_self_iff : unifyLineEnds u = u ↔ '\r' ∉ u := by
  refine ⟨fun h => h ▸ cr_not_mem_unifyLineEnds u, ?_⟩
  fun_induction unifyLineEnds u with
  | case1 => simp
  | case2 rest ih => simp
  | case3 rest _ ih => simp
  | case4 c rest _ hc ih =>
    intro h
    rw [ih fun hmem => h (List.mem_cons_of_mem c hmem)]

end Bindery.Text
