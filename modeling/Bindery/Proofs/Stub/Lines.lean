import Bindery.Proofs.Ty.Term
import Bindery.Stub.Lines
import Mathlib.Data.List.DropRight
/-!
# The lines of a text

Two texts of equally many lines are equal only if the lines are, as long as no line has a line feed
in it. The line feeds at the end that the text of a file loses make no difference then.
-/
namespace Bindery.Stub

/-- No line has a line feed in it. -/
def Unbroken (lines : List String) : Prop := ∀ line ∈ lines, '\n' ∉ line.toList

instance (lines : List String) : Decidable (Unbroken lines) := List.decidableBAll _ lines

variable {lines lines' : List String} {x y : List Char}

theorem toList_join_cons (line next : String) (rest : List String) :
    (Text.join "\n" (line :: next :: rest)).toList =
      line.toList ++ '\n' :: (Text.join "\n" (next :: rest)).toList := by
  simp [Text.join]

theorem count_join (h : Unbroken lines) :
    (Text.join "\n" lines).toList.count '\n' = lines.length - 1 := by
  induction lines with
  | nil => rfl
  | cons line rest ih =>
    obtain ⟨hline, hrest⟩ := List.forall_mem_cons.1 h
    cases rest with
    | nil => simpa [Text.join] using List.count_eq_zero.2 hline
    | cons next rest =>
      rw [toList_join_cons, List.count_append, List.count_cons_self, ih hrest,
        List.count_eq_zero.2 hline]
      simp

/-- Unbroken lines can be told from the text that joins them. -/
theorem join_inj (h : Unbroken lines) (h' : Unbroken lines')
    (hlength : lines.length = lines'.length)
    (hjoin : (Text.join "\n" lines).toList = (Text.join "\n" lines').toList) : lines = lines' := by
  induction lines generalizing lines' with
  | nil => exact (List.length_eq_zero_iff.1 hlength.symm).symm
  | cons line rest ih =>
    cases lines' with
    | nil => cases hlength
    | cons line' rest' =>
      obtain ⟨hline, hrest⟩ := List.forall_mem_cons.1 h
      obtain ⟨hline', hrest'⟩ := List.forall_mem_cons.1 h'
      have hlength : rest.length = rest'.length := Nat.succ.inj hlength
      cases rest with
      | nil =>
        obtain rfl := List.length_eq_zero_iff.1 hlength.symm
        simpa [Text.join] using String.toList_inj.1 hjoin
      | cons next rest =>
        cases rest' with
        | nil => cases hlength
        | cons next' rest' =>
          rw [toList_join_cons, toList_join_cons] at hjoin
          obtain ⟨hhead, htail⟩ := Term.word_inj hline hline' hjoin
          rw [String.toList_inj.1 hhead, ih hrest hrest' hlength htail]

/-- Texts that differ only in the number of line feeds at their ends. -/
theorem eq_of_rdropWhile (h : x.rdropWhile (· = '\n') = y.rdropWhile (· = '\n'))
    (hcount : x.count '\n' = y.count '\n') : x = y := by
  have hsplit : ∀ chars : List Char,
      ∃ n, chars = chars.rdropWhile (· = '\n') ++ List.replicate n '\n' := by
    intro chars
    have hfeeds : ∀ c ∈ chars.rtakeWhile (· = '\n'), c = '\n' := fun c hc => by
      simpa using List.mem_rtakeWhile_imp hc
    exact ⟨_, by rw [← List.eq_replicate_of_mem hfeeds, List.rdropWhile_append_rtakeWhile]⟩
  obtain ⟨m, hx⟩ := hsplit x
  obtain ⟨n, hy⟩ := hsplit y
  rw [hx, hy, h, List.count_append, List.count_append, List.count_replicate_self,
    List.count_replicate_self] at hcount
  rw [hx, hy, h, Nat.add_left_cancel hcount]

/-- Unbroken lines can be told from the text of a file that has them. -/
theorem fileText_inj (h : Unbroken lines) (h' : Unbroken lines')
    (hlength : lines.length = lines'.length) (htext : fileText lines = fileText lines') :
    lines = lines' := by
  have hchars := List.append_cancel_right (String.ofList_inj.1 htext)
  refine join_inj h h' hlength (eq_of_rdropWhile hchars ?_)
  rw [count_join h, count_join h', hlength]

/-- A line stands in a text, behind another one and with its line feed. -/
def HasLine (text line : String) : Prop :=
  ∃ before behind, text.toList = before ++ '\n' :: line.toList ++ '\n' :: behind

/-- A text that ends with a character which is no line feed. -/
def EndsPlain (text : String) : Prop :=
  ∃ front last, text.toList = front ++ [last] ∧ last ≠ '\n'

theorem EndsPlain.append {text : String} (h : EndsPlain text) (head : String) :
    EndsPlain (head ++ text) := by
  obtain ⟨front, last, htext, hlast⟩ := h
  exact ⟨head.toList ++ front, last, by rw [String.toList_append, htext, List.append_assoc], hlast⟩

theorem toList_join_append {front rest : List String} (hfront : front ≠ []) (hrest : rest ≠ []) :
    (Text.join "\n" (front ++ rest)).toList =
      (Text.join "\n" front).toList ++ '\n' :: (Text.join "\n" rest).toList := by
  induction front with
  | nil => exact absurd rfl hfront
  | cons line front ih =>
    cases front with
    | nil =>
      obtain ⟨next, rest, rfl⟩ := List.exists_cons_of_ne_nil hrest
      rw [List.singleton_append, toList_join_cons]
      rfl
    | cons next front =>
      rw [List.cons_append, List.cons_append, toList_join_cons, ← List.cons_append,
        ih (List.cons_ne_nil _ _), toList_join_cons, List.append_assoc, List.cons_append]

/-- Characters behind the last one that is no line feed may be lost at the end of a text. -/
theorem rdropWhile_behind {c : Char} (hc : c ≠ '\n') (front behind : List Char) :
    (front ++ c :: behind).rdropWhile (· = '\n') =
      front ++ c :: behind.rdropWhile (· = '\n') := by
  induction behind using List.reverseRecOn with
  | nil => exact List.rdropWhile_concat_neg _ _ _ (by simpa using hc)
  | append_singleton behind d ih =>
    rw [← List.cons_append, ← List.append_assoc]
    by_cases hd : d = '\n'
    · rw [List.rdropWhile_concat_pos _ _ _ (by simpa using hd), ih,
        List.rdropWhile_concat_pos _ _ _ (by simpa using hd)]
    · rw [List.rdropWhile_concat_neg _ _ _ (by simpa using hd),
        List.rdropWhile_concat_neg _ _ _ (by simpa using hd)]
      simp

theorem exists_join_cons (line : String) (behind : List String) :
    ∃ more, (Text.join "\n" (line :: behind)).toList = line.toList ++ more ∧
      ∀ d ∈ more.head?, d = '\n' := by
  cases behind with
  | nil => exact ⟨[], by simp [Text.join], by simp⟩
  | cons next behind => exact ⟨_, toList_join_cons line next behind, by simp⟩

/-- A line that does not end with a line feed stands in the text of a file that has it. -/
theorem hasLine_fileText {before : List String} {line : String} (hbefore : before ≠ [])
    (hend : EndsPlain line) (behind : List String) :
    HasLine (fileText (before ++ line :: behind)) line := by
  obtain ⟨front, c, hline, hc⟩ := hend
  obtain ⟨more, hmore, hfeed⟩ := exists_join_cons line behind
  have hchars : (Text.join "\n" (before ++ line :: behind)).toList =
      ((Text.join "\n" before).toList ++ '\n' :: front) ++ c :: more := by
    rw [toList_join_append hbefore (List.cons_ne_nil _ _), hmore, hline]
    simp
  have htext : (fileText (before ++ line :: behind)).toList =
      (Text.join "\n" before).toList ++ '\n' :: line.toList ++
        (more.rdropWhile (· = '\n') ++ ['\n']) := by
    have hdrop := rdropWhile_behind hc ((Text.join "\n" before).toList ++ '\n' :: front) more
    rw [← hchars, List.rdropWhile] at hdrop
    rw [fileText, String.toList_ofList, hdrop, hline]
    simp
  have hbehind : ∃ rest, more.rdropWhile (· = '\n') ++ ['\n'] = '\n' :: rest := by
    obtain ⟨lost, hlost⟩ := List.rdropWhile_prefix (· = '\n') (l := more)
    cases hkept : more.rdropWhile (· = '\n') with
    | nil => exact ⟨[], rfl⟩
    | cons d kept =>
      rw [← hlost, hkept] at hfeed
      obtain rfl := hfeed d rfl
      exact ⟨kept ++ ['\n'], rfl⟩
  obtain ⟨rest, hrest⟩ := hbehind
  exact ⟨_, rest, by rw [htext, hrest]⟩

end Bindery.Stub
