import Bindery.Proofs.Stub.Lines
import Bindery.Proofs.Text.Lines
/-!
# Docstrings as literals

The lines of a docstring are read back as one literal between three double quotes. Text of more
than one line is always closed by the quotes behind it, since they stand on a line of their own.
Text on one line has them right behind its last character: whether they close it there depends on
the quotes and backslashes that it ends with.
-/
namespace Bindery.Stub

variable {c : Char} {u rest : List Char}

/-- What follows the literal whose opening quotes have been read. A backslash takes the next
character with it, and the first three double quotes in a row that are left end the literal. -/
def afterLiteral : List Char → Option (List Char)
  | [] => none
  | ['\\'] => none
  | '\\' :: _ :: rest => afterLiteral rest
  | '"' :: '"' :: '"' :: rest => some rest
  | _ :: rest => afterLiteral rest

/-- Tabs and a literal that ends where the text ends. -/
def IsLiteral (depth : Nat) (chars : List Char) : Prop :=
  (Text.dropHead? (List.replicate depth '\t' ++ tripleQuote) chars).bind afterLiteral = some []

instance (depth : Nat) (chars : List Char) : Decidable (IsLiteral depth chars) :=
  inferInstanceAs (Decidable (_ = _))

theorem afterLiteral_cons (hquote : c ≠ '"') (hback : c ≠ '\\') :
    afterLiteral (c :: rest) = afterLiteral rest := by
  rw [afterLiteral.eq_5] <;> simp [hquote, hback]

theorem afterLiteral_quote (h : ∀ v, rest ≠ '"' :: '"' :: v) :
    afterLiteral ('"' :: rest) = afterLiteral rest := by
  rw [afterLiteral.eq_5] <;> simp_all

theorem afterLiteral_tabs (n : Nat) :
    afterLiteral (List.replicate n '\t' ++ rest) = afterLiteral rest := by
  induction n with
  | zero => rfl
  | succ n ih =>
    rw [List.replicate_succ, List.cons_append, afterLiteral_cons (by decide) (by decide), ih]

/-- How many double quotes a text ends with. -/
def quotesAtEnd (text : List Char) : Nat := (text.rtakeWhile (· = '"')).length

/-- How many backslashes stand in front of the double quotes that a text ends with. -/
def backslashesAtEnd (text : List Char) : Nat :=
  ((text.rdropWhile (· = '"')).rtakeWhile (· = '\\')).length

/-- Three double quotes behind a text close the literal that it stands in, and nothing is left of
them. Without quotes at its end that is so unless a backslash takes the first of the three. With
quotes at its end it is so only if they are escaped three by three, or if there is just one and a
backslash takes it. -/
def Closable (text : List Char) : Prop :=
  if quotesAtEnd text = 0 then backslashesAtEnd text % 2 = 0
  else quotesAtEnd text % 3 = 0 ∨ quotesAtEnd text = 1 ∧ backslashesAtEnd text % 2 = 1

instance (text : List Char) : Decidable (Closable text) := by
  unfold Closable
  infer_instance

theorem length_rtakeWhile_cons (p : Char → Bool) (c : Char) (u : List Char) :
    ((c :: u).rtakeWhile p).length =
      if p c ∧ (u.rtakeWhile p).length = u.length then u.length + 1
      else (u.rtakeWhile p).length := by
  simp only [List.rtakeWhile, List.reverse_cons, List.takeWhile_append, List.length_reverse]
  by_cases hall : (u.reverse.takeWhile p).length = u.length <;> cases hc : p c <;>
    simp [hall, hc]

theorem rdropWhile_cons (p : Char → Bool) (c : Char) (u : List Char) :
    (c :: u).rdropWhile p =
      if p c ∧ u.rdropWhile p = [] then [] else c :: u.rdropWhile p := by
  simp only [List.rdropWhile, List.reverse_cons, List.dropWhile_append, List.reverse_eq_nil_iff]
  by_cases hall : u.reverse.dropWhile p = [] <;> cases hc : p c <;> simp [hall, hc]

theorem length_rdropWhile_add (p : Char → Bool) (u : List Char) :
    (u.rdropWhile p).length + (u.rtakeWhile p).length = u.length := by
  rw [← List.length_append, List.rdropWhile_append_rtakeWhile]

/-- A character in front counts among the quotes at the end only if all others do. -/
theorem quotesAtEnd_cons (c : Char) (u : List Char) :
    quotesAtEnd (c :: u) =
      if c = '"' ∧ quotesAtEnd u = u.length then u.length + 1 else quotesAtEnd u := by
  have hlength := length_rtakeWhile_cons (· = '"') c u
  grind [quotesAtEnd]

theorem backslashesAtEnd_add_le (u : List Char) :
    backslashesAtEnd u + quotesAtEnd u ≤ u.length := by
  have hsplit := length_rdropWhile_add (· = '"') u
  have hsplit' := length_rdropWhile_add (· = '\\') (u.rdropWhile (· = '"'))
  unfold backslashesAtEnd quotesAtEnd
  omega

theorem backslashesAtEnd_cons (c : Char) (u : List Char) :
    backslashesAtEnd (c :: u) =
      if c = '\\' ∧ backslashesAtEnd u + quotesAtEnd u = u.length then backslashesAtEnd u + 1
      else backslashesAtEnd u := by
  have hsplit := length_rdropWhile_add (· = '"') u
  unfold backslashesAtEnd quotesAtEnd at *
  rw [rdropWhile_cons]
  split
  · rename_i h
    have hc : c ≠ '\\' := by
      rintro rfl
      simp at h
    simp [h.2, hc]
  · rw [length_rtakeWhile_cons]
    by_cases hc : c = '\\' <;> simp only [hc, decide_true, decide_false] <;> grind

/-- Whether a text can be closed does not depend on a plain character in front. -/
theorem closable_cons (hquote : c ≠ '"') (hback : c ≠ '\\') : Closable (c :: u) ↔ Closable u := by
  simp [Closable, quotesAtEnd_cons, backslashesAtEnd_cons, hquote, hback]

/-- A run of three double quotes in front makes no difference, also behind a backslash. -/
theorem closable_triple (u : List Char) :
    Closable ('"' :: '"' :: '"' :: u) ↔ Closable u := by
  have hle := backslashesAtEnd_add_le u
  simp only [Closable, quotesAtEnd_cons, backslashesAtEnd_cons, List.length_cons]
  grind

/-- A backslash in front of three quotes changes nothing, for these are escaped. -/
theorem closable_back_triple (u : List Char) :
    Closable ('\\' :: '"' :: '"' :: '"' :: u) ↔ Closable u := by
  have hle := backslashesAtEnd_add_le u
  simp only [Closable, quotesAtEnd_cons, backslashesAtEnd_cons, List.length_cons]
  grind

/-- The text behind a quote that starts no run of three is quotes only if it is short. -/
theorem length_lt_of_quotesAtEnd (h : ∀ v, c = '"' → u = '"' :: '"' :: v → False) (hc : c = '"')
    (hall : quotesAtEnd u = u.length) : u.length < 2 := by
  have hle := backslashesAtEnd_add_le u
  match u with
  | [] | [_] => simp
  | d :: e :: v =>
    have hle := backslashesAtEnd_add_le v
    simp only [quotesAtEnd_cons, List.length_cons] at hall
    obtain ⟨rfl, rfl⟩ : d = '"' ∧ e = '"' := by grind
    exact (h v hc rfl).elim

theorem closable_back_cons (h : ∀ v, c = '"' → u = '"' :: '"' :: v → False) :
    Closable ('\\' :: c :: u) ↔ Closable u := by
  have hle := backslashesAtEnd_add_le u
  have hshort := length_lt_of_quotesAtEnd h
  simp only [Closable, quotesAtEnd_cons, backslashesAtEnd_cons, List.length_cons]
  grind

theorem closable_quote_cons (h : ∀ v, c :: u ≠ '"' :: '"' :: v) :
    Closable ('"' :: c :: u) ↔ Closable (c :: u) := by
  have hle := backslashesAtEnd_add_le (c :: u)
  have hshort := length_lt_of_quotesAtEnd (fun v _ hu => h v hu) rfl
  simp only [Closable, quotesAtEnd_cons '"', backslashesAtEnd_cons '"', List.length_cons]
  grind

theorem escapeTriple_cons (h : ∀ v, c = '"' → u = '"' :: '"' :: v → False) :
    escapeTriple (c :: u) = c :: escapeTriple u := by
  rw [escapeTriple.eq_3]
  exact h

theorem mem_escapeTriple : '\n' ∈ escapeTriple u ↔ '\n' ∈ u := by
  induction u using escapeTriple.induct with
  | case1 => rfl
  | case2 u ih => simp [escapeTriple, ih]
  | case3 c u h ih => rw [escapeTriple_cons h, List.mem_cons, List.mem_cons, ih]

/-- Escaped text starts with a line end where the text does. -/
theorem head?_escapeTriple : (escapeTriple u).head? = some '\n' ↔ u.head? = some '\n' := by
  cases u using escapeTriple.fun_cases with
  | case1 => rfl
  | case2 u => simp [escapeTriple]
  | case3 c u h => rw [escapeTriple_cons h, List.head?_cons, List.head?_cons]

/-- No run of three double quotes goes across the end of a line. -/
theorem splitLines_escapeTriple (u : List Char) :
    Text.splitLines (escapeTriple u) = (Text.splitLines u).map escapeTriple := by
  have hquote : Text.isLineEnd '"' = false := by decide
  have hback : Text.isLineEnd '\\' = false := by decide
  induction u using escapeTriple.induct with
  | case1 => rfl
  | case2 u ih =>
    simp only [escapeTriple, Text.splitLines_cons_of_mid hquote,
      Text.splitLines_cons_of_mid hback, ih]
    cases Text.splitLines u <;> simp [escapeTriple]
  | case3 c u h ih =>
    rw [escapeTriple_cons h]
    cases hc : Text.isLineEnd c with
    | true =>
      simp only [Text.splitLines_cons_of_end hc, head?_escapeTriple, ih]
      split <;> simp [escapeTriple]
    | false =>
      rw [Text.splitLines_cons_of_mid hc, Text.splitLines_cons_of_mid hc, ih]
      cases hlines : Text.splitLines u with
      | nil => simp [escapeTriple]
      | cons line lines =>
        rw [List.map_cons, List.map_cons, escapeTriple_cons]
        rintro v rfl rfl
        obtain ⟨w, rfl⟩ := Text.prefix_of_splitLines hlines
        exact h (v ++ w) rfl rfl

/-- What is written for a text starts with a double quote only if the text does. -/
theorem escapeTriple_append_ne_quote {tail : List Char} (h : ∀ v, u ++ tail ≠ '"' :: v)
    (v : List Char) : escapeTriple u ++ tail ≠ '"' :: v := by
  cases u using escapeTriple.fun_cases with
  | case1 => exact h v
  | case2 u => simp [escapeTriple]
  | case3 c u hc =>
    rw [escapeTriple_cons hc]
    intro heq
    exact h (u ++ tail) (by simp_all)

/-- What is written for a text starts with two double quotes only if the text does. -/
theorem escapeTriple_append_ne {tail : List Char} (h : ∀ v, u ++ tail ≠ '"' :: '"' :: v)
    (v : List Char) : escapeTriple u ++ tail ≠ '"' :: '"' :: v := by
  cases u using escapeTriple.fun_cases with
  | case1 => exact h v
  | case2 u => simp [escapeTriple]
  | case3 c u hc =>
    rw [escapeTriple_cons hc]
    intro heq
    obtain ⟨rfl, htail⟩ := List.cons_eq_cons.1 heq
    exact escapeTriple_append_ne_quote (fun w hw => h w (congrArg ('"' :: ·) hw)) v htail

/-- Both statements go through the induction together: a backslash of the text is followed by
escaped text, and what it takes is the first character of that. -/
theorem afterLiteral_escaped_iff (u : List Char) :
    (afterLiteral (escapeTriple u ++ tripleQuote) = some [] ↔ Closable u) ∧
      (afterLiteral ('\\' :: (escapeTriple u ++ tripleQuote)) = some [] ↔ Closable ('\\' :: u)) := by
  induction u using escapeTriple.induct with
  | case1 => decide
  | case2 u ih =>
    simp [escapeTriple, afterLiteral, closable_triple, closable_back_triple, ih.1]
  | case3 c u h ih =>
    rw [escapeTriple_cons h]
    refine ⟨?_, by simp [afterLiteral, closable_back_cons h, ih.1]⟩
    by_cases hback : c = '\\'
    · subst hback
      exact ih.2
    by_cases hquote : c = '"'
    · -- One or two quotes and nothing behind them make four or five with the closing ones.
      subst hquote
      by_cases hshort : u = [] ∨ u = ['"']
      · obtain rfl | rfl := hshort <;> decide
      rw [List.cons_append, afterLiteral_quote, ih.1]
      · obtain ⟨d, v, rfl⟩ := List.exists_cons_of_ne_nil (hshort ∘ .inl)
        exact (closable_quote_cons fun w => h w rfl).symm
      · refine escapeTriple_append_ne fun w heq => ?_
        match u with
        | [] | [_] => simp_all
        | d :: e :: v => exact h v rfl (by simp_all)
    · rw [List.cons_append, afterLiteral_cons hquote hback, closable_cons hquote hback]
      exact ih.1

/-- A line feed keeps quotes at the end of a line apart from those behind it. -/
theorem afterLiteral_escaped_feed (u rest : List Char) :
    afterLiteral (escapeTriple u ++ '\n' :: rest) = afterLiteral rest ∧
      afterLiteral ('\\' :: (escapeTriple u ++ '\n' :: rest)) = afterLiteral rest := by
  induction u using escapeTriple.induct with
  | case1 => simp [escapeTriple, afterLiteral]
  | case2 u ih => simp [escapeTriple, afterLiteral, ih.1]
  | case3 c u h ih =>
    rw [escapeTriple_cons h]
    refine ⟨?_, by simp [afterLiteral, ih.1]⟩
    by_cases hback : c = '\\'
    · subst hback
      exact ih.2
    by_cases hquote : c = '"'
    · subst hquote
      rw [List.cons_append, afterLiteral_quote, ih.1]
      refine escapeTriple_append_ne fun v heq => ?_
      match u with
      | [] | [_] => simp at heq
      | d :: e :: w => exact h w rfl (by simp_all)
    · rw [List.cons_append, afterLiteral_cons hquote hback]
      exact ih.1

theorem toList_line {depth : Nat} {text : String} (h : text ≠ "") :
    (line depth text).toList = List.replicate depth '\t' ++ text.toList := by
  simp [line, h]

/-- A line of what is written for a text leaves a literal open. -/
theorem afterLiteral_line (depth : Nat) (u rest : List Char) :
    afterLiteral ((line depth (String.ofList (escapeTriple u))).toList ++ '\n' :: rest) =
      afterLiteral rest := by
  by_cases h : String.ofList (escapeTriple u) = ""
  · simp [line, h, afterLiteral]
  · rw [toList_line h, List.append_assoc, afterLiteral_tabs, String.toList_ofList]
    exact (afterLiteral_escaped_feed u rest).1

/-- Lines without an end of the literal are passed. -/
theorem afterLiteral_join {lines : List String}
    (h : ∀ line ∈ lines, ∀ rest, afterLiteral (line.toList ++ '\n' :: rest) = afterLiteral rest)
    (last : String) :
    afterLiteral (Text.join "\n" (lines ++ [last])).toList = afterLiteral last.toList := by
  induction lines with
  | nil => rfl
  | cons line lines ih =>
    obtain ⟨hline, hlines⟩ := List.forall_mem_cons.1 h
    obtain ⟨next, others, hnext⟩ := List.exists_cons_of_ne_nil
      (List.append_ne_nil_of_right_ne_nil lines (List.cons_ne_nil last []))
    rw [List.cons_append, hnext, toList_join_cons, ← hnext, hline, ih hlines]

variable {depth : Nat}

/-- What is written behind the opening quotes of a literal decides. -/
theorem isLiteral_quotes_iff :
    IsLiteral depth ((line depth (String.ofList tripleQuote)).toList ++ rest) ↔
      afterLiteral rest = some [] := by
  rw [IsLiteral, toList_line (by decide), String.toList_ofList, Text.dropHead?_append]
  rfl

/-- A docstring on lines of its own is a literal. -/
theorem isLiteral_lines (parts : List (List Char)) :
    IsLiteral depth (Text.join "\n" (line depth (String.ofList tripleQuote) ::
      (parts.map fun part => line depth (String.ofList (escapeTriple part))) ++
        [line depth (String.ofList tripleQuote)])).toList := by
  set quotes := line depth (String.ofList tripleQuote) with hquotes
  set lines := parts.map fun part => line depth (String.ofList (escapeTriple part)) with hlines
  have hopen : ∀ line ∈ lines, ∀ rest,
      afterLiteral (line.toList ++ '\n' :: rest) = afterLiteral rest := by
    rintro _ hline rest
    obtain ⟨part, -, rfl⟩ := List.mem_map.1 hline
    exact afterLiteral_line depth part rest
  obtain ⟨next, others, hnext⟩ := List.exists_cons_of_ne_nil
    (List.append_ne_nil_of_right_ne_nil lines (List.cons_ne_nil quotes []))
  rw [List.cons_append, hnext, toList_join_cons, ← hnext, hquotes, isLiteral_quotes_iff,
    afterLiteral_cons (by decide) (by decide), afterLiteral_join hopen, toList_line (by decide),
    afterLiteral_tabs]
  rfl

/-- The three forms of a docstring. -/
theorem docstring_cases (depth : Nat) (text : Option String) :
    (text.getD "" = "" ∧ docstring depth text = []) ∨
    (text.getD "" ≠ "" ∧ '\n' ∈ (text.getD "").toList ∧
      docstring depth text =
        line depth (String.ofList tripleQuote) ::
          ((Text.splitLines (text.getD "").toList).map fun part =>
            line depth (String.ofList (escapeTriple part))) ++
          [line depth (String.ofList tripleQuote)]) ∨
    (text.getD "" ≠ "" ∧ '\n' ∉ (text.getD "").toList ∧
      docstring depth text =
        [line depth (String.ofList
          (tripleQuote ++ escapeTriple (text.getD "").toList ++ tripleQuote))]) := by
  unfold docstring
  by_cases hempty : text.getD "" = ""
  · exact .inl ⟨hempty, by simp [hempty]⟩
  have hchars : (text.getD "").toList.isEmpty = false := by simpa using hempty
  by_cases hfeed : '\n' ∈ (text.getD "").toList
  · refine .inr (.inl ⟨hempty, hfeed, ?_⟩)
    simp [hchars, mem_escapeTriple, hfeed, splitLines_escapeTriple]
  · refine .inr (.inr ⟨hempty, hfeed, ?_⟩)
    simp [hchars, mem_escapeTriple, hfeed]

/-- A docstring on one line is a literal exactly if nothing is left behind its closing quotes. -/
theorem isLiteral_line_iff :
    IsLiteral depth (line depth (String.ofList (tripleQuote ++ u ++ tripleQuote))).toList ↔
      afterLiteral (u ++ tripleQuote) = some [] := by
  have hne : String.ofList (tripleQuote ++ u ++ tripleQuote) ≠ "" := by
    simp [← String.toList_inj, tripleQuote]
  rw [toList_line hne, String.toList_ofList, IsLiteral, List.append_assoc tripleQuote,
    ← List.append_assoc, Text.dropHead?_append]
  rfl

theorem not_isLiteral_nil : ¬IsLiteral depth (Text.join "\n" []).toList := by
  cases depth <;> simp [IsLiteral, Text.join, Text.dropHead?, tripleQuote, List.replicate_succ]

/-- A text that is missing or empty leaves no lines. The lines of any other text are a single
literal behind the tabs, if there is a line feed in the text or the quotes that close the literal
can be told from the end of the text. -/
theorem docstring_isLiteral_iff (depth : Nat) (text : Option String) :
    (docstring depth text = [] ↔ text.getD "" = "") ∧
      (IsLiteral depth (Text.join "\n" (docstring depth text)).toList ↔
        text.getD "" ≠ "" ∧
          ('\n' ∈ (text.getD "").toList ∨ Closable (text.getD "").toList)) := by
  obtain ⟨hempty, hlines⟩ | ⟨hne, hfeed, hlines⟩ | ⟨hne, hfeed, hlines⟩ :=
    docstring_cases depth text
  · exact ⟨iff_of_true hlines hempty, iff_of_false (hlines ▸ not_isLiteral_nil) (·.1 hempty)⟩
  · exact ⟨iff_of_false (by simp [hlines]) hne,
      iff_of_true (hlines ▸ isLiteral_lines _) ⟨hne, .inl hfeed⟩⟩
  · refine ⟨iff_of_false (by simp [hlines]) hne, ?_⟩
    rw [hlines, Text.join, isLiteral_line_iff, (afterLiteral_escaped_iff _).1]
    simp [hne, hfeed]

/-- A quote at the end of a line and the ones that close the literal are four in a row. -/
theorem docstring_quote_at_end :
    docstring 1 (some "say \"hi\"") = ["\t\"\"\"say \"hi\"\"\"\""] ∧
      ¬IsLiteral 1 (Text.join "\n" (docstring 1 (some "say \"hi\""))).toList := by
  decide +kernel

end Bindery.Stub
