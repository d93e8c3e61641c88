import Bindery.Legacy.Items
import Bindery.Proofs.Legacy.Completeness
/-!
# The language of legacy interface files

A text that gets past the parser is a sentence of the grammar, and its file is a derivation tree of
it; and every sentence, written with spaces, gets past the parser with its tree.
-/
namespace Bindery.Legacy

/-- A printed text has no fewer characters than it has tokens. -/
theorem length_le_printed {ls : List Lexeme} (h : ∀ l ∈ ls, l.Plain) :
    ls.length ≤ (printed ls).length := by
  cases ls with
  | nil => simp
  | cons l ls =>
    obtain ⟨c, rest, htext, -⟩ := (h l List.mem_cons_self).spelled.head
    have hbehind : ls.length ≤ (printedBehind ls).length := by
      clear h
      induction ls with
      | nil => simp
      | cons l ls ih =>
        have hcons : printedBehind (l :: ls) = ' ' :: (l.text ++ printedBehind ls) := rfl
        simp only [hcons, List.length_cons, List.length_append]
        omega
    simp only [printed_cons, htext, List.length_cons, List.length_append]
    omega

/-- The first token of a printed text has no space in front. -/
theorem read_printed {ctx : Context} {ls : List Lexeme} (hplain : ∀ l ∈ ls, l.Plain)
    (hknows : ctx.Knows (frontKind ls)) :
    ∃ s, Parser.read ctx ⟨printed ls, {}⟩ {} = .ok s ∧ Ahead ((printed ls).length + 1) s ls := by
  have henough := Nat.lt_succ_of_le (length_le_printed hplain)
  cases ls with
  | nil => exact ⟨_, rfl, rfl, rfl, hplain, henough⟩
  | cons l ls =>
    have hl := hplain l List.mem_cons_self
    have hskip : ∀ fuel, (skipBlanks fuel ⟨printed (l :: ls), {}⟩).rest =
        l.text ++ printedBehind ls := by
      intro fuel
      rw [printed_cons, Parser.skipBlanks_of_none (blank?_of_token hl.spelled _)]
    obtain ⟨s, hread, hlook, hbehind⟩ : ∃ s, Parser.read ctx ⟨printed (l :: ls), {}⟩ {} = .ok s ∧
        s.look.bare = l ∧ s.behind.rest = printedBehind ls :=
      Parser.read_of_skip hl hknows (hskip _)
    exact ⟨s, hread, hlook, hbehind, hplain, henough⟩

/-- The tokens of a derivation tree of the start, written with spaces between them, are parsed to a
file with that tree. No name may look like a keyword. -/
theorem parseFile_printed {t : Tree} (h : t.From .start)
    (hnames : ∀ l ∈ t.leaves, l.kind = .name → ∀ k : Keyword, l.text ≠ k.spelling.toList) :
    ∃ file, parseFile (printed t.leaves) = .ok file ∧ file.tree = t := by
  have hplain : ∀ l ∈ t.leaves, l.Plain := fun l hl =>
    ⟨Derives.spelled h l (by simpa using hl), hnames l hl⟩
  obtain ⟨ts, hts, rfl⟩ := h.start
  rw [Tree.leaves_node] at hplain ⊢
  have hknows : Context.definition.Knows (frontKind (leavesOf ts ++ [])) :=
    Parser.knows_of_derives (derives_many.2 hts) (by decide) trivial
  rw [List.append_nil] at hknows
  obtain ⟨start, hstart, ahead⟩ := read_printed hplain hknows
  have hn : ts.length < (printed (leavesOf ts)).length + 1 :=
    Nat.lt_of_le_of_lt (length_le_leavesOf (by decide) hts) ahead.enough
  obtain ⟨file, s, hfile, htree, -⟩ := Parser.definitions_succeeds hts ahead hn
  refine ⟨file, ?_, by rw [File.tree, htree]⟩
  rw [parseFile, hstart]
  simp only [hfile]
  rfl

/-- A text that does not fail with a fault of syntax is made of tokens that the grammar derives from
its start, and the file that the items are built from is a derivation tree of them. A derivation
tree whose names look like no keyword gets past the parser when its tokens are written with spaces
between them, and the items are built from that tree. -/
theorem reads_derivation_trees :
    (∀ (library : String) (text : List Char),
      (∀ fault, read library text ≠ .error (.notSyntax fault)) →
      ∃ file, parseFile text = .ok file ∧ read library text = groupOf library file ∧
        file.tree.From .start ∧ Splits text file.tree.leaves) ∧
    ∀ t : Tree, t.From .start →
      (∀ l ∈ t.leaves, l.kind = .name → ∀ k : Keyword, l.text ≠ k.spelling.toList) →
      ∃ file, parseFile (printed t.leaves) = .ok file ∧
        (∀ library, read library (printed t.leaves) = groupOf library file) ∧ file.tree = t := by
  constructor
  · intro library text hread
    cases hfile : parseFile text with
    | error fault => exact absurd (by rw [read, hfile]) (hread fault)
    | ok file =>
      obtain ⟨hfrom, hsplits⟩ := parseFile_sound hfile
      exact ⟨file, rfl, by rw [read, hfile], hfrom, hsplits⟩
  · intro t ht hnames
    obtain ⟨file, hfile, htree⟩ := parseFile_printed ht hnames
    exact ⟨file, hfile, fun library => by rw [read, hfile], htree⟩

/-- A typedef between comments, and once more with spaces only. -/
theorem reads_derivation_trees_typedef :
    (∀ fault, read "lib" "typedef/**/a?b;//".toList ≠ .error (.notSyntax fault)) ∧
    ∃ file, parseFile "typedef/**/a?b;//".toList = .ok file ∧
      Splits "typedef/**/a?b;//".toList file.tree.leaves ∧
      printed file.tree.leaves = "typedef a ? b ;".toList ∧
      ∃ again, parseFile "typedef a ? b ;".toList = .ok again ∧ again.tree = file.tree := by
  have hread : ∀ fault, read "lib" "typedef/**/a?b;//".toList ≠ .error (.notSyntax fault) := by
    have hfault : read "lib" "typedef/**/a?b;//".toList = .error .noNamespace := by decide +kernel
    rw [hfault]
    nofun
  obtain ⟨file, hfile, -, hfrom, hsplits⟩ := reads_derivation_trees.1 "lib" _ hread
  have hleaves : file.tree.leaves =
      [.keyword .typedef, ⟨.name, ['a']⟩, .mark .question, ⟨.name, ['b']⟩, .mark .semicolon] := by
    have hvalue : (parseFile "typedef/**/a?b;//".toList).toOption.map (fun f => f.tree.leaves) =
        some [.keyword .typedef, ⟨.name, ['a']⟩, .mark .question, ⟨.name, ['b']⟩,
          .mark .semicolon] := by
      decide +kernel
    rw [hfile] at hvalue
    exact Option.some.inj hvalue
  have hprinted : printed file.tree.leaves = "typedef a ? b ;".toList := by
    rw [hleaves]
    decide +kernel
  have hnames : ∀ l ∈ file.tree.leaves, l.kind = .name →
      ∀ k : Keyword, l.text ≠ k.spelling.toList := by
    rw [hleaves]
    intro l hl hname k
    simp only [List.mem_cons, List.not_mem_nil, or_false] at hl
    obtain rfl | rfl | rfl | rfl | rfl := hl
    · cases hname
    · cases k <;> decide
    · cases hname
    · cases k <;> decide
    · cases hname
  obtain ⟨again, hagain, -, htree⟩ := reads_derivation_trees.2 file.tree hfrom hnames
  rw [hprinted] at hagain
  exact ⟨hread, file, hfile, hsplits, hprinted, again, hagain, htree⟩

end Bindery.Legacy
