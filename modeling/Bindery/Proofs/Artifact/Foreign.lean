import Bindery.Artifact.Image
import Bindery.Json.Parser
import Bindery.Legacy.Items
import Bindery.Proofs.FileTree
import Bindery.Proofs.Text.Utf8
/-!
# Images are no text files

An image that is taken for a text file is refused by every reader of one: its bytes are no text, or
the text starts with a character with which no JSON document and no legacy file starts.
-/
namespace Bindery

open Outcome

/-- The characters with which the text of an image can start. -/
def Artifact.StartsImage (c : Char) : Prop := c = '\x7f' ∨ c = 'M'

/-- A text whose bytes are an image starts like one. The first two bytes of the other magics are no
start of a character. -/
theorem Artifact.startsImage_of_isImage {bytes : List UInt8} {text : List Char}
    (h : isImage bytes = true) (htext : Utf8.decodeChars bytes = .ok text) :
    ∃ c rest, text = c :: rest ∧ StartsImage c := by
  simp only [isImage, imageMagics, List.any_cons, List.any_nil, Bool.or_eq_true,
    List.isPrefixOf_iff_prefix, Bool.or_false] at h
  rcases h with ⟨rest, rfl⟩ | ⟨rest, rfl⟩ | ⟨rest, rfl⟩ | ⟨rest, rfl⟩ | ⟨rest, rfl⟩ | ⟨rest, rfl⟩ |
    ⟨rest, rfl⟩
  · rw [Utf8.decodeChars, List.cons_append, Utf8.decodeFrom_one _ 0 (by decide)] at htext
    obtain ⟨more, -, rfl⟩ := map_eq_ok.1 htext
    exact ⟨_, more, rfl, .inl rfl⟩
  · rw [Utf8.decodeChars, List.cons_append, Utf8.decodeFrom_one _ 0 (by decide)] at htext
    obtain ⟨more, -, rfl⟩ := map_eq_ok.1 htext
    exact ⟨_, more, rfl, .inr rfl⟩
  all_goals cases htext

/-- An image is no JSON text. -/
theorem Json.parseChars_of_startsImage {c : Char} (h : Artifact.StartsImage c) (rest : List Char) :
    ∃ fault, parseChars (c :: rest) = .error fault := by
  have hdocument : ∃ stop, document (c :: rest) = .error stop := by
    rcases h with rfl | rfl
    · exact ⟨_, rfl⟩
    · exact ⟨_, rfl⟩
  obtain ⟨stop, hstop⟩ := hdocument
  exact ⟨_, by rw [parseChars, hstop]⟩

/-- An image is no legacy file. -/
theorem Legacy.read_of_startsImage {c : Char} (h : Artifact.StartsImage c) (library : String)
    (rest : List Char) : ∃ fault, Legacy.read library (c :: rest) = .error fault := by
  have hparse : ∃ fault, parseFile (c :: rest) = .error fault := by
    rcases h with rfl | rfl
    · exact ⟨_, rfl⟩
    · exact ⟨_, rfl⟩
  obtain ⟨fault, hfault⟩ := hparse
  exact ⟨_, by rw [Legacy.read, hfault]⟩

/-- A text file with the same text in two trees, or with two texts that no reader takes. -/
theorem FileTree.AlikeBut.readText_eq {t t' : FileTree}
    (h : AlikeBut (fun content => Artifact.isImage content = true) t t') {path : Path}
    {text : List Char} (htext : t.readText path = .ok text) :
    t'.readText path = .ok text ∨ ∃ c rest, text = c :: rest ∧ Artifact.StartsImage c := by
  unfold readText at htext ⊢
  obtain heq | ⟨content, content', hread, -, himage, -⟩ := h.read_eq path
  · exact .inl (heq ▸ htext)
  · simp only [hread] at htext
    split at htext
    · cases htext
    · rename_i decoded hdecoded
      obtain ⟨c, rest, rfl, hc⟩ := Artifact.startsImage_of_isImage himage hdecoded
      obtain rfl := Except.ok.inj htext
      refine .inr ⟨c, Text.unifyLineEnds rest, ?_, hc⟩
      rcases hc with rfl | rfl <;> rfl

end Bindery
