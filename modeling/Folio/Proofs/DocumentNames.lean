import Mathlib.Data.List.TakeWhile
import Folio.Proofs.NormalForm

/-! # Names of documents

The markdown extension of a path belongs to its last segment (`dropMarkdownExtensionChars_append`).  So it
does not matter whether it is dropped before or after the path is read (`ofChars_bareName`). -/

namespace Folio

theorem splitAtLast_append {sep : Char} (front : List Char) {back : List Char} (h : sep ∉ back) :
    splitAtLast sep (front ++ sep :: back) = some (front, back) := by
  have hb : ∀ c ∈ back.reverse, decide (c ≠ sep) = true := by
    intro c hc
    exact decide_eq_true fun e => h (e ▸ List.mem_reverse.mp hc)
  have hr : (front ++ sep :: back).reverse = back.reverse ++ sep :: front.reverse := by simp
  rw [splitAtLast, hr, List.dropWhile_append_of_pos hb, List.takeWhile_append_of_pos hb]
  simp

theorem splitAtLast_of_not_mem {sep : Char} {cs : List Char} (h : sep ∉ cs) :
    splitAtLast sep cs = none := by
  have hd : cs.reverse.dropWhile (· ≠ sep) = [] := by
    rw [List.dropWhile_eq_nil_iff]
    intro c hc
    exact decide_eq_true fun e => h (e ▸ List.mem_reverse.mp hc)
  rw [splitAtLast, hd]

theorem eq_of_splitAtLast {sep : Char} {cs front back : List Char}
    (h : splitAtLast sep cs = some (front, back)) : cs = front ++ sep :: back := by
  by_cases hm : sep ∈ cs
  · rcases Text.exists_last_separator (p := (· == sep)) cs with hn | ⟨f, c, b, rfl, hc, hb⟩
    · exact absurd (hn sep hm) (by simp)
    · obtain rfl : c = sep := by simpa using hc
      have hcb : c ∉ b := fun hc => absurd (hb c hc) (by simp)
      rw [splitAtLast_append f hcb, Option.some.injEq, Prod.mk.injEq] at h
      rw [h.1, h.2]
  · rw [splitAtLast_of_not_mem hm] at h
    cases h

/-! ### Stems -/

/-- A stem is what stands before the last dot of a name, and something stands there. -/
theorem eq_of_markdownStemChars? {name stem : List Char} (h : markdownStemChars? name = some stem) :
    stem ≠ [] ∧ ∃ ext, name = stem ++ '.' :: ext := by
  unfold markdownStemChars? at h
  split at h
  · cases h
  · rename_i front ext hl
    split at h
    · rename_i hc
      obtain rfl : front = stem := Option.some.inj h
      exact ⟨hc.1, ext, eq_of_splitAtLast hl⟩
    · cases h

/-- A file name without its markdown extension. -/
def bareName (name : List Char) : List Char := (markdownStemChars? name).getD name

/-- Dropping the extension of a name brings no new characters. -/
theorem mem_of_mem_bareName {name : List Char} {c : Char} (h : c ∈ bareName name) : c ∈ name := by
  rw [bareName] at h
  cases hs : markdownStemChars? name with
  | none =>
      rw [hs, Option.getD_none] at h
      exact h
  | some stem =>
      rw [hs, Option.getD_some] at h
      obtain ⟨-, ext, rfl⟩ := eq_of_markdownStemChars? hs
      exact List.mem_append_left _ h

theorem bareName_of_documentStem? {name stem : String} (h : documentStem? name = some stem) :
    bareName name.toList = stem.toList := by
  obtain ⟨cs, hcs, rfl⟩ := Option.map_eq_some_iff.mp h
  rw [bareName, hcs, Option.getD_some, String.toList_ofList]

theorem eq_of_documentStem? {name stem : String} (h : documentStem? name = some stem) :
    stem.toList ≠ [] ∧ ∃ ext, name.toList = stem.toList ++ '.' :: ext := by
  obtain ⟨cs, hcs, rfl⟩ := Option.map_eq_some_iff.mp h
  rw [String.toList_ofList]
  exact eq_of_markdownStemChars? hcs

/-! ### Extensions of paths -/

/-- The extension that is dropped is that of the last segment. -/
theorem dropMarkdownExtensionChars_append (front : List Char) {name : List Char} (h : '/' ∉ name) :
    dropMarkdownExtensionChars (front ++ '/' :: name) = front ++ '/' :: bareName name := by
  rw [dropMarkdownExtensionChars, splitAtLast_append front h, bareName]
  dsimp only
  cases markdownStemChars? name <;> rfl

theorem dropMarkdownExtensionChars_of_no_slash {name : List Char} (h : '/' ∉ name) :
    dropMarkdownExtensionChars name = bareName name := by
  rw [dropMarkdownExtensionChars, splitAtLast_of_not_mem h, bareName]

namespace ContentPath

/-- Dropping the extension and reading the path commute. -/
theorem ofChars_bareName (x : List Char) {name : List Char} (hn : IsClean name) :
    ofChars (x ++ '/' :: bareName name) =
      ofString (dropMarkdownExtension (ofChars (x ++ '/' :: name)).text) := by
  have hl : '/' ∉ bareName name := fun h => hn.no_slash (mem_of_mem_bareName h)
  have hq : '"' ∉ bareName name := fun h => hn.no_quote (mem_of_mem_bareName h)
  rw [ofChars_append_segment x hn, dropMarkdownExtension, String.toList_ofList,
    dropMarkdownExtensionChars_append _ hn.no_slash]
  refine ofChars_congr ?_
  rw [stackOf_append_segment x hl hq, stackOf_append_segment _ hl hq, stackOf_directoryText]

end ContentPath

end Folio
