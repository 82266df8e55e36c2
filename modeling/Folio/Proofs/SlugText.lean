import Folio.Text.Slug
import Folio.Proofs.ClusterCuts
import Folio.Proofs.TrimmedText

/-! # From clusters to a slug

The clusters that are kept make up a text, which collapsing and trimming hyphens makes into the slug.
Neither touches another character (`filter_slugChars`), nor brings one forward past another
(`head?_slugChars`). -/

namespace Folio.Text

open Folio.Unicode

variable {c d : Char} {k cs : List Char}

/-! ### Kept clusters -/

/-- The kept text of a text, before its hyphens are looked at. -/
def keptText (cs : List Char) : List Char := (clusters (lowercase cs)).flatMap slugCluster

theorem slugChars_eq (cs : List Char) :
    slugChars cs = trimMatches (· = '-') (collapseHyphens (keptText cs)) :=
  rfl

theorem mem_slugCluster (h : d ∈ slugCluster k) : d = '-' ∨ d ∈ k := by
  unfold slugCluster at h
  split at h
  · exact .inr h
  · split at h
    · exact .inl (List.mem_singleton.mp h)
    · split at h
      · exact .inr h
      · cases h

theorem mem_keptText (h : d ∈ keptText cs) : d = '-' ∨ d ∈ lowercase cs := by
  obtain ⟨k, hk, hd⟩ := List.mem_flatMap.mp h
  refine (mem_slugCluster hd).imp_right fun hd => ?_
  rw [← flatten_clusters (lowercase cs)]
  exact List.mem_flatten.mpr ⟨k, hk, hd⟩

/-! ### Collapsed hyphens -/

theorem collapseHyphens_cons (c : Char) (cs : List Char) : ∃ rest, collapseHyphens (c :: cs) = c :: rest := by
  induction cs generalizing c with
  | nil => exact ⟨[], rfl⟩
  | cons d cs ih =>
    rw [collapseHyphens]
    split
    · next h =>
      obtain ⟨rest, hrest⟩ := ih d
      exact ⟨rest, by rw [hrest, h.1, h.2]⟩
    · exact ⟨_, rfl⟩

theorem collapseHyphens_sublist (cs : List Char) : (collapseHyphens cs).Sublist cs := by
  fun_induction collapseHyphens cs with
  | case1 => exact .slnil
  | case2 c => exact .refl [c]
  | case3 c d cs h ih => exact ih.cons c
  | case4 c d cs h ih => exact ih.cons_cons c

theorem not_infix_collapseHyphens (cs : List Char) : ¬ ['-', '-'] <:+: collapseHyphens cs := by
  induction cs using collapseHyphens.induct with
  | case1 => simp [collapseHyphens]
  | case2 c => intro h; exact absurd h.length_le (by simp [collapseHyphens])
  | case3 c d cs hhyphens ih => rwa [collapseHyphens, if_pos hhyphens]
  | case4 c d cs hhyphens ih =>
    rw [collapseHyphens, if_neg hhyphens, List.infix_cons_iff]
    rintro (hstart | hinfix)
    · obtain ⟨rest, hd⟩ := collapseHyphens_cons d cs
      rw [hd, List.cons_prefix_cons, List.cons_prefix_cons] at hstart
      exact hhyphens ⟨hstart.1.symm, hstart.2.1.symm⟩
    · exact ih hinfix

theorem collapseHyphens_eq_self (h : ¬ ['-', '-'] <:+: cs) : collapseHyphens cs = cs := by
  induction cs using collapseHyphens.induct with
  | case1 => rfl
  | case2 c => rfl
  | case3 c d cs hhyphens ih =>
    obtain ⟨rfl, rfl⟩ := hhyphens
    exact absurd ⟨[], cs, rfl⟩ h
  | case4 c d cs hhyphens ih =>
    rw [collapseHyphens, if_neg hhyphens, ih fun hinfix => h (List.infix_cons hinfix)]

theorem filter_collapseHyphens (cs : List Char) :
    (collapseHyphens cs).filter (· ≠ '-') = cs.filter (· ≠ '-') := by
  induction cs using collapseHyphens.induct with
  | case1 => rfl
  | case2 c => rfl
  | case3 c d cs hhyphens ih =>
    rw [collapseHyphens, if_pos hhyphens, ih]
    exact (List.filter_cons_of_neg (by simp [hhyphens.1])).symm
  | case4 c d cs hhyphens ih =>
    rw [collapseHyphens, if_neg hhyphens, List.filter_cons, List.filter_cons, ih]

theorem dropWhile_collapseHyphens_head? (cs : List Char) :
    ((collapseHyphens cs).dropWhile (· = '-')).head? = (cs.dropWhile (· = '-')).head? := by
  induction cs using collapseHyphens.induct with
  | case1 => rfl
  | case2 c => rfl
  | case3 c d cs hhyphens ih =>
    rw [collapseHyphens, if_pos hhyphens, ih]
    exact congrArg List.head? (List.dropWhile_cons_of_pos (by simp [hhyphens.1])).symm
  | case4 c d cs hhyphens ih =>
    rw [collapseHyphens, if_neg hhyphens, List.dropWhile_cons, List.dropWhile_cons]
    split
    · exact ih
    · rfl

/-! ### Slugs -/

theorem mem_slugChars (h : d ∈ slugChars cs) : d = '-' ∨ d ∈ lowercase cs :=
  mem_keptText ((collapseHyphens_sublist _).subset ((trimMatches_isInfix _ _).subset h))

theorem head?_slugChars (cs : List Char) :
    (slugChars cs).head? = ((keptText cs).dropWhile (· = '-')).head? := by
  rw [slugChars_eq, head?_trimMatches, dropWhile_collapseHyphens_head?]

theorem filter_slugChars (cs : List Char) :
    (slugChars cs).filter (· ≠ '-') = (keptText cs).filter (· ≠ '-') := by
  rw [slugChars_eq, filter_trimMatches (by simp), filter_collapseHyphens]

theorem slugChars_eq_self (hkept : keptText cs = cs) (hstart : cs.head? ≠ some '-')
    (hfinish : cs.getLast? ≠ some '-') (hsingle : ¬ ['-', '-'] <:+: cs) : slugChars cs = cs := by
  rw [slugChars_eq, hkept, collapseHyphens_eq_self hsingle]
  refine trimMatches_eq_self (fun c hc => ?_) (fun c hc => ?_)
  · exact decide_eq_false fun heq => hstart (heq ▸ hc)
  · exact decide_eq_false fun heq => hfinish (heq ▸ hc)

end Folio.Text
