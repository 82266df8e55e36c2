import Folio.Proofs.PreparedSource

/-! # Where replacing can be cut

Replacing goes over a text from the left, past an occurrence or past one character (`scan_induction`).  A
character that the replaced text does not have belongs to no occurrence, so the parts of a text on both
sides of it are replaced on their own (`replaceAll_append_cons`), and so are two parts of which the second
starts with such a character.  An escape that changes neither the replaced text nor its replacement, and
writes other characters without those of the replaced text, can be applied before or after
(`Spares.replaceAll_flatMap`). -/

namespace Folio.Text

variable {pat new : List Char}

/-- What holds of every text that replacing meets on its way holds of all texts. -/
@[elab_as_elim]
theorem scan_induction (hpat : pat ≠ []) {motive : List Char → Prop} (nil : motive [])
    (found : ∀ rest, motive rest → motive (pat ++ rest))
    (other : ∀ c rest, ¬ pat <+: c :: rest → motive rest → motive (c :: rest)) (cs : List Char) :
    motive cs := by
  induction hlength : cs.length using Nat.strongRecOn generalizing cs with
  | _ n ih =>
    subst hlength
    cases cs with
    | nil => exact nil
    | cons c rest =>
      by_cases hstart : pat <+: c :: rest
      · obtain ⟨tail, htail⟩ := hstart
        rw [← htail] at ih ⊢
        refine found tail (ih tail.length ?_ tail rfl)
        have hpos : 0 < pat.length := List.length_pos_iff.mpr hpat
        rw [List.length_append]
        omega
      · exact other c rest hstart (ih rest.length (by simp) rest rfl)

theorem not_prefix_cons (hpat : pat ≠ []) {c : Char} (hc : c ∉ pat) (cs : List Char) :
    ¬ pat <+: c :: cs := by
  intro h
  obtain hnil | ⟨rest, rfl, -⟩ := List.prefix_cons_iff.mp h
  · exact hpat hnil
  · exact hc List.mem_cons_self

/-! ### Separators -/

/-- A character that is not in the replaced text separates what is before it from what is behind it. -/
theorem replaceAll_append_cons (hpat : pat ≠ []) {c : Char} (hc : c ∉ pat) (as bs : List Char) :
    replaceAll pat new (as ++ c :: bs) = replaceAll pat new as ++ c :: replaceAll pat new bs := by
  induction as using scan_induction hpat with
  | nil => exact replaceAll_cons_of_not_prefix (not_prefix_cons hpat hc bs)
  | found rest ih =>
    rw [List.append_assoc, replaceAll_append hpat, replaceAll_append hpat, ih, List.append_assoc]
  | other d rest hd ih =>
    have hd' : ¬ pat <+: d :: (rest ++ c :: bs) := fun h => hd (prefix_of_prefix_append_cons hc h)
    rw [List.cons_append, replaceAll_cons_of_not_prefix hd', replaceAll_cons_of_not_prefix hd, ih,
      List.cons_append]

/-- No occurrence runs from a text into one that starts with a character it does not have. -/
theorem replaceAll_append_of_head? (hpat : pat ≠ []) (as : List Char) {bs : List Char}
    (hbs : ∀ c ∈ bs.head?, c ∉ pat) :
    replaceAll pat new (as ++ bs) = replaceAll pat new as ++ replaceAll pat new bs := by
  cases bs with
  | nil => rw [List.append_nil, replaceAll, replaceAll, replaceFrom, List.append_nil]
  | cons c bs =>
    have hc : c ∉ pat := hbs c rfl
    rw [replaceAll_append_cons hpat hc, replaceAll_cons_of_not_prefix (not_prefix_cons hpat hc bs)]

/-- What has no character of the replaced text stays in front of a text. -/
theorem replaceAll_append_of_not_mem (hpat : pat ≠ []) {as : List Char} (has : ∀ c ∈ as, c ∉ pat)
    (bs : List Char) : replaceAll pat new (as ++ bs) = as ++ replaceAll pat new bs := by
  induction as with
  | nil => rfl
  | cons c as ih =>
    obtain ⟨hc, has⟩ := List.forall_mem_cons.mp has
    rw [List.cons_append, replaceAll_cons_of_not_prefix (not_prefix_cons hpat hc _), ih has, List.cons_append]

/-! ### Escapes -/

/-- An escape that leaves the characters of the replaced text and of its replacement as they are, and
writes none of the replaced text for any other. -/
structure Spares (escape : Char → List Char) (pat new : List Char) : Prop where
  pattern : ∀ c ∈ pat, escape c = [c]
  replacement : ∀ c ∈ new, escape c = [c]
  ne_nil : ∀ c, escape c ≠ []
  other : ∀ c, c ∉ pat → ∀ d ∈ escape c, d ∉ pat

theorem flatMap_eq_self {escape : Char → List Char} {cs : List Char} (h : ∀ c ∈ cs, escape c = [c]) :
    cs.flatMap escape = cs := by
  induction cs with
  | nil => rfl
  | cons c cs ih =>
    obtain ⟨hc, hcs⟩ := List.forall_mem_cons.mp h
    rw [List.flatMap_cons, hc, ih hcs]
    rfl

namespace Spares

variable {escape : Char → List Char} (h : Spares escape pat new)

include h

/-- An escaped text starts with characters of the replaced text only where the text does. -/
theorem prefix_of_prefix_flatMap {p : List Char} (hp : ∀ c ∈ p, c ∈ pat) :
    ∀ {cs : List Char}, p <+: cs.flatMap escape → p <+: cs := by
  induction p with
  | nil => exact fun _ => List.nil_prefix
  | cons a p ih =>
    intro cs hstart
    obtain ⟨ha, hp⟩ := List.forall_mem_cons.mp hp
    cases cs with
    | nil => exact hstart
    | cons c cs =>
      rw [List.flatMap_cons] at hstart
      by_cases hc : c ∈ pat
      · rw [h.pattern c hc, List.singleton_append, List.cons_prefix_cons] at hstart
        exact List.cons_prefix_cons.mpr ⟨hstart.1, ih hp hstart.2⟩
      · obtain ⟨d, ds, hd⟩ := List.exists_cons_of_ne_nil (h.ne_nil c)
        rw [hd, List.cons_append, List.cons_prefix_cons] at hstart
        exact absurd (hstart.1 ▸ ha) (h.other c hc d (hd ▸ List.mem_cons_self))

/-- Replacing in an escaped text is escaping the text with the replacement. -/
theorem replaceAll_flatMap (hpat : pat ≠ []) (cs : List Char) :
    replaceAll pat new (cs.flatMap escape) = (replaceAll pat new cs).flatMap escape := by
  induction cs using scan_induction hpat with
  | nil => rfl
  | found rest ih =>
    rw [List.flatMap_append, flatMap_eq_self h.pattern, replaceAll_append hpat, replaceAll_append hpat,
      List.flatMap_append, flatMap_eq_self h.replacement, ih]
  | other c rest hc ih =>
    rw [List.flatMap_cons, replaceAll_cons_of_not_prefix hc, List.flatMap_cons, ← ih]
    by_cases hmem : c ∈ pat
    · have hnot : ¬ pat <+: c :: rest.flatMap escape := by
        intro hstart
        have hescaped : pat <+: (c :: rest).flatMap escape := by
          rwa [List.flatMap_cons, h.pattern c hmem]
        exact hc (h.prefix_of_prefix_flatMap (fun _ => id) hescaped)
      rw [h.pattern c hmem, List.singleton_append, List.singleton_append]
      exact replaceAll_cons_of_not_prefix hnot
    · exact replaceAll_append_of_not_mem hpat (h.other c hmem) _

end Spares

end Folio.Text
