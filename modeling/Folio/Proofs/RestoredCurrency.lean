import Folio.Markup.Reader
import Folio.Proofs.HeadingOrder
import Folio.Proofs.LoweredText
import Folio.Proofs.SlugText

/-! # Currency in the table of contents

Restored text holds no placeholder (`not_hasPlaceholder_restoreDollars`), and an id that is made from a
text holds none either, since the placeholder is written in capitals and an id is in lower case
(`noCapitals_issue`).  An id that the author has given goes into the table as it was read.  So a table of
contents shows the placeholder in such ids and nowhere else (`restored_ofHeadings`). -/

namespace Folio.Unicode

/-! ### Lower case -/

/-- No character is an ASCII capital. -/
def NoCapitals (cs : List Char) : Prop := ∀ c ∈ cs, c.isUpper = false

theorem NoCapitals.append {as bs : List Char} (ha : NoCapitals as) (hb : NoCapitals bs) :
    NoCapitals (as ++ bs) := by
  intro c hc
  obtain hc | hc := List.mem_append.mp hc
  · exact ha c hc
  · exact hb c hc

theorem isUpper_eq_false_of_isDigit {c : Char} (h : c.isDigit = true) : c.isUpper = false := by
  apply decide_eq_false
  intro hupper
  have hlow : 65 ≤ c.toNat := hupper.1
  have hhigh : c.toNat ≤ 57 := (Char.isDigit_iff_toNat.mp h).2
  omega

theorem IsLowered.isUpper_eq_false {c : Char} (h : IsLowered c) : c.isUpper = false := by
  apply decide_eq_false
  intro hupper
  have hle : c.toNat ≤ 90 := hupper.2
  have hself : c.toLower = c := by
    have hlower := h.lowerChar_eq
    rw [lowerChar, if_pos (by omega)] at hlower
    exact (List.cons.inj hlower).1
  have hval : c.toLower.val = c.val + 32 := by
    unfold Char.toLower
    rw [dif_pos hupper]
    rfl
  have hsum : c.val.toNat = (c.val.toNat + 32) % 2 ^ 32 := by
    rw [hself] at hval
    exact congrArg UInt32.toNat hval
  have hle' : c.val.toNat ≤ 90 := hle
  omega

end Folio.Unicode

namespace Folio.Text

open Folio.Unicode

/-! ### Slugs -/

/-- A slug is in lower case. -/
theorem noCapitals_slugChars (cs : List Char) : NoCapitals (slugChars cs) := by
  intro d hd
  obtain rfl | hd := mem_slugChars hd
  · decide
  · exact (isLowered_of_mem_lowercase hd).isUpper_eq_false

/-! ### Replacing -/

variable {pat new cs : List Char}

/-- What does not hold the text that is replaced stays as it is. -/
theorem replaceAll_eq_self (h : ¬ pat <:+: cs) : replaceAll pat new cs = cs := by
  induction cs with
  | nil => rfl
  | cons c cs ih =>
    rw [List.infix_cons_iff, not_or] at h
    have hprefix : ¬ pat.isPrefixOf (c :: cs) = true := fun hp => h.1 (List.isPrefixOf_iff_prefix.mp hp)
    rw [replaceAll, replaceFrom, if_neg hprefix]
    exact congrArg (c :: ·) (ih h.2)

/-- A text without characters of the replacement starts the result only where it starts the text. -/
theorem prefix_of_prefix_replaceFrom (hnew : new ≠ []) {p : List Char} (hp : ∀ c ∈ new, c ∉ p) :
    ∀ {cs : List Char}, p <+: replaceFrom pat new 0 cs → p <+: cs := by
  induction p with
  | nil => exact fun _ => List.nil_prefix
  | cons a p ih =>
    intro cs hstart
    cases cs with
    | nil => exact hstart
    | cons c cs =>
      rw [replaceFrom] at hstart
      split at hstart
      · obtain ⟨d, new', rfl⟩ := List.exists_cons_of_ne_nil hnew
        rw [List.cons_append, List.cons_prefix_cons] at hstart
        exact absurd (List.mem_cons.mpr (.inl hstart.1.symm)) (hp d List.mem_cons_self)
      · rw [List.cons_prefix_cons] at hstart ⊢
        exact ⟨hstart.1, ih (fun c hc hmem => hp c hc (List.mem_cons_of_mem a hmem)) hstart.2⟩

/-- A text without characters of the replacement does not overlap it. -/
theorem infix_of_infix_append (hpat : pat ≠ []) (hnew : ∀ c ∈ new, c ∉ pat) :
    pat <:+: new ++ cs → pat <:+: cs := by
  induction new with
  | nil => exact id
  | cons c new ih =>
    intro h
    rw [List.cons_append, List.infix_cons_iff] at h
    obtain hstart | hrest := h
    · obtain hnil | ⟨rest, rfl, -⟩ := List.prefix_cons_iff.mp hstart
      · exact absurd hnil hpat
      · exact absurd List.mem_cons_self (hnew c List.mem_cons_self)
    · exact ih (fun d hd => hnew d (List.mem_cons_of_mem c hd)) hrest

/-- No occurrence is left, and the replacement makes no new one. -/
theorem not_infix_replaceFrom (hpat : pat ≠ []) (hnil : new ≠ []) (hnew : ∀ c ∈ new, c ∉ pat)
    (skip : Nat) (cs : List Char) : ¬ pat <:+: replaceFrom pat new skip cs := by
  fun_induction replaceFrom pat new skip cs with
  | case1 skip => exact fun h => hpat (List.infix_nil.mp h)
  | case2 c cs skip ih => exact ih
  | case3 c cs hstart ih => exact fun h => ih (infix_of_infix_append hpat hnew h)
  | case4 c cs hstart ih =>
    intro h
    obtain hprefix | hrest := List.infix_cons_iff.mp h
    · have hresult : c :: replaceFrom pat new 0 cs = replaceFrom pat new 0 (c :: cs) := by
        rw [replaceFrom, if_neg hstart]
      rw [hresult] at hprefix
      exact hstart (List.isPrefixOf_iff_prefix.mpr (prefix_of_prefix_replaceFrom hnil hnew hprefix))
    · exact ih hrest

end Folio.Text

namespace Folio.Markup

open Folio.Unicode

/-! ### The placeholder -/

/-- Whether a text holds the placeholder of a dollar sign. -/
def HasPlaceholder (s : String) : Prop := currencyPlaceholder.toList <:+: s.toList

instance (s : String) : Decidable (HasPlaceholder s) :=
  inferInstanceAs (Decidable (currencyPlaceholder.toList <:+: s.toList))

theorem not_hasPlaceholder_restoreDollars (s : String) : ¬ HasPlaceholder (restoreDollars s) := by
  have hdollar : ∀ c ∈ ['$'], c ∉ currencyPlaceholder.toList := by simp [currencyPlaceholder]
  rw [HasPlaceholder, restoreDollars, String.toList_ofList]
  exact Text.not_infix_replaceFrom (by decide) (by decide) hdollar 0 s.toList

/-- Restoring leaves exactly the texts without a placeholder as they are. -/
theorem restoreDollars_eq_self_iff {s : String} : restoreDollars s = s ↔ ¬ HasPlaceholder s := by
  constructor
  · intro h
    rw [← h]
    exact not_hasPlaceholder_restoreDollars s
  · intro h
    rw [restoreDollars, restoreCurrency, Text.replaceAll_eq_self h, String.ofList_toList]

/-- The placeholder is written in capitals. -/
theorem not_hasPlaceholder_of_noCapitals {s : String} (h : NoCapitals s.toList) :
    ¬ HasPlaceholder s := by
  intro hp
  have hmem : 'V' ∈ currencyPlaceholder.toList := by simp [currencyPlaceholder]
  have hcapital : 'V'.isUpper = true := rfl
  rw [h 'V' (hp.subset hmem)] at hcapital
  cases hcapital

end Folio.Markup

namespace Folio.Outline

open Folio.Markup Folio.Unicode

/-! ### Ids that are made -/

theorem noCapitals_headingSlug (text : String) : NoCapitals (headingSlug text).toList := by
  rw [headingSlug, Text.slugOf, String.toList_ofList]
  exact Text.noCapitals_slugChars _

theorem noCapitals_numbered {base : String} (h : NoCapitals base.toList) (n : Nat) :
    NoCapitals (numbered base n).toList := by
  unfold numbered
  split
  · exact h
  · rw [String.toList_append, String.toList_append, Nat.toString_eq_repr, Nat.toList_repr]
    refine (h.append (by simp [NoCapitals])).append fun c hc => ?_
    have hdigit : c.isDigit = true := Nat.isDigit_of_mem_toDigits (by decide) (by decide) hc
    exact isUpper_eq_false_of_isDigit hdigit

/-- A registry in which every slug is in lower case. -/
def SlugRegistry.Lowered (r : SlugRegistry) : Prop :=
  ∀ (key slug : String), r.slugs[key]? = some slug → NoCapitals slug.toList

theorem SlugRegistry.lowered_record {r : SlugRegistry} (h : r.Lowered) (text : String) :
    (r.record text).Lowered := by
  intro key slug hslug
  rw [record, Std.TreeMap.getElem?_insertIfNew] at hslug
  split at hslug
  · rw [← Option.some.inj hslug]
    exact noCapitals_headingSlug (spacedText text)
  · exact h key slug hslug

theorem SlugRegistry.lowered_observeAll (headings : List Heading) : (observeAll headings).Lowered := by
  have run : ∀ (l : List Heading) (r : SlugRegistry), r.Lowered →
      (l.foldl (fun r h => r.record h.text) r).Lowered := by
    intro l
    induction l with
    | nil => exact fun _ h => h
    | cons x l ih => exact fun r h => ih _ (lowered_record h x.text)
  apply run
  intro key slug hslug
  simp [empty] at hslug

theorem SlugRegistry.Lowered.base {r : SlugRegistry} (h : r.Lowered) (text : String) :
    NoCapitals (r.base text).toList := by
  rw [SlugRegistry.base]
  split
  · simp [NoCapitals, emptySlug]
  · rw [Std.TreeMap.getD_eq_getD_getElem?]
    cases hslug : r.slugs[spacedText text]? with
    | none => exact noCapitals_headingSlug _
    | some slug => exact h _ slug hslug

theorem noCapitals_issue {ids : GivenIds} (h : ids.registry.Lowered) (text : String) :
    NoCapitals (ids.issue text).1.toList := noCapitals_numbered (h.base (spacedText text)) _

theorem registry_issue (ids : GivenIds) (text : String) :
    (ids.issue text).2.registry = ids.registry := rfl

/-- Where the id of a heading comes from: it is the one that the author has given, or it is in lower
case. -/
def IsIssued (h : Heading) (id : String) : Prop :=
  match h.explicitId with
  | some given => id = given
  | none => NoCapitals id.toList

theorem forall₂_issueFrom (headings : List Heading) :
    ∀ ids : GivenIds, ids.registry.Lowered →
      List.Forall₂ IsIssued headings (issueFrom ids headings) := by
  induction headings with
  | nil => exact fun _ _ => .nil
  | cons h rest ih =>
    intro ids hlow
    rw [issueFrom]
    cases hid : h.explicitId with
    | some given =>
      refine .cons ?_ (ih ids hlow)
      rw [IsIssued, hid]
    | none =>
      refine .cons ?_ (ih (ids.issue h.text).2 ?_)
      · rw [IsIssued, hid]
        exact noCapitals_issue hlow h.text
      · rw [registry_issue]
        exact hlow

theorem forall₂_issueIds (headings : List Heading) {registry : SlugRegistry} (h : registry.Lowered) :
    List.Forall₂ IsIssued headings (issueIds headings registry) := by
  apply forall₂_issueFrom
  have run : ∀ (given : List String) (ids : GivenIds),
      (given.foldl GivenIds.hold ids).registry = ids.registry := by
    intro given
    induction given with
    | nil => exact fun _ => rfl
    | cons id given ih => exact fun ids => ih (ids.hold id)
  rw [run]
  exact h

/-! ### The table of contents -/

/-- Whether the author has given a heading an id with a placeholder in it. -/
def Heading.GivesPlaceholder (h : Heading) : Prop :=
  ∃ given, h.explicitId = some given ∧ HasPlaceholder given

/-- How currency stands in the entry of a heading: its title holds no placeholder, its id holds one
only if the author has given such an id, and otherwise the page, where dollar signs are restored, has
the same id. -/
structure CurrencyRestored (h : Heading) (e : Entry) : Prop where
  value : ¬ HasPlaceholder e.value
  id : HasPlaceholder e.id ↔ h.GivesPlaceholder
  page : restoreDollars e.id = e.id ↔ ¬ h.GivesPlaceholder

theorem IsIssued.hasPlaceholder_iff {h : Heading} {id : String} (issued : IsIssued h id) :
    HasPlaceholder id ↔ h.GivesPlaceholder := by
  unfold IsIssued at issued
  unfold Heading.GivesPlaceholder
  cases hid : h.explicitId with
  | some given =>
    rw [hid] at issued
    subst issued
    simp
  | none =>
    rw [hid] at issued
    simpa using not_hasPlaceholder_of_noCapitals issued

theorem IsIssued.currencyRestored {h : Heading} {id : String} (issued : IsIssued h id) :
    CurrencyRestored h (entryOf h id) where
  value := not_hasPlaceholder_restoreDollars _
  id := issued.hasPlaceholder_iff
  page := restoreDollars_eq_self_iff.trans (not_congr issued.hasPlaceholder_iff)

/-- **Currency in a table of contents**: for all headings and every registry of headings, no title of the
table holds a placeholder, and the ids that hold one, which the page does not have, are exactly those that
an author has given with a placeholder in them. -/
theorem restored_ofHeadings (headings seen : List Heading) :
    List.Forall₂ CurrencyRestored headings
      (Contents.ofHeadings headings (issueIds headings (observeAll seen))).flatten := by
  rw [Contents.flatten_ofHeadings]
  have issued := forall₂_issueIds headings (SlugRegistry.lowered_observeAll seen)
  generalize issueIds headings (observeAll seen) = ids at issued
  induction issued with
  | nil => exact .nil
  | cons h _ ih => exact .cons h.currencyRestored ih

/-- A heading with a price in its id: the table points at an id that the page does not have. -/
theorem exists_placeholder_in_contents :
    let headings := collect (parse .extended (prepareSource "## Price \x7b#cost-$5\x7d\n"))
    (Contents.ofHeadings headings (issueIds headings (observeAll headings))).flatten =
      [⟨"cost-VPCURRENCYDOLLAR5", "Price", 2⟩] ∧
    HasPlaceholder "cost-VPCURRENCYDOLLAR5" ∧ restoreDollars "cost-VPCURRENCYDOLLAR5" = "cost-$5" :=
  ⟨by decide +kernel, by decide +kernel, by decide +kernel⟩

end Folio.Outline
