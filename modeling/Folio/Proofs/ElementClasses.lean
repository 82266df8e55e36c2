import Folio.Html.Structure
import Folio.Proofs.NormalForm

/-! # Attributes and classes of elements

An attribute that is set is read back, and the others stay as they were.  The classes of an element are
the words of one attribute, so adding a class appends a word: an element has the classes that it had and
the one that was added (`Element.hasClass_addClass`, `Element.hasClass_addClass_of_ne`). -/

namespace Folio

/-! ### Words -/

namespace Text

open Unicode

/-- A space between two texts separates their words. -/
theorem words_append (cs rest : List Char) : words (cs ++ ' ' :: rest) = words cs ++ words rest := by
  rw [words, pieces_append (by decide), List.filter_append]
  rfl

theorem words_cons_of_isBlank {c : Char} (hc : isBlank c = true) (cs : List Char) :
    words (c :: cs) = words cs := by
  rw [words, pieces_cons_of_pos hc, List.filter_cons_of_neg (by simp)]
  rfl

theorem words_eq_nil : ∀ {cs : List Char}, (∀ c ∈ cs, isBlank c = true) → words cs = []
  | [], _ => rfl
  | c :: cs, h => by
    obtain ⟨hc, hcs⟩ := List.forall_mem_cons.mp h
    rw [words_cons_of_isBlank hc, words_eq_nil hcs]

theorem words_trimStart : ∀ cs : List Char, words (trimStart cs) = words cs
  | [] => rfl
  | c :: cs => by
    rw [trimStart]
    by_cases hc : isBlank c = true
    · rw [List.dropWhile_cons_of_pos hc, words_cons_of_isBlank hc]
      exact words_trimStart cs
    · rw [List.dropWhile_cons_of_neg hc]

/-- Blanks at the end of a text are in no word. -/
theorem words_append_of_isBlank (cs : List Char) :
    ∀ {blanks : List Char}, (∀ c ∈ blanks, isBlank c = true) → words (cs ++ blanks) = words cs
  | [], _ => by rw [List.append_nil]
  | c :: blanks, h => by
    obtain ⟨hc, hblanks⟩ := List.forall_mem_cons.mp h
    have hnil := words_eq_nil hblanks
    rw [words] at hnil
    rw [words, pieces_append hc, List.filter_append, hnil, List.append_nil]
    rfl

theorem words_trimEnd (cs : List Char) : words (trimEnd cs) = words cs := by
  have hsplit : cs = trimEnd cs ++ (cs.reverse.takeWhile isBlank).reverse := by
    rw [trimEnd, ← List.reverse_append, List.takeWhile_append_dropWhile, List.reverse_reverse]
  have hblanks : ∀ c ∈ (cs.reverse.takeWhile isBlank).reverse, isBlank c = true := fun c hc =>
    List.all_eq_true.mp List.all_takeWhile c (List.mem_reverse.mp hc)
  exact (words_append_of_isBlank (trimEnd cs) hblanks).symm.trans (congrArg words hsplit.symm)

/-- Trimming keeps the words of a text. -/
theorem words_trim (cs : List Char) : words (trim cs) = words cs := by
  rw [trim, words_trimEnd, words_trimStart]

end Text

namespace Html

/-! ### Attributes -/

theorem Attr.find?_put_self (name value : String) (attrs : List Attr) :
    Attr.find? (Attr.put name value attrs) name = some value := by
  induction attrs with
  | nil => simp [Attr.put, Attr.find?]
  | cons a rest ih =>
    rw [Attr.put]
    split
    · simp [Attr.find?]
    · rename_i hne
      simpa [Attr.find?, hne] using ih

theorem Attr.find?_put_of_ne {name other value : String} (h : other ≠ name) (attrs : List Attr) :
    Attr.find? (Attr.put name value attrs) other = Attr.find? attrs other := by
  simp only [Attr.find?]
  induction attrs with
  | nil => simp [put, h.symm]
  | cons b rest ih =>
      rw [put]
      split
      · rename_i hb
        have hother : b.name ≠ other := fun ho => h (ho.symm.trans hb)
        simp [h.symm, hother]
      · by_cases ho : b.name = other
        · simp [ho]
        · simp only [List.find?_cons, decide_eq_false ho]
          exact ih

namespace Element

variable {cls : String}

theorem attr?_setAttr_self (e : Element) (name value : String) :
    (e.setAttr name value).attr? name = some value := Attr.find?_put_self name value e.attrs

theorem attr?_setAttr_of_ne (e : Element) {name other : String} (h : other ≠ name) (value : String) :
    (e.setAttr name value).attr? other = e.attr? other := Attr.find?_put_of_ne h e.attrs

/-! ### Classes -/

theorem tag_addClass (e : Element) (cls : String) : (e.addClass cls).tag = e.tag := by
  unfold addClass
  split
  · rfl
  · split <;> rfl

theorem space_addClass (e : Element) (cls : String) : (e.addClass cls).space = e.space := by
  unfold addClass
  split
  · rfl
  · split <;> rfl

/-- Adding a class changes no other attribute. -/
theorem attr?_addClass_of_ne (e : Element) (cls : String) {name : String} (h : name ≠ "class") :
    (e.addClass cls).attr? name = e.attr? name := by
  unfold addClass
  split
  · rfl
  · split
    · exact e.attr?_setAttr_of_ne h _
    · exact e.attr?_setAttr_of_ne h _

theorem hasClass_iff_of_attr? {e : Element} {value : String} (h : e.attr? "class" = some value)
    (c : String) : e.hasClass c = true ↔ c.toList ∈ classWords value := by
  rw [hasClass, h, List.contains_iff_mem]

/-- An element has the classes that it had and the one that is added to it. -/
theorem hasClass_addClass_iff (e : Element) (h : Text.words cls.toList = [cls.toList]) (c : String) :
    (e.addClass cls).hasClass c = true ↔ e.hasClass c = true ∨ c = cls := by
  have hone : ∀ c : String, c.toList ∈ classWords cls ↔ c = cls := fun c => by
    rw [classWords, h, List.mem_singleton, String.toList_inj]
  unfold addClass
  split
  · rename_i hhas
    exact ⟨.inl, fun hc => hc.elim id fun heq => heq ▸ hhas⟩
  · split
    · rename_i value hvalue
      have hwords : classWords value = Text.words (Text.trim value.toList) :=
        (Text.words_trim value.toList).symm
      rw [hasClass_iff_of_attr? (e.attr?_setAttr_self "class" _), hasClass_iff_of_attr? hvalue, hwords]
      split
      · rename_i hnil
        rw [hnil, hone]
        simp [Text.words_eq_nil]
      · have hchars : (String.ofList (Text.trim value.toList) ++ " " ++ cls).toList =
            Text.trim value.toList ++ ' ' :: cls.toList := by simp
        rw [classWords, hchars, Text.words_append, List.mem_append]
        exact or_congr_right (hone c)
    · rename_i hnone
      rw [hasClass_iff_of_attr? (e.attr?_setAttr_self "class" _), hone, hasClass, hnone]
      simp

/-- An element has the class that is added to it. -/
theorem hasClass_addClass (e : Element) (h : Text.words cls.toList = [cls.toList]) :
    (e.addClass cls).hasClass cls = true := (e.hasClass_addClass_iff h cls).mpr (.inr rfl)

/-- Adding a class adds no other one and takes none away. -/
theorem hasClass_addClass_of_ne (e : Element) (h : Text.words cls.toList = [cls.toList]) {c : String}
    (hc : c ≠ cls) : (e.addClass cls).hasClass c = e.hasClass c := by
  rw [Bool.eq_iff_iff, e.hasClass_addClass_iff h]
  exact or_iff_left hc

end Element

/-- Marking a link once more changes nothing. -/
theorem markInternalLink_markInternalLink (e : Element) :
    markInternalLink (markInternalLink e) = markInternalLink e := by
  by_cases h : e.tag = "a" ∧ (e.attr? "href").any isInternalUrl
  · have hmarked : markInternalLink e = e.addClass "internal-link" := if_pos h
    have hagain : (e.addClass "internal-link").addClass "internal-link" = e.addClass "internal-link" :=
      if_pos (e.hasClass_addClass (by decide +kernel))
    rw [hmarked, markInternalLink, hagain]
    exact ite_self _
  · have hsame : markInternalLink e = e := if_neg h
    rw [hsame, hsame]

end Html

end Folio
