import Folio.Proofs.NormalPaths

/-! # Joining paths one after the other

What a raw path leaves on the stack is all that reading on behind a slash depends on, and the text of a
path in normal form leaves the same there as the raw path that it comes from
(`stackOf_text_ofString`).  So a path may be brought into normal form before another is written behind it
(`ofString_text_append`), whatever `..` segments and quotation marks the other has; and joining two
references one after the other is joining both at once, unless the first is empty or the second starts
anew at the root. -/

namespace Folio.ContentPath

/-- The normal form of a path is read as the path is. -/
theorem stackOf_text_ofString (raw : String) :
    stackOf (ofString raw).text.toList = stackOf raw.toList := by
  rw [ofString_eq_ofSegments, stackOf_text_ofSegments fun _ => isClean_of_mem_cleanNames, cleanNames,
    List.map_map]
  simp [Function.comp_def]

theorem toList_append_slash (x y : String) : (x ++ "/" ++ y).toList = x.toList ++ '/' :: y.toList := by
  simp

/-- Paths that leave the same on the stack can stand for each other in front of a slash. -/
theorem ofString_append_slash_congr {x x' : String} (h : stackOf x.toList = stackOf x'.toList)
    (y : String) : ofString (x ++ "/" ++ y) = ofString (x' ++ "/" ++ y) := by
  rw [ofString_eq, ofString_eq]
  refine ofChars_congr ?_
  rw [toList_append_slash, toList_append_slash, stackOf_append_slash, stackOf_append_slash, h]

theorem ofString_text_append (x y : String) :
    ofString ((ofString x).text ++ "/" ++ y) = ofString (x ++ "/" ++ y) :=
  ofString_append_slash_congr (stackOf_text_ofString x) y

theorem join_of_head?_slash (p : ContentPath) {reference : String}
    (h : reference.toList.head? = some '/') : p.join reference = ofString reference := by
  rw [join, if_pos h]

theorem join_of_head?_ne_slash (p : ContentPath) {reference : String}
    (h : reference.toList.head? ≠ some '/') : p.join reference = ofString (p.text ++ "/" ++ reference) := by
  rw [join, if_neg h]

/-- What stands behind a reference that is not empty does not change how it starts. -/
theorem head?_append_slash {a : String} (ha : a ≠ "") (b : String) :
    (a ++ "/" ++ b).toList.head? = a.toList.head? := by
  obtain ⟨c, cs, hcs⟩ : ∃ c cs, a.toList = c :: cs :=
    List.exists_cons_of_ne_nil fun hnil => ha (String.toList_eq_nil_iff.mp hnil)
  rw [toList_append_slash, hcs]
  rfl

theorem join_append (p : ContentPath) {a b : String} (ha : a ≠ "") (hb : b.toList.head? ≠ some '/') :
    (p.join a).join b = p.join (a ++ "/" ++ b) := by
  rw [join_of_head?_ne_slash _ hb]
  by_cases hroot : a.toList.head? = some '/'
  · rw [join_of_head?_slash p hroot, join_of_head?_slash p ((head?_append_slash ha b).trans hroot)]
    exact ofString_text_append a b
  · have hrelative : (a ++ "/" ++ b).toList.head? ≠ some '/' := by
      rw [head?_append_slash ha b]
      exact hroot
    rw [join_of_head?_ne_slash p hroot, join_of_head?_ne_slash p hrelative, ofString_text_append]
    simp only [String.append_assoc]

/-- **Reading and joining compose**: a path in front of a slash can be brought into normal form first, and
two references that are joined one after the other can be joined at once. -/
theorem join_join :
    (∀ x y : String, ofString ((ofString x).text ++ "/" ++ y) = ofString (x ++ "/" ++ y)) ∧
      ∀ (p : ContentPath) (a b : String), a ≠ "" → b.toList.head? ≠ some '/' →
        (p.join a).join b = p.join (a ++ "/" ++ b) :=
  ⟨ofString_text_append, fun p _ _ => p.join_append⟩

/-- The second reference goes back over both segments of the first and over one of the path. -/
theorem join_join_overGuides :
    "drafts/\"v1\"" ≠ "" ∧ "../../../\"..\"//intro".toList.head? ≠ some '/' ∧
      ((ofString "/docs/guides").join "drafts/\"v1\"").join "../../../\"..\"//intro" = ⟨"/intro"⟩ ∧
      (ofString "/docs/guides").join "drafts/\"v1\"/../../../\"..\"//intro" = ⟨"/intro"⟩ := by
  have ha : "drafts/\"v1\"" ≠ "" := by decide
  have hb : "../../../\"..\"//intro".toList.head? ≠ some '/' := by decide
  have hboth : (ofString "/docs/guides").join ("drafts/\"v1\"" ++ "/" ++ "../../../\"..\"//intro") =
      ⟨"/intro"⟩ := by decide +kernel
  exact ⟨ha, hb, (join_join.2 _ _ _ ha hb).trans hboth, hboth⟩

end Folio.ContentPath
