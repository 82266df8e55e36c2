import Folio.Html.Allowed
import Folio.Html.Printer
import Mathlib.Data.List.TakeWhile

/-! # Reading tags and texts

A lexer knows three things: start tags with quoted attributes, end tags, and text, which is all the rest.
It decodes the five references that the printer writes, each once.  It reads back what the printer writes
for a tag (`lexedTag?_startTagChars`, `lexedTag?_endTagChars`) and for a text that a tag ends (`lexFrom_escapedText`):
an escaped text holds no angle bracket, an escaped value no quotation mark, and the names that the lists
allow hold only characters of names. -/

namespace Folio.Html

/-! ### Lexemes -/

/-- What HTML is read as. -/
inductive Lexeme where
  | start (tag : String) (attrs : List Attr)
  | text (s : String)
  | close (tag : String)
deriving DecidableEq, Repr

/-- The references of a text decoded, each once. -/
def decodeReferences : List Char → List Char
  | '&' :: 'a' :: 'm' :: 'p' :: ';' :: cs => '&' :: decodeReferences cs
  | '&' :: 'l' :: 't' :: ';' :: cs => '<' :: decodeReferences cs
  | '&' :: 'g' :: 't' :: ';' :: cs => '>' :: decodeReferences cs
  | '&' :: 'q' :: 'u' :: 'o' :: 't' :: ';' :: cs => '"' :: decodeReferences cs
  | '&' :: 'n' :: 'b' :: 's' :: 'p' :: ';' :: cs => Char.ofNat 0xA0 :: decodeReferences cs
  | c :: cs => c :: decodeReferences cs
  | [] => []

/-- Whether a character can stand in the name of a tag or an attribute. -/
def isNameChar (c : Char) : Bool := c.isAlphanum || c == '-' || c == ':'

/-- The name that a text starts with, and what follows it. -/
def name? (cs : List Char) : Option (String × List Char) :=
  let name := cs.takeWhile isNameChar
  if name = [] then none else some (String.ofList name, cs.dropWhile isNameChar)

/-- The quoted value that a text starts with, and what follows it. -/
def quoted? (cs : List Char) : Option (String × List Char) :=
  match cs.dropWhile (· ≠ '"') with
  | '"' :: rest => some (String.ofList (decodeReferences (cs.takeWhile (· ≠ '"'))), rest)
  | _ => none

/-- The attribute that a text starts with, and what follows it. -/
def attribute? : List Char → Option (Attr × List Char)
  | ' ' :: cs =>
    match name? cs with
    | some (name, '=' :: '"' :: rest) => (quoted? rest).map fun r => (⟨name, r.1⟩, r.2)
    | _ => none
  | _ => none

theorem length_of_name? {cs rest : List Char} {name : String} (h : name? cs = some (name, rest)) :
    rest.length ≤ cs.length := by
  simp only [name?] at h
  split at h
  · cases h
  · cases h
    exact (List.dropWhile_suffix _).length_le

theorem length_of_quoted? {cs rest : List Char} {value : String} (h : quoted? cs = some (value, rest)) :
    rest.length ≤ cs.length := by
  have hsuffix : (cs.dropWhile (· ≠ '"')).length ≤ cs.length := (List.dropWhile_suffix _).length_le
  unfold quoted? at h
  split at h
  · rename_i hcs
    cases h
    rw [hcs, List.length_cons] at hsuffix
    omega
  · cases h

theorem length_of_attribute? {cs rest : List Char} {a : Attr} (h : attribute? cs = some (a, rest)) :
    rest.length < cs.length := by
  unfold attribute? at h
  split at h
  · split at h
    · rename_i hname
      obtain ⟨r, hr, he⟩ := Option.map_eq_some_iff.mp h
      cases he
      have hvalue := length_of_quoted? hr
      have hrest := length_of_name? hname
      simp only [List.length_cons] at hrest ⊢
      omega
    · cases h
  · cases h

/-- The attributes of a tag up to its end, and what follows the tag. -/
def attributes? (cs : List Char) : Option (List Attr × List Char) :=
  match _h : attribute? cs with
  | some (a, rest) => (attributes? rest).map fun r => (a :: r.1, r.2)
  | none =>
    match cs with
    | '>' :: rest => some ([], rest)
    | _ => none
  termination_by cs.length
  decreasing_by exact length_of_attribute? _h

theorem length_of_attributes? {cs rest : List Char} {attrs : List Attr}
    (h : attributes? cs = some (attrs, rest)) : rest.length ≤ cs.length := by
  fun_induction attributes? cs generalizing attrs rest with
  | case1 cs a rest' hfirst ih =>
    obtain ⟨r, hr, he⟩ := Option.map_eq_some_iff.mp h
    cases he
    have := ih hr
    have := length_of_attribute? hfirst
    omega
  | case2 rest' _ =>
    cases h
    simp
  | case3 => cases h

/-- The tag that a text starts with, and what follows it. -/
def lexedTag? : List Char → Option (Lexeme × List Char)
  | '<' :: '/' :: cs =>
    match name? cs with
    | some (name, '>' :: rest) => some (.close name, rest)
    | _ => none
  | '<' :: cs =>
    match name? cs with
    | some (name, rest) => (attributes? rest).map fun r => (.start name r.1, r.2)
    | none => none
  | _ => none

theorem length_of_lexedTag? {cs rest : List Char} {tag : Lexeme} (h : lexedTag? cs = some (tag, rest)) :
    rest.length < cs.length := by
  unfold lexedTag? at h
  split at h
  · split at h
    · rename_i hname
      cases h
      have := length_of_name? hname
      simp only [List.length_cons] at this ⊢
      omega
    · cases h
  · split at h
    · rename_i hname
      obtain ⟨r, hr, he⟩ := Option.map_eq_some_iff.mp h
      cases he
      have := length_of_name? hname
      have := length_of_attributes? hr
      simp only [List.length_cons]
      omega
    · cases h
  · cases h

/-- The text that some characters without tags are, if there are any. -/
def textRun (run : List Char) : List Lexeme :=
  if run = [] then [] else [.text (String.ofList (decodeReferences run))]

/-- The lexemes of a text, behind some characters that are text. -/
def lexFrom (run cs : List Char) : List Lexeme :=
  match _h : lexedTag? cs with
  | some (tag, rest) => textRun run ++ tag :: lexFrom [] rest
  | none =>
    match cs with
    | [] => textRun run
    | c :: rest => lexFrom (run ++ [c]) rest
  termination_by cs.length
  decreasing_by
    · exact length_of_lexedTag? _h
    · simp

/-- The lexemes of a text. -/
def lex (s : String) : List Lexeme := lexFrom [] s.toList

/-! ### Escaped text -/

theorem decodeReferences_cons_of_ne {c : Char} (h : c ≠ '&') (cs : List Char) :
    decodeReferences (c :: cs) = c :: decodeReferences cs := by
  rw [decodeReferences] <;> simp [h]

theorem eq_ofNat_of_toNat_eq {c : Char} {n : Nat} (h : c.toNat = n) : c = Char.ofNat n := by
  rw [← h, Char.ofNat_toNat]

theorem decodeReferences_escapeTextChar (c : Char) (cs : List Char) :
    decodeReferences (escapeTextChar c ++ cs) = c :: decodeReferences cs := by
  unfold escapeTextChar
  split
  · rename_i h
    rw [h]
    rfl
  · rename_i hamp
    split
    · rename_i h
      rw [h]
      rfl
    · split
      · rename_i h
        rw [h]
        rfl
      · split
        · rename_i h
          rw [eq_ofNat_of_toNat_eq h]
          rfl
        · exact decodeReferences_cons_of_ne hamp cs

theorem decodeReferences_escapeAttrChar (c : Char) (cs : List Char) :
    decodeReferences (escapeAttrChar c ++ cs) = c :: decodeReferences cs := by
  unfold escapeAttrChar
  split
  · rename_i h
    rw [h]
    rfl
  · rename_i hamp
    split
    · rename_i h
      rw [h]
      rfl
    · split
      · rename_i h
        rw [eq_ofNat_of_toNat_eq h]
        rfl
      · exact decodeReferences_cons_of_ne hamp cs

/-- Decoding undoes an escape that it undoes on each character. -/
theorem decodeReferences_flatMap {escape : Char → List Char}
    (h : ∀ c cs, decodeReferences (escape c ++ cs) = c :: decodeReferences cs) (cs : List Char) :
    decodeReferences (cs.flatMap escape) = cs := by
  induction cs with
  | nil => rfl
  | cons c cs ih => rw [List.flatMap_cons, h, ih]

/-- Escaped text holds no angle bracket. -/
theorem not_mem_flatMap_escapeTextChar (cs : List Char) : '<' ∉ cs.flatMap escapeTextChar := by
  rw [List.mem_flatMap]
  rintro ⟨c, -, h⟩
  by_cases hc : c = '<'
  · subst hc
    revert h
    decide
  · unfold escapeTextChar at h
    repeat' split at h
    all_goals simp [Ne.symm hc] at h

/-- An escaped value holds no quotation mark. -/
theorem not_mem_flatMap_escapeAttrChar (cs : List Char) : '"' ∉ cs.flatMap escapeAttrChar := by
  rw [List.mem_flatMap]
  rintro ⟨c, -, h⟩
  by_cases hc : c = '"'
  · subst hc
    revert h
    decide
  · unfold escapeAttrChar at h
    repeat' split at h
    all_goals simp [Ne.symm hc] at h

/-! ### Tags as they are written -/

/-- A name that can be read back: it has characters, and all of them are those of names. -/
def IsWord (name : String) : Prop := name.toList ≠ [] ∧ ∀ c ∈ name.toList, isNameChar c = true

/-- Words are told by looking at their characters. -/
theorem isWord_of_all {names : List String}
    (h : names.all (fun name => !name.toList.isEmpty && name.toList.all isNameChar) = true) :
    ∀ name ∈ names, IsWord name := by
  intro name hname
  obtain ⟨hne, hall⟩ := Bool.and_eq_true_iff.mp (List.all_eq_true.mp h name hname)
  exact ⟨by simpa using hne, List.all_eq_true.mp hall⟩

theorem mem_of_isListedTag {space : Space} {tag : String} (h : isListedTag space tag = true) :
    tag ∈ htmlTags ++ svgTags ++ mathmlTags := by
  cases space with
  | html => simp_all [isListedTag]
  | svg => simp_all [isListedTag]
  | mathml => simp_all [isListedTag]
  | other => cases h

/-- Every tag that is listed is a word, and none of them has raw text. -/
theorem isWord_of_isListedTag {space : Space} {tag : String} (h : isListedTag space tag = true) :
    IsWord tag ∧ isRawText tag = false := by
  have hmem := mem_of_isListedTag h
  have hraw : (htmlTags ++ svgTags ++ mathmlTags).all (fun tag => !isRawText tag) = true := by
    decide +kernel
  exact ⟨isWord_of_all (by decide +kernel) tag hmem, by simpa using List.all_eq_true.mp hraw tag hmem⟩

/-- An attribute that is allowed is on a list of its vocabulary or on that of its tag. -/
theorem mem_of_allowsAttribute {space : Space} {tag name : String}
    (h : allowsAttribute space tag name = true) :
    name ∈ globalAttrs ++ svgAttrs ++ mathmlAttrs ∨ name ∈ attributesOfTag tag := by
  unfold allowsAttribute at h
  by_cases hglobal : globalAttrs.contains name = true
  · exact .inl (by simp_all)
  · cases space with
    | html => exact .inr (by simp_all)
    | svg => exact .inl (by simp_all)
    | mathml => exact .inl (by simp_all)
    | other => simp_all

theorem isWord_of_mem_attributesOfTag {tag name : String} (h : name ∈ attributesOfTag tag) :
    IsWord name := by
  unfold attributesOfTag at h
  split at h
  all_goals exact isWord_of_all (by decide +kernel) name h

/-- Every attribute that is allowed is a word. -/
theorem isWord_of_allowsAttribute {space : Space} {tag name : String}
    (h : allowsAttribute space tag name = true) : IsWord name := by
  rcases mem_of_allowsAttribute h with h | h
  · exact isWord_of_all (by decide +kernel) name h
  · exact isWord_of_mem_attributesOfTag h

/-- A word is read up to a character that no name has. -/
theorem name?_append {name : String} (hname : IsWord name) {c : Char} (hc : isNameChar c = false)
    (cs : List Char) : name? (name.toList ++ c :: cs) = some (name, c :: cs) := by
  have htake : (name.toList ++ c :: cs).takeWhile isNameChar = name.toList := by
    rw [List.takeWhile_append_of_pos hname.2, List.takeWhile_cons_of_neg (by simp [hc]), List.append_nil]
  have hdrop : (name.toList ++ c :: cs).dropWhile isNameChar = c :: cs := by
    rw [List.dropWhile_append_of_pos hname.2, List.dropWhile_cons_of_neg (by simp [hc])]
  rw [name?, htake, hdrop]
  simp [hname.1]

/-- An escaped value is read up to the quotation mark that ends it. -/
theorem quoted?_append (value : String) (cs : List Char) :
    quoted? (value.toList.flatMap escapeAttrChar ++ '"' :: cs) = some (value, cs) := by
  have hall : ∀ c ∈ value.toList.flatMap escapeAttrChar, decide (c ≠ '"') = true := by
    intro c hc
    refine decide_eq_true fun e => not_mem_flatMap_escapeAttrChar value.toList (e ▸ hc)
  have htake : (value.toList.flatMap escapeAttrChar ++ '"' :: cs).takeWhile (· ≠ '"') =
      value.toList.flatMap escapeAttrChar := by
    rw [List.takeWhile_append_of_pos hall, List.takeWhile_cons_of_neg (by simp), List.append_nil]
  have hdrop : (value.toList.flatMap escapeAttrChar ++ '"' :: cs).dropWhile (· ≠ '"') = '"' :: cs := by
    rw [List.dropWhile_append_of_pos hall, List.dropWhile_cons_of_neg (by simp)]
  rw [quoted?, htake, hdrop]
  simp [decodeReferences_flatMap decodeReferences_escapeAttrChar]

theorem attrChars_append (a : Attr) (cs : List Char) :
    attrChars a ++ cs =
      ' ' :: (a.name.toList ++ '=' :: '"' :: (a.value.toList.flatMap escapeAttrChar ++ '"' :: cs)) := by
  simp [attrChars]

theorem startTagChars_append (e : Element) (cs : List Char) :
    startTagChars e ++ cs = '<' :: (e.tag.toList ++ (e.attrs.flatMap attrChars ++ '>' :: cs)) := by
  simp [startTagChars]

theorem endTagChars_append (e : Element) (cs : List Char) :
    endTagChars e ++ cs = '<' :: '/' :: (e.tag.toList ++ '>' :: cs) := by
  simp [endTagChars]

theorem attribute?_append {a : Attr} (ha : IsWord a.name) (cs : List Char) :
    attribute? (attrChars a ++ cs) = some (a, cs) := by
  rw [attrChars_append, attribute?, name?_append ha (by decide)]
  simp [quoted?_append]

/-- The attributes of a tag are read up to its end. -/
theorem attributes?_append {attrs : List Attr} (h : ∀ a ∈ attrs, IsWord a.name) (cs : List Char) :
    attributes? (attrs.flatMap attrChars ++ '>' :: cs) = some (attrs, cs) := by
  induction attrs with
  | nil =>
    have hnone : attribute? ('>' :: cs) = none := rfl
    rw [List.flatMap_nil, List.nil_append, attributes?]
    split <;> simp_all
  | cons a attrs ih =>
    obtain ⟨ha, hattrs⟩ := List.forall_mem_cons.mp h
    have hfirst := attribute?_append ha (attrs.flatMap attrChars ++ '>' :: cs)
    rw [List.flatMap_cons, List.append_assoc, attributes?]
    split
    · rename_i hread
      cases hfirst.symm.trans hread
      rw [ih hattrs]
      rfl
    · rename_i hread
      cases hfirst.symm.trans hread

/-- The first character of a word is one of a name. -/
theorem IsWord.exists_cons {name : String} (h : IsWord name) :
    ∃ c cs, name.toList = c :: cs ∧ isNameChar c = true := by
  obtain ⟨c, cs, hname⟩ := List.exists_cons_of_ne_nil h.1
  exact ⟨c, cs, hname, h.2 c (by simp [hname])⟩

/-- Attributes and the end of a tag start with a character that no name has. -/
theorem exists_cons_attrs (attrs : List Attr) (cs : List Char) :
    ∃ c cs', attrs.flatMap attrChars ++ '>' :: cs = c :: cs' ∧ isNameChar c = false := by
  cases attrs with
  | nil => exact ⟨'>', cs, rfl, by decide⟩
  | cons a attrs => exact ⟨' ', _, rfl, by decide⟩

/-- A start tag is read back. -/
theorem lexedTag?_startTagChars {e : Element} (htag : IsWord e.tag) (hattrs : ∀ a ∈ e.attrs, IsWord a.name)
    (cs : List Char) : lexedTag? (startTagChars e ++ cs) = some (.start e.tag e.attrs, cs) := by
  obtain ⟨d, ds, hends, hd⟩ := exists_cons_attrs e.attrs cs
  have hname : name? (e.tag.toList ++ (e.attrs.flatMap attrChars ++ '>' :: cs)) =
      some (e.tag, e.attrs.flatMap attrChars ++ '>' :: cs) := by
    rw [hends, name?_append htag hd]
  obtain ⟨c, word, htoList, hc⟩ := htag.exists_cons
  have hslash : c ≠ '/' := by
    rintro rfl
    cases hc
  rw [startTagChars_append, lexedTag?, hname]
  · simp [attributes?_append hattrs]
  · intro rest heq
    rw [htoList] at heq
    exact hslash (List.head_eq_of_cons_eq heq)

/-- An end tag is read back. -/
theorem lexedTag?_endTagChars {e : Element} (htag : IsWord e.tag) (cs : List Char) :
    lexedTag? (endTagChars e ++ cs) = some (.close e.tag, cs) := by
  rw [endTagChars_append, lexedTag?, name?_append htag (by decide)]
  rfl

/-! ### What is read behind texts and tags -/

/-- A tag ends the run of text before it. -/
theorem lexFrom_of_lexedTag? {run cs rest : List Char} {tag : Lexeme} (h : lexedTag? cs = some (tag, rest)) :
    lexFrom run cs = textRun run ++ tag :: lexFrom [] rest := by
  rw [lexFrom]
  split
  · rename_i hread
    cases h.symm.trans hread
    rfl
  · rename_i hread
    cases h.symm.trans hread

theorem lexedTag?_of_ne {c : Char} (h : c ≠ '<') (cs : List Char) : lexedTag? (c :: cs) = none := by
  rw [lexedTag?] <;> simp [h]

theorem lexFrom_cons_of_ne {c : Char} (h : c ≠ '<') (run cs : List Char) :
    lexFrom run (c :: cs) = lexFrom (run ++ [c]) cs := by
  rw [lexFrom]
  split
  · rename_i hread
    cases (lexedTag?_of_ne h cs).symm.trans hread
  · rfl

/-- Without an angle bracket all is text. -/
theorem lexFrom_append_of_not_mem {s : List Char} (h : '<' ∉ s) (run cs : List Char) :
    lexFrom run (s ++ cs) = lexFrom (run ++ s) cs := by
  induction s generalizing run with
  | nil => rw [List.nil_append, List.append_nil]
  | cons c s ih =>
    obtain ⟨hc, hs⟩ : '<' ≠ c ∧ '<' ∉ s := by simpa using h
    rw [List.cons_append, lexFrom_cons_of_ne hc.symm, ih hs, List.append_assoc, List.singleton_append]

/-- Whether a text ends or goes on with a tag. -/
def EndsText (cs : List Char) : Prop := cs = [] ∨ (lexedTag? cs).isSome = true

theorem EndsText.lexFrom_eq {cs : List Char} (h : EndsText cs) (run : List Char) :
    lexFrom run cs = textRun run ++ lexFrom [] cs := by
  rcases h with rfl | h
  · simp [lexFrom, textRun, lexedTag?]
  · obtain ⟨⟨tag, rest⟩, hread⟩ := Option.isSome_iff_exists.mp h
    rw [lexFrom_of_lexedTag? hread, lexFrom_of_lexedTag? hread]
    rfl

/-- An escaped text is read as one text where it ends. -/
theorem lexFrom_escapedText {s : String} (hs : s ≠ "") {cs : List Char} (hcs : EndsText cs) :
    lexFrom [] (s.toList.flatMap escapeTextChar ++ cs) = .text s :: lexFrom [] cs := by
  have hrun : s.toList.flatMap escapeTextChar ≠ [] := by
    intro hnil
    have hdecoded := decodeReferences_flatMap decodeReferences_escapeTextChar s.toList
    rw [hnil] at hdecoded
    exact hs (String.toList_eq_nil_iff.mp hdecoded.symm)
  rw [lexFrom_append_of_not_mem (not_mem_flatMap_escapeTextChar s.toList), hcs.lexFrom_eq]
  simp [textRun, hrun, decodeReferences_flatMap decodeReferences_escapeTextChar]

end Folio.Html
