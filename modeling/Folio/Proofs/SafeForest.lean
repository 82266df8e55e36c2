import Folio.Html.Allowed
import Folio.Html.Structure
import Folio.Proofs.ElementClasses

/-! # What the sanitizer lets through stays allowed

`Element.IsSafe` is what a page promises of an element: its tag is listed for its vocabulary, an input is
a check box, and every attribute is allowed on it, holds an allowed address if it holds an address, and
starts with the clobber prefix if it is a name.  A forest is safe if it consists of texts and safe
elements.  The sanitizer makes every forest safe (`Forest.sanitize_isSafe`), and adding the structure of
the page keeps it so (`Forest.withStructure_isSafe`): the elements it makes are safe, and of the others it
changes the classes and ids only. -/

namespace Folio.Html

/-- An attribute that a page may hold, on a tag of a vocabulary. -/
structure Attr.IsSafe (space : Space) (tag : String) (a : Attr) : Prop where
  allowed : allowsAttribute space tag a.name = true
  address : a.name ∈ urlAttrs → isAllowedAddress a.value = true
  guarded : a.name = "name" → clobberPrefix.toList <+: a.value.toList

/-- An element that a page may hold. -/
structure Element.IsSafe (e : Element) : Prop where
  listed : isListedTag e.space e.tag = true
  checkbox : e.tag = "input" → isCheckbox e = true
  attrs : ∀ a ∈ e.attrs, a.IsSafe e.space e.tag

/-- Nothing but texts and safe elements. -/
def Forest.IsSafe : Forest → Prop
  | .nil => True
  | .text _ next => next.IsSafe
  | .comment _ _ => False
  | .doctype _ => False
  | .element e children next => e.IsSafe ∧ children.IsSafe ∧ next.IsSafe

/-! ### The sanitizer -/

theorem guardName_name (a : Attr) : (guardName a).name = a.name := by
  unfold guardName
  split <;> rfl

/-- Every attribute that stays is safe. -/
theorem guardName_isSafe {e : Element} {a : Attr} (h : keepsAttr e a = true) :
    (guardName a).IsSafe e.space e.tag := by
  simp only [keepsAttr, Bool.and_eq_true, Bool.or_eq_true, Bool.not_eq_true', List.contains_eq_mem,
    decide_eq_false_iff_not] at h
  obtain ⟨hallowed, haddress⟩ := h
  refine ⟨by rw [guardName_name]; exact hallowed, fun hurl => ?_, fun hname => ?_⟩
  · rw [guardName_name] at hurl
    have hne : a.name ≠ "name" := by
      intro hn
      rw [hn] at hurl
      exact absurd hurl (by decide)
    have hsame : guardName a = a := by simp [guardName, hne]
    rw [hsame]
    exact haddress.resolve_left (not_not_intro hurl)
  · rw [guardName_name] at hname
    by_cases hprefix : clobberPrefix.toList.isPrefixOf a.value.toList
    · have hsame : guardName a = a := by simp [guardName, hprefix]
      rw [hsame]
      exact List.isPrefixOf_iff_prefix.mp hprefix
    · have hput : guardName a = { a with value := clobberPrefix ++ a.value } := by
        simp [guardName, hname, hprefix]
      rw [hput, String.toList_append]
      exact List.prefix_append _ _

/-- An attribute that stays whatever its value keeps its value, unless it is a name. -/
theorem attr?_cleanElement {e : Element} {name : String} (hname : name ≠ "name")
    (hkeep : ∀ a : Attr, a.name = name → keepsAttr e a = true) :
    (cleanElement e).attr? name = e.attr? name := by
  simp only [Element.attr?, cleanElement]
  induction e.attrs with
  | nil => rfl
  | cons a rest ih =>
      simp only [Attr.find?] at ih ⊢
      by_cases ha : a.name = name
      · have hsame : guardName a = a := by simp [guardName, ha, hname]
        simp [hkeep a ha, hsame, ha]
      · by_cases hk : keepsAttr e a
        · simp only [List.filter_cons, hk, if_true, List.map_cons, List.find?_cons, guardName_name,
            decide_eq_false ha]
          exact ih
        · simp only [List.filter_cons, hk, List.find?_cons, decide_eq_false ha]
          exact ih

theorem cleanElement_isSafe {e : Element} (h : allowsElement e = true) : (cleanElement e).IsSafe := by
  simp only [allowsElement, Bool.and_eq_true, Bool.or_eq_true, decide_eq_true_eq] at h
  obtain ⟨hlisted, hinput⟩ := h
  refine ⟨hlisted, fun htag => ?_, fun a ha => ?_⟩
  · have hinput : e.tag = "input" := htag
    have hspace : e.space = .html := by
      rw [hinput] at hlisted
      cases hs : e.space with
      | html => rfl
      | svg => rw [hs] at hlisted; exact absurd hlisted (by decide)
      | mathml => rw [hs] at hlisted; exact absurd hlisted (by decide)
      | other => rw [hs] at hlisted; exact absurd hlisted (by decide)
    have htype : (cleanElement e).attr? "type" = e.attr? "type" := by
      refine attr?_cleanElement (by decide) fun a ha => ?_
      have hallowed : allowsAttribute .html "input" "type" = true := by decide
      have hurl : urlAttrs.contains "type" = false := by decide
      simp only [keepsAttr, hspace, hinput, ha, hallowed, hurl, Bool.not_false, Bool.true_or,
        Bool.and_true]
    rw [isCheckbox, htype]
    rename_i hbox
    exact hbox.resolve_left (fun hne => hne hinput)
  · simp only [cleanElement, List.mem_map, List.mem_filter] at ha
    obtain ⟨b, ⟨-, hkeep⟩, rfl⟩ := ha
    exact guardName_isSafe hkeep

namespace Forest

theorem isSafe_append {f g : Forest} : (f ++ g).IsSafe ↔ f.IsSafe ∧ g.IsSafe := by
  induction f with
  | nil => exact ⟨fun hg => ⟨trivial, hg⟩, fun h => h.2⟩
  | text s next ih => exact ih
  | comment s next => exact ⟨False.elim, fun h => h.1⟩
  | doctype next => exact ⟨False.elim, fun h => h.1⟩
  | element e children next _ ih =>
      refine ⟨fun ⟨he, hc, hn⟩ => ⟨⟨he, hc, (ih.mp hn).1⟩, (ih.mp hn).2⟩, ?_⟩
      rintro ⟨⟨he, hc, hn⟩, hg⟩
      exact ⟨he, hc, ih.mpr ⟨hn, hg⟩⟩

/-- Whatever a forest holds, however deep: the sanitizer leaves texts and safe elements. -/
theorem sanitize_isSafe : ∀ f : Forest, f.sanitize.IsSafe
  | .nil => trivial
  | .text _ next => sanitize_isSafe next
  | .comment _ next => sanitize_isSafe next
  | .doctype next => sanitize_isSafe next
  | .element e children next => by
    rw [sanitize]
    split
    · exact ⟨cleanElement_isSafe ‹_›, sanitize_isSafe children, sanitize_isSafe next⟩
    · split
      · exact sanitize_isSafe next
      · exact isSafe_append.mpr ⟨sanitize_isSafe children, sanitize_isSafe next⟩

end Forest

/-! ### Attributes that the page adds -/

theorem Attr.mem_put {name value : String} {a : Attr} {attrs : List Attr}
    (h : a ∈ Attr.put name value attrs) : a = ⟨name, value⟩ ∨ a ∈ attrs := by
  induction attrs with
  | nil => exact .inl (List.mem_singleton.mp h)
  | cons b rest ih =>
      rw [put] at h
      split at h
      · exact (List.mem_cons.mp h).imp_right (List.mem_cons_of_mem b)
      · rcases List.mem_cons.mp h with rfl | hrest
        · exact .inr List.mem_cons_self
        · exact (ih hrest).imp_right (List.mem_cons_of_mem b)

namespace Element

/-- Setting an attribute that may stand there keeps an element safe; only the type of a check box must
stay. -/
theorem IsSafe.setAttr {e : Element} {name value : String} (he : e.IsSafe)
    (ha : Attr.IsSafe e.space e.tag ⟨name, value⟩) (hname : name ≠ "type") :
    (e.setAttr name value).IsSafe := by
  refine ⟨he.listed, fun htag => ?_, fun a hmem => ?_⟩
  · have htype : (e.setAttr name value).attr? "type" = e.attr? "type" :=
      Attr.find?_put_of_ne hname.symm e.attrs
    rw [isCheckbox, htype]
    exact he.checkbox htag
  · rcases Attr.mem_put hmem with rfl | hold
    · exact ha
    · exact he.attrs a hold

/-- An attribute of every element is safe where it holds no address and no name. -/
theorem globalAttr_isSafe {space : Space} {tag name : String} (value : String)
    (h : name ∈ ["class", "id", "aria-label"]) : Attr.IsSafe space tag ⟨name, value⟩ := by
  have hallowed : name ∈ globalAttrs ∧ name ∉ urlAttrs ∧ name ≠ "name" := by
    revert name
    decide
  obtain ⟨hglobal, hurl, hname⟩ := hallowed
  refine ⟨?_, fun h => absurd h hurl, fun h => absurd h hname⟩
  simp only [allowsAttribute, List.contains_eq_mem, hglobal, decide_true, Bool.true_or]

theorem IsSafe.addClass {e : Element} (he : e.IsSafe) (cls : String) : (e.addClass cls).IsSafe := by
  have hset : ∀ value, (e.setAttr "class" value).IsSafe := fun value =>
    he.setAttr (globalAttr_isSafe value (by decide)) (by decide)
  unfold Element.addClass
  split
  · exact he
  · split
    · exact hset _
    · exact hset _

theorem IsSafe.identified {e : Element} (he : e.IsSafe) (id : String) :
    (Html.identified e id).IsSafe := by
  unfold Html.identified
  split
  · exact he
  · exact he.setAttr (globalAttr_isSafe id (by decide)) (by decide)

theorem IsSafe.markInternalLink {e : Element} (he : e.IsSafe) : (Html.markInternalLink e).IsSafe := by
  unfold Html.markInternalLink
  split
  · exact he.addClass _
  · exact he

theorem IsSafe.classifyList {e : Element} (he : e.IsSafe) (children : Forest) :
    (Html.classifyList e children).IsSafe := by
  unfold Html.classifyList
  split
  · exact he.addClass _
  · split
    · exact he.addClass _
    · split
      · unfold classifyListItem
        split
        · exact (he.addClass _).addClass _
        · exact he.addClass _
      · exact he

end Element

/-! ### Elements that the page adds -/

/-- An address inside the page is allowed. -/
theorem isAllowedAddress_fragment (id : String) : isAllowedAddress ("#" ++ id) = true := by
  have hkeep : (!Unicode.isBlank '#' && !Unicode.isControl '#') = true := by decide
  have hends : (!endsProtocol '#') = false := by decide
  have hchars : ("#" ++ id).toList = '#' :: id.toList := by
    rw [String.toList_append]
    rfl
  simp only [isAllowedAddress, hchars, List.filter_cons, hkeep, if_true, List.dropWhile_cons, hends]
  rfl

theorem ofHtml_isSafe {tag : String} {attrs : List (String × String)}
    (htag : htmlTags.contains tag = true ∧ tag ≠ "input")
    (hattrs : ∀ a ∈ attrs, Attr.IsSafe .html tag ⟨a.1, a.2⟩) : (Element.ofHtml tag attrs).IsSafe := by
  refine ⟨htag.1, fun h => absurd h htag.2, fun a ha => ?_⟩
  obtain ⟨b, hb, rfl⟩ := List.mem_map.mp ha
  exact hattrs b hb

/-- An element whose only attribute is a class. -/
theorem classed_isSafe {tag : String} (cls : String)
    (htag : htmlTags.contains tag = true ∧ tag ≠ "input") :
    (Element.ofHtml tag [("class", cls)]).IsSafe := by
  refine ofHtml_isSafe htag fun a ha => ?_
  obtain rfl := List.mem_singleton.mp ha
  exact Element.globalAttr_isSafe cls List.mem_cons_self

theorem headingAnchor_isSafe (id : String) : (headingAnchor id).IsSafe := by
  refine ⟨ofHtml_isSafe (by decide) fun a ha => ?_, trivial, trivial⟩
  have hattrs : a = ("class", "heading-anchor") ∨ a = ("href", "#" ++ id) ∨
      a = ("aria-label", "Copy link to heading") := by
    simpa using ha
  rcases hattrs with rfl | rfl | rfl
  · exact Element.globalAttr_isSafe _ (by decide)
  · have hallowed : allowsAttribute .html "a" "href" = true := by decide
    have hname : "href" ≠ "name" := by decide
    exact ⟨hallowed, fun _ => isAllowedAddress_fragment id, fun h => absurd h hname⟩
  · exact Element.globalAttr_isSafe _ (by decide)

/-! ### The structure of the page -/

namespace Forest

theorem anchorHeadings_isSafe (ids : Outline.GivenIds) :
    ∀ f : Forest, f.IsSafe → (f.anchorHeadings ids).1.IsSafe := by
  intro f
  induction f generalizing ids with
  | nil => exact id
  | text s next ih => exact ih ids
  | comment s next => exact False.elim
  | doctype next => exact False.elim
  | element e children next ihc ihn =>
      rintro ⟨he, hc, hn⟩
      rw [anchorHeadings]
      split
      · refine ⟨he.identified _, ⟨classed_isSafe _ (by decide), ?_, trivial⟩, ihn _ hn⟩
        exact isSafe_append.mpr ⟨ihc _ hc, headingAnchor_isSafe _⟩
      · exact ⟨he, ihc _ hc, ihn _ hn⟩

theorem mapElements_isSafe {f : Element → Forest → Element}
    (hf : ∀ {e}, e.IsSafe → ∀ children, (f e children).IsSafe) :
    ∀ g : Forest, g.IsSafe → (g.mapElements f).IsSafe
  | .nil => id
  | .text _ next => mapElements_isSafe hf next
  | .comment _ _ => False.elim
  | .doctype _ => False.elim
  | .element _ children next => fun ⟨he, hc, hn⟩ =>
    ⟨hf he children, mapElements_isSafe hf children hc, mapElements_isSafe hf next hn⟩

theorem frameBlocks_isSafe (tag cls : String) (wrapped : Bool) :
    ∀ f : Forest, f.IsSafe → (f.frameBlocks tag cls wrapped).IsSafe := by
  intro f
  induction f generalizing wrapped with
  | nil => exact id
  | text s next ih => exact ih wrapped
  | comment s next => exact False.elim
  | doctype next => exact False.elim
  | element e children next ihc ihn =>
      rintro ⟨he, hc, hn⟩
      rw [frameBlocks]
      split
      · exact ⟨classed_isSafe cls (by decide), ⟨he, ihc _ hc, trivial⟩, ihn _ hn⟩
      · exact ⟨he, ihc _ hc, ihn _ hn⟩

/-- The structure of the page keeps a forest safe. -/
theorem withStructure_isSafe (registry : Outline.SlugRegistry) (wrapped : String → Bool) {f : Forest}
    (hf : f.IsSafe) : (f.withStructure registry wrapped).IsSafe := by
  have hanchored : (f.identifyHeadings registry).IsSafe := anchorHeadings_isSafe _ f hf
  have hlinks := mapElements_isSafe (fun he _ => Element.IsSafe.markInternalLink he) _ hanchored
  have hlists := mapElements_isSafe Element.IsSafe.classifyList _ hlinks
  exact frameBlocks_isSafe _ _ _ _ (frameBlocks_isSafe _ _ _ _ hlists)

end Forest

end Folio.Html
