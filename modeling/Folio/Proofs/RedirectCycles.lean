import Mathlib.Logic.Relation
import Folio.Proofs.KnownRoutes

/-! # Cycles of redirects

The redirects that the web server is given come in three layers: targets of aliases lead to their short
paths, redirects of the manifest to what they resolve to, declared redirects to the declaring document.
No entry leads to itself, but longer cycles are not looked for, and there are some
(`servedRedirects_has_cycles`).

Every entry ends at a document or at an exposed short path, so a cycle runs through such paths only.
From there an entry of the lowest layer leads on only inside the aliases; a cycle is therefore one of
the alias graph alone, or the manifest or a document redirects away a path that shows content
(`servedRedirects_cycle`). -/

namespace Folio

/-- `Leads m p q`: following the table one or more times leads from `p` to `q`. -/
def Leads (m : PathMap) : ContentPath → ContentPath → Prop :=
  Relation.TransGen fun p q => m[p]? = some q

/-- `g.Exchanges p q`: replacing targets by their short paths, one or more times, leads from `p` to
`q`. -/
def AliasGraph.Exchanges (g : AliasGraph) : ContentPath → ContentPath → Prop :=
  Relation.TransGen g.Exposes

/-- The redirects of a site: those of its aliases, of its manifest and of its documents. -/
def siteRedirects (f : KnownRoutes) (manifest : RawManifest)
    (pages : List (ContentPath × List String)) : PathMap :=
  servedRedirects f.aliases (f.servable manifest) (declaredRedirects pages).1

/-- What redirects are judged by, from raw paths. -/
def KnownRoutes.ofRaw (aliases : List (String × String)) (documents : List String) : KnownRoutes where
  aliases := .ofRaw aliases
  documents := Std.TreeSet.ofList (documents.map ContentPath.ofString)

/-! ### Entries -/

/-- What the table has for a path: the answer of the uppermost layer that has one, if it is another
path. -/
theorem servedRedirects_eq_some_iff (g : AliasGraph) (servable declared : PathMap)
    (p q : ContentPath) :
    (servedRedirects g servable declared)[p]? = some q ↔
      p ≠ q ∧ declared[p]?.or (servable[p]?.or (g.key? p)) = some q := by
  simp only [servedRedirects, Std.TreeMap.getElem?_filter', overlay_getElem?, AliasGraph.key?,
    Option.filter_eq_some_iff, decide_eq_true_eq]
  simp [and_comm]

section Site

variable (f : KnownRoutes) (manifest : RawManifest) (pages : List (ContentPath × List String))

/-- Every redirect of a site ends where content is shown. -/
theorem siteRedirects_ends (hp : ∀ d ∈ pages, f.isDocument d.1 = true) :
    EndsIn f.IsEnd (siteRedirects f manifest pages) := by
  intro p q h
  obtain ⟨-, h⟩ := (servedRedirects_eq_some_iff _ _ _ p q).mp h
  cases hd : (declaredRedirects pages).1[p]? with
  | some r =>
      rw [hd, Option.some_or] at h
      exact declaredRedirects_ends (P := f.IsEnd) (fun d hm => .inl (hp d hm)) p q (hd.trans h)
  | none =>
      rw [hd, Option.none_or] at h
      cases hs : (f.servable manifest)[p]? with
      | some r =>
          rw [hs, Option.some_or] at h
          exact KnownRoutes.servable_ends manifest p q (hs.trans h)
      | none =>
          rw [hs, Option.none_or] at h
          exact .inr ⟨p, (f.aliases.key?_eq_some_iff p q).mp h⟩

/-- Where neither the manifest nor a document redirects, only a short path can be led to. -/
theorem exposes_of_siteRedirects {p q : ContentPath} (hs : p ∉ f.servable manifest)
    (hd : p ∉ (declaredRedirects pages).1) (h : (siteRedirects f manifest pages)[p]? = some q) :
    f.aliases.Exposes p q := by
  rw [Std.TreeMap.mem_iff_isSome_getElem?, Bool.not_eq_true, Option.isSome_eq_false_iff,
    Option.isNone_iff_eq_none] at hs hd
  obtain ⟨-, h⟩ := (servedRedirects_eq_some_iff _ _ _ p q).mp h
  rw [hs, hd, Option.none_or, Option.none_or] at h
  exact (f.aliases.key?_eq_some_iff p q).mp h

end Site

/-- Documents that are given in the order of routes declare in that order. -/
theorem declaredRedirects_of_sorted {pages : List (ContentPath × List String)}
    (h : pages.Pairwise fun a b => (compare a.1 b.1).isLE) :
    declaredRedirects pages =
      pages.foldl (fun state d => d.2.foldl (claimAlias d.1) state) (∅, []) := by
  rw [declaredRedirects, List.mergeSort_of_pairwise h]

/-! ### Cycles -/

theorem Leads.end_of {P : ContentPath → Prop} {m : PathMap} (hm : EndsIn P m) {p q : ContentPath}
    (h : Leads m p q) : P q := by
  cases h with
  | single h => exact hm _ _ h
  | tail _ h => exact hm _ _ h

/-- A cycle whose paths nobody but the aliases redirects is one of the alias graph. -/
theorem exchanges_of_cycle {g : AliasGraph} {m : PathMap} {p : ContentPath} (hc : Leads m p p)
    (hm : ∀ q r : ContentPath, Leads m p q → Leads m q p → m[q]? = some r → g.Exposes q r) :
    g.Exchanges p p := by
  have walk : ∀ q, Leads m p q → Relation.ReflTransGen (fun p q => m[p]? = some q) q p →
      g.Exchanges p q := by
    intro q h
    -- one more entry of the cycle at a time, from its start
    induction h with
    | single h => exact fun _ => .single (hm p _ hc hc h)
    | tail h hqr ih =>
        intro back
        have home : Leads m _ p := Relation.TransGen.head' hqr back
        exact (ih home.to_reflTransGen).tail (hm _ _ h home hqr)
  exact walk p hc .refl

/-- No redirect of a site leads to where it starts.  A longer cycle is a cycle of the alias graph, or it
visits a document or an exposed short path that the manifest or a document redirects to somewhere else.
So there is none if exchanging targets for short paths never returns and no path that shows content is
redirected. -/
theorem servedRedirects_cycle (f : KnownRoutes) (manifest : RawManifest)
    (pages : List (ContentPath × List String))
    (hp : ∀ d ∈ pages, f.isDocument d.1 = true ∧ f.aliases.isKey d.1 = false) :
    let servable := f.servable manifest
    let declared := (declaredRedirects pages).1
    let table := servedRedirects f.aliases servable declared
    (∀ p : ContentPath, table[p]? ≠ some p) ∧
    (∀ p, Leads table p p → f.aliases.Exchanges p p ∨
      ∃ q, Leads table p q ∧ Leads table q p ∧ f.IsEnd q ∧ (q ∈ servable ∨ q ∈ declared)) ∧
    ((∀ p, ¬ f.aliases.Exchanges p p) → (∀ q, f.IsEnd q → q ∉ servable ∧ q ∉ declared) →
      ∀ p, ¬ Leads table p p) := by
  have cycle : ∀ p, Leads (siteRedirects f manifest pages) p p → f.aliases.Exchanges p p ∨
      ∃ q, Leads (siteRedirects f manifest pages) p q ∧ Leads (siteRedirects f manifest pages) q p ∧
        f.IsEnd q ∧ (q ∈ f.servable manifest ∨ q ∈ (declaredRedirects pages).1) := by
    intro p hc
    by_cases hx : ∃ q, Leads (siteRedirects f manifest pages) p q ∧
        Leads (siteRedirects f manifest pages) q p ∧
          (q ∈ f.servable manifest ∨ q ∈ (declaredRedirects pages).1)
    · obtain ⟨q, hpq, hqp, hq⟩ := hx
      have he := hpq.end_of (siteRedirects_ends f manifest pages fun d hd => (hp d hd).1)
      exact .inr ⟨q, hpq, hqp, he, hq⟩
    · refine .inl (exchanges_of_cycle hc fun q r hpq hqp h => ?_)
      exact exposes_of_siteRedirects f manifest pages (fun hs => hx ⟨q, hpq, hqp, .inl hs⟩)
        (fun hd => hx ⟨q, hpq, hqp, .inr hd⟩) h
  refine ⟨fun p h => ((servedRedirects_eq_some_iff _ _ _ p p).mp h).1 rfl, cycle,
    fun ha he p hc => ?_⟩
  rcases cycle p hc with h | ⟨q, -, -, hq, hs | hd⟩
  · exact ha p h
  · exact (he q hq).1 hs
  · exact (he q hq).2 hd

/-- A site of two documents, one of them exposed under a short path. -/
def smallSite : KnownRoutes := .ofRaw [("/s", "/a")] ["/a", "/b"]

/-- What the documents of the small site declare. -/
def smallPages : List (ContentPath × List String) := [(⟨"/a"⟩, []), (⟨"/b"⟩, ["t", "/b"])]

theorem smallSite_exposes {t k : ContentPath} (h : smallSite.aliases.Exposes t k) :
    t = ⟨"/a"⟩ ∧ k = ⟨"/s"⟩ := by
  have hm := (mem_toList_iff smallSite.aliases.expanded (k, t)).mpr h.1
  have hl : smallSite.aliases.expanded.toList = [(⟨"/s"⟩, ⟨"/a"⟩)] := by decide +kernel
  rw [hl, List.mem_singleton] at hm
  exact ⟨congrArg Prod.snd hm, congrArg Prod.fst hm⟩

theorem smallSite_isEnd {q : ContentPath} (h : smallSite.IsEnd q) :
    q = ⟨"/a"⟩ ∨ q = ⟨"/b"⟩ ∨ q = ⟨"/s"⟩ := by
  rcases h with h | ⟨t, h⟩
  · have hd : q ∈ ["/a", "/b"].map ContentPath.ofString :=
      (KnownRoutes.isDocument_ofList smallSite.aliases _ q).mp h
    have hl : ["/a", "/b"].map ContentPath.ofString = [⟨"/a"⟩, ⟨"/b"⟩] := by decide +kernel
    rw [hl] at hd
    simp only [List.mem_cons, List.not_mem_nil, or_false] at hd
    exact hd.imp_right .inl
  · exact .inr (.inr (smallSite_exposes h).2)

/-- On the small site, with a manifest that takes an old address to `/b`, no redirect returns. -/
theorem servedRedirects_cycle_smallSite :
    (∀ d ∈ smallPages, smallSite.isDocument d.1 = true ∧ smallSite.aliases.isKey d.1 = false) ∧
    ∀ p, ¬ Leads (servedRedirects smallSite.aliases (smallSite.servable (.ofList [("/old", "/b.md")]))
      (declaredRedirects smallPages).1) p p := by
  have hp : ∀ d ∈ smallPages,
      smallSite.isDocument d.1 = true ∧ smallSite.aliases.isKey d.1 = false := by decide +kernel
  refine ⟨hp, (servedRedirects_cycle smallSite _ smallPages hp).2.2 ?_ ?_⟩
  · intro p hc
    have hs : p = ⟨"/s"⟩ := by
      cases hc with
      | single h => exact (smallSite_exposes h).2
      | tail _ h => exact (smallSite_exposes h).2
    obtain ⟨k, h, -⟩ := Relation.TransGen.head'_iff.mp hc
    exact absurd (hs.symm.trans (smallSite_exposes h).1) (by decide)
  · intro q hq
    rw [declaredRedirects_of_sorted (by decide +kernel)]
    rcases smallSite_isEnd hq with rfl | rfl | rfl <;> decide +kernel

/-! ### Cycles that there are -/

theorem leads_of_pair {m : PathMap} {p q : ContentPath} (hp : m[p]? = some q) (hq : m[q]? = some p) :
    Leads m p p := .tail (.single hp) hq

/-- Redirects run in a cycle where two short paths lead to each other, where the manifest or documents
send two documents to each other, where a document declares the short path it is exposed under, and
where a redirect from a readme gives a short path back to its target. -/
theorem servedRedirects_has_cycles :
    Leads (siteRedirects (.ofRaw [("/a", "/b"), ("/b", "/a")] []) ∅ []) ⟨"/a"⟩ ⟨"/a"⟩ ∧
    Leads (siteRedirects (.ofRaw [] ["/a", "/b"]) (.ofList [("/a", "/b"), ("/b", "/a")]) [])
      ⟨"/a"⟩ ⟨"/a"⟩ ∧
    Leads (siteRedirects (.ofRaw [] ["/a", "/b"]) ∅ [(⟨"/a"⟩, ["/b"]), (⟨"/b"⟩, ["/a"])])
      ⟨"/a"⟩ ⟨"/a"⟩ ∧
    Leads (siteRedirects (.ofRaw [("/s", "/a")] ["/a"]) ∅ [(⟨"/a"⟩, ["/s"])]) ⟨"/a"⟩ ⟨"/a"⟩ ∧
    Leads (siteRedirects (.ofRaw [("/s/readme.md", "/a")] ["/a"]) (.ofList [("/s/readme.md", "/a")]) [])
      ⟨"/a"⟩ ⟨"/a"⟩ := by
  refine ⟨?_, ?_, ?_, ?_, ?_⟩
  · rw [siteRedirects, declaredRedirects_of_sorted .nil]
    exact leads_of_pair (q := ⟨"/b"⟩) (by decide +kernel) (by decide +kernel)
  · rw [siteRedirects, declaredRedirects_of_sorted .nil]
    exact leads_of_pair (q := ⟨"/b"⟩) (by decide +kernel) (by decide +kernel)
  · rw [siteRedirects, declaredRedirects_of_sorted (by decide +kernel)]
    exact leads_of_pair (q := ⟨"/b"⟩) (by decide +kernel) (by decide +kernel)
  · rw [siteRedirects, declaredRedirects_of_sorted (by decide +kernel)]
    exact leads_of_pair (q := ⟨"/s"⟩) (by decide +kernel) (by decide +kernel)
  · rw [siteRedirects, declaredRedirects_of_sorted .nil]
    exact leads_of_pair (q := ⟨"/s/readme.md"⟩) (by decide +kernel) (by decide +kernel)

end Folio
