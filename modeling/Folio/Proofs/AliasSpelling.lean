import Folio.Proofs.AliasEntries

/-! # Spellings of a manifest

A manifest is walked in the order of its raw paths, so spelling a path differently can move an alias to
another place of the walk.  That does not change which short paths there are, and an alias keeps its
target.  A short path that is only derived keeps its target as well, unless two aliases derive it with
different targets (`Contested`): then the alias that comes later in the walk wins, and the spelling shows
(`exists_respelled_ne`).  Where nothing is contested the graphs are the same (`build_respelled`). -/

namespace Folio.AliasGraph

section Respelled

variable (tree : ContentTree) (reserved : List String) {manifest manifest' : RawManifest}

/-- A short path that no alias declares and that is derived from the aliases with different targets. -/
def Contested (manifest : RawManifest) (p : ContentPath) : Prop :=
  (∀ e ∈ entries manifest, e.1 ≠ p) ∧
    ∃ a ∈ (entries manifest).flatMap (derived tree reserved),
      ∃ b ∈ (entries manifest).flatMap (derived tree reserved), a.1 = p ∧ b.1 = p ∧ a.2 ≠ b.2

/-- Graphs with the same entries, and so with the same inverse. -/
def SameEntries (g g' : AliasGraph) : Prop := g.expanded.Equiv g'.expanded ∧ g.inverse = g'.inverse

theorem sameEntries_of_target? {g g' : AliasGraph} (h : ∀ p, g.target? p = g'.target? p) :
    SameEntries g g' := by
  have hexpanded : g.expanded.Equiv g'.expanded := .of_forall_constGet?_eq h
  refine ⟨hexpanded, ?_⟩
  rw [g.inverse_eq, g'.inverse_eq, smallestKeys, smallestKeys, hexpanded.foldl_eq]

theorem mem_entries_congr (same : ∀ e, e ∈ declared manifest ↔ e ∈ declared manifest')
    (e : ContentPath × ContentPath) : e ∈ entries manifest ↔ e ∈ entries manifest' := by
  rw [mem_entries_iff, mem_entries_iff, same]

/-- Both walks come to the same short paths. -/
theorem isKey_build_congr (same : ∀ e, e ∈ declared manifest ↔ e ∈ declared manifest')
    (p : ContentPath) :
    (build manifest tree reserved).1.isKey p = (build manifest' tree reserved).1.isKey p := by
  rw [Bool.eq_iff_iff, isKey_build_iff, isKey_build_iff]
  simp only [mem_entries_congr same]

variable {tree reserved} {p : ContentPath}

/-- A short path that no alias declares has the target that is derived for it. -/
theorem target?_build_of_not_declared (h : ∀ e ∈ entries manifest, e.1 ≠ p) :
    (build manifest tree reserved).1.target? p =
      (insertAll ∅ ((entries manifest).flatMap (derived tree reserved)))[p]? := by
  rw [target?, expanded_build, insertAll, List.foldl_append]
  exact getElem?_foldl_insert_of_ne Prod.fst Prod.snd _ _ h

/-- Both walks come to the same target of a short path that is not contested. -/
theorem target?_build_congr (same : ∀ e, e ∈ declared manifest ↔ e ∈ declared manifest')
    (distinct : ((declared manifest).map Prod.fst).Nodup)
    (h : ¬ Contested tree reserved manifest p) :
    (build manifest tree reserved).1.target? p = (build manifest' tree reserved).1.target? p := by
  have hentries := mem_entries_congr same
  by_cases hp : ∃ e ∈ entries manifest, e.1 = p
  · obtain ⟨e, he, rfl⟩ := hp
    rw [target?_build_of_mem he fun e' he' => target_eq_of_mem_entries distinct he he',
      target?_build_of_mem ((hentries e).mp he) fun e' he' =>
        target_eq_of_mem_entries distinct he ((hentries e').mpr he')]
  · have hne : ∀ e ∈ entries manifest, e.1 ≠ p := fun e he hk => hp ⟨e, he, hk⟩
    rw [target?_build_of_not_declared hne,
      target?_build_of_not_declared fun e he => hne e ((hentries e).mpr he)]
    refine getElem?_foldl_insert_congr Prod.fst Prod.snd (fun a => ?_) (fun a ha b hb hap hbp => ?_) ∅
    · simp only [List.mem_flatMap, hentries]
    · by_contra hab
      exact h ⟨hne, a, ha, b, hb, hap, hbp, hab⟩

/-- **Spellings of a manifest**: of two manifests with the same aliases in normal form, short paths that
are pairwise distinct, the graphs have the same short paths, and the same target of each that is not
contested.  So they are the same graph, and the same inverse, where nothing is contested. -/
theorem build_respelled (same : ∀ e, e ∈ declared manifest ↔ e ∈ declared manifest')
    (distinct : ((declared manifest).map Prod.fst).Nodup) (tree : ContentTree)
    (reserved : List String) :
    let graph := (build manifest tree reserved).1
    let graph' := (build manifest' tree reserved).1
    (∀ p, graph.isKey p = graph'.isKey p) ∧
    (∀ p, ¬ Contested tree reserved manifest p → graph.target? p = graph'.target? p) ∧
    ((∀ p, ¬ Contested tree reserved manifest p) → SameEntries graph graph') :=
  ⟨isKey_build_congr tree reserved same, fun _ h => target?_build_congr same distinct h,
    fun h => sameEntries_of_target? fun p => target?_build_congr same distinct (h p)⟩

end Respelled

/-! ### A manifest in two spellings -/

/-- Short paths for the handbook and for the notes. -/
def plainSpelling : RawManifest := .ofList [("/h", "/handbook"), ("n", "notes")]

/-- The same short paths with other slashes and with quotation marks, in the other order. -/
def quotedSpelling : RawManifest := .ofList [("\"/n\"", "//notes"), ("h/", "handbook/")]

/-- The two aliases derive nothing twice, so their graph is the same in both spellings. -/
theorem build_respelled_plainSpelling :
    (∀ e, e ∈ declared plainSpelling ↔ e ∈ declared quotedSpelling) ∧
    ((declared plainSpelling).map Prod.fst).Nodup ∧
    declared plainSpelling ≠ declared quotedSpelling ∧
    SameEntries (build plainSpelling guideAndNotes []).1 (build quotedSpelling guideAndNotes []).1 := by
  have hplain : declared plainSpelling = [(⟨"/h"⟩, ⟨"/handbook"⟩), (⟨"/n"⟩, ⟨"/notes"⟩)] := by rfl
  have hquoted : declared quotedSpelling = [(⟨"/n"⟩, ⟨"/notes"⟩), (⟨"/h"⟩, ⟨"/handbook"⟩)] := by rfl
  have same : ∀ e, e ∈ declared plainSpelling ↔ e ∈ declared quotedSpelling := by
    simp [hplain, hquoted, or_comm]
  have distinct : ((declared plainSpelling).map Prod.fst).Nodup := by simp [hplain]
  have hderived : (entries plainSpelling).flatMap (derived guideAndNotes []) =
      [(⟨"/h/guides"⟩, ⟨"/handbook/guides"⟩), (⟨"/h/guides/one"⟩, ⟨"/handbook/guides/one"⟩),
        (⟨"/n/two"⟩, ⟨"/notes/two"⟩)] := by rfl
  have apart : (((entries plainSpelling).flatMap (derived guideAndNotes [])).map Prod.fst).Nodup := by
    simp [hderived]
  refine ⟨same, distinct, by simp [hplain, hquoted], (build_respelled same distinct guideAndNotes []).2.2 ?_⟩
  rintro p ⟨-, a, ha, b, hb, rfl, hkey, hne⟩
  exact hne (congrArg Prod.snd (List.inj_on_of_nodup_map apart ha hb hkey.symm))

/-- Two directories with a page `c`, one of them below `b`. -/
def twoPages : ContentTree :=
  ⟨⟨.dir "content" (.dir "x" (.dir "b" (.file "c.md" (.text "1") .nil) .nil)
    (.dir "y" (.file "c.md" (.text "2") .nil) .nil)) .nil, []⟩, ⟨"content"⟩⟩

/-- Two aliases that both derive `/a/b/c`. -/
def nestedAliases : RawManifest := .ofList [("a", "x"), ("a/b", "y")]

/-- The same aliases, with a slash before the second. -/
def nestedAliasesWithSlash : RawManifest := .ofList [("a", "x"), ("/a/b", "y")]

/-- A slash before a path of the manifest makes a derived short path lead elsewhere. -/
theorem exists_respelled_ne :
    (∀ e, e ∈ declared nestedAliases ↔ e ∈ declared nestedAliasesWithSlash) ∧
    ((declared nestedAliases).map Prod.fst).Nodup ∧
    ((declared nestedAliasesWithSlash).map Prod.fst).Nodup ∧
    (build nestedAliases twoPages []).1.target? ⟨"/a/b/c"⟩ = some ⟨"/y/c"⟩ ∧
    (build nestedAliasesWithSlash twoPages []).1.target? ⟨"/a/b/c"⟩ = some ⟨"/x/b/c"⟩ := by
  have hplain : declared nestedAliases = [(⟨"/a"⟩, ⟨"/x"⟩), (⟨"/a/b"⟩, ⟨"/y"⟩)] := by rfl
  have hslash : declared nestedAliasesWithSlash = [(⟨"/a/b"⟩, ⟨"/y"⟩), (⟨"/a"⟩, ⟨"/x"⟩)] := by rfl
  refine ⟨?_, by simp [hplain], by simp [hslash], by rfl, by rfl⟩
  simp [hplain, hslash, or_comm]

end Folio.AliasGraph
