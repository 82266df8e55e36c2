import Mathlib.Data.List.Nodup
import Mathlib.Logic.Basic
import Folio.Proofs.KnownRoutes

/-! # Servable and orphaned redirects

A redirect is judged by its target alone, and the two judgements exclude each other.  The tables are
keyed by the normal form of the source, though, and a manifest can spell one source in several ways.  So
a source is in both tables exactly if two redirects from it are judged differently
(`mem_servable_and_mem_orphaned_iff`), and a redirect that no alias touches has its source in one of them
and, unless its source is spelled twice, in no more than one (`servable_xor_orphaned`). -/

namespace Folio

namespace KnownRoutes

variable (f : KnownRoutes)

/-- A target that leads to a document or to an exposed short path. -/
def IsLive (target : ContentPath) : Prop := ∃ q, f.resolve? target = some q

/-- A target that leads nowhere and is no short path either. -/
def IsDangling (target : ContentPath) : Prop :=
  f.resolve? target = none ∧ f.aliases.isKey target = false

variable {f} {p target : ContentPath}

theorem IsLive.not_isDangling (h : f.IsLive target) : ¬ f.IsDangling target := by
  rintro ⟨hnone, -⟩
  obtain ⟨q, hq⟩ := h
  rw [hq] at hnone
  cases hnone

/-- A target that is no short path leads somewhere or nowhere. -/
theorem isLive_or_isDangling (h : f.aliases.isKey target = false) :
    f.IsLive target ∨ f.IsDangling target := by
  cases hq : f.resolve? target with
  | none => exact .inr ⟨hq, h⟩
  | some q => exact .inl ⟨q, hq⟩

/-! ### The two tables -/

variable (f) (manifest : RawManifest)

/-- The sources of the servable table are those of the redirects with a live target. -/
theorem mem_servable_iff :
    p ∈ f.servable manifest ↔ ∃ e ∈ f.live manifest, f.IsLive e.2 ∧ e.1 = p := by
  rw [servable, mem_foldl_iff (fun e p => f.IsLive e.2 ∧ e.1 = p)]
  · simp
  · intro m e p
    unfold IsLive
    cases f.resolve? e.2 <;> simp [Std.TreeMap.mem_insert]

/-- The sources of the orphaned table are those of the redirects with a dangling target. -/
theorem mem_orphaned_iff :
    p ∈ f.orphaned manifest ↔ ∃ e ∈ f.live manifest, f.IsDangling e.2 ∧ e.1 = p := by
  rw [orphaned, mem_foldl_iff (fun e p => f.IsDangling e.2 ∧ e.1 = p)]
  · simp
  · intro m e p
    unfold IsDangling
    cases f.resolve? e.2 <;> cases f.aliases.isKey e.2 <;> simp [Std.TreeMap.mem_insert]

/-- A source is in both tables exactly if two redirects start there, one with a live and one with a
dangling target. -/
theorem mem_servable_and_mem_orphaned_iff :
    p ∈ f.servable manifest ∧ p ∈ f.orphaned manifest ↔
      ∃ e ∈ f.live manifest, ∃ e' ∈ f.live manifest,
        e.1 = p ∧ e'.1 = p ∧ f.IsLive e.2 ∧ f.IsDangling e'.2 := by
  rw [mem_servable_iff, mem_orphaned_iff]
  constructor
  · rintro ⟨⟨e, he, hlive, hp⟩, e', he', hdangling, hp'⟩
    exact ⟨e, he, e', he', hp, hp', hlive, hdangling⟩
  · rintro ⟨e, he, e', he', hp, hp', hlive, hdangling⟩
    exact ⟨⟨e, he, hlive, hp⟩, e', he', hdangling, hp'⟩

/-! ### Sources that are spelled once -/

/-- No two entries of a manifest have this normal form as their source. -/
def SpelledOnce (manifest : RawManifest) (p : ContentPath) : Prop :=
  ∀ e ∈ manifest.toList, ∀ e' ∈ manifest.toList,
    ContentPath.ofString e.1 = p → ContentPath.ofString e'.1 = p → e = e'

variable {manifest}

theorem exists_raw_of_mem_live {e : ContentPath × ContentPath} (h : e ∈ f.live manifest) :
    ∃ raw ∈ manifest.toList, (ContentPath.ofString raw.1, ContentPath.ofString raw.2) = e :=
  List.mem_map.mp (List.mem_filter.mp h).1

/-- A source that is spelled once is judged once. -/
theorem SpelledOnce.not_mem_both (h : SpelledOnce manifest p) :
    ¬ (p ∈ f.servable manifest ∧ p ∈ f.orphaned manifest) := by
  rw [mem_servable_and_mem_orphaned_iff]
  rintro ⟨e, he, e', he', rfl, hp, hlive, hdangling⟩
  obtain ⟨raw, hraw, rfl⟩ := exists_raw_of_mem_live f he
  obtain ⟨raw', hraw', rfl⟩ := exists_raw_of_mem_live f he'
  obtain rfl := h raw hraw raw' hraw' rfl hp
  exact hlive.not_isDangling hdangling

/-- A redirect that no alias touches is judged. -/
theorem mem_servable_or_mem_orphaned {e : String × String} (he : e ∈ manifest.toList)
    (hsource : f.isAliased (.ofString e.1) = false) (htarget : f.isAliased (.ofString e.2) = false) :
    ContentPath.ofString e.1 ∈ f.servable manifest ∨ ContentPath.ofString e.1 ∈ f.orphaned manifest := by
  have hlive : (ContentPath.ofString e.1, ContentPath.ofString e.2) ∈ f.live manifest :=
    List.mem_filter.mpr ⟨List.mem_map.mpr ⟨e, he, rfl⟩, by simp [hsource, htarget]⟩
  have hkey : f.aliases.isKey (.ofString e.2) = false := (Bool.or_eq_false_iff.mp htarget).1
  rw [mem_servable_iff, mem_orphaned_iff]
  exact (isLive_or_isDangling hkey).imp (fun h => ⟨_, hlive, h, rfl⟩) fun h => ⟨_, hlive, h, rfl⟩

/-- **Redirects are servable or orphaned**: a source is in both tables only if two redirects from it,
which no alias covers, have a live and a dangling target, and so never if it is spelled once.  A redirect
whose source and target take no part in an alias has its source in one of the tables, and in exactly one
if the source is spelled once. -/
theorem servable_xor_orphaned (f : KnownRoutes) (manifest : RawManifest) :
    (∀ p, p ∈ f.servable manifest ∧ p ∈ f.orphaned manifest ↔
      ∃ e ∈ f.live manifest, ∃ e' ∈ f.live manifest,
        e.1 = p ∧ e'.1 = p ∧ f.IsLive e.2 ∧ f.IsDangling e'.2) ∧
    (∀ p, SpelledOnce manifest p → ¬ (p ∈ f.servable manifest ∧ p ∈ f.orphaned manifest)) ∧
    ∀ e ∈ manifest.toList, f.isAliased (.ofString e.1) = false → f.isAliased (.ofString e.2) = false →
      let source := ContentPath.ofString e.1
      (source ∈ f.servable manifest ∨ source ∈ f.orphaned manifest) ∧
        (SpelledOnce manifest source →
          Xor (source ∈ f.servable manifest) (source ∈ f.orphaned manifest)) := by
  refine ⟨fun p => mem_servable_and_mem_orphaned_iff f manifest, fun p h => h.not_mem_both f, ?_⟩
  intro e he hsource htarget source
  have hone := mem_servable_or_mem_orphaned f he hsource htarget
  exact ⟨hone, fun h => (xor_iff_or_and_not_and _ _).mpr ⟨hone, h.not_mem_both f⟩⟩

/-! ### Old addresses -/

/-- A setup guide as the only document, without aliases. -/
def setupGuide : KnownRoutes := ⟨.empty, Std.TreeSet.ofList [ContentPath.mk "/guides/setup"]⟩

/-- An old address of the guide, written with its file name, and one of a page that is gone. -/
def oldAddresses : RawManifest := .ofList [("/old-setup/", "guides//setup.md"), ("\"/gone\"", "/nowhere/")]

/-- Each of the old addresses is judged once. -/
theorem servable_xor_orphaned_oldAddresses :
    (∀ e ∈ oldAddresses.toList, setupGuide.isAliased (.ofString e.1) = false ∧
      setupGuide.isAliased (.ofString e.2) = false ∧ SpelledOnce oldAddresses (.ofString e.1)) ∧
    ∀ e ∈ oldAddresses.toList, Xor (ContentPath.ofString e.1 ∈ setupGuide.servable oldAddresses)
      (ContentPath.ofString e.1 ∈ setupGuide.orphaned oldAddresses) := by
  have hlist : oldAddresses.toList = [("\"/gone\"", "/nowhere/"), ("/old-setup/", "guides//setup.md")] := by
    rfl
  have honce : ∀ p, SpelledOnce oldAddresses p := by
    have hsources : (oldAddresses.toList.map fun e => ContentPath.ofString e.1) =
        [⟨"/gone"⟩, ⟨"/old-setup"⟩] := by rfl
    have hnodup : (oldAddresses.toList.map fun e => ContentPath.ofString e.1).Nodup := by
      simp [hsources]
    intro p e he e' he' hp hp'
    exact List.inj_on_of_nodup_map hnodup he he' (hp.trans hp'.symm)
  have hentries : ∀ e ∈ oldAddresses.toList, setupGuide.isAliased (.ofString e.1) = false ∧
      setupGuide.isAliased (.ofString e.2) = false ∧ SpelledOnce oldAddresses (.ofString e.1) := by
    rw [hlist]
    simp only [List.forall_mem_cons]
    exact ⟨⟨rfl, rfl, honce _⟩, ⟨rfl, rfl, honce _⟩, nofun⟩
  refine ⟨hentries, fun e he => ?_⟩
  obtain ⟨hsource, htarget, honce⟩ := hentries e he
  exact ((servable_xor_orphaned setupGuide oldAddresses).2.2 e he hsource htarget).2 honce

/-- An old address that is spelled in two ways, once with a live and once with a dangling target. -/
def spelledTwice : RawManifest := .ofList [("/old", "/guides/setup"), ("old", "/nowhere")]

/-- The old address is in both tables, though no alias touches its redirects. -/
theorem exists_servable_and_orphaned :
    (∀ e ∈ spelledTwice.toList, ContentPath.ofString e.1 = ⟨"/old"⟩ ∧
      setupGuide.isAliased (.ofString e.1) = false ∧ setupGuide.isAliased (.ofString e.2) = false) ∧
    ContentPath.mk "/old" ∈ setupGuide.servable spelledTwice ∧
    ContentPath.mk "/old" ∈ setupGuide.orphaned spelledTwice := by
  have hlist : spelledTwice.toList = [("/old", "/guides/setup"), ("old", "/nowhere")] := by rfl
  have hservable : (setupGuide.servable spelledTwice).contains ⟨"/old"⟩ = true := by rfl
  have horphaned : (setupGuide.orphaned spelledTwice).contains ⟨"/old"⟩ = true := by rfl
  refine ⟨?_, Std.TreeMap.contains_iff_mem.mp hservable, Std.TreeMap.contains_iff_mem.mp horphaned⟩
  rw [hlist]
  simp only [List.forall_mem_cons]
  exact ⟨⟨rfl, rfl, rfl⟩, ⟨rfl, rfl, rfl⟩, nofun⟩

end KnownRoutes

end Folio
