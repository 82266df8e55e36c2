import Folio.Proofs.KnownRoutes
import Folio.Proofs.PathOrder
import Mathlib.Data.List.Nodup

/-! # Aliases that documents declare

A document claims the aliases that it declares, the root and its own route apart (`claimsOf`).  The claims are
taken one after the other in the order of the routes.  One step adds either an entry to the table or a report
(`size_add_length_take`) and leaves the entries that are there (`getElem?_take`), so in the end an alias
belongs to the first claim on it (`getElem?_foldl_take`), and that is the claim of the smallest route.  Routes
that are pairwise distinct have one order only, so the order in which the documents are given does not show
(`declaredRedirects_claims`). -/

namespace Folio

/-- The claim of a document on an alias. -/
structure AliasClaim where
  key : ContentPath
  route : ContentPath
deriving DecidableEq

/-- Whether a document claims an alias that it declares: the root and its own route do not count. -/
def isCounted (route key : ContentPath) : Bool := !(key.isRoot || key == route)

/-- The claims of a document, one for each alias that counts. -/
def claimsOf (d : ContentPath × List String) : List AliasClaim :=
  ((d.2.map ContentPath.ofString).filter (isCounted d.1)).map fun key => ⟨key, d.1⟩

/-- `Claims documents key route`: a document under this route claims the alias. -/
def Claims (documents : List (ContentPath × List String)) (key route : ContentPath) : Prop :=
  key ≠ .root ∧ key ≠ route ∧
    ∃ declared, (route, declared) ∈ documents ∧ ∃ raw ∈ declared, ContentPath.ofString raw = key

namespace AliasClaim

/-- Takes a claim: the alias is put into the table, or it is reported who has it already. -/
def take (state : PathMap × List Diagnostic) (c : AliasClaim) : PathMap × List Diagnostic :=
  match state.1[c.key]? with
  | some owner => (state.1, state.2 ++ [duplicateAlias c.route c.key owner])
  | none => (state.1.insert c.key c.route, state.2)

end AliasClaim

variable {documents documents' : List (ContentPath × List String)} {state : PathMap × List Diagnostic}
  {claims : List AliasClaim} {key route : ContentPath}

/-! ### Claims of documents -/

theorem isCounted_iff : isCounted route key = true ↔ key ≠ .root ∧ key ≠ route := by
  have hroot : key.isRoot = true ↔ key = .root := by
    rw [ContentPath.isRoot, beq_iff_eq]
    exact ⟨fun h => congrArg ContentPath.mk h, fun h => congrArg ContentPath.text h⟩
  simp [isCounted, ← hroot]

theorem mem_flatMap_claimsOf_iff :
    (⟨key, route⟩ : AliasClaim) ∈ documents.flatMap claimsOf ↔ Claims documents key route := by
  simp only [List.mem_flatMap, claimsOf, List.mem_map, List.mem_filter, isCounted_iff, AliasClaim.mk.injEq]
  constructor
  · rintro ⟨⟨r, declared⟩, hd, k, ⟨hk, hcounted⟩, rfl, rfl⟩
    exact ⟨hcounted.1, hcounted.2, declared, hd, hk⟩
  · rintro ⟨hroot, hown, declared, hd, hk⟩
    exact ⟨(route, declared), hd, key, ⟨hk, hroot, hown⟩, rfl, rfl⟩

/-- What a document declares is taken claim by claim. -/
theorem foldl_claimAlias (d : ContentPath × List String) (state : PathMap × List Diagnostic) :
    d.2.foldl (claimAlias d.1) state = (claimsOf d).foldl AliasClaim.take state := by
  obtain ⟨route, declared⟩ := d
  induction declared generalizing state with
  | nil => rfl
  | cons raw declared ih =>
    have hclaims : claimsOf (route, raw :: declared) =
        (if isCounted route (.ofString raw) then [⟨.ofString raw, route⟩] else []) ++
          claimsOf (route, declared) := by
      rw [claimsOf, claimsOf, List.map_cons, List.filter_cons]
      split <;> rfl
    have hstep : claimAlias route state raw =
        if isCounted route (.ofString raw) then AliasClaim.take state ⟨.ofString raw, route⟩ else state := by
      rw [claimAlias, isCounted, AliasClaim.take]
      dsimp only
      cases (ContentPath.ofString raw).isRoot || ContentPath.ofString raw == route <;> rfl
    rw [hclaims, List.foldl_append, List.foldl_cons, ih, hstep]
    split <;> rfl

/-- The documents in the order of their routes. -/
def byRoute (documents : List (ContentPath × List String)) : List (ContentPath × List String) :=
  documents.mergeSort fun a b => (compare a.1 b.1).isLE

theorem declaredRedirects_eq (documents : List (ContentPath × List String)) :
    declaredRedirects documents = ((byRoute documents).flatMap claimsOf).foldl AliasClaim.take (∅, []) := by
  simp only [declaredRedirects, foldl_claimAlias, List.foldl_flatMap, byRoute]

/-! ### Taking claims -/

namespace AliasClaim

variable {c : AliasClaim}

/-- An alias keeps its owner, and one that has none goes to the claim. -/
theorem getElem?_take (key : ContentPath) :
    (take state c).1[key]? = state.1[key]?.or (if c.key = key then some c.route else none) := by
  unfold take
  split
  · rename_i owner howner
    by_cases hkey : c.key = key
    · subst hkey
      simp [howner]
    · simp [hkey]
  · rename_i hfree
    rw [getElem?_insert_path]
    by_cases hkey : c.key = key
    · subst hkey
      simp [hfree]
    · simp [hkey]

/-- The first claim on an alias keeps it. -/
theorem getElem?_foldl_take (claims : List AliasClaim) (state : PathMap × List Diagnostic)
    (key : ContentPath) :
    (claims.foldl take state).1[key]? =
      state.1[key]?.or ((claims.find? fun c => c.key = key).map AliasClaim.route) := by
  induction claims generalizing state with
  | nil => simp
  | cons c claims ih =>
    rw [List.foldl_cons, ih, getElem?_take, List.find?_cons, Option.or_assoc]
    by_cases hkey : c.key = key <;> simp [hkey]

/-- A claim is either an entry of the table or a report. -/
theorem size_add_length_take : (take state c).1.size + (take state c).2.length =
    state.1.size + state.2.length + 1 := by
  unfold take
  split
  · simp only [List.length_append, List.length_singleton]
    omega
  · rename_i hfree
    have hnot : state.1.contains c.key = false := by
      rw [Std.TreeMap.contains_eq_isSome_getElem?, hfree]
      rfl
    simp only [Std.TreeMap.size_insert, hnot]
    simp only [Bool.false_eq_true, if_false]
    omega

/-- All claims are accounted for. -/
theorem size_add_length_foldl_take (claims : List AliasClaim) (state : PathMap × List Diagnostic) :
    (claims.foldl take state).1.size + (claims.foldl take state).2.length =
      state.1.size + state.2.length + claims.length := by
  induction claims generalizing state with
  | nil => rfl
  | cons c claims ih =>
    rw [List.foldl_cons, ih, size_add_length_take, List.length_cons]
    omega

/-- What is reported are claims on aliases that belong to the owner whom the report names. -/
def Reports (claims : List AliasClaim) (state : PathMap × List Diagnostic) : Prop :=
  ∀ d ∈ state.2, ∃ c ∈ claims, ∃ owner, state.1[c.key]? = some owner ∧ d = duplicateAlias c.route c.key owner

theorem Reports.take (h : Reports claims state) (hc : c ∈ claims) : Reports claims (take state c) := by
  have hkept : ∀ {key owner : ContentPath}, state.1[key]? = some owner →
      (AliasClaim.take state c).1[key]? = some owner := by
    intro key owner howner
    rw [getElem?_take, howner, Option.some_or]
  have hold : ∀ d ∈ state.2, ∃ c' ∈ claims, ∃ owner, (AliasClaim.take state c).1[c'.key]? = some owner ∧
      d = duplicateAlias c'.route c'.key owner := by
    intro d hd
    obtain ⟨c', hc', owner, howner, rfl⟩ := h d hd
    exact ⟨c', hc', owner, hkept howner, rfl⟩
  intro d hd
  unfold AliasClaim.take at hd
  split at hd
  · rename_i owner howner
    rcases List.mem_append.mp hd with hd | hd
    · exact hold d hd
    · exact ⟨c, hc, owner, hkept howner, List.mem_singleton.mp hd⟩
  · exact hold d hd

theorem reports_foldl_take (claims : List AliasClaim) :
    Reports claims (claims.foldl AliasClaim.take (∅, [])) :=
  List.foldlRecOn (motive := Reports claims) claims AliasClaim.take nofun fun _ h _ hc => h.take hc

end AliasClaim

/-! ### The order of documents -/

theorem byRoute_perm (documents : List (ContentPath × List String)) : (byRoute documents).Perm documents :=
  List.mergeSort_perm _ _

theorem byRoute_pairwise (documents : List (ContentPath × List String)) :
    (byRoute documents).Pairwise fun a b => (compare a.1 b.1).isLE := by
  have htrans : ∀ a b c : ContentPath, (compare a b).isLE → (compare b c).isLE → (compare a c).isLE :=
    fun a b c => Std.TransCmp.isLE_trans
  refine List.pairwise_mergeSort (fun a b c => htrans a.1 b.1 c.1) (fun a b => ?_) documents
  have hswap : compare a.1 b.1 = (compare b.1 a.1).swap := Std.OrientedCmp.eq_swap
  rw [hswap]
  cases compare b.1 a.1 <;> rfl

/-- Documents with distinct routes can be put in order in one way only. -/
theorem byRoute_congr (h : documents'.Perm documents) (distinct : (documents.map Prod.fst).Nodup) :
    byRoute documents' = byRoute documents := by
  have hperm : (byRoute documents').Perm (byRoute documents) :=
    (byRoute_perm documents').trans (h.trans (byRoute_perm documents).symm)
  refine hperm.eq_of_pairwise (fun a b ha hb hab hba => ?_) (byRoute_pairwise documents')
    (byRoute_pairwise documents)
  have hroute : a.1 = b.1 := Std.LawfulEqCmp.eq_of_compare (Std.OrientedCmp.isLE_antisymm hab hba)
  exact List.inj_on_of_nodup_map distinct (h.mem_iff.mp ((byRoute_perm documents').mem_iff.mp ha))
    ((byRoute_perm documents).mem_iff.mp hb) hroute

/-- The claims stand in the order of the routes. -/
theorem claims_pairwise (documents : List (ContentPath × List String)) :
    ((byRoute documents).flatMap claimsOf).Pairwise fun a b => (compare a.route b.route).isLE := by
  have hroute : ∀ (d : ContentPath × List String), ∀ c ∈ claimsOf d, c.route = d.1 := by
    intro d c hc
    obtain ⟨key, -, rfl⟩ := List.mem_map.mp hc
    rfl
  rw [List.pairwise_flatMap]
  refine ⟨fun d _ => ?_, (byRoute_pairwise documents).imp fun hab x hx y hy => ?_⟩
  · refine List.pairwise_of_forall_mem_list fun x hx y hy => ?_
    rw [hroute d x hx, hroute d y hy]
    exact Std.ReflCmp.isLE_rfl
  · rw [hroute _ x hx, hroute _ y hy]
    exact hab

theorem mem_claims_iff :
    (⟨key, route⟩ : AliasClaim) ∈ (byRoute documents).flatMap claimsOf ↔ Claims documents key route := by
  rw [← mem_flatMap_claimsOf_iff, ((byRoute_perm documents).flatMap_right claimsOf).mem_iff]

/-! ### The table of declared aliases -/

theorem getElem?_declaredRedirects (key : ContentPath) :
    (declaredRedirects documents).1[key]? =
      (((byRoute documents).flatMap claimsOf).find? fun c => c.key = key).map AliasClaim.route := by
  rw [declaredRedirects_eq, AliasClaim.getElem?_foldl_take]
  simp

/-- The aliases of the table are those that some document claims. -/
theorem mem_declaredRedirects_iff :
    key ∈ (declaredRedirects documents).1 ↔ ∃ route, Claims documents key route := by
  rw [Std.TreeMap.mem_iff_isSome_getElem?, getElem?_declaredRedirects, Option.isSome_map, List.find?_isSome]
  constructor
  · rintro ⟨c, hc, hkey⟩
    obtain rfl : c.key = key := of_decide_eq_true hkey
    exact ⟨c.route, mem_claims_iff.mp hc⟩
  · rintro ⟨route, h⟩
    exact ⟨⟨key, route⟩, mem_claims_iff.mpr h, decide_eq_true rfl⟩

/-- An alias leads to the smallest route that claims it. -/
theorem getElem?_declaredRedirects_iff :
    (declaredRedirects documents).1[key]? = some route ↔
      Claims documents key route ∧ ∀ r, Claims documents key r → (compare route r).isLE := by
  have sound : ∀ {r}, (declaredRedirects documents).1[key]? = some r →
      Claims documents key r ∧ ∀ r', Claims documents key r' → (compare r r').isLE := by
    intro r h
    rw [getElem?_declaredRedirects, Option.map_eq_some_iff] at h
    obtain ⟨c, hc, rfl⟩ := h
    obtain rfl : c.key = key := by simpa using List.find?_some hc
    refine ⟨mem_claims_iff.mp (List.mem_of_find?_eq_some hc), fun r' hr' => ?_⟩
    exact rel_of_find?_eq_some (fun _ => Std.ReflCmp.isLE_rfl) (claims_pairwise documents) hc
      (mem_claims_iff.mpr hr') (by simp)
  refine ⟨sound, fun ⟨hclaims, hleast⟩ => ?_⟩
  have hmem : key ∈ (declaredRedirects documents).1 := mem_declaredRedirects_iff.mpr ⟨route, hclaims⟩
  obtain ⟨r, hr⟩ := Option.isSome_iff_exists.mp (Std.TreeMap.mem_iff_isSome_getElem?.mp hmem)
  obtain ⟨hrclaims, hrleast⟩ := sound hr
  rw [hr, Std.LawfulEqCmp.eq_of_compare (Std.OrientedCmp.isLE_antisymm (hrleast route hclaims)
    (hleast r hrclaims))]

/-- **Declared aliases**: of documents with distinct routes the order does not matter.  The aliases of the
table are those that some document claims, each leads to the smallest route among those that claim it, and
every claim that is no entry of the table is reported as a duplicate, with the route that has the alias. -/
theorem declaredRedirects_claims (distinct : (documents.map Prod.fst).Nodup) :
    let result := declaredRedirects documents
    (∀ documents', documents'.Perm documents → declaredRedirects documents' = result) ∧
    (∀ key, key ∈ result.1 ↔ ∃ route, Claims documents key route) ∧
    (∀ key route, result.1[key]? = some route ↔
      Claims documents key route ∧ ∀ r, Claims documents key r → route.bytes ≤ r.bytes) ∧
    result.1.size + result.2.length = (documents.flatMap claimsOf).length ∧
    ∀ d ∈ result.2, ∃ key route owner, Claims documents key route ∧ result.1[key]? = some owner ∧
      d = duplicateAlias route key owner := by
  intro result
  have hentry : ∀ key route, result.1[key]? = some route ↔
      Claims documents key route ∧ ∀ r, Claims documents key r → route.bytes ≤ r.bytes := by
    intro key route
    simp only [result, getElem?_declaredRedirects_iff, ContentPath.isLE_iff]
  refine ⟨fun documents' h => ?_, fun key => mem_declaredRedirects_iff, hentry, ?_, fun d hd => ?_⟩
  · rw [declaredRedirects_eq, byRoute_congr h distinct, ← declaredRedirects_eq]
  · simp only [result, declaredRedirects_eq, AliasClaim.size_add_length_foldl_take,
      ((byRoute_perm documents).flatMap_right claimsOf).length_eq]
    simp
  · simp only [result, declaredRedirects_eq] at hd ⊢
    obtain ⟨c, hc, owner, howner, rfl⟩ := AliasClaim.reports_foldl_take _ d hd
    exact ⟨c.key, c.route, owner, mem_claims_iff.mp hc, howner, rfl⟩

/-- Two documents that declare one alias in three spellings, and of which one declares the root and its own
route. -/
def sharedAliases : List (ContentPath × List String) :=
  [(⟨"/b"⟩, ["g", "\"/g/\"", "/b", "/"]), (⟨"/a"⟩, ["x/../g", "h"])]

/-- The alias that both documents declare leads to the smaller route in either order, and of the four claims
two are entries. -/
theorem declaredRedirects_claims_sharedAliases :
    (sharedAliases.map Prod.fst).Nodup ∧
    declaredRedirects sharedAliases.reverse = declaredRedirects sharedAliases ∧
    (declaredRedirects sharedAliases).1[ContentPath.mk "/g"]? = some ⟨"/a"⟩ ∧
    (declaredRedirects sharedAliases).1.size + (declaredRedirects sharedAliases).2.length = 4 := by
  have distinct : (sharedAliases.map Prod.fst).Nodup := by decide +kernel
  obtain ⟨horder, -, hentry, hcount, -⟩ := declaredRedirects_claims distinct
  refine ⟨distinct, horder _ (List.reverse_perm _), (hentry _ _).mpr ⟨?_, fun r hr => ?_⟩, ?_⟩
  · exact mem_flatMap_claimsOf_iff.mp (by decide +kernel)
  · have hroutes : ∀ d ∈ sharedAliases, (⟨"/a"⟩ : ContentPath).bytes ≤ d.1.bytes := by decide +kernel
    obtain ⟨-, -, declared, hd, -⟩ := hr
    exact hroutes _ hd
  · rw [hcount]
    decide +kernel

end Folio
