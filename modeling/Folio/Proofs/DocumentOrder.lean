import Folio.Proofs.Heights

/-! # Document order

The nodes below a node are listed by a loop: it takes the top node off a stack and puts its children in its
place.  `t.WalksTo stack out` says that the loop ends and what it has listed by then; `t.Preorder ids out`
says that `out` lists some nodes by recursion, each in front of what is below it.  The two agree
(`Preorder.walksTo`), and where links are consistent the recursion comes to an end, since every step
goes down and heights are bounded (`Consistent.exists_preorder`).  What is listed are the nodes from which
climbing leads to one of the listed ones (`Preorder.mem_iff`), each once (`Preorder.nodup`). -/

namespace Folio.Html.Tree

open scoped List

variable {t : Tree}

/-! ### The loop and the recursion -/

/-- The loop over a stack of nodes, the next to visit first, ends with the nodes that it has visited. -/
inductive WalksTo (t : Tree) : List NodeId → List NodeId → Prop
  | done : t.WalksTo [] []
  | visit {id : NodeId} {stack out : List NodeId} (h : t.WalksTo (t.children id ++ stack) out) :
      t.WalksTo (id :: stack) (id :: out)

/-- Some nodes are listed one after the other, each in front of the nodes below it. -/
inductive Preorder (t : Tree) : List NodeId → List NodeId → Prop
  | nil : t.Preorder [] []
  | cons {id : NodeId} {ids below rest : List NodeId} (hbelow : t.Preorder (t.children id) below)
      (hrest : t.Preorder ids rest) : t.Preorder (id :: ids) (id :: (below ++ rest))

/-- A loop that ends does so in one way. -/
theorem WalksTo.unique {stack out out' : List NodeId} (h : t.WalksTo stack out)
    (h' : t.WalksTo stack out') : out = out' := by
  induction h generalizing out' with
  | done =>
      cases h'
      rfl
  | visit _ ih =>
      cases h' with
      | visit h' => rw [ih h']

/-- The loop visits what the recursion lists and goes on with the rest of its stack. -/
theorem Preorder.walksTo {ids out : List NodeId} (h : t.Preorder ids out) :
    ∀ {stack rest : List NodeId}, t.WalksTo stack rest → t.WalksTo (ids ++ stack) (out ++ rest) := by
  induction h with
  | nil => exact id
  | cons _ _ ihbelow ihrest =>
      intro stack rest hstack
      rw [List.cons_append, List.cons_append, List.append_assoc]
      exact .visit (ihbelow (ihrest hstack))

/-- As many steps as the loop visits nodes are enough. -/
theorem WalksTo.descendantsFrom_eq {stack out : List NodeId} (h : t.WalksTo stack out) :
    ∀ {steps : Nat}, out.length ≤ steps → t.descendantsFrom steps stack = out := by
  induction h with
  | done =>
      intro steps _
      cases steps <;> rfl
  | visit _ ih =>
      intro steps hle
      rw [List.length_cons] at hle
      obtain ⟨n, rfl⟩ : ∃ n, steps = n + 1 := ⟨steps - 1, by omega⟩
      rw [descendantsFrom, ih (by omega)]

/-! ### The nodes that are listed -/

theorem climbs_succ_iff {k : Nat} {id a : NodeId} :
    t.Climbs (k + 1) id a ↔ ∃ c, t.Climbs k id c ∧ t.parent? c = some a := by
  constructor
  · intro h
    induction k generalizing id with
    | zero =>
        obtain ⟨p, hp, rfl⟩ := h
        exact ⟨id, rfl, hp⟩
    | succ k ih =>
        obtain ⟨p, hp, h⟩ := h
        obtain ⟨c, hc, ha⟩ := ih h
        exact ⟨c, ⟨p, hp, hc⟩, ha⟩
  · rintro ⟨c, hc, ha⟩
    exact hc.step ha

namespace Consistent

/-- Nothing stands below a node that is as high as there are cells. -/
theorem children_eq_nil (ht : t.Consistent) {n : Nat} {p : NodeId} (hn : t.Reaches n p)
    (hle : t.cells.size ≤ n) : t.children p = [] := by
  refine List.eq_nil_iff_forall_not_mem.mpr fun c hc => ?_
  have hparent := (ht.mem_children_iff p c).mp hc
  have hlt := ht.height_lt_size (n := n + 1) ⟨p, hparent, hn⟩ (lt_size_of_parent hparent)
  omega

/-- Below every node a depth bounds the recursion. -/
theorem exists_preorder_children (ht : t.Consistent) : ∀ (depth n : Nat) (p : NodeId), t.Reaches n p →
    t.cells.size ≤ n + depth → ∃ out, t.Preorder (t.children p) out
  | 0, n, p, hn, hle => by
      rw [ht.children_eq_nil hn hle]
      exact ⟨[], .nil⟩
  | depth + 1, n, p, hn, hle => by
      have hchild : ∀ c ∈ t.children p, ∃ out, t.Preorder (t.children c) out := fun c hc =>
        ht.exists_preorder_children depth (n + 1) c ⟨p, (ht.mem_children_iff p c).mp hc, hn⟩ (by omega)
      generalize t.children p = ids at hchild
      induction ids with
      | nil => exact ⟨[], .nil⟩
      | cons c ids ih =>
          obtain ⟨below, hbelow⟩ := hchild c List.mem_cons_self
          obtain ⟨rest, hrest⟩ := ih fun d hd => hchild d (List.mem_cons_of_mem c hd)
          exact ⟨_, .cons hbelow hrest⟩

theorem exists_preorder (ht : t.Consistent) (r : NodeId) : ∃ out, t.Preorder (t.children r) out := by
  obtain ⟨n, hn⟩ := ht.reaches r
  exact ht.exists_preorder_children t.cells.size n r hn (by omega)

end Consistent

namespace Preorder

variable {ids out : List NodeId}

theorem mem_of_climbs (ht : t.Consistent) (h : t.Preorder ids out) :
    ∀ {k : Nat} {n c : NodeId}, c ∈ ids → t.Climbs k n c → n ∈ out := by
  induction h with
  | nil => exact fun hc => nomatch hc
  | @cons id ids below rest _ _ ihbelow ihrest =>
      intro k n c hc hk
      rcases List.mem_cons.mp hc with rfl | hc
      · cases k with
        | zero =>
            obtain rfl : n = c := hk
            exact List.mem_cons_self
        | succ k =>
            obtain ⟨d, hd, hparent⟩ := climbs_succ_iff.mp hk
            have hbelow := ihbelow ((ht.mem_children_iff c d).mpr hparent) hd
            exact List.mem_cons_of_mem _ (List.mem_append_left _ hbelow)
      · exact List.mem_cons_of_mem _ (List.mem_append_right _ (ihrest hc hk))

theorem exists_climbs (ht : t.Consistent) (h : t.Preorder ids out) :
    ∀ {n : NodeId}, n ∈ out → ∃ c ∈ ids, ∃ k, t.Climbs k n c := by
  induction h with
  | nil => exact fun hn => nomatch hn
  | @cons id ids below rest _ _ ihbelow ihrest =>
      intro n hn
      rcases List.mem_cons.mp hn with rfl | hn
      · exact ⟨n, List.mem_cons_self, 0, rfl⟩
      · rcases List.mem_append.mp hn with hn | hn
        · obtain ⟨c, hc, k, hk⟩ := ihbelow hn
          exact ⟨id, List.mem_cons_self, k + 1, hk.step ((ht.mem_children_iff id c).mp hc)⟩
        · obtain ⟨c, hc, k, hk⟩ := ihrest hn
          exact ⟨c, List.mem_cons_of_mem id hc, k, hk⟩

/-- The nodes that are listed are those from which climbing leads to one of the given ones. -/
theorem mem_iff (ht : t.Consistent) (h : t.Preorder ids out) {n : NodeId} :
    n ∈ out ↔ ∃ c ∈ ids, ∃ k, t.Climbs k n c :=
  ⟨h.exists_climbs ht, fun ⟨_, hc, _, hk⟩ => h.mem_of_climbs ht hc hk⟩

/-- Below a node are listed those from which climbing leads to it. -/
theorem mem_children_iff (ht : t.Consistent) {r n : NodeId} (h : t.Preorder (t.children r) out) :
    n ∈ out ↔ ∃ k, t.Climbs (k + 1) n r := by
  rw [h.mem_iff ht]
  simp only [ht.mem_children_iff, climbs_succ_iff]
  constructor
  · rintro ⟨c, hc, k, hk⟩
    exact ⟨k, c, hk, hc⟩
  · rintro ⟨k, c, hk, hc⟩
    exact ⟨c, hc, k, hk⟩

/-- Of different nodes at one height, no node is below two. -/
theorem nodup (ht : t.Consistent) (h : t.Preorder ids out) :
    ∀ {n : Nat}, (∀ id ∈ ids, t.Reaches n id) → ids.Nodup → out.Nodup := by
  induction h with
  | nil => exact fun _ _ => List.nodup_nil
  | @cons id ids below rest hbelow hrest ihbelow ihrest =>
      intro n hreach hnodup
      obtain ⟨hnot, hnodup⟩ := List.nodup_cons.mp hnodup
      obtain ⟨hid, hreach⟩ := List.forall_mem_cons.mp hreach
      -- what is below another of the nodes cannot climb to this one: both have the same height
      have hapart : ∀ {i k}, t.Climbs k i id → i ∉ rest := by
        intro i k hk hi
        obtain ⟨c, hc, j, hj⟩ := (hrest.mem_iff ht).mp hi
        exact hnot (hk.eq_of_height hj hid (hreach c hc) ▸ hc)
      have hup : ∀ {i}, i ∈ below → ∃ k, t.Climbs (k + 1) i id := (hbelow.mem_children_iff ht).mp
      rw [List.nodup_cons, List.nodup_append, List.mem_append, not_or]
      refine ⟨⟨fun hmem => ?_, hapart (k := 0) rfl⟩, ?_, ihrest hreach hnodup, ?_⟩
      · obtain ⟨k, hk⟩ := hup hmem
        have heq := (hk.reaches hid).unique hid
        omega
      · refine ihbelow (n := n + 1) (fun c hc => ?_) (ht.children_nodup id)
        exact ⟨id, (ht.mem_children_iff id c).mp hc, hid⟩
      · rintro i hi j hj rfl
        obtain ⟨k, hk⟩ := hup hi
        exact hapart hk hj

theorem nodup_children (ht : t.Consistent) {r : NodeId} (h : t.Preorder (t.children r) out) :
    out.Nodup := by
  obtain ⟨n, hn⟩ := ht.reaches r
  exact h.nodup ht (n := n + 1) (fun c hc => ⟨r, (ht.mem_children_iff r c).mp hc, hn⟩)
    (ht.children_nodup r)

/-! ### What comes before what -/

/-- Listing the nodes below a node that is listed gives a stretch of the list, directly behind the
node. -/
theorem exists_append (h : t.Preorder ids out) : ∀ {a : NodeId}, a ∈ out →
    ∃ pre below post, t.Preorder (t.children a) below ∧ out = pre ++ a :: (below ++ post) := by
  induction h with
  | nil => exact fun ha => nomatch ha
  | @cons id ids below rest hbelow _ ihbelow ihrest =>
      intro a ha
      rcases List.mem_cons.mp ha with rfl | ha
      · exact ⟨[], below, rest, hbelow, rfl⟩
      · rcases List.mem_append.mp ha with ha | ha
        · obtain ⟨pre, inner, post, hinner, rfl⟩ := ihbelow ha
          exact ⟨id :: pre, inner, post ++ rest, hinner, by simp⟩
        · obtain ⟨pre, inner, post, hinner, rfl⟩ := ihrest ha
          exact ⟨id :: (below ++ pre), inner, post, hinner, by simp⟩

/-- A node comes before the nodes below it. -/
theorem sublist_of_climbs (ht : t.Consistent) (h : t.Preorder ids out) {a b : NodeId} {k : Nat}
    (ha : a ∈ out) (hb : t.Climbs (k + 1) b a) : [a, b] <+ out := by
  obtain ⟨pre, below, post, hbelow, rfl⟩ := h.exists_append ha
  have hmem : b ∈ below := (hbelow.mem_children_iff ht).mpr ⟨k, hb⟩
  have hinner : [b] <+ below ++ post := List.singleton_sublist.mpr (List.mem_append_left _ hmem)
  exact (hinner.cons_cons a).trans (List.sublist_append_right pre _)

/-- Of two given nodes, the first comes with all that is below it before the second with all that is
below that. -/
theorem sublist_of_sublist (ht : t.Consistent) (h : t.Preorder ids out) :
    ∀ {a b x y : NodeId} {j k : Nat}, [a, b] <+ ids → t.Climbs j x a → t.Climbs k y b → [x, y] <+ out := by
  induction h with
  | nil => exact fun hab => nomatch hab
  | @cons id ids below rest hbelow hrest _ ihrest =>
      intro a b x y j k hab hx hy
      rw [← List.cons_append]
      cases hab with
      | cons _ hab => exact (ihrest hab hx hy).trans (List.sublist_append_right _ _)
      | cons_cons _ hb =>
          have hbmem : b ∈ ids := List.singleton_sublist.mp hb
          have hymem : y ∈ rest := hrest.mem_of_climbs ht hbmem hy
          have hxmem : x ∈ id :: below := by
            cases j with
            | zero => exact List.mem_cons.mpr (.inl hx)
            | succ j => exact List.mem_cons_of_mem _ ((hbelow.mem_children_iff ht).mpr ⟨j, hx⟩)
          exact (List.singleton_sublist.mpr hxmem).append (List.singleton_sublist.mpr hymem)

/-- Of two children of one node that is listed, or of the node listed below, the first comes with all that
is below it before the second with all that is below that. -/
theorem sublist_of_children (ht : t.Consistent) {r : NodeId} (h : t.Preorder (t.children r) out)
    {p a b x y : NodeId} {j k : Nat} (hp : p = r ∨ p ∈ out) (hab : [a, b] <+ t.children p)
    (hx : t.Climbs j x a) (hy : t.Climbs k y b) : [x, y] <+ out := by
  rcases hp with rfl | hp
  · exact h.sublist_of_sublist ht hab hx hy
  · obtain ⟨pre, below, post, hbelow, rfl⟩ := h.exists_append hp
    have hinner := hbelow.sublist_of_sublist ht hab hx hy
    exact ((hinner.trans (List.sublist_append_left below post)).cons p).trans
      (List.sublist_append_right pre _)

end Preorder

/-! ### Descendants -/

namespace Consistent

/-- The loop ends below every node, within as many steps as there are cells. -/
theorem preorder_descendants (ht : t.Consistent) (r : NodeId) :
    t.Preorder (t.children r) (t.descendants r) := by
  obtain ⟨out, hout⟩ := ht.exists_preorder r
  have hwalk : t.WalksTo (t.children r) out := by simpa using hout.walksTo .done
  have hsub : out ⊆ List.range t.cells.size := by
    intro n hn
    obtain ⟨k, p, hp, -⟩ := (hout.mem_children_iff ht).mp hn
    exact List.mem_range.mpr (lt_size_of_parent hp)
  have hle := (hout.nodup_children ht).length_le_of_subset hsub
  rw [List.length_range] at hle
  have heq : t.descendants r = out := hwalk.descendantsFrom_eq hle
  exact heq ▸ hout

theorem walksTo_descendants (ht : t.Consistent) (r : NodeId) :
    t.WalksTo (t.children r) (t.descendants r) := by
  simpa using (ht.preorder_descendants r).walksTo .done

end Consistent

end Folio.Html.Tree
