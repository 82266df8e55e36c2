import Folio.Proofs.NormalPaths
import Folio.Routing.Redirect

/-! # The map block of the web server

The block quotes both paths of every entry, and no path in normal form has a quotation mark in it, whatever
else is in its segments.  So the block is read back by cutting it at the quotation marks
(`quotedEntries`): every second piece is a path, and two of them are an entry.  What is read are the entries
of the table in the order of their paths (`quotedEntries_serverMap`), hence a table can be told from its
block (`serverMap_eq_iff`). -/

namespace Folio

/-! ### Cutting at quotation marks -/

/-- A quotation mark stands at each end of a path. -/
def isQuote (c : Char) : Bool := c == '"'

/-- The pieces that stand between quotation marks, where the first of all does not. -/
def insidePieces : List (List Char) → List (List Char)
  | _ :: inside :: rest => inside :: insidePieces rest
  | _ => []

/-- Texts two by two, each as a path. -/
def pathPairs : List (List Char) → List (ContentPath × ContentPath)
  | source :: target :: rest => (⟨String.ofList source⟩, ⟨String.ofList target⟩) :: pathPairs rest
  | _ => []

/-- The entries that a block quotes. -/
def quotedEntries (block : String) : List (ContentPath × ContentPath) :=
  pathPairs (insidePieces (Text.pieces isQuote block.toList))

theorem pieces_of_no_quote {cs : List Char} (h : '"' ∉ cs) : Text.pieces isQuote cs = [cs] :=
  Text.pieces_of_forall_not fun c hc => by
    have hne : c ≠ '"' := fun e => h (e ▸ hc)
    simpa [isQuote] using hne

/-- What stands between two quotation marks is one piece inside, and cutting goes on behind them. -/
theorem insidePieces_quoted {before inside : List Char} (hbefore : '"' ∉ before) (hinside : '"' ∉ inside)
    (rest : List Char) :
    insidePieces (Text.pieces isQuote (before ++ '"' :: (inside ++ '"' :: rest))) =
      inside :: insidePieces (Text.pieces isQuote rest) := by
  rw [Text.pieces_append (by decide), Text.pieces_append (by decide), pieces_of_no_quote hbefore,
    pieces_of_no_quote hinside]
  rfl

/-! ### The block -/

/-- Where both paths are in normal form. -/
def NormalTable (m : PathMap) : Prop :=
  ∀ source target : ContentPath, m[source]? = some target →
    ContentPath.IsNormal source.text ∧ ContentPath.IsNormal target.text

variable {m m' : PathMap}

theorem normalTable_empty : NormalTable ∅ := by simp [NormalTable]

/-- A table stays in normal form where an entry with such paths is put into it. -/
theorem NormalTable.insert (h : NormalTable m) {source target : ContentPath}
    (hsource : ContentPath.IsNormal source.text) (htarget : ContentPath.IsNormal target.text) :
    NormalTable (m.insert source target) := by
  intro s t hst
  rw [Std.TreeMap.getElem?_insert] at hst
  split at hst
  · rename_i heq
    rw [← Std.LawfulEqOrd.eq_of_compare heq, ← Option.some.inj hst]
    exact ⟨hsource, htarget⟩
  · exact h s t hst

/-- The lines of some entries, on characters. -/
def serverLines (entries : List (ContentPath × ContentPath)) : List Char :=
  entries.flatMap fun e => (serverMapLine e.1 e.2).toList

theorem toList_foldl_serverMapLine (entries : List (ContentPath × ContentPath)) (out : String) :
    (entries.foldl (fun out e => out ++ serverMapLine e.1 e.2) out).toList =
      out.toList ++ serverLines entries := by
  induction entries generalizing out with
  | nil => simp [serverLines]
  | cons e entries ih =>
    rw [List.foldl_cons, ih, String.toList_append, List.append_assoc]
    rfl

theorem toList_serverMap (m : PathMap) :
    (serverMap m).toList =
      "map $request_uri $redirect_target \x7b\n    default 0;\n".toList ++
        (serverLines m.toList ++ "\x7d\n".toList) := by
  -- not by the equation that Lean derives for the block, since that evaluates its texts
  change (_ ++ m.foldl (fun out source target => out ++ serverMapLine source target) "" ++ _).toList = _
  rw [String.toList_append, String.toList_append, Std.TreeMap.foldl_eq_foldl_toList,
    toList_foldl_serverMapLine, String.toList_empty, List.nil_append, List.append_assoc]

/-- The lines of entries are read entry by entry, between texts without quotation marks. -/
theorem pathPairs_serverLines {entries : List (ContentPath × ContentPath)}
    (h : ∀ e ∈ entries, '"' ∉ e.1.text.toList ∧ '"' ∉ e.2.text.toList) {before after : List Char}
    (hbefore : '"' ∉ before) (hafter : '"' ∉ after) :
    pathPairs (insidePieces (Text.pieces isQuote (before ++ (serverLines entries ++ after)))) = entries := by
  induction entries generalizing before with
  | nil =>
    have hplain : '"' ∉ before ++ (serverLines [] ++ after) := by simp [serverLines, hbefore, hafter]
    rw [pieces_of_no_quote hplain]
    rfl
  | cons e entries ih =>
    obtain ⟨⟨hsource, htarget⟩, hrest⟩ := List.forall_mem_cons.mp h
    have hline : before ++ (serverLines (e :: entries) ++ after) =
        (before ++ "    ".toList) ++ '"' :: (e.1.text.toList ++ '"' ::
          (" ".toList ++ '"' :: (e.2.text.toList ++ '"' ::
            (";\n".toList ++ (serverLines entries ++ after))))) := by
      simp [serverLines, serverMapLine]
    rw [hline, insidePieces_quoted (by simp [hbefore]) hsource, insidePieces_quoted (by decide) htarget,
      pathPairs, ih hrest (by decide)]
    simp

theorem NormalTable.no_quote (h : NormalTable m) :
    ∀ e ∈ m.toList, '"' ∉ e.1.text.toList ∧ '"' ∉ e.2.text.toList := fun e he =>
  have hnormal := h e.1 e.2 (Std.TreeMap.mem_toList_iff_getElem?_eq_some.mp he)
  ⟨hnormal.1.no_quote, hnormal.2.no_quote⟩

theorem quotedEntries_serverMap (h : NormalTable m) : quotedEntries (serverMap m) = m.toList := by
  rw [quotedEntries, toList_serverMap]
  exact pathPairs_serverLines h.no_quote (by decide) (by decide)

theorem serverMap_eq_iff (h : NormalTable m) (h' : NormalTable m') :
    serverMap m = serverMap m' ↔ m.Equiv m' := by
  rw [Std.TreeMap.equiv_iff_toList_eq]
  constructor
  · intro hblock
    rw [← quotedEntries_serverMap h, ← quotedEntries_serverMap h', hblock]
  · intro hentries
    apply String.toList_inj.mp
    rw [toList_serverMap, toList_serverMap, hentries]

/-- **The map block holds the table**: the paths that the block quotes, two by two, are the entries of the
table in the order of their paths, and tables with one block have the same entries, whatever characters the
segments have. -/
theorem serverMap_entries (h : NormalTable m) :
    quotedEntries (serverMap m) = m.toList ∧
      ((quotedEntries (serverMap m)).Pairwise fun a b => compare a.1 b.1 = .lt) ∧
      (∀ source target, (source, target) ∈ quotedEntries (serverMap m) ↔ m[source]? = some target) ∧
      ∀ m', NormalTable m' → (serverMap m = serverMap m' ↔ m.Equiv m') := by
  refine ⟨quotedEntries_serverMap h, ?_, fun source target => ?_, fun m' h' => serverMap_eq_iff h h'⟩
  · rw [quotedEntries_serverMap h]
    exact Std.TreeMap.ordered_keys_toList
  · rw [quotedEntries_serverMap h]
    exact Std.TreeMap.mem_toList_iff_getElem?_eq_some

/-- One redirect, between paths that look like the end of a line and the start of another. -/
def forgedLine : PathMap :=
  (∅ : PathMap).insert (ContentPath.ofString "/a b;\n\x7d") (ContentPath.ofString "/c\";\n    \"/d\" \"/e")

/-- The two redirects that it looks like. -/
def twoLines : PathMap :=
  ((∅ : PathMap).insert (ContentPath.ofString "/a b;\n\x7d") (ContentPath.ofString "/c")).insert
    (ContentPath.ofString "/d") (ContentPath.ofString "/e")

/-- It is one entry all the same, and its block is another than that of the two. -/
theorem serverMap_entries_forgedLine :
    NormalTable forgedLine ∧ NormalTable twoLines ∧
      quotedEntries (serverMap forgedLine) = [(⟨"/a b;\n\x7d"⟩, ⟨"/c;\n    /d /e"⟩)] ∧
      serverMap forgedLine ≠ serverMap twoLines := by
  have hone : NormalTable forgedLine :=
    normalTable_empty.insert (ContentPath.isNormal_ofString _) (ContentPath.isNormal_ofString _)
  have htwo : NormalTable twoLines :=
    (normalTable_empty.insert (ContentPath.isNormal_ofString _) (ContentPath.isNormal_ofString _)).insert
      (ContentPath.isNormal_ofString _) (ContentPath.isNormal_ofString _)
  obtain ⟨hentries, -, -, hblocks⟩ := serverMap_entries hone
  refine ⟨hone, htwo, hentries.trans (by decide +kernel), fun hsame => ?_⟩
  have hsize : forgedLine.size = twoLines.size := ((hblocks twoLines htwo).mp hsame).size_eq
  exact absurd hsize (by decide +kernel)

end Folio
