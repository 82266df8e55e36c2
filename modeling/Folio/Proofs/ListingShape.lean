import Folio.Routing.AliasGraph
import Folio.Site.Source
import Folio.Proofs.Directories

/-! # What the paths alone decide

The shape of a listing is the listing with every file emptied: it says which paths there are, and which of
them are links.  Looking a path up commutes with taking the shape (`Disk.lookUp_shape`), and what a walk of the
tree finds, the alias graph and the candidates for sources are the same for a tree and its shape
(`ContentTree.documents_shape`, `AliasGraph.build_shape`, `Config.candidates_shape`).  So they do not depend on
what any file holds. -/

namespace Folio

/-! ### Shapes -/

/-- An empty file in the place of a file, or a link to one in the place of a link. -/
def FileContent.shape : FileContent → FileContent
  | linked _ => linked (text "")
  | _ => text ""

@[simp]
theorem FileContent.kind_shape (c : FileContent) : c.shape.kind = c.kind := by cases c <;> rfl

/-- A listing with every file emptied. -/
def Listing.shape : Listing → Listing
  | nil => nil
  | file name content next => file name content.shape next.shape
  | dir name inside next => dir name inside.shape next.shape
  | closed name inside next => closed name inside.shape next.shape

/-- What a path leads to, with every file emptied. -/
def DiskEntry.shape : DiskEntry → DiskEntry
  | file content => file content.shape
  | dir inside => dir inside.shape
  | closed inside => closed inside.shape

namespace Listing

@[simp]
theorem find?_shape (l : Listing) (name : String) :
    l.shape.find? name = (l.find? name).map DiskEntry.shape := by
  induction l with
  | nil => rfl
  | file n c next ih =>
    rw [shape, find?, find?, ih]
    split <;> rfl
  | dir n i next _ ih | closed n i next _ ih =>
    rw [shape, find?, find?, ih]
    split <;> rfl

@[simp]
theorem names_shape (l : Listing) : l.shape.names = l.names := by
  induction l with
  | nil => rfl
  | file n c next ih => rw [shape, names, names, ih]
  | dir n i next _ ih | closed n i next _ ih => rw [shape, names, names, ih]

@[simp]
theorem visible_shape (l : Listing) : l.shape.visible = l.visible := by
  rw [visible, visible, names_shape]

@[simp]
theorem directoryKind_shape (l : Listing) : l.shape.directoryKind = l.directoryKind := by
  rw [directoryKind, directoryKind, visible_shape]

@[simp]
theorem entrySlugs_shape (l : Listing) (base : Slug) : l.shape.entrySlugs base = l.entrySlugs base := by
  induction l generalizing base with
  | nil => rfl
  | file n c next ih => rw [shape, entrySlugs, entrySlugs, ih]
  | dir n i next ihInside ih => rw [shape, entrySlugs, entrySlugs, ihInside, ih, directoryKind_shape]
  | closed n i next _ ih => rw [shape, entrySlugs, entrySlugs, ih]

@[simp]
theorem slugs_shape (l : Listing) : l.shape.slugs = l.slugs := by
  rw [slugs, slugs, directoryKind_shape, entrySlugs_shape]

@[simp]
theorem walk_shape (l : Listing) (base : List String) : l.shape.walk base = l.walk base := by
  induction l generalizing base with
  | nil => rfl
  | file n c next ih => rw [shape, walk, walk, ih, FileContent.kind_shape]
  | dir n i next ihInside ih => rw [shape, walk, walk, ihInside, ih]
  | closed n i next _ ih => rw [shape, walk, walk, ih]

@[simp]
theorem walkedFiles_shape (l : Listing) : l.shape.walkedFiles = l.walkedFiles := by
  rw [walkedFiles, walkedFiles, walk_shape]

/-! ### Looking paths up -/

/-- Following components commutes with taking the shape of the directories on the way. -/
theorem follow_shape (above : List Listing) (l : Listing) (comps : List String) :
    follow (above.map shape) l.shape comps = (follow above l comps).map DiskEntry.shape := by
  induction comps generalizing above l with
  | nil => rfl
  | cons name rest ih =>
    by_cases hup : name = ".."
    · subst hup
      cases above with
      | nil => exact ih [] l
      | cons up above => exact ih above up
    · rw [follow_cons hup, follow_cons hup, find?_shape]
      cases l.find? name with
      | none => rfl
      | some e =>
        cases e with
        | file c => cases rest <;> rfl
        | closed i => cases rest <;> rfl
        | dir inside => exact ih (l :: above) inside

end Listing

namespace Disk

/-- A disk with every file emptied. -/
def shape (d : Disk) : Disk := { d with root := d.root.shape }

theorem lookUp_shape (d : Disk) (path : DiskPath) :
    d.shape.lookUp path = (d.lookUp path).map DiskEntry.shape := by
  have hway : d.shape.way path = d.way path := rfl
  have hfollow := Listing.follow_shape [] d.root (d.way path)
  rw [List.map_nil] at hfollow
  unfold lookUp
  rw [hway, shape, hfollow]
  split
  · rfl
  · cases Listing.follow [] d.root (d.way path) with
    | error e => rfl
    | ok e =>
      cases e with
      | dir inside => rfl
      | closed i => rfl
      | file c => cases h : path.demandsDirectory <;> simp [Except.map, DiskEntry.shape]

theorem at?_shape (d : Disk) (path : DiskPath) : d.shape.at? path = (d.at? path).map DiskEntry.shape := by
  rw [at?, at?, lookUp_shape]
  cases d.lookUp path <;> rfl

@[simp]
theorem dirAt?_shape (d : Disk) (path : DiskPath) : d.shape.dirAt? path = (d.dirAt? path).map Listing.shape := by
  rw [dirAt?, dirAt?, at?_shape]
  rcases d.at? path with _ | _ | _ | _ <;> rfl

@[simp]
theorem isFile_shape (d : Disk) (path : DiskPath) : d.shape.isFile path = d.isFile path := by
  rw [isFile, isFile, at?_shape]
  rcases d.at? path with _ | _ | _ | _ <;> rfl

@[simp]
theorem isClosed_shape (d : Disk) (path : DiskPath) : d.shape.isClosed path = d.isClosed path := by
  rw [isClosed, isClosed, at?_shape]
  rcases d.at? path with _ | _ | _ | _ <;> rfl

end Disk

/-! ### The content tree -/

namespace ContentTree

/-- A content tree with every file emptied. -/
def shape (t : ContentTree) : ContentTree := ⟨t.disk.shape, t.root⟩

@[simp]
theorem entriesAt_shape (disk : Disk) (path : DiskPath) : entriesAt disk.shape path = entriesAt disk path := by
  rw [entriesAt, entriesAt, Disk.at?_shape]
  rcases disk.at? path with _ | _ | inside | _
  · rfl
  · rfl
  · exact congrArg Except.ok inside.visible_shape
  · rfl

theorem fileOf?_shape (t : ContentTree) (p : ContentPath) : t.shape.fileOf? p = t.fileOf? p := by
  have hpath : t.shape.diskPath p = t.diskPath p := rfl
  have hdisk : t.shape.disk = t.disk.shape := rfl
  have hfiles : t.disk.shape.isFile = t.disk.isFile := funext t.disk.isFile_shape
  have hsibling : t.shape.sibling? p = t.sibling? p := by
    rw [sibling?, sibling?, hpath, hdisk, hfiles]
  have hindex : t.shape.indexFile? p = t.indexFile? p := by
    rw [indexFile?, indexFile?, hpath, hdisk, entriesAt_shape]
  rw [fileOf?, fileOf?, hsibling, hindex]

@[simp]
theorem slugsUnder_shape (t : ContentTree) (p : ContentPath) : t.shape.slugsUnder p = t.slugsUnder p := by
  have hpath : t.shape.diskPath p = t.diskPath p := rfl
  rw [slugsUnder, slugsUnder, fileOf?_shape, hpath, shape, Disk.dirAt?_shape, Disk.isClosed_shape]
  cases t.disk.dirAt? (t.diskPath p) with
  | none => rfl
  | some inside => exact congrArg Except.ok inside.slugs_shape

theorem documents_shape (t : ContentTree) : t.shape.documents = t.documents := by
  rw [documents, documents, walk, walk, slugsUnder_shape]

end ContentTree

/-- The alias graph over a tree is that over its shape. -/
theorem AliasGraph.build_shape (manifest : RawManifest) (tree : ContentTree) (reserved : List String) :
    build manifest tree.shape reserved = build manifest tree reserved := by
  have hstep : expandOne tree.shape reserved = expandOne tree reserved := by
    funext state entry
    rw [expandOne, expandOne, ContentTree.slugsUnder_shape]
  rw [build, build, hstep]

/-- The candidates for sources are those of the shape. -/
theorem Config.candidates_shape [Engines] (c : Config) (content : Listing) :
    c.candidates content.shape = c.candidates content := by
  rw [candidates, candidates, Listing.walkedFiles_shape]

end Folio
