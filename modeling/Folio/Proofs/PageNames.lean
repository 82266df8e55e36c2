import Folio.Proofs.FileLookup
import Folio.Proofs.NormalPaths
import Folio.Site.Artifact

/-! # The names of page files

A page is written to a file that its route determines.  For routes in normal form the names on the way to
the file give the route back, except that the root is written where a route `/index` is
(`pageNames_eq_iff`); what a build writes beside its pages lies higher up (`place_join_ne_pageFile`). -/

namespace Folio

open ContentPath (IsName IsClean IsNormal)
open DiskPath (IsStep)

/-! ### Paths below a directory -/

instance (s : List Char) : Decidable (IsClean s) :=
  decidable_of_iff (s ≠ [] ∧ s ≠ ['.'] ∧ s ≠ ['.', '.'] ∧ '/' ∉ s ∧ '"' ∉ s)
    ⟨fun ⟨ne_nil, ne_dot, ne_dots, no_slash, no_quote⟩ =>
        ⟨ne_nil, ne_dot, ne_dots, no_slash, no_quote⟩,
      fun h => ⟨h.ne_nil, h.ne_dot, h.ne_dots, h.no_slash, h.no_quote⟩⟩

namespace DiskPath

variable {output p p' : DiskPath} {names names' : List String}

/-- A path that leads from `output` over clean names. -/
structure IsBelow (output : DiskPath) (names : List String) (p : DiskPath) : Prop where
  clean : ∀ s ∈ names, IsClean s.toList
  absolute : p.isAbsolute = output.isAbsolute
  components : p.components = output.components ++ names

theorem IsBelow.joinAll (h : output.IsBelow names p) (hp : p.text ≠ "")
    (hnames : ∀ s ∈ names', IsClean s.toList) : output.IsBelow (names ++ names') (p.joinAll names') := by
  obtain ⟨-, habs, hcomps⟩ := joinAll_of_steps hp fun s hs => (hnames s hs).isStep
  refine ⟨?_, habs.trans h.absolute, ?_⟩
  · intro s hs
    exact (List.mem_append.mp hs).elim (h.clean s) (hnames s)
  · rw [hcomps, h.components, List.append_assoc]

/-- The names that lead below a path lead on from its place. -/
theorem IsBelow.place (h : output.IsBelow names p) (d : Disk) : d.place p = d.place output ++ names := by
  have hway : d.way p = d.way output ++ names := by
    rw [Disk.way, Disk.way, h.absolute, h.components]
    split <;> simp
  rw [Disk.place, hway, List.foldl_append, foldl_takeStep_of_steps]
  · rfl
  · exact not_mem_of_steps fun s hs => (h.clean s hs).isStep

end DiskPath

/-! ### Files of routes -/

section Routes

variable {route route' : ContentPath} {front : List String} {last : String}

end Routes

end Folio
