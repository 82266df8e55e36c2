import Folio.Command.Run
import Folio.Document.Frontmatter
import Folio.Document.Render
import Folio.Highlight.Block
import Folio.Html.Construction
import Folio.Html.Structure
import Folio.Html.Formula
import Folio.Html.Allowed
import Folio.Html.Tree
import Folio.Main
import Folio.Markup.Fence
import Folio.Markup.Link
import Folio.Markup.Page
import Folio.Markup.Reader
import Folio.Routing.Manifest
import Folio.Routing.Redirect
import Folio.Site.Build
import Folio.Proofs.AddedStructure
import Folio.Proofs.AddressSchemes
import Folio.Proofs.AliasCover
import Folio.Proofs.AliasSpelling
import Folio.Proofs.AliasTargets
import Folio.Proofs.CanonicalKeys
import Folio.Proofs.CleanedTree
import Folio.Proofs.CodeStretches
import Folio.Proofs.ContentsNesting
import Folio.Proofs.DeclaredAliases
import Folio.Proofs.EditRuns
import Folio.Proofs.EditedDocument
import Folio.Proofs.FencedFrontmatter
import Folio.Proofs.FencedLines
import Folio.Proofs.FoldedFormulas
import Folio.Proofs.FreshIds
import Folio.Proofs.HeadingIds
import Folio.Proofs.JoinedPaths
import Folio.Proofs.KeptNodes
import Folio.Proofs.LinkRoutes
import Folio.Proofs.ListedNodes
import Folio.Proofs.MaskedLinks
import Folio.Proofs.NormalPaths
import Folio.Proofs.PageFiles
import Folio.Proofs.PathOrder
import Folio.Proofs.PreparedSource
import Folio.Proofs.RecordedSlugs
import Folio.Proofs.RedirectCycles
import Folio.Proofs.RedirectKinds
import Folio.Proofs.RemovedFences
import Folio.Proofs.RenderedMath
import Folio.Proofs.RestoredCurrency
import Folio.Proofs.RestoredMarkup
import Folio.Proofs.RouteFiles
import Folio.Proofs.RouteTable
import Folio.Proofs.SafePage
import Folio.Proofs.SegmentPrefixes
import Folio.Proofs.SerializedTree
import Folio.Proofs.ServerMap
import Folio.Proofs.SourceFates
import Folio.Proofs.SourceRoutes
import Folio.Proofs.StableSlugs
