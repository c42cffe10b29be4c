import LayoutParity.Main
import LayoutParity.Proofs.Extents
import LayoutParity.Proofs.Flattening
import LayoutParity.Proofs.Comparator
import LayoutParity.Proofs.Elements
import LayoutParity.Proofs.WellFormed
import LayoutParity.Proofs.Registration
import LayoutParity.Proofs.PolicyOrder
import LayoutParity.Proofs.NaturalHost
import LayoutParity.Proofs.NestedLayouts
import LayoutParity.Proofs.SoundLayouts
import LayoutParity.Proofs.Holes
import LayoutParity.Proofs.CacheHistory
import LayoutParity.Proofs.Agreement
import LayoutParity.Proofs.Mirror
import LayoutParity.Proofs.WiderDevice
import LayoutParity.Proofs.Drift
import LayoutParity.Proofs.VectorFree
import LayoutParity.Proofs.SpelledTokens
import LayoutParity.Proofs.JsonTexts
import LayoutParity.Proofs.JsonMembers
import LayoutParity.Proofs.RecordTexts
import LayoutParity.Proofs.JsonReports
import LayoutParity.Proofs.ConfigFiles
import LayoutParity.Proofs.TextReports
import LayoutParity.Proofs.CheckPlans
import LayoutParity.Proofs.CheckRuns
import LayoutParity.Proofs.FilledParts
import LayoutParity.Proofs.PaintedReports
import LayoutParity.Proofs.PlainNames
import LayoutParity.Proofs.Endings
import LayoutParity.Proofs.JsonEscapes
import LayoutParity.Proofs.WrittenFiles
import LayoutParity.Proofs.Escapes
import LayoutParity.Proofs.CheckFrames
import LayoutParity.Proofs.RegistryCalls
import LayoutParity.Proofs.ArrayElements
import LayoutParity.Proofs.Overrides
import LayoutParity.Proofs.Placement
import LayoutParity.Proofs.FirstDefects
import LayoutParity.Proofs.PathTexts
import LayoutParity.Proofs.ReportSections
import LayoutParity.Proofs.StatusReports
import LayoutParity.Proofs.NaturalLayouts
import LayoutParity.Proofs.VectorLeaves
import LayoutParity.Proofs.RepeatCounts
import LayoutParity.Proofs.WordRounding
import LayoutParity.Proofs.TableCalls
import LayoutParity.Proofs.TableLines
