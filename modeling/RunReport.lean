import RunReport.Draft
import RunReport.Main
import RunReport.Proofs.Collapsed
import RunReport.Proofs.Filling
import RunReport.Proofs.Numeral
import RunReport.Proofs.SuiteStatus
import RunReport.Template.Parser
import RunReport.Proofs.Tally
import RunReport.Proofs.CellText
import RunReport.Proofs.PageTags
import RunReport.Proofs.FormEncoding
import RunReport.Proofs.TestLink
import RunReport.Proofs.DeleteLink
import RunReport.Proofs.UrlQuery
import RunReport.Proofs.BuildLinks
import RunReport.Proofs.TemplateShape
import RunReport.Proofs.Rendering
import RunReport.Proofs.HistorySelection
import RunReport.Proofs.CsvTable
import RunReport.Proofs.StatusText
import RunReport.Proofs.StatusSources
import RunReport.Proofs.PatternMatching
import RunReport.Proofs.PatternReading
import RunReport.Proofs.GroupReading
import RunReport.Proofs.PatternTail
import RunReport.Proofs.GroupTail
import RunReport.Proofs.WellFormedGroups
import RunReport.Proofs.WholeName
import RunReport.Proofs.QueryText
import RunReport.Proofs.StatusFold
import RunReport.Proofs.Segments
import RunReport.Proofs.ChangelistVersion
import RunReport.Proofs.MergedVersion
import RunReport.Proofs.VersionParts
import RunReport.Proofs.NodeText
import RunReport.Proofs.ListRuns
import RunReport.Proofs.ChangelistRuns
import RunReport.Proofs.InfoSettings
import RunReport.Proofs.Grouping
import RunReport.Proofs.CollapsedRow
import RunReport.Proofs.TableGeometry
import RunReport.Proofs.SpanFaults
import RunReport.Proofs.SpanReading
import RunReport.Proofs.ElapsedTime
import RunReport.Proofs.SuiteNames
import RunReport.Proofs.SuiteColumns
import RunReport.Proofs.BuildToggle
import RunReport.Proofs.LongRunning
import RunReport.Proofs.FailurePage
import RunReport.Proofs.LawfulOrders
import RunReport.Proofs.FilterCalls
import RunReport.Proofs.JsonTail
import RunReport.Proofs.JsonText
import RunReport.Proofs.OneOrMany
