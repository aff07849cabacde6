import ExtractApi.RaisingProgram
import ExtractApi.PythonText
import ExtractApi.JsonValue
import ExtractApi.ErrorTaxonomy
import ExtractApi.RequestModels
import ExtractApi.ProviderSeam
import ExtractApi.SchemaWeakening
import ExtractApi.ReportPublishing
import ExtractApi.LogFormatting
import ExtractApi.LogNoninterference
import ExtractApi.ServiceState
import ExtractApi.Observability
import ExtractApi.ErrorHandlers
import ExtractApi.ValidationRetry
import ExtractApi.RetryContract
import ExtractApi.BudgetGuard
import ExtractApi.ContentResolution
import ExtractApi.PdfExtraction
import ExtractApi.KeyedTable
import ExtractApi.TransitionSystem
import ExtractApi.ExpiringMap
import ExtractApi.IdempotencyStore
import ExtractApi.StoreRefinement
import ExtractApi.StoreInterleaving
import ExtractApi.AdmissionBudget
import ExtractApi.ExtractFlow
import ExtractApi.ExtractOutcome
import ExtractApi.SpendLedger
import ExtractApi.SequentialReplay
import ExtractApi.KeyedFirstRequest
import ExtractApi.AsgiConnection
import ExtractApi.CallerAuth
import ExtractApi.BodyCap
import ExtractApi.RequestContext
import ExtractApi.AccessLine
import ExtractApi.ServiceApp
import ExtractApi.RequestReply
import ExtractApi.AccessLedger
import ExtractApi.MalformedBody
import ExtractApi.TaxonomyContract
import ExtractApi.AccuracyRun
import ExtractApi.AuthBoundary
import ExtractApi.BodyCapContract
import ExtractApi.FixtureCorpus
import ExtractApi.RunContract
import ExtractApi.ClientResolution
import ExtractApi.ProviderPricing
import ExtractApi.KeylessPosts
import ExtractApi.LoadedJson
import ExtractApi.LivePredictor
import ExtractApi.LiveResponses
import ExtractApi.ServiceResponses
import ExtractApi.LiveRun
import ExtractApi.LiveOutcomes
import ExtractApi.SkippedFixtures
import ExtractApi.TwoLedgers
import ExtractApi.LiveLedger
import ExtractApi.ReportAggregation
import ExtractApi.CurrencyAudit
import ExtractApi.FixtureScan
import ExtractApi.CanonicalRecords
import ExtractApi.KeyedClients
import ExtractApi.StoreDeployment
import ExtractApi.RequestIsolation
import ExtractApi.ServiceRuns
import ExtractApi.SpendTrajectory
import ExtractApi.LogStream
import ExtractApi.Startup
import ExtractApi.Rehearsal
import ExtractApi.AdmittedClients
import ExtractApi.Uploads
import ExtractApi.CurrencySources
import ExtractApi.StoreFleet
import ExtractApi.FilledText
import ExtractApi.ReportMarkdown
