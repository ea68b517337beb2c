import CaseResolution.Actions.Abandonment
import CaseResolution.Actions.Authority
import CaseResolution.Actions.Coherence
import CaseResolution.Actions.Finality
import CaseResolution.Actions.Imports
import CaseResolution.Actions.Offers
import CaseResolution.Actions.Receipts
import CaseResolution.Actions.Retry
import CaseResolution.Actions.Siblings
import CaseResolution.Briefs.Authority
import CaseResolution.Briefs.Bounds
import CaseResolution.Briefs.Citations
import CaseResolution.Briefs.Currency
import CaseResolution.Briefs.Fencing
import CaseResolution.Briefs.Staleness
import CaseResolution.Cases.Queue
import CaseResolution.Cases.Seeding
import CaseResolution.Cases.Status
import CaseResolution.Cursors.Codec
import CaseResolution.Identity.Administrators
import CaseResolution.Inbox.Accounting
import CaseResolution.Inbox.Continuations
import CaseResolution.Inbox.Drafts
import CaseResolution.Inbox.Ingestion
import CaseResolution.Inbox.Leases
import CaseResolution.Inbox.StaleWorkers
import CaseResolution.Inbox.Threads
import CaseResolution.Policies.Agreement
import CaseResolution.Policies.Conflicts
import CaseResolution.Policies.Effective
import CaseResolution.Policies.History
import CaseResolution.Policies.Parsing
import CaseResolution.Policies.Publication
import CaseResolution.Policies.Races
import CaseResolution.Policies.Retirement
import CaseResolution.PolicyIndexing.Completion
import CaseResolution.Retrieval.Bounded
import CaseResolution.Retrieval.Fusion
import CaseResolution.Reviews.FourEyes
import CaseResolution.Reviews.Reservations
import CaseResolution.Settings.Limits
import CaseResolution.System.Drains
import CaseResolution.Gmail.Body
import CaseResolution.Gmail.Lemmas.Normalization
import CaseResolution.Gmail.Normalization
import CaseResolution.Lib.Pages
import CaseResolution.Lists.Formats
import CaseResolution.Lists.Impl.Queries
import CaseResolution.Lists.Lemmas.History
import CaseResolution.Lists.Pages
