import Operious.Execution.Fencing
import Operious.Execution.PostgresLineage
import Operious.DataProtection.Erasure
import Operious.Execution.ClaimTokens
import Operious.Execution.PublishBudget
import Operious.Outbound.SendEvidence
import Operious.Tools.GovernedAmount
import Operious.Session.Frame
import Operious.Runtime.CircuitWorkers
import Operious.Reply.Agreement
import Operious.Tenant.PolicyChain
import Operious.Approvals.Finality
import Operious.ChangeRequests.Credentials
import Operious.Tenant.KnowledgeRuns
import Operious.Coordination.FailingEvaluators
import Operious.Coordination.TenantGate
import Operious.Runtime.ExecutionQuota
import Operious.Escalation.OutboxRefinement
import Operious.Escalation.OneOutcome
import Operious.Ingress.DispatchRuns
import Operious.Ingress.WebhookDeliveries
import Operious.Ingress.FollowUps
import Operious.WorkOrders.RepairDispatch
import Operious.Execution.FailedRequeues
import Operious.DeadLetters.ReplayTargets
import Operious.Ingress.Continuity
import Operious.Outbound.FairPages
import Operious.Outbound.AttemptEvidence
import Operious.Execution.ResultEnvelope
import Operious.DataProtection.SensitiveLists
import Operious.Tools.CustomTools
import Operious.Tools.PendingApprovals
import Operious.Session.AsOf
import Operious.Runtime.CircuitFailures
import Operious.Resolution.VerdictOverrides
import Operious.Resolution.ConversationGeneration
import Operious.Resolution.MonetaryThreshold
import Operious.Coordination.PolicyRules
import Operious.Admission.Monotone
import Operious.Ingress.WebhookSignatures
import Operious.Core.Ssrf
import Operious.Approvals.CaseStoreParity
import Operious.Arbitration.Records
import Operious.Ingress.IngestRuns
import Operious.Knowledge.Chunking
import Operious.WorkOrders.StaleFollowUps
import Operious.Ingress.VoiceTokens
import Operious.Runtime.ProviderQuotaRuns
import Operious.Tools.Endpoints
import Operious.Session.ConversationRuns
import Operious.Ingress.SnsExactness
import Operious.Tenant.TopologyRuns
