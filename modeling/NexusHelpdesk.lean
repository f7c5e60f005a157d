import NexusHelpdesk.Telephony.Inbox
import NexusHelpdesk.Telephony.Finality
import NexusHelpdesk.Operations.Safety
import NexusHelpdesk.Sidecar.Delivery
import NexusHelpdesk.Webchat.Outcomes
import NexusHelpdesk.Agents.Specific
import NexusHelpdesk.Closure.Coherence
import NexusHelpdesk.Runtime.Retry
import NexusHelpdesk.Runtime.Checkpoints
import NexusHelpdesk.Queue.Complete
import NexusHelpdesk.Sidecar.OneSocket
import NexusHelpdesk.Sidecar.SendOnce
import NexusHelpdesk.Cases.Outcomes
import NexusHelpdesk.Customers.OneNumber
import NexusHelpdesk.Osr.Remembered
import NexusHelpdesk.Osr.Acknowledged
import NexusHelpdesk.Realtime.QueueReplay
import NexusHelpdesk.Realtime.Doors
import NexusHelpdesk.Auth.SingleUse
import NexusHelpdesk.Media.Forward
import NexusHelpdesk.Outbound.Unaffected
import NexusHelpdesk.Privacy.Retention
import NexusHelpdesk.WhatsApp.TakenIn
import NexusHelpdesk.Integration.OneOutcome
import NexusHelpdesk.Signup.EndsRight
import NexusHelpdesk.Personas.Resolution
import NexusHelpdesk.Sidecar.Reconciled
import NexusHelpdesk.Sidecar.Readiness
import NexusHelpdesk.Ticketless.Settled
import NexusHelpdesk.Knowledge.Published
import NexusHelpdesk.Sla.Order
import NexusHelpdesk.Handoff.Requeue
import NexusHelpdesk.Scenario.Chain
import NexusHelpdesk.Handoff.Capacity
import NexusHelpdesk.Snapshots.Landing
import NexusHelpdesk.Visitors.Home
import NexusHelpdesk.Voice.Answered
import NexusHelpdesk.Sla.Measure
import NexusHelpdesk.WhatsApp.Refused
import NexusHelpdesk.WhatsApp.Once
import NexusHelpdesk.WhatsApp.Route
import NexusHelpdesk.Sidecar.Inbound
import NexusHelpdesk.Closure.Breach
import NexusHelpdesk.Queue.Predicates
import NexusHelpdesk.Knowledge.Restore
import NexusHelpdesk.Osr.Lifetimes
import NexusHelpdesk.Knowledge.Chunks
import NexusHelpdesk.Webchat.RateLimit
import NexusHelpdesk.Email.Receipts
import NexusHelpdesk.Lists.Pages
