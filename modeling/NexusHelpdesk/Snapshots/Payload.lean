import NexusHelpdesk.Customers.Identity
import NexusHelpdesk.Lib.Except

/-!
# Handoff snapshots (`webchat_handoff_snapshot_service.py`)

A snapshot is the payload of the job that turns a chat of the runtime into a ticket.

* `buildHandoffSnapshotPayload`: the payload;
* `requiredSnapshotIdentity`: tenant, channel, session and message of a snapshot;
* `webchatHandoffSourceDedupeKey`: the key of the event, on the ticket;
* `runtimePublicIdForSession`: the public id of the session's conversation.

SHA-256 and `str.lower` are parameters.
-/

namespace NexusHelpdesk.Snapshots

open Lib Customers

def clip (value : Option Text) (limit : ℕ) : Option Text :=
  value.bind fun value =>
    let cleaned := PyStr.collapse (PyStr.stripChars value)
    if cleaned = [] then none else some (cleaned.take limit)

structure Visitor where
  name : Option Text
  email : Option Text
  phone : Option Text
deriving DecidableEq, Repr

structure Handoff where
  tenantKey : Text
  channelKey : Text
  sessionId : Text
  clientMessageId : Text
  customerLastMessage : Text
  aiReply : Text
  intent : Option Text
  trackingNumber : Option Text
  handoffReason : Option Text
  recommendedAgentAction : Option Text
  visitor : Visitor
deriving DecidableEq, Repr

structure Snapshot where
  tenantKey : Text
  channelKey : Text
  sessionId : Option Text
  clientMessageId : Option Text
  customerLastMessage : Option Text
  aiReply : Option Text
  intent : Text
  trackingNumber : Option Text
  handoffReason : Text
  recommendedAgentAction : Option Text
  visitor : Visitor
  runtimeIssueKey : Text
  sourceDedupeKey : Text
  publicConversationId : Text
deriving DecidableEq, Repr

/-- tenant, channel, session and message of a snapshot. -/
structure SourceIdentity where
  tenantKey : Text
  channelKey : Text
  sessionId : Text
  clientMessageId : Text
deriving DecidableEq, Repr

section Code
variable (lower sha256 : Text → Text)

def requiredSnapshotIdentity (s : Snapshot) : Except String SourceIdentity :=
  let tenantKey := lower ((clip (some s.tenantKey) 120).getD [])
  let channelKey := lower ((clip (some s.channelKey) 120).getD [])
  let sessionId := (clip s.sessionId 120).getD []
  let clientMessageId := (clip s.clientMessageId 120).getD []
  if tenantKey = [] ∨ tenantKey = "default".toList then
    .error "handoff_snapshot_tenant_required"
  else if channelKey = [] ∨ sessionId = [] ∨ clientMessageId = [] then
    .error "handoff_snapshot_source_identity_required"
  else .ok ⟨tenantKey, channelKey, sessionId, clientMessageId⟩

def joinColon (parts : List Text) : Text := [':'].intercalate parts

def runtimePublicIdForSession (source : SourceIdentity) : Text :=
  "wcf_".toList ++ (sha256 (joinColon ["runtime".toList, source.tenantKey, source.channelKey,
    source.sessionId])).take 24

def sourceEventId (source : SourceIdentity) : Text :=
  "whs_".toList ++ (sha256 (joinColon [source.tenantKey, source.channelKey, source.sessionId,
    source.clientMessageId, "handoff".toList])).take 40

def webchatHandoffSourceDedupeKey (source : SourceIdentity) : Text :=
  (joinColon ["webchat-runtime-handoff".toList, source.tenantKey, source.channelKey,
    sourceEventId sha256 source]).take 300

def snapshotIssueKey (s : Snapshot) : Text :=
  let intent := ((clip (some s.intent) 80).or (clip (some s.handoffReason) 80)).getD
    "handoff".toList
  match clip s.trackingNumber 120 with
  | some tracking => (joinColon ["tracking".toList, tracking, "intent".toList, intent]).take 240
  | none =>
    let session := (clip s.sessionId 120).getD "unknown".toList
    (joinColon ["session".toList, session, "intent".toList, intent]).take 240

def buildHandoffSnapshotPayload (h : Handoff) : Except String Snapshot := do
  let snapshot : Snapshot :=
    { tenantKey := lower ((clip (some h.tenantKey) 120).getD [])
      channelKey := lower ((clip (some h.channelKey) 120).getD [])
      sessionId := clip (some h.sessionId) 120
      clientMessageId := clip (some h.clientMessageId) 120
      customerLastMessage := clip (some h.customerLastMessage) 2000
      aiReply := clip (some h.aiReply) 1200
      intent := (clip h.intent 80).getD "handoff".toList
      trackingNumber := clip h.trackingNumber 120
      handoffReason := (clip h.handoffReason 240).getD "ai_requested_handoff".toList
      recommendedAgentAction := clip h.recommendedAgentAction 500
      visitor := h.visitor
      runtimeIssueKey := []
      sourceDedupeKey := []
      publicConversationId := [] }
  let source ← requiredSnapshotIdentity lower snapshot
  return { snapshot with
    runtimeIssueKey := snapshotIssueKey snapshot
    sourceDedupeKey := webchatHandoffSourceDedupeKey sha256 source
    publicConversationId := runtimePublicIdForSession sha256 source }

end Code

end NexusHelpdesk.Snapshots
