import NexusHelpdesk.Sidecar.Connector

/-!
# A batch of Baileys messages (`inboundMapper.ts`, `handleMessages`)

One loop normalizes each message, spools its media, hands it to `onInbound` and reports the status;
the only handler of an exception is outside the loop.

* `normalizeBaileysInbound`: the message of a customer, or none, or the `RangeError` of a timestamp
  that is no date;
* `handleMessages`: what reaches `onInbound`, under any outcome of the calls the loop makes;
* `Unharmed`: every message to deliver has a date and is spooled, and the calls after it return
  while another one is still to come.

`handleMessages_complete_iff`: **all messages of a batch reach `onInbound`, in order and once, if
and only if the batch is unharmed.**
-/

namespace NexusHelpdesk.Sidecar

/-- what `extractText` reads of a message. -/
structure ExtractedContent where
  body : String
  mediaKind : Option MediaKind
  mediaMimeType : Option String
  mediaFilename : Option String
  replyToMessageId : Option String
deriving DecidableEq

/-- `messageTimestamp`: absent, a number of seconds, or what `Number` makes `NaN` or infinite. -/
inductive MessageTimestamp where
  | absent | seconds (n : ℤ) | invalid
deriving DecidableEq

/-- a message of a batch; an absent text is empty. -/
structure BaileysEvent where
  keyId : String
  fromMe : Bool
  remoteJid : String
  participant : String
  pushName : String
  messageTimestamp : MessageTimestamp
  content : ExtractedContent
  messageType : String
deriving DecidableEq

inductive FromMeMode where
  | ignore | storeOnly | testVisitor
deriving DecidableEq

inductive ProjectionMode where
  | visitor | storeOnly | testVisitor
deriving DecidableEq

/-- the account with the options of the mapper; `selfPhoneJid` is `phoneJidFromAccountSnapshot`. -/
structure MapperOptions where
  accountId : String
  allowFromMeInbound : Bool
  fromMeMode : FromMeMode
  fromMeTestPrefix : String
  selfPhoneJid : Option String

/-- `NormalizedInboundMessage`, without the copy of the raw message; `receivedAt` in milliseconds. -/
structure NormalizedInbound where
  accountId : String
  externalMessageId : String
  chatJid : String
  senderJid : String
  senderPhone : Option String
  senderName : Option String
  messageType : String
  bodyText : String
  receivedAt : ℤ
  fromMe : Bool
  projectionMode : ProjectionMode
  mediaKind : Option MediaKind
  mediaMimeType : Option String
  mediaFilename : Option String
  replyToMessageId : Option String
deriving DecidableEq

/-! ## the mapper -/

def endsWith (suffix s : String) : Bool := suffix.toList.isSuffixOf s.toList

def phoneFromJid (jid : String) : Option String :=
  if endsWith "@lid" jid then none
  else
    let cleaned := (jid.toList.takeWhile fun c => c ≠ '@' && c ≠ ':').filter Char.isDigit
    if cleaned = [] then none else some ("+" ++ String.ofList cleaned)

def isCustomerChatJid (jid : String) : Bool :=
  jid ≠ "" && jid ≠ "status@broadcast" &&
    !(["@broadcast", "@g.us", "@newsletter"].any (endsWith · jid))

/-- how a message is projected, if the mode lets it in. -/
def projectionMode (o : MapperOptions) (e : BaileysEvent) : Option ProjectionMode :=
  if !e.fromMe then some .visitor
  else if !o.allowFromMeInbound then none
  else
    match o.fromMeMode with
    | .ignore => none
    | .storeOnly => some .storeOnly
    | .testVisitor =>
      if o.fromMeTestPrefix.toList.isPrefixOf e.content.body.toList then some .testVisitor else none

/-- `new Date(seconds * 1000).toISOString()`, in milliseconds. -/
def receivedAt (now : ℤ) : MessageTimestamp → Except String ℤ
  | .absent => .ok (now * 1000)
  | .invalid => .error "RangeError: Invalid time value"
  | .seconds n =>
    let t := if n = 0 then now else n
    if |t * 1000| ≤ 8640000000000000 then .ok (t * 1000)
    else .error "RangeError: Invalid time value"

def normalizeBaileysInbound (o : MapperOptions) (now : ℤ) (e : BaileysEvent) :
    Except String (Option NormalizedInbound) :=
  if e.keyId = "" ∨ !isCustomerChatJid e.remoteJid ∨ e.content.body = "" then .ok none
  else
    match projectionMode o e with
    | none => .ok none
    | some mode => do
      let received ← receivedAt now e.messageTimestamp
      let sender := if e.participant = "" then e.remoteJid else e.participant
      return some
        { accountId := o.accountId
          externalMessageId := e.keyId
          chatJid := e.remoteJid
          senderJid := sender
          senderPhone := phoneFromJid sender
          senderName :=
            if e.pushName = "" then none else some (String.ofList (e.pushName.toList.take 160))
          messageType := e.messageType
          bodyText := e.content.body
          receivedAt := received
          fromMe := e.fromMe
          projectionMode := mode
          mediaKind := e.content.mediaKind
          mediaMimeType := e.content.mediaMimeType
          mediaFilename := e.content.mediaFilename
          replyToMessageId := e.content.replyToMessageId }

def projectSelfTestInboundToPhoneJid (o : MapperOptions) (m : NormalizedInbound) :
    NormalizedInbound :=
  if !m.fromMe || m.projectionMode != .testVisitor then m
  else
    match o.selfPhoneJid with
    | none => m
    | some jid =>
      { m with
        chatJid := jid
        senderJid := jid
        senderPhone := some ("+" ++ String.ofList (jid.toList.takeWhile (· ≠ '@'))) }

/-! ## the loop -/

/-- which of the calls for one message return; the others throw. -/
structure CallOutcomes where
  enqueue : Bool
  onInbound : Bool
  drainMediaDownloads : Bool
  emitStatus : Bool
deriving DecidableEq

def hasMedia (e : BaileysEvent) : Bool :=
  e.content.mediaKind.isSome && e.content.mediaMimeType.any (· ≠ "") && e.keyId ≠ ""

/-- what reaches `onInbound`, each with the message it was made of. -/
def handleMessages (o : MapperOptions) (now : ℤ) :
    List (BaileysEvent × CallOutcomes) → List (BaileysEvent × NormalizedInbound)
  | [] => []
  | (e, calls) :: rest =>
    match normalizeBaileysInbound o now e with
    | .error _ => []
    | .ok none => handleMessages o now rest
    | .ok (some normalized) =>
      if hasMedia e && !calls.enqueue then []
      else
        (e, projectSelfTestInboundToPhoneJid o normalized) ::
          if calls.onInbound && (!hasMedia e || calls.drainMediaDownloads) && calls.emitStatus then
            handleMessages o now rest
          else []

/-- a message to deliver: it has a key, a customer's chat and a body, and is not one of the account
itself that the mode leaves out. -/
def deliverable (o : MapperOptions) (e : BaileysEvent) : Bool :=
  e.keyId ≠ "" && isCustomerChatJid e.remoteJid && e.content.body ≠ "" &&
    (projectionMode o e).isSome

/-- the message comes to `onInbound`: its timestamp is a date, its media is spooled. -/
def Reaches (now : ℤ) (x : BaileysEvent × CallOutcomes) : Prop :=
  (receivedAt now x.1.messageTimestamp).isOk = true ∧ (hasMedia x.1 = true → x.2.enqueue = true)

def Returns (x : BaileysEvent × CallOutcomes) : Prop :=
  x.2.onInbound = true ∧ (hasMedia x.1 = true → x.2.drainMediaDownloads = true) ∧
    x.2.emitStatus = true

/-- every message to deliver comes to `onInbound`, and the calls for it return if there is another
one behind it. -/
def Unharmed (o : MapperOptions) (now : ℤ) : List (BaileysEvent × CallOutcomes) → Prop
  | [] => True
  | x :: rest =>
    (deliverable o x.1 = true → Reaches now x ∧
      (Returns x ∨ (rest.map (·.1)).filter (deliverable o) = [])) ∧ Unharmed o now rest

variable {o : MapperOptions} {now : ℤ} {e : BaileysEvent}

lemma normalizeBaileysInbound_of_not (h : deliverable o e = false) :
    normalizeBaileysInbound o now e = .ok none := by
  unfold normalizeBaileysInbound
  by_cases hempty : e.keyId = "" ∨ (!isCustomerChatJid e.remoteJid) = true ∨ e.content.body = ""
  · rw [if_pos hempty]
  · rw [if_neg hempty]
    cases hmode : projectionMode o e with
    | none => rfl
    | some mode =>
      simp only [not_or, Bool.not_eq_true'] at hempty
      simp_all [deliverable]

lemma normalizeBaileysInbound_of_deliverable (now : ℤ) (h : deliverable o e = true) :
    (∃ error, receivedAt now e.messageTimestamp = .error error ∧
        normalizeBaileysInbound o now e = .error error) ∨
      ∃ at' normalized, receivedAt now e.messageTimestamp = .ok at' ∧
        normalizeBaileysInbound o now e = .ok (some normalized) := by
  simp only [deliverable, Bool.and_eq_true, decide_eq_true_eq] at h
  obtain ⟨⟨⟨hkey, hchat⟩, hbody⟩, hmode⟩ := h
  obtain ⟨mode, hmode⟩ := Option.isSome_iff_exists.1 hmode
  unfold normalizeBaileysInbound
  rw [if_neg (by simp [hkey, hchat, hbody]), hmode]
  cases hat : receivedAt now e.messageTimestamp with
  | error error => exact Or.inl ⟨error, rfl, rfl⟩
  | ok at' => exact Or.inr ⟨at', _, rfl, rfl⟩

lemma unharmed_of_none {batch : List (BaileysEvent × CallOutcomes)}
    (h : (batch.map (·.1)).filter (deliverable o) = []) : Unharmed o now batch := by
  induction batch with
  | nil => trivial
  | cons x rest ih =>
    rw [List.map_cons, List.filter_cons] at h
    split at h
    · cases h
    · rename_i hno
      exact ⟨fun hx => absurd hx hno, ih h⟩

theorem handleMessages_complete_iff (o : MapperOptions) (now : ℤ)
    (batch : List (BaileysEvent × CallOutcomes)) :
    (handleMessages o now batch).map (·.1) = (batch.map (·.1)).filter (deliverable o) ↔
      Unharmed o now batch := by
  induction batch with
  | nil => exact iff_of_true rfl trivial
  | cons x rest ih =>
    obtain ⟨e, calls⟩ := x
    unfold handleMessages
    rw [List.map_cons, List.filter_cons]
    cases hdel : deliverable o e with
    | false =>
      rw [normalizeBaileysInbound_of_not hdel, if_neg Bool.false_ne_true]
      refine ih.trans ⟨fun h => ⟨fun hno => ?_, h⟩, fun h => h.2⟩
      exact absurd (hdel.symm.trans hno) Bool.false_ne_true
    | true =>
      rw [if_pos rfl]
      rcases normalizeBaileysInbound_of_deliverable now hdel with
        ⟨error, hat, hnorm⟩ | ⟨at', normalized, hat, hnorm⟩
      · -- the timestamp is no date
        rw [hnorm]
        refine iff_of_false (by simp) fun h => ?_
        have hreach := (h.1 hdel).1.1
        rw [hat] at hreach
        cases hreach
      · rw [hnorm]
        dsimp only
        by_cases hspool : (hasMedia e && !calls.enqueue) = true
        · rw [if_pos hspool]
          refine iff_of_false (by simp) fun h => ?_
          simp only [Bool.and_eq_true, Bool.not_eq_true'] at hspool
          have henqueue := (h.1 hdel).1.2 hspool.1
          exact Bool.false_ne_true (hspool.2.symm.trans henqueue)
        · rw [if_neg hspool, List.map_cons, List.cons_inj_right]
          have hreach : Reaches now (e, calls) := by
            refine ⟨by rw [hat]; rfl, fun hmedia => ?_⟩
            simpa [hmedia] using hspool
          by_cases hreturn : (calls.onInbound && (!hasMedia e || calls.drainMediaDownloads) &&
              calls.emitStatus) = true
          · rw [if_pos hreturn]
            have hret : Returns (e, calls) := by
              simp only [Bool.and_eq_true, Bool.or_eq_true, Bool.not_eq_true'] at hreturn
              refine ⟨hreturn.1.1, fun hmedia => ?_, hreturn.2⟩
              exact hreturn.1.2.resolve_left (by simp [hmedia])
            exact ih.trans ⟨fun h => ⟨fun _ => ⟨hreach, Or.inl hret⟩, h⟩, fun h => h.2⟩
          · rw [if_neg hreturn]
            have hnot : ¬ Returns (e, calls) := by
              rintro ⟨hin, hdrain, hstatus⟩
              refine hreturn ?_
              cases hmedia : hasMedia e with
              | false => simp_all
              | true => simp_all
            constructor
            · intro h
              exact ⟨fun _ => ⟨hreach, Or.inr h.symm⟩, unharmed_of_none h.symm⟩
            · intro h
              exact ((h.1 hdel).2.resolve_left hnot).symm

def customerText (keyId : String) (t : MessageTimestamp) : BaileysEvent :=
  ⟨keyId, false, "41790000001@s.whatsapp.net", "", "", t, ⟨"Hello", none, none, none, none⟩,
    "conversation"⟩

def sampleOptions : MapperOptions := ⟨"wa-1", false, .ignore, "NEXUS_SELF_INBOUND_TEST", none⟩

def undatedFirst : List (BaileysEvent × CallOutcomes) :=
  [(customerText "A" .invalid, ⟨true, true, true, true⟩),
    (customerText "B" (.seconds 1700000000), ⟨true, true, true, true⟩)]

/-- the text without a date hides the other one. -/
theorem undatedFirst_hides_next :
    deliverable sampleOptions (customerText "B" (.seconds 1700000000)) = true ∧
      handleMessages sampleOptions 1700000000 undatedFirst = [] ∧
      (handleMessages sampleOptions 1700000000 undatedFirst).map (·.1) ≠
        (undatedFirst.map (·.1)).filter (deliverable sampleOptions) := by
  refine ⟨?_, ?_, ?_⟩ <;> decide +kernel

end NexusHelpdesk.Sidecar
