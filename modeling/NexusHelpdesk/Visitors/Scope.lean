import NexusHelpdesk.Snapshots.Visitor
import NexusHelpdesk.Lib.Json

/-!
# The scope of a public webchat call (`webchat_tenant_binding.py`)

Tenant, country and channel of a call are those of the binding of its origin, and have to be those
of the conversation.  This is the code in production, where a call without a binding is refused.

* `normalizePublicOrigin`, `requestPublicOrigin`: the origin of a text, and of a request;
* `normalizeScopeKey`, `normalizeCountryCode`: tenant and channel, and country;
* `conversationCountryCode`: the country of the ticket, else of the control row;
* `resolvePublicWebchatScope`.

`urlparse` and `str.upper` are parameters.
-/

namespace NexusHelpdesk.Visitors

open Lib Customers Snapshots

/-! ## rows -/

/-- an active row of `webchat_public_origin_bindings`. -/
structure OriginBinding where
  tenantKey : Text
  countryCode : Option Text
  channelKey : Text
deriving DecidableEq, Repr

structure Ticket where
  customerId : Option ℕ
  countryCode : Option Text
deriving DecidableEq, Repr

structure Conversation where
  publicId : Text
  tenantKey : Text
  channelKey : Text
  ticketId : Option ℕ
  visitorName : Option Text
  visitorEmail : Option Text
  visitorPhone : Option Text
  visitorRef : Option Text
  origin : Option Text
  pageUrl : Option Text
  userAgent : Option Text
deriving DecidableEq, Repr

structure Control where
  customerId : Option ℕ
  tenantKey : Text
  countryCode : Option Text
  channelKey : Text
deriving DecidableEq, Repr

structure VisitorDb where
  identity : IdentityDb
  tickets : Table Ticket
  conversations : Table Conversation
  /-- the control row of a conversation. -/
  controls : ℕ → Option Control

/-- what `urlparse` answers; reading the port may raise. -/
structure ParsedUrl where
  scheme : Text
  netloc : Text
  hostname : Option Text
  port : Except Unit (Option ℕ)
  username : Option Text
  password : Option Text
  path : Text
  params : Text
  query : Text
  fragment : Text

structure VisitorEnv extends IdentityEnv where
  upper : Text → Text
  upper_of_upper : ∀ t : Text, t.all Char.isUpper = true → upper t = t
  /-- `none`: a `ValueError`. -/
  urlparse : Text → Option ParsedUrl
  binding : Text → Option OriginBinding
  /-- the id of an active tenant. -/
  tenant : Text → Option ℕ

structure Request where
  origin : Option Text
  referer : Option Text
  userAgent : Option Text
deriving DecidableEq, Repr

structure Scope where
  tenantKey : Text
  countryCode : Option Text
  channelKey : Text
  normalizedOrigin : Option Text
deriving DecidableEq, Repr

def given (value : Option Text) : Option Text := value.filter (· ≠ [])

/-- `str.rstrip(c)`. -/
def rstrip (c : Char) (s : Text) : Text := (s.reverse.dropWhile (· = c)).reverse

/-! ## origins -/

section Code
variable (env : VisitorEnv)

def invalidOrigin : HTTPException := ⟨400, "invalid_webchat_origin"⟩

def normalizePublicOrigin (value : Option Text) : Except HTTPException (Option Text) :=
  let text := rstrip '/' (PyStr.stripChars (value.getD []))
  if text = [] then .ok none
  else
    match env.urlparse text with
    | none => .error ⟨500, "ValueError"⟩
    | some parsed =>
      let scheme := env.lower parsed.scheme
      let host := rstrip '.' (env.lower (parsed.hostname.getD []))
      match parsed.port with
      | .error _ => .error invalidOrigin
      | .ok port =>
        if scheme ∉ ["https".toList, "http".toList] ∨ host = [] ∨ (given parsed.username).isSome ∨
            (given parsed.password).isSome ∨ parsed.path ∉ [[], ['/']] ∨ parsed.params ≠ [] ∨
            parsed.query ≠ [] ∨ parsed.fragment ≠ [] then
          .error invalidOrigin
        else if scheme = "http".toList ∧
            host ∉ ["localhost".toList, "127.0.0.1".toList, "::1".toList] then
          .error ⟨400, "insecure_webchat_origin"⟩
        else
          let displayHost := if ':' ∈ host then '[' :: host ++ [']'] else host
          let defaultPort := if scheme = "https".toList then 443 else 80
          let netloc := match port with
            | none => displayHost
            | some n => if n = defaultPort then displayHost
              else displayHost ++ ':' :: Json.natText n
          .ok (some (scheme ++ "://".toList ++ netloc))

/-- scheme and host of the referer, if it has both. -/
def refererOrigin (referer : Text) : Except HTTPException (Option Text) :=
  match env.urlparse referer with
  | none => .error ⟨500, "ValueError"⟩
  | some parsed =>
    .ok (if parsed.scheme ≠ [] ∧ parsed.netloc ≠ [] then
      some (parsed.scheme ++ "://".toList ++ parsed.netloc) else none)

def requestPublicOrigin (req : Request) : Except HTTPException (Option Text) :=
  match given req.origin, given req.referer with
  | some origin, _ => normalizePublicOrigin env (some origin)
  | none, some referer => do
    match ← refererOrigin env referer with
    | some origin => normalizePublicOrigin env (some origin)
    | none => return none
  | none, none => .ok none

def originFromRequest (req : Request) (explicitOrigin : Option Text) :
    Except HTTPException (Option Text) :=
  match given explicitOrigin, given req.origin, given req.referer with
  | some origin, _, _ => .ok (clip (some origin) 255)
  | none, some origin, _ => .ok (clip (some origin) 255)
  | none, none, some referer => do
    match ← refererOrigin env referer with
    | some origin => return clip (some origin) 255
    | none => return none
  | none, none, none => .ok none

/-! ## scope -/

def isScopeChar (c : Char) : Bool := c.isAlphanum || c ∈ ['.', '_', ':', '-']

def normalizeScopeKey (value field : Text) : Except HTTPException Text :=
  let stripped := PyStr.stripChars (if value = [] then "default".toList else value)
  let text := if stripped = [] then "default".toList else stripped
  if (text.head?.any Char.isAlphanum) ∧ text.all isScopeChar ∧ text.length ≤ 120 then .ok text
  else .error ⟨400, "invalid_webchat_" ++ String.ofList field ++ "_scope"⟩

def normalizeCountryCode (value : Option Text) : Except HTTPException (Option Text) :=
  let text := env.upper (PyStr.stripChars (value.getD []))
  if text = [] then .ok none
  else if text.length = 2 ∧ text.all Char.isUpper then .ok (some text)
  else .error ⟨400, "invalid_webchat_country_scope"⟩

def scopeMismatch : HTTPException := ⟨403, "webchat_public_scope_mismatch"⟩

def ticketOf (d : VisitorDb) (c : Conversation) : Option Ticket :=
  c.ticketId.bind d.tickets.get?

def conversationCountryCode (d : VisitorDb) (k : ℕ) (c : Conversation) :
    Except HTTPException (Option Text) :=
  normalizeCountryCode env (match ticketOf d c with
    | some ticket => ticket.countryCode
    | none => (d.controls k).bind (·.countryCode))

def bindingScope (binding : OriginBinding) (origin : Option Text)
    (requestedTenant requestedChannel : Text) : Except HTTPException Scope := do
  let tenant ← normalizeScopeKey binding.tenantKey "tenant".toList
  let country ← normalizeCountryCode env binding.countryCode
  let channel ← normalizeScopeKey binding.channelKey "channel".toList
  if country = none then .error ⟨403, "webchat_public_country_scope_required"⟩
  else if PyStr.stripChars requestedTenant ∉ [[], "default".toList, tenant] then
    .error scopeMismatch
  else if PyStr.stripChars requestedChannel ∉ [[], "default".toList, channel] then
    .error scopeMismatch
  else .ok ⟨tenant, country, channel, origin⟩

/-- the origin that the scope is looked up by; with a checked token it is the stored one. -/
def scopeOrigin (req : Request) (authorized : Option Conversation) :
    Except HTTPException (Option Text) := do
  let requestOrigin ← requestPublicOrigin env req
  match authorized with
  | none => return requestOrigin
  | some c => do
    let persisted ← normalizePublicOrigin env c.origin
    if requestOrigin.isSome ∧ requestOrigin ≠ persisted then .error scopeMismatch
    else return persisted

def checkScope (d : VisitorDb) (k : ℕ) (c : Conversation) (scope : Scope) :
    Except HTTPException Unit := do
  let existingOrigin ← normalizePublicOrigin env c.origin
  let existingCountry ← conversationCountryCode env d k c
  if c.tenantKey ≠ scope.tenantKey ∨ c.channelKey ≠ scope.channelKey ∨
      existingOrigin ≠ scope.normalizedOrigin ∨ existingCountry ≠ scope.countryCode then
    .error scopeMismatch
  else .ok ()

/-- `resolve_public_webchat_scope` for the conversation under key `k`, `authorized` if its token was
checked before. -/
def resolvePublicWebchatScope (d : VisitorDb) (req : Request)
    (requestedTenant requestedChannel : Text) (k : Option ℕ) (authorized : Bool) :
    Except HTTPException Scope := do
  let existing := k.bind fun k => (d.conversations.get? k).map fun c => (k, c)
  let origin ← scopeOrigin env req (if authorized then existing.map Prod.snd else none)
  match origin.bind env.binding with
  | none => .error ⟨403, "webchat_public_binding_required"⟩
  | some binding => do
    let scope ← bindingScope env binding origin requestedTenant requestedChannel
    match existing with
    | some (k, c) => do
      checkScope env d k c scope
      return scope
    | none => return scope

end Code

end NexusHelpdesk.Visitors
