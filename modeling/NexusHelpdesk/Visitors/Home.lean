import NexusHelpdesk.Visitors.Resume
import NexusHelpdesk.Customers.Function
import NexusHelpdesk.Desk.Words

/-!
# Visitors who come back

A conversation is at home while its stored origin, the country of its ticket and the identities of
its visitor are those it was created with, or say the same.

* `Home`: origin, scope and customer of a conversation;
* `Fair`: a step that does not lead away from it;
* `AtHome`: the invariant;
* `visitor_comes_back`: **along a fair run no call of the visitor is refused, the conversation keeps
  tenant, channel and customer, and every other origin is refused**;
* `written_origin_locks_out`: a visitor who writes another origin into the body.
-/

namespace NexusHelpdesk.Visitors

open Lib Customers Snapshots

/-- where a conversation was created, and for whom. -/
structure Home where
  origin : Text
  tenantKey : Text
  channelKey : Text
  countryCode : Text
  tenantId : ℕ
  customerId : ℕ
deriving DecidableEq, Repr

section Props
variable (env : VisitorEnv) (h : Home) (k : ℕ)

/-- the home of the conversation under key `k`, as its rows show it. -/
def homeOf (d : VisitorDb) : Option Home := do
  let c ← d.conversations.get? k
  let control ← d.controls k
  let origin ← c.origin
  let countryCode ← control.countryCode
  let tenantId ← env.tenant (env.lower (PyStr.stripChars c.tenantKey))
  let customerId ← control.customerId
  return ⟨origin, c.tenantKey, c.channelKey, countryCode, tenantId, customerId⟩

def FromHome (req : Request) : Prop := requestPublicOrigin env req = .ok (some h.origin)

/-- the call names no other tenant and no other channel. -/
def Names (requested : Requested) : Prop :=
  PyStr.stripChars requested.tenantKey ∈ [[], "default".toList, h.tenantKey] ∧
    PyStr.stripChars requested.channelKey ∈ [[], "default".toList, h.channelKey]

def Fits (db : IdentityDb) (i : CustomerIdentity) : Prop :=
  ∃ j, normalizeCustomerIdentity env.toIdentityEnv (kindName i.kind) i.value = .ok j ∧
    ∀ x, boundCustomer db (some h.tenantId) j = some x → x = h.customerId

def Owned (db : IdentityDb) (i : CustomerIdentity) : Prop :=
  ∃ j, normalizeCustomerIdentity env.toIdentityEnv (kindName i.kind) i.value = .ok j ∧
    boundCustomer db (some h.tenantId) j = some h.customerId

def Candidate (p : CustomerIdentity → Prop) (x : IdentityKind × Option Text) : Prop :=
  ∀ raw, given x.2 = some raw →
    ∃ i, normalizeCustomerIdentity env.toIdentityEnv (kindName x.1) raw = .ok i ∧ p i

/-- the body names the origin of the home if it names one, and no identity of another customer. -/
structure FairPayload (d : VisitorDb) (payload : Payload) (req : Request) : Prop where
  origin : ∀ x, originFromRequest env req payload.origin = .ok (some x) →
    normalizePublicOrigin env (some x) = .ok (some h.origin)
  phone : Candidate env (Fits env h d.identity) (.phone, clip payload.visitorPhone 80)
  email : Candidate env (Fits env h d.identity) (.email, clip payload.visitorEmail 200)
  ref : Candidate env (Fits env h d.identity) (.externalRef, clip payload.visitorRef 160)

def SameCountry (ticket : Ticket) : Prop :=
  normalizeCountryCode env ticket.countryCode = .ok (some h.countryCode)

/-- a step that does not lead away: what the visitor writes, and the tickets of the conversation. -/
def Fair (d : VisitorDb) (e : VisitorEvent) : Prop :=
  match e with
  | .init k' _ _ payload req => k' = some k → FromHome env h req → payload.tokenValid = true →
    FairPayload env h d payload req
  | .message _ _ _ _ => True
  | .createTicket _ => True
  | .linkTicket k' i => k' = k → ∀ t, d.tickets.get? i = some t → SameCountry env h t
  | .editTicket i t => ((d.conversations.get? k).bind (·.ticketId) = some i) → SameCountry env h t

def Welcome (d : VisitorDb) (e : VisitorEvent) : Prop :=
  match e with
  | .init k' requested publicId payload req => k' = some k → FromHome env h req →
    payload.tokenValid = true → Names h requested →
    ∃ r, initWebchat env k' requested publicId payload req d = .ok r
  | .message k' tokenValid channelKey req => k' = k → FromHome env h req → tokenValid = true →
    Names h ⟨h.tenantKey, channelKey⟩ →
    sendWebchatMessage env k' tokenValid channelKey req d = .ok ()
  | _ => True

/-- the conversation keeps tenant, channel and customer, and the other origins are refused. -/
structure Kept (d : VisitorDb) : Prop where
  row : ∃ c, d.conversations.get? k = some c ∧ c.tenantKey = h.tenantKey ∧
    c.channelKey = h.channelKey
  control : ∃ r, d.controls k = some r ∧ r.tenantKey = h.tenantKey ∧
    r.channelKey = h.channelKey ∧ r.customerId = some h.customerId
  init : ∀ req origin, requestPublicOrigin env req = .ok (some origin) → origin ≠ h.origin →
    ∀ requested publicId payload,
      ∃ e, initWebchat env (some k) requested publicId payload req d = .error e
  message : ∀ req origin, requestPublicOrigin env req = .ok (some origin) → origin ≠ h.origin →
    ∀ tokenValid channelKey,
      ∃ e, sendWebchatMessage env k tokenValid channelKey req d = .error e

/-! ## the invariant -/

/-- what the home rests on: the binding of the origin, and the tenant. -/
structure Founded : Prop where
  scope : ∃ b, env.binding h.origin = some b ∧
    normalizeScopeKey b.tenantKey "tenant".toList = .ok h.tenantKey ∧
    normalizeCountryCode env b.countryCode = .ok (some h.countryCode) ∧
    normalizeScopeKey b.channelKey "channel".toList = .ok h.channelKey
  tenant : env.tenant (env.lower (PyStr.stripChars h.tenantKey)) = some h.tenantId
  active : env.scopeValid (some h.tenantId) = true

def Conversation.candidates (c : Conversation) : List (IdentityKind × Option Text) :=
  [(.phone, c.visitorPhone), (.email, c.visitorEmail), (.externalRef, c.visitorRef),
    (.externalRef, some c.publicId)]

structure AtHome (d : VisitorDb) (c : Conversation) : Prop where
  row : d.conversations.get? k = some c
  tenantKey : c.tenantKey = h.tenantKey
  channelKey : c.channelKey = h.channelKey
  origin : normalizePublicOrigin env c.origin = .ok (some h.origin)
  control : d.controls k = some ⟨some h.customerId, h.tenantKey, some h.countryCode, h.channelKey⟩
  customer : tenantOf d.identity h.customerId = some (some h.tenantId)
  owned : ∀ x ∈ c.candidates, Candidate env (Owned env h d.identity) x
  ticket : ∀ i, c.ticketId = some i → ∃ t, d.tickets.get? i = some t ∧ SameCountry env h t

end Props

section Texts
variable {env : VisitorEnv} {t v : Text}

lemma isSpace_of_scopeChar {c : Char} (hc : isScopeChar c = true) : PyStr.isSpace c = false := by
  have hrange : 32 < c.toNat ∧ c.toNat < 127 := by
    unfold isScopeChar at hc
    rw [Bool.or_eq_true] at hc
    rcases hc with hc | hc
    · simp only [Char.isAlphanum, Char.isAlpha, Char.isUpper, Char.isLower, Char.isDigit,
        Bool.or_eq_true, Bool.and_eq_true, decide_eq_true_eq, ge_iff_le,
        UInt32.le_iff_toNat_le] at hc
      have hval : c.toNat = c.val.toNat := rfl
      have hupper : 'A'.toNat = 65 ∧ 'Z'.toNat = 90 := ⟨rfl, rfl⟩
      have hlower : 'a'.toNat = 97 ∧ 'z'.toNat = 122 := ⟨rfl, rfl⟩
      have hdigit : '0'.toNat = 48 ∧ '9'.toNat = 57 := ⟨rfl, rfl⟩
      norm_num at hc
      omega
    · simp at hc
      rcases hc with rfl | rfl | rfl | rfl <;> decide
  unfold PyStr.isSpace
  simp
  omega

lemma normalizeCountryCode_idem {value : Option Text}
    (ht : normalizeCountryCode env value = .ok (some t)) :
    normalizeCountryCode env (some t) = .ok (some t) := by
  unfold normalizeCountryCode at ht
  dsimp only at ht
  split at ht
  · cases ht
  · rename_i hne
    split at ht
    · rename_i hform
      cases ht
      generalize env.upper (PyStr.stripChars (value.getD [])) = text at hne hform
      have hstrip : PyStr.stripChars text = text := by
        refine PyStr.stripChars_of_trim (PyStr.Solid.trim fun c hc => isSpace_of_scopeChar ?_)
        have hupper := List.all_eq_true.1 hform.2 c hc
        simp [isScopeChar, Char.isAlphanum, Char.isAlpha, hupper]
      unfold normalizeCountryCode
      dsimp only [Option.getD_some]
      rw [hstrip, env.upper_of_upper text hform.2, if_neg hne, if_pos hform]
    · cases ht

end Texts

/-! ## identities -/

section Bindings
variable {env : IdentityEnv} {db db' : IdentityDb} {t : Option ℕ} {j : CustomerIdentity}
  {c tenantId : ℕ} {kind value : Text}

lemma grows_save (c : ℕ) : Grows db ((db.applyProfile j c).bind t j c) :=
  (grows_applyProfile c).trans (grows_bind c)

lemma bound_save (hnone : findBinding db t j = none) (c : ℕ) :
    boundCustomer ((db.applyProfile j c).bind t j c) t j = some c :=
  bound_bind_self hnone c

lemma bound_of_save {t' : Option ℕ} {i : CustomerIdentity} {x : ℕ}
    (hx : boundCustomer ((db.applyProfile j c).bind t j c) t' i = some x) :
    boundCustomer db t' i = some x ∨ x = c := by
  unfold boundCustomer at hx ⊢
  rw [findBinding_bind, findBinding_applyProfile] at hx
  cases hb : findBinding db t' i with
  | some b =>
    rw [hb] at hx
    exact .inl hx
  | none =>
    rw [hb] at hx
    refine .inr ?_
    dsimp only [Option.none_or] at hx
    split at hx
    · cases hx
      rfl
    · cases hx

lemma bind_ok (hb : bindCustomerIdentity env db c kind value = .ok db') :
    Grows db db' ∧ (∃ t j, tenantOf db c = some t ∧
      normalizeCustomerIdentity env kind value = .ok j ∧ boundCustomer db' t j = some c) ∧
    ∀ t' i x, boundCustomer db' t' i = some x → boundCustomer db t' i = some x ∨ x = c := by
  unfold bindCustomerIdentity bindStart at hb
  cases hrow : db.customers.get? c with
  | none =>
    rw [hrow, finish_raised] at hb
    cases hb
  | some row =>
    rw [hrow] at hb
    dsimp only at hb
    split at hb
    · rw [finish_raised] at hb
      cases hb
    · cases hn : normalizeCustomerIdentity env kind value with
      | error code =>
        rw [hn, finish_raised] at hb
        cases hb
      | ok j =>
        rw [hn] at hb
        dsimp only at hb
        have htenant : tenantOf db c = some row.tenantId := by
          unfold tenantOf
          rw [hrow]
          rfl
        cases hf : findBinding db row.tenantId j with
        | some b =>
          rw [hf] at hb
          dsimp only at hb
          split at hb
          · rename_i hsame
            rw [finish_returned] at hb
            cases hb
            refine ⟨grows_applyProfile c, ⟨row.tenantId, j, htenant, rfl, ?_⟩, fun t' i x => .inl⟩
            show (findBinding db row.tenantId j).map _ = some c
            rw [hf, ← hsame]
            rfl
          · rw [finish_raised] at hb
            cases hb
        | none =>
          rw [hf] at hb
          unfold finish perform at hb
          dsimp only at hb
          unfold bindSave at hb
          rw [hf] at hb
          cases hb
          exact ⟨grows_save c, ⟨row.tenantId, j, htenant, rfl, bound_save hf c⟩,
            fun t' i x => bound_of_save⟩

lemma bind_fits (htenant : tenantOf db c = some t) (hscope : env.scopeValid t = true)
    (hn : normalizeCustomerIdentity env kind value = .ok j)
    (hfits : ∀ x, boundCustomer db t j = some x → x = c) :
    ∃ db', bindCustomerIdentity env db c kind value = .ok db' := by
  obtain ⟨row, hrow, rfl⟩ := Option.map_eq_some_iff.1 htenant
  unfold bindCustomerIdentity bindStart
  rw [hrow]
  dsimp only
  rw [if_neg (by rw [hscope]; nofun), hn]
  dsimp only
  cases hf : findBinding db row.tenantId j with
  | some b =>
    have hsame : b.customerId = c := by
      refine hfits _ ?_
      unfold boundCustomer
      rw [hf]
      rfl
    dsimp only
    rw [if_pos hsame, finish_returned]
    exact ⟨_, rfl⟩
  | none =>
    unfold finish perform
    dsimp only
    unfold bindSave
    rw [hf]
    exact ⟨_, rfl⟩

lemma returnBound_tenant {b : IdentityBinding} (hb : findBinding db t j = some b)
    {fuel : ℕ} (hr : finish db fuel (returnBound db j b) = .ok (c, db')) :
    Grows db db' ∧ tenantOf db' c = some t := by
  obtain ⟨hbt, -, -⟩ := get?_of_findBinding hb
  unfold returnBound at hr
  split at hr
  · rename_i row hrow
    split at hr
    · rename_i hsame
      rw [finish_returned] at hr
      cases hr
      refine ⟨grows_applyProfile _, ?_⟩
      rw [tenantOf_applyProfile]
      unfold tenantOf
      rw [hrow, ← hbt, ← hsame]
      rfl
    · rw [finish_raised] at hr
      cases hr
  · rw [finish_raised] at hr
    cases hr

lemma resolve_ok (hr : resolveOrCreateCustomer env db tenantId kind value = .ok (c, db')) :
    Grows db db' ∧ tenantOf db' c = some (some tenantId) ∧
      env.scopeValid (some tenantId) = true := by
  unfold resolveOrCreateCustomer resolveStart at hr
  by_cases hscope : env.scopeValid (some tenantId) = false
  · rw [if_pos hscope, finish_raised] at hr
    cases hr
  · rw [if_neg hscope] at hr
    have hactive : env.scopeValid (some tenantId) = true := by
      simpa using hscope
    cases hn : normalizeCustomerIdentity env kind value with
    | error code =>
      rw [hn, finish_raised] at hr
      cases hr
    | ok j =>
      rw [hn] at hr
      dsimp only at hr
      cases hb : findBinding db (some tenantId) j with
      | some b =>
        rw [hb] at hr
        obtain ⟨hg, ht⟩ := returnBound_tenant hb hr
        exact ⟨hg, ht, hactive⟩
      | none =>
        rw [hb] at hr
        change finish db 1 (legacyLookup db (some tenantId) j) = .ok (c, db') at hr
        unfold legacyLookup at hr
        cases hl : legacyCandidates db (some tenantId) j with
        | nil =>
          rw [hl] at hr
          change finish db 0 (resolveSave db (some tenantId) j none) = .ok (c, db') at hr
          unfold resolveSave at hr
          rw [hb] at hr
          cases hr
          refine ⟨grows_createCustomer.trans (grows_save _), ?_, hactive⟩
          refine (@grows_save (db.createCustomer (some tenantId)).2 _ _ _).tenants _ _ ?_
          show ((db.customers.insert _).get? db.customers.next).map _ = _
          rw [Table.get?_insert_self]
          rfl
        | cons x rest =>
          have hx : x ∈ legacyCandidates db (some tenantId) j := by
            rw [hl]
            exact List.mem_cons_self ..
          obtain ⟨row, hrow, htenant, -⟩ := mem_legacyCandidates hx
          cases rest with
          | nil =>
            rw [hl] at hr
            change finish db 0 (resolveSave db (some tenantId) j (some x)) = .ok (c, db') at hr
            unfold resolveSave at hr
            rw [hb] at hr
            cases hr
            refine ⟨grows_save _, (grows_save _).tenants _ _ ?_, hactive⟩
            unfold tenantOf
            rw [hrow, ← htenant]
            rfl
          | cons y rest =>
            rw [hl] at hr
            cases hr

end Bindings

section Identities
variable {env : VisitorEnv} {h : Home} {db db' : IdentityDb} {p : CustomerIdentity → Prop}
  {i : CustomerIdentity} {x : IdentityKind × Option Text} {email phone ref : Option Text}
  {publicId : Text} {l : List (IdentityKind × Option Text)} {c : ℕ} {ids : List CustomerIdentity}

lemma Candidate.imp {q : CustomerIdentity → Prop} (hx : Candidate env p x) (himp : ∀ i, p i → q i) :
    Candidate env q x := by
  intro raw hraw
  obtain ⟨i, hi, hp⟩ := hx raw hraw
  exact ⟨i, hi, himp i hp⟩

lemma Owned.fits (ho : Owned env h db i) : Fits env h db i := by
  obtain ⟨j, hj, hb⟩ := ho
  refine ⟨j, hj, fun x hx => ?_⟩
  rw [hb] at hx
  exact (Option.some.inj hx).symm

lemma Owned.grows (ho : Owned env h db i) (hg : Grows db db') : Owned env h db' i := by
  obtain ⟨j, hj, hb⟩ := ho
  exact ⟨j, hj, hg.bound _ _ _ hb⟩

lemma collect_ok (seen : List CustomerIdentity) (hl : ∀ x ∈ l, Candidate env p x)
    (hseen : ∀ i ∈ seen, p i) :
    ∃ ids, collectIdentities env seen l = .ok ids ∧ ∀ i ∈ ids, p i := by
  induction l generalizing seen with
  | nil => exact ⟨seen.reverse, rfl, fun i hi => hseen i (List.mem_reverse.1 hi)⟩
  | cons x rest ih =>
    have hrest := fun y hy => hl y (List.mem_cons_of_mem _ hy)
    obtain ⟨kind, value⟩ := x
    unfold collectIdentities
    cases hraw : given value with
    | none => exact ih seen hrest hseen
    | some raw =>
      obtain ⟨i, hi, hp⟩ := hl (kind, value) (List.mem_cons_self ..) raw hraw
      dsimp only
      rw [hi]
      refine ih _ hrest fun i' hi' => ?_
      split at hi'
      · exact hseen i' hi'
      · rcases List.mem_cons.1 hi' with rfl | hold
        · exact hp
        · exact hseen i' hold

lemma collect_mem {seen ids : List CustomerIdentity} (hc : collectIdentities env seen l = .ok ids) :
    (∀ i ∈ seen, i ∈ ids) ∧ ∀ x ∈ l, Candidate env (· ∈ ids) x := by
  induction l generalizing seen with
  | nil =>
    cases hc
    exact ⟨fun i hi => List.mem_reverse.2 hi, fun x hx => by cases hx⟩
  | cons x rest ih =>
    obtain ⟨kind, value⟩ := x
    unfold collectIdentities at hc
    cases hraw : given value with
    | none =>
      rw [hraw] at hc
      obtain ⟨hseen, hrest⟩ := ih hc
      refine ⟨hseen, fun y hy => ?_⟩
      rcases List.mem_cons.1 hy with rfl | hy
      · intro raw hr
        rw [hraw] at hr
        cases hr
      · exact hrest y hy
    | some raw =>
      rw [hraw] at hc
      dsimp only at hc
      cases hn : normalizeCustomerIdentity env.toIdentityEnv (kindName kind) raw with
      | error code =>
        rw [hn] at hc
        cases hc
      | ok i =>
        rw [hn] at hc
        obtain ⟨hseen, hrest⟩ := ih hc
        have hi : i ∈ ids := by
          by_cases hmem : i ∈ seen
          · rw [if_pos hmem] at hseen
            exact hseen i hmem
          · rw [if_neg hmem] at hseen
            exact hseen i (List.mem_cons_self ..)
        refine ⟨fun i' hi' => ?_, fun y hy => ?_⟩
        · by_cases hmem : i ∈ seen
          · rw [if_pos hmem] at hseen
            exact hseen i' hi'
          · rw [if_neg hmem] at hseen
            exact hseen i' (List.mem_cons_of_mem _ hi')
        · rcases List.mem_cons.1 hy with rfl | hy
          · intro raw' hr
            rw [hraw] at hr
            cases hr
            exact ⟨i, hn, hi⟩
          · exact hrest y hy

lemma bindAll_ok (hb : bindAll env c ids db = .ok db') :
    Grows db db' ∧ ∀ i ∈ ids, ∃ t j, tenantOf db c = some t ∧
      normalizeCustomerIdentity env.toIdentityEnv (kindName i.kind) i.value = .ok j ∧
      boundCustomer db' t j = some c := by
  induction ids generalizing db with
  | nil =>
    cases hb
    exact ⟨⟨fun _ _ ht => ht, fun _ _ _ hc => hc⟩, fun i hi => by cases hi⟩
  | cons i rest ih =>
    unfold bindAll at hb
    split at hb
    · cases hb
    · rename_i db₁ hone
      obtain ⟨hg₁, ⟨t, j, ht, hj, hbound⟩, -⟩ := bind_ok hone
      obtain ⟨hg, hrest⟩ := ih hb
      refine ⟨⟨fun d t' ht' => hg.tenants d t' (hg₁.tenants d t' ht'),
        fun t' i' d hd => hg.bound t' i' d (hg₁.bound t' i' d hd)⟩, fun i' hi' => ?_⟩
      rcases List.mem_cons.1 hi' with rfl | hi'
      · exact ⟨t, j, ht, hj, hg.bound _ _ _ hbound⟩
      · obtain ⟨t', j', ht', hj', hb'⟩ := hrest i' hi'
        refine ⟨t', j', ?_, hj', hb'⟩
        rw [hg₁.tenants c t ht] at ht'
        rw [ht, ht']

lemma bindAll_fits (hactive : env.scopeValid (some h.tenantId) = true)
    (htenant : tenantOf db h.customerId = some (some h.tenantId))
    (hids : ∀ i ∈ ids, Fits env h db i) : ∃ db', bindAll env h.customerId ids db = .ok db' := by
  induction ids generalizing db with
  | nil => exact ⟨db, rfl⟩
  | cons i rest ih =>
    obtain ⟨j, hj, hfree⟩ := hids i (List.mem_cons_self ..)
    obtain ⟨db₁, hone⟩ := bind_fits htenant hactive hj hfree
    obtain ⟨hg₁, -, hback⟩ := bind_ok hone
    unfold bindAll
    rw [hone]
    refine ih (hg₁.tenants _ _ htenant) fun i' hi' => ?_
    obtain ⟨j', hj', hfree'⟩ := hids i' (List.mem_cons_of_mem _ hi')
    refine ⟨j', hj', fun x hx => ?_⟩
    rcases hback _ _ x hx with hold | rfl
    · exact hfree' x hold
    · rfl

lemma bindWebchatIdentities_ok
    (hb : bindWebchatIdentities env c email phone ref publicId db = .ok db') :
    Grows db db' ∧ ∀ t, tenantOf db c = some t →
      ∀ x ∈ [(.phone, phone), (.email, email), (.externalRef, ref), (.externalRef, some publicId)],
        Candidate env (fun i => ∃ j,
        normalizeCustomerIdentity env.toIdentityEnv (kindName i.kind) i.value = .ok j ∧
        boundCustomer db' t j = some c) x := by
  unfold bindWebchatIdentities at hb
  cases hc : webchatIdentities env email phone ref publicId with
  | error code =>
    rw [hc] at hb
    cases hb
  | ok ids =>
    rw [hc] at hb
    change (bindAll env c ids db).mapError _ = .ok db' at hb
    cases hall : bindAll env c ids db with
    | error code =>
      rw [hall] at hb
      cases hb
    | ok db₁ =>
      rw [hall] at hb
      cases hb
      obtain ⟨hg, hbound⟩ := bindAll_ok hall
      refine ⟨hg, fun t ht x hx => ?_⟩
      refine ((collect_mem hc).2 x hx).imp fun i hi => ?_
      obtain ⟨t', j, ht', hj, hb'⟩ := hbound i hi
      rw [ht] at ht'
      cases ht'
      exact ⟨j, hj, hb'⟩

lemma bindWebchatIdentities_fits (hactive : env.scopeValid (some h.tenantId) = true)
    (htenant : tenantOf db h.customerId = some (some h.tenantId))
    (hx : ∀ x ∈ [(.phone, phone), (.email, email), (.externalRef, ref),
      (.externalRef, some publicId)], Candidate env (Fits env h db) x) :
    ∃ db', bindWebchatIdentities env h.customerId email phone ref publicId db = .ok db' := by
  obtain ⟨ids, hc, hids⟩ := collect_ok [] hx nofun
  obtain ⟨db', hall⟩ := bindAll_fits hactive htenant hids
  refine ⟨db', ?_⟩
  unfold bindWebchatIdentities
  rw [show webchatIdentities env email phone ref publicId = .ok ids from hc]
  show (bindAll env h.customerId ids db).mapError _ = _
  rw [hall]
  rfl

end Identities

/-! ## scopes -/

def Home.scope (h : Home) : Scope where
  tenantKey := h.tenantKey
  countryCode := some h.countryCode
  channelKey := h.channelKey
  normalizedOrigin := some h.origin

section Scopes
variable {env : VisitorEnv} {h : Home} {k : ℕ} {d : VisitorDb} {c : Conversation} {req : Request}
  {requested : Requested} {scope : Scope}

lemma AtHome.country (hh : AtHome env h k d c) (hf : Founded env h) :
    conversationCountryCode env d k c = .ok (some h.countryCode) := by
  obtain ⟨b, -, -, hcountry, -⟩ := hf.scope
  unfold conversationCountryCode ticketOf
  cases hi : c.ticketId with
  | none =>
    rw [hh.control]
    exact normalizeCountryCode_idem hcountry
  | some i =>
    obtain ⟨t, ht, hsame⟩ := hh.ticket i hi
    dsimp only [Option.bind_some]
    rw [ht]
    exact hsame

lemma AtHome.checkScope (hh : AtHome env h k d c) (hf : Founded env h) :
    checkScope env d k c h.scope = .ok () := by
  unfold Visitors.checkScope
  rw [hh.origin, hh.country hf]
  show (if _ then _ else _) = _
  rw [if_neg (by simp [hh.tenantKey, hh.channelKey, Home.scope])]

lemma Founded.bindingScope (hf : Founded env h) (hn : Names h requested) :
    ∃ b, env.binding h.origin = some b ∧
      bindingScope env b (some h.origin) requested.tenantKey requested.channelKey =
        .ok h.scope := by
  obtain ⟨b, hb, htenant, hcountry, hchannel⟩ := hf.scope
  refine ⟨b, hb, ?_⟩
  unfold Visitors.bindingScope
  rw [htenant, hcountry, hchannel]
  show (if _ then _ else if _ then _ else _) = _
  rw [if_neg (not_not.2 hn.1), if_neg (not_not.2 hn.2)]
  rfl

lemma AtHome.resolve (hh : AtHome env h k d c) (hf : Founded env h) (hreq : FromHome env h req)
    (hn : Names h requested) (authorized : Bool) :
    resolvePublicWebchatScope env d req requested.tenantKey requested.channelKey (some k)
      authorized = .ok h.scope := by
  obtain ⟨b, hb, hscope⟩ := hf.bindingScope hn
  have hexisting : ((some k).bind fun k => (d.conversations.get? k).map fun c => (k, c)) =
      some (k, c) := by
    rw [Option.bind_some, hh.row]
    rfl
  have horigin : scopeOrigin env req (if authorized then some c else none) =
      .ok (some h.origin) := by
    unfold scopeOrigin
    rw [hreq]
    cases authorized with
    | false => rfl
    | true =>
      show (normalizePublicOrigin env c.origin >>= _) = _
      rw [hh.origin]
      show (if _ then _ else _) = _
      rw [if_neg (by simp)]
      rfl
  unfold resolvePublicWebchatScope
  rw [hexisting]
  dsimp only [Option.map_some]
  rw [horigin]
  dsimp only [bind, Except.bind]
  rw [Option.bind_some, hb]
  dsimp only
  rw [hscope]
  dsimp only
  rw [hh.checkScope hf]
  rfl

lemma bindingScope_ok {b : OriginBinding} {origin : Option Text}
    {requestedTenant requestedChannel : Text}
    (h : bindingScope env b origin requestedTenant requestedChannel = .ok scope) :
    ∃ tenantKey countryCode channelKey,
      normalizeScopeKey b.tenantKey "tenant".toList = .ok tenantKey ∧
      normalizeCountryCode env b.countryCode = .ok (some countryCode) ∧
      normalizeScopeKey b.channelKey "channel".toList = .ok channelKey ∧
      scope = ⟨tenantKey, some countryCode, channelKey, origin⟩ := by
  unfold Visitors.bindingScope at h
  obtain ⟨tenantKey, hkey, h⟩ := bind_eq_ok.1 h
  obtain ⟨country, hcountry, h⟩ := bind_eq_ok.1 h
  obtain ⟨channelKey, hchannel, h⟩ := bind_eq_ok.1 h
  cases country with
  | none => cases h
  | some countryCode =>
    refine ⟨tenantKey, countryCode, channelKey, hkey, hcountry, hchannel, ?_⟩
    split at h
    · cases h
    · split at h
      · cases h
      · split at h
        · cases h
        · exact (Except.ok.inj h).symm

lemma AtHome.of_resolve (hh : AtHome env h k d c) (hf : Founded env h) {authorized : Bool}
    {tenantKey channelKey : Text}
    (hok : resolvePublicWebchatScope env d req tenantKey channelKey (some k) authorized =
      .ok scope) :
    scope = h.scope ∧ (authorized = false → FromHome env h req) ∧
      ∀ origin, requestPublicOrigin env req = .ok (some origin) → origin = h.origin := by
  have hexisting : ((some k).bind fun k => (d.conversations.get? k).map fun c => (k, c)) =
      some (k, c) := by
    rw [Option.bind_some, hh.row]
    rfl
  unfold resolvePublicWebchatScope at hok
  rw [hexisting] at hok
  obtain ⟨origin, horigin, hok⟩ := bind_eq_ok.1 hok
  split at hok
  · cases hok
  · rename_i b hb
    obtain ⟨found, hfound, hok⟩ := bind_eq_ok.1 hok
    obtain ⟨_, hcheck, hok⟩ := bind_eq_ok.1 hok
    cases hok
    have hnormal : scope.normalizedOrigin = origin := by
      obtain ⟨_, _, _, -, -, -, rfl⟩ := bindingScope_ok hfound
      rfl
    unfold Visitors.checkScope at hcheck
    rw [hh.origin, hh.country hf] at hcheck
    change (if _ then _ else _) = _ at hcheck
    split at hcheck
    · cases hcheck
    · rename_i hsame
      rw [not_or, not_or, not_or, not_not, not_not, not_not, not_not] at hsame
      obtain ⟨ht, hc, ho, hcountry⟩ := hsame
      rw [hh.tenantKey] at ht
      rw [hh.channelKey] at hc
      have hscope : scope = h.scope := by
        obtain ⟨_, _, _, _⟩ := scope
        dsimp only at ht hc ho hcountry
        rw [← ht, ← hc, ← ho, ← hcountry]
        rfl
      rw [hnormal] at ho
      subst ho
      unfold scopeOrigin at horigin
      obtain ⟨requestOrigin, hrequest, horigin⟩ := bind_eq_ok.1 horigin
      cases authorized with
      | false =>
        cases horigin
        refine ⟨hscope, fun _ => hrequest, fun origin ho => ?_⟩
        rw [hrequest] at ho
        cases ho
        rfl
      | true =>
        refine ⟨hscope, nofun, fun origin ho => ?_⟩
        rw [hrequest] at ho
        cases ho
        change (normalizePublicOrigin env c.origin >>= _) = _ at horigin
        rw [hh.origin] at horigin
        change (if _ then _ else _) = _ at horigin
        split at horigin
        · cases horigin
        · rename_i hne
          by_contra hother
          exact hne ⟨rfl, by simpa using hother⟩

end Scopes

/-! ## calls from home -/

section Calls
variable {env : VisitorEnv} {h : Home} {k k' : ℕ} {d d' : VisitorDb} {c : Conversation}
  {req : Request} {requested : Requested} {payload : Payload} {publicId : Text}

lemma originFromRequest_ok (hreq : FromHome env h req) (explicitOrigin : Option Text) :
    ∃ x, originFromRequest env req explicitOrigin = .ok x := by
  unfold FromHome requestPublicOrigin at hreq
  unfold originFromRequest
  cases given explicitOrigin with
  | some origin => exact ⟨_, rfl⟩
  | none =>
    cases horigin : given req.origin with
    | some origin => exact ⟨_, rfl⟩
    | none =>
      cases hreferer : given req.referer with
      | none => exact ⟨_, rfl⟩
      | some referer =>
        rw [horigin, hreferer] at hreq
        obtain ⟨found, hfound, -⟩ := bind_eq_ok.1 hreq
        dsimp only
        rw [hfound]
        cases found with
        | none => exact ⟨_, rfl⟩
        | some origin => exact ⟨_, rfl⟩

lemma candidate_or {p : CustomerIdentity → Prop} {kind : IdentityKind} {a b : Option Text}
    (ha : Candidate env p (kind, a)) (hb : Candidate env p (kind, b)) :
    Candidate env p (kind, a.or b) := by
  cases a with
  | none => exact hb
  | some v => exact ha

lemma AtHome.frame (hh : AtHome env h k d c) (hg : Grows d.identity d'.identity)
    (htickets : d'.tickets = d.tickets)
    (hrow : d'.conversations.get? k = d.conversations.get? k)
    (hcontrol : d'.controls k = d.controls k) : AtHome env h k d' c where
  row := hrow.trans hh.row
  tenantKey := hh.tenantKey
  channelKey := hh.channelKey
  origin := hh.origin
  control := hcontrol.trans hh.control
  customer := hg.tenants _ _ hh.customer
  owned := fun x hx => (hh.owned x hx).imp fun i hi => hi.grows hg
  ticket := by
    rw [htickets]
    exact hh.ticket

lemma AtHome.assertScope (hh : AtHome env h k d c) : assertResumeScope d h.scope h.tenantId c
    ⟨some h.customerId, h.tenantKey, some h.countryCode, h.channelKey⟩ = .ok () := by
  have hcustomer : (((some h.customerId).or (historicalCustomerId d c)).bind
      d.identity.customers.get?).map (·.tenantId) = some (some h.tenantId) := hh.customer
  unfold assertResumeScope
  dsimp only
  rw [if_neg (by simp [Home.scope]), if_neg (not_not.2 hcustomer)]

lemma AtHome.takeBack (hh : AtHome env h k d c) (hf : Founded env h) (hreq : FromHome env h req)
    (hp : FairPayload env h d payload req) :
    ∃ d' c', takeBack env d k c (some h.customerId) payload req = .ok d' ∧
      AtHome env h k d' c' := by
  have hfits : ∀ x ∈ (c.resumed payload req none).candidates,
      Candidate env (Fits env h d.identity) x := by
    have hown : ∀ x ∈ c.candidates, Candidate env (Fits env h d.identity) x :=
      fun x hx => (hh.owned x hx).imp fun i hi => hi.fits
    intro x hx
    simp only [Conversation.candidates, Conversation.resumed, List.mem_cons, List.not_mem_nil,
      or_false] at hx
    rcases hx with rfl | rfl | rfl | rfl
    · exact candidate_or hp.phone (hown _ (by simp [Conversation.candidates]))
    · exact candidate_or hp.email (hown _ (by simp [Conversation.candidates]))
    · exact candidate_or hp.ref (hown _ (by simp [Conversation.candidates]))
    · exact hown _ (by simp [Conversation.candidates])
  obtain ⟨db', hbind⟩ := bindWebchatIdentities_fits hf.active hh.customer hfits
  obtain ⟨hg, howned⟩ := bindWebchatIdentities_ok hbind
  obtain ⟨origin, horigin⟩ := originFromRequest_ok hreq payload.origin
  have hthere : (some h.customerId).filter (fun id => (d.identity.customers.get? id).isSome) =
      some h.customerId := by
    obtain ⟨row, hrow, -⟩ := Option.map_eq_some_iff.1 hh.customer
    rw [Option.filter_some, if_pos (by rw [hrow]; rfl)]
  have hrebind : rebind env d (some h.customerId) (c.resumed payload req none) = .ok db' := by
    unfold rebind
    rw [hthere]
    exact hbind
  have hok : Visitors.takeBack env d k c (some h.customerId) payload req = .ok { d with
      identity := db'
      conversations := d.conversations.set k (c.resumed payload req origin) } := by
    unfold Visitors.takeBack
    rw [hrebind, horigin]
    rfl
  refine ⟨_, c.resumed payload req origin, hok,
    { row := ?_
      tenantKey := hh.tenantKey
      channelKey := hh.channelKey
      origin := ?_
      control := hh.control
      customer := hg.tenants _ _ hh.customer
      owned := fun x hx => howned _ hh.customer x hx
      ticket := hh.ticket }⟩
  · show (d.conversations.set k _).get? k = some _
    rw [Table.get?_set, if_pos rfl, hh.row]
    rfl
  · cases origin with
    | none => exact hh.origin
    | some x => exact hp.origin x horigin

lemma AtHome.resume (hh : AtHome env h k d c) (hf : Founded env h) (hreq : FromHome env h req)
    (htoken : payload.tokenValid = true) (hp : FairPayload env h d payload req) :
    ∃ d' c', resumeConversation env d h.scope h.tenantId k c payload req = .ok d' ∧
      AtHome env h k d' c' := by
  have hcontrol : ensuredControl d h.scope k c (historicalCustomerId d c) =
      ⟨some h.customerId, h.tenantKey, some h.countryCode, h.channelKey⟩ := by
    unfold ensuredControl
    rw [hh.control]
    dsimp only
    rw [hh.tenantKey, hh.channelKey]
    unfold given Home.scope
    rw [Option.filter_some]
    split <;> rfl
  set d₁ := d.setControl k ⟨some h.customerId, h.tenantKey, some h.countryCode, h.channelKey⟩
    with hd₁
  have hh₁ : AtHome env h k d₁ c := by
    refine hh.frame ⟨fun _ _ ht => ht, fun _ _ _ hb => hb⟩ rfl rfl ?_
    rw [hh.control]
    exact Function.update_self ..
  have hp₁ : FairPayload env h d₁ payload req := ⟨hp.origin, hp.phone, hp.email, hp.ref⟩
  obtain ⟨d', c', hok, hh'⟩ := hh₁.takeBack hf hreq hp₁
  refine ⟨d', c', ?_, hh'⟩
  have hcheck : checkControl d h.scope h.tenantId k c = .ok () := by
    unfold checkControl
    rw [hh.control]
    exact hh.assertScope
  unfold resumeConversation
  dsimp only
  rw [if_pos htoken, hcontrol, hcheck]
  show (assertResumeScope d₁ h.scope h.tenantId c _ >>= _) = _
  rw [hh₁.assertScope]
  exact hok

lemma Founded.relationalTenant (hf : Founded env h) :
    relationalTenant env h.scope = .ok h.tenantId := by
  unfold Visitors.relationalTenant Home.scope
  dsimp only
  rw [hf.tenant]

lemma AtHome.init_eq (hh : AtHome env h k d c) (hf : Founded env h)
    (hscope : resolvePublicWebchatScope env d req requested.tenantKey requested.channelKey (some k)
      false = .ok h.scope) :
    initWebchat env (some k) requested publicId payload req d =
      (resumeConversation env d h.scope h.tenantId k c payload req >>= fun d => .ok (k, d)) := by
  unfold initWebchat
  rw [hscope]
  show (Visitors.relationalTenant env h.scope >>= _) = _
  rw [hf.relationalTenant]
  dsimp only [bind, Except.bind]
  rw [Option.bind_some, hh.row]
  rfl

/-- an init call that returns came from home with the token, and the conversation stays at home. -/
lemma AtHome.init_ok (hh : AtHome env h k d c) (hf : Founded env h) {k' : ℕ}
    (hfair : FromHome env h req → payload.tokenValid = true → FairPayload env h d payload req)
    (hok : initWebchat env (some k) requested publicId payload req d = .ok (k', d')) :
    ∃ c', AtHome env h k d' c' := by
  obtain ⟨scope, hscope, -⟩ := bind_eq_ok.1 hok
  obtain ⟨rfl, hfrom, -⟩ := hh.of_resolve hf hscope
  rw [hh.init_eq hf hscope] at hok
  obtain ⟨d₁, hresume, hok⟩ := bind_eq_ok.1 hok
  cases hok
  have htoken : payload.tokenValid = true := by
    by_contra hno
    unfold resumeConversation at hresume
    rw [if_neg hno] at hresume
    cases hresume
  obtain ⟨d₂, c', hagain, hh'⟩ := hh.resume hf (hfrom rfl) htoken (hfair (hfrom rfl) htoken)
  cases hagain.symm.trans hresume
  exact ⟨c', hh'⟩

end Calls

/-! ## calls of others -/

section Others
variable {env : VisitorEnv} {h : Home} {k k' : ℕ} {d d' : VisitorDb} {c : Conversation}
  {req : Request} {requested : Requested} {payload : Payload} {publicId : Text} {scope : Scope}
  {tenantId customerId : ℕ} {identity : IdentityDb}

lemma grows_refl (db : IdentityDb) : Grows db db := ⟨fun _ _ ht => ht, fun _ _ _ hb => hb⟩

lemma resume_frame (hok : resumeConversation env d scope tenantId k' c payload req = .ok d') :
    Grows d.identity d'.identity ∧ d'.tickets = d.tickets ∧ ∀ k, k ≠ k' →
      d'.conversations.get? k = d.conversations.get? k ∧ d'.controls k = d.controls k := by
  unfold resumeConversation at hok
  split at hok
  · obtain ⟨_, -, hok⟩ := bind_eq_ok.1 hok
    obtain ⟨_, -, hok⟩ := bind_eq_ok.1 hok
    unfold takeBack at hok
    obtain ⟨db', hrebind, hok⟩ := bind_eq_ok.1 hok
    obtain ⟨origin, -, hok⟩ := bind_eq_ok.1 hok
    cases hok
    refine ⟨?_, rfl, fun k hk => ⟨Table.get?_modify_of_ne _ _ hk, Function.update_of_ne hk _ _⟩⟩
    unfold rebind at hrebind
    split at hrebind
    · exact (bindWebchatIdentities_ok hrebind).1
    · cases hrebind
      exact grows_refl _
  · cases hok

lemma resolveWebchatCustomer_ok {email phone ref : Option Text} {db db' : IdentityDb}
    (hok : resolveWebchatCustomer env tenantId email phone ref publicId db =
      .ok (customerId, db')) :
    Grows db db' ∧ env.scopeValid (some tenantId) = true ∧
      tenantOf db' customerId = some (some tenantId) ∧
      ∀ x ∈ [(.phone, phone), (.email, email), (.externalRef, ref), (.externalRef, some publicId)],
        Candidate env (fun i => ∃ j,
          normalizeCustomerIdentity env.toIdentityEnv (kindName i.kind) i.value = .ok j ∧
          boundCustomer db' (some tenantId) j = some customerId) x := by
  unfold resolveWebchatCustomer at hok
  obtain ⟨ids, -, hok⟩ := bind_eq_ok.1 hok
  split at hok
  · cases hok
  · rename_i first rest
    obtain ⟨⟨customerId', db₁⟩, hresolve, hok⟩ := bind_eq_ok.1 hok
    obtain ⟨db₂, hbind, hok⟩ := bind_eq_ok.1 hok
    cases hok
    cases hr : resolveOrCreateCustomer env.toIdentityEnv db tenantId (kindName first.kind)
        first.value with
    | error code =>
      rw [hr] at hresolve
      cases hresolve
    | ok r =>
      rw [hr] at hresolve
      cases hresolve
      obtain ⟨hg, htenant, hactive⟩ := resolve_ok hr
      obtain ⟨hg', howned⟩ := bindWebchatIdentities_ok hbind
      exact ⟨hg.trans hg', hactive, hg'.tenants _ _ htenant, howned _ htenant⟩

lemma createConversation_ok
    (hok : createConversation env d scope tenantId publicId payload req = .ok (k', d')) :
    k' = d.conversations.next ∧ ∃ customerId identity c,
      d' = { d with
        identity := identity
        conversations := d.conversations.insert c
        controls := Function.update d.controls k'
          (some ⟨some customerId, scope.tenantKey, scope.countryCode, scope.channelKey⟩) } ∧
      c.tenantKey = scope.tenantKey ∧ c.channelKey = scope.channelKey ∧
      c.origin = scope.normalizedOrigin ∧ c.ticketId = none ∧
      resolveWebchatCustomer env tenantId c.visitorEmail c.visitorPhone c.visitorRef c.publicId
        d.identity = .ok (customerId, identity) := by
  unfold createConversation at hok
  obtain ⟨⟨customerId, identity⟩, hresolve, hok⟩ := bind_eq_ok.1 hok
  obtain ⟨_, -, hok⟩ := bind_eq_ok.1 hok
  cases hok
  exact ⟨rfl, customerId, identity, _, rfl, rfl, rfl, rfl, rfl, hresolve⟩

lemma init_frame {target : Option ℕ} (hrow : d.conversations.get? k = some c)
    (hother : target ≠ some k)
    (hok : initWebchat env target requested publicId payload req d = .ok (k', d')) :
    Grows d.identity d'.identity ∧ d'.tickets = d.tickets ∧
      d'.conversations.get? k = d.conversations.get? k ∧ d'.controls k = d.controls k := by
  obtain ⟨scope, -, hok⟩ := bind_eq_ok.1 hok
  obtain ⟨tenantId, -, hok⟩ := bind_eq_ok.1 hok
  split at hok
  · rename_i k₁ c₁ hfound
    obtain ⟨d₁, hresume, hok⟩ := bind_eq_ok.1 hok
    cases hok
    have hne : k ≠ k' := by
      obtain ⟨k₂, rfl, hk₂⟩ := Option.bind_eq_some_iff.1 hfound
      obtain ⟨c₂, -, hpair⟩ := Option.map_eq_some_iff.1 hk₂
      cases hpair
      exact fun heq => hother (by rw [heq])
    obtain ⟨hg, htickets, hrest⟩ := resume_frame hresume
    exact ⟨hg, htickets, hrest k hne⟩
  · obtain ⟨rfl, customerId, identity, row, rfl, -, -, -, -, hresolve⟩ := createConversation_ok hok
    have hne : k ≠ d.conversations.next := (Table.lt_next hrow).ne
    exact ⟨(resolveWebchatCustomer_ok hresolve).1, rfl, Table.get?_insert_of_ne _ _ hne,
      Function.update_of_ne hne _ _⟩

lemma init_new (hcanon : ∀ o b, env.binding o = some b →
      normalizePublicOrigin env (some o) = .ok (some o))
    (hok : initWebchat env none requested publicId payload req d = .ok (k', d')) :
    ∃ h c, homeOf env k' d' = some h ∧ FromHome env h req ∧ Founded env h ∧
      AtHome env h k' d' c := by
  obtain ⟨scope, hscope, hok⟩ := bind_eq_ok.1 hok
  obtain ⟨tenantId, htenant, hok⟩ := bind_eq_ok.1 hok
  obtain ⟨rfl, customerId, identity, c, rfl, hct, hcc, hco, hci, hresolve⟩ :=
    createConversation_ok hok
  obtain ⟨-, hactive, hcustomer, howned⟩ := resolveWebchatCustomer_ok hresolve
  obtain ⟨origin, horigin, hscope⟩ := bind_eq_ok.1 hscope
  have hrequest : requestPublicOrigin env req = .ok origin := by
    unfold scopeOrigin at horigin
    obtain ⟨found, hfound, horigin⟩ := bind_eq_ok.1 horigin
    cases horigin
    exact hfound
  split at hscope
  · cases hscope
  · rename_i b hb
    obtain ⟨o, rfl, hb⟩ := Option.bind_eq_some_iff.1 hb
    obtain ⟨found, hfound, hscope⟩ := bind_eq_ok.1 hscope
    cases hscope
    obtain ⟨tenantKey, countryCode, channelKey, hkey, hcountry, hchannel, rfl⟩ :=
      bindingScope_ok hfound
    have hprincipal : env.tenant (env.lower (PyStr.stripChars tenantKey)) = some tenantId := by
      unfold Visitors.relationalTenant at htenant
      split at htenant
      · rename_i id hid
        cases htenant
        exact hid
      · cases htenant
    have hrow : (d.conversations.insert c).get? d.conversations.next = some c :=
      Table.get?_insert_self ..
    have hcontrol : Function.update d.controls d.conversations.next (some (⟨some customerId,
        tenantKey, some countryCode, channelKey⟩ : Control)) d.conversations.next =
        some ⟨some customerId, tenantKey, some countryCode, channelKey⟩ :=
      Function.update_self ..
    refine ⟨⟨o, tenantKey, channelKey, countryCode, tenantId, customerId⟩, c, ?_, hrequest,
      ⟨⟨b, hb, hkey, hcountry, hchannel⟩, hprincipal, hactive⟩, ?_⟩
    · unfold homeOf
      dsimp only
      rw [hrow, hcontrol]
      simp only [Option.bind_eq_bind, Option.bind_some, hco, hct, hcc, hprincipal]
      rfl
    · refine
        { row := hrow
          tenantKey := hct
          channelKey := hcc
          origin := ?_
          control := hcontrol
          customer := hcustomer
          owned := howned
          ticket := ?_ }
      · rw [hco]
        exact hcanon o b hb
      · intro i hi
        rw [hci] at hi
        cases hi

end Others

/-! ## runs -/

section Runs
variable {env : VisitorEnv} {h : Home} {k : ℕ} {d : VisitorDb} {c : Conversation}

lemma AtHome.step (hh : AtHome env h k d c) (hf : Founded env h) {e : VisitorEvent}
    (hfair : Fair env h k d e) : ∃ c', AtHome env h k (visitorStep env e d) c' := by
  cases e with
  | init target requested publicId payload req =>
    unfold visitorStep
    dsimp only
    cases hok : initWebchat env target requested publicId payload req d with
    | error e => exact ⟨c, hh⟩
    | ok r =>
      obtain ⟨k', d'⟩ := r
      by_cases hk : target = some k
      · subst hk
        exact hh.init_ok hf (hfair rfl) hok
      · obtain ⟨hg, htickets, hrow, hcontrol⟩ := init_frame hh.row hk hok
        exact ⟨c, hh.frame hg htickets hrow hcontrol⟩
  | message k' tokenValid channelKey req => exact ⟨c, hh⟩
  | createTicket ticket =>
    refine ⟨c, { hh with ticket := ?_ }⟩
    intro i hi
    obtain ⟨t, ht, hsame⟩ := hh.ticket i hi
    exact ⟨t, Table.get?_insert_of_some _ ht, hsame⟩
  | linkTicket k' i =>
    unfold visitorStep
    dsimp only
    split
    · rename_i hsome
      obtain ⟨t, ht⟩ := Option.isSome_iff_exists.1 hsome
      by_cases hk : k' = k
      · subst hk
        refine ⟨c.link i, { hh with row := ?_, ticket := ?_ }⟩
        · show (d.conversations.modify k' _).get? k' = _
          rw [Table.get?_modify_self, hh.row]
          rfl
        · intro i' hi'
          cases hi'
          exact ⟨t, ht, hfair rfl t ht⟩
      · refine ⟨c, { hh with row := ?_ }⟩
        show (d.conversations.modify k' _).get? k = _
        rw [Table.get?_modify_of_ne _ _ (Ne.symm hk), hh.row]
    · exact ⟨c, hh⟩
  | editTicket i ticket =>
    refine ⟨c, { hh with ticket := ?_ }⟩
    intro i' hi'
    obtain ⟨t, ht, hsame⟩ := hh.ticket i' hi'
    show ∃ t, (d.tickets.set i ticket).get? i' = some t ∧ _
    rw [Table.get?_set, ht]
    by_cases hi : i' = i
    · subst hi
      rw [if_pos rfl]
      refine ⟨ticket, rfl, hfair ?_⟩
      rw [hh.row]
      exact hi'
    · rw [if_neg hi]
      exact ⟨t, rfl, hsame⟩

lemma AtHome.welcome (hh : AtHome env h k d c) (hf : Founded env h) {e : VisitorEvent}
    (hfair : Fair env h k d e) : Welcome env h k d e := by
  cases e with
  | init target requested publicId payload req =>
    intro hk hreq htoken hnames
    subst hk
    obtain ⟨d', c', hok, -⟩ := hh.resume hf hreq htoken (hfair rfl hreq htoken)
    refine ⟨(k, d'), ?_⟩
    rw [hh.init_eq hf (hh.resolve hf hreq hnames false), hok]
    rfl
  | message k' tokenValid channelKey req =>
    intro hk hreq htoken hnames
    subst hk
    have hscope := hh.resolve hf hreq hnames true
    unfold sendWebchatMessage
    rw [hh.row]
    dsimp only
    rw [if_pos htoken, hh.tenantKey, hscope]
    rfl
  | createTicket ticket => trivial
  | linkTicket k' i => trivial
  | editTicket i ticket => trivial

lemma AtHome.kept (hh : AtHome env h k d c) (hf : Founded env h) : Kept env h k d where
  row := ⟨c, hh.row, hh.tenantKey, hh.channelKey⟩
  control := ⟨_, hh.control, rfl, rfl, rfl⟩
  init := by
    intro req origin hreq hne requested publicId payload
    cases hok : initWebchat env (some k) requested publicId payload req d with
    | error e => exact ⟨e, rfl⟩
    | ok r =>
      obtain ⟨scope, hscope, -⟩ := bind_eq_ok.1 hok
      exact absurd ((hh.of_resolve hf hscope).2.2 origin hreq) hne
  message := by
    intro req origin hreq hne tokenValid channelKey
    unfold sendWebchatMessage
    rw [hh.row]
    dsimp only
    split
    · cases hscope : resolvePublicWebchatScope env d req c.tenantKey channelKey (some k) true with
      | error e => exact ⟨e, rfl⟩
      | ok scope => exact absurd ((hh.of_resolve hf hscope).2.2 origin hreq) hne
    · exact ⟨_, rfl⟩

lemma along_home (hf : Founded env h) (hh : AtHome env h k d c) {l : List VisitorEvent}
    (hfair : Along (visitorStep env) (Fair env h k) d l) :
    Along (visitorStep env) (fun d e => Welcome env h k d e ∧ Kept env h k d) d l ∧
      Kept env h k (run (visitorStep env) d l) := by
  induction l generalizing d c with
  | nil => exact ⟨trivial, hh.kept hf⟩
  | cons e l ih =>
    obtain ⟨hnow, hlater⟩ := along_cons.1 hfair
    obtain ⟨c', hh'⟩ := hh.step hf hnow
    obtain ⟨hl, hend⟩ := ih hh' hlater
    exact ⟨⟨⟨hh.welcome hf hnow, hh.kept hf⟩, hl⟩, hend⟩

theorem visitor_comes_back (env : VisitorEnv)
    (hcanon : ∀ o b, env.binding o = some b → normalizePublicOrigin env (some o) = .ok (some o))
    (d₀ d : VisitorDb) (requested : Requested) (publicId : Text) (payload : Payload)
    (req : Request) (k : ℕ)
    (hcreated : initWebchat env none requested publicId payload req d₀ = .ok (k, d)) :
    ∃ h, homeOf env k d = some h ∧ FromHome env h req ∧ ∀ l : List VisitorEvent,
      Along (visitorStep env) (Fair env h k) d l →
      Along (visitorStep env) (fun d e => Welcome env h k d e ∧ Kept env h k d) d l ∧
        Kept env h k (run (visitorStep env) d l) := by
  obtain ⟨h, c, hhome, hfrom, hf, hh⟩ := init_new hcanon hcreated
  exact ⟨h, hhome, hfrom, fun l hl => along_home hf hh hl⟩

end Runs

/-! ## a shop -/

/-- `urlparse` of `https://` and a host. -/
def parseHttps (text : Text) : Option ParsedUrl :=
  if text.take 8 = "https://".toList then
    some ⟨"https".toList, text.drop 8, some (text.drop 8), .ok none, none, none, [], [], [], []⟩
  else some ⟨[], [], none, .ok none, none, none, text, [], [], []⟩

def shopOrigin : Text := "https://shop.example".toList

/-- one binding; the texts are in lower case, the country is in upper case. -/
def shopEnv : VisitorEnv where
  lower := id
  casefold := id
  digit := fun c => c.isDigit
  scopeValid := fun _ => true
  upper := id
  upper_of_upper := fun _ _ => rfl
  urlparse := parseHttps
  binding := fun o =>
    if o = shopOrigin then some ⟨"acme".toList, some "CH".toList, "web".toList⟩ else none
  tenant := fun key => if key = "acme".toList then some 1 else none

def shopRequest : Request := ⟨some shopOrigin, none, none⟩

def bodyOf (email origin : Option Text) : Payload := ⟨true, none, email, none, none, origin, none⟩

def openShop : VisitorEvent :=
  .init none ⟨[], []⟩ "wc_1".toList (bodyOf (some "a@x".toList) none) shopRequest

def openedShop : VisitorDb :=
  visitorStep shopEnv openShop ⟨IdentityDb.empty, Table.empty, Table.empty, fun _ => none⟩

def resumeShop (email origin : Option Text) : VisitorEvent :=
  .init (some 1) ⟨[], []⟩ [] (bodyOf email origin) shopRequest

def messageShop : VisitorEvent := .message 1 true [] shopRequest

theorem visitor_comes_back_shop : ∃ h, homeOf shopEnv 1 openedShop = some h ∧
    Along (visitorStep shopEnv) (fun d e => Welcome shopEnv h 1 d e ∧ Kept shopEnv h 1 d)
      openedShop [messageShop, resumeShop (some "a@x".toList) (some shopOrigin), messageShop] := by
  have hcanon : ∀ o b, shopEnv.binding o = some b →
      normalizePublicOrigin shopEnv (some o) = .ok (some o) := by
    intro o b hb
    change (if o = shopOrigin then _ else none) = some b at hb
    split at hb
    · rename_i ho
      rw [ho]
      decide +kernel
    · cases hb
  obtain ⟨h, hhome, -, hruns⟩ := visitor_comes_back shopEnv hcanon
    ⟨IdentityDb.empty, Table.empty, Table.empty, fun _ => none⟩ openedShop ⟨[], []⟩ "wc_1".toList
    (bodyOf (some "a@x".toList) none) shopRequest 1 rfl
  have hfair : Along (visitorStep shopEnv) (Fair shopEnv h 1) openedShop
      [messageShop, resumeShop (some "a@x".toList) (some shopOrigin), messageShop] := by
    refine ⟨trivial, ?_, trivial, trivial⟩
    cases hhome
    intro _ _ _
    refine ⟨?_, nofun, ?_, nofun⟩
    · intro x hx
      cases hx
      exact hcanon _ _ rfl
    · intro raw hraw
      cases hraw
      refine ⟨_, rfl, _, rfl, fun x hx => ?_⟩
      cases hx
      rfl
  exact ⟨h, hhome, (hruns _ hfair).1⟩

theorem written_origin_locks_out :
    (∃ h, homeOf shopEnv 1 openedShop = some h ∧
      ¬Along (visitorStep shopEnv) (Welcome shopEnv h 1) openedShop
        [resumeShop none (some "https://other.example".toList), messageShop]) ∧
    ∃ h, homeOf shopEnv 1 openedShop = some h ∧
      ¬Along (visitorStep shopEnv) (Welcome shopEnv h 1) openedShop
        [.createTicket ⟨some 1, none⟩, .linkTicket 1 1, messageShop] := by
  constructor
  · refine ⟨_, rfl, ?_⟩
    intro hl
    have hok := hl.2.1 rfl rfl rfl ⟨by decide, by decide⟩
    cases hok
  · refine ⟨_, rfl, ?_⟩
    intro hl
    have hok := hl.2.2.1 rfl rfl rfl ⟨by decide, by decide⟩
    cases hok

end NexusHelpdesk.Visitors
