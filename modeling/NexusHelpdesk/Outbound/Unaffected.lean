import NexusHelpdesk.Outbound.Restriction

/-!
# A restriction stops its own messages only

* `DispatchOk`: no dispatch raises because of a restriction, the messages that a restriction has
  stopped end dead or with the call that had started, and the dispatcher goes on as if the
  restricted messages did not exist (`hide`);
* `Undisturbed`: a restriction finds no message of its customer in processing, and those pending are
  on tickets of its tenant;
* `DispatchInv`, `dispatchInv_step`, `hide_step`: what every such step preserves;
* `restriction_alone`: **in every run of such steps every state is in order**;
* `restriction_poisons`: a message in processing stops the dispatch of all customers.
-/

namespace NexusHelpdesk.Outbound

open Lib

variable (env : GuardEnv)

/-! ## the property -/

/-- a restricted message: its customer is restricted, and no person has written it. -/
def hidden (rs : List ProcessingRestriction) (m : OutboundMessage) : Bool :=
  unattended m && ofRestricted env rs m

def hide (w : DispatchWorld) : DispatchWorld :=
  { w with messages := w.messages.filter fun _ m => !hidden env w.restrictions m }

/-- dead, or with the result of a provider call that had started. -/
def Ended (s : StoppedMessage) (m : OutboundMessage) : Prop :=
  m.status = .dead ∨ (s.called = true ∧ (m.status = .processing ∨ m.status = .sent))

structure DispatchOk (w : DispatchWorld) : Prop where
  quiet : Refusal.restricted ∉ w.raised
  ended : ∀ s ∈ w.stopped, ∃ m, w.messages.get? s.id = some m ∧ Ended s m
  alone : ∀ i : DispatchStep, i.dispatches = true →
    hide env (dispatchStep env i w) = dispatchStep env i (hide env w)

def Undisturbed (w : DispatchWorld) (i : DispatchStep) : Prop :=
  match i with
  | .activate tenantId customerId _ => ∀ id m, w.messages.get? id = some m →
      unattended m = true → concerns env customerId m = true →
        m.status ≠ .processing ∧
          (m.status = .pending → (env.scope m.ticketId).tenantId = some tenantId)
  | .create m => privacyHandoff m = false
  | _ => True

/-! ## the invariant -/

structure DispatchInv (w : DispatchWorld) : Prop where
  idle : ∀ id m, w.messages.get? id = some m → hidden env w.restrictions m = true →
    m.status ≠ .pending ∧ m.status ≠ .processing
  stopped : ∀ s ∈ w.stopped, ∃ m, w.messages.get? s.id = some m ∧ m.status = .dead
  quiet : Refusal.restricted ∉ w.raised

/-- what a restriction looks at stays. -/
def SameKind (m m' : OutboundMessage) : Prop :=
  unattended m' = unattended m ∧ m'.ticketId = m.ticketId

/-- only rows that wait or are being processed are written. -/
def Rewrites (t : Table OutboundMessage) (g : ℕ → OutboundMessage → OutboundMessage) : Prop :=
  ∀ id m, t.get? id = some m →
    g id m = m ∨ ((m.status = .pending ∨ m.status = .processing) ∧ SameKind m (g id m))

section Rows
variable {env} {rs : List ProcessingRestriction} {m m' : OutboundMessage} {now : Instant}
  {token : String} {t : Table OutboundMessage} {g : ℕ → OutboundMessage → OutboundMessage}

lemma SameKind.hidden (h : SameKind m m') : hidden env rs m' = hidden env rs m := by
  unfold Outbound.hidden ofRestricted
  rw [h.1, h.2]

lemma sameKind_markRetry (reason : String) (code : Option String) :
    SameKind m (markRetry now reason code m) := by
  unfold markRetry
  dsimp only
  split
  · exact ⟨rfl, rfl⟩
  · exact ⟨rfl, rfl⟩

lemma sameKind_lapsed : SameKind m (lapsed now m) := sameKind_markRetry ..

lemma refusal_ne_restricted (h : hidden env rs m = false) :
    refusal env rs m ≠ some .restricted := by
  unfold refusal
  by_cases hb : (env.bindingViolation m).isSome = true
  · rw [if_pos hb]
    exact fun he => Refusal.noConfusion (Option.some.inj he)
  · rw [if_neg hb, if_neg]
    · exact (Option.some_ne_none _).symm
    · intro hg
      unfold outboundRequiresGuard automaticOutbound at hg
      rw [Bool.and_eq_true, Bool.and_eq_true, Bool.and_eq_true] at hg
      unfold hidden at h
      rw [hg.1.2.2, hg.2] at h
      cases h

lemma holdsLease_written {o : AttemptOutcome} (h : o.written now m = .ok m') :
    holdsLease token m' = false := by
  have hsettled : Settled m' := by
    cases o with
    | sent ps at' pid rp =>
      cases h
      exact settled_markSent ..
    | retryable reason code =>
      cases h
      exact settled_markRetry ..
    | final reason code =>
      cases h
      exact settled_markDead ..
    | raised typeName => cases h
  unfold holdsLease
  rw [hsettled.1]
  rfl

variable (env) (rs) (m) (now) (token) in
lemma finished_cases (o : AttemptOutcome) :
    finished env now token o rs m = .ok m ∨
      (holdsLease token m = true ∧ ∃ reason,
        finished env now token o rs m =
          match refusal env rs (markRetry now reason none m) with
          | some e => .error e
          | none => .ok (markRetry now reason none m)) := by
  unfold finished
  cases hw : o.written now m >>= flushed env rs with
  | ok m₁ =>
    obtain ⟨m₂, hm₂, hf⟩ := bind_eq_ok.1 hw
    have hsame : m₁ = m₂ := by
      unfold flushed at hf
      cases hr : refusal env rs m₂ with
      | some e =>
        rw [hr] at hf
        cases hf
      | none =>
        rw [hr] at hf
        cases hf
        rfl
    refine Or.inl ?_
    show Except.ok (if holdsLease token m₁ = true then m₁ else m) = Except.ok m
    rw [hsame, holdsLease_written hm₂]
    rfl
  | error typeName =>
    dsimp only
    by_cases hl : holdsLease token m = true
    · rw [if_pos hl]
      exact Or.inr ⟨hl, _, rfl⟩
    · rw [if_neg hl]
      exact Or.inl rfl

lemma status_of_holdsLease (h : holdsLease token m = true) : m.status = .processing := by
  unfold holdsLease at h
  rw [Bool.and_eq_true, beq_iff_eq, beq_iff_eq] at h
  exact h.2

lemma filter_rewrites (h : Rewrites t g) :
    (t.mapRows g).filter (fun _ m => !hidden env rs m) =
      (t.filter fun _ m => !hidden env rs m).mapRows g := by
  refine t.filter_mapRows ?_
  intro id m hrow
  rcases h id m hrow with heq | ⟨_, hkind⟩
  · rw [heq]
  · rw [hkind.hidden]

end Rows

section Invariant
variable {env} {w w' : DispatchWorld} {m m' : OutboundMessage} {now : Instant} {token : String}
  {id : ℕ} {limit : Option ℕ} {g : ℕ → OutboundMessage → OutboundMessage}
  {t : Table OutboundMessage} {p : ℕ → OutboundMessage → Bool}

lemma DispatchInv.shown (h : DispatchInv env w) (hrow : w.messages.get? id = some m)
    (hs : m.status = .pending ∨ m.status = .processing) :
    hidden env w.restrictions m = false := by
  by_contra hne
  have hidle := h.idle id m hrow (Bool.eq_true_of_not_eq_false hne)
  rcases hs with hs | hs
  · exact hidle.1 hs
  · exact hidle.2 hs

lemma DispatchInv.rewrites (h : DispatchInv env w) (hg : Rewrites w.messages g)
    (hm : w'.messages = w.messages.mapRows g) (hr : w'.restrictions = w.restrictions)
    (hs : w'.stopped = w.stopped) (hq : Refusal.restricted ∉ w'.raised) : DispatchInv env w' := by
  constructor
  · intro id m' hrow hhid
    rw [hm, Table.get?_mapRows] at hrow
    obtain ⟨m, hm, rfl⟩ := Option.map_eq_some_iff.1 hrow
    rw [hr] at hhid
    rcases hg id m hm with heq | ⟨hlive, hkind⟩
    · rw [heq] at hhid ⊢
      exact h.idle id m hm hhid
    · rw [hkind.hidden, h.shown hm hlive] at hhid
      cases hhid
  · intro s hmem
    rw [hs] at hmem
    obtain ⟨m, hrow, hdead⟩ := h.stopped s hmem
    refine ⟨m, ?_, hdead⟩
    rw [hm, Table.get?_mapRows, hrow]
    rcases hg s.id m hrow with heq | ⟨hlive, _⟩
    · exact congrArg some heq
    · rw [hdead] at hlive
      rcases hlive with hp | hp <;> cases hp
  · exact hq

lemma DispatchInv.same (h : DispatchInv env w) (hm : w'.messages = w.messages)
    (hr : w'.restrictions = w.restrictions) (hs : w'.stopped = w.stopped)
    (hq : Refusal.restricted ∉ w'.raised) : DispatchInv env w' := by
  refine h.rewrites (g := fun _ m => m) (fun _ _ _ => Or.inl rfl) ?_ hr hs hq
  rw [hm]
  ext i : 1
  · rfl
  · rw [Table.get?_mapRows]
    cases w.messages.get? i with
    | none => rfl
    | some m => rfl

lemma dispatchInv_start (t : Table OutboundMessage) : DispatchInv env (.start t) := by
  constructor
  · intro id m _ hhid
    unfold hidden at hhid
    rw [Bool.and_eq_true] at hhid
    cases hhid.2
  · intro s hs
    cases hs
  · intro hq
    cases hq

/-! ### the two transactions before the loop -/

lemma rewrites_reclaim (limit : Option ℕ) (t : Table OutboundMessage) (ids : List ℕ)
    (hids : ∀ id ∈ ids, ∀ m, t.get? id = some m → m.status = .processing) :
    Rewrites t fun id m => if id ∈ ids then lapsed now m else m := by
  intro id m hrow
  by_cases hid : id ∈ ids
  · dsimp only
    rw [if_pos hid]
    exact Or.inr ⟨Or.inr (hids id hid m hrow), sameKind_lapsed⟩
  · exact Or.inl (if_neg hid)

lemma mem_batch {n : ℕ} {r : ℕ × OutboundMessage} (h : r ∈ (orderByCreatedAt (t.select p)).take n) :
    t.get? r.1 = some r.2 ∧ p r.1 r.2 = true :=
  t.mem_select.1 ((List.mem_insertionSort _).1 (List.mem_of_mem_take h))

lemma stale_processing {c : Settings} (h : isStaleProcessing c now m = true) :
    m.status = .processing := by
  unfold isStaleProcessing at h
  rw [Bool.and_eq_true, Bool.and_eq_true, beq_iff_eq] at h
  exact h.1.2

lemma claimable_pending {c : Settings} (h : isClaimable c now m = true) : m.status = .pending := by
  unfold isClaimable at h
  rw [Bool.and_eq_true, Bool.and_eq_true, Bool.and_eq_true, beq_iff_eq] at h
  exact h.1.1.2

lemma DispatchInv.select_hide (h : DispatchInv env w)
    (hp : ∀ id m, p id m = true → m.status = .pending ∨ m.status = .processing) :
    (hide env w).messages.select p = w.messages.select p := by
  refine w.messages.select_filter ?_
  intro id m hrow hpm
  rw [h.shown hrow (hp id m hpm)]
  rfl

lemma DispatchInv.reclaimStale_eq (h : DispatchInv env w) (now : Instant) (limit : Option ℕ) :
    (∃ e, reclaimStale env now limit w.restrictions w.messages = .error e ∧ e ≠ .restricted ∧
        reclaimStale env now limit w.restrictions (hide env w).messages = .error e) ∨
      ∃ g, reclaimStale env now limit w.restrictions w.messages = .ok (w.messages.mapRows g) ∧
        Rewrites w.messages g ∧
        reclaimStale env now limit w.restrictions (hide env w).messages =
          .ok ((hide env w).messages.mapRows g) := by
  have hselect := h.select_hide (p := fun _ m => isStaleProcessing env.settings now m)
    (fun _ _ hs => Or.inr (stale_processing hs))
  unfold reclaimStale
  dsimp only
  rw [hselect]
  cases hfind : List.findSome? (fun r => refusal env w.restrictions (lapsed now r.2))
      ((orderByCreatedAt (w.messages.select fun _ m => isStaleProcessing env.settings now m)).take
        (batchLimit env.settings limit)) with
  | some e =>
    refine Or.inl ⟨e, rfl, ?_, rfl⟩
    obtain ⟨r, hmem, href⟩ := List.exists_of_findSome?_eq_some hfind
    obtain ⟨hrow, hstale⟩ := mem_batch hmem
    have hshown := h.shown hrow (Or.inr (stale_processing hstale))
    intro he
    rw [he] at href
    exact refusal_ne_restricted (sameKind_lapsed.hidden.trans hshown) href
  | none =>
    refine Or.inr ⟨_, rfl, ?_, rfl⟩
    refine rewrites_reclaim limit _ _ ?_
    intro id hid m hrow
    obtain ⟨r, hmem, rfl⟩ := List.mem_map.1 hid
    obtain ⟨hr, hstale⟩ := mem_batch hmem
    rw [hrow] at hr
    cases hr
    exact stale_processing hstale

lemma DispatchInv.claimedIds_hide (h : DispatchInv env w) (now : Instant) (limit : Option ℕ) :
    claimedIds env now limit (hide env w).messages = claimedIds env now limit w.messages := by
  unfold claimedIds
  rw [h.select_hide (fun _ _ hs => Or.inl (claimable_pending hs))]

lemma rewrites_claim (env : GuardEnv) (now : Instant) (limit : Option ℕ) (token : String)
    (t : Table OutboundMessage) :
    Rewrites t fun id m => if id ∈ claimedIds env now limit t then leased now token m else m := by
  intro id m hrow
  by_cases hid : id ∈ claimedIds env now limit t
  · dsimp only
    rw [if_pos hid]
    obtain ⟨r, hmem, rfl⟩ := List.mem_map.1 hid
    obtain ⟨hr, hclaim⟩ := mem_batch hmem
    rw [hrow] at hr
    cases hr
    exact Or.inr ⟨Or.inl (claimable_pending hclaim), rfl, rfl⟩
  · exact Or.inl (if_neg hid)

/-! ### one message -/

lemma rewrites_one (hrow : t.get? id = some m) (hs : m.status = .processing)
    (hkind : SameKind m m') :
    Rewrites t fun j a => if j = id then m' else a := by
  intro j a ha
  by_cases hj : j = id
  · subst hj
    rw [hrow] at ha
    cases ha
    dsimp only
    rw [if_pos rfl]
    exact Or.inr ⟨Or.inr hs, hkind⟩
  · exact Or.inl (if_neg hj)

lemma rewrite_eq (f : OutboundMessage → OutboundMessage) :
    (w.rewrite id f).messages = w.messages.mapRows fun j a => if j = id then f a else a :=
  w.messages.modify_eq_mapRows id f

lemma DispatchInv.rewrite (h : DispatchInv env w) (hrow : w.messages.get? id = some m)
    (hs : m.status = .processing) (hkind : SameKind m m') :
    DispatchInv env (w.rewrite id fun _ => m') :=
  h.rewrites (rewrites_one hrow hs hkind) (rewrite_eq _) rfl rfl h.quiet

lemma hide_rewrite (hrow : w.messages.get? id = some m) (hs : m.status = .processing)
    (hkind : SameKind m m') :
    hide env (w.rewrite id fun _ => m') = (hide env w).rewrite id fun _ => m' := by
  unfold hide DispatchWorld.rewrite
  dsimp only
  rw [Table.modify_eq_mapRows, Table.modify_eq_mapRows,
    filter_rewrites (rewrites_one hrow hs hkind)]

lemma rewrite_self (hrow : w.messages.get? id = some m) : (w.rewrite id fun _ => m) = w := by
  unfold DispatchWorld.rewrite
  have hsame : (w.messages.modify id fun _ => m) = w.messages := by
    ext j : 1
    · rfl
    · rw [Table.get?_modify]
      by_cases hj : j = id
      · rw [if_pos hj, hj, hrow]
        rfl
      · rw [if_neg hj]
  rw [hsame]

lemma get?_hide (hrow : w.messages.get? id = some m) :
    (hide env w).messages.get? id = if hidden env w.restrictions m = true then none else some m := by
  cases hh : hidden env w.restrictions m with
  | true =>
    rw [if_pos rfl]
    refine Table.get?_filter_of_neg _ hrow ?_
    rw [hh]
    rfl
  | false =>
    rw [if_neg (by decide)]
    refine Table.get?_filter_of_pos _ hrow ?_
    rw [hh]
    rfl

lemma get?_hide_none (hrow : w.messages.get? id = none) :
    (hide env w).messages.get? id = none := by
  unfold hide
  rw [Table.get?_filter, hrow]
  rfl

lemma DispatchInv.leased_shown (h : DispatchInv env w) (hrow : w.messages.get? id = some m)
    (hl : holdsLease token m = true) : (hide env w).messages.get? id = some m := by
  rw [get?_hide hrow, h.shown hrow (Or.inr (status_of_holdsLease hl)), if_neg (by decide)]

lemma DispatchInv.go (h : DispatchInv env w) (token : String) (p : DispatchPhase) :
    DispatchInv env (w.go token p) := h.same rfl rfl rfl h.quiet

lemma DispatchInv.raise (h : DispatchInv env w) (token : String) {e : Refusal}
    (he : e ≠ .restricted) : DispatchInv env (w.raise token e) := by
  refine h.same rfl rfl rfl ?_
  intro hmem
  rcases List.mem_cons.1 hmem with heq | hmem
  · exact he heq.symm
  · exact h.quiet hmem

lemma get?_rewrite (hrow : w.messages.get? id = some m) (m' : OutboundMessage) :
    (w.rewrite id fun _ => m').messages.get? id = some m' := by
  show (w.messages.modify id _).get? id = _
  rw [Table.get?_modify_self, hrow]
  rfl

lemma DispatchInv.startAttempt (h : DispatchInv env w) (hrow : w.messages.get? id = some m)
    (hs : m.status = .processing) (token : String) (now : Instant) (todo : List ℕ) :
    DispatchInv env (startAttempt env w token now id todo m) ∧
      hide env (startAttempt env w token now id todo m) =
        startAttempt env (hide env w) token now id todo m := by
  unfold Outbound.startAttempt
  cases messageDispatchBlockReason env.settings m with
  | none => exact ⟨h.same rfl rfl rfl h.quiet, rfl⟩
  | some b =>
    obtain ⟨failureCode, reason⟩ := b
    have hkind : SameKind m (markDead now reason failureCode m) := ⟨rfl, rfl⟩
    have hshown := hkind.hidden.trans (h.shown hrow (Or.inr hs))
    show DispatchInv env (match refusal env w.restrictions (markDead now reason failureCode m) with
        | some e => w.raise token e
        | none => (w.rewrite id _).go token _) ∧
      hide env (match refusal env w.restrictions (markDead now reason failureCode m) with
        | some e => w.raise token e
        | none => (w.rewrite id _).go token _) =
      match refusal env w.restrictions (markDead now reason failureCode m) with
        | some e => (hide env w).raise token e
        | none => ((hide env w).rewrite id _).go token _
    cases hr : refusal env w.restrictions (markDead now reason failureCode m) with
    | some e =>
      refine ⟨h.raise token ?_, rfl⟩
      intro he
      rw [he] at hr
      exact refusal_ne_restricted hshown hr
    | none =>
      refine ⟨(h.rewrite hrow hs hkind).go token _, ?_⟩
      dsimp only
      rw [← hide_rewrite hrow hs hkind]
      rfl

lemma DispatchInv.beginMessage (h : DispatchInv env w) (token : String) (now : Instant) (id : ℕ)
    (todo : List ℕ) :
    DispatchInv env (beginMessage env w token now id todo) ∧
      hide env (beginMessage env w token now id todo) =
        beginMessage env (hide env w) token now id todo := by
  unfold Outbound.beginMessage
  cases hrow : w.messages.get? id with
  | none =>
    rw [get?_hide_none hrow]
    exact ⟨h.go token _, rfl⟩
  | some m =>
    by_cases hl : holdsLease token m = true
    · rw [h.leased_shown hrow hl]
      dsimp only
      rw [if_pos hl, if_pos hl]
      have hs := status_of_holdsLease hl
      have hkind : SameKind m (refreshed now m) := ⟨rfl, rfl⟩
      have hfresh := h.rewrite hrow hs hkind
      rw [← hide_rewrite hrow hs hkind]
      exact hfresh.startAttempt (get?_rewrite hrow _) hs token now todo
    · dsimp only
      rw [if_neg hl]
      refine ⟨h.go token _, ?_⟩
      rw [get?_hide hrow]
      cases hidden env w.restrictions m with
      | true => rfl
      | false =>
        show _ = if holdsLease token m = true then _ else _
        rw [if_neg hl]
        rfl

lemma finishMessage_ok (hrow : w.messages.get? id = some m)
    (hend : finished env now token o w.restrictions m = .ok m') :
    finishMessage env w token now o id todo =
      (w.rewrite id fun _ => m').go token (.batch todo) := by
  unfold finishMessage
  rw [hrow]
  dsimp only
  rw [hend]

lemma finishMessage_error (hrow : w.messages.get? id = some m)
    (hend : finished env now token o w.restrictions m = .error e) :
    finishMessage env w token now o id todo = w.raise token e := by
  unfold finishMessage
  rw [hrow]
  dsimp only
  rw [hend]

lemma DispatchInv.finishMessage (h : DispatchInv env w) (token : String) (now : Instant)
    (o : AttemptOutcome) (id : ℕ) (todo : List ℕ) :
    DispatchInv env (finishMessage env w token now o id todo) ∧
      hide env (finishMessage env w token now o id todo) =
        finishMessage env (hide env w) token now o id todo := by
  cases hrow : w.messages.get? id with
  | none =>
    unfold Outbound.finishMessage
    rw [hrow, get?_hide_none hrow]
    exact ⟨h.go token _, rfl⟩
  | some m =>
    rcases finished_cases env w.restrictions m now token o with hsame | ⟨hl, reason, hrec⟩
    · rw [finishMessage_ok hrow hsame, rewrite_self hrow]
      refine ⟨h.go token _, ?_⟩
      cases hh : hidden env w.restrictions m with
      | true =>
        unfold Outbound.finishMessage
        rw [get?_hide hrow, hh, if_pos rfl]
        rfl
      | false =>
        have hrow' : (hide env w).messages.get? id = some m := by
          rw [get?_hide hrow, hh, if_neg (by decide)]
        rw [finishMessage_ok hrow' hsame, rewrite_self hrow']
        rfl
    · have hrow' := h.leased_shown hrow hl
      have hs := status_of_holdsLease hl
      have hkind : SameKind m (markRetry now reason none m) := sameKind_markRetry ..
      have hshown := hkind.hidden.trans (h.shown hrow (Or.inr hs))
      cases hr : refusal env w.restrictions (markRetry now reason none m) with
      | some e =>
        rw [hr] at hrec
        rw [finishMessage_error hrow hrec, finishMessage_error hrow' hrec]
        refine ⟨h.raise token ?_, rfl⟩
        intro he
        rw [he] at hr
        exact refusal_ne_restricted hshown hr
      | none =>
        rw [hr] at hrec
        rw [finishMessage_ok hrow hrec, finishMessage_ok hrow' hrec]
        refine ⟨(h.rewrite hrow hs hkind).go token _, ?_⟩
        rw [← hide_rewrite hrow hs hkind]
        rfl

/-! ### restrictions and new messages -/

variable {tenantId c requestId : ℕ} {rs : List ProcessingRestriction}

lemma ofRestricted_append (h : ofRestricted env (rs ++ [placed tenantId c requestId]) m = true) :
    ofRestricted env rs m = true ∨ concerns env c m = true := by
  unfold ofRestricted activeRestriction at h
  rw [List.any_append, Bool.or_eq_true] at h
  refine h.imp id ?_
  intro h
  rw [List.any_cons, List.any_nil, Bool.or_false] at h
  unfold restricts at h
  rw [Bool.and_eq_true, Bool.and_eq_true, decide_eq_true_iff] at h
  exact decide_eq_true h.1.1.symm

lemma restricts_of_released {c : Option ℕ} {r : ProcessingRestriction}
    (h : restricts c (released requestId r) = true) : restricts c r = true := by
  unfold released at h
  by_cases hid : r.requestId = requestId
  · rw [if_pos hid] at h
    unfold restricts at h
    rw [Bool.and_eq_true, Bool.and_eq_true] at h
    cases h.1.2
  · rw [if_neg hid] at h
    exact h

lemma ofRestricted_release (h : ofRestricted env (rs.map (released requestId)) m = true) :
    ofRestricted env rs m = true := by
  unfold ofRestricted activeRestriction at h ⊢
  rw [List.any_map] at h
  obtain ⟨r, hmem, hr⟩ := List.any_eq_true.1 h
  exact List.any_eq_true.2 ⟨r, hmem, restricts_of_released hr⟩

lemma cancels_of (hun : unattended m = true) (hc : concerns env c m = true)
    (hs : m.status = .pending) (ht : (env.scope m.ticketId).tenantId = some tenantId) :
    cancels env tenantId c m = true := by
  unfold unattended at hun
  rw [Bool.and_eq_true, Bool.and_eq_true] at hun
  have hscope : env.scope m.ticketId = ⟨some tenantId, some c⟩ := by
    have hcust := of_decide_eq_true hc
    rw [← ht, ← hcust]
  unfold cancels
  rw [decide_eq_true hscope, decide_eq_true hs, hun.1.1, hun.1.2]
  rfl

lemma pending_of_cancels (h : cancels env tenantId c m = true) :
    m.status = .pending := by
  unfold cancels at h
  rw [Bool.and_eq_true, Bool.and_eq_true, Bool.and_eq_true] at h
  exact of_decide_eq_true h.1.1.2

lemma mem_stops {s : StoppedMessage} (h : s ∈ w.stops env c) :
    ∃ m, w.messages.get? s.id = some m ∧ unattended m = true ∧ concerns env c m = true ∧
      (m.status = .pending ∨ m.status = .processing) := by
  obtain ⟨r, hmem, rfl⟩ := List.mem_map.1 h
  obtain ⟨hrow, hp⟩ := w.messages.mem_select.1 hmem
  unfold automaticOutbound at hp
  rw [Bool.and_eq_true, Bool.and_eq_true, Bool.and_eq_true, Bool.or_eq_true, decide_eq_true_iff,
    decide_eq_true_iff] at hp
  exact ⟨r.2, hrow, hp.1.1.2, hp.1.2, hp.2⟩

lemma DispatchInv.activate (h : DispatchInv env w)
    (hok : Undisturbed env w (.activate tenantId c requestId)) :
    DispatchInv env (dispatchStep env (.activate tenantId c requestId) w) := by
  unfold dispatchStep
  by_cases hreq : (w.restrictions.any (·.requestId = requestId)) = true
  · dsimp only
    rw [if_pos hreq]
    exact h
  · dsimp only
    rw [if_neg hreq]
    constructor
    · intro id m' hrow hhid
      rw [Table.get?_mapRows] at hrow
      obtain ⟨m, hm, rfl⟩ := Option.map_eq_some_iff.1 hrow
      by_cases hcan : cancels env tenantId c m = true
      · rw [if_pos hcan]
        exact ⟨MessageStatus.noConfusion, MessageStatus.noConfusion⟩
      · rw [if_neg hcan] at hhid ⊢
        obtain ⟨hun, hof⟩ := Bool.and_eq_true_iff.1 hhid
        rcases ofRestricted_append hof with hold | hc
        · exact h.idle id m hm (Bool.and_eq_true_iff.2 ⟨hun, hold⟩)
        · obtain ⟨hproc, hpend⟩ := hok id m hm hun hc
          refine ⟨fun hs => hcan ?_, hproc⟩
          exact cancels_of hun hc hs (hpend hs)
    · intro s hmem
      rw [Table.get?_mapRows]
      rcases List.mem_append.1 hmem with hnew | hold
      · obtain ⟨m, hrow, hun, hc, hlive⟩ := mem_stops hnew
        obtain ⟨hproc, hpend⟩ := hok s.id m hrow hun hc
        have hs := hlive.resolve_right hproc
        refine ⟨cancelled m, ?_, rfl⟩
        rw [hrow, Option.map_some, if_pos (cancels_of hun hc hs (hpend hs))]
      · obtain ⟨m, hrow, hdead⟩ := h.stopped s hold
        refine ⟨m, ?_, hdead⟩
        rw [hrow, Option.map_some, if_neg]
        intro hcan
        have hpend := pending_of_cancels hcan
        rw [hdead] at hpend
        cases hpend
    · exact h.quiet

lemma DispatchInv.release (h : DispatchInv env w) (requestId : ℕ) :
    DispatchInv env (dispatchStep env (.release requestId) w) := by
  constructor
  · intro id m hrow hhid
    obtain ⟨hun, hof⟩ := Bool.and_eq_true_iff.1 hhid
    exact h.idle id m hrow (Bool.and_eq_true_iff.2 ⟨hun, ofRestricted_release hof⟩)
  · exact h.stopped
  · exact h.quiet

lemma DispatchInv.create (h : DispatchInv env w) (hok : privacyHandoff m = false) :
    DispatchInv env (dispatchStep env (.create m) w) := by
  unfold dispatchStep
  dsimp only
  cases hr : refusal env w.restrictions (queued m) with
  | some e => exact h
  | none =>
    constructor
    · intro id m' hrow hhid
      dsimp only at hrow hhid
      rw [Table.get?_insert] at hrow
      by_cases hid : id = w.messages.next
      · rw [if_pos hid] at hrow
        cases hrow
        obtain ⟨hun, hof⟩ := Bool.and_eq_true_iff.1 hhid
        have hpriv : privacyHandoff (queued m) = false := hok
        exfalso
        unfold refusal outboundRequiresGuard automaticOutbound at hr
        rw [hpriv, hun, hof] at hr
        by_cases hb : (env.bindingViolation (queued m)).isSome = true
        · rw [if_pos hb] at hr
          cases hr
        · rw [if_neg hb] at hr
          cases hr
      · rw [if_neg hid] at hrow
        exact h.idle id m' hrow hhid
    · intro s hs
      obtain ⟨m', hrow, hdead⟩ := h.stopped s hs
      exact ⟨m', w.messages.get?_insert_of_some hrow, hdead⟩
    · exact h.quiet

/-! ### all steps -/

lemma DispatchInv.reclaim (h : DispatchInv env w) (token : String) (now : Instant)
    (limit : Option ℕ) :
    DispatchInv env (dispatchStep env (.reclaim token now limit) w) ∧
      hide env (dispatchStep env (.reclaim token now limit) w) =
        dispatchStep env (.reclaim token now limit) (hide env w) := by
  unfold dispatchStep
  dsimp only [hide]
  by_cases hb : ((w.workers token).isSome || (runtimeDispatchBlockReason env.settings).isSome) = true
  · rw [if_pos hb, if_pos hb]
    exact ⟨h, rfl⟩
  · rw [if_neg hb, if_neg hb]
    rcases h.reclaimStale_eq now limit with ⟨e, hfail, hne, hfail'⟩ | ⟨g, hok, hg, hok'⟩
    · dsimp only [hide] at hfail'
      rw [hfail, hfail']
      exact ⟨h.raise token hne, rfl⟩
    · dsimp only [hide] at hok'
      rw [hok, hok']
      refine ⟨h.rewrites hg rfl rfl rfl h.quiet, ?_⟩
      dsimp only [DispatchWorld.go]
      rw [filter_rewrites hg]

lemma DispatchInv.claim (h : DispatchInv env w) (token : String) (now : Instant)
    (limit : Option ℕ) :
    DispatchInv env (dispatchStep env (.claim token now limit) w) ∧
      hide env (dispatchStep env (.claim token now limit) w) =
        dispatchStep env (.claim token now limit) (hide env w) := by
  have hids := h.claimedIds_hide now limit
  have hg := rewrites_claim env now limit token w.messages
  dsimp only [hide] at hids
  unfold dispatchStep
  dsimp only [hide]
  rw [hids]
  cases hw : w.workers token with
  | none => exact ⟨h, rfl⟩
  | some p =>
    cases p with
    | reclaimed =>
      refine ⟨h.rewrites hg rfl rfl rfl h.quiet, ?_⟩
      dsimp only [DispatchWorld.go]
      rw [filter_rewrites hg]
    | batch todo => exact ⟨h, rfl⟩
    | calling id todo => exact ⟨h, rfl⟩

lemma DispatchInv.crash (h : DispatchInv env w) (token : String) :
    DispatchInv env { w with workers := w.workers.release token } :=
  h.same rfl rfl rfl h.quiet

/-- a step of the dispatcher preserves the invariant, and it does not see the hidden messages. -/
lemma DispatchInv.dispatches (h : DispatchInv env w) {i : DispatchStep}
    (hi : i.dispatches = true) :
    DispatchInv env (dispatchStep env i w) ∧
      hide env (dispatchStep env i w) = dispatchStep env i (hide env w) := by
  cases i with
  | activate _ _ _ | release _ | create _ => cases hi
  | reclaim token now limit => exact h.reclaim token now limit
  | claim token now limit => exact h.claim token now limit
  | begin token now =>
    unfold dispatchStep
    dsimp only [hide]
    cases hw : w.workers token with
    | none => exact ⟨h, rfl⟩
    | some p =>
      cases p with
      | reclaimed | calling _ _ => exact ⟨h, rfl⟩
      | batch todo =>
        cases todo with
        | nil => exact ⟨h.crash token, rfl⟩
        | cons id todo => exact h.beginMessage token now id todo
  | finish token now o =>
    unfold dispatchStep
    dsimp only [hide]
    cases hw : w.workers token with
    | none => exact ⟨h, rfl⟩
    | some p =>
      cases p with
      | reclaimed | batch _ => exact ⟨h, rfl⟩
      | calling id todo => exact h.finishMessage token now o id todo
  | crash token => exact ⟨h.crash token, rfl⟩

lemma dispatchInv_step (i : DispatchStep) (h : DispatchInv env w) (hok : Undisturbed env w i) :
    DispatchInv env (dispatchStep env i w) := by
  cases i with
  | activate tenantId c requestId => exact h.activate hok
  | release requestId => exact h.release requestId
  | create m => exact h.create hok
  | _ => exact (h.dispatches rfl).1

lemma DispatchInv.ok (h : DispatchInv env w) : DispatchOk env w := by
  refine ⟨h.quiet, ?_, fun i hi => (h.dispatches hi).2⟩
  intro s hs
  obtain ⟨m, hrow, hdead⟩ := h.stopped s hs
  exact ⟨m, hrow, Or.inl hdead⟩

end Invariant

theorem restriction_alone (t : Table OutboundMessage) (l : List DispatchStep)
    (h : Along (dispatchStep env) (Undisturbed env) (.start t) l) :
    ∀ p, p <+: l → DispatchOk env (run (dispatchStep env) (.start t) p) := by
  rintro p ⟨rest, rfl⟩
  have hprefix := ((along_append _ _ _).1 h).1
  have hinv := Along.invariant (I := DispatchInv env) (fun w i hw hok => dispatchInv_step i hw hok)
    (dispatchInv_start t) hprefix
  exact hinv.ok

/-! ## runs -/

def twoCustomers : GuardEnv where
  settings := ⟨true, "native", false, false, 300, 50⟩
  scope := fun ticketId => ⟨some 1, some (if ticketId = 1 then 7 else 8)⟩
  bindingViolation := fun _ => none

def automaticMessage (ticketId : ℕ) : OutboundMessage :=
  { sampleMessage with ticketId := ticketId, createdBy := none, origin := some "provider_runtime" }

def twoMessages : Table OutboundMessage :=
  (Table.empty.insert (automaticMessage 1)).insert (automaticMessage 2)

def oneCall : List DispatchStep :=
  [.reclaim "w" 0 none, .claim "w" 0 none, .begin "w" 0,
    .finish "w" 1 (.sent (some "accepted") none (some "wamid.1") none)]

def restrictedBefore : List DispatchStep := .activate 1 7 5 :: oneCall

lemma undisturbed_restrictedBefore :
    Along (dispatchStep twoCustomers) (Undisturbed twoCustomers) (.start twoMessages)
      restrictedBefore := by
  refine ⟨?_, trivial, trivial, trivial, trivial, trivial⟩
  intro id m hrow _ _
  rw [show (DispatchWorld.start twoMessages).messages = twoMessages from rfl, twoMessages,
    Table.get?_insert, Table.get?_insert] at hrow
  by_cases htwo : id = (Table.empty.insert (automaticMessage 1)).next
  · rw [if_pos htwo] at hrow
    cases hrow
    exact ⟨MessageStatus.noConfusion, fun _ => rfl⟩
  · rw [if_neg htwo] at hrow
    by_cases hone : id = (Table.empty : Table OutboundMessage).next
    · rw [if_pos hone] at hrow
      cases hrow
      exact ⟨MessageStatus.noConfusion, fun _ => rfl⟩
    · rw [if_neg hone] at hrow
      cases hrow

theorem restriction_alone_before :
    DispatchOk twoCustomers
      (run (dispatchStep twoCustomers) (.start twoMessages) restrictedBefore) :=
  restriction_alone twoCustomers twoMessages restrictedBefore undisturbed_restrictedBefore
    restrictedBefore (List.prefix_refl _)

def restrictedDuring : List DispatchStep :=
  [.reclaim "w" 0 none, .claim "w" 0 none, .begin "w" 0, .activate 1 7 5,
    .finish "w" 1 (.sent (some "accepted") none (some "wamid.1") none)]

/-- the worker is gone, and the next one reclaims both messages. -/
def restrictedStale : List DispatchStep :=
  [.reclaim "w" 0 none, .claim "w" 0 none, .activate 1 7 5, .crash "w",
    .reclaim "v" (seconds 301) none]

theorem restriction_poisons :
    ¬DispatchOk twoCustomers
        (run (dispatchStep twoCustomers) (.start twoMessages) restrictedDuring) ∧
      ¬DispatchOk twoCustomers
        (run (dispatchStep twoCustomers) (.start twoMessages) restrictedStale) ∧
      ((run (dispatchStep twoCustomers) (.start twoMessages) restrictedStale).messages.get? 2).map
        (fun m => (m.ticketId, m.status)) = some (2, .processing) := by
  refine ⟨?_, ?_, ?_⟩
  · intro h
    exact absurd h.quiet (by decide +kernel)
  · intro h
    exact absurd h.quiet (by decide +kernel)
  · decide +kernel

end NexusHelpdesk.Outbound
