import NexusHelpdesk.Cases.Payload
import NexusHelpdesk.Lib.Except
import NexusHelpdesk.Lib.Run
import NexusHelpdesk.Lib.Table
import NexusHelpdesk.Runtime.Ledger

/-!
# Session checkpoints (`agent_runtime/session_checkpoints.py`)

What a run leaves behind for the next run of its session: one row, which replaces the row before.

* `safeSummary`: the part of a summary that is kept;
* `lockActive`, `writeCheckpoint`: the two halves of a save, before and after the wait for its locks;
* `loadSessionCheckpoint`: what the next run reads;
* `CheckpointStep`: the halves of any number of saves, in any order;
* `Ascending`: the active rows of a session are its last ones.

`checkpoints_newest`: **a load finds the newest checkpoint of its session and release that has not
expired, the newest of the session is found under its release, and a save that nothing comes between
leaves nothing else to find.**
-/

namespace NexusHelpdesk.Runtime

open Lib

/-! ## the code -/

/-- the functions of the language and of `hashlib`. -/
structure Python where
  sha256 : Text → Text
  lower : Text → Text
  /-- `str` of a value. -/
  str : Json → Text

structure AgentSessionCheckpoint where
  tenantKey : Text
  sessionId : Text
  releaseId : ℕ
  sourceRunId : ℕ
  version : ℕ
  summarySha256 : Text
  summary : List (Text × Json)
  estimatedTokens : ℕ
  isActive : Bool
  createdAt : Instant
  expiresAt : Instant
  deactivatedAt : Option Instant

abbrev Checkpoints := Table AgentSessionCheckpoint

/-- the arguments of `save_session_checkpoint`, and its clock. -/
structure SaveCall where
  run : AgentRun
  runId : ℕ
  summary : List (Text × Json)
  ttlSeconds : Option ℤ
  now : Instant

def checkpointSchema : Text := "nexus.agent_session_checkpoint.v1".toList

def allowedSummaryKeys : List Text :=
  ["schema_version", "last_intent", "last_final_action", "run_status", "round_count",
    "handoff_required", "tool_outcomes", "prior_checkpoint_version"].map String.toList

def forbiddenMarkers : List Text :=
  ["message", "reply", "prompt", "thought", "reasoning", "argument", "result", "secret", "token",
    "password", "authorization", "phone", "email", "address", "tracking",
    "waybill"].map String.toList

def boundedTtl (value : Option ℤ) : ℤ := max 300 (min 604800 (value.getD 86400))

/-- a value that `or` passes over. -/
def falsy : Json → Bool
  | .null => true
  | .bool b => !b
  | .num n => n = 0
  | .real t => (t.chars.takeWhile fun c => c != 'e' && c != 'E').all fun c => c ∈ ['-', '0', '.']
  | .str s => s.isEmpty
  | .arr items => items.isEmpty
  | .obj fields => fields.isEmpty

section Code
variable (py : Python)

/-- `"_".join(str(value or other).strip().lower().split())[:limit]`. -/
def tokenOr (other : Text) (value : Json) (limit : ℕ) : Text :=
  let text := if falsy value then other else
    match value with
    | .str s => s
    | value => py.str value
  (['_'].intercalate (PyStr.split (py.lower (PyStr.stripChars text)))).take limit

def token (value : Json) (limit : ℕ) : Text :=
  let text := tokenOr py "unknown".toList value limit
  if text = [] then "unknown".toList else text

def optionalToken (value : Json) (limit : ℕ) : Json :=
  let text := tokenOr py [] value limit
  if text = [] then .null else .str text

def forbidden (value : Text) : Bool :=
  forbiddenMarkers.any fun marker => decide (marker <:+: py.lower value)

def safeToolOutcome (raw : List (Text × Json)) : Json :=
  let get := fun key => (raw.lookup (String.toList key)).getD .null
  .obj [("tool_name".toList, .str (token py (get "tool_name") 160)),
    ("status".toList, .str (token py (get "status") 40)),
    ("ok".toList, .bool (match get "ok" with
      | .bool true => true
      | _ => false)),
    ("error_code".toList, optionalToken py (get "error_code") 160)]

def safeToolOutcomes : Json → Json
  | .arr items => .arr ((items.take 20).filterMap fun
    | .obj raw => some (safeToolOutcome py raw)
    | _ => none)
  | _ => .arr []

/-- the field of the summary that an item becomes, if any. -/
def safeField (item : Text × Json) : Option (Text × Json) :=
  let key := PyStr.stripChars item.1
  if key ∉ allowedSummaryKeys ∨ forbidden py key = true then none
  else if key = "tool_outcomes".toList then some (key, safeToolOutcomes py item.2)
  else
    match item.2 with
    | .null => some (key, .null)
    | .bool b => some (key, .bool b)
    | .num n => some (key, .num n)
    | .str s => some (key, .str (s.take 240))
    | _ => none

def safeSummary (value : List (Text × Json)) : List (Text × Json) :=
  Cases.setField (((value.take 40).filterMap (safeField py)).foldl Cases.setField [])
    ("schema_version".toList, .str checkpointSchema)

/-- the row of a save, which has no version yet. -/
def checkpointRow (c : SaveCall) : Except String AgentSessionCheckpoint :=
  match c.run.releaseId with
  | none => .error "agent_checkpoint_run_release_required"
  | some releaseId =>
    let summary := safeSummary py c.summary
    let payload := Cases.canonicalJson (.obj summary)
    if 12000 < payload.length then .error "agent_checkpoint_payload_too_large"
    else
      .ok
        { tenantKey := c.run.tenantKey
          sessionId := c.run.sessionId
          releaseId := releaseId
          sourceRunId := c.runId
          version := 0
          summarySha256 := py.sha256 payload
          summary := summary
          estimatedTokens := max 1 ((payload.length + 3) / 4)
          isActive := true
          createdAt := c.now
          expiresAt := c.now + seconds (boundedTtl c.ttlSeconds)
          deactivatedAt := none }

end Code

def AgentSessionCheckpoint.key (r : AgentSessionCheckpoint) : Text × Text :=
  (r.tenantKey, r.sessionId)

def ofSession (key : Text × Text) (_ : ℕ) (r : AgentSessionCheckpoint) : Bool := r.key = key

/-- the rows that the first statement of a save locks. -/
def lockActive (t : Checkpoints) (key : Text × Text) : List ℕ :=
  (t.select fun i r => ofSession key i r && r.isActive).map Prod.fst

/-- a locked row that is still active is deactivated. -/
def deactivated (locked : List ℕ) (now : Instant) (i : ℕ) (r : AgentSessionCheckpoint) :
    AgentSessionCheckpoint :=
  if i ∈ locked ∧ r.isActive = true then { r with isActive := false, deactivatedAt := some now }
  else r

def latestVersion (t : Checkpoints) (key : Text × Text) : ℕ :=
  ((t.select (ofSession key)).map (·.2.version)).foldr max 0

/-- the rest of a save. -/
def writeCheckpoint (t : Checkpoints) (locked : List ℕ) (row : AgentSessionCheckpoint) :
    Checkpoints :=
  let t := t.mapRows (deactivated locked row.createdAt)
  t.insert { row with version := latestVersion t row.key + 1 }

def saveSessionCheckpoint (py : Python) (c : SaveCall) (t : Checkpoints) :
    Except String Checkpoints := do
  let row ← checkpointRow py c
  return writeCheckpoint t (lockActive t row.key) row

def loadable (key : Text × Text) (releaseId : ℕ) (now : Instant) (i : ℕ)
    (r : AgentSessionCheckpoint) : Bool :=
  ofSession key i r && r.releaseId = releaseId && r.isActive && now < r.expiresAt

def loadSessionCheckpoint (t : Checkpoints) (key : Text × Text) (releaseId : ℕ) (now : Instant) :
    Option (ℕ × AgentSessionCheckpoint) :=
  (t.select (loadable key releaseId now)).argmax fun r => toLex (r.2.version, r.1)

/-! ## what a save writes -/

section Write
variable {t : Checkpoints} {key : Text × Text} {row r r' : AgentSessionCheckpoint}
  {locked : List ℕ} {now : Instant} {i j : ℕ}

lemma key_deactivated : (deactivated locked now i r).key = r.key := by
  unfold deactivated
  split <;> rfl

lemma version_deactivated : (deactivated locked now i r).version = r.version := by
  unfold deactivated
  split <;> rfl

lemma isActive_deactivated :
    (deactivated locked now i r).isActive = true ↔ r.isActive = true ∧ i ∉ locked := by
  unfold deactivated
  split
  · rename_i h
    simp [h.1]
  · rename_i h
    exact ⟨fun hr => ⟨hr, fun hi => h ⟨hi, hr⟩⟩, And.left⟩

lemma mem_lockActive : i ∈ lockActive t key ↔
    ∃ r, t.get? i = some r ∧ r.key = key ∧ r.isActive = true := by
  unfold lockActive
  rw [List.mem_map]
  constructor
  · rintro ⟨⟨j, r⟩, hmem, rfl⟩
    obtain ⟨hget, hp⟩ := t.mem_select.1 hmem
    obtain ⟨hkey, hactive⟩ := Bool.and_eq_true_iff.1 hp
    exact ⟨r, hget, of_decide_eq_true hkey, hactive⟩
  · rintro ⟨r, hget, hkey, hactive⟩
    have hp : (ofSession key i r && r.isActive) = true :=
      Bool.and_eq_true_iff.2 ⟨decide_eq_true hkey, hactive⟩
    exact ⟨(i, r), t.mem_select.2 ⟨hget, hp⟩, rfl⟩

lemma version_le_latest (hget : t.get? i = some r) : r.version ≤ latestVersion t r.key := by
  have hmem : r.version ∈ (t.select (ofSession r.key)).map (·.2.version) :=
    List.mem_map.2 ⟨(i, r), t.mem_select.2 ⟨hget, decide_eq_true rfl⟩, rfl⟩
  exact List.le_max_of_le hmem le_rfl

lemma get?_writeCheckpoint (h : (writeCheckpoint t locked row).get? i = some r) :
    (i = t.next ∧ ∃ v, r = { row with version := v } ∧
      ∀ j s, t.get? j = some s → s.key = row.key → s.version < v) ∨
    ∃ s, t.get? i = some s ∧ r = deactivated locked row.createdAt i s := by
  unfold writeCheckpoint at h
  dsimp only at h
  rw [Table.get?_insert] at h
  split at h
  · rename_i hi
    cases h
    refine .inl ⟨hi, _, rfl, ?_⟩
    intro j s hs hkey
    have hget : (t.mapRows (deactivated locked row.createdAt)).get? j =
        some (deactivated locked row.createdAt j s) := by
      rw [Table.get?_mapRows, hs]
      rfl
    have hle := version_le_latest hget
    rw [version_deactivated, key_deactivated, hkey] at hle
    exact Nat.lt_succ_of_le hle
  · rw [Table.get?_mapRows] at h
    obtain ⟨s, hs, rfl⟩ := Option.map_eq_some_iff.1 h
    exact .inr ⟨s, hs, rfl⟩

lemma writeCheckpoint_new (t : Checkpoints) (locked : List ℕ) (row : AgentSessionCheckpoint) :
    ∃ v, (writeCheckpoint t locked row).get? t.next = some { row with version := v } :=
  ⟨_, Table.get?_insert_self _ _⟩

lemma writeCheckpoint_old (h : t.get? i = some r) : (writeCheckpoint t locked row).get? i =
    some (deactivated locked row.createdAt i r) := by
  refine Table.get?_insert_of_some _ ?_
  rw [Table.get?_mapRows, h]
  rfl

end Write

/-! ## saves that overlap -/

structure CheckpointDesk where
  rows : Checkpoints
  /-- the saves that wait for their locks, with the rows they asked for. -/
  waiting : List (AgentSessionCheckpoint × List ℕ)

def CheckpointDesk.empty : CheckpointDesk := ⟨Table.empty, []⟩

inductive CheckpointStep where
  | lock (c : SaveCall)
  | write (i : ℕ)
  | rollback (i : ℕ)

def checkpointStep (py : Python) (e : CheckpointStep) (s : CheckpointDesk) : CheckpointDesk :=
  match e with
  | .lock c =>
    match checkpointRow py c with
    | .error _ => s
    | .ok row => { s with waiting := s.waiting ++ [(row, lockActive s.rows row.key)] }
  | .write i =>
    match s.waiting[i]? with
    | none => s
    | some (row, locked) => ⟨writeCheckpoint s.rows locked row, s.waiting.eraseIdx i⟩
  | .rollback i => { s with waiting := s.waiting.eraseIdx i }

/-- a save that waits locks rows of its session, and every active one before them. -/
structure Locks (t : Checkpoints) (row : AgentSessionCheckpoint) (locked : List ℕ) : Prop where
  active : row.isActive = true
  own : ∀ i ∈ locked, ∃ r, t.get? i = some r ∧ r.key = row.key
  closed : ∀ i ∈ locked, ∀ j r, t.get? j = some r → r.key = row.key → r.isActive = true → j ≤ i →
    j ∈ locked

/-- the versions of a session ascend, and from some row on, which is not behind the last one, they
are active. -/
structure Ascending (t : Checkpoints) : Prop where
  versions : ∀ i j r r', t.get? i = some r → t.get? j = some r' → r.key = r'.key → i < j →
    r.version < r'.version
  active : ∀ i j r r', t.get? i = some r → t.get? j = some r' → r.key = r'.key → i < j →
    r.isActive = true → r'.isActive = true
  newest : ∀ i r, t.get? i = some r → (∀ j r', t.get? j = some r' → r'.key = r.key → j ≤ i) →
    r.isActive = true

section Overlap
variable {t : Checkpoints} {row row' : AgentSessionCheckpoint} {locked locked' : List ℕ}

lemma Locks.write (h : Locks t row locked) : Locks (writeCheckpoint t locked' row') row locked where
  active := h.active
  own := by
    intro i hi
    obtain ⟨r, hget, hkey⟩ := h.own i hi
    exact ⟨_, writeCheckpoint_old hget, key_deactivated.trans hkey⟩
  closed := by
    intro i hi j r hget hkey hactive hle
    rcases get?_writeCheckpoint hget with ⟨rfl, -⟩ | ⟨s, hs, rfl⟩
    · obtain ⟨r', hget', -⟩ := h.own i hi
      exact absurd (Table.lt_next hget') hle.not_gt
    · exact h.closed i hi j s hs (key_deactivated.symm.trans hkey)
        (isActive_deactivated.1 hactive).1 hle

lemma Ascending.write (h : Ascending t) (hl : Locks t row locked) :
    Ascending (writeCheckpoint t locked row) where
  versions := by
    intro i j r r' hi hj hkey hlt
    rcases get?_writeCheckpoint hi with ⟨rfl, -⟩ | ⟨s, hs, rfl⟩
    · rcases get?_writeCheckpoint hj with ⟨rfl, -⟩ | ⟨s', hs', -⟩
      · exact absurd hlt (lt_irrefl _)
      · exact absurd (Table.lt_next hs') hlt.not_gt
    · rw [key_deactivated] at hkey
      rw [version_deactivated]
      rcases get?_writeCheckpoint hj with ⟨-, v, rfl, hv⟩ | ⟨s', hs', rfl⟩
      · exact hv i s hs hkey
      · rw [version_deactivated]
        rw [key_deactivated] at hkey
        exact h.versions i j s s' hs hs' hkey hlt
  active := by
    intro i j r r' hi hj hkey hlt hactive
    rcases get?_writeCheckpoint hj with ⟨-, v, rfl, -⟩ | ⟨s', hs', rfl⟩
    · exact hl.active
    · rcases get?_writeCheckpoint hi with ⟨rfl, -⟩ | ⟨s, hs, rfl⟩
      · exact absurd (Table.lt_next hs') hlt.not_gt
      · rw [key_deactivated, key_deactivated] at hkey
        obtain ⟨hold, hi'⟩ := isActive_deactivated.1 hactive
        have hnew := h.active i j s s' hs hs' hkey hlt hold
        refine isActive_deactivated.2 ⟨hnew, fun hj' => hi' ?_⟩
        -- a save that locks a row locks the active ones before it
        obtain ⟨q, hq, hqkey⟩ := hl.own j hj'
        obtain rfl := Option.some.inj (hq.symm.trans hs')
        exact hl.closed j hj' i s hs (hkey.trans hqkey) hold hlt.le
  newest := by
    intro i r hi hlast
    rcases get?_writeCheckpoint hi with ⟨-, v, rfl, -⟩ | ⟨s, hs, rfl⟩
    · exact hl.active
    · rw [key_deactivated] at hlast
      have hne : row.key ≠ s.key := by
        intro hkey
        obtain ⟨v, hv⟩ := writeCheckpoint_new t locked row
        exact absurd (Table.lt_next hs) (hlast _ _ hv hkey).not_gt
      refine isActive_deactivated.2 ⟨h.newest i s hs ?_, ?_⟩
      · intro j r' hj hkey
        exact hlast j _ (writeCheckpoint_old hj) (key_deactivated.trans hkey)
      · intro hmem
        obtain ⟨q, hq, hqkey⟩ := hl.own i hmem
        obtain rfl := Option.some.inj (hq.symm.trans hs)
        exact hne hqkey.symm

variable {py : Python} {s : CheckpointDesk}

structure CheckpointInv (s : CheckpointDesk) : Prop where
  rows : Ascending s.rows
  waiting : ∀ row locked, (row, locked) ∈ s.waiting → Locks s.rows row locked

lemma checkpointRow_ok {c : SaveCall} (h : checkpointRow py c = .ok row) :
    row.isActive = true ∧ row.key = (c.run.tenantKey, c.run.sessionId) := by
  unfold checkpointRow at h
  split at h
  · cases h
  · dsimp only at h
    split at h
    · cases h
    · cases h
      exact ⟨rfl, rfl⟩

lemma checkpointInv_empty : CheckpointInv CheckpointDesk.empty where
  rows :=
    { versions := fun i j r r' h => by cases h
      active := fun i j r r' h => by cases h
      newest := fun i r h => by cases h }
  waiting := fun row locked h => by cases h

lemma checkpointInv_step (h : CheckpointInv s) (e : CheckpointStep) :
    CheckpointInv (checkpointStep py e s) := by
  cases e with
  | lock c =>
    unfold checkpointStep
    dsimp only
    split
    · exact h
    · rename_i row hrow
      refine ⟨h.rows, ?_⟩
      intro row' locked hmem
      rcases List.mem_append.1 hmem with hold | hnew
      · exact h.waiting row' locked hold
      · cases List.mem_singleton.1 hnew
        refine ⟨(checkpointRow_ok hrow).1, ?_, ?_⟩
        · intro i hi
          obtain ⟨r, hget, hkey, -⟩ := mem_lockActive.1 hi
          exact ⟨r, hget, hkey⟩
        · intro i hi j r hget hkey hactive hle
          exact mem_lockActive.2 ⟨r, hget, hkey, hactive⟩
  | write i =>
    unfold checkpointStep
    dsimp only
    split
    · exact h
    · rename_i row locked hw
      refine ⟨h.rows.write (h.waiting row locked (List.mem_of_getElem? hw)), ?_⟩
      intro row' locked' hmem
      exact (h.waiting row' locked' (List.mem_of_mem_eraseIdx hmem)).write
  | rollback i =>
    refine ⟨h.rows, ?_⟩
    intro row' locked' hmem
    exact h.waiting row' locked' (List.mem_of_mem_eraseIdx hmem)

lemma loadable_iff {key : Text × Text} {releaseId i : ℕ} {now : Instant} :
    loadable key releaseId now i row = true ↔
      row.key = key ∧ row.releaseId = releaseId ∧ row.isActive = true ∧ now < row.expiresAt := by
  unfold loadable ofSession
  simp [and_assoc]

lemma loaded {key : Text × Text} {releaseId i : ℕ} {now : Instant} {r : AgentSessionCheckpoint}
    (h : loadSessionCheckpoint t key releaseId now = some (i, r)) :
    (t.get? i = some r ∧ loadable key releaseId now i r = true) ∧
      ∀ j r', t.get? j = some r' → loadable key releaseId now j r' = true →
        r'.version ≤ r.version := by
  refine ⟨t.mem_select.1 (List.argmax_mem h), ?_⟩
  intro j r' hget hp
  have hle := List.le_of_mem_argmax (t.mem_select.2 ⟨hget, hp⟩) h
  rcases Prod.Lex.le_iff.1 hle with hlt | ⟨heq, -⟩
  · exact le_of_lt hlt
  · exact le_of_eq heq

end Overlap

theorem checkpoints_newest (py : Python) (l : List CheckpointStep) (key : Text × Text)
    (now : Instant) :
    let t := (run (checkpointStep py) CheckpointDesk.empty l).rows
    (∀ i j r r', t.get? i = some r → t.get? j = some r' → r.key = r'.key → i < j →
      r.version < r'.version) ∧
    (∀ releaseId i r, loadSessionCheckpoint t key releaseId now = some (i, r) →
      t.get? i = some r ∧ r.key = key ∧ r.releaseId = releaseId ∧ now < r.expiresAt ∧
        ∀ j r', t.get? j = some r' → r'.key = key → r'.releaseId = releaseId →
          now < r'.expiresAt → j ≤ i) ∧
    (∀ i r, t.get? i = some r → r.key = key → now < r.expiresAt →
      (∀ j r', t.get? j = some r' → r'.key = key → j ≤ i) →
        loadSessionCheckpoint t key r.releaseId now = some (i, r)) ∧
    ∀ c t', saveSessionCheckpoint py c t = .ok t' → ∀ releaseId i r,
      loadSessionCheckpoint t' (c.run.tenantKey, c.run.sessionId) releaseId now = some (i, r) →
        i = t.next := by
  have hall : Along (checkpointStep py) (fun _ _ => True) CheckpointDesk.empty l := along_true _ l
  intro t
  have hinv : Ascending t := (hall.invariant (I := CheckpointInv)
    (fun s e h _ => checkpointInv_step h e) checkpointInv_empty).rows
  refine ⟨hinv.versions, ?_, ?_, ?_⟩
  · intro releaseId i r h
    obtain ⟨⟨hget, hp⟩, hmax⟩ := loaded h
    obtain ⟨hkey, hrelease, hactive, hnow⟩ := loadable_iff.1 hp
    refine ⟨hget, hkey, hrelease, hnow, ?_⟩
    intro j r' hj hkey' hrelease' hnow'
    by_contra hlt
    have hsame : r.key = r'.key := hkey.trans hkey'.symm
    have hactive' := hinv.active i j r r' hget hj hsame (not_le.1 hlt) hactive
    have hle := hmax j r' hj (loadable_iff.2 ⟨hkey', hrelease', hactive', hnow'⟩)
    exact absurd (hinv.versions i j r r' hget hj hsame (not_le.1 hlt)) hle.not_gt
  · intro i r hget hkey hnow hlast
    have hactive := hinv.newest i r hget fun j r' hj hsame => hlast j r' hj (hsame.trans hkey)
    have hp : loadable key r.releaseId now i r = true :=
      loadable_iff.2 ⟨hkey, rfl, hactive, hnow⟩
    cases hload : loadSessionCheckpoint t key r.releaseId now with
    | none =>
      have hmem := t.mem_select.2 ⟨hget, hp⟩
      rw [List.argmax_eq_none.1 hload] at hmem
      cases hmem
    | some x =>
      obtain ⟨j, r'⟩ := x
      obtain ⟨⟨hj, hp'⟩, hmax⟩ := loaded hload
      have hkey' := (loadable_iff.1 hp').1
      have hle := hmax i r hget hp
      rcases (hlast j r' hj hkey').lt_or_eq with hlt | rfl
      · exact absurd (hinv.versions j i r' r hj hget (hkey'.trans hkey.symm) hlt) hle.not_gt
      · rw [Option.some.inj (hj.symm.trans hget)]
  · intro c t' hsave releaseId i r h
    obtain ⟨row, hrow, hwrite⟩ := bind_eq_ok.1 hsave
    cases hwrite
    rw [← (checkpointRow_ok hrow).2] at h
    obtain ⟨⟨hget, hp⟩, -⟩ := loaded h
    obtain ⟨hkey, -, hactive, -⟩ := loadable_iff.1 hp
    rcases get?_writeCheckpoint hget with ⟨hi, -⟩ | ⟨s, hs, rfl⟩
    · exact hi
    · obtain ⟨hs', hnot⟩ := isActive_deactivated.1 hactive
      exact absurd (mem_lockActive.2 ⟨s, hs, key_deactivated.symm.trans hkey, hs'⟩) hnot

end NexusHelpdesk.Runtime
