import NexusHelpdesk.Customers.Calls
import NexusHelpdesk.Desk.Words

/-!
# One number, one customer

The number column is the meeting point of the channels, so the invariant is about who holds a number.

* `Holds`: a customer of a tenant holds a number;
* `PhoneInv`: a normal form has one holder, and bindings and contacts are to the holder;
* `one_number`: **a number has one customer all along an orderly run**;
* `bracketed_number_splits`: **a call from a number with brackets in it gets a second customer**.
-/

namespace NexusHelpdesk.Customers

open Lib

/-! ## normal forms -/

section Numbers
variable {env : PhoneEnv} {number value cleaned : Text} {i : CustomerIdentity}

lemma normalizePhone_plus {rest : Text} (h : PyStr.stripChars number = '+' :: rest) :
    normalizePhone env.toIdentityEnv number = some ('+' :: rest.filter env.digit) := by
  unfold normalizePhone
  rw [h]
  rfl

lemma normalizePhone_digits (h : ∀ rest, PyStr.stripChars number ≠ '+' :: rest) :
    normalizePhone env.toIdentityEnv number =
      if (PyStr.stripChars number).filter env.digit = [] then none
      else some ((PyStr.stripChars number).filter env.digit) := by
  unfold normalizePhone
  generalize PyStr.stripChars number = s at h
  dsimp only
  split
  · exact absurd rfl (h _)
  · rfl

lemma head_of_normalizePhone (h : normalizePhone env.toIdentityEnv number = some value) :
    ∃ c, value.head? = some c ∧ (c = '+' ∨ env.digit c = true) := by
  by_cases hplus : ∃ rest, PyStr.stripChars number = '+' :: rest
  · obtain ⟨rest, hrest⟩ := hplus
    rw [normalizePhone_plus hrest] at h
    cases h
    exact ⟨'+', rfl, .inl rfl⟩
  · rw [normalizePhone_digits (not_exists.1 hplus)] at h
    by_cases hnil : (PyStr.stripChars number).filter env.digit = []
    · rw [if_pos hnil] at h
      cases h
    · rw [if_neg hnil] at h
      obtain ⟨c, rest, hcons⟩ := List.exists_cons_of_ne_nil hnil
      have hc : c ∈ (PyStr.stripChars number).filter env.digit := by
        rw [hcons]
        exact List.mem_cons_self ..
      rw [hcons] at h
      cases h
      exact ⟨c, rfl, .inr (List.mem_filter.1 hc).2⟩

lemma head_of_anonymous (h : normalizePhone env.toIdentityEnv number = none) {c : Char}
    (hc : (PyStr.stripChars number).head? = some c) : ¬(c = '+' ∨ env.digit c = true) := by
  obtain ⟨rest, hcons⟩ := List.head?_eq_some_iff.1 hc
  rintro (rfl | hdigit)
  · rw [normalizePhone_plus hcons] at h
    cases h
  · by_cases hplus : ∃ rest, PyStr.stripChars number = '+' :: rest
    · obtain ⟨rest, hrest⟩ := hplus
      rw [normalizePhone_plus hrest] at h
      cases h
    · rw [normalizePhone_digits (not_exists.1 hplus), hcons, List.filter_cons_of_pos hdigit,
        if_neg (by nofun)] at h
      cases h

/-- what a customer can hold for a normal form. -/
def Normal (env : PhoneEnv) (number : Text) : Prop :=
  ∃ raw value, normalizePhone env.toIdentityEnv raw = some value ∧ number = value.take 60

lemma Normal.head (h : Normal env number) :
    ∃ c, number.head? = some c ∧ (c = '+' ∨ env.digit c = true) := by
  obtain ⟨raw, value, hvalue, rfl⟩ := h
  obtain ⟨c, hc, hform⟩ := head_of_normalizePhone hvalue
  refine ⟨c, ?_, hform⟩
  rw [List.head?_take, if_neg (by decide)]
  exact hc

lemma Normal.ne_nil (h : Normal env number) : number ≠ [] := by
  obtain ⟨c, hc, -⟩ := h.head
  rintro rfl
  cases hc

lemma cleanNumber_eq {n : Option Text} (h : cleanNumber n = some cleaned) :
    cleaned = (PyStr.stripChars (n.getD [])).take 60 ∧ cleaned ≠ [] := by
  unfold cleanNumber at h
  dsimp only at h
  split at h
  · cases h
  · rename_i hne
    cases h
    exact ⟨rfl, hne⟩

lemma cleanPhone_eq (h : cleanPhone number = .ok cleaned) :
    (cleaned = number.filter fun c => !PyStr.isSpace c) ∧ cleaned ≠ [] ∧ cleaned.length ≤ 32 := by
  unfold cleanPhone at h
  dsimp only at h
  split at h
  · cases h
  · rename_i hsize
    rw [not_or, not_lt] at hsize
    split at h
    · cases h
    · cases h
      exact ⟨rfl, hsize⟩

lemma not_normal_of_cleanNumber {n : Option Text} (h : cleanNumber n = some cleaned)
    (hnone : normalizePhone env.toIdentityEnv (n.getD []) = none) : ¬Normal env cleaned := by
  intro hnormal
  obtain ⟨c, hc, hform⟩ := hnormal.head
  obtain ⟨rfl, -⟩ := cleanNumber_eq h
  rw [List.head?_take, if_neg (by decide)] at hc
  exact head_of_anonymous hnone hc hform

lemma not_normal_of_cleanPhone (h : cleanPhone number = .ok cleaned)
    (hnone : normalizePhone env.toIdentityEnv number = none) : ¬Normal env cleaned := by
  intro hnormal
  obtain ⟨c, hc, hform⟩ := hnormal.head
  obtain ⟨rfl, -⟩ := cleanPhone_eq h
  rw [List.head?_filter, ← PyStr.head?_stripChars] at hc
  exact head_of_anonymous hnone hc hform

def IdentityOf (env : PhoneEnv) (number : Text) (i : CustomerIdentity) : Prop :=
  i.kind = .phone ∧ ∃ value, normalizePhone env.toIdentityEnv number = some value ∧
    i.value = value.take 320

lemma normalizePhone_stripChars :
    normalizePhone env.toIdentityEnv (PyStr.stripChars number) =
      normalizePhone env.toIdentityEnv number := by
  unfold normalizePhone
  rw [PyStr.stripChars_stripChars]

lemma identityOf_of_normalize {identityType : Text}
    (h : normalizeCustomerIdentity env.toIdentityEnv identityType number = .ok i)
    (hkind : i.kind = .phone) : IdentityOf env number i := by
  unfold normalizeCustomerIdentity at h
  cases hk : identityKind env.toIdentityEnv identityType with
  | none =>
    rw [hk] at h
    cases h
  | some kind =>
    rw [hk] at h
    dsimp only at h
    cases kind with
    | email =>
      dsimp only at h
      split at h
      · cases h
      · cases h
        cases hkind
    | phone =>
      dsimp only at h
      rw [normalizePhone_stripChars] at h
      refine ⟨?_, ?_⟩
      · exact hkind
      · cases hv : normalizePhone env.toIdentityEnv number with
        | none =>
          rw [hv] at h
          cases h
        | some value =>
          rw [hv] at h
          split at h
          · cases h
          · cases h
            exact ⟨value, rfl, rfl⟩
    | externalRef =>
      dsimp only at h
      split at h
      · cases h
      · cases h
        cases hkind

lemma IdentityOf.normal (h : IdentityOf env number i) : Normal env (i.value.take 60) := by
  obtain ⟨-, value, hvalue, heq⟩ := h
  refine ⟨number, value, hvalue, ?_⟩
  rw [heq, List.take_take]
  rfl

end Numbers

/-! ## holders -/

def Holds (db : IdentityDb) (tenantId : Option ℕ) (customerId : ℕ) (number : Text) : Prop :=
  number ≠ [] ∧ ∃ x, db.customers.get? customerId = some x ∧ x.tenantId = tenantId ∧
    x.phoneNormalized = some number

section Holders
variable {env : PhoneEnv} {db db' db'' : IdentityDb} {t t' : Option ℕ} {c d : ℕ} {n m : Text}
  {i : CustomerIdentity} {x : Customer}

lemma holds_of_findByNumber (h : findByNumber db t n = some c) (hne : n ≠ []) : Holds db t c n := by
  obtain ⟨⟨j, x⟩, hhead, rfl⟩ := Option.map_eq_some_iff.1 h
  obtain ⟨hget, hp⟩ := (db.customers.mem_select).1 (List.mem_of_head? hhead)
  rw [Bool.and_eq_true, decide_eq_true_iff, decide_eq_true_iff] at hp
  exact ⟨hne, x, hget, hp⟩

lemma not_holds_of_findByNumber (h : findByNumber db t n = none) : ¬Holds db t c n := by
  rintro ⟨-, x, hx, htenant, hn⟩
  have hmem : (c, x) ∈ db.customers.select fun _ x =>
      x.tenantId = t && x.phoneNormalized = some n := by
    refine (db.customers.mem_select).2 ⟨hx, ?_⟩
    rw [Bool.and_eq_true, decide_eq_true_iff, decide_eq_true_iff]
    exact ⟨htenant, hn⟩
  rw [List.head?_eq_none_iff.1 (Option.map_eq_none_iff.1 h)] at hmem
  cases hmem

structure NumbersStay (db db' : IdentityDb) : Prop where
  tenants : ∀ c t, tenantOf db c = some t → tenantOf db' c = some t
  holds : ∀ t c n, Holds db t c n → Holds db' t c n

lemma numbersStay_bind : NumbersStay db (db.bind t i c) where
  tenants := fun _ _ h => h
  holds := fun _ _ _ h => h

lemma applyProfile_of_holds (h : Holds db t c n) (hkind : i.kind = .phone) :
    db.applyProfile i c = db := by
  obtain ⟨hne, x, hx, -, hn⟩ := h
  have hid : x.applyProfile i = x := by
    unfold Customer.applyProfile Customer.profile
    rw [hkind]
    dsimp only
    rw [hn]
    exact if_neg (by simpa using hne)
  have htable : db.customers.modify c (Customer.applyProfile i) = db.customers := by
    refine Table.ext_get? rfl ?_
    intro j
    rw [Table.get?_modify]
    split
    · rename_i hj
      rw [hj, hx]
      exact congrArg some hid
    · rfl
  unfold IdentityDb.applyProfile
  rw [htable]

lemma numbersStay_insertCustomer : NumbersStay db (db.insertCustomer x) where
  tenants := by
    intro d t hd
    obtain ⟨y, hy, rfl⟩ := Option.map_eq_some_iff.1 hd
    show ((db.customers.insert _).get? d).map _ = _
    rw [Table.get?_insert_of_some _ hy]
    rfl
  holds := by
    rintro t d n ⟨hne, y, hy, htenant, hn⟩
    exact ⟨hne, y, Table.get?_insert_of_some _ hy, htenant, hn⟩

lemma holds_insertCustomer (h : Holds (db.insertCustomer x) t d m) :
    Holds db t d m ∨ (t = x.tenantId ∧ d = db.customers.next ∧ x.phoneNormalized = some m) := by
  obtain ⟨hne, y, hy, htenant, hm⟩ := h
  have hinsert : (db.customers.insert x).get? d = some y := hy
  rw [Table.get?_insert] at hinsert
  split at hinsert
  · rename_i hd
    cases hinsert
    exact .inr ⟨htenant.symm, hd, hm⟩
  · exact .inl ⟨hne, y, hinsert, htenant, hm⟩

lemma createCustomer_applyProfile (hkind : i.kind = .phone) :
    (db.createCustomer t).2.applyProfile i db.customers.next =
      db.insertCustomer ⟨t, none, some (i.value.take 60), none⟩ := by
  have htable : (db.customers.insert ⟨t, none, none, none⟩).modify db.customers.next
      (Customer.applyProfile i) = db.customers.insert ⟨t, none, some (i.value.take 60), none⟩ := by
    refine Table.ext_get? rfl ?_
    intro j
    rw [Table.get?_modify, Table.get?_insert, Table.get?_insert]
    split
    · unfold Customer.applyProfile Customer.profile Customer.setProfile profileWidth
      rw [hkind]
      rfl
    · rfl
  unfold IdentityDb.createCustomer IdentityDb.applyProfile IdentityDb.insertCustomer
  dsimp only
  rw [htable]

lemma fill_spec (hkind : i.kind = .phone) (hne : i.value.take 60 ≠ [])
    (htenant : tenantOf db c = some t) (hfree : FreeFor db c (i.value.take 60)) :
    NumbersStay db (db.applyProfile i c) ∧ Holds (db.applyProfile i c) t c (i.value.take 60) ∧
      ∀ t' d m, Holds (db.applyProfile i c) t' d m →
        Holds db t' d m ∨ (t' = t ∧ d = c ∧ i.value.take 60 = m) := by
  obtain ⟨x, hx, rfl⟩ := Option.map_eq_some_iff.1 htenant
  by_cases hheld : Holds db x.tenantId c (i.value.take 60)
  · rw [applyProfile_of_holds hheld hkind]
    exact ⟨⟨fun _ _ h => h, fun _ _ _ h => h⟩, hheld, fun _ _ _ h => .inl h⟩
  · have hempty : x.phoneNormalized.all (· = []) = true := by
      cases hn : x.phoneNormalized with
      | none => rfl
      | some held =>
        rcases hfree x hx held hn with rfl | rfl
        · rfl
        · exact absurd ⟨hne, x, hx, rfl, hn⟩ hheld
    have hrow : (db.applyProfile i c).customers.get? c =
        some { x with phoneNormalized := some (i.value.take 60) } := by
      show (db.customers.modify c _).get? c = _
      rw [Table.get?_modify_self, hx]
      unfold Customer.applyProfile Customer.profile Customer.setProfile profileWidth
      rw [hkind]
      exact congrArg some (if_pos hempty)
    have hother : ∀ d, d ≠ c →
        (db.applyProfile i c).customers.get? d = db.customers.get? d :=
      fun d hd => Table.get?_modify_of_ne _ _ hd
    refine ⟨⟨?_, ?_⟩, ⟨hne, _, hrow, rfl, rfl⟩, ?_⟩
    · intro d t' hd
      rw [tenantOf_applyProfile]
      exact hd
    · rintro t' d n ⟨hn, y, hy, ht', hyn⟩
      by_cases hd : d = c
      · subst hd
        rw [hx] at hy
        cases hy
        rw [hyn] at hempty
        exact absurd (by simpa using hempty) hn
      · exact ⟨hn, y, (hother d hd).trans hy, ht', hyn⟩
    · rintro t' d m ⟨hm, y, hy, ht', hym⟩
      by_cases hd : d = c
      · subst hd
        rw [hrow] at hy
        cases hy
        exact .inr ⟨ht'.symm, rfl, Option.some.inj hym⟩
      · exact .inl ⟨hm, y, (hother d hd).symm.trans hy, ht', hym⟩

end Holders

/-! ## the invariant -/

def PhoneKnows (env : PhoneEnv) (db : IdentityDb) : PhoneTask → Prop
  | .identity number (.legacy _ i) => IdentityOf env number i
  | .identity number (.save t i candidate) =>
    IdentityOf env number i ∧ ∀ c, candidate = some c → Holds db t c i.value
  | .identity number (.bindSave c t i) => IdentityOf env number i ∧ tenantOf db c = some t
  | .inbound _ _ _ number => OwnForm env (number.getD []) (cleanNumber number)
  | .outbound _ number cleaned =>
    cleanPhone number = .ok cleaned ∧ OwnForm env number (some cleaned)

structure PhoneInv (env : PhoneEnv) (s : PhoneRun) : Prop where
  width : ∀ t c n, Holds s.db t c n → n.length ≤ 60
  /-- a normal form has one holder in a tenant. -/
  one : ∀ t n c d, Normal env n → Holds s.db t c n → Holds s.db t d n → c = d
  bound : ∀ j b, s.db.bindings.get? j = some b → (∃ number, IdentityOf env number b.identity) ∧
    Holds s.db b.tenantId b.customerId (b.identity.value.take 60)
  contacts : ∀ a ∈ s.contacts, ∀ value, normalizePhone env.toIdentityEnv a.number = some value →
    Holds s.db a.tenantId a.customerId (value.take 60)
  attached : ∀ a ∈ s.contacts, ∀ c, a.bound = some c → a.customerId = c
  tasks : ∀ task ∈ s.waiting, PhoneKnows env s.db task
  total : s.collisions = 0

section Invariant
variable {env : PhoneEnv} {s : PhoneRun} {db db' : IdentityDb} {t : Option ℕ} {c d : ℕ}
  {n number : Text} {i : CustomerIdentity} {b : IdentityBinding} {task : PhoneTask}
  {identityType : Text} {x : Customer} {m : Text} {cleaned : Text}

lemma phoneInv_empty : PhoneInv env PhoneRun.empty where
  width := by
    rintro t c n ⟨-, x, hx, -⟩
    cases hx
  one := by
    rintro t n c d - ⟨-, x, hx, -⟩
    cases hx
  bound := by
    intro j b hb
    cases hb
  contacts := by
    intro a ha
    cases ha
  attached := by
    intro a ha
    cases ha
  tasks := by
    intro task h
    cases h
  total := rfl

lemma PhoneInv.oneNumber (h : PhoneInv env s) : OneNumber env s where
  same := by
    intro a ha b hb htenant hnumber hsome
    obtain ⟨value, hvalue⟩ := Option.ne_none_iff_exists'.1 hsome
    have hholds := h.contacts a ha value hvalue
    rw [hnumber] at hvalue
    rw [htenant] at hholds
    exact h.one _ _ _ _ ⟨b.number, value, hvalue, rfl⟩ hholds (h.contacts b hb value hvalue)
  attached := h.attached
  total := h.total

lemma NumbersStay.knows (hstay : NumbersStay db db') (h : PhoneKnows env db task) :
    PhoneKnows env db' task := by
  cases task with
  | identity number task =>
    cases task with
    | legacy t i => exact h
    | save t i candidate => exact ⟨h.1, fun c hc => hstay.holds _ _ _ (h.2 c hc)⟩
    | bindSave c t i => exact ⟨h.1, hstay.tenants _ _ h.2⟩
  | inbound t room callId number => exact h
  | outbound t number cleaned => exact h

section
variable (h : PhoneInv env s)
include h

lemma PhoneInv.wait {w : List PhoneTask} (hw : ∀ task ∈ w, PhoneKnows env s.db task) :
    PhoneInv env { s with waiting := w } :=
  { h with tasks := hw }

lemma PhoneInv.enqueue (task : PhoneTask) (hknows : PhoneKnows env s.db task) :
    PhoneInv env { s with waiting := s.waiting ++ [task] } := by
  refine h.wait ?_
  intro x hx
  rcases List.mem_append.1 hx with hx | hx
  · exact h.tasks x hx
  · rw [List.mem_singleton.1 hx]
    exact hknows

lemma PhoneInv.given (given : Option Text) (hstay : NumbersStay s.db db')
    (hrows : db'.bindings = s.db.bindings)
    (hnew : ∀ t' d m, Holds db' t' d m → Holds s.db t' d m ∨ (t' = t ∧ d = c ∧ given = some m))
    (hwidth : ∀ m, given = some m → m.length ≤ 60)
    (honly : ∀ m, given = some m → Normal env m → ∀ d, Holds s.db t d m → d = c) :
    PhoneInv env { s with db := db' } where
  width := by
    intro t' d m hm
    rcases hnew t' d m hm with hold | ⟨-, -, hm⟩
    · exact h.width _ _ _ hold
    · exact hwidth m hm
  one := by
    intro t' m d e hnormal hd he
    rcases hnew t' d m hd with hd | ⟨ht, rfl, hm⟩ <;>
      rcases hnew t' e m he with he | ⟨ht', rfl, hm'⟩
    · exact h.one _ _ _ _ hnormal hd he
    · rw [ht'] at hd
      exact honly m hm' hnormal d hd
    · rw [ht] at he
      exact (honly m hm hnormal e he).symm
    · rfl
  bound := by
    intro j b hb
    have hold : s.db.bindings.get? j = some b := by
      rw [← hrows]
      exact hb
    obtain ⟨hidentity, hholds⟩ := h.bound j b hold
    exact ⟨hidentity, hstay.holds _ _ _ hholds⟩
  contacts := fun a ha value hvalue => hstay.holds _ _ _ (h.contacts a ha value hvalue)
  attached := h.attached
  tasks := fun task htask => hstay.knows (h.tasks task htask)
  total := h.total

lemma PhoneInv.bind (hi : IdentityOf env number i) (hholds : Holds s.db t c (i.value.take 60)) :
    PhoneInv env { s with db := s.db.bind t i c } :=
  { h with
    bound := by
      intro j b hb
      rcases row_of_bind hb with rfl | hold
      · exact ⟨⟨number, hi⟩, hholds⟩
      · exact h.bound j b hold
    tasks := fun task htask => numbersStay_bind.knows (h.tasks task htask) }

lemma PhoneInv.contact (hi : IdentityOf env number i) (hholds : Holds s.db t c (i.value.take 60)) :
    PhoneInv env { s with contacts := ⟨t, number, c, none⟩ :: s.contacts } :=
  { h with
    contacts := by
      intro a ha value hvalue
      rcases List.mem_cons.1 ha with rfl | ha
      · obtain ⟨-, value', hvalue', heq⟩ := hi
        rw [hvalue] at hvalue'
        cases hvalue'
        rw [heq, List.take_take] at hholds
        exact hholds
      · exact h.contacts a ha value hvalue
    attached := by
      intro a ha d hd
      rcases List.mem_cons.1 ha with rfl | ha
      · cases hd
      · exact h.attached a ha d hd }

lemma PhoneInv.holds_of_binding (hb : findBinding s.db t i = some b) :
    Holds s.db t b.customerId (i.value.take 60) := by
  obtain ⟨rfl, rfl, j, hj⟩ := get?_of_findBinding hb
  exact (h.bound j b hj).2

lemma PhoneInv.attach {t : ℕ} {number : Text}
    (hholds : ∀ value, normalizePhone env.toIdentityEnv number = some value →
      Holds s.db (some t) c (value.take 60)) :
    PhoneInv env (s.attach env t number c) :=
  { h with
    contacts := by
      intro a ha value hvalue
      rcases List.mem_cons.1 ha with rfl | ha
      · exact hholds value hvalue
      · exact h.contacts a ha value hvalue
    attached := by
      intro a ha d hd
      rcases List.mem_cons.1 ha with rfl | ha
      · obtain ⟨value, hvalue, hbound⟩ := Option.bind_eq_some_iff.1 hd
        obtain ⟨b, hb, rfl⟩ := Option.map_eq_some_iff.1 hbound
        have hbinding := h.holds_of_binding hb
        rw [List.take_take] at hbinding
        exact h.one _ _ _ _ ⟨number, value, hvalue, rfl⟩ (hholds value hvalue) hbinding
      · exact h.attached a ha d hd }

end

/-! ## identity calls -/

section
variable (h : PhoneInv env s)
include h

lemma PhoneInv.resolved_of_binding (hi : IdentityOf env number i)
    (hb : findBinding s.db t i = some b) :
    PhoneInv env (s.resolved t number (returnBound s.db i b)) := by
  have hholds := h.holds_of_binding hb
  have hreturn : returnBound s.db i b = .returned b.customerId s.db := by
    obtain ⟨rfl, rfl, -⟩ := get?_of_findBinding hb
    have hprofile := applyProfile_of_holds hholds hi.1
    obtain ⟨-, x, hx, htenant, -⟩ := hholds
    unfold returnBound
    rw [hx, hprofile]
    exact if_pos htenant
  rw [hreturn]
  exact h.contact hi hholds

lemma PhoneInv.resolveStart
    (hn : normalizeCustomerIdentity env.toIdentityEnv identityType number = .ok i)
    (hkind : i.kind = .phone) :
    PhoneInv env (s.resolved t number
      (resolveStart s.db t env.toIdentityEnv identityType number)) := by
  have hi := identityOf_of_normalize hn hkind
  unfold Customers.resolveStart
  split
  · exact h
  · rw [hn]
    dsimp only
    split
    · rename_i b hb
      exact h.resolved_of_binding hi hb
    · exact h.enqueue (.identity number (.legacy t i)) hi

lemma PhoneInv.legacyCandidates_spec (hi : IdentityOf env number i) :
    legacyCandidates s.db t i = [] ∨
      ∃ c, legacyCandidates s.db t i = [c] ∧ Holds s.db t c i.value := by
  have hvalue : i.value ≠ [] := by
    intro hnil
    have hne := hi.normal.ne_nil
    rw [hnil] at hne
    exact hne rfl
  have hholds : ∀ c ∈ legacyCandidates s.db t i, Holds s.db t c i.value := by
    intro c hc
    obtain ⟨x, hx, htenant, hprofile⟩ := mem_legacyCandidates hc
    rw [hi.1] at hprofile
    exact ⟨hvalue, x, hx, htenant, hprofile⟩
  have hnodup : (legacyCandidates s.db t i).Nodup := by
    unfold legacyCandidates
    rw [List.map_take]
    exact (s.db.customers.nodup_keys_select _).sublist (List.take_sublist _ _)
  generalize legacyCandidates s.db t i = candidates at hholds hnodup ⊢
  cases candidates with
  | nil => exact .inl rfl
  | cons c rest =>
    have hc := hholds c (List.mem_cons_self ..)
    cases rest with
    | nil => exact .inr ⟨c, rfl, hc⟩
    | cons d rest =>
      have hd := hholds d (List.mem_cons_of_mem _ (List.mem_cons_self ..))
      have hnormal : Normal env i.value := by
        have hlen := h.width _ _ _ hc
        have htake := hi.normal
        rw [List.take_of_length_le hlen] at htake
        exact htake
      have heq := h.one _ _ _ _ hnormal hc hd
      rw [heq] at hnodup
      exact absurd (List.mem_cons_self ..) (List.nodup_cons.1 hnodup).1

lemma PhoneInv.legacy (hi : IdentityOf env number i) :
    PhoneInv env (s.resolved t number (legacyLookup s.db t i)) := by
  unfold legacyLookup
  rcases h.legacyCandidates_spec (t := t) hi with hnil | ⟨c, hc, hholds⟩
  · rw [hnil]
    exact h.enqueue (.identity number (.save t i none)) ⟨hi, nofun⟩
  · rw [hc]
    refine h.enqueue (.identity number (.save t i (some c))) ⟨hi, ?_⟩
    intro d hd
    cases hd
    exact hholds

lemma PhoneInv.save {candidate : Option ℕ}
    (hknows : PhoneKnows env s.db (.identity number (.save t i candidate)))
    (hfree : candidate = none → findBinding s.db t i = none →
      findByNumber s.db t (i.value.take 60) = none) :
    PhoneInv env (s.resolved t number (resolveSave s.db t i candidate)) := by
  obtain ⟨hi, hcandidate⟩ := hknows
  unfold resolveSave
  split
  · rename_i b hb
    exact h.resolved_of_binding hi hb
  · rename_i hnone
    cases candidate with
    | some c =>
      -- the candidate holds the number already
      have hholds := hcandidate c rfl
      have htake : i.value.take 60 = i.value := List.take_of_length_le (h.width _ _ _ hholds)
      have hcopy : Holds s.db t c (i.value.take 60) := by
        rw [htake]
        exact hholds
      dsimp only
      rw [applyProfile_of_holds hholds hi.1]
      exact (h.bind hi hcopy).contact hi hcopy
    | none =>
      have hunheld := not_holds_of_findByNumber (c := s.db.customers.next) (hfree rfl hnone)
      have hinsert : PhoneInv env
          { s with db := s.db.insertCustomer ⟨t, none, some (i.value.take 60), none⟩ } := by
        refine h.given (t := t) (c := s.db.customers.next) (some (i.value.take 60))
          numbersStay_insertCustomer rfl ?_ ?_ ?_
        · intro t' d m hm
          exact holds_insertCustomer hm
        · intro m hm
          cases hm
          exact List.length_take_le ..
        · intro m hm hnormal d hd
          cases hm
          exact absurd hd (not_holds_of_findByNumber (hfree rfl hnone))
      have hholds : Holds (s.db.insertCustomer ⟨t, none, some (i.value.take 60), none⟩) t
          s.db.customers.next (i.value.take 60) :=
        ⟨hi.normal.ne_nil, _, Table.get?_insert_self _ _, rfl, rfl⟩
      have hdone := (hinsert.bind hi hholds).contact hi hholds
      rw [← createCustomer_applyProfile hi.1] at hdone
      exact hdone

lemma PhoneInv.bindStart
    (hn : normalizeCustomerIdentity env.toIdentityEnv identityType number = .ok i)
    (hkind : i.kind = .phone) :
    PhoneInv env (s.joined number
      (bindStart s.db env.toIdentityEnv c identityType number)) := by
  have hi := identityOf_of_normalize hn hkind
  unfold Customers.bindStart
  split
  · exact h
  · rename_i x hx
    have htenant : tenantOf s.db c = some x.tenantId := by
      unfold tenantOf
      rw [hx]
      rfl
    split
    · exact h
    · rw [hn]
      dsimp only
      split
      · rename_i b hb
        split
        · rename_i hsame
          have hholds := h.holds_of_binding hb
          rw [hsame] at hholds
          rw [applyProfile_of_holds hholds hi.1]
          exact h
        · exact h
      · exact h.enqueue (.identity number (.bindSave c x.tenantId i)) ⟨hi, htenant⟩

lemma PhoneInv.bindSave (hknows : PhoneKnows env s.db (.identity number (.bindSave c t i)))
    (hfree : findBinding s.db t i = none → FreeFor s.db c (i.value.take 60) ∧
      HeldOnlyBy s.db t (i.value.take 60) c) :
    PhoneInv env (s.joined number (bindSave s.db t i c)) := by
  obtain ⟨hi, htenant⟩ := hknows
  unfold Customers.bindSave
  split
  · split
    · exact h
    · exact h
  · rename_i hnone
    obtain ⟨hcolumn, honly⟩ := hfree hnone
    obtain ⟨hstay, hholds, hnew⟩ := fill_spec hi.1 hi.normal.ne_nil htenant hcolumn
    have hfill : PhoneInv env { s with db := s.db.applyProfile i c } := by
      refine h.given (t := t) (c := c) (some (i.value.take 60)) hstay rfl ?_ ?_ ?_
      · intro t' d m hm
        rcases hnew t' d m hm with hold | ⟨rfl, rfl, rfl⟩
        · exact .inl hold
        · exact .inr ⟨rfl, rfl, rfl⟩
      · intro m hm
        cases hm
        exact List.length_take_le ..
      · intro m hm hnormal d hd
        cases hm
        -- the first holder is the customer, and there is one
        cases hfirst : findByNumber s.db t (i.value.take 60) with
        | none => exact absurd hd (not_holds_of_findByNumber hfirst)
        | some e =>
          have he := holds_of_findByNumber hfirst hnormal.ne_nil
          rw [honly e hfirst] at he
          exact h.one _ _ _ _ hnormal hd he
    exact hfill.bind hi hholds

end

/-! ## calls -/

lemma PhoneInv.insertCustomer (h : PhoneInv env s)
    (hwidth : ∀ m, x.phoneNormalized = some m → m.length ≤ 60)
    (hfree : ∀ m, x.phoneNormalized = some m → Normal env m →
      findByNumber s.db x.tenantId m = none) :
    PhoneInv env { s with db := s.db.insertCustomer x } := by
  refine h.given (t := x.tenantId) (c := s.db.customers.next) x.phoneNormalized
    numbersStay_insertCustomer rfl ?_ hwidth ?_
  · intro t' d m hm
    exact holds_insertCustomer hm
  · intro m hm hnormal d hd
    exact absurd hd (not_holds_of_findByNumber (hfree m hm hnormal))

lemma holds_of_insert {t : ℕ} {value : Text} (ht : x.tenantId = some t)
    (hphone : x.phoneNormalized = some value) (hne : value ≠ []) (hlen : value.length ≤ 60) :
    Holds (s.db.insertCustomer x) (some t) s.db.customers.next (value.take 60) := by
  rw [List.take_of_length_le hlen]
  exact ⟨hne, x, Table.get?_insert_self _ _, ht, hphone⟩

lemma length_cleanNumber {number : Option Text} (h : cleanNumber number = some m) :
    m.length ≤ 60 := by
  rw [(cleanNumber_eq h).1]
  exact List.length_take_le ..

lemma length_cleanPhone (h : cleanPhone number = .ok m) : m.length ≤ 60 :=
  (cleanPhone_eq h).2.2.trans (by decide)

lemma PhoneInv.inboundLookup (h : PhoneInv env s) {t : ℕ} {room callId : Text}
    {number : Option Text} (hform : OwnForm env (number.getD []) (cleanNumber number)) :
    PhoneInv env (inboundLookup env t room callId number s) := by
  unfold Customers.inboundLookup
  split
  · rename_i c hc
    obtain ⟨m, hm, hfound⟩ := Option.bind_eq_some_iff.1 hc
    have hattach : PhoneInv env (s.attach env t (number.getD []) c) := by
      refine h.attach ?_
      intro value hvalue
      have hsame := hform value hvalue
      rw [hm] at hsame
      cases hsame
      rw [List.take_of_length_le (length_cleanNumber hm)]
      exact holds_of_findByNumber hfound (cleanNumber_eq hm).2
    exact { hattach with }
  · exact h.enqueue (.inbound t room callId number) hform

lemma PhoneInv.outboundLookup (h : PhoneInv env s) {t : ℕ}
    (hclean : cleanPhone number = .ok cleaned) (hform : OwnForm env number (some cleaned)) :
    PhoneInv env (outboundLookup env t number cleaned s) := by
  unfold Customers.outboundLookup
  split
  · rename_i c hc
    refine h.attach ?_
    intro value hvalue
    cases hform value hvalue
    rw [List.take_of_length_le (length_cleanPhone hclean)]
    exact holds_of_findByNumber hc (cleanPhone_eq hclean).2.1
  · exact h.enqueue (.outbound t number cleaned) ⟨hclean, hform⟩

lemma PhoneInv.inboundInsert (h : PhoneInv env s) {t : ℕ} {room callId : Text}
    {number : Option Text} (hform : OwnForm env (number.getD []) (cleanNumber number))
    (hfree : ∀ value, normalizePhone env.toIdentityEnv (number.getD []) = some value →
      findByNumber s.db (some t) value = none) :
    PhoneInv env (proceedPhone env (.inbound t room callId number) s) := by
  have hinsert : PhoneInv env
      { s with db := s.db.insertCustomer (inboundCustomer t callId number) } := by
    refine h.insertCustomer (fun m hm => length_cleanNumber hm) ?_
    intro m hm hnormal
    cases hvalue : normalizePhone env.toIdentityEnv (number.getD []) with
    | none => exact absurd hnormal (not_normal_of_cleanNumber hm hvalue)
    | some value =>
      have hsame := hform value hvalue
      rw [show cleanNumber number = some m from hm] at hsame
      cases hsame
      exact hfree m hvalue
  refine PhoneInv.attach (s := { s with
    db := s.db.insertCustomer (inboundCustomer t callId number)
    sessions := (room, callId) :: s.sessions }) { hinsert with } ?_
  intro value hvalue
  have hclean := hform value hvalue
  exact holds_of_insert rfl hclean (cleanNumber_eq hclean).2 (length_cleanNumber hclean)

lemma PhoneInv.outboundInsert (h : PhoneInv env s) {t : ℕ}
    (hclean : cleanPhone number = .ok cleaned) (hform : OwnForm env number (some cleaned))
    (hfree : ∀ value, normalizePhone env.toIdentityEnv number = some value →
      findByNumber s.db (some t) value = none) :
    PhoneInv env (proceedPhone env (.outbound t number cleaned) s) := by
  have hinsert : PhoneInv env
      { s with db := s.db.insertCustomer (outboundCustomer env t cleaned) } := by
    refine h.insertCustomer ?_ ?_
    · intro m hm
      cases hm
      exact length_cleanPhone hclean
    · intro m hm hnormal
      cases hm
      cases hvalue : normalizePhone env.toIdentityEnv number with
      | none => exact absurd hnormal (not_normal_of_cleanPhone hclean hvalue)
      | some value =>
        cases hform value hvalue
        exact hfree _ hvalue
  refine hinsert.attach ?_
  intro value hvalue
  cases hform value hvalue
  exact holds_of_insert rfl rfl (cleanPhone_eq hclean).2.1 (length_cleanPhone hclean)

/-! ## runs -/

lemma phoneInv_step (h : PhoneInv env s) (e : PhoneEvent) (hg : Orderly env s e) :
    PhoneInv env (phoneStep env e s) := by
  cases e with
  | resolve t identityType number =>
    unfold phoneStep
    dsimp only
    split
    · rename_i value hn
      exact h.resolveStart hn rfl
    · exact h
  | bind c identityType number =>
    unfold phoneStep
    dsimp only
    split
    · rename_i value hn
      exact h.bindStart hn rfl
    · exact h
  | inbound t room callId number =>
    unfold phoneStep
    dsimp only
    split
    · exact h
    · rename_i hnew
      rw [not_or, Bool.not_eq_true] at hnew
      exact h.inboundLookup (hg hnew.1)
  | outbound t number =>
    unfold phoneStep
    dsimp only
    split
    · exact h
    · rename_i cleaned hclean
      split
      · exact h
      · exact h.outboundLookup hclean (hg cleaned hclean)
  | proceed k =>
    unfold phoneStep
    dsimp only
    split
    · exact h
    · rename_i task htask
      have horderly := hg task htask
      have hknows := h.tasks task (List.mem_of_getElem? htask)
      have herase : PhoneInv env { s with waiting := s.waiting.eraseIdx k } :=
        h.wait fun x hx => h.tasks x (List.mem_of_mem_eraseIdx hx)
      cases task with
      | identity number task =>
        cases task with
        | legacy t i => exact herase.legacy hknows
        | save t i candidate =>
          refine herase.save hknows ?_
          rintro rfl
          exact horderly
        | bindSave c t i => exact herase.bindSave hknows horderly
      | inbound t room callId number => exact herase.inboundInsert hknows horderly
      | outbound t number cleaned => exact herase.outboundInsert hknows.1 hknows.2 horderly

end Invariant

theorem one_number (env : PhoneEnv) (l : List PhoneEvent)
    (h : Along (phoneStep env) (Orderly env) PhoneRun.empty l) :
    ∀ p, p <+: l → OneNumber env (run (phoneStep env) PhoneRun.empty p) := by
  rintro p ⟨rest, rfl⟩
  have hprefix := ((along_append _ _ _).1 h).1
  have hinv := Along.invariant (I := PhoneInv env) (fun s e hs hg => phoneInv_step hs e hg)
    phoneInv_empty hprefix
  exact hinv.oneNumber

/-- an incoming call, a resolve and an outgoing call of one number. -/
def threeChannels : List PhoneEvent :=
  [.inbound 1 [] ['a'] (some "+41791".toList), .proceed 0,
   .resolve (some 1) "phone".toList "+41 (79) 1".toList, .proceed 0, .proceed 0,
   .outbound 1 "+41 791".toList]

def plainPhoneEnv : PhoneEnv where
  toIdentityEnv := plainEnv
  sha256 := id

/-- the three have one customer. -/
theorem one_number_threeChannels :
    OneNumber plainPhoneEnv (run (phoneStep plainPhoneEnv) PhoneRun.empty threeChannels) :=
  one_number plainPhoneEnv threeChannels (by decide +kernel) threeChannels (List.prefix_refl _)

def bracketedCall : List PhoneEvent :=
  [.resolve (some 1) "phone".toList "+41791".toList, .proceed 0, .proceed 0,
   .inbound 1 [] ['a'] (some "+41(79)1".toList), .proceed 0]

theorem bracketed_number_splits :
    ¬OneNumber plainPhoneEnv (run (phoneStep plainPhoneEnv) PhoneRun.empty bracketedCall) := by
  intro h
  have hcontacts : (run (phoneStep plainPhoneEnv) PhoneRun.empty bracketedCall).contacts =
      [⟨some 1, "+41(79)1".toList, 2, some 1⟩, ⟨some 1, "+41791".toList, 1, none⟩] := by
    decide +kernel
  have hattached := h.attached
  rw [hcontacts] at hattached
  exact absurd (hattached _ (List.mem_cons_self ..) 1 rfl) (by decide)

end NexusHelpdesk.Customers
