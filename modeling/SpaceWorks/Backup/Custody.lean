import SpaceWorks.Library.Checked
import SpaceWorks.Library.Runs
import SpaceWorks.Library.Table

/-!
# Archive custody

The custody state of one makerspace (`custody.py`) under changes of its recipients (`recipients.py`,
`recipient_states.py`) and of superadmin access (`activation.py`), each one step under its lock.
-/

namespace SpaceWorks
namespace Custody

open Checked TransactionalSystem Table Option

/-- `MakerspaceArchiveRecipient`, with the digest of the nonce. -/
structure Recipient where
  id : Nat
  fingerprint : String
  verifiedAt : Option Nat
  revokedAt : Option Nat
  compromisedAt : Option Nat
  challengeNonceDigest : String
  challengeIssuedAt : Option Nat

instance : Keyed Recipient Nat := ⟨Recipient.id⟩

def Recipient.effective (recipient : Recipient) : Bool :=
  recipient.verifiedAt.isSome && recipient.revokedAt.isNone && recipient.compromisedAt.isNone

inductive Level where
  | healthy
  | notApplicable
  | degradedOneRecipient
  | floorBreachedZero
  deriving DecidableEq

structure CustodyState where
  state : Level := .healthy
  reasonCode : String := ""
  enteredAt : Nat
  clearedAt : Option Nat := none
  lastAlarmAt : Option Nat := none
  triggeringRecipient : Option Nat := none
  alarmEpisode : Nat := 0
  alarmRevision : Nat := 0

structure State where
  superadminAccessEnabled : Bool
  recipients : Table Recipient
  custody : Option CustodyState

/-- What a caller did while it held the custody lock. -/
structure Change where
  superadminAccessEnabled : Bool
  recipients : Table Recipient
  compromised : Option Nat := none

def recipientFloor : Nat := 2

def verifiedRecipientCount (recipients : Table Recipient) : Nat :=
  recipients.sum fun recipient => if recipient.effective then 1 else 0

def recordHealthy (current : Option CustodyState) (now : Nat) : CustodyState :=
  match current with
  | none => { enteredAt := now, alarmRevision := 1 }
  | some current =>
    if current.state = .healthy ∧ current.reasonCode = "" ∧ current.triggeringRecipient = none then
      current
    else
      { current with
        state := .healthy
        reasonCode := ""
        clearedAt := some now
        lastAlarmAt := none
        triggeringRecipient := none
        alarmRevision :=
          if current.state ≠ .healthy ∨ current.reasonCode ≠ "" then current.alarmRevision + 1
          else current.alarmRevision }

def recordNotApplicable (current : Option CustodyState) (now : Nat) : CustodyState :=
  match current with
  | none => { state := .notApplicable, enteredAt := now, clearedAt := some now, alarmRevision := 1 }
  | some current =>
    if current.state = .notApplicable ∧ current.reasonCode = "" ∧
        current.triggeringRecipient = none ∧ current.clearedAt ≠ none ∧
        current.lastAlarmAt = none then
      current
    else
      { current with
        state := .notApplicable
        reasonCode := ""
        clearedAt := some now
        lastAlarmAt := none
        triggeringRecipient := none
        alarmRevision :=
          if current.state ≠ .notApplicable ∨ current.reasonCode ≠ "" then
            current.alarmRevision + 1
          else current.alarmRevision }

def breachReason (current : Option CustodyState) (compromised : Option Nat) : String :=
  if compromised.isSome then "recipient_compromised"
  else match current with
    | some current =>
      if current.reasonCode = "" then "recipient_count_below_floor" else current.reasonCode
    | none => "recipient_count_below_floor"

def recordBreach (current : Option CustodyState) (compromised : Option Nat) (target : Level)
    (now : Nat) : CustodyState :=
  let freshEpisode := current.all fun row => row.state = .healthy || row.state = .notApplicable
  let reasonCode := breachReason current compromised
  let changed := current.all fun row => row.state ≠ target || row.reasonCode ≠ reasonCode
  let row := current.getD { enteredAt := now }
  { state := target
    reasonCode := reasonCode
    enteredAt := if freshEpisode then now else row.enteredAt
    clearedAt := none
    lastAlarmAt := if freshEpisode || changed then none else row.lastAlarmAt
    triggeringRecipient := compromised.or row.triggeringRecipient
    alarmEpisode := if freshEpisode then row.alarmEpisode + 1 else row.alarmEpisode
    alarmRevision := if changed then row.alarmRevision + 1 else row.alarmRevision }

def syncCustodyState (current : Option CustodyState) (change : Change) (now : Nat) :
    CustodyState :=
  if change.superadminAccessEnabled then recordNotApplicable current now
  else if recipientFloor ≤ verifiedRecipientCount change.recipients then recordHealthy current now
  else recordBreach current change.compromised
    (if verifiedRecipientCount change.recipients = 1 then .degradedOneRecipient
      else .floorBreachedZero) now

def State.withCustodyLock (s : State) (now : Nat) (change : Except String Change) :
    Except String State := do
  let change ← change
  pure ⟨change.superadminAccessEnabled, change.recipients,
    some (syncCustodyState s.custody change now)⟩

section Operations

/-- `fresh`: no one reserved the fingerprint; `consistent`: the activation row agrees with the
switch. -/
inductive Op where
  | enroll (id : Nat) (fingerprint digest : String)
  | reissue (id : Nat) (digest : String)
  | alarm
  | refresh
  | verify (id : Nat) (digest : String) (lifetime : Nat) (fresh : Bool)
  | revoke (id : Nat)
  | compromise (id : Nat)
  | reactivate (id : Nat)
  | setSuperadminAccess (enabled consistent : Bool)

variable (s : State) (now : Nat)

def State.save (recipient : Recipient) : Change :=
  ⟨s.superadminAccessEnabled, s.recipients.put recipient, none⟩

def State.verifyRecipient (id : Nat) (digest : String) (lifetime : Nat) (fresh : Bool) :
    Except String Change := do
  let recipient ← orRefuse (s.recipients.get? id) "DoesNotExist"
  require (recipient.verifiedAt = none) "This recipient is already verified."
  let issuedAt ← orRefuse (if recipient.challengeNonceDigest = "" then none
    else recipient.challengeIssuedAt) "This recipient has no active challenge."
  require (now < issuedAt + lifetime) "This recipient challenge has expired."
  require (recipient.challengeNonceDigest = digest) "The recipient challenge response is invalid."
  require fresh "This age recipient is already reserved."
  pure (s.save { recipient with verifiedAt := some now, challengeNonceDigest := "" })

def State.revokeRecipient (id : Nat) : Except String Change := do
  let locked ← orRefuse (s.recipients.get? id) "DoesNotExist"
  require (¬ (locked.effective ∧ verifiedRecipientCount s.recipients ≤ recipientFloor))
    "At least two verified archive recipients must remain active."
  pure (s.save { locked with revokedAt := some now })

def State.compromiseRecipient (id : Nat) : Except String Change := do
  let locked ← orRefuse (s.recipients.get? id) "DoesNotExist"
  pure { s.save { locked with compromisedAt := some now } with
    compromised := if locked.effective then some id else none }

def State.reactivateRecipient (id : Nat) : Except String Change := do
  let locked ← orRefuse (s.recipients.get? id) "DoesNotExist"
  require (locked.compromisedAt = none) "A compromised recipient cannot be reactivated."
  require (locked.revokedAt ≠ none) "This recipient is not revoked."
  pure (s.save { locked with revokedAt := none })

def State.setSuperadminAccess (enabled consistent : Bool) : Except String Change := do
  require consistent "ActivationStateInvariantError"
  require (enabled = s.superadminAccessEnabled ∨ enabled ∨
      recipientFloor ≤ verifiedRecipientCount s.recipients)
    "At least two verified archive recipients are required."
  pure ⟨enabled, s.recipients, none⟩

def step (s : State) : Op × Nat → Except String State
  | (.enroll id fingerprint digest, now) => do
    let recipients ← s.recipients.insertNew
      ⟨id, fingerprint, none, none, none, digest, some now⟩ "IntegrityError"
    pure { s with recipients := recipients }
  | (.reissue id digest, now) => do
    let locked ← orRefuse (s.recipients.get? id) "DoesNotExist"
    require (locked.verifiedAt = none) "A verified recipient cannot be reissued."
    let challenged := { locked with challengeNonceDigest := digest, challengeIssuedAt := some now }
    pure { s with recipients := s.recipients.put challenged }
  | (.alarm, now) =>
    pure { s with custody := s.custody.map fun row => { row with lastAlarmAt := some now } }
  | (.refresh, now) =>
    s.withCustodyLock now (pure ⟨s.superadminAccessEnabled, s.recipients, none⟩)
  | (.verify id digest lifetime fresh, now) =>
    s.withCustodyLock now (s.verifyRecipient now id digest lifetime fresh)
  | (.revoke id, now) => s.withCustodyLock now (s.revokeRecipient now id)
  | (.compromise id, now) => s.withCustodyLock now (s.compromiseRecipient now id)
  | (.reactivate id, now) => s.withCustodyLock now (s.reactivateRecipient id)
  | (.setSuperadminAccess enabled consistent, now) =>
    s.withCustodyLock now (s.setSuperadminAccess enabled consistent)

def Op.locks : Op → Bool
  | .enroll .. | .reissue .. | .alarm => false
  | _ => true

end Operations

section

/-- What superadmin access and effective recipients dictate. -/
def dictated (superadminAccessEnabled : Bool) (count : Nat) : Level :=
  if superadminAccessEnabled then .notApplicable
  else if recipientFloor ≤ count then .healthy
  else if count = 1 then .degradedOneRecipient
  else .floorBreachedZero

def Dictated (s : State) : Prop :=
  ∀ row, s.custody = some row →
    row.state = dictated s.superadminAccessEnabled (verifiedRecipientCount s.recipients)

def Breached (custody : Option CustodyState) : Bool :=
  custody.any fun row => row.state = .degradedOneRecipient || row.state = .floorBreachedZero

def subject (custody : Option CustodyState) : Option (Level × String) :=
  custody.map fun row => (row.state, row.reasonCode)

/-- Episodes count the breaches entered, revisions the changes. -/
def Alarmed (before after : Option CustodyState) : Prop :=
  (after.elim 0 CustodyState.alarmEpisode = before.elim 0 CustodyState.alarmEpisode +
    if Breached after ∧ ¬ Breached before then 1 else 0) ∧
  after.elim 0 CustodyState.alarmRevision = before.elim 0 CustodyState.alarmRevision +
    if subject before ≠ subject after then 1 else 0

variable {s t : State} {now : Nat}

theorem syncCustodyState_state (current : Option CustodyState) (change : Change) :
    (syncCustodyState current change now).state =
      dictated change.superadminAccessEnabled (verifiedRecipientCount change.recipients) := by
  unfold syncCustodyState dictated
  split
  · cases current with
    | none => rfl
    | some =>
      rw [recordNotApplicable]
      split
      · next hsame => exact hsame.1
      · rfl
  · split
    · cases current with
      | none => rfl
      | some =>
        rw [recordHealthy]
        split
        · next hsame => exact hsame.1
        · rfl
    · rfl

theorem alarmed_recordNotApplicable (current : Option CustodyState) :
    Alarmed current (some (recordNotApplicable current now)) := by
  cases current with
  | none => simp [Alarmed, recordNotApplicable, Breached, subject]
  | some row =>
    rw [recordNotApplicable]
    split
    · simp [Alarmed]
    · by_cases hstate : row.state = .notApplicable <;> by_cases hreason : row.reasonCode = "" <;>
        simp [Alarmed, Breached, subject, hstate, hreason]

theorem alarmed_recordHealthy (current : Option CustodyState) :
    Alarmed current (some (recordHealthy current now)) := by
  cases current with
  | none => simp [Alarmed, recordHealthy, Breached, subject]
  | some row =>
    rw [recordHealthy]
    split
    · simp [Alarmed]
    · by_cases hstate : row.state = .healthy <;> by_cases hreason : row.reasonCode = "" <;>
        simp [Alarmed, Breached, subject, hstate, hreason]

theorem alarmed_recordBreach (current : Option CustodyState) (compromised : Option Nat)
    {target : Level} (h : target = .degradedOneRecipient ∨ target = .floorBreachedZero) :
    Alarmed current (some (recordBreach current compromised target now)) := by
  have hbreached : Breached (some (recordBreach current compromised target now)) = true := by
    rcases h with rfl | rfl <;> rfl
  cases current with
  | none => rcases h with rfl | rfl <;> simp [Alarmed, recordBreach, Breached, subject]
  | some row =>
    have hfresh : (row.state = .healthy ∨ row.state = .notApplicable) ↔
        ¬ Breached (some row) = true := by
      cases hstate : row.state <;> simp [Breached, hstate]
    refine ⟨?_, ?_⟩
    · rw [hbreached]
      by_cases hrow : Breached (some row) = true
      · simp [recordBreach, hrow, hfresh]
      · simp [recordBreach, hrow, hfresh]
    · by_cases hsame : row.state = target ∧ row.reasonCode = breachReason (some row) compromised
      · simp [recordBreach, subject, ← hsame.1, ← hsame.2]
      · have hchanged : row.state ≠ target ∨
            row.reasonCode ≠ breachReason (some row) compromised := by
          simpa [imp_iff_not_or] using hsame
        simp [recordBreach, subject, hsame, hchanged]

theorem alarmed_syncCustodyState (current : Option CustodyState) (change : Change) :
    Alarmed current (some (syncCustodyState current change now)) := by
  unfold syncCustodyState
  split
  · exact alarmed_recordNotApplicable current
  · split
    · exact alarmed_recordHealthy current
    · refine alarmed_recordBreach current change.compromised ?_
      split
      · exact .inl rfl
      · exact .inr rfl

variable {id : Nat} {locked new : Recipient} {change : Except String Change}

/-- At most one recipient is added or written, and a compromised one stays so. -/
def Evolves (before after : Table Recipient) : Prop :=
  after = before ∨ (∃ new h, after = before.insert new h) ∨
    ∃ locked new, before.get? (Keyed.key new) = some locked ∧ after = before.put new ∧
      (locked.compromisedAt ≠ none → new.compromisedAt ≠ none)

theorem Evolves.compromised {before after : Table Recipient} (h : Evolves before after)
    (hid : ∃ r, before.get? id = some r ∧ r.compromisedAt ≠ none) :
    ∃ r, after.get? id = some r ∧ r.compromisedAt ≠ none := by
  obtain ⟨r, hget, hcompromised⟩ := hid
  rcases h with rfl | ⟨new, hnew, rfl⟩ | ⟨_, new, hlocked, rfl, hkept⟩
  · exact ⟨r, hget, hcompromised⟩
  · refine ⟨r, ?_, hcompromised⟩
    rw [get?_insert, if_neg, hget]
    rintro rfl
    rw [hnew] at hget
    cases hget
  · by_cases hid : id = Keyed.key new
    · subst hid
      rw [hlocked] at hget
      cases hget
      exact ⟨new, get?_put_self hlocked, hkept hcompromised⟩
    · exact ⟨r, by rw [get?_put_of_ne _ hid, hget], hcompromised⟩

theorem evolves_put (hget : s.recipients.get? id = some locked)
    (hid : new.id = locked.id) (hkept : locked.compromisedAt ≠ none → new.compromisedAt ≠ none) :
    Evolves s.recipients (s.recipients.put new) := by
  refine .inr (.inr ⟨locked, new, ?_, rfl, hkept⟩)
  have hkey : Keyed.key new = id := hid.trans (key_of_get? hget)
  rw [hkey, hget]

theorem withCustodyLock_ok :
    s.withCustodyLock now change = .ok t ↔ ∃ done, change = .ok done ∧
      ⟨done.superadminAccessEnabled, done.recipients,
        some (syncCustodyState s.custody done now)⟩ = t := by
  simp [State.withCustodyLock]

theorem spec_of_lock {locks : Bool} (h : s.withCustodyLock now change = .ok t)
    (hchange : ∀ done, change = .ok done → Evolves s.recipients done.recipients) :
    (locks = true → t.custody ≠ none) ∧ Dictated t ∧ Alarmed s.custody t.custody ∧
      Evolves s.recipients t.recipients := by
  obtain ⟨done, hdone, rfl⟩ := withCustodyLock_ok.mp h
  refine ⟨fun _ => some_ne_none _, ?_, alarmed_syncCustodyState s.custody done, hchange done hdone⟩
  rintro _ hrow
  cases hrow
  exact syncCustodyState_state s.custody done

theorem alarmed_refl (custody : Option CustodyState) : Alarmed custody custody := by
  simp [Alarmed]

theorem verifiedRecipientCount_put
    (hget : s.recipients.get? id = some locked) (hid : new.id = locked.id)
    (heffective : new.effective = locked.effective) :
    verifiedRecipientCount (s.recipients.put new) = verifiedRecipientCount s.recipients := by
  have hkey : Keyed.key new = id := hid.trans (key_of_get? hget)
  have hsum := sum_put (hkey ▸ hget) fun r : Recipient => if r.effective then 1 else 0
  rw [heffective] at hsum
  exact Nat.add_right_cancel hsum

theorem step_spec {op : Op} (hs : Dictated s) (h : step s (op, now) = .ok t) :
    (op.locks = true → t.custody ≠ none) ∧ Dictated t ∧ Alarmed s.custody t.custody ∧
      Evolves s.recipients t.recipients := by
  cases op with
  | enroll =>
    simp only [step, bind_ok, insertNew_ok, pure_ok] at h
    obtain ⟨_, ⟨hnew, rfl⟩, rfl⟩ := h
    refine ⟨fun hlocks => (by cases hlocks), fun row hrow => ?_, alarmed_refl _,
      .inr (.inl ⟨_, hnew, rfl⟩)⟩
    have hcount := sum_insert hnew fun r : Recipient => if r.effective then 1 else 0
    rw [hs row hrow, verifiedRecipientCount, verifiedRecipientCount, hcount]
    rfl
  | reissue _ digest =>
    simp [step] at h
    obtain ⟨locked, hget, _, rfl⟩ := h
    refine ⟨fun hlocks => (by cases hlocks), fun row hrow => ?_, alarmed_refl _,
      evolves_put hget rfl fun hkept => hkept⟩
    have hcount : verifiedRecipientCount (s.recipients.put { locked with
        challengeNonceDigest := digest, challengeIssuedAt := some now }) = _ :=
      verifiedRecipientCount_put hget rfl rfl
    rw [hs row hrow, hcount]
  | alarm =>
    simp [step] at h
    subst h
    obtain ⟨_, _, custody⟩ := s
    cases custody with
    | none =>
      exact ⟨fun hlocks => (by cases hlocks), fun row hrow => (by cases hrow), alarmed_refl _,
        .inl rfl⟩
    | some row =>
      refine ⟨fun hlocks => (by cases hlocks), fun row' hrow => ?_, ?_, .inl rfl⟩
      · cases hrow
        exact hs row rfl
      · have halarmed := alarmed_refl (some row)
        exact ⟨halarmed.1, halarmed.2⟩
  | refresh =>
    refine spec_of_lock h fun done hdone => .inl ?_
    rw [pure_ok] at hdone
    exact hdone ▸ rfl
  | verify =>
    refine spec_of_lock h fun done hdone => ?_
    simp [State.verifyRecipient] at hdone
    obtain ⟨_, hget, -, -, -, -, -, -, -, -, -, -, rfl⟩ := hdone
    exact evolves_put hget rfl fun hkept => hkept
  | revoke =>
    refine spec_of_lock h fun done hdone => ?_
    simp [State.revokeRecipient] at hdone
    obtain ⟨_, hget, -, -, rfl⟩ := hdone
    exact evolves_put hget rfl fun hkept => hkept
  | compromise =>
    refine spec_of_lock h fun done hdone => ?_
    simp [State.compromiseRecipient] at hdone
    obtain ⟨_, hget, rfl⟩ := hdone
    exact evolves_put hget rfl fun _ => some_ne_none now
  | reactivate =>
    refine spec_of_lock h fun done hdone => ?_
    simp [State.reactivateRecipient] at hdone
    obtain ⟨_, hget, -, -, -, -, rfl⟩ := hdone
    exact evolves_put hget rfl fun hkept => hkept
  | setSuperadminAccess =>
    refine spec_of_lock h fun done hdone => .inl ?_
    simp [State.setSuperadminAccess] at hdone
    obtain ⟨-, -, -, -, rfl⟩ := hdone
    rfl

theorem floor_of_revoke (h : step s (.revoke id, now) = .ok t)
    (hfloor : recipientFloor ≤ verifiedRecipientCount s.recipients) :
    recipientFloor ≤ verifiedRecipientCount t.recipients := by
  obtain ⟨_, hdone, rfl⟩ := withCustodyLock_ok.mp h
  simp only [State.revokeRecipient, bind_ok, orRefuse_ok, require_ok, pure_ok] at hdone
  obtain ⟨locked, hget, -, hguard, rfl⟩ := hdone
  have hid : locked.id = id := key_of_get? hget
  have hsum := sum_put (r := { locked with revokedAt := some now }) (hid ▸ hget)
    fun r : Recipient => if r.effective then 1 else 0
  have hrevoked : ({ locked with revokedAt := some now } : Recipient).effective = false := by
    simp [Recipient.effective]
  simp only [hrevoked] at hsum
  simp only [State.save]
  unfold verifiedRecipientCount recipientFloor at hguard hfloor ⊢
  by_cases heffective : locked.effective = true
  · simp only [heffective, true_and, Nat.not_le, if_true] at hguard hsum
    omega
  · simp [heffective] at hsum
    omega

/-- The stored state is the dictated one, alarm counters count exactly, a revocation keeps the
floor, and a compromised recipient is never effective again. -/
theorem custody_follows {s₀ : State} {ops : List (Op × Nat)} {op : Op} (hs₀ : Dictated s₀)
    (h : step (run step s₀ ops) (op, now) = .ok t) :
    (op.locks = true → t.custody ≠ none) ∧ Dictated t ∧
    Alarmed (run step s₀ ops).custody t.custody ∧
    (∀ id, op = .revoke id → recipientFloor ≤ verifiedRecipientCount (run step s₀ ops).recipients →
      recipientFloor ≤ verifiedRecipientCount t.recipients) ∧
    ∀ id, (∃ r, t.recipients.get? id = some r ∧ r.compromisedAt ≠ none) →
      ∀ later r, (run step t later).recipients.get? id = some r → r.effective = false := by
  have hpreserves : Preserves step Dictated := fun s op t hs hstep => (step_spec hs hstep).2.1
  have hs := run_preserves hpreserves hs₀ ops
  obtain ⟨hrow, hdictated, halarmed, -⟩ := step_spec hs h
  refine ⟨hrow, hdictated, halarmed, ?_, ?_⟩
  · rintro _ rfl hfloor
    exact floor_of_revoke h hfloor
  · intro id hcompromised later r hget
    have hkept : Preserves step fun s => Dictated s ∧
        ∃ r, s.recipients.get? id = some r ∧ r.compromisedAt ≠ none := by
      intro s op t hs hstep
      obtain ⟨-, hdictated, -, hevolves⟩ := step_spec hs.1 hstep
      exact ⟨hdictated, hevolves.compromised hs.2⟩
    obtain ⟨-, _, hget', hcompromised'⟩ := run_preserves hkept ⟨hdictated, hcompromised⟩ later
    obtain rfl := some.inj (hget.symm.trans hget')
    cases hat : r.compromisedAt with
    | none => exact absurd hat hcompromised'
    | some => simp [Recipient.effective, hat]

def pair : Table Recipient :=
  ⟨[⟨1, "a", some 1, none, none, "", none⟩, ⟨2, "b", some 2, none, none, "", none⟩], by decide⟩

theorem compromise_is_alarmed :
    ∃ t, step (run step ⟨false, pair, none⟩ [(.refresh, 5)]) (.compromise 1, 6) = .ok t ∧
      t.custody ≠ none ∧ Dictated t ∧
      Alarmed (some { enteredAt := 5, alarmRevision := 1 }) t.custody := by
  have hspec := @custody_follows _ 6 ⟨false, pair, none⟩ [(.refresh, 5)] (.compromise 1)
    (fun row hrow => (nomatch hrow)) rfl
  exact ⟨_, rfl, hspec.1 rfl, hspec.2.1, hspec.2.2.1⟩

end

end Custody
end SpaceWorks
