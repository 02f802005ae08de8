import SpaceWorks.Migration.Deployments

/-!
# Source and target are never both live

A cutover receipt exists only while its source is handed over, an abort receipt only once the target
is aborted, and a job's target leaves the importing state once.
-/

namespace SpaceWorks
namespace Migration

open Checked Table List Option Prod

variable {δ : Type} [DecidableEq δ]

section Inversion

variable {self : δ} {d d' : Deployment δ} {pairing : Pairing δ} {receipt : Receipt δ}
  {operation : Operation} {receiptId migrationId spaceId jobId : Nat}
  {envelope : Receipt δ}

theorem approvePairing_cases (h : d.approvePairing self pairing = .ok d') :
    pairing.source ≠ pairing.target ∧ (self = pairing.source ∨ self = pairing.target) ∧
      (d' = d ∨ ∃ hnew, d' = { d with pairings := d.pairings.insert pairing hnew }) := by
  simp only [Deployment.approvePairing, bind_ok, require_ok] at h
  obtain ⟨_, hdistinct, _, hlocal, h⟩ := h
  refine ⟨hdistinct, hlocal, ?_⟩
  split at h
  · simp at h
    obtain ⟨_, _, rfl⟩ := h
    exact .inl rfl
  · simp only [bind_ok, insertNew_ok, pure_ok] at h
    obtain ⟨_, ⟨hnew, rfl⟩, rfl⟩ := h
    exact .inr ⟨hnew, rfl⟩

theorem issueLocalReceipt_cases
    (h : d.issueLocalReceipt self pairing operation receiptId = .ok (d', receipt)) :
    (d' = d ∧ ∃ row, d.receipts.get? (pairing.migrationId, operation) = some row ∧
        row.issuedHere = true ∧ row.receipt = receipt) ∨
      (self = pairing.signer operation ∧
        receipt = {
          receiptId := receiptId, operation := operation, pairing := pairing, signer := self } ∧
        ∃ hnew, d' = { d with
          receipts := d.receipts.insert { receipt := receipt, issuedHere := true } hnew }) := by
  unfold Deployment.issueLocalReceipt at h
  split at h
  · next row hrow =>
      simp only [bind_ok, require_ok, pure_ok, mk.injEq] at h
      obtain ⟨_, hhere, rfl, rfl⟩ := h
      exact .inl ⟨rfl, row, hrow, hhere, rfl⟩
  · simp only [bind_ok, require_ok, insertNew_ok, pure_ok, mk.injEq] at h
    obtain ⟨_, hself, _, ⟨hnew, rfl⟩, rfl, rfl⟩ := h
    exact .inr ⟨hself, rfl, hnew, rfl⟩

theorem verifyPeerReceipt_cases
    (h : d.verifyPeerReceipt pairing envelope operation = .ok (d', receipt)) :
    receipt = envelope ∧ envelope.operation = operation ∧ envelope.pairing = pairing ∧
      (d' = d ∨ ∃ hnew, d' = { d with
        receipts := d.receipts.insert { receipt := envelope, issuedHere := false } hnew }) := by
  simp only [Deployment.verifyPeerReceipt, bind_ok, require_ok] at h
  obtain ⟨_, _, _, ⟨hoperation, hpairing⟩, h⟩ := h
  split at h
  · simp only [bind_ok, require_ok, pure_ok, mk.injEq] at h
    obtain ⟨_, hsame, rfl, rfl⟩ := h
    exact ⟨hsame, hoperation, hpairing, .inl rfl⟩
  · simp only [bind_ok, insertNew_ok, pure_ok, mk.injEq] at h
    obtain ⟨_, ⟨hnew, rfl⟩, rfl, rfl⟩ := h
    exact ⟨rfl, hoperation, hpairing, .inr ⟨hnew, rfl⟩⟩

omit [DecidableEq δ] in
theorem consumeOnce_cases {purpose : ConsumptionPurpose}
    (h : d.consumeOnce receipt purpose = .ok d') :
    ∃ hnew, d' = { d with consumptions :=
      d.consumptions.insert { receiptId := receipt.receiptId, purpose := purpose } hnew } := by
  simp only [Deployment.consumeOnce, bind_ok, insertNew_ok, pure_ok] at h
  obtain ⟨_, ⟨hnew, rfl⟩, rfl⟩ := h
  exact ⟨hnew, rfl⟩

/-- A retirement returns its earlier receipt, or hands over and gets one. -/
theorem retireSource_cases
    (h : d.retireSource self migrationId spaceId receiptId = .ok (d', receipt)) :
    (d' = d ∧ ∃ row ∈ d.receipts, row.receipt = receipt) ∨
      ∃ pairing ∈ d.pairings, ∃ space issued, d.spaces.get? space.id = some space ∧
        space.id = pairing.sourceTenantId ∧ space.handoff = none ∧
        d.issueLocalReceipt self pairing .sourceCutover receiptId = .ok (issued, receipt) ∧
        d' = { issued with spaces := issued.spaces.put { space with
          archived := true
          gate := { space.gate with state := .migratedOut }
          handoff := some { pairing := pairing } } } := by
  simp only [Deployment.retireSource, bind_ok, orRefuse_ok] at h
  obtain ⟨pairing, hpairing, space, hspace, _, hretire, h⟩ := h
  obtain ⟨hid, hcases⟩ := retire_cases hretire
  split at h
  · simp only [bind_ok, orRefuse_ok, pure_ok, mk.injEq] at h
    obtain ⟨row, hrow, rfl, rfl⟩ := h
    exact .inl ⟨rfl, row, mem_of_get? hrow, rfl⟩
  · next hfresh =>
      simp only [bind_ok, pure_ok, mk.injEq] at h
      obtain ⟨⟨issued, _⟩, hissue, rfl, rfl⟩ := h
      rcases hcases with ⟨⟨_, hhandoff, rfl⟩, -⟩ | ⟨-, -, hnone, rfl⟩
      · simp [hhandoff] at hfresh
      · have hkey : space.id = spaceId := key_of_get? hspace
        exact .inr ⟨pairing, mem_of_get? hpairing, space, issued, hkey ▸ hspace, hid,
          hnone, hissue, rfl⟩

theorem reopenSource_cases (h : d.reopenSource migrationId spaceId envelope = .ok (d', receipt)) :
    ∃ pairing ∈ d.pairings, ∃ verified,
      d.verifyPeerReceipt pairing envelope .targetAbort = .ok verified ∧
        (d' = verified.1 ∨ ∃ space consumed, d.spaces.get? space.id = some space ∧
            space.handoff = some { pairing := pairing } ∧
            verified.1.consumeOnce verified.2 .reopenSource = .ok consumed ∧
            d' = { consumed with spaces := consumed.spaces.put { space with
              archived := false
              gate := space.gate.reopenAfterVerifiedAbort
              handoff := some { pairing := pairing, reopened := true } } }) := by
  simp only [Deployment.reopenSource, bind_ok, orRefuse_ok, require_ok] at h
  obtain ⟨pairing, hpairing, space, hspace, _, -, _, -, verified, hverify, h⟩ := h
  refine ⟨pairing, mem_of_get? hpairing, verified, hverify, ?_⟩
  split at h
  · simp at h
    obtain ⟨_, -, rfl⟩ := h
    exact .inl rfl
  · simp at h
    obtain ⟨_, hreopen, consumed, hconsume, rfl, -⟩ := h
    obtain ⟨hhandoff, rfl⟩ := reopen_cases hreopen
    have hkey : space.id = spaceId := key_of_get? hspace
    exact .inr ⟨space, consumed, hkey ▸ hspace, hhandoff, hconsume, rfl⟩

def Deployment.Targets (d : Deployment δ) (pairing : Pairing δ) (job : ImportJob δ)
    (target : Makerspace δ) : Prop :=
  job ∈ d.jobs ∧ job.id = pairing.migrationId ∧ job.targetMakerspaceId = some target.id ∧
    d.spaces.get? target.id = some target

theorem validatedTargetJob_targets {validated : ImportJob δ × Makerspace δ}
    (h : d.validatedTargetJob pairing jobId = .ok validated) :
    d.Targets pairing validated.1 validated.2 := by
  simp only [Deployment.validatedTargetJob, bind_ok, orRefuse_ok, require_ok, pure_ok] at h
  obtain ⟨_, hjob, _, hmatches, target, htarget, rfl⟩ := h
  obtain ⟨targetId, htargetId, hspace⟩ := bind_eq_some_iff.mp htarget
  have hkey : target.id = targetId := key_of_get? hspace
  subst hkey
  exact ⟨mem_of_get? hjob, hmatches.1, htargetId, hspace⟩

theorem activateTarget_cases {ready : Bool}
    (h : d.activateTarget migrationId jobId envelope ready = .ok (d', receipt)) :
    ∃ pairing ∈ d.pairings, ∃ verified,
      d.verifyPeerReceipt pairing envelope .sourceCutover = .ok verified ∧
        (d' = verified.1 ∨
          ∃ job target consumed, d.Targets pairing job target ∧ target.lifecycle = .importing ∧
            verified.1.consumeOnce verified.2 .activateTarget = .ok consumed ∧
            d' = { consumed with
              spaces := consumed.spaces.put { target with lifecycle := .active } }) := by
  simp only [Deployment.activateTarget, bind_ok, orRefuse_ok, require_ok] at h
  obtain ⟨pairing, hpairing, _, hvalidated, _, -, verified, hverify, h⟩ := h
  refine ⟨pairing, mem_of_get? hpairing, verified, hverify, ?_⟩
  split at h
  · simp at h
    obtain ⟨_, -, _, -, rfl⟩ := h
    exact .inl rfl
  · simp only [bind_ok, require_ok, pure_ok, mk.injEq] at h
    obtain ⟨_, -, _, himporting, consumed, hconsume, rfl, -⟩ := h
    exact .inr ⟨_, _, consumed, validatedTargetJob_targets hvalidated, himporting, hconsume, rfl⟩

theorem abortTarget_cases (h : d.abortTarget self migrationId jobId receiptId = .ok (d', receipt)) :
    (d' = d ∧ ∃ row ∈ d.receipts, row.receipt = receipt) ∨
      ∃ pairing ∈ d.pairings, ∃ job target issued, d.Targets pairing job target ∧
        target.lifecycle = .importing ∧
        d.issueLocalReceipt self pairing .targetAbort receiptId = .ok (issued, receipt) ∧
        d' = { issued with spaces := issued.spaces.put { target with lifecycle := .aborted } } := by
  simp only [Deployment.abortTarget, bind_ok, orRefuse_ok] at h
  obtain ⟨pairing, hpairing, _, hvalidated, h⟩ := h
  split at h
  · next row hrow =>
      simp only [bind_ok, require_ok, pure_ok, mk.injEq] at h
      obtain ⟨_, -, rfl, rfl⟩ := h
      exact .inl ⟨rfl, row, mem_of_get? (filter_eq_some_iff.mp hrow).1, rfl⟩
  · simp only [bind_ok, require_ok, pure_ok, mk.injEq] at h
    obtain ⟨_, himporting, ⟨issued, _⟩, hissue, rfl, rfl⟩ := h
    exact .inr ⟨pairing, mem_of_get? hpairing, _, _, issued,
      validatedTargetJob_targets hvalidated, himporting, hissue, rfl⟩

end Inversion

section Invariant

/-- A handed over makerspace is closed until the abort. -/
def HandedOver (issued : List (Receipt δ)) (self : δ) (space : Makerspace δ) : Prop :=
  ∀ handoff, space.handoff = some handoff → handoff.pairing.source = self ∧
    (handoff.reopened = false → space.archived = true ∧ space.gate.state = .migratedOut) ∧
    (handoff.reopened = true →
      ∃ receipt ∈ issued, receipt.operation = .targetAbort ∧ receipt.pairing = handoff.pairing)

/-- The job is at one deployment, with its target in the state. -/
def Settled (w : World δ) (self : δ) (migrationId : Nat) (lifecycle : Lifecycle) : Prop :=
  migrationId < w.nextJob ∧ ∀ other, ∀ job ∈ (w.deployment other).jobs, job.id = migrationId →
      other = self ∧ ∃ space ∈ (w.deployment self).spaces,
        job.targetMakerspaceId = some space.id ∧ space.lifecycle = lifecycle

def Activation (issued : List (Receipt δ)) (consumptions : Table Consumption)
    (migrationId : Nat) : Prop :=
  ∃ consumption ∈ consumptions, ∃ receipt ∈ issued,
    receipt.receiptId = consumption.receiptId ∧ receipt.operation = .sourceCutover ∧
      receipt.pairing.migrationId = migrationId

structure Inv (w : World δ) : Prop where
  signed : ∀ receipt ∈ w.issued, receipt.signer = receipt.pairing.signer receipt.operation ∧
      receipt.receiptId < w.nextReceipt ∧
      (w.deployment receipt.signer).receipts.get? (receipt.pairing.migrationId, receipt.operation) =
          some { receipt := receipt, issuedHere := true }
  named : ∀ receipt ∈ w.issued, ∀ receipt' ∈ w.issued,
    receipt.receiptId = receipt'.receiptId → receipt = receipt'
  paired : ∀ self, ∀ pairing ∈ (w.deployment self).pairings,
    pairing.source ≠ pairing.target ∧ (self = pairing.source ∨ self = pairing.target)
  persisted : ∀ self, ∀ row ∈ (w.deployment self).receipts,
    row.receipt ∈ w.issued ∧ (row.issuedHere = true → row.receipt.signer = self) ∧
      row.receipt.pairing ∈ (w.deployment self).pairings
  consumed : ∀ self, ∀ consumption ∈ (w.deployment self).consumptions,
    ∃ receipt ∈ w.issued, receipt.receiptId = consumption.receiptId ∧
      consumption.purpose = receipt.operation.purpose ∧
      receipt.pairing ∈ (w.deployment self).pairings ∧
      (receipt.operation = .targetAbort → receipt.pairing.source = self)
  numbered : ∀ self, ∀ space ∈ (w.deployment self).spaces, space.id < (w.deployment self).nextSpace
  handed : ∀ self, ∀ space ∈ (w.deployment self).spaces, HandedOver w.issued self space
  retired : ∀ receipt ∈ w.issued, receipt.operation = .sourceCutover →
    receipt.pairing.sourceTenantId < (w.deployment receipt.pairing.source).nextSpace ∧
      ∀ space ∈ (w.deployment receipt.pairing.source).spaces,
        space.id = receipt.pairing.sourceTenantId →
          space.handoff.map Handoff.pairing = some receipt.pairing
  jobs : ∀ self, ∀ job ∈ (w.deployment self).jobs, job.id < w.nextJob
  placed : ∀ self other, ∀ job ∈ (w.deployment self).jobs,
    ∀ job' ∈ (w.deployment other).jobs, job.id = job'.id → self = other
  targeted : ∀ self, ∀ job ∈ (w.deployment self).jobs, ∀ target,
    job.targetMakerspaceId = some target → ∃ space ∈ (w.deployment self).spaces, space.id = target ∧
        (space.lifecycle = .active → Activation w.issued (w.deployment self).consumptions job.id)
  separate : ∀ self, ∀ job ∈ (w.deployment self).jobs,
    ∀ job' ∈ (w.deployment self).jobs, job.targetMakerspaceId = job'.targetMakerspaceId →
      job.targetMakerspaceId ≠ none → job = job'
  aborted : ∀ receipt ∈ w.issued, receipt.operation = .targetAbort →
    Settled w receipt.pairing.target receipt.pairing.migrationId .aborted
  activated : ∀ self migrationId, Activation w.issued (w.deployment self).consumptions migrationId →
      Settled w self migrationId .active
  exclusive : ∀ self migrationId, Activation w.issued (w.deployment self).consumptions migrationId →
    ∀ receipt ∈ w.issued, receipt.operation = .targetAbort →
      receipt.pairing.migrationId ≠ migrationId
  once : ∀ self other, ∀ consumption ∈ (w.deployment self).consumptions,
    ∀ consumption' ∈ (w.deployment other).consumptions,
      consumption.receiptId = consumption'.receiptId → self = other

omit [DecidableEq δ] in
theorem inv_of_start {w : World δ} (h : Start w) : Inv w := by
  have hactivation : ∀ self migrationId,
      ¬ Activation w.issued (w.deployment self).consumptions migrationId := by
    rintro self _ ⟨_, hmem, -⟩
    rw [h.consumptions self] at hmem
    exact notMem_empty _ hmem
  constructor
  case handed =>
    intro self space hspace handoff hhandoff
    rw [(h.spaces self space hspace).1] at hhandoff
    cases hhandoff
  case numbered => exact fun self space hspace => (h.spaces self space hspace).2
  case activated => exact fun self migrationId hbad => absurd hbad (hactivation self migrationId)
  case exclusive => exact fun self migrationId hbad => absurd hbad (hactivation self migrationId)
  all_goals simp [h.issued, h.pairings, h.receipts, h.consumptions, h.jobs]

@[simp] theorem set_self (w : World δ) (self : δ) (d : Deployment δ) :
    (w.set self d).deployment self = d := by
  simp [World.set]

theorem set_of_ne (w : World δ) {self other : δ} (d : Deployment δ) (h : other ≠ self) :
    (w.set self d).deployment other = w.deployment other := by
  simp [World.set, h]

@[simp] theorem set_set (w : World δ) (self : δ) (d d' : Deployment δ) :
    (w.set self d).set self d' = w.set self d' := by
  simp [World.set]

theorem forall_set {P : δ → Deployment δ → Prop} {w : World δ} {self : δ} {d : Deployment δ}
    (hself : P self d) (hothers : ∀ other, P other (w.deployment other)) (other : δ) :
    P other ((w.set self d).deployment other) := by
  rcases eq_or_ne other self with rfl | hne
  · rw [set_self]
    exact hself
  · rw [set_of_ne w d hne]
    exact hothers other

end Invariant

section Changes

def World.grow (w : World δ) (self : δ) (d : Deployment δ) (nextJob : Nat) : World δ :=
  { w with nextJob := nextJob }.set self d

/-- An issued receipt is consumed first, for its purpose. -/
def Consumes (w : World δ) (self : δ) (d : Deployment δ) (nextJob : Nat)
    (consumption : Consumption) : Prop :=
  ∃ receipt ∈ w.issued, receipt.receiptId = consumption.receiptId ∧
    consumption.purpose = receipt.operation.purpose ∧
    receipt.pairing ∈ (w.deployment self).pairings ∧
    (∀ other, ∀ consumption' ∈ (w.deployment other).consumptions,
      consumption'.receiptId = consumption.receiptId → other = self) ∧
    (receipt.operation = .targetAbort → receipt.pairing.source = self) ∧
    (receipt.operation = .sourceCutover →
      Settled (w.grow self d nextJob) self receipt.pairing.migrationId .active ∧
        ∀ abort ∈ w.issued, abort.operation = .targetAbort →
          abort.pairing.migrationId ≠ receipt.pairing.migrationId)

/-- What a transaction without a receipt may do: rows, ids, handoffs and settled targets stay. -/
structure Grows (w : World δ) (site : δ) (d : Deployment δ) (nextJob : Nat) : Prop where
  receipts : ∀ key row, (w.deployment site).receipts.get? key = some row →
    d.receipts.get? key = some row
  persisted : ∀ row ∈ d.receipts,
    row.receipt ∈ w.issued ∧ (row.issuedHere = true → row.receipt.signer = site) ∧
      row.receipt.pairing ∈ d.pairings
  consumptions : ∀ consumption ∈ (w.deployment site).consumptions, consumption ∈ d.consumptions
  consumed : ∀ consumption ∈ d.consumptions,
    consumption ∈ (w.deployment site).consumptions ∨ Consumes w site d nextJob consumption
  pairings : ∀ pairing ∈ (w.deployment site).pairings, pairing ∈ d.pairings
  paired : ∀ pairing ∈ d.pairings,
    pairing.source ≠ pairing.target ∧ (site = pairing.source ∨ site = pairing.target)
  nextSpace : (w.deployment site).nextSpace ≤ d.nextSpace
  numbered : ∀ space ∈ d.spaces, space.id < d.nextSpace
  handed : ∀ space ∈ d.spaces, HandedOver w.issued site space
  spaces : ∀ space ∈ d.spaces, (w.deployment site).nextSpace ≤ space.id ∨
    ∃ old ∈ (w.deployment site).spaces, old.id = space.id ∧
      ∀ pairing, old.handoff.map Handoff.pairing = some pairing →
        space.handoff.map Handoff.pairing = some pairing
  jobIds : w.nextJob ≤ nextJob
  jobs : ∀ job ∈ d.jobs, (w.nextJob ≤ job.id ∧ job.id < nextJob) ∨
      ∃ old ∈ (w.deployment site).jobs, old.id = job.id
  targeted : ∀ job ∈ d.jobs, ∀ target, job.targetMakerspaceId = some target →
    ∃ space ∈ d.spaces, space.id = target ∧
      (space.lifecycle = .active → Activation w.issued d.consumptions job.id)
  settled : ∀ job ∈ d.jobs, ∀ old ∈ (w.deployment site).jobs, old.id = job.id →
    ∀ space ∈ (w.deployment site).spaces, old.targetMakerspaceId = some space.id →
      space.lifecycle ≠ .importing → ∃ space' ∈ d.spaces, job.targetMakerspaceId = some space'.id ∧
          space'.lifecycle = space.lifecycle
  separate : ∀ job ∈ d.jobs, ∀ job' ∈ d.jobs,
    job.targetMakerspaceId = job'.targetMakerspaceId → job.targetMakerspaceId ≠ none → job = job'

variable {w : World δ} {self : δ} {d : Deployment δ} {nextJob : Nat}
  {other : δ} {job : ImportJob δ} {migrationId now : Nat} {space space' : Makerspace δ}
  {settings : Settings}

theorem Grows.job_cases (h : Grows w self d nextJob)
    (hjob : job ∈ ((w.grow self d nextJob).deployment other).jobs) :
    (other = self ∧ w.nextJob ≤ job.id ∧ job.id < nextJob) ∨
      ∃ old ∈ (w.deployment other).jobs, old.id = job.id := by
  rcases eq_or_ne other self with rfl | hne
  · rw [World.grow, set_self] at hjob
    rcases h.jobs job hjob with hnew | hold
    · exact .inl ⟨rfl, hnew⟩
    · exact .inr hold
  · rw [World.grow, set_of_ne _ d hne] at hjob
    exact .inr ⟨job, hjob, rfl⟩

theorem Grows.consumption_cases (h : Grows w self d nextJob) {consumption : Consumption}
    (hconsumption : consumption ∈ ((w.grow self d nextJob).deployment other).consumptions) :
    consumption ∈ (w.deployment other).consumptions ∨
      (other = self ∧ Consumes w self d nextJob consumption) := by
  rcases eq_or_ne other self with rfl | hne
  · rw [World.grow, set_self] at hconsumption
    rcases h.consumed consumption hconsumption with hold | hnew
    · exact .inl hold
    · exact .inr ⟨rfl, hnew⟩
  · rw [World.grow, set_of_ne _ d hne] at hconsumption
    exact .inl hconsumption

theorem Grows.settled_mono (h : Grows w self d nextJob) {lifecycle : Lifecycle}
    (hlifecycle : lifecycle ≠ .importing) (hsettled : Settled w other migrationId lifecycle) :
    Settled (w.grow self d nextJob) other migrationId lifecycle := by
  obtain ⟨hlt, hjobs⟩ := hsettled
  refine ⟨Nat.lt_of_lt_of_le hlt h.jobIds, ?_⟩
  intro place job hjob hid
  rcases eq_or_ne place self with rfl | hne
  · rw [World.grow, set_self] at hjob
    rcases h.jobs job hjob with ⟨_, -⟩ | ⟨old, hold, hsame⟩
    · omega
    · obtain ⟨rfl, space, hspace, htarget, hstate⟩ := hjobs place old hold (hsame.trans hid)
      obtain ⟨space', hspace', htarget', hstate'⟩ := h.settled job hjob old hold hsame space
        hspace htarget (hstate ▸ hlifecycle)
      rw [World.grow, set_self]
      exact ⟨rfl, space', hspace', htarget', hstate'.trans hstate⟩
  · rw [World.grow, set_of_ne _ d hne] at hjob
    obtain ⟨rfl, hspace⟩ := hjobs place job hjob hid
    rw [World.grow, set_of_ne _ d hne]
    exact ⟨rfl, hspace⟩

theorem Grows.activation_cases (inv : Inv w) (h : Grows w self d nextJob)
    (hactivation : Activation w.issued ((w.grow self d nextJob).deployment other).consumptions
      migrationId) :
    Activation w.issued (w.deployment other).consumptions migrationId ∨
      (other = self ∧ Settled (w.grow self d nextJob) self migrationId .active ∧
        ∀ abort ∈ w.issued, abort.operation = .targetAbort →
          abort.pairing.migrationId ≠ migrationId) := by
  obtain ⟨consumption, hconsumption, receipt, hreceipt, hid, hcutover, rfl⟩ := hactivation
  rcases h.consumption_cases hconsumption with hold | ⟨rfl, receipt', hreceipt', hid', -, -, -, -,
    hactive⟩
  · exact .inl ⟨consumption, hold, receipt, hreceipt, hid, hcutover, rfl⟩
  · obtain rfl := inv.named receipt hreceipt receipt' hreceipt' (hid.trans hid'.symm)
    exact .inr ⟨rfl, hactive hcutover⟩

theorem inv_grows (inv : Inv w) (h : Grows w self d nextJob) : Inv (w.grow self d nextJob) where
  signed := by
    intro receipt hreceipt
    obtain ⟨hsigner, hid, hrow⟩ := inv.signed receipt hreceipt
    refine ⟨hsigner, hid, ?_⟩
    rcases eq_or_ne receipt.signer self with heq | hne
    · rw [heq] at hrow
      rw [World.grow, heq, set_self]
      exact h.receipts _ _ hrow
    · rw [World.grow, set_of_ne _ d hne]
      exact hrow
  named := inv.named
  paired := forall_set (P := fun self d => ∀ pairing ∈ d.pairings,
    pairing.source ≠ pairing.target ∧ (self = pairing.source ∨ self = pairing.target))
    h.paired inv.paired
  persisted := forall_set (P := fun self d => ∀ row ∈ d.receipts,
    row.receipt ∈ w.issued ∧ (row.issuedHere = true → row.receipt.signer = self) ∧
      row.receipt.pairing ∈ d.pairings)
    h.persisted inv.persisted
  consumed := by
    intro other consumption hconsumption
    have hold : ∃ receipt ∈ w.issued, receipt.receiptId = consumption.receiptId ∧
        consumption.purpose = receipt.operation.purpose ∧
        receipt.pairing ∈ (w.deployment other).pairings ∧
        (receipt.operation = .targetAbort → receipt.pairing.source = other) := by
      rcases h.consumption_cases hconsumption with hold | ⟨rfl, receipt, hreceipt, hid, hpurpose,
        hpairing, -, hsource, -⟩
      · exact inv.consumed other consumption hold
      · exact ⟨receipt, hreceipt, hid, hpurpose, hpairing, hsource⟩
    obtain ⟨receipt, hreceipt, hid, hpurpose, hpairing, hsource⟩ := hold
    refine ⟨receipt, hreceipt, hid, hpurpose, ?_, hsource⟩
    rcases eq_or_ne other self with rfl | hne
    · rw [World.grow, set_self]
      exact h.pairings _ hpairing
    · rw [World.grow, set_of_ne _ d hne]
      exact hpairing
  numbered := forall_set (P := fun _ d => ∀ space ∈ d.spaces, space.id < d.nextSpace)
    h.numbered inv.numbered
  handed := forall_set (P := fun self d => ∀ space ∈ d.spaces, HandedOver w.issued self space)
    h.handed inv.handed
  retired := by
    intro receipt hreceipt hcutover
    obtain ⟨hlt, hspaces⟩ := inv.retired receipt hreceipt hcutover
    rcases eq_or_ne receipt.pairing.source self with heq | hne
    · subst heq
      rw [World.grow, set_self]
      refine ⟨Nat.lt_of_lt_of_le hlt h.nextSpace, ?_⟩
      intro space hspace hid
      rcases h.spaces space hspace with _ | ⟨old, hold, hsame, hkept⟩
      · omega
      · exact hkept _ (hspaces old hold (hsame.trans hid))
    · rw [World.grow, set_of_ne _ d hne]
      exact ⟨hlt, hspaces⟩
  jobs := by
    intro other job hjob
    rcases h.job_cases hjob with ⟨-, -, hlt⟩ | ⟨old, hold, hsame⟩
    · exact hlt
    · rw [← hsame]
      exact Nat.lt_of_lt_of_le (inv.jobs other old hold) h.jobIds
  placed := by
    intro place other job hjob job' hjob' hid
    rcases h.job_cases hjob with ⟨rfl, _, -⟩ | ⟨old, hold, _⟩
    · rcases h.job_cases hjob' with ⟨rfl, -⟩ | ⟨old', hold', _⟩
      · rfl
      · have hlt := inv.jobs other old' hold'
        omega
    · rcases h.job_cases hjob' with ⟨rfl, _, -⟩ | ⟨old', hold', _⟩
      · have hlt := inv.jobs place old hold
        omega
      · exact inv.placed place other old hold old' hold' (by omega)
  targeted := forall_set (P := fun _ d => ∀ job ∈ d.jobs, ∀ target,
    job.targetMakerspaceId = some target → ∃ space ∈ d.spaces, space.id = target ∧
      (space.lifecycle = .active → Activation w.issued d.consumptions job.id))
    h.targeted inv.targeted
  separate := forall_set (P := fun _ d => ∀ job ∈ d.jobs, ∀ job' ∈ d.jobs,
    job.targetMakerspaceId = job'.targetMakerspaceId → job.targetMakerspaceId ≠ none →
      job = job') h.separate inv.separate
  aborted := fun receipt hreceipt habort =>
    h.settled_mono (by simp) (inv.aborted receipt hreceipt habort)
  activated := by
    intro other migrationId hactivation
    rcases h.activation_cases inv hactivation with hold | ⟨rfl, hsettled, -⟩
    · exact h.settled_mono (by simp) (inv.activated other migrationId hold)
    · exact hsettled
  exclusive := by
    intro other migrationId hactivation
    rcases h.activation_cases inv hactivation with hold | ⟨-, -, hno⟩
    · exact inv.exclusive other migrationId hold
    · exact hno
  once := by
    intro place other consumption hconsumption consumption' hconsumption' hid
    rcases h.consumption_cases hconsumption with hold | ⟨rfl, -, -, -, -, -, honce, -⟩
    · rcases h.consumption_cases hconsumption' with hold' | ⟨rfl, -, -, -, -, -, honce, -⟩
      · exact inv.once place other consumption hold consumption' hold' hid
      · exact honce place consumption hold hid
    · rcases h.consumption_cases hconsumption' with hold' | ⟨rfl, -⟩
      · exact (honce other consumption' hold' hid.symm).symm
      · rfl

theorem grows_refl (inv : Inv w) (self : δ) : Grows w self (w.deployment self) w.nextJob where
  receipts := fun _ _ hrow => hrow
  persisted := inv.persisted self
  consumptions := fun _ hconsumption => hconsumption
  consumed := fun _ hconsumption => .inl hconsumption
  pairings := fun _ hpairing => hpairing
  paired := inv.paired self
  nextSpace := Nat.le_refl _
  numbered := inv.numbered self
  handed := inv.handed self
  spaces := fun space hspace => .inr ⟨space, hspace, rfl, fun _ h => h⟩
  jobIds := Nat.le_refl _
  jobs := fun job hjob => .inr ⟨job, hjob, rfl⟩
  targeted := inv.targeted self
  settled := by
    intro job hjob old hold hid space hspace htarget _
    obtain rfl := eq_of_key_eq hold hjob hid
    exact ⟨space, hspace, htarget, rfl⟩
  separate := inv.separate self

omit [DecidableEq δ] in
theorem mem_put_or {ρ κ : Type} [Keyed ρ κ] [DecidableEq κ] {t : Table ρ} {r x : ρ} (hx : x ∈ t) :
    x ∈ t.put r ∨ (key x = key r ∧ r ∈ t.put r) := by
  by_cases hkey : key x = key r
  · exact .inr ⟨hkey, mem_put.mpr (.inr ⟨rfl, x, hx, hkey⟩)⟩
  · exact .inl (mem_put.mpr (.inl ⟨hx, hkey⟩))

/-- A makerspace keeps handoff and state, but an importing one may be aborted or activated. -/
theorem grows_put (inv : Inv w) {consumptions : Table Consumption}
    (hspace : (w.deployment self).spaces.get? space.id = some space) (hid : space'.id = space.id)
    (hlifecycle : space'.lifecycle = space.lifecycle ∨
      (space.lifecycle = .importing ∧ (space'.lifecycle = .active →
        ∀ job ∈ (w.deployment self).jobs, job.targetMakerspaceId = some space.id →
          Activation w.issued consumptions job.id)))
    (hhandoff : ∀ pairing, space.handoff.map Handoff.pairing = some pairing →
      space'.handoff.map Handoff.pairing = some pairing) (hhanded : HandedOver w.issued self space')
    (hkept : ∀ consumption ∈ (w.deployment self).consumptions, consumption ∈ consumptions)
    (hconsumed : ∀ consumption ∈ consumptions, consumption ∈ (w.deployment self).consumptions ∨
        Consumes w self { w.deployment self with
          spaces := (w.deployment self).spaces.put space'
          consumptions := consumptions } w.nextJob consumption) :
    Grows w self { w.deployment self with
      spaces := (w.deployment self).spaces.put space'
      consumptions := consumptions } w.nextJob := by
  have hmem := mem_of_get? hspace
  have hrefl := grows_refl inv self
  have hsame : ∀ x ∈ (w.deployment self).spaces, key x = key space' → x = space :=
    fun x hx hkey => eq_of_key_eq hx hmem (hkey.trans hid)
  have hactivation : ∀ migrationId,
      Activation w.issued (w.deployment self).consumptions migrationId →
        Activation w.issued consumptions migrationId := by
    rintro _ ⟨consumption, hconsumption, hrest⟩
    exact ⟨consumption, hkept consumption hconsumption, hrest⟩
  refine { hrefl with
    consumptions := hkept, consumed := hconsumed
    numbered := ?_, handed := ?_, spaces := ?_, targeted := ?_, settled := ?_ }
  · intro x hx
    rcases mem_of_mem_put hx with rfl | ⟨hx, -⟩
    · rw [hid]
      exact inv.numbered self space hmem
    · exact inv.numbered self x hx
  · intro x hx
    rcases mem_of_mem_put hx with rfl | ⟨hx, -⟩
    · exact hhanded
    · exact inv.handed self x hx
  · intro x hx
    rcases mem_of_mem_put hx with rfl | ⟨hx, -⟩
    · exact .inr ⟨space, hmem, hid.symm, hhandoff⟩
    · exact hrefl.spaces x hx
  · intro job hjob target htarget
    obtain ⟨x, hx, hxid, hactive⟩ := inv.targeted self job hjob target htarget
    rcases mem_put_or hx with hstays | ⟨hkey, hput⟩
    · exact ⟨x, hstays, hxid, fun hnow => hactivation _ (hactive hnow)⟩
    · obtain rfl := hsame x hx hkey
      refine ⟨space', hput, hid.trans hxid, ?_⟩
      intro hnow
      rcases hlifecycle with hstate | ⟨-, hbecomes⟩
      · exact hactivation _ (hactive (hstate ▸ hnow))
      · exact hbecomes hnow job hjob (hxid ▸ htarget)
  · intro job hjob old hold hsameJob x hx htarget hleft
    obtain ⟨y, hy, hjobTarget, hstate⟩ := hrefl.settled job hjob old hold hsameJob x hx htarget hleft
    rcases mem_put_or hy with hstays | ⟨hkey, hput⟩
    · exact ⟨y, hstays, hjobTarget, hstate⟩
    · obtain rfl := hsame y hy hkey
      refine ⟨space', hput, hid ▸ hjobTarget, ?_⟩
      rcases hlifecycle with hsameState | ⟨himporting, -⟩
      · exact hsameState.trans hstate
      · rw [← hstate] at hleft
        exact absurd himporting hleft

theorem grows_insert (inv : Inv w)
    (hid : space.id = (w.deployment self).nextSpace) (hhandoff : space.handoff = none)
    (hnew : (w.deployment self).spaces.get? (key space) = none) :
    Grows w self { w.deployment self with
      spaces := (w.deployment self).spaces.insert space hnew
      nextSpace := (w.deployment self).nextSpace + 1 } w.nextJob := by
  have hrefl := grows_refl inv self
  refine { hrefl with
    consumed := fun _ hconsumption => .inl hconsumption
    nextSpace := Nat.le_succ _
    numbered := ?_, handed := ?_, spaces := ?_, targeted := ?_, settled := ?_ }
  · intro x hx
    rcases (mem_insert hnew).mp hx with hx | rfl
    · exact Nat.lt_succ_of_lt (inv.numbered self x hx)
    · exact hid ▸ Nat.lt_succ_self _
  · intro x hx
    rcases (mem_insert hnew).mp hx with hx | rfl
    · exact inv.handed self x hx
    · intro handoff hbad
      rw [hhandoff] at hbad
      cases hbad
  · intro x hx
    rcases (mem_insert hnew).mp hx with hx | rfl
    · exact hrefl.spaces x hx
    · exact .inl (Nat.le_of_eq hid.symm)
  · intro job hjob target htarget
    obtain ⟨x, hx, hrest⟩ := inv.targeted self job hjob target htarget
    exact ⟨x, (mem_insert hnew).mpr (.inl hx), hrest⟩
  · intro job hjob old hold hsame x hx htarget hleft
    obtain ⟨y, hy, hrest⟩ := hrefl.settled job hjob old hold hsame x hx htarget hleft
    exact ⟨y, (mem_insert hnew).mpr (.inl hy), hrest⟩

variable (self) in
theorem grows_job (inv : Inv w) (job job' : ImportJob δ)
    (hjob : (w.deployment self).jobs.get? job.id = some job) (hid : job'.id = job.id)
    (htarget : job'.targetMakerspaceId = job.targetMakerspaceId ∨
      (job.targetMakerspaceId = none ∧ ∃ space ∈ (w.deployment self).spaces,
        job'.targetMakerspaceId = some space.id ∧ space.lifecycle ≠ .active ∧
        ∀ other ∈ (w.deployment self).jobs, other.targetMakerspaceId ≠ some space.id)) :
    Grows w self { w.deployment self with
      jobs := (w.deployment self).jobs.put job' } w.nextJob := by
  have hmem := mem_of_get? hjob
  have hrefl := grows_refl inv self
  refine { hrefl with
    consumed := fun _ hconsumption => .inl hconsumption
    jobs := ?_, targeted := ?_, settled := ?_, separate := ?_ }
  · intro x hx
    rcases mem_of_mem_put hx with rfl | ⟨hx, -⟩
    · exact .inr ⟨job, hmem, hid.symm⟩
    · exact hrefl.jobs x hx
  · intro x hx target hx'
    rcases mem_of_mem_put hx with rfl | ⟨hx, -⟩
    · rcases htarget with hkept | ⟨-, space, hspace, hset, hinactive, -⟩
      · rw [hid]
        exact inv.targeted self job hmem target (hkept ▸ hx')
      · obtain rfl := some.inj (hset.symm.trans hx')
        exact ⟨space, hspace, rfl, fun hactive => absurd hactive hinactive⟩
    · exact inv.targeted self x hx target hx'
  · intro x hx old hold hsame space hspace hold' hleft
    rcases mem_of_mem_put hx with rfl | ⟨hx, -⟩
    · obtain rfl := eq_of_key_eq hold hmem (hsame.trans hid)
      rcases htarget with hkept | ⟨hnone, -⟩
      · exact ⟨space, hspace, hkept.trans hold', rfl⟩
      · rw [hnone] at hold'
        cases hold'
    · exact hrefl.settled x hx old hold hsame space hspace hold' hleft
  · have hseparate : ∀ x ∈ (w.deployment self).jobs, key x ≠ key job' →
        job'.targetMakerspaceId = x.targetMakerspaceId → job'.targetMakerspaceId = none := by
      intro x hx hkey heq
      rcases htarget with hkept | ⟨-, _, -, hset, -, hother⟩
      · by_contra hsome
        have hjobx := inv.separate self job hmem x hx (hkept ▸ heq) (hkept ▸ hsome)
        exact hkey (hjobx ▸ hid.symm)
      · exact absurd (heq.symm.trans hset) (hother x hx)
    intro x hx y hy heq hsome
    rcases mem_of_mem_put hx with rfl | ⟨hxold, hxkey⟩
    · rcases mem_of_mem_put hy with rfl | ⟨hyold, hykey⟩
      · rfl
      · exact absurd (hseparate y hyold hykey heq) hsome
    · rcases mem_of_mem_put hy with rfl | ⟨hyold, -⟩
      · exact absurd (heq.trans (hseparate x hxold hxkey heq.symm)) hsome
      · exact inv.separate self x hxold y hyold heq hsome

variable (self) in
theorem grows_fewer_jobs (inv : Inv w) (jobs : Table (ImportJob δ))
    (hjobs : ∀ job ∈ jobs, job ∈ (w.deployment self).jobs) :
    Grows w self { w.deployment self with jobs := jobs } w.nextJob := by
  have hrefl := grows_refl inv self
  exact { hrefl with
    consumed := fun _ hconsumption => .inl hconsumption
    jobs := fun job hjob => hrefl.jobs job (hjobs job hjob)
    targeted := fun job hjob => hrefl.targeted job (hjobs job hjob)
    settled := fun job hjob => hrefl.settled job (hjobs job hjob)
    separate := fun job hjob job' hjob' =>
      hrefl.separate job (hjobs job hjob) job' (hjobs job' hjob') }

variable (self) in
theorem grows_erase (inv : Inv w) (id : Nat)
    (hfree : ∀ job ∈ (w.deployment self).jobs, job.targetMakerspaceId ≠ some id) :
    Grows w self { w.deployment self with
      spaces := (w.deployment self).spaces.erase id } w.nextJob := by
  have hrefl := grows_refl inv self
  have hmem : ∀ space, space ∈ (w.deployment self).spaces.erase id ↔
      space ∈ (w.deployment self).spaces ∧ space.id ≠ id := by
    intro space
    simp [Table.erase, Table.mem_def]
  refine { hrefl with
    consumed := fun _ hconsumption => .inl hconsumption
    numbered := fun space hspace => hrefl.numbered space ((hmem space).mp hspace).1
    handed := fun space hspace => hrefl.handed space ((hmem space).mp hspace).1
    spaces := fun space hspace => hrefl.spaces space ((hmem space).mp hspace).1
    targeted := ?_, settled := ?_ }
  · intro job hjob target htarget
    obtain ⟨space, hspace, hid, hactive⟩ := hrefl.targeted job hjob target htarget
    refine ⟨space, (hmem space).mpr ⟨hspace, ?_⟩, hid, hactive⟩
    rintro rfl
    exact hfree job hjob (hid ▸ htarget)
  · intro job hjob old hold hsame space hspace htarget hleft
    obtain ⟨space', hspace', hjobTarget, hstate⟩ :=
      hrefl.settled job hjob old hold hsame space hspace htarget hleft
    refine ⟨space', (hmem space').mpr ⟨hspace', ?_⟩, hjobTarget, hstate⟩
    rintro rfl
    exact hfree job hjob hjobTarget

theorem grows_new_job (inv : Inv w) (hid : job.id = w.nextJob)
    (htarget : job.targetMakerspaceId = none)
    (hnew : (w.deployment self).jobs.get? (key job) = none) :
    Grows w self { w.deployment self with
      jobs := (w.deployment self).jobs.insert job hnew } (w.nextJob + 1) := by
  have hrefl := grows_refl inv self
  refine { hrefl with
    consumed := fun _ hconsumption => .inl hconsumption
    jobIds := Nat.le_succ _, jobs := ?_, targeted := ?_, settled := ?_, separate := ?_ }
  · intro x hx
    rcases (mem_insert hnew).mp hx with hx | rfl
    · exact .inr ⟨x, hx, rfl⟩
    · exact .inl ⟨Nat.le_of_eq hid.symm, hid ▸ Nat.lt_succ_self _⟩
  · intro x hx target hx'
    rcases (mem_insert hnew).mp hx with hx | rfl
    · exact hrefl.targeted x hx target hx'
    · rw [htarget] at hx'
      cases hx'
  · intro x hx old hold hsame
    rcases (mem_insert hnew).mp hx with hx | rfl
    · exact hrefl.settled x hx old hold hsame
    · have hlt := inv.jobs self old hold
      omega
  · intro x hx y hy heq hsome
    rcases (mem_insert hnew).mp hx with hx | rfl
    · rcases (mem_insert hnew).mp hy with hy | rfl
      · exact hrefl.separate x hx y hy heq hsome
      · exact absurd (heq.trans htarget) hsome
    · exact absurd htarget hsome

theorem inv_set_of_grows (inv : Inv w) (h : Grows w self d w.nextJob) : Inv (w.set self d) :=
  inv_grows inv h

omit [DecidableEq δ] in
theorem gateChange_migratedOut {gate gate' : Gate}
    (h : GateChange settings now gate gate') (hout : gate.state = .migratedOut) :
    gate'.state = .migratedOut := by
  cases h with
  | claim _ _ _ h =>
    rcases claim_cases h with ⟨-, rfl⟩ | ⟨hopen, -⟩
    · exact hout
    · rw [hout] at hopen
      cases hopen
  | heartbeat _ h =>
    obtain rfl := heartbeat_ok h
    exact hout
  | quiesce _ h =>
    obtain ⟨-, hstate | hstate, -⟩ := quiesce_cases h <;> simp [hout] at hstate
  | release _ h =>
    have hquiesced := (release_cases h).1
    rw [hout] at hquiesced
    cases hquiesced
  | recover h =>
    rcases recoverExpired_cases h with rfl | ⟨hnot, -⟩
    · exact hout
    · exact absurd hout hnot

omit [DecidableEq δ] in
theorem spaceChange_keeps {issued : List (Receipt δ)} (h : SpaceChange settings now space space')
    (hhanded : HandedOver issued self space) :
    space'.id = space.id ∧ space'.lifecycle = space.lifecycle ∧
      space'.handoff = space.handoff ∧ HandedOver issued self space' := by
  cases h with
  | gate h =>
    refine ⟨rfl, rfl, rfl, ?_⟩
    intro handoff hhandoff
    obtain ⟨hsource, hclosed, hreopened⟩ := hhanded handoff hhandoff
    exact ⟨hsource, fun hout => ⟨(hclosed hout).1, gateChange_migratedOut h (hclosed hout).2⟩,
      hreopened⟩
  | archive h =>
    obtain ⟨-, -, -, rfl⟩ := archiveLocked_ok.mp h
    refine ⟨rfl, rfl, rfl, ?_⟩
    intro handoff hhandoff
    obtain ⟨hsource, hclosed, hreopened⟩ := hhanded handoff hhandoff
    exact ⟨hsource, fun hout => ⟨rfl, (hclosed hout).2⟩, hreopened⟩
  | unarchive h =>
    obtain ⟨hin, rfl⟩ := unarchive_cases h
    refine ⟨rfl, rfl, rfl, ?_⟩
    intro handoff hhandoff
    obtain ⟨hsource, _, hreopened⟩ := hhanded handoff hhandoff
    refine ⟨hsource, fun hout => ?_, hreopened⟩
    simp [Makerspace.migratedOut, show space.handoff = some handoff from hhandoff, hout] at hin
  | visibility | startPurge => exact ⟨rfl, rfl, rfl, hhanded⟩

theorem inv_change (inv : Inv w) (h : Change self (w.deployment self) d) :
    Inv (w.set self d) := by
  have hrefl := grows_refl inv self
  cases h with
  | tick => exact inv_set_of_grows inv { hrefl with
      consumed := fun _ hconsumption => .inl hconsumption }
  | approvePairing _ h =>
    obtain ⟨hdistinct, hlocal, rfl | ⟨hnew, rfl⟩⟩ := approvePairing_cases h
    · exact inv_set_of_grows inv hrefl
    · refine inv_set_of_grows inv { hrefl with
        consumed := fun _ hconsumption => .inl hconsumption
        persisted := ?_, pairings := ?_, paired := ?_ }
      · intro row hrow
        obtain ⟨hissued, hsigner, hpinned⟩ := inv.persisted self row hrow
        exact ⟨hissued, hsigner, (mem_insert hnew).mpr (.inl hpinned)⟩
      · exact fun p hp => (mem_insert hnew).mpr (.inl hp)
      · intro p hp
        rcases (mem_insert hnew).mp hp with hp | rfl
        · exact inv.paired self p hp
        · exact ⟨hdistinct, hlocal⟩
  | space _ hspace h =>
    obtain ⟨hid, hlifecycle, hhandoff, hhanded⟩ :=
      spaceChange_keeps h (inv.handed self _ (mem_of_get? hspace))
    exact inv_set_of_grows inv (grows_put inv hspace hid (.inl hlifecycle)
      (fun pairing hpairing => hhandoff ▸ hpairing) hhanded
      (fun _ hconsumption => hconsumption) (fun _ hconsumption => .inl hconsumption))
  | createSpace h =>
    obtain ⟨hnew, rfl⟩ := insertNew_ok.mp h
    exact inv_set_of_grows inv (grows_insert inv rfl rfl hnew)
  | materialize job hjob htarget h =>
    obtain ⟨hnew, rfl⟩ := insertNew_ok.mp h
    have hcreated := inv_set_of_grows inv (grows_insert inv rfl rfl hnew)
    refine set_set w self _ _ ▸ inv_set_of_grows hcreated ?_
    have hfresh : ∀ other ∈ (w.deployment self).jobs,
        other.targetMakerspaceId ≠ some (w.deployment self).nextSpace := by
      intro other hother htaken
      obtain ⟨space, hspace, _, -⟩ := inv.targeted self other hother _ htaken
      have hlt := inv.numbered self space hspace
      omega
    have hgrows := grows_job self hcreated job { job with
      targetMakerspaceId := some (w.deployment self).nextSpace, status := .materializing }
    rw [set_self] at hgrows
    refine hgrows hjob rfl (.inr ⟨htarget,
      { id := (w.deployment self).nextSpace, lifecycle := .importing },
      (mem_insert hnew).mpr (.inr rfl), rfl, by simp, hfresh⟩)
  | updateJob job job' hjob hid htarget =>
    exact inv_set_of_grows inv (grows_job self inv job job' hjob hid (.inl htarget))
  | deleteJob =>
    refine inv_set_of_grows inv (grows_fewer_jobs self inv _ ?_)
    intro job hjob'
    simp only [Table.erase, Table.mem_def, mem_filter] at hjob'
    exact hjob'.1
  | @purge space =>
    have hfewer := inv_set_of_grows inv (grows_fewer_jobs self inv
      ((w.deployment self).jobs.restrict (·.targetMakerspaceId ≠ some space.id))
      fun job hjob => (mem_restrict.mp hjob).1)
    have hgrows := grows_erase self hfewer space.id
    rw [set_self] at hgrows
    refine set_set w self _ _ ▸ inv_set_of_grows hfewer (hgrows ?_)
    intro job hjob
    simpa using (mem_restrict.mp hjob).2

end Changes

section Protocol

variable {w : World δ} {self : δ} {d : Deployment δ} {receipt : Receipt δ}
  {pairing : Pairing δ} {envelope : Receipt δ} {operation : Operation} {other : δ}
  {migrationId spaceId jobId : Nat} {space target : Makerspace δ} {job : ImportJob δ}
  {w' : World δ}

theorem grows_persist (inv : Inv w) (hissued : receipt ∈ w.issued)
    (hpairing : receipt.pairing ∈ (w.deployment self).pairings)
    (hnew : (w.deployment self).receipts.get?
      (key ({ receipt := receipt, issuedHere := false } : PersistedReceipt δ)) = none) :
    Grows w self { w.deployment self with
      receipts := (w.deployment self).receipts.insert
        { receipt := receipt, issuedHere := false } hnew } w.nextJob := by
  have hrefl := grows_refl inv self
  refine { hrefl with
    consumed := fun _ hconsumption => .inl hconsumption
    receipts := ?_, persisted := ?_ }
  · intro k row hrow
    rw [get?_insert hnew]
    split
    · next heq =>
        subst heq
        rw [hnew] at hrow
        cases hrow
    · exact hrow
  · intro row hrow
    rcases (mem_insert hnew).mp hrow with hrow | rfl
    · exact inv.persisted self row hrow
    · exact ⟨hissued, by simp, hpairing⟩

theorem inv_verify (inv : Inv w) (hissued : envelope ∈ w.issued)
    (hpinned : pairing ∈ (w.deployment self).pairings) {verified : Deployment δ × Receipt δ}
    (h : (w.deployment self).verifyPeerReceipt pairing envelope operation = .ok verified) :
    Inv (w.set self verified.1) ∧ verified.2 = envelope ∧ envelope.operation = operation ∧
      envelope.pairing = pairing ∧
      verified.1 = { w.deployment self with receipts := verified.1.receipts } := by
  have h' : (w.deployment self).verifyPeerReceipt pairing envelope operation =
      .ok (verified.1, verified.2) := h
  obtain ⟨hsame, hoperation, hpairing, hcases⟩ := verifyPeerReceipt_cases h'
  rcases hcases with heq | ⟨hnew, heq⟩
  · rw [heq]
    exact ⟨inv_set_of_grows inv (grows_refl inv self), hsame, hoperation, hpairing, rfl⟩
  · rw [heq]
    exact ⟨inv_set_of_grows inv (grows_persist inv hissued (hpairing ▸ hpinned) hnew), hsame,
      hoperation, hpairing, rfl⟩

theorem activation_insert (inv : Inv w) (hid : receipt.receiptId = w.nextReceipt)
    (h : Activation (w.issued.insert receipt) (w.deployment other).consumptions migrationId) :
    Activation w.issued (w.deployment other).consumptions migrationId := by
  obtain ⟨consumption, hconsumption, found, hfound, hfoundId, hrest⟩ := h
  refine ⟨consumption, hconsumption, found, ?_, hfoundId, hrest⟩
  rcases mem_insert_iff.mp hfound with rfl | hfound
  · obtain ⟨old, hold, _, -⟩ := inv.consumed other consumption hconsumption
    have hlt := (inv.signed old hold).2.1
    omega
  · exact hfound

omit [DecidableEq δ] in
theorem handedOver_mono {issued issued' : List (Receipt δ)}
    (hsub : ∀ receipt ∈ issued, receipt ∈ issued') (h : HandedOver issued self space) :
    HandedOver issued' self space := by
  intro handoff hhandoff
  obtain ⟨hsource, hclosed, hreopened⟩ := h handoff hhandoff
  refine ⟨hsource, hclosed, ?_⟩
  intro hagain
  obtain ⟨abort, habort, hrest⟩ := hreopened hagain
  exact ⟨abort, hsub abort habort, hrest⟩

def World.issue (w : World δ) (self : δ) (receipt : Receipt δ)
    (receipts : Table (PersistedReceipt δ)) : World δ :=
  { w with issued := w.issued.insert receipt, nextReceipt := w.nextReceipt + 1 }.set self
    { w.deployment self with receipts := receipts }

theorem issue_frame (w : World δ) (self : δ) (receipt : Receipt δ)
    (receipts : Table (PersistedReceipt δ)) (other : δ) :
    ((w.issue self receipt receipts).deployment other).spaces = (w.deployment other).spaces ∧
      ((w.issue self receipt receipts).deployment other).jobs = (w.deployment other).jobs ∧
      ((w.issue self receipt receipts).deployment other).pairings = (w.deployment other).pairings ∧
      ((w.issue self receipt receipts).deployment other).consumptions =
        (w.deployment other).consumptions ∧
      ((w.issue self receipt receipts).deployment other).nextSpace =
        (w.deployment other).nextSpace := by
  rcases eq_or_ne other self with rfl | hne
  · rw [World.issue, set_self]
    exact ⟨rfl, rfl, rfl, rfl, rfl⟩
  · rw [World.issue, set_of_ne _ _ hne]
    exact ⟨rfl, rfl, rfl, rfl, rfl⟩

variable (self) in
/-- A cutover's receipt is for a handed over makerspace, an abort's for an aborted target. -/
theorem inv_issue (receipt : Receipt δ) (inv : Inv w) (hsigner : receipt.signer = self)
    (hown : self = receipt.pairing.signer receipt.operation)
    (hid : receipt.receiptId = w.nextReceipt)
    (hpinned : receipt.pairing ∈ (w.deployment self).pairings)
    (hcutover : receipt.operation = .sourceCutover →
      receipt.pairing.sourceTenantId < (w.deployment self).nextSpace ∧
        ∀ space ∈ (w.deployment self).spaces, space.id = receipt.pairing.sourceTenantId →
          space.handoff.map Handoff.pairing = some receipt.pairing)
    (habort : receipt.operation = .targetAbort →
      Settled w self receipt.pairing.migrationId .aborted ∧
        ∀ other, ¬ Activation w.issued (w.deployment other).consumptions
          receipt.pairing.migrationId) (hnew : (w.deployment self).receipts.get?
      (key ({ receipt := receipt, issuedHere := true } : PersistedReceipt δ)) = none) :
    Inv (w.issue self receipt ((w.deployment self).receipts.insert
      { receipt := receipt, issuedHere := true } hnew)) := by
  have hframe := issue_frame w self receipt ((w.deployment self).receipts.insert
    { receipt := receipt, issuedHere := true } hnew)
  generalize hworld : w.issue self receipt ((w.deployment self).receipts.insert
    { receipt := receipt, issuedHere := true } hnew) = w' at hframe ⊢
  have hspaces := fun other => (hframe other).1
  have hjobs := fun other => (hframe other).2.1
  have hpairings := fun other => (hframe other).2.2.1
  have hconsumptions := fun other => (hframe other).2.2.2.1
  have hnextSpace := fun other => (hframe other).2.2.2.2
  have hissued : ∀ x, x ∈ w'.issued ↔ x = receipt ∨ x ∈ w.issued := by
    intro x
    rw [← hworld]
    exact mem_insert_iff
  have hold : ∀ x ∈ w.issued, x.receiptId < receipt.receiptId :=
    fun x hx => hid ▸ (inv.signed x hx).2.1
  have hsettled : ∀ other migrationId lifecycle, Settled w other migrationId lifecycle →
      Settled w' other migrationId lifecycle := by
    intro other migrationId lifecycle h
    have hnextJob : w'.nextJob = w.nextJob := by rw [← hworld]; rfl
    simpa only [Settled, hspaces, hjobs, hnextJob] using h
  have hactivation : ∀ other migrationId,
      Activation w'.issued (w'.deployment other).consumptions migrationId →
        Activation w.issued (w.deployment other).consumptions migrationId := by
    intro other migrationId h
    rw [hconsumptions, ← hworld] at h
    exact activation_insert inv hid h
  have hreceipts : ∀ other, (w'.deployment other).receipts =
      if other = self then (w.deployment self).receipts.insert
        { receipt := receipt, issuedHere := true } hnew else (w.deployment other).receipts := by
    intro other
    rw [← hworld, World.issue]
    split
    · next heq => rw [heq, set_self]
    · next hne => rw [set_of_ne _ _ hne]
  constructor
  case signed =>
    intro x hx
    rcases (hissued x).mp hx with rfl | hx
    · refine ⟨hsigner.trans hown, ?_, ?_⟩
      · rw [hid, ← hworld]
        exact Nat.lt_succ_self _
      · rw [hreceipts, if_pos hsigner, get?_insert hnew]
        exact if_pos rfl
    · obtain ⟨hxsigner, hxid, hxrow⟩ := inv.signed x hx
      refine ⟨hxsigner, ?_, ?_⟩
      · rw [← hworld]
        exact Nat.lt_succ_of_lt hxid
      · rw [hreceipts]
        split
        · next heq =>
            rw [heq] at hxrow
            rw [get?_insert hnew, if_neg]
            · exact hxrow
            · intro hkey
              rw [← hkey, hxrow] at hnew
              cases hnew
        · exact hxrow
  case named =>
    intro x hx y hy hxy
    rcases (hissued x).mp hx with rfl | hx
    · rcases (hissued y).mp hy with rfl | hy
      · rfl
      · have hlt := hold y hy
        omega
    · rcases (hissued y).mp hy with rfl | hy
      · have hlt := hold x hx
        omega
      · exact inv.named x hx y hy hxy
  case paired =>
    intro other
    rw [hpairings]
    exact inv.paired other
  case persisted =>
    intro other row hrow
    rw [hreceipts] at hrow
    have hrowOld : row ∈ (w.deployment other).receipts →
        row.receipt ∈ w'.issued ∧ (row.issuedHere = true → row.receipt.signer = other) ∧
          row.receipt.pairing ∈ (w.deployment other).pairings :=
      fun h => ⟨(hissued _).mpr (.inr (inv.persisted other row h).1), (inv.persisted other row h).2⟩
    rw [hpairings]
    split at hrow
    · next heq =>
        subst heq
        rcases (mem_insert hnew).mp hrow with hrow | rfl
        · exact hrowOld hrow
        · exact ⟨(hissued _).mpr (.inl rfl), fun _ => hsigner, hpinned⟩
    · exact hrowOld hrow
  case consumed =>
    intro other consumption hconsumption
    rw [hconsumptions] at hconsumption
    obtain ⟨found, hfound, hrest⟩ := inv.consumed other consumption hconsumption
    rw [hpairings]
    exact ⟨found, (hissued _).mpr (.inr hfound), hrest⟩
  case numbered =>
    intro other
    rw [hspaces, hnextSpace]
    exact inv.numbered other
  case handed =>
    intro other space hspace
    rw [hspaces] at hspace
    exact handedOver_mono (fun x hx => (hissued x).mpr (.inr hx)) (inv.handed other space hspace)
  case retired =>
    intro x hx hop
    rw [hspaces, hnextSpace]
    rcases (hissued x).mp hx with rfl | hx
    · have hsource : self = x.pairing.source := by
        rw [hop] at hown
        exact hown
      exact hsource ▸ hcutover hop
    · exact inv.retired x hx hop
  case jobs =>
    intro other
    rw [hjobs, show w'.nextJob = w.nextJob by rw [← hworld]; rfl]
    exact inv.jobs other
  case placed =>
    intro place other
    rw [hjobs, hjobs]
    exact inv.placed place other
  case targeted =>
    intro other job hjob target htarget
    rw [hjobs] at hjob
    rw [hspaces, hconsumptions]
    obtain ⟨space, hspace, hspaceId, hactive⟩ := inv.targeted other job hjob target htarget
    refine ⟨space, hspace, hspaceId, ?_⟩
    intro hnow
    obtain ⟨consumption, hconsumption, found, hfound, hrest⟩ := hactive hnow
    exact ⟨consumption, hconsumption, found, (hissued _).mpr (.inr hfound), hrest⟩
  case separate =>
    intro other
    rw [hjobs]
    exact inv.separate other
  case aborted =>
    intro x hx hop
    rcases (hissued x).mp hx with rfl | hx
    · have htarget : self = x.pairing.target := by
        rw [hop] at hown
        exact hown
      exact hsettled _ _ _ (htarget ▸ (habort hop).1)
    · exact hsettled _ _ _ (inv.aborted x hx hop)
  case activated =>
    exact fun other migrationId h => hsettled _ _ _ (inv.activated other migrationId
      (hactivation other migrationId h))
  case exclusive =>
    intro other migrationId h x hx hop hsame
    have hactivated := hactivation other migrationId h
    rcases (hissued x).mp hx with rfl | hx
    · exact (habort hop).2 other (hsame ▸ hactivated)
    · exact inv.exclusive other migrationId hactivated x hx hop hsame
  case once =>
    intro place other
    rw [hconsumptions, hconsumptions]
    exact inv.once place other

theorem inv_reissue (inv : Inv (w.set self d)) (hissued : receipt ∈ w.issued) :
    Inv ({ w with issued := w.issued.insert receipt, nextReceipt := w.nextReceipt + 1 }.set
      self d) := by
  rw [insert_of_mem hissued]
  refine { inv with signed := ?_ }
  intro x hx
  obtain ⟨hsigner, hid, hrow⟩ := inv.signed x hx
  exact ⟨hsigner, Nat.lt_succ_of_lt hid, hrow⟩

theorem inv_issue_put {issued : Deployment δ} {space' : Makerspace δ} (inv : Inv w)
    (hput : Inv (w.set self { w.deployment self with
      spaces := (w.deployment self).spaces.put space' }))
    (hpinned : pairing ∈ (w.deployment self).pairings)
    (hissue : (w.deployment self).issueLocalReceipt self pairing operation w.nextReceipt =
      .ok (issued, receipt)) (hcutover : operation = .sourceCutover →
      pairing.sourceTenantId < (w.deployment self).nextSpace ∧
        ∀ space ∈ (w.deployment self).spaces.put space', space.id = pairing.sourceTenantId →
          space.handoff.map Handoff.pairing = some pairing) (habort : operation = .targetAbort →
      Settled (w.set self { w.deployment self with
        spaces := (w.deployment self).spaces.put space' }) self pairing.migrationId .aborted ∧
        ∀ other, ¬ Activation w.issued (w.deployment other).consumptions pairing.migrationId) :
    Inv ({ w with issued := w.issued.insert receipt, nextReceipt := w.nextReceipt + 1 }.set self
      { issued with spaces := issued.spaces.put space' }) := by
  rcases issueLocalReceipt_cases hissue with ⟨rfl, row, hrow, -, rfl⟩ | ⟨hown, rfl, hnew, rfl⟩
  · exact inv_reissue hput (inv.persisted self row (mem_of_get? hrow)).1
  · have hissued := inv_issue self
      { receiptId := w.nextReceipt, operation := operation, pairing := pairing, signer := self }
      hput
    simp only [set_self] at hissued
    have hgoal := hissued trivial hown rfl hpinned hcutover ?_ hnew
    · simpa [World.issue, World.set] using hgoal
    · intro hop
      refine ⟨(habort hop).1, ?_⟩
      intro other hactivation
      refine (habort hop).2 other ?_
      rcases eq_or_ne other self with rfl | hne
      · rwa [set_self] at hactivation
      · rwa [set_of_ne _ _ hne] at hactivation

omit [DecidableEq δ] in
theorem eq_of_mem_put {spaces : Table (Makerspace δ)} {x : Makerspace δ}
    (hx : x ∈ spaces.put space) (hid : x.id = space.id) : x = space := by
  rcases mem_of_mem_put hx with rfl | ⟨-, hkey⟩
  · rfl
  · exact absurd hid hkey

omit [DecidableEq δ] in
theorem not_settled_of_importing (htargets : (w.deployment self).Targets pairing job target)
    (himporting : target.lifecycle = .importing) {lifecycle : Lifecycle}
    (hlifecycle : lifecycle ≠ .importing) :
    ¬ Settled w other pairing.migrationId lifecycle := by
  rintro ⟨-, hjobs⟩
  obtain ⟨hjob, hid, htarget, hspace⟩ := htargets
  obtain ⟨rfl, space, hmem, htarget', hstate⟩ := hjobs self job hjob hid
  have hsame : space = target := eq_of_key_eq hmem (mem_of_get? hspace)
    (some.inj (htarget'.symm.trans htarget))
  rw [hsame, himporting] at hstate
  exact hlifecycle hstate.symm

theorem settled_put (inv : Inv w) (htargets : (w.deployment self).Targets pairing job target)
    (target' : Makerspace δ) (hid : target'.id = target.id) {d : Deployment δ}
    (hjobs : d.jobs = (w.deployment self).jobs)
    (hspaces : d.spaces = (w.deployment self).spaces.put target') :
    Settled (w.set self d) self pairing.migrationId target'.lifecycle := by
  obtain ⟨hjob, hjobId, htarget, hspace⟩ := htargets
  refine ⟨hjobId ▸ inv.jobs self job hjob, ?_⟩
  intro other job' hjob' hjobId'
  have hother : other = self := by
    rcases eq_or_ne other self with rfl | hne
    · rfl
    · rw [set_of_ne _ _ hne] at hjob'
      exact inv.placed other self job' hjob' job hjob (hjobId'.trans hjobId.symm)
  subst hother
  rw [set_self] at hjob' ⊢
  rw [hjobs] at hjob'
  obtain rfl := eq_of_key_eq hjob' hjob (hjobId'.trans hjobId.symm)
  refine ⟨rfl, target', ?_, hid ▸ htarget, rfl⟩
  have hold : (w.deployment other).spaces.get? (key target') = some target := by
    rw [key_makerspace, hid]
    exact hspace
  rw [hspaces]
  exact mem_put_self hold

theorem inv_retireSource (inv : Inv w)
    (h : (w.deployment self).retireSource self migrationId spaceId w.nextReceipt =
      .ok (d, receipt)) :
    Inv ({ w with issued := w.issued.insert receipt, nextReceipt := w.nextReceipt + 1 }.set
      self d) := by
  rcases retireSource_cases h with ⟨rfl, row, hrow, rfl⟩ |
    ⟨pairing, hpinned, space, _, hspace, hid, hnone, hissue, rfl⟩
  · exact inv_reissue (inv_set_of_grows inv (grows_refl inv self)) (inv.persisted self row hrow).1
  · have hmem := mem_of_get? hspace
    -- only the pinned source can issue the receipt
    have hsource : pairing.source = self := by
      rcases issueLocalReceipt_cases hissue with ⟨-, row, hrow, hhere, -⟩ | ⟨hown, -⟩
      · obtain ⟨hrowIssued, hrowSigner, hrowPinned⟩ := inv.persisted self row (mem_of_get? hrow)
        have hkey := key_of_get? hrow
        rw [key_receipt, mk.injEq] at hkey
        have hsame : row.receipt.pairing = pairing := eq_of_key_eq hrowPinned hpinned hkey.1
        have hsigner := (inv.signed row.receipt hrowIssued).1
        rw [hrowSigner hhere, hkey.2, hsame] at hsigner
        exact hsigner.symm
      · exact hown.symm
    refine inv_issue_put inv (inv_set_of_grows inv (grows_put inv hspace rfl (.inl rfl) ?_ ?_
      (fun _ h => h) (fun _ h => .inl h))) hpinned hissue ?_ (by simp)
    · intro other hother
      rw [hnone] at hother
      cases hother
    · rintro _ ⟨⟩
      exact ⟨hsource, fun _ => ⟨rfl, rfl⟩, by simp⟩
    · intro _
      refine ⟨hid ▸ inv.numbered self space hmem, ?_⟩
      intro x hx hxid
      obtain rfl := eq_of_mem_put hx (hxid.trans hid.symm)
      rfl

theorem inv_abortTarget (inv : Inv w)
    (h : (w.deployment self).abortTarget self migrationId jobId w.nextReceipt =
      .ok (d, receipt)) :
    Inv ({ w with issued := w.issued.insert receipt, nextReceipt := w.nextReceipt + 1 }.set
      self d) := by
  rcases abortTarget_cases h with ⟨rfl, row, hrow, rfl⟩ |
    ⟨_, hpinned, _, target, _, htargets, himporting, hissue, rfl⟩
  · exact inv_reissue (inv_set_of_grows inv (grows_refl inv self)) (inv.persisted self row hrow).1
  · have hspace := htargets.2.2.2
    refine inv_issue_put inv (inv_set_of_grows inv (grows_put inv hspace rfl
      (.inr ⟨himporting, by simp⟩) (fun _ h => h)
      (inv.handed self target (mem_of_get? hspace))
      (fun _ h => h) (fun _ h => .inl h))) hpinned hissue (by rintro ⟨⟩) ?_
    intro _
    refine ⟨settled_put inv htargets { target with lifecycle := .aborted }
      (by rfl) (by rfl) (by rfl), ?_⟩
    intro other hactivation
    exact not_settled_of_importing htargets himporting (by simp) (inv.activated other _ hactivation)

omit [DecidableEq δ] in
theorem consumed_receipt (inv : Inv w) {consumption : Consumption}
    (hconsumption : consumption ∈ (w.deployment other).consumptions)
    (hissued : receipt ∈ w.issued) (hid : receipt.receiptId = consumption.receiptId) :
    consumption.purpose = receipt.operation.purpose ∧
      receipt.pairing ∈ (w.deployment other).pairings ∧
      (receipt.operation = .targetAbort → receipt.pairing.source = other) := by
  obtain ⟨found, hfound, hfoundId, hrest⟩ := inv.consumed other consumption hconsumption
  obtain rfl := inv.named receipt hissued found hfound (hid.trans hfoundId.symm)
  exact hrest

variable (self) in
theorem inv_reopen_put (inv : Inv w) (space : Makerspace δ) (hissued : receipt ∈ w.issued)
    (hoperation : receipt.operation = .targetAbort)
    (hpinned : receipt.pairing ∈ (w.deployment self).pairings)
    (hspace : (w.deployment self).spaces.get? space.id = some space)
    (hhandoff : space.handoff = some { pairing := receipt.pairing })
    (hnew : (w.deployment self).consumptions.get?
      (key ({ receiptId := receipt.receiptId, purpose := .reopenSource } : Consumption)) = none) :
    Inv (w.set self { w.deployment self with
      spaces := (w.deployment self).spaces.put { space with
        archived := false
        gate := space.gate.reopenAfterVerifiedAbort
        handoff := some { pairing := receipt.pairing, reopened := true } }
      consumptions := (w.deployment self).consumptions.insert
        { receiptId := receipt.receiptId, purpose := .reopenSource } hnew }) := by
  have hsource : receipt.pairing.source = self :=
    (inv.handed self space (mem_of_get? hspace) _ hhandoff).1
  refine inv_set_of_grows inv (grows_put inv hspace (by rfl) (.inl (by rfl)) ?_ ?_ ?_ ?_)
  · intro pairing hpairing
    rw [hhandoff] at hpairing
    exact hpairing
  · rintro _ ⟨⟩
    exact ⟨hsource, by simp, fun _ => ⟨receipt, hissued, hoperation, rfl⟩⟩
  · exact fun c hc => (mem_insert hnew).mpr (.inl hc)
  · intro c hc
    rcases (mem_insert hnew).mp hc with hc | rfl
    · exact .inl hc
    · refine .inr ⟨receipt, hissued, rfl, by simp [hoperation, Operation.purpose], hpinned, ?_,
        fun _ => hsource, by simp [hoperation]⟩
      intro other c' hc' hid
      exact (hsource.symm.trans ((consumed_receipt inv hc' hissued hid.symm).2.2 hoperation)).symm

variable (self) in
theorem inv_activate_put (inv : Inv w) (job : ImportJob δ) (target : Makerspace δ)
    (hissued : receipt ∈ w.issued) (hoperation : receipt.operation = .sourceCutover)
    (hpinned : receipt.pairing ∈ (w.deployment self).pairings)
    (htargets : (w.deployment self).Targets receipt.pairing job target)
    (himporting : target.lifecycle = .importing) (hnew : (w.deployment self).consumptions.get?
      (key ({ receiptId := receipt.receiptId, purpose := .activateTarget } : Consumption)) =
        none) :
    Inv (w.set self { w.deployment self with
      spaces := (w.deployment self).spaces.put { target with lifecycle := .active }
      consumptions := (w.deployment self).consumptions.insert
        { receiptId := receipt.receiptId, purpose := .activateTarget } hnew }) := by
  have hspace := htargets.2.2.2
  refine inv_set_of_grows inv (grows_put inv hspace (by rfl) (.inr ⟨himporting, ?_⟩)
    (fun _ h => h) (inv.handed self target (mem_of_get? hspace)) ?_ ?_)
  · intro _ job' hjob' htarget'
    have hsame : job' = job := inv.separate self job' hjob' job htargets.1
      (htarget'.trans htargets.2.2.1.symm) (by simp [htarget'])
    exact ⟨_, (mem_insert hnew).mpr (.inr rfl), receipt, hissued, rfl, hoperation,
      hsame ▸ htargets.2.1.symm⟩
  · exact fun c hc => (mem_insert hnew).mpr (.inl hc)
  · intro c hc
    rcases (mem_insert hnew).mp hc with hc | rfl
    · exact .inl hc
    · refine .inr ⟨receipt, hissued, rfl, by simp [hoperation, Operation.purpose], hpinned, ?_,
        by simp [hoperation], fun _ => ⟨?_, ?_⟩⟩
      · intro other c' hc' hid
        have hsettled := inv.activated other receipt.pairing.migrationId
          ⟨c', hc', receipt, hissued, hid.symm, hoperation, rfl⟩
        exact ((hsettled.2 self job htargets.1 htargets.2.1).1).symm
      · exact settled_put inv htargets { target with lifecycle := .active }
          (by rfl) (by rfl) (by rfl)
      · intro abort habort hop hsame
        have hsettled := inv.aborted abort habort hop
        rw [hsame] at hsettled
        exact not_settled_of_importing htargets himporting (by simp) hsettled

theorem inv_reopenSource (inv : Inv w) (hissued : envelope ∈ w.issued)
    (h : (w.deployment self).reopenSource migrationId spaceId envelope = .ok (d, receipt)) :
    Inv (w.set self d) := by
  obtain ⟨_, hpinned, ⟨verified, _⟩, hverify, hcases⟩ := reopenSource_cases h
  obtain ⟨inv', rfl, hoperation, rfl, hverified⟩ := inv_verify inv hissued hpinned hverify
  obtain ⟨receipts, rfl⟩ : ∃ receipts, verified = { w.deployment self with
    receipts := receipts } := ⟨_, hverified⟩
  rcases hcases with rfl | ⟨space, _, hspace, hhandoff, hconsume, rfl⟩
  · exact inv'
  · obtain ⟨hnew, rfl⟩ := consumeOnce_cases hconsume
    have hput := inv_reopen_put self inv' space hissued hoperation
    simp only [set_self, set_set] at hput
    exact hput hpinned hspace hhandoff hnew

theorem inv_activateTarget (inv : Inv w) {ready : Bool} (hissued : envelope ∈ w.issued)
    (h : (w.deployment self).activateTarget migrationId jobId envelope ready =
      .ok (d, receipt)) :
    Inv (w.set self d) := by
  obtain ⟨_, hpinned, ⟨verified, _⟩, hverify, hcases⟩ := activateTarget_cases h
  obtain ⟨inv', rfl, hoperation, rfl, hverified⟩ := inv_verify inv hissued hpinned hverify
  obtain ⟨receipts, rfl⟩ : ∃ receipts, verified = { w.deployment self with
    receipts := receipts } := ⟨_, hverified⟩
  rcases hcases with rfl | ⟨job, target, _, htargets, himporting, hconsume, rfl⟩
  · exact inv'
  · obtain ⟨hnew, rfl⟩ := consumeOnce_cases hconsume
    have hput := inv_activate_put self inv' job target hissued hoperation
    simp only [set_self, set_set] at hput
    exact hput hpinned htargets himporting hnew

theorem inv_step (hstep : Step w w') (inv : Inv w) : Inv w' := by
  cases hstep with
  | change _ h => exact inv_change inv h
  | createJob _ _ hid htarget h =>
    obtain ⟨hnew, rfl⟩ := insertNew_ok.mp h
    exact inv_grows inv (grows_new_job inv hid htarget hnew)
  | retireSource _ _ _ h => exact inv_retireSource inv h
  | reopenSource _ _ _ _ hissued h => exact inv_reopenSource inv hissued h
  | activateTarget _ _ _ _ _ hissued h =>
    exact inv_activateTarget inv hissued h
  | abortTarget _ _ _ h => exact inv_abortTarget inv h

theorem inv_run (hrun : Run w w') (inv : Inv w) : Inv w' := by
  induction hrun with
  | refl => exact inv
  | tail _ hstep ih => exact inv_step hstep ih

end Protocol

section Results

def TargetActive (w : World δ) (pairing : Pairing δ) : Prop :=
  ∃ self, pairing ∈ (w.deployment self).pairings ∧
    ∃ job ∈ (w.deployment self).jobs, job.id = pairing.migrationId ∧
      ∃ target ∈ (w.deployment self).spaces,
        job.targetMakerspaceId = some target.id ∧ target.lifecycle = .active

def SourceOpen (w : World δ) (pairing : Pairing δ) : Prop :=
  ∃ source ∈ (w.deployment pairing.source).spaces, source.id = pairing.sourceTenantId ∧
    source.archived = false ∧ source.gate.state = .open

def Activated (w : World δ) (pairing : Pairing δ) : Prop :=
  ∃ self, ∃ consumption ∈ (w.deployment self).consumptions, consumption.purpose = .activateTarget ∧
      ∃ receipt ∈ w.issued, receipt.receiptId = consumption.receiptId ∧ receipt.pairing = pairing

def Aborted (w : World δ) (pairing : Pairing δ) : Prop :=
  ∃ receipt ∈ w.issued, receipt.operation = .targetAbort ∧ receipt.pairing = pairing

variable {w w' : World δ} {self : δ} {d d' : Deployment δ} {receipt : Receipt δ}

variable {pairing : Pairing δ} {operation : Operation}

omit [DecidableEq δ] in
theorem not_both_live (inv : Inv w) (pairing : Pairing δ) :
    ¬ (TargetActive w pairing ∧ SourceOpen w pairing) := by
  rintro ⟨⟨self, hpinned, job, hjob, hjobId, _, htarget, htargetId, hactive⟩,
    source, hsource, hsourceId, hlive, _⟩
  obtain ⟨_, hspace, hspaceId, hactivation⟩ := inv.targeted self job hjob _ htargetId
  obtain rfl := eq_of_key_eq hspace htarget hspaceId
  have hactivation := hactivation hactive
  obtain ⟨consumption, hconsumption, receipt, hissued, hid, hcutover, hmigration⟩ := hactivation
  have hsame : receipt.pairing = pairing :=
    eq_of_key_eq (consumed_receipt inv hconsumption hissued hid).2.1 hpinned
      (hmigration.trans hjobId)
  subst hsame
  have hhandoff := (inv.retired receipt hissued hcutover).2 source hsource hsourceId
  obtain ⟨handoff, hhandoff, hpairing⟩ := map_eq_some_iff.mp hhandoff
  obtain ⟨-, hclosed, hreopened⟩ := inv.handed _ source hsource handoff hhandoff
  cases hagain : handoff.reopened with
  | false =>
    rw [(hclosed hagain).1] at hlive
    cases hlive
  | true =>
    obtain ⟨abort, habort, hop, habortPairing⟩ := hreopened hagain
    exact inv.exclusive self job.id
      ⟨consumption, hconsumption, receipt, hissued, hid, hcutover, hmigration⟩ abort habort hop
      (by rw [habortPairing, hpairing, hjobId])

omit [DecidableEq δ] in
theorem not_activated_and_aborted (inv : Inv w) (pairing : Pairing δ) :
    ¬ (Activated w pairing ∧ Aborted w pairing) := by
  rintro ⟨⟨self, consumption, hconsumption, hpurpose, receipt, hissued, hid, rfl⟩,
    abort, habort, hop, hpairing⟩
  have hcutover : receipt.operation = .sourceCutover := by
    have hown := (consumed_receipt inv hconsumption hissued hid).1
    rw [hpurpose] at hown
    cases hoperation : receipt.operation with
    | sourceCutover => rfl
    | targetAbort =>
      rw [hoperation] at hown
      cases hown
  exact inv.exclusive self _ ⟨consumption, hconsumption, receipt, hissued, hid, hcutover, rfl⟩
    abort habort hop (congrArg Pairing.migrationId hpairing)

theorem change_consumptions (h : Change self d d') : d'.consumptions = d.consumptions := by
  cases h with
  | approvePairing _ h =>
    obtain ⟨-, -, rfl | ⟨-, rfl⟩⟩ := approvePairing_cases h <;> rfl
  | _ => rfl

theorem issueLocalReceipt_consumptions
    {receiptId : Nat} (h : d.issueLocalReceipt self pairing operation receiptId =
      .ok (d', receipt)) :
    d'.consumptions = d.consumptions := by
  rcases issueLocalReceipt_cases h with ⟨rfl, -⟩ | ⟨-, -, -, rfl⟩ <;> rfl

omit [DecidableEq δ] in
theorem consumeOnce_keeps {purpose : ConsumptionPurpose} {consumption : Consumption}
    (h : d.consumeOnce receipt purpose = .ok d') (hold : consumption ∈ d.consumptions) :
    consumption ∈ d'.consumptions := by
  obtain ⟨hnew, rfl⟩ := consumeOnce_cases h
  exact (mem_insert hnew).mpr (.inl hold)

theorem verifyPeerReceipt_consumptions {envelope : Receipt δ} {verified : Deployment δ × Receipt δ}
    (h : d.verifyPeerReceipt pairing envelope operation = .ok verified) :
    verified.1.consumptions = d.consumptions := by
  have h' : d.verifyPeerReceipt pairing envelope operation = .ok (verified.1, verified.2) := h
  obtain ⟨-, -, -, hcases⟩ := verifyPeerReceipt_cases h'
  rcases hcases with heq | ⟨_, heq⟩
  · rw [heq]
  · rw [heq]

theorem step_keeps (hstep : Step w w') :
    (∀ receipt ∈ w.issued, receipt ∈ w'.issued) ∧
      ∀ self, ∀ consumption ∈ (w.deployment self).consumptions,
        consumption ∈ (w'.deployment self).consumptions := by
  have hset : ∀ {v : World δ} {self : δ} {d : Deployment δ},
      (∀ consumption ∈ (v.deployment self).consumptions, consumption ∈ d.consumptions) →
        ∀ other, ∀ consumption ∈ (v.deployment other).consumptions,
          consumption ∈ ((v.set self d).deployment other).consumptions := by
    intro v self d hkept other consumption hconsumption
    rcases eq_or_ne other self with rfl | hne
    · rw [set_self]
      exact hkept consumption hconsumption
    · rw [set_of_ne _ _ hne]
      exact hconsumption
  have hinsert : ∀ receipt, ∀ x ∈ w.issued, x ∈ w.issued.insert receipt :=
    fun _ _ hx => mem_insert_of_mem hx
  cases hstep with
  | change _ h =>
    exact ⟨fun _ hx => hx, hset fun c hc => by rwa [change_consumptions h]⟩
  | createJob => exact ⟨fun _ hx => hx, hset fun c hc => hc⟩
  | retireSource _ _ _ h =>
    refine ⟨hinsert _, hset fun c hc => ?_⟩
    rcases retireSource_cases h with ⟨rfl, -⟩ | ⟨_, -, _, _, -, -, -, hissue, rfl⟩
    · exact hc
    · exact (issueLocalReceipt_consumptions hissue).symm ▸ hc
  | reopenSource _ _ _ _ _ h =>
    refine ⟨fun _ hx => hx, hset fun c hc => ?_⟩
    obtain ⟨_, -, verified, hverify, hcases⟩ := reopenSource_cases h
    have hverified : c ∈ verified.1.consumptions :=
      (verifyPeerReceipt_consumptions hverify).symm ▸ hc
    rcases hcases with rfl | ⟨_, _, -, -, hconsume, rfl⟩
    · exact hverified
    · have hkept := consumeOnce_keeps hconsume hverified
      exact hkept
  | activateTarget _ _ _ _ _ _ h =>
    refine ⟨fun _ hx => hx, hset fun c hc => ?_⟩
    obtain ⟨_, -, verified, hverify, hcases⟩ := activateTarget_cases h
    have hverified : c ∈ verified.1.consumptions :=
      (verifyPeerReceipt_consumptions hverify).symm ▸ hc
    rcases hcases with rfl | ⟨_, _, _, -, -, hconsume, rfl⟩
    · exact hverified
    · have hkept := consumeOnce_keeps hconsume hverified
      exact hkept
  | abortTarget _ _ _ h =>
    refine ⟨hinsert _, hset fun c hc => ?_⟩
    rcases abortTarget_cases h with ⟨rfl, -⟩ | ⟨_, -, _, _, _, -, -, hissue, rfl⟩
    · exact hc
    · exact (issueLocalReceipt_consumptions hissue).symm ▸ hc

theorem run_keeps (hrun : Run w w') :
    (∀ receipt ∈ w.issued, receipt ∈ w'.issued) ∧
      ∀ self, ∀ consumption ∈ (w.deployment self).consumptions,
        consumption ∈ (w'.deployment self).consumptions := by
  induction hrun with
  | refl => exact ⟨fun _ hx => hx, fun _ _ hc => hc⟩
  | tail _ hstep ih =>
    obtain ⟨hissued, hconsumptions⟩ := step_keeps hstep
    exact ⟨fun receipt hx => hissued receipt (ih.1 receipt hx),
      fun self c hc => hconsumptions self c (ih.2 self c hc)⟩

theorem activated_mono (hrun : Run w w') (h : Activated w pairing) :
    Activated w' pairing := by
  obtain ⟨self, consumption, hconsumption, hpurpose, receipt, hissued, hrest⟩ := h
  obtain ⟨hreceipts, hconsumptions⟩ := run_keeps hrun
  exact ⟨self, consumption, hconsumptions self consumption hconsumption, hpurpose, receipt,
    hreceipts receipt hissued, hrest⟩

theorem aborted_mono (hrun : Run w w') (h : Aborted w pairing) :
    Aborted w' pairing := by
  obtain ⟨receipt, hissued, hrest⟩ := h
  exact ⟨receipt, (run_keeps hrun).1 receipt hissued, hrest⟩

/-- No pairing has an active target and an open source, none is both activated and aborted, and
receipts are consumed once, for their purpose. -/
theorem never_both_live (hstart : Start w) (hrun : Run w w') :
    (∀ pairing, ¬ (TargetActive w' pairing ∧ SourceOpen w' pairing)) ∧
    (∀ later, Run w' later → ∀ pairing, (Activated w' pairing → ¬ Aborted later pairing) ∧
        (Aborted w' pairing → ¬ Activated later pairing)) ∧
    (∀ self other, ∀ consumption ∈ (w'.deployment self).consumptions,
      ∀ consumption' ∈ (w'.deployment other).consumptions,
        consumption.receiptId = consumption'.receiptId →
          self = other ∧ consumption = consumption') ∧
    (∀ self, ∀ consumption ∈ (w'.deployment self).consumptions,
      ∃ receipt ∈ w'.issued, receipt.receiptId = consumption.receiptId ∧
        consumption.purpose = receipt.operation.purpose) := by
  have inv := inv_run hrun (inv_of_start hstart)
  refine ⟨not_both_live inv, ?_, ?_, ?_⟩
  · intro later hlater pairing
    have hno := not_activated_and_aborted (inv_run hlater inv) pairing
    exact ⟨fun hactivated haborted => hno ⟨activated_mono hlater hactivated, haborted⟩,
      fun haborted hactivated => hno ⟨hactivated, aborted_mono hlater haborted⟩⟩
  · intro self other consumption hconsumption consumption' hconsumption' hid
    obtain rfl := inv.once self other consumption hconsumption consumption' hconsumption' hid
    exact ⟨rfl, eq_of_key_eq hconsumption hconsumption' hid⟩
  · intro self consumption hconsumption
    obtain ⟨receipt, hissued, hid, hpurpose, -⟩ := inv.consumed self consumption hconsumption
    exact ⟨receipt, hissued, hid, hpurpose⟩

def twoDeployments : World Bool where
  deployment self := {
    settings := { gateLease := 10, presignDrain := 0 }
    now := 0
    nextSpace := 2
    spaces := if self then (∅ : Table (Makerspace Bool)).insert { id := 1 } (by rfl) else ∅
    pairings := ∅
    receipts := ∅
    consumptions := ∅
    jobs := ∅ }

theorem start_twoDeployments : Start twoDeployments where
  issued := by rfl
  pairings := fun _ => rfl
  receipts := fun _ => rfl
  consumptions := fun _ => rfl
  jobs := fun _ => rfl
  spaces := by
    rintro (_ | _) space hspace
    · exact absurd hspace (notMem_empty space)
    · obtain hold | rfl := (mem_insert (by rfl)).mp hspace
      · exact absurd hold (notMem_empty space)
      · exact ⟨rfl, by decide⟩

def firstPairing : Pairing Bool :=
  { migrationId := 0, sourceTenantId := 1, archiveDigest := 7, source := true, target := false }

def firstJob : ImportJob Bool where
  id := 0
  status := .ready
  sourceArchiveDigest := 7
  sourceMakerspaceId := some 1
  sourceDeploymentId := some true

theorem run_migration :
    ∃ w : World Bool, Run twoDeployments w ∧ TargetActive w firstPairing := by
  have hclaim := Relation.ReflTransGen.single (Step.change (w := twoDeployments) true
    (Change.space { id := 1 } (by rfl) (.gate (.claim 1 none .migration (by rfl)))))
  have hquiesce := hclaim.tail (Step.change true
    (Change.space { id := 1, gate := _ } (by rfl)
      (.gate (.quiesce { ownerId := some 1, fencingToken := 1 } (by rfl)))))
  have hpin := hquiesce.tail (Step.change true (Change.approvePairing firstPairing (by rfl)))
  have hpin' := hpin.tail (Step.change false (Change.approvePairing firstPairing (by rfl)))
  have hjob := hpin'.tail (Step.createJob false firstJob (by rfl) (by rfl) (by rfl))
  have htarget := hjob.tail (Step.change false (Change.materialize firstJob
    (by rfl) (by rfl) (by rfl)))
  have hcomplete := htarget.tail (Step.change false (Change.updateJob
    { firstJob with targetMakerspaceId := some 2, status := .materializing }
    { firstJob with targetMakerspaceId := some 2, status := .completed, verificationReport := true }
    (by rfl) (by rfl) (by rfl)))
  have hretire := hcomplete.tail (Step.retireSource true 0 1 (by rfl))
  have hactivate := hretire.tail (Step.activateTarget false 0 0 true
    { receiptId := 0, operation := .sourceCutover, pairing := firstPairing, signer := true }
    mem_cons_self (by rfl))
  exact ⟨_, hactivate, false, mem_cons_self, _, mem_cons_self, by rfl, _,
    mem_cons_self, by rfl, by rfl⟩

theorem migrated_source_closed :
    ∃ w : World Bool, TargetActive w firstPairing ∧ ¬ SourceOpen w firstPairing := by
  obtain ⟨w, hrun, hactive⟩ := run_migration
  exact ⟨w, hactive, fun hopen =>
    (never_both_live start_twoDeployments hrun).1 firstPairing ⟨hactive, hopen⟩⟩

end Results

end Migration
end SpaceWorks
