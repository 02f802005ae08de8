import SpaceWorks.Migration.Handoff

/-!
# A second cutover of a makerspace

Reopening gives the gate back under a later token; the handoff row stays, and a makerspace has only
one (`models_protocol.py`), so only its first cutover succeeds.
-/

namespace SpaceWorks
namespace Migration

open Checked Table List

section Gates

variable {settings : Settings} {now : Nat} {gate gate' : Gate}

def Gate.shift (gate : Gate) (k : Nat) : Gate :=
  { gate with fencingToken := gate.fencingToken + k }

def GateLease.shift (lease : GateLease) (k : Nat) : GateLease :=
  { lease with fencingToken := lease.fencingToken + k }

theorem opened_shift (gate : Gate) (k : Nat) : (gate.shift k).opened = gate.opened.shift k := by
  simp [Gate.opened, Gate.shift, Nat.add_right_comm]

theorem opened_eq_shift (gate : Gate) :
    gate.opened = ({} : Gate).shift (gate.fencingToken + 1) := by
  simp [Gate.opened, Gate.shift]

theorem shift_requireLiveOwner (gate : Gate) (lease : GateLease) (k now : Nat) :
    (gate.shift k).requireLiveOwner (lease.shift k) now = gate.requireLiveOwner lease now := by
  have hsame : (gate.shift k).lease = lease.shift k ↔ gate.lease = lease := by
    cases lease
    simp [Gate.shift, Gate.lease, GateLease.shift]
  have hexpires : (gate.shift k).leaseExpiresAt = gate.leaseExpiresAt := rfl
  simp [Gate.requireLiveOwner, hsame, hexpires]

theorem shift_claim (gate : Gate) (settings : Settings) (ownerId : Nat)
    (fencingToken : Option Nat) (purpose : Purpose) (k now : Nat) :
    (gate.shift k).claim settings ownerId (fencingToken.map (· + k)) purpose now =
      (gate.claim settings ownerId fencingToken purpose now).map (·.shift k) := by
  have htoken : fencingToken.map (· + k) = some (gate.shift k).fencingToken ↔
      fencingToken = some gate.fencingToken := by
    cases fencingToken <;> simp [Gate.shift]
  have hlive : (gate.shift k).requireLiveOwner
      { ownerId := some ownerId, fencingToken := (gate.shift k).fencingToken } now =
        gate.requireLiveOwner
          { ownerId := some ownerId, fencingToken := gate.fencingToken } now :=
    shift_requireLiveOwner gate { ownerId := some ownerId, fencingToken := gate.fencingToken } k now
  have hpurpose : (gate.shift k).purpose = gate.purpose := rfl
  simp only [Gate.claim, htoken, hlive, hpurpose]
  by_cases hopen : gate.state = .open
  · simp [Gate.shift, hopen, Except.map, pure, Except.pure, Nat.add_right_comm]
  · by_cases howner : gate.ownerId = some ownerId
    · have hstate : (gate.shift k).state ≠ .open := hopen
      have howner' : (gate.shift k).ownerId = some ownerId := howner
      simp only [if_pos hstate, if_pos howner', if_pos hopen, if_pos howner, require]
      split
      · split
        · cases gate.requireLiveOwner
            { ownerId := some ownerId, fencingToken := gate.fencingToken } now <;> rfl
        · rfl
      · rfl
    · simp [Gate.shift, hopen, howner, Except.map]

theorem shift_heartbeat (gate : Gate) (settings : Settings) (lease : GateLease) (k now : Nat) :
    (gate.shift k).heartbeat settings (lease.shift k) now =
      (gate.heartbeat settings lease now).map (·.shift k) := by
  simp only [Gate.heartbeat, shift_requireLiveOwner]
  cases gate.requireLiveOwner lease now <;> rfl

theorem shift_quiesce (gate : Gate) (lease : GateLease) (k now : Nat) :
    (gate.shift k).quiesce (lease.shift k) now = (gate.quiesce lease now).map (·.shift k) := by
  simp only [Gate.quiesce, shift_requireLiveOwner]
  have hstate : (gate.shift k).state = gate.state := rfl
  cases gate.requireLiveOwner lease now with
  | error => rfl
  | ok => cases hcase : gate.state <;> simp [hstate, hcase, require] <;> rfl

theorem shift_markMigratedOut (gate : Gate) (lease : GateLease) (k now : Nat) :
    (gate.shift k).markMigratedOut (lease.shift k) now =
      (gate.markMigratedOut lease now).map (·.shift k) := by
  simp only [Gate.markMigratedOut, shift_requireLiveOwner]
  have hstate : (gate.shift k).state = gate.state := rfl
  cases gate.requireLiveOwner lease now with
  | error => rfl
  | ok => cases hcase : gate.state <;> simp [hstate, hcase, require] <;> rfl

theorem shift_recoverExpired (gate : Gate) (k now : Nat) :
    (gate.shift k).recoverExpired now = (gate.recoverExpired now).map (·.shift k) := by
  have hstate : (gate.shift k).state = gate.state := rfl
  have hexpires : (gate.shift k).leaseExpiresAt = gate.leaseExpiresAt := rfl
  simp only [Gate.recoverExpired, hstate, hexpires, opened_shift, require]
  split
  · rfl
  · split
    · split <;> rfl
    · rfl

theorem shift_releaseAfterCopyCapture (gate : Gate) (lease : GateLease) (k now : Nat) :
    (gate.shift k).releaseAfterCopyCapture (lease.shift k) now =
      (gate.releaseAfterCopyCapture lease now).map (·.shift k) := by
  have hstate : (gate.shift k).state = gate.state := rfl
  have hpurpose : (gate.shift k).purpose = gate.purpose := rfl
  simp only [Gate.releaseAfterCopyCapture, shift_requireLiveOwner, hstate, hpurpose, opened_shift,
    require]
  cases gate.requireLiveOwner lease now with
  | error => rfl
  | ok =>
    by_cases hquiesced : gate.state = .quiesced
    · by_cases hcopy : gate.purpose = .copyCapture
      · simp [hquiesced, hcopy, bind, Except.bind, Except.map, pure, Except.pure]
      · simp [hquiesced, hcopy, bind, Except.bind, Except.map]
    · simp [hquiesced, bind, Except.bind, Except.map]

inductive GateOperation
  | claim (ownerId : Nat) (fencingToken : Option Nat) (purpose : Purpose) (now : Nat)
  | heartbeat (lease : GateLease) (now : Nat)
  | quiesce (lease : GateLease) (now : Nat)
  | markMigratedOut (lease : GateLease) (now : Nat)
  | recoverExpired (now : Nat)
  | releaseAfterCopyCapture (lease : GateLease) (now : Nat)

def Gate.apply (settings : Settings) (gate : Gate) : GateOperation → Except Refusal Gate
  | .claim ownerId fencingToken purpose now => gate.claim settings ownerId fencingToken purpose now
  | .heartbeat lease now => gate.heartbeat settings lease now
  | .quiesce lease now => gate.quiesce lease now
  | .markMigratedOut lease now => gate.markMigratedOut lease now
  | .recoverExpired now => gate.recoverExpired now
  | .releaseAfterCopyCapture lease now => gate.releaseAfterCopyCapture lease now

def GateOperation.shift (k : Nat) : GateOperation → GateOperation
  | .claim ownerId fencingToken purpose now =>
    .claim ownerId (fencingToken.map (· + k)) purpose now
  | .heartbeat lease now => .heartbeat (lease.shift k) now
  | .quiesce lease now => .quiesce (lease.shift k) now
  | .markMigratedOut lease now => .markMigratedOut (lease.shift k) now
  | .recoverExpired now => .recoverExpired now
  | .releaseAfterCopyCapture lease now => .releaseAfterCopyCapture (lease.shift k) now

theorem shift_apply (settings : Settings) (gate : Gate) (k : Nat) (operation : GateOperation) :
    (gate.shift k).apply settings (operation.shift k) =
      (gate.apply settings operation).map (·.shift k) := by
  cases operation with
  | claim _ _ _ now => exact shift_claim gate settings _ _ _ k now
  | heartbeat lease now => exact shift_heartbeat gate settings lease k now
  | quiesce lease now => exact shift_quiesce gate lease k now
  | markMigratedOut lease now => exact shift_markMigratedOut gate lease k now
  | recoverExpired now => exact shift_recoverExpired gate k now
  | releaseAfterCopyCapture lease now => exact shift_releaseAfterCopyCapture gate lease k now

theorem shift_foldlM (settings : Settings) (gate : Gate) (k : Nat)
    (operations : List GateOperation) :
    (operations.map (·.shift k)).foldlM (Gate.apply settings) (gate.shift k) =
      (operations.foldlM (Gate.apply settings) gate).map (·.shift k) := by
  induction operations generalizing gate with
  | nil => rfl
  | cons operation _ ih =>
    simp only [map_cons, foldlM_cons, shift_apply]
    cases hstep : gate.apply settings operation with
    | error => rfl
    | ok gate' => exact ih gate'

end Gates

section Histories

variable {δ : Type} [DecidableEq δ]
variable {w w' : World δ} {self : δ} {d d' : Deployment δ} {receipt : Receipt δ}
  {space space' : Makerspace δ} {pairing : Pairing δ} {operation : Operation}
  {receiptId migrationId spaceId jobId : Nat} {envelope : Receipt δ}

/-- A handoff row is kept, new, first, or still there. -/
def HandoffMoves (d d' : Deployment δ) : Prop :=
  d.nextSpace ≤ d'.nextSpace ∧ ∀ space' ∈ d'.spaces,
    (space'.id = d.nextSpace ∧ space'.handoff = none) ∨ ∃ space ∈ d.spaces, space.id = space'.id ∧
        (space'.handoff = space.handoff ∨ (space.handoff = none ∧ space'.migratedOut = true) ∨
          (space.handoff ≠ none ∧ space'.handoff ≠ none))

omit [DecidableEq δ] in
theorem handoffMoves_refl (d : Deployment δ) : HandoffMoves d d :=
  ⟨le_refl _, fun space hspace => .inr ⟨space, hspace, rfl, .inl rfl⟩⟩

omit [DecidableEq δ] in
theorem handoffMoves_put {spaces : Table (Makerspace δ)}
    (hput : d'.spaces = spaces.put space') (hspaces : spaces = d.spaces)
    (hspace : d.spaces.get? space.id = some space) (hid : space'.id = space.id)
    (hnext : d'.nextSpace = d.nextSpace) (hmoves : space'.handoff = space.handoff ∨
      (space.handoff = none ∧ space'.migratedOut = true) ∨
      (space.handoff ≠ none ∧ space'.handoff ≠ none)) :
    HandoffMoves d d' := by
  refine ⟨hnext.ge, fun x hx => .inr ?_⟩
  rw [hput, hspaces] at hx
  rcases mem_of_mem_put hx with rfl | ⟨hold, -⟩
  · exact ⟨space, mem_of_get? hspace, hid.symm, hmoves⟩
  · exact ⟨x, hold, rfl, .inl rfl⟩

omit [DecidableEq δ] in
theorem spaceChange_handoff {settings : Settings} {now : Nat}
    (h : SpaceChange settings now space space') :
    space'.id = space.id ∧ space'.handoff = space.handoff := by
  cases h with
  | archive h =>
    obtain ⟨-, -, -, rfl⟩ := archiveLocked_ok.mp h
    exact ⟨rfl, rfl⟩
  | unarchive h =>
    obtain ⟨-, rfl⟩ := unarchive_cases h
    exact ⟨rfl, rfl⟩
  | _ => exact ⟨rfl, rfl⟩

theorem change_handoff (h : Change self d d') : HandoffMoves d d' := by
  cases h with
  | approvePairing _ h =>
    obtain ⟨-, -, rfl | ⟨-, rfl⟩⟩ := approvePairing_cases h <;> exact handoffMoves_refl _
  | space _ hspace h =>
    obtain ⟨hid, hhandoff⟩ := spaceChange_handoff h
    exact handoffMoves_put rfl rfl hspace hid rfl (.inl hhandoff)
  | createSpace h | materialize _ _ _ h =>
    obtain ⟨hnew, rfl⟩ := insertNew_ok.mp h
    refine ⟨Nat.le_succ _, fun x hx => ?_⟩
    rcases (mem_insert hnew).mp hx with hold | rfl
    · exact .inr ⟨x, hold, rfl, .inl rfl⟩
    · exact .inl ⟨rfl, rfl⟩
  | purge =>
    refine ⟨le_refl _, fun x hx => .inr ⟨x, ?_, rfl, .inl rfl⟩⟩
    simp [Table.erase, Table.mem_def] at hx
    exact hx.1
  | _ => exact handoffMoves_refl d

theorem issueLocalReceipt_spaces (h : d.issueLocalReceipt self pairing operation receiptId =
      .ok (d', receipt)) :
    d'.spaces = d.spaces ∧ d'.nextSpace = d.nextSpace := by
  rcases issueLocalReceipt_cases h with ⟨rfl, -⟩ | ⟨-, -, -, rfl⟩ <;> exact ⟨rfl, rfl⟩

theorem verifyPeerReceipt_spaces {verified : Deployment δ × Receipt δ}
    (h : d.verifyPeerReceipt pairing envelope operation = .ok verified) :
    verified.1.spaces = d.spaces ∧ verified.1.nextSpace = d.nextSpace := by
  have h' : d.verifyPeerReceipt pairing envelope operation = .ok (verified.1, verified.2) := h
  obtain ⟨-, -, -, hcases⟩ := verifyPeerReceipt_cases h'
  rcases hcases with heq | ⟨_, heq⟩ <;> rw [heq] <;> exact ⟨rfl, rfl⟩

omit [DecidableEq δ] in
theorem consumeOnce_spaces {purpose : ConsumptionPurpose}
    (h : d.consumeOnce receipt purpose = .ok d') :
    d'.spaces = d.spaces ∧ d'.nextSpace = d.nextSpace := by
  obtain ⟨_, rfl⟩ := consumeOnce_cases h
  exact ⟨rfl, rfl⟩

theorem retireSource_handoff
    (h : d.retireSource self migrationId spaceId receiptId = .ok (d', receipt)) :
    HandoffMoves d d' := by
  rcases retireSource_cases h with
    ⟨rfl, -⟩ | ⟨_, -, _, _, hspace, -, hnone, hissue, rfl⟩
  · exact handoffMoves_refl _
  · obtain ⟨hspaces, hnext⟩ := issueLocalReceipt_spaces hissue
    exact handoffMoves_put rfl hspaces hspace rfl hnext (.inr (.inl ⟨hnone, rfl⟩))

theorem reopenSource_handoff (h : d.reopenSource migrationId spaceId envelope = .ok (d', receipt)) :
    HandoffMoves d d' := by
  obtain ⟨_, -, _, hverify, hcases⟩ := reopenSource_cases h
  obtain ⟨hspaces, hnext⟩ := verifyPeerReceipt_spaces hverify
  rcases hcases with rfl | ⟨_, _, hspace, hhandoff, hconsume, rfl⟩
  · refine ⟨hnext.ge, fun x hx => .inr ⟨x, ?_, rfl, .inl rfl⟩⟩
    rwa [hspaces] at hx
  · obtain ⟨hspaces', hnext'⟩ := consumeOnce_spaces hconsume
    exact handoffMoves_put rfl (hspaces'.trans hspaces) hspace rfl (hnext'.trans hnext)
      (.inr (.inr ⟨by simp [hhandoff], by simp⟩))

theorem activateTarget_handoff {ready : Bool}
    (h : d.activateTarget migrationId jobId envelope ready = .ok (d', receipt)) :
    HandoffMoves d d' := by
  obtain ⟨_, -, _, hverify, hcases⟩ := activateTarget_cases h
  obtain ⟨hspaces, hnext⟩ := verifyPeerReceipt_spaces hverify
  rcases hcases with rfl | ⟨_, _, _, htargets, -, hconsume, rfl⟩
  · refine ⟨hnext.ge, fun x hx => .inr ⟨x, ?_, rfl, .inl rfl⟩⟩
    rwa [hspaces] at hx
  · obtain ⟨hspaces', hnext'⟩ := consumeOnce_spaces hconsume
    exact handoffMoves_put rfl (hspaces'.trans hspaces) htargets.2.2.2 rfl (hnext'.trans hnext)
      (.inl rfl)

theorem abortTarget_handoff
    (h : d.abortTarget self migrationId jobId receiptId = .ok (d', receipt)) :
    HandoffMoves d d' := by
  rcases abortTarget_cases h with
    ⟨rfl, -⟩ | ⟨_, -, _, _, _, htargets, -, hissue, rfl⟩
  · exact handoffMoves_refl _
  · obtain ⟨hspaces, hnext⟩ := issueLocalReceipt_spaces hissue
    exact handoffMoves_put rfl hspaces htargets.2.2.2 rfl hnext (.inl rfl)

theorem step_handoff (hstep : Step w w') (self : δ) :
    HandoffMoves (w.deployment self) (w'.deployment self) := by
  have hset : ∀ {v : World δ} {site : δ} {d : Deployment δ}, v.deployment = w.deployment →
      HandoffMoves (w.deployment site) d →
        HandoffMoves (w.deployment self) ((v.set site d).deployment self) := by
    intro v site d hsame hmoves
    rcases eq_or_ne self site with rfl | hne
    · rwa [set_self]
    · rw [set_of_ne v d hne, hsame]
      exact handoffMoves_refl _
  cases hstep with
  | change _ h => exact hset rfl (change_handoff h)
  | createJob => exact hset rfl (handoffMoves_refl _)
  | retireSource _ _ _ h => exact hset rfl (retireSource_handoff h)
  | reopenSource _ _ _ _ _ h =>
    exact hset rfl (reopenSource_handoff h)
  | activateTarget _ _ _ _ _ _ h =>
    exact hset rfl (activateTarget_handoff h)
  | abortTarget _ _ _ h => exact hset rfl (abortTarget_handoff h)

end Histories

section Cycles

variable {δ : Type} [DecidableEq δ]
variable {w w' : World δ} {self : δ} {spaceId n : Nat}

/-- The makerspace has been cut over, and not been reopened since. -/
def Away (w : World δ) (self : δ) (spaceId : Nat) : Prop :=
  ∃ space ∈ (w.deployment self).spaces, space.id = spaceId ∧ space.migratedOut = true

inductive Cycles (self : δ) (spaceId : Nat) (w : World δ) : Nat → World δ → Prop
  | start : Cycles self spaceId w 0 w
  | other {n : Nat} {w' w'' : World δ} (hcycles : Cycles self spaceId w n w')
      (hstep : Step w' w'') (hother : Away w'' self spaceId → Away w' self spaceId) :
      Cycles self spaceId w n w''
  | cutover {n : Nat} {w' w'' : World δ} (hcycles : Cycles self spaceId w n w')
      (hstep : Step w' w'') (hbefore : ¬ Away w' self spaceId)
      (hafter : Away w'' self spaceId) :
      Cycles self spaceId w (n + 1) w''

theorem Cycles.run (h : Cycles self spaceId w n w') : Run w w' := by
  induction h with
  | start => exact Relation.ReflTransGen.refl
  | other _ hstep _ ih | cutover _ hstep _ _ ih => exact ih.tail hstep

theorem exists_cycles (h : Run w w') : ∃ n, Cycles self spaceId w n w' := by
  induction h with
  | refl => exact ⟨0, .start⟩
  | @tail middle last _ hstep ih =>
    obtain ⟨n, hcycles⟩ := ih
    by_cases hother : Away last self spaceId → Away middle self spaceId
    · exact ⟨n, hcycles.other hstep hother⟩
    · have haway : Away last self spaceId ∧ ¬ Away middle self spaceId := by tauto
      exact ⟨n + 1, hcycles.cutover hstep haway.2 haway.1⟩

/-- The handoff row is that of the only cutover. -/
structure Counted (w : World δ) (site : δ) (spaceId n : Nat) : Prop where
  fresh : n = 0 → ∀ space ∈ (w.deployment site).spaces, space.id = spaceId → space.handoff = none
  spent : n ≠ 0 → spaceId < (w.deployment site).nextSpace ∧
    ∀ space ∈ (w.deployment site).spaces, space.id = spaceId → space.handoff ≠ none

theorem counted_of_cycles (hstart : Start w) (h : Cycles self spaceId w n w') :
    Counted w' self spaceId n := by
  induction h with
  | start =>
    exact {
      fresh := fun _ space hspace _ => (hstart.spaces self space hspace).1
      spent := fun hne => absurd rfl hne }
  | @other _ _ _ _ hstep hother ih =>
    obtain ⟨hnext, hmoves⟩ := step_handoff hstep self
    exact {
      fresh := by
        intro hn space' hspace' hid
        rcases hmoves space' hspace' with ⟨-, hnone⟩ | ⟨space, hspace, hsame, hcases⟩
        · exact hnone
        · have hfresh := ih.fresh hn space hspace (hsame.trans hid)
          rcases hcases with hkept | ⟨-, haway⟩ | ⟨hsome, -⟩
          · exact hkept.trans hfresh
          · obtain ⟨old, hold, holdId, hout⟩ := hother ⟨space', hspace', hid, haway⟩
            have hnone := ih.fresh hn old hold holdId
            simp [Makerspace.migratedOut, hnone] at hout
          · exact absurd hfresh hsome
      spent := by
        intro hn
        obtain ⟨hlt, hall⟩ := ih.spent hn
        refine ⟨hlt.trans_le hnext, fun space' hspace' hid => ?_⟩
        rcases hmoves space' hspace' with ⟨_, -⟩ | ⟨space, hspace, hsame, hcases⟩
        · omega
        · have hspent := hall space hspace (hsame.trans hid)
          rcases hcases with hkept | ⟨hnone, -⟩ | ⟨-, hsome⟩
          · rwa [hkept]
          · exact absurd hnone hspent
          · exact hsome }
  | @cutover n _ _ hcycles hstep _ hafter =>
    have hinv := inv_run ((hcycles.run).tail hstep) (inv_of_start hstart)
    obtain ⟨away, haway, hawayId, hout⟩ := hafter
    exact {
      fresh := fun hn => absurd hn (Nat.succ_ne_zero n)
      spent := by
        intro _
        refine ⟨hawayId ▸ hinv.numbered self away haway, fun space hspace hid => ?_⟩
        have hsame : space = away := eq_of_key_eq hspace haway (hid.trans hawayId.symm)
        rw [hsame]
        intro hnone
        simp [Makerspace.migratedOut, hnone] at hout }

/-- What `retire_source` asks for. -/
structure Ready (d : Deployment δ) (site : δ) (pairing : Pairing δ) (space : Makerspace δ) :
    Prop where
  approved : d.pairings.get? pairing.migrationId = some pairing
  located : d.spaces.get? space.id = some space
  named : pairing.sourceTenantId = space.id
  signer : pairing.source = site
  unused : d.receipts.get? (pairing.migrationId, .sourceCutover) = none
  quiesced : space.gate.state = .quiesced
  live : space.gate.leaseExpiresAt.any (d.now < ·) = true
  visible : space.superadminAccessEnabled = true
  unarchived : space.archived = false
  active : space.lifecycle = .active
  fresh : ∀ handoff, space.handoff = some handoff → handoff.pairing ≠ pairing

theorem Ready.retireSource {d : Deployment δ} {pairing : Pairing δ} {space : Makerspace δ}
    (h : Ready d self pairing space) (receiptId : Nat) :
    (∃ result, d.retireSource self pairing.migrationId space.id receiptId = .ok result) ↔
      space.handoff = none := by
  have hany : space.handoff.any (·.pairing = pairing) = false := by
    cases hhandoff : space.handoff with
    | none => rfl
    | some handoff => simp [h.fresh handoff hhandoff]
  have hretire : space.retire pairing d.now =
      if space.handoff = none then .ok { space with
        archived := true
        gate := { space.gate with state := .migratedOut }
        handoff := some { pairing := pairing } }
      else .error (.integrity "migration_handoff") := by
    have hmark : space.gate.markMigratedOut space.gate.lease d.now =
        .ok { space.gate with state := .migratedOut } := by
      simp [Gate.markMigratedOut, Gate.requireLiveOwner, h.quiesced, h.live, require, bind,
        Except.bind, pure, Except.pure]
    have harchive : space.archiveLocked = .ok { space with archived := true } :=
      archiveLocked_ok.mpr ⟨h.visible, h.unarchived, h.active, rfl⟩
    by_cases hnone : space.handoff = none
    · simp [Makerspace.retire, h.named, hmark, harchive, h.quiesced, hnone, require,
        bind, Except.bind, pure, Except.pure]
    · simp [Makerspace.retire, h.named, hany, hmark, harchive, h.quiesced, hnone, require,
        bind, Except.bind]
  have hissue : ∃ issued, d.issueLocalReceipt self pairing .sourceCutover receiptId =
      .ok issued := by
    let receipt : Receipt δ :=
      { receiptId := receiptId, operation := .sourceCutover, pairing := pairing, signer := self }
    have habsent : d.receipts.get? (key (PersistedReceipt.mk receipt true)) = none := h.unused
    have hinsert : d.receipts.insertNew { receipt := receipt, issuedHere := true }
        (Refusal.integrity "uniq_treceipt_pairing_operation") =
          .ok (d.receipts.insert { receipt := receipt, issuedHere := true } habsent) :=
      insertNew_ok.mpr ⟨habsent, rfl⟩
    simp [Deployment.issueLocalReceipt, h.unused, Pairing.signer, h.signer, require, hinsert,
      receipt, bind, Except.bind, pure, Except.pure]
  constructor
  · rintro ⟨_, hresult⟩
    by_contra hsome
    simp only [Deployment.retireSource, h.approved, h.located, orRefuse_some, bind_ok] at hresult
    obtain ⟨_, hpairing, _, hspace, _, hretired, -⟩ := hresult
    cases hpairing
    cases hspace
    rw [hretire, if_neg hsome] at hretired
    cases hretired
  · intro hnone
    obtain ⟨_, hissued⟩ := hissue
    simp only [Deployment.retireSource, h.approved, h.located, orRefuse_some, hretire,
      if_pos hnone, hany, hissued, bind, Except.bind]
    exact ⟨_, rfl⟩

/-- A ready makerspace is cut over the first time only; a reopened gate behaves as a new one. -/
theorem retry_of_cycles (hstart : Start w) (hcycles : Cycles self spaceId w n w') :
    (∀ pairing space receiptId, Ready (w'.deployment self) self pairing space → space.id = spaceId →
        ((∃ result, (w'.deployment self).retireSource self pairing.migrationId space.id
          receiptId = .ok result) ↔ n = 0)) ∧
      ∀ space ∈ (w'.deployment self).spaces, ∀ pairing space', space.reopen pairing = .ok space' →
          ∃ k, ∀ settings (operations : List GateOperation),
            (operations.map (·.shift k)).foldlM (Gate.apply settings) space'.gate =
              (operations.foldlM (Gate.apply settings) {}).map (·.shift k) := by
  have hcounted := counted_of_cycles hstart hcycles
  constructor
  · intro pairing space receiptId hready hid
    rw [hready.retireSource receiptId]
    have hmem := mem_of_get? hready.located
    constructor
    · intro hnone
      by_contra hn
      exact (hcounted.spent hn).2 space hmem hid hnone
    · exact fun hn => hcounted.fresh hn space hmem hid
  · intro space hspace pairing space' hreopen
    have hinv := inv_run hcycles.run (inv_of_start hstart)
    obtain ⟨hhandoff, rfl⟩ := reopen_cases hreopen
    obtain ⟨-, hout, -⟩ := hinv.handed self space hspace _ hhandoff
    have hgate : space.gate.reopenAfterVerifiedAbort =
        ({} : Gate).shift (space.gate.fencingToken + 1) := by
      rw [← opened_eq_shift]
      simp [Gate.reopenAfterVerifiedAbort, (hout rfl).2]
    refine ⟨space.gate.fencingToken + 1, fun settings operations => ?_⟩
    rw [← shift_foldlM, ← hgate]

end Cycles

def secondPairing : Pairing Bool :=
  { migrationId := 1, sourceTenantId := 1, archiveDigest := 8, source := true, target := false }

theorem first_cutover_ready :
    ∃ w : World Bool, Run twoDeployments w ∧ Ready (w.deployment true) true firstPairing
      { id := 1, gate := {
        state := .quiesced, ownerId := some 1, fencingToken := 1,
        leaseExpiresAt := some 10, presignDrainUntil := some 0 } } := by
  have hclaim := Relation.ReflTransGen.single (Step.change (w := twoDeployments) true
    (Change.space { id := 1 } (by rfl) (.gate (.claim 1 none .migration (by rfl)))))
  have hquiesce := hclaim.tail (Step.change true
    (Change.space { id := 1, gate := _ } (by rfl)
      (.gate (.quiesce { ownerId := some 1, fencingToken := 1 } (by rfl)))))
  have hpin := hquiesce.tail (Step.change true (Change.approvePairing firstPairing (by rfl)))
  refine ⟨_, hpin, ?_⟩
  constructor
  case fresh => simp
  all_goals rfl

theorem first_cutover_succeeds :
    ∃ (w : World Bool) (space : Makerspace Bool) (result : Deployment Bool × Receipt Bool),
      Run twoDeployments w ∧
        (w.deployment true).retireSource true firstPairing.migrationId space.id 0 =
          .ok result := by
  obtain ⟨w, hrun, hready⟩ := first_cutover_ready
  obtain ⟨n, hcycles⟩ : ∃ n, Cycles true 1 twoDeployments n w := exists_cycles hrun
  have hn : n = 0 := by
    by_contra hne
    have hspent := (counted_of_cycles start_twoDeployments hcycles).spent hne
    exact hspent.2 _ (mem_of_get? hready.located) rfl rfl
  obtain ⟨result, hresult⟩ :=
    ((retry_of_cycles start_twoDeployments hcycles).1 firstPairing _ 0 hready rfl).mpr hn
  exact ⟨w, _, result, hrun, hresult⟩

def abortReceipt : Receipt Bool :=
  { receiptId := 1, operation := .targetAbort, pairing := firstPairing, signer := false }

def reclaimed : Makerspace Bool where
  id := 1
  gate :=
    { state := .quiesced
      ownerId := some 2
      fencingToken := 3
      leaseExpiresAt := some 10
      presignDrainUntil := some 0 }
  handoff := some { pairing := firstPairing, reopened := true }

theorem second_cutover_ready :
    ∃ w : World Bool, Run twoDeployments w ∧
      Ready (w.deployment true) true secondPairing reclaimed := by
  have hclaim := Relation.ReflTransGen.single (Step.change (w := twoDeployments) true
    (Change.space { id := 1 } (by rfl) (.gate (.claim 1 none .migration (by rfl)))))
  have hquiesce := hclaim.tail (Step.change true
    (Change.space { id := 1, gate := _ } (by rfl)
      (.gate (.quiesce { ownerId := some 1, fencingToken := 1 } (by rfl)))))
  have hpin := hquiesce.tail (Step.change true (Change.approvePairing firstPairing (by rfl)))
  have hpin' := hpin.tail (Step.change false (Change.approvePairing firstPairing (by rfl)))
  have hjob := hpin'.tail (Step.createJob false firstJob (by rfl) (by rfl) (by rfl))
  have htarget := hjob.tail (Step.change false (Change.materialize firstJob
    (by rfl) (by rfl) (by rfl)))
  have hretire := htarget.tail (Step.retireSource true 0 1 (by rfl))
  have habort := hretire.tail (Step.abortTarget false 0 0 (by rfl))
  have hreopen := habort.tail (Step.reopenSource true 0 1 abortReceipt mem_cons_self (by rfl))
  have hclaim' := hreopen.tail (Step.change true
    (Change.space { id := 1, gate := _, handoff := _ } (by rfl)
      (.gate (.claim 2 none .migration (by rfl)))))
  have hquiesce' := hclaim'.tail (Step.change true
    (Change.space { id := 1, gate := _, handoff := _ } (by rfl)
      (.gate (.quiesce { ownerId := some 2, fencingToken := 3 } (by rfl)))))
  have hpin'' := hquiesce'.tail (Step.change true (Change.approvePairing secondPairing (by rfl)))
  refine ⟨_, hpin'', ?_⟩
  constructor
  case fresh =>
    intro handoff hhandoff
    cases hhandoff
    decide
  all_goals rfl

theorem second_cutover_refused :
    ∃ (w : World Bool) (n : Nat), Cycles true 1 twoDeployments n w ∧ n ≠ 0 ∧
      Ready (w.deployment true) true secondPairing reclaimed ∧
        ∀ receiptId result, (w.deployment true).retireSource true secondPairing.migrationId
          reclaimed.id receiptId ≠ .ok result := by
  obtain ⟨w, hrun, hready⟩ := second_cutover_ready
  obtain ⟨n, hcycles⟩ : ∃ n, Cycles true 1 twoDeployments n w := exists_cycles hrun
  have hn : n ≠ 0 := by
    intro hn
    have hfresh := (counted_of_cycles start_twoDeployments hcycles).fresh hn
    have hnone := hfresh reclaimed (mem_of_get? hready.located) rfl
    simp [reclaimed] at hnone
  refine ⟨w, n, hcycles, hn, hready, fun receiptId result hresult => ?_⟩
  have hnone := (hready.retireSource receiptId).mp ⟨result, hresult⟩
  simp [reclaimed] at hnone

end Migration
end SpaceWorks
