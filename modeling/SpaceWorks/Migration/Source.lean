import SpaceWorks.Library.Checked

/-!
# The source of a migration

The write gate (`apps/tenant_migration/source_gate.py`, `source_gate_release.py`) and the
transitions it guards (`cutover.py`, `apps/makerspaces/lifecycle_archive.py`).  A missing gate row
is the default one, which is open.
-/

namespace SpaceWorks
namespace Migration

open Checked Except

section Gates

inductive GateState
  | open
  | draining
  | quiesced
  | migratedOut
  deriving DecidableEq

inductive Purpose
  | migration
  | copyCapture
  deriving DecidableEq

structure Gate where
  state : GateState := .open
  purpose : Purpose := .migration
  ownerId : Option Nat := none
  fencingToken : Nat := 0
  leaseExpiresAt : Option Nat := none
  presignDrainUntil : Option Nat := none

structure GateLease where
  ownerId : Option Nat
  fencingToken : Nat
  deriving DecidableEq

def Gate.lease (gate : Gate) : GateLease :=
  { ownerId := gate.ownerId, fencingToken := gate.fencingToken }

structure Settings where
  gateLease : Nat
  presignDrain : Int

inductive Refusal
  | gateClosed (detail : String)
  | ownership (detail : String)
  | recovery (detail : String)
  | transition (detail : String)
  | validation (detail : String)
  | pairing (detail : String)
  | receipt (detail : String)
  | replay (detail : String)
  | integrity (constraint : String)
  | doesNotExist (model : String)

def Gate.requireLiveOwner (gate : Gate) (lease : GateLease) (now : Nat) :
    Except Refusal Unit := do
  require (gate.lease = lease) (.ownership "The source migration owner is stale.")
  require (gate.leaseExpiresAt.any (now < ·)) (.ownership "The source migration lease has expired.")

def Gate.claim (gate : Gate) (settings : Settings) (ownerId : Nat) (fencingToken : Option Nat)
    (purpose : Purpose) (now : Nat) : Except Refusal Gate :=
  if gate.state ≠ .open then
    if gate.ownerId = some ownerId then do
      require (gate.purpose = purpose)
        (.ownership "The source migration owner has a different gate purpose.")
      require (fencingToken = some gate.fencingToken)
        (.ownership "The source migration fencing token is stale.")
      gate.requireLiveOwner { ownerId := some ownerId, fencingToken := gate.fencingToken } now
      pure gate
    else
      .error (.gateClosed "This makerspace already has an active migration owner.")
  else
    pure {
      state := .draining
      purpose := purpose
      ownerId := some ownerId
      fencingToken := gate.fencingToken + 1
      leaseExpiresAt := some (now + settings.gateLease)
      presignDrainUntil := some (now + settings.presignDrain.toNat) }

def Gate.heartbeat (gate : Gate) (settings : Settings) (lease : GateLease) (now : Nat) :
    Except Refusal Gate := do
  gate.requireLiveOwner lease now
  pure { gate with leaseExpiresAt := some (now + settings.gateLease) }

/-- The second transaction of `quiesced_snapshot`. -/
def Gate.quiesce (gate : Gate) (lease : GateLease) (now : Nat) : Except Refusal Gate := do
  gate.requireLiveOwner lease now
  if gate.state = .draining then
    pure { gate with state := .quiesced }
  else do
    require (gate.state = .quiesced)
      (.ownership "The source gate is not resumable at the snapshot step.")
    pure gate

/-- The checks of the third transaction of `quiesced_snapshot`. -/
def Gate.requireQuiesced (gate : Gate) (lease : GateLease) (now : Nat) :
    Except Refusal Unit := do
  gate.requireLiveOwner lease now
  require (gate.state = .quiesced)
    (.ownership "The source gate changed before its snapshot opened.")

def Gate.markMigratedOut (gate : Gate) (lease : GateLease) (now : Nat) :
    Except Refusal Gate := do
  gate.requireLiveOwner lease now
  if gate.state = .migratedOut then
    pure gate
  else do
    require (gate.state = .quiesced) (.ownership "Source cutover requires quiescence.")
    pure { gate with state := .migratedOut }

def Gate.opened (gate : Gate) : Gate :=
  { fencingToken := gate.fencingToken + 1 }

def Gate.recoverExpired (gate : Gate) (now : Nat) : Except Refusal Gate :=
  if gate.state = .open then
    pure gate
  else do
    require (gate.state ≠ .migratedOut)
      (.recovery "A migrated-out source requires a signed target abort receipt.")
    require (gate.leaseExpiresAt.any (· < now))
      (.recovery "The source migration owner still has a live lease.")
    pure gate.opened

def Gate.reopenAfterVerifiedAbort (gate : Gate) : Gate :=
  if gate.state = .open then gate else gate.opened

def Gate.releaseAfterCopyCapture (gate : Gate) (lease : GateLease) (now : Nat) :
    Except Refusal Gate := do
  gate.requireLiveOwner lease now
  require (gate.state = .quiesced)
    (.ownership "A copy capture can release only a quiesced source gate.")
  require (gate.purpose = .copyCapture)
    (.ownership "The source gate is not owned for a copy capture.")
  pure gate.opened

/-- Without a new token the gate neither opens nor closes. -/
def Gate.Moves (gate gate' : Gate) : Prop :=
  gate'.fencingToken = gate.fencingToken ∧ (gate'.state = .open ↔ gate.state = .open) ∨
    gate'.fencingToken = gate.fencingToken + 1

variable {gate gate' : Gate} {settings : Settings} {lease : GateLease} {now : Nat}
  {u : Unit} {ownerId : Nat} {fencingToken : Option Nat} {purpose : Purpose}

theorem lease_of_requireLiveOwner
    (h : gate.requireLiveOwner lease now = .ok u) : gate.lease = lease := by
  simp only [Gate.requireLiveOwner, bind_ok, require_ok] at h
  obtain ⟨_, hlease, _⟩ := h
  exact hlease

theorem moves_opened (gate : Gate) : gate.Moves gate.opened :=
  .inr rfl

theorem claim_cases (h : gate.claim settings ownerId fencingToken purpose now = .ok gate') :
    (gate.state ≠ .open ∧ gate' = gate) ∨
      (gate.state = .open ∧ gate'.state = .draining ∧
        gate'.fencingToken = gate.fencingToken + 1) := by
  unfold Gate.claim at h
  split at h
  · next hclosed =>
      split at h
      · simp at h
        obtain ⟨_, _, _, _, _, _, rfl⟩ := h
        exact .inl ⟨hclosed, rfl⟩
      · cases h
  · next hopen =>
      cases h
      exact .inr ⟨not_not.mp hopen, rfl, rfl⟩

theorem claim_moves (h : gate.claim settings ownerId fencingToken purpose now = .ok gate') :
    gate.Moves gate' := by
  rcases claim_cases h with ⟨_, rfl⟩ | ⟨_, _, htoken⟩
  · exact .inl ⟨rfl, Iff.rfl⟩
  · exact .inr htoken

theorem claim_not_open (h : gate.claim settings ownerId fencingToken purpose now = .ok gate') :
    gate'.state ≠ .open := by
  rcases claim_cases h with ⟨hclosed, rfl⟩ | ⟨_, hdraining, _⟩
  · exact hclosed
  · simp [hdraining]

theorem heartbeat_ok (h : gate.heartbeat settings lease now = .ok gate') :
    gate' = { gate with leaseExpiresAt := some (now + settings.gateLease) } := by
  simp [Gate.heartbeat] at h
  obtain ⟨_, _, rfl⟩ := h
  rfl

theorem quiesce_cases (h : gate.quiesce lease now = .ok gate') :
    gate.lease = lease ∧ (gate.state = .draining ∨ gate.state = .quiesced) ∧
      gate' = { gate with state := .quiesced } := by
  simp only [Gate.quiesce, bind_ok] at h
  obtain ⟨_, hlive, h⟩ := h
  have hlease := lease_of_requireLiveOwner hlive
  split at h
  · next hdraining =>
      cases h
      exact ⟨hlease, .inl hdraining, rfl⟩
  · simp only [bind_ok, require_ok, pure_ok] at h
    obtain ⟨_, hquiesced, rfl⟩ := h
    refine ⟨hlease, .inr hquiesced, ?_⟩
    cases gate
    simp_all

theorem requireQuiesced_cases (h : gate.requireQuiesced lease now = .ok u) :
    gate.lease = lease ∧ gate.state = .quiesced := by
  simp only [Gate.requireQuiesced, bind_ok, require_ok] at h
  obtain ⟨_, hlive, hquiesced⟩ := h
  exact ⟨lease_of_requireLiveOwner hlive, hquiesced⟩

theorem markMigratedOut_cases (h : gate.markMigratedOut lease now = .ok gate') :
    gate.state ≠ .open ∧ gate' = { gate with state := .migratedOut } := by
  simp only [Gate.markMigratedOut, bind_ok] at h
  obtain ⟨_, -, h⟩ := h
  split at h
  · next hout =>
      cases h
      refine ⟨by simp [hout], ?_⟩
      cases gate
      simp_all
  · simp only [bind_ok, require_ok, pure_ok] at h
    obtain ⟨_, hquiesced, rfl⟩ := h
    exact ⟨by simp [hquiesced], rfl⟩

theorem recoverExpired_cases (h : gate.recoverExpired now = .ok gate') :
    gate' = gate ∨ (gate.state ≠ .migratedOut ∧ gate' = gate.opened) := by
  unfold Gate.recoverExpired at h
  split at h
  · exact .inl (ok.inj h).symm
  · simp only [bind_ok, require_ok, pure_ok] at h
    obtain ⟨_, hout, _, _, rfl⟩ := h
    exact .inr ⟨hout, rfl⟩

theorem release_cases (h : gate.releaseAfterCopyCapture lease now = .ok gate') :
    gate.state = .quiesced ∧ gate' = gate.opened := by
  simp only [Gate.releaseAfterCopyCapture, bind_ok, require_ok, pure_ok] at h
  obtain ⟨_, _, _, hquiesced, _, _, rfl⟩ := h
  exact ⟨hquiesced, rfl⟩

theorem reopen_moves (gate : Gate) : gate.Moves gate.reopenAfterVerifiedAbort := by
  unfold Gate.reopenAfterVerifiedAbort
  split
  · exact .inl ⟨rfl, Iff.rfl⟩
  · exact moves_opened gate

end Gates

section Makerspaces

inductive Lifecycle
  | active
  | importing
  | aborted
  deriving DecidableEq

/-- What `approve_pairing` pins, for ever; `δ` are deployment identities. -/
structure Pairing (δ : Type) where
  migrationId : Nat
  sourceTenantId : Nat
  archiveDigest : Nat
  source : δ
  target : δ
  deriving DecidableEq

structure Handoff (δ : Type) where
  pairing : Pairing δ
  reopened : Bool := false
  deriving DecidableEq

structure Makerspace (δ : Type) where
  id : Nat
  lifecycle : Lifecycle := .active
  archived : Bool := false
  superadminAccessEnabled : Bool := true
  purgeStarted : Bool := false
  gate : Gate := {}
  handoff : Option (Handoff δ) := none

variable {δ : Type} {space space' : Makerspace δ} {pairing : Pairing δ}

/-- `has_active_migrated_out_handoff`. -/
def Makerspace.migratedOut (space : Makerspace δ) : Bool :=
  space.handoff.any (!·.reopened)

def Makerspace.archiveLocked (space : Makerspace δ) : Except Refusal (Makerspace δ) := do
  require (space.superadminAccessEnabled = true) (.validation "Cannot archive a hidden makerspace.")
  require (space.archived = false ∧ space.lifecycle = .active)
    (.validation "Makerspace is not available for archival.")
  pure { space with archived := true }

def Makerspace.unarchive (space : Makerspace δ) : Except Refusal (Makerspace δ) := do
  require (space.purgeStarted = false)
    (.validation "Purge has started; restore a pre-purge backup to recover this makerspace.")
  require (space.superadminAccessEnabled = true)
    (.validation "Cannot unarchive a hidden makerspace.")
  require (space.archived = true) (.validation "Makerspace is not archived.")
  require (space.migratedOut = false)
    (.validation "A migrated-out makerspace can only be reopened with a signed abort receipt.")
  pure { space with archived := false }

/-- `retire_source` before its receipt; a pairing's handoff is made once. -/
def Makerspace.retire [DecidableEq δ] (space : Makerspace δ) (pairing : Pairing δ) (now : Nat) :
    Except Refusal (Makerspace δ) := do
  require (space.id = pairing.sourceTenantId)
    (.transition "The pairing names a different source tenant.")
  if space.handoff.any (·.pairing = pairing) then
    pure space
  else do
    require (space.gate.state = .quiesced)
      (.transition "Source cutover requires a quiesced source migration gate.")
    let gate ← space.gate.markMigratedOut space.gate.lease now
    let archived ← space.archiveLocked
    require (space.handoff = none) (.integrity "migration_handoff")
    pure { archived with gate := gate, handoff := some { pairing := pairing } }

/-- `reopen_source` with a fresh abort receipt. -/
def Makerspace.reopen [DecidableEq δ] (space : Makerspace δ) (pairing : Pairing δ) :
    Except Refusal (Makerspace δ) := do
  require (space.handoff = some { pairing := pairing } ∧ space.archived = true)
    (.transition "The source has no active migrated-out handoff.")
  pure { space with
    archived := false
    gate := space.gate.reopenAfterVerifiedAbort
    handoff := some { pairing := pairing, reopened := true } }

theorem archiveLocked_ok :
    space.archiveLocked = .ok space' ↔
      space.superadminAccessEnabled = true ∧ space.archived = false ∧
        space.lifecycle = .active ∧ space' = { space with archived := true } := by
  simp only [Makerspace.archiveLocked, bind_ok, require_ok, pure_ok]
  constructor
  · rintro ⟨_, hvisible, _, ⟨hlive, hactive⟩, rfl⟩
    exact ⟨hvisible, hlive, hactive, rfl⟩
  · rintro ⟨hvisible, hlive, hactive, rfl⟩
    exact ⟨⟨⟩, hvisible, ⟨⟩, ⟨hlive, hactive⟩, rfl⟩

theorem unarchive_cases (h : space.unarchive = .ok space') :
    space.migratedOut = false ∧ space' = { space with archived := false } := by
  simp only [Makerspace.unarchive, bind_ok, require_ok, pure_ok] at h
  obtain ⟨_, _, _, _, _, _, _, hout, rfl⟩ := h
  exact ⟨hout, rfl⟩

variable [DecidableEq δ]

theorem retire_cases {now : Nat} (h : space.retire pairing now = .ok space') :
    space.id = pairing.sourceTenantId ∧
      (((∃ handoff, space.handoff = some handoff ∧ handoff.pairing = pairing) ∧ space' = space) ∨
        (space.gate.state = .quiesced ∧ space.lifecycle = .active ∧ space.handoff = none ∧
          space' = { space with
            archived := true
            gate := { space.gate with state := .migratedOut }
            handoff := some { pairing := pairing } })) := by
  simp only [Makerspace.retire, bind_ok, require_ok] at h
  obtain ⟨_, hid, h⟩ := h
  refine ⟨hid, ?_⟩
  split at h
  · next hrepeat =>
      cases h
      obtain ⟨handoff, hhandoff, hpairing⟩ := (Option.any_eq_true _ _).mp hrepeat
      exact .inl ⟨⟨handoff, hhandoff, of_decide_eq_true hpairing⟩, rfl⟩
  · simp only [bind_ok, require_ok, pure_ok] at h
    obtain ⟨_, hquiesced, _, hmark, _, harchive, _, hnone, rfl⟩ := h
    obtain ⟨-, rfl⟩ := markMigratedOut_cases hmark
    obtain ⟨-, -, hactive, rfl⟩ := archiveLocked_ok.mp harchive
    exact .inr ⟨hquiesced, hactive, hnone, rfl⟩

theorem reopen_cases (h : space.reopen pairing = .ok space') :
    space.handoff = some { pairing := pairing } ∧
      space' = { space with
        archived := false
        gate := space.gate.reopenAfterVerifiedAbort
        handoff := some { pairing := pairing, reopened := true } } := by
  simp only [Makerspace.reopen, bind_ok, require_ok, pure_ok] at h
  obtain ⟨_, ⟨hhandoff, -⟩, rfl⟩ := h
  exact ⟨hhandoff, rfl⟩

end Makerspaces

end Migration
end SpaceWorks
