import Mathlib.Logic.Relation
import SpaceWorks.Migration.Source

/-!
# Snapshots and the cutover of a source

Tenant writes, exports (`archive_envelope.py`, `services_export_job.py`), copy captures and the
cutover.  A write holds the shared advisory lock from its look at the gate to its commit; moves of
the gate take the exclusive one, a snapshot until the archive is complete.
-/

namespace SpaceWorks
namespace Migration

open Checked List

section Sessions

/-- A complete export: manifest authority, digest, and the writes in its snapshot. -/
structure Export where
  authority : GateLease
  archiveDigest : Nat
  snapshot : Nat

/-- A transaction, or a capture; its snapshot starts with the statement that waits for the lock. -/
inductive Session
  | idle
  | writing
  | claimed (purpose : Purpose) (lease : GateLease)
  | quiesced (purpose : Purpose) (lease : GateLease)
  | opening (purpose : Purpose) (lease : GateLease) (seen : Gate) (snapshot : Nat)
  | capturing (purpose : Purpose) (lease : GateLease) (snapshot : Nat)
  | captured (purpose : Purpose) (lease : GateLease) (snapshot : Nat)

def Session.Shares : Session → Prop
  | .capturing _ _ _ => False
  | _ => True

def Session.Free : Session → Prop
  | .capturing _ _ _ => False
  | .writing => False
  | _ => True

variable {ι δ : Type}

structure Retirement (δ : Type) where
  pairing : Pairing δ
  archive : Export
  writes : Nat

/-- The makerspace, the number of writes, exports, sessions and cutovers. -/
structure Source (ι δ : Type) where
  settings : Settings
  now : Nat
  space : Makerspace δ
  writes : Nat
  exports : List Export
  session : ι → Session
  retirements : List (Retirement δ)

variable [DecidableEq ι] [DecidableEq δ]

def Source.set (c : Source ι δ) (i : ι) (session : Session) : Source ι δ :=
  { c with session := Function.update c.session i session }

def Source.setGate (c : Source ι δ) (gate : Gate) : Source ι δ :=
  { c with space := { c.space with gate := gate } }

/-- One transaction or statement; `allowed` restricts cutovers. -/
inductive Next (allowed : Source ι δ → Pairing δ → Export → Prop) :
    Source ι δ → Source ι δ → Prop
  | tick {c : Source ι δ} (now : Nat) (hlater : c.now ≤ now) : Next allowed c { c with now := now }
  | beginWrite {c : Source ι δ} {i : ι} (hidle : c.session i = .idle)
      (hshared : ∀ j, (c.session j).Shares)
      (hopen : c.space.gate.state = .open) :
      Next allowed c (c.set i .writing)
  | commitWrite {c : Source ι δ} {i : ι}
      (hwriting : c.session i = .writing) :
      Next allowed c ({ c with writes := c.writes + 1 }.set i .idle)
  | rollback {c : Source ι δ} (i : ι) : Next allowed c (c.set i .idle)
  | claim {c : Source ι δ} {i : ι} {gate : Gate}
      (purpose : Purpose) (ownerId : Nat) (fencingToken : Option Nat)
      (hidle : c.session i = .idle)
      (hfree : ∀ j, (c.session j).Free)
      (hclaim : c.space.gate.claim c.settings ownerId fencingToken purpose c.now = .ok gate) :
      Next allowed c ((c.setGate gate).set i (.claimed purpose gate.lease))
  | quiesce {c : Source ι δ} {i : ι} {purpose : Purpose} {lease : GateLease} {gate : Gate}
      (hclaimed : c.session i = .claimed purpose lease)
      (hdrained : ∀ drained, c.space.gate.presignDrainUntil = some drained → drained ≤ c.now)
      (hfree : ∀ j, (c.session j).Free)
      (hquiesce : c.space.gate.quiesce lease c.now = .ok gate) :
      Next allowed c ((c.setGate gate).set i (.quiesced purpose lease))
  | openSnapshot {c : Source ι δ} {i : ι} {purpose : Purpose} {lease : GateLease}
      (hquiesced : c.session i = .quiesced purpose lease) :
      Next allowed c (c.set i (.opening purpose lease c.space.gate c.writes))
  | enterSnapshot {c : Source ι δ} {i : ι} {purpose : Purpose} {lease : GateLease}
      {seen : Gate} {snapshot : Nat}
      (hopening : c.session i = .opening purpose lease seen snapshot)
      (hfree : ∀ j, (c.session j).Free)
      (hlive : seen.requireQuiesced lease c.now = .ok ()) :
      Next allowed c (c.set i (.capturing purpose seen.lease snapshot))
  | completeArchive {c : Source ι δ} {i : ι} {purpose : Purpose} {lease : GateLease}
      {snapshot : Nat}
      (hcapturing : c.session i = .capturing purpose lease snapshot) :
      Next allowed c (c.set i (.captured purpose lease snapshot))
  | finishExport {c : Source ι δ} {i : ι} {lease : GateLease} {snapshot : Nat} (archiveDigest : Nat)
      (hcaptured : c.session i = .captured .migration lease snapshot)
      (hshared : ∀ j, (c.session j).Shares)
      (hauthority : c.space.gate.state = .open ∨
        c.space.gate.requireLiveOwner lease c.now = .ok ()) :
      Next allowed c ({ c with exports :=
        { authority := lease, archiveDigest := archiveDigest, snapshot := snapshot } ::
          c.exports }.set i .idle)
  | releaseCapture {c : Source ι δ} {i : ι} {lease : GateLease} {snapshot : Nat} {gate : Gate}
      (hcaptured : c.session i = .captured .copyCapture lease snapshot)
      (hfree : ∀ j, (c.session j).Free)
      (hrelease : c.space.gate.releaseAfterCopyCapture lease c.now = .ok gate) :
      Next allowed c ((c.setGate gate).set i .idle)
  | heartbeat {c : Source ι δ} {gate : Gate} (lease : GateLease)
      (hbeat : c.space.gate.heartbeat c.settings lease c.now = .ok gate) :
      Next allowed c (c.setGate gate)
  | claimCompletedExport {c : Source ι δ} {archive : Export} {ownerId : Nat} {gate : Gate}
      (hexport : archive ∈ c.exports)
      (howner : archive.authority.ownerId = some ownerId)
      (htoken : 1 ≤ archive.authority.fencingToken)
      (hfree : ∀ j, (c.session j).Free)
      (hclaim : c.space.gate.claim c.settings ownerId (some archive.authority.fencingToken)
        .migration c.now = .ok gate) :
      Next allowed c (c.setGate gate)
  | recover {c : Source ι δ} {gate : Gate} (hfree : ∀ j, (c.session j).Free)
      (hrecover : c.space.gate.recoverExpired c.now = .ok gate) :
      Next allowed c (c.setGate gate)
  | retire {c : Source ι δ} (pairing : Pairing δ) {archive : Export} {space : Makerspace δ}
      (hexport : c.exports.filter (·.archiveDigest = pairing.archiveDigest) = [archive])
      (hfree : ∀ j, (c.session j).Free)
      (hretire : c.space.retire pairing c.now = .ok space)
      (hallowed : allowed c pairing archive) :
      Next allowed c { c with
        space := space
        retirements := { pairing := pairing, archive := archive, writes := c.writes } ::
          c.retirements }
  | reopen {c : Source ι δ} {pairing : Pairing δ} {space : Makerspace δ}
      (hfree : ∀ j, (c.session j).Free)
      (hreopen : c.space.reopen pairing = .ok space) :
      Next allowed c { c with space := space }
  | upkeep {c : Source ι δ} (space : Makerspace δ) (hgate : space.gate = c.space.gate) :
      Next allowed c { c with space := space }

def Path (allowed : Source ι δ → Pairing δ → Export → Prop) : Source ι δ → Source ι δ → Prop :=
  Relation.ReflTransGen (Next allowed)

/-- Nobody is at work, and no archive is complete. -/
def Initial (c : Source ι δ) : Prop :=
  (∀ i, c.session i = .idle) ∧ c.exports = [] ∧ c.retirements = []

/-- The gate is under the archive's authority. -/
def Tied (c : Source ι δ) (_ : Pairing δ) (archive : Export) : Prop :=
  c.space.gate.lease = archive.authority

end Sessions

section Invariant

variable {ι δ : Type} {session : Session} {c' : Source ι δ}

def Gate.Past (gate : Gate) (fencingToken : Nat) : Prop :=
  fencingToken ≤ gate.fencingToken ∧ (fencingToken = gate.fencingToken → gate.state ≠ .open)

/-- Snapshots under the standing token have all writes. -/
def Gate.Complete (gate : Gate) (writes : Nat) (fencingToken snapshot : Nat) : Prop :=
  gate.Past fencingToken ∧ (fencingToken = gate.fencingToken → snapshot = writes)

def Session.Fits (gate : Gate) (writes : Nat) : Session → Prop
  | .idle => True
  | .writing => gate.state = .open
  | .claimed _ lease | .quiesced _ lease => gate.Past lease.fencingToken
  | .opening _ lease _ snapshot | .capturing _ lease snapshot | .captured _ lease snapshot =>
    gate.Complete writes lease.fencingToken snapshot

/-- The invariant of runs whose cutovers are tied to their archives. -/
structure GateInv (c : Source ι δ) : Prop where
  fits : ∀ i, (c.session i).Fits c.space.gate c.writes
  exports : ∀ archive ∈ c.exports,
    c.space.gate.Complete c.writes archive.authority.fencingToken archive.snapshot
  retirements : ∀ retirement ∈ c.retirements, retirement.writes = retirement.archive.snapshot

variable {gate gate' : Gate} {writes fencingToken snapshot : Nat}

theorem past_of_moves (hmoves : gate.Moves gate') (h : gate.Past fencingToken) :
    gate'.Past fencingToken := by
  obtain ⟨hle, hclosed⟩ := h
  rcases hmoves with ⟨htoken, hopen⟩ | htoken
  · rw [Gate.Past, htoken, ne_eq, hopen]
    exact ⟨hle, hclosed⟩
  · constructor
    · omega
    · intro heq
      omega

theorem complete_of_moves
    (hmoves : gate.Moves gate') (h : gate.Complete writes fencingToken snapshot) :
    gate'.Complete writes fencingToken snapshot := by
  obtain ⟨hpast, hsnapshot⟩ := h
  refine ⟨past_of_moves hmoves hpast, ?_⟩
  intro heq
  rcases hmoves with ⟨htoken, -⟩ | htoken
  · exact hsnapshot (heq.trans htoken)
  · have hle := hpast.1
    omega

theorem complete_write
    (hopen : gate.state = .open) (h : gate.Complete writes fencingToken snapshot) :
    gate.Complete (writes + 1) fencingToken snapshot :=
  ⟨h.1, fun heq => absurd hopen (h.1.2 heq)⟩

theorem past_lease (hclosed : gate.state ≠ .open) : gate.Past gate.lease.fencingToken :=
  ⟨Nat.le_refl _, fun _ => hclosed⟩

theorem fits_of_moves (hmoves : gate.Moves gate') (hfree : session ≠ .writing)
    (h : session.Fits gate writes) : session.Fits gate' writes := by
  cases session with
  | idle => trivial
  | writing => exact absurd rfl hfree
  | claimed | quiesced => exact past_of_moves hmoves h
  | opening | capturing | captured => exact complete_of_moves hmoves h

theorem fits_write (hopen : gate.state = .open) (h : session.Fits gate writes) :
    session.Fits gate (writes + 1) := by
  cases session with
  | idle => trivial
  | writing => exact hopen
  | claimed | quiesced => exact h
  | opening | capturing | captured => exact complete_write hopen h

theorem not_writing_of_free (hfree : session.Free) : session ≠ .writing := by
  rintro rfl
  exact hfree

variable {c : Source ι δ}

theorem inv_of_initial (h : Initial c) : GateInv c where
  fits := by
    intro i
    rw [h.1 i]
    trivial
  exports := by simp [h.2.1]
  retirements := by simp [h.2.2]

theorem GateInv.move (inv : GateInv c) (hmoves : c.space.gate.Moves gate')
    (hquiet : ∀ i, c.session i ≠ .writing) {space : Makerspace δ} (hgate : space.gate = gate') :
    GateInv { c with space := space } := by
  subst hgate
  exact {
    fits := fun i => fits_of_moves hmoves (hquiet i) (inv.fits i)
    exports := fun e he => complete_of_moves hmoves (inv.exports e he)
    retirements := inv.retirements }

theorem GateInv.fits_of (inv : GateInv c) {i : ι} (h : c.session i = session) :
    session.Fits c.space.gate c.writes :=
  h ▸ inv.fits i

theorem quiet_of_free (hfree : ∀ j, (c.session j).Free) (i : ι) : c.session i ≠ .writing :=
  not_writing_of_free (hfree i)

variable [DecidableEq ι]

theorem GateInv.update (inv : GateInv c) {i : ι} {session : Session}
    (hsession : session.Fits c.space.gate c.writes) :
    GateInv (c.set i session) where
  fits := by
    intro j
    simp only [Source.set, Function.update_apply]
    split
    · exact hsession
    · exact inv.fits j
  exports := inv.exports
  retirements := inv.retirements

variable [DecidableEq δ]

theorem inv_next (hnext : Next Tied c c') (inv : GateInv c) : GateInv c' := by
  cases hnext with
  | tick => exact ⟨inv.fits, inv.exports, inv.retirements⟩
  | beginWrite _ _ hopen => exact inv.update hopen
  | @commitWrite _ hwriting =>
    have hopen : c.space.gate.state = .open := inv.fits_of hwriting
    have hwritten : GateInv { c with writes := c.writes + 1 } := {
      fits := fun j => fits_write hopen (inv.fits j)
      exports := fun e he => complete_write hopen (inv.exports e he)
      retirements := inv.retirements }
    exact hwritten.update trivial
  | rollback => exact inv.update trivial
  | claim _ _ _ _ hfree hclaim =>
    have hmoved := inv.move (claim_moves hclaim) (quiet_of_free hfree)
      (by rfl : { c.space with gate := _ }.gate = _)
    exact hmoved.update (past_lease (claim_not_open hclaim))
  | @quiesce _ _ _ gate _ _ hfree hquiesce =>
    obtain ⟨hlease, hstate, rfl⟩ := quiesce_cases hquiesce
    have hmoves : c.space.gate.Moves { c.space.gate with state := .quiesced } := by
      refine .inl ⟨rfl, ?_⟩
      rcases hstate with hstate | hstate <;> simp [hstate]
    have hmoved := inv.move hmoves (quiet_of_free hfree)
      (by rfl : { c.space with gate := _ }.gate = _)
    refine hmoved.update ?_
    have hpast : { c.space.gate with state := .quiesced }.Past c.space.gate.lease.fencingToken :=
      past_lease (by simp)
    rw [← hlease]
    exact hpast
  | @openSnapshot _ _ lease hquiesced =>
    have hpast : c.space.gate.Past lease.fencingToken := inv.fits_of hquiesced
    exact inv.update ⟨hpast, fun _ => rfl⟩
  | @enterSnapshot _ _ lease _ snapshot hopening _ hlive =>
    have hcomplete : c.space.gate.Complete c.writes lease.fencingToken snapshot :=
      inv.fits_of hopening
    rw [(requireQuiesced_cases hlive).1]
    exact inv.update hcomplete
  | @completeArchive _ _ lease snapshot hcapturing =>
    have hcomplete : c.space.gate.Complete c.writes lease.fencingToken snapshot :=
      inv.fits_of hcapturing
    exact inv.update hcomplete
  | @finishExport _ lease snapshot archiveDigest hcaptured =>
    have hcomplete : c.space.gate.Complete c.writes lease.fencingToken snapshot :=
      inv.fits_of hcaptured
    have hexported : GateInv { c with exports :=
        { authority := lease, archiveDigest := archiveDigest, snapshot := snapshot } ::
          c.exports } := {
      fits := inv.fits
      exports := forall_mem_cons.mpr ⟨hcomplete, inv.exports⟩
      retirements := inv.retirements }
    exact hexported.update trivial
  | releaseCapture _ hfree hrelease =>
    obtain ⟨-, rfl⟩ := release_cases hrelease
    have hmoved := inv.move (moves_opened _) (quiet_of_free hfree)
      (by rfl : { c.space with gate := _ }.gate = _)
    exact hmoved.update trivial
  | heartbeat _ hbeat =>
    obtain rfl := heartbeat_ok hbeat
    -- a heartbeat takes no lock, and it may find a writer only at an open gate
    refine ⟨fun i => ?_, inv.exports, inv.retirements⟩
    exact inv.fits i
  | claimCompletedExport _ _ _ hfree hclaim =>
    exact inv.move (claim_moves hclaim) (quiet_of_free hfree) (by rfl)
  | recover hfree hrecover =>
    rcases recoverExpired_cases hrecover with rfl | ⟨-, rfl⟩
    · exact inv
    · exact inv.move (moves_opened _) (quiet_of_free hfree) (by rfl)
  | @retire pairing archive space hexport hfree hretire htied =>
    have hmem : archive ∈ c.exports := by
      have hfound : archive ∈ c.exports.filter (·.archiveDigest = pairing.archiveDigest) := by
        rw [hexport]
        exact mem_singleton_self archive
      exact mem_of_mem_filter hfound
    have hwrites : c.writes = archive.snapshot := by
      have hcomplete := inv.exports archive hmem
      exact (hcomplete.2 (congrArg GateLease.fencingToken htied.symm)).symm
    have hmoved : GateInv { c with space := space } := by
      obtain ⟨-, ⟨-, rfl⟩ | ⟨hquiesced, -, -, rfl⟩⟩ := retire_cases hretire
      · exact inv
      · have hmoves : c.space.gate.Moves { c.space.gate with state := .migratedOut } :=
          .inl ⟨rfl, by simp [hquiesced]⟩
        exact inv.move hmoves (quiet_of_free hfree) (by rfl)
    exact ⟨hmoved.fits, hmoved.exports, forall_mem_cons.mpr ⟨hwrites, inv.retirements⟩⟩
  | reopen hfree hreopen =>
    obtain ⟨-, rfl⟩ := reopen_cases hreopen
    exact inv.move (reopen_moves _) (quiet_of_free hfree) (by rfl)
  | upkeep _ hgate =>
    refine ⟨fun i => ?_, fun e he => ?_, inv.retirements⟩
    · rw [hgate]
      exact inv.fits i
    · rw [hgate]
      exact inv.exports e he

theorem inv_path (hpath : Path Tied c c') (inv : GateInv c) : GateInv c' := by
  induction hpath with
  | refl => exact inv
  | tail _ hnext ih => exact inv_next hnext ih

end Invariant

section Results

variable {ι δ : Type} [DecidableEq ι] [DecidableEq δ]

/-- Cutovers under their archive's authority lose no tenant write. -/
theorem tied_cutover_complete {c c' : Source ι δ} (hstart : Initial c) (hpath : Path Tied c c') :
    ∀ retirement ∈ c'.retirements, retirement.writes = retirement.archive.snapshot :=
  (inv_path hpath (inv_of_initial hstart)).retirements

def fresh : Source Unit Bool where
  settings := { gateLease := 10, presignDrain := 0 }
  now := 0
  space := { id := 1 }
  writes := 0
  exports := []
  session := fun _ => .idle
  retirements := []

def pairing : Pairing Bool :=
  { migrationId := 5, sourceTenantId := 1, archiveDigest := 7, source := true, target := false }

def exported : Source Unit Bool :=
  { fresh with
    space := { id := 1, gate := {
      state := .quiesced, ownerId := some 1, fencingToken := 1
      leaseExpiresAt := some 10, presignDrainUntil := some 0 } }
    exports := [{
      authority := { ownerId := some 1, fencingToken := 1 }, archiveDigest := 7, snapshot := 0 }] }

theorem path_exported (allowed : Source Unit Bool → Pairing Bool → Export → Prop) :
    Path allowed fresh exported := by
  have hclaim : Path allowed fresh _ := Relation.ReflTransGen.single (Next.claim
    (i := ()) .migration 1 none (by rfl) (fun _ => trivial) (by rfl))
  have hquiesce := hclaim.tail (Next.quiesce (i := ())
    (by rfl : _ = Session.claimed .migration { ownerId := some 1, fencingToken := 1 })
    (by rintro _ ⟨⟩; exact Nat.le_refl 0) (fun _ => trivial) (by rfl))
  have hopen := hquiesce.tail (Next.openSnapshot (i := ())
    (by rfl : _ = Session.quiesced .migration { ownerId := some 1, fencingToken := 1 }))
  have henter := hopen.tail (Next.enterSnapshot (i := ()) (by rfl) (fun _ => trivial) (by rfl))
  have hcomplete := henter.tail (Next.completeArchive (i := ()) (by rfl))
  exact hcomplete.tail (Next.finishExport (i := ()) 7 (by rfl) (fun _ => trivial) (.inr (by rfl)))

/-- After a recovery and a tenant write a second owner quiesces, and the first archive is cut over.
-/
theorem stale_archive_cut_over :
    ∃ c : Source Unit Bool, Initial fresh ∧ Path (fun _ _ _ => True) fresh c ∧
      ∃ retirement ∈ c.retirements, retirement.archive.snapshot < retirement.writes := by
  have hlater := (path_exported fun _ _ _ => True).tail (Next.tick 11 (by decide))
  have hrecover := hlater.tail (Next.recover (fun _ => trivial) (by rfl))
  have hbegin := hrecover.tail (Next.beginWrite (i := ()) (by rfl) (fun _ => trivial) (by rfl))
  have hwrite := hbegin.tail (Next.commitWrite (i := ()) (by rfl))
  have hclaim := hwrite.tail (Next.claim (i := ()) .migration 2 none (by rfl)
    (fun _ => trivial) (by rfl))
  have hquiesce := hclaim.tail (Next.quiesce (i := ())
    (by rfl : _ = Session.claimed .migration { ownerId := some 2, fencingToken := 3 })
    (by rintro _ ⟨⟩; exact Nat.le_refl 11) (fun _ => trivial) (by rfl))
  have hretire := hquiesce.tail (Next.retire pairing (by rfl) (fun _ => trivial) (by rfl) trivial)
  exact ⟨_, ⟨fun _ => rfl, rfl, rfl⟩, hretire, _, mem_cons_self, by decide⟩

theorem cutover_complete : ∃ c : Source Unit Bool, Path Tied fresh c ∧
    ∃ retirement, c.retirements = [retirement] ∧
      retirement.writes = retirement.archive.snapshot := by
  have hretire := (path_exported Tied).tail (Next.retire pairing (by rfl)
    (fun _ => trivial) (by rfl) (by rfl : Tied exported pairing _))
  exact ⟨_, hretire, _, rfl, tied_cutover_complete ⟨fun _ => rfl, rfl, rfl⟩ hretire _ mem_cons_self⟩

end Results

end Migration
end SpaceWorks
