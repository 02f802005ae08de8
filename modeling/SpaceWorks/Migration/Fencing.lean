import SpaceWorks.Migration.Snapshots

/-!
# Fencing of the source gate

The fencing token grows with each claim and reopening, and a pair that has lost the gate never gets
it back.  A snapshot transaction checks the gate of the statement that waits for the lock.
-/

namespace SpaceWorks
namespace Migration

open Checked

section Transitions

variable {ι δ : Type} {now : Nat} {lease : GateLease} {pairing : Pairing δ} {space : Makerspace δ}

inductive Opens (c : Source ι δ) : Prop
  | release (hquiesced : c.space.gate.state = .quiesced)
      (hpurpose : c.space.gate.purpose = .copyCapture)
  | recovery (hout : c.space.gate.state ≠ .migratedOut)
      (hexpired : c.space.gate.leaseExpiresAt.any (· < c.now) = true)
  | abort (pairing : Pairing δ) (hhandoff : c.space.handoff = some { pairing := pairing })

/-- The gate goes on to the next state, or a claim or reopening takes the next token. -/
inductive GateStep (c : Source ι δ) (gate' : Gate) : Prop
  | kept (hlease : gate'.lease = c.space.gate.lease)
      (hstate : gate'.state = c.space.gate.state ∨
        (c.space.gate.state = .draining ∧ gate'.state = .quiesced) ∨
        (c.space.gate.state = .quiesced ∧ gate'.state = .migratedOut))
  | claimed (hopen : c.space.gate.state = .open) (hdraining : gate'.state = .draining)
      (htoken : gate'.fencingToken = c.space.gate.fencingToken + 1)
  | opened (hclosed : c.space.gate.state ≠ .open) (hopen : gate'.state = .open)
      (htoken : gate'.fencingToken = c.space.gate.fencingToken + 1) (hopens : Opens c)

variable {c : Source ι δ} {gate' : Gate}

theorem gateStep_refl (c : Source ι δ) : GateStep c c.space.gate :=
  .kept rfl (.inl rfl)

theorem gateStep_claim {settings : Settings} {ownerId : Nat} {fencingToken : Option Nat}
    {purpose : Purpose}
    (h : c.space.gate.claim settings ownerId fencingToken purpose now = .ok gate') :
    GateStep c gate' := by
  rcases claim_cases h with ⟨-, rfl⟩ | ⟨hopen, hdraining, htoken⟩
  · exact gateStep_refl c
  · exact .claimed hopen hdraining htoken

theorem gateStep_quiesce (h : c.space.gate.quiesce lease now = .ok gate') : GateStep c gate' := by
  obtain ⟨-, hstate, rfl⟩ := quiesce_cases h
  refine .kept rfl ?_
  rcases hstate with hdraining | hquiesced
  · exact .inr (.inl ⟨hdraining, rfl⟩)
  · exact .inl hquiesced.symm

theorem gateStep_release
    (h : c.space.gate.releaseAfterCopyCapture lease now = .ok gate') : GateStep c gate' := by
  simp only [Gate.releaseAfterCopyCapture, bind_ok, require_ok, pure_ok] at h
  obtain ⟨_, -, _, hquiesced, _, hpurpose, rfl⟩ := h
  exact .opened (by simp [hquiesced]) rfl rfl (.release hquiesced hpurpose)

theorem gateStep_recover (h : c.space.gate.recoverExpired c.now = .ok gate') :
    GateStep c gate' := by
  unfold Gate.recoverExpired at h
  split at h
  · cases h
    exact gateStep_refl c
  · next hclosed =>
      simp only [bind_ok, require_ok, pure_ok] at h
      obtain ⟨_, hout, _, hexpired, rfl⟩ := h
      exact .opened hclosed rfl rfl (.recovery hout hexpired)

variable [DecidableEq ι] [DecidableEq δ]

omit [DecidableEq ι] in
theorem gateStep_retire (h : c.space.retire pairing now = .ok space) : GateStep c space.gate := by
  obtain ⟨-, ⟨-, rfl⟩ | ⟨hquiesced, -, -, rfl⟩⟩ := retire_cases h
  · exact gateStep_refl c
  · exact .kept rfl (.inr (.inr ⟨hquiesced, rfl⟩))

omit [DecidableEq ι] in
theorem gateStep_reopen (h : c.space.reopen pairing = .ok space) : GateStep c space.gate := by
  obtain ⟨hhandoff, rfl⟩ := reopen_cases h
  by_cases hopen : c.space.gate.state = .open
  · simp only [Gate.reopenAfterVerifiedAbort, if_pos hopen]
    exact gateStep_refl c
  · simp only [Gate.reopenAfterVerifiedAbort, if_neg hopen]
    exact .opened hopen rfl rfl (.abort pairing hhandoff)

variable {allowed : Source ι δ → Pairing δ → Export → Prop} {c' c'' : Source ι δ}

theorem next_gate (h : Next allowed c c') : GateStep c c'.space.gate := by
  cases h with
  | claim _ _ _ _ _ hclaim => exact gateStep_claim hclaim
  | quiesce _ _ _ hquiesce => exact gateStep_quiesce hquiesce
  | releaseCapture _ _ hrelease => exact gateStep_release hrelease
  | heartbeat _ hbeat =>
    obtain rfl := heartbeat_ok hbeat
    exact .kept rfl (.inl rfl)
  | claimCompletedExport _ _ _ _ hclaim => exact gateStep_claim hclaim
  | recover _ hrecover => exact gateStep_recover hrecover
  | retire _ _ _ hretire => exact gateStep_retire hretire
  | reopen _ hreopen => exact gateStep_reopen hreopen
  | upkeep _ hgate =>
    rw [hgate]
    exact gateStep_refl c
  | _ => exact gateStep_refl c

omit [DecidableEq ι] [DecidableEq δ] in
theorem GateStep.lease_or_token (h : GateStep c gate') :
    gate'.lease = c.space.gate.lease ∨ gate'.fencingToken = c.space.gate.fencingToken + 1 := by
  cases h with
  | kept hlease => exact .inl hlease
  | claimed _ _ htoken | opened _ _ htoken => exact .inr htoken

theorem path_lease (hpath : Path allowed c c') :
    c'.space.gate.lease = c.space.gate.lease ∨
      c.space.gate.fencingToken < c'.space.gate.fencingToken := by
  induction hpath with
  | refl => exact .inl rfl
  | @tail _ _ _ hnext ih =>
    have hstep := (next_gate hnext).lease_or_token
    have htoken : ∀ {gate gate' : Gate}, gate'.lease = gate.lease →
        gate'.fencingToken = gate.fencingToken :=
      fun h => congrArg GateLease.fencingToken h
    rcases hstep with hsame | _
    · rcases ih with hkept | hgrown
      · exact .inl (hsame.trans hkept)
      · exact .inr (htoken hsame ▸ hgrown)
    · right
      rcases ih with hkept | _
      · have := htoken hkept
        omega
      · omega

theorem path_token (hpath : Path allowed c c') :
    c.space.gate.fencingToken ≤ c'.space.gate.fencingToken := by
  rcases path_lease hpath with hsame | hlater
  · exact Nat.le_of_eq (congrArg GateLease.fencingToken hsame).symm
  · exact Nat.le_of_lt hlater

theorem stale_forever (hpath : Path allowed c c')
    (hpath' : Path allowed c' c'') (howned : c.space.gate.lease = lease)
    (hlost : c'.space.gate.lease ≠ lease) : c''.space.gate.lease ≠ lease := by
  have hgrown : c.space.gate.fencingToken < c'.space.gate.fencingToken := by
    rcases path_lease hpath with hsame | hlater
    · exact absurd (hsame.trans howned) hlost
    · exact hlater
  have hlater := path_token hpath'
  intro heq
  have htoken : c''.space.gate.fencingToken = c.space.gate.fencingToken :=
    congrArg GateLease.fencingToken (heq.trans howned.symm)
  omega

end Transitions

section Sessions

variable {ι δ : Type} [DecidableEq ι] [DecidableEq δ]
variable {allowed : Source ι δ → Pairing δ → Export → Prop} {c c' c'' : Source ι δ}

/-- No capture waits for the lock with its snapshot taken. -/
def Session.Opening (session : Session) (seen : Gate) : Prop :=
  ∃ purpose lease snapshot, session = .opening purpose lease seen snapshot

/-- A session stays, starts to write at an open gate, opens a snapshot, or neither. -/
theorem next_session (h : Next allowed c c') (j : ι) :
    c'.session j = c.session j ∨
      (c'.session j = .writing ∧ c'.space = c.space ∧ c.space.gate.state = .open) ∨
      ((c'.session j).Opening c.space.gate ∧ c'.session j ≠ .writing ∧ c'.space = c.space) ∨
      (c'.session j ≠ .writing ∧ ∀ seen, ¬ (c'.session j).Opening seen) := by
  have hset : ∀ (d : Source ι δ) (i : ι) (session : Session), d.session = c.session →
      (d.set i session).session j = c.session j ∨ (d.set i session).session j = session := by
    intro d i session hsame
    by_cases hj : j = i
    · subst hj
      exact .inr (by simp [Source.set])
    · exact .inl (by simp [Source.set, hj, hsame])
  have hquiet : ∀ (d : Source ι δ) (i : ι) (session : Session), d.session = c.session →
      session ≠ .writing → (∀ seen, ¬ session.Opening seen) →
        (d.set i session).session j = c.session j ∨
          ((d.set i session).session j ≠ .writing ∧
            ∀ seen, ¬ ((d.set i session).session j).Opening seen) := by
    intro d i session hsame hwriting hopening
    rcases hset d i session hsame with hold | hnew
    · exact .inl hold
    · rw [hnew]
      exact .inr ⟨hwriting, hopening⟩
  cases h with
  | beginWrite _ _ hopen =>
    rcases hset c _ .writing rfl with hsame | hnew
    · exact .inl hsame
    · exact .inr (.inl ⟨hnew, rfl, hopen⟩)
  | openSnapshot =>
    rcases hset c _ (.opening _ _ c.space.gate c.writes) rfl with hsame | hnew
    · exact .inl hsame
    · rw [hnew]
      exact .inr (.inr (.inl ⟨⟨_, _, _, rfl⟩, by simp, rfl⟩))
  | commitWrite | rollback | claim | quiesce | enterSnapshot | completeArchive | finishExport
  | releaseCapture =>
    exact (hquiet _ _ _ rfl (by simp) (by simp [Session.Opening])).imp_right (.inr ∘ .inr)
  | _ => exact .inl rfl

theorem next_quiet (h : Next allowed c c') :
    c'.space.gate.state = c.space.gate.state ∨ ∀ j, c.session j ≠ .writing := by
  cases h with
  | claim _ _ _ _ hfree | quiesce _ _ hfree | releaseCapture _ hfree =>
    exact .inr (quiet_of_free hfree)
  | heartbeat _ hbeat =>
    obtain rfl := heartbeat_ok hbeat
    exact .inl rfl
  | claimCompletedExport _ _ _ hfree | recover hfree | retire _ _ hfree | reopen hfree =>
    exact .inr (quiet_of_free hfree)
  | upkeep _ hgate => exact .inl (congrArg Gate.state hgate)
  | _ => exact .inl rfl

/-- Tenant writes are under way at an open gate only. -/
def Guarded (c : Source ι δ) : Prop :=
  ∀ i, c.session i = .writing → c.space.gate.state = .open

theorem next_guarded (h : Next allowed c c') (hc : Guarded c) : Guarded c' := by
  intro j hj
  rcases next_session h j with hsame | ⟨-, hspace, hopen⟩ | ⟨-, hnot, -⟩ | ⟨hnot, -⟩
  · have hold : c.session j = .writing := hsame ▸ hj
    rcases next_quiet h with hstate | hquiet
    · exact hstate.trans (hc j hold)
    · exact absurd hold (hquiet j)
  · rw [hspace]
    exact hopen
  · exact absurd hj hnot
  · exact absurd hj hnot

theorem path_guarded (hstart : Initial c) (hpath : Path allowed c c') : Guarded c' := by
  induction hpath with
  | refl =>
    intro i hi
    rw [hstart.1 i] at hi
    cases hi
  | tail _ hnext ih => exact next_guarded hnext ih

/-- No capture waits for its snapshot when the gate takes a token. -/
def Calm (c c' : Source ι δ) : Prop :=
  c'.space.gate.fencingToken = c.space.gate.fencingToken ∨ ∀ i seen, ¬ (c.session i).Opening seen

/-- Every waiting capture has seen the pair of the gate. -/
def Current (c : Source ι δ) : Prop :=
  ∀ i seen, (c.session i).Opening seen → seen.lease = c.space.gate.lease

theorem next_current (h : Next allowed c c') (hcalm : Calm c c') (hc : Current c) :
    Current c' := by
  intro j seen hseen
  rcases next_session h j with hsame | ⟨hwriting, -⟩ | ⟨hnew, -, hspace⟩ | ⟨-, hnot⟩
  · have hold : (c.session j).Opening seen := hsame ▸ hseen
    rcases hcalm with _ | hnone
    · rcases (next_gate h).lease_or_token with hlease | _
      · exact (hc j seen hold).trans hlease.symm
      · omega
    · exact absurd hold (hnone j seen)
  · rw [hwriting] at hseen
    obtain ⟨_, _, _, hbad⟩ := hseen
    cases hbad
  · obtain ⟨_, _, _, hsession⟩ := hnew
    obtain ⟨_, _, _, hsession'⟩ := hseen
    rw [hsession] at hsession'
    cases hsession'
    rw [hspace]
  · exact absurd hseen (hnot seen)

def CalmPath (allowed : Source ι δ → Pairing δ → Export → Prop) :
    Source ι δ → Source ι δ → Prop :=
  Relation.ReflTransGen fun c c' => Next allowed c c' ∧ Calm c c'

theorem path_current (hstart : Initial c) (hpath : CalmPath allowed c c') : Current c' := by
  induction hpath with
  | refl =>
    rintro i _ ⟨_, _, _, hi⟩
    rw [hstart.1 i] at hi
    cases hi
  | tail _ hnext ih => exact next_current hnext.1 hnext.2 ih

end Sessions

section Results

variable {ι δ : Type} [DecidableEq ι] [DecidableEq δ]
variable {allowed : Source ι δ → Pairing δ → Export → Prop} {c c' : Source ι δ}

/-- The ownership check passes, at the row or in a snapshot with its lock. -/
def Passes (c : Source ι δ) (lease : GateLease) : Prop :=
  c.space.gate.requireLiveOwner lease c.now = .ok () ∨
    ∃ i purpose seen snapshot, c.session i = .opening purpose lease seen snapshot ∧
      seen.requireLiveOwner lease c.now = .ok ()

/-- No operation of an owner succeeds with the pair. -/
def Refuses (gate : Gate) (lease : GateLease) : Prop :=
  ∀ settings now gate', gate.heartbeat settings lease now ≠ .ok gate' ∧
    gate.quiesce lease now ≠ .ok gate' ∧ gate.markMigratedOut lease now ≠ .ok gate' ∧
      gate.releaseAfterCopyCapture lease now ≠ .ok gate'

theorem refuses_of_ne {gate : Gate} {lease : GateLease} (h : gate.lease ≠ lease) :
    Refuses gate lease := by
  intro settings now gate'
  have hstale : ∀ {u : Unit}, gate.requireLiveOwner lease now ≠ .ok u :=
    fun hlive => h (lease_of_requireLiveOwner hlive)
  refine ⟨fun hok => ?_, fun hok => ?_, fun hok => ?_, fun hok => ?_⟩
  · simp only [Gate.heartbeat, bind_ok] at hok
    obtain ⟨_, hlive, -⟩ := hok
    exact hstale hlive
  · exact h (quiesce_cases hok).1
  · simp only [Gate.markMigratedOut, bind_ok] at hok
    obtain ⟨_, hlive, -⟩ := hok
    exact hstale hlive
  · simp only [Gate.releaseAfterCopyCapture, bind_ok] at hok
    obtain ⟨_, hlive, -⟩ := hok
    exact hstale hlive

omit [DecidableEq ι] [DecidableEq δ] in
theorem Current.passes {lease : GateLease} (hc : Current c) (h : Passes c lease) :
    c.space.gate.lease = lease := by
  rcases h with hrow | ⟨i, purpose, seen, snapshot, hopening, hseen⟩
  · exact lease_of_requireLiveOwner hrow
  · exact (hc i seen ⟨purpose, lease, snapshot, hopening⟩).symm.trans
      (lease_of_requireLiveOwner hseen)

theorem next_writes {c'' : Source ι δ} (hguarded : Guarded c') (h : Next allowed c' c'') :
    (c''.writes ≠ c'.writes → c'.space.gate.state = .open) ∧
      (c''.exports = c'.exports ∨ ∃ archive, c''.exports = archive :: c'.exports ∧
        (c'.space.gate.state = .open ∨
          c'.space.gate.requireLiveOwner archive.authority c'.now = .ok ())) := by
  cases h with
  | commitWrite hwriting => exact ⟨fun _ => hguarded _ hwriting, .inl rfl⟩
  | finishExport _ _ _ hauthority =>
    exact ⟨fun hne => absurd rfl hne, .inr ⟨_, rfl, hauthority⟩⟩
  | _ => exact ⟨fun hne => absurd rfl hne, .inl rfl⟩

/-- The gate makes its moves only, a pair that lost it is refused for ever, one at most passes the
row's check, or any in a calm run, and writes have an open gate or its owner. -/
theorem fencing_of_path (hstart : Initial c) (hpath : Path allowed c c') :
    (∀ c'', Next allowed c' c'' → GateStep c' c''.space.gate) ∧
      c.space.gate.fencingToken ≤ c'.space.gate.fencingToken ∧
      (∀ c₁ c₂ lease, Path allowed c₁ c₂ → Path allowed c₂ c' →
        c₁.space.gate.lease = lease → c₂.space.gate.lease ≠ lease → Refuses c'.space.gate lease) ∧
      (∀ c'', Next allowed c' c'' → (c''.writes ≠ c'.writes → c'.space.gate.state = .open) ∧
        (c''.exports = c'.exports ∨ ∃ archive, c''.exports = archive :: c'.exports ∧
          (c'.space.gate.state = .open ∨
            c'.space.gate.requireLiveOwner archive.authority c'.now = .ok ()))) ∧
      (∀ lease lease', c'.space.gate.requireLiveOwner lease c'.now = .ok () →
        c'.space.gate.requireLiveOwner lease' c'.now = .ok () → lease = lease') ∧
      (CalmPath allowed c c' →
        ∀ lease lease', Passes c' lease → Passes c' lease' → lease = lease') := by
  have hguarded := path_guarded hstart hpath
  refine ⟨fun _ hnext => next_gate hnext, path_token hpath, ?_, fun _ hnext =>
    next_writes hguarded hnext, ?_, ?_⟩
  · intro c₁ c₂ lease hpath₁ hpath₂ howned hlost
    exact refuses_of_ne (stale_forever hpath₁ hpath₂ howned hlost)
  · intro lease lease' h h'
    exact (lease_of_requireLiveOwner h).symm.trans (lease_of_requireLiveOwner h')
  · intro hcalm lease lease' h h'
    have hcurrent := path_current hstart hcalm
    exact (hcurrent.passes h).symm.trans (hcurrent.passes h')

theorem exported_owner :
    exported.space.gate.requireLiveOwner { ownerId := some 1, fencingToken := 1 } exported.now =
        .ok () ∧
      ∀ lease, exported.space.gate.requireLiveOwner lease exported.now = .ok () →
        lease = { ownerId := some 1, fencingToken := 1 } := by
  refine ⟨by rfl, fun lease hlive => ?_⟩
  have hstart : Initial fresh := ⟨fun _ => rfl, rfl, rfl⟩
  obtain ⟨-, -, -, -, hone, -⟩ := fencing_of_path hstart (path_exported fun _ _ _ => True)
  exact hone _ _ hlive (by rfl)

def freshPair : Source Bool Bool where
  settings := { gateLease := 10, presignDrain := 0 }
  now := 0
  space := { id := 1 }
  writes := 0
  exports := []
  session := fun _ => .idle
  retirements := []

/-- A capture waits for its lock while its owner releases the gate and a second one claims it: both
pass. -/
theorem two_owners_pass :
    ∃ c : Source Bool Bool, Initial freshPair ∧ Path (fun _ _ _ => True) freshPair c ∧
      Passes c { ownerId := some 1, fencingToken := 1 } ∧
        Passes c { ownerId := some 2, fencingToken := 3 } := by
  have hstart : Initial freshPair := ⟨fun _ => rfl, rfl, rfl⟩
  have hclaim : Path (fun _ _ _ => True) freshPair _ := Relation.ReflTransGen.single (Next.claim
    (i := true) .copyCapture 1 none (by rfl) (by rintro (_ | _) <;> trivial) (by rfl))
  have hquiesce := hclaim.tail (Next.quiesce (i := true)
    (by rfl : _ = Session.claimed .copyCapture { ownerId := some 1, fencingToken := 1 })
    (by rintro _ ⟨⟩; exact Nat.le_refl 0) (by rintro (_ | _) <;> trivial) (by rfl))
  have hopen := hquiesce.tail (Next.openSnapshot (i := true)
    (by rfl : _ = Session.quiesced .copyCapture { ownerId := some 1, fencingToken := 1 }))
  have hresume := hopen.tail (Next.claim (i := false) .copyCapture 1 (some 1) (by rfl)
    (by rintro (_ | _) <;> trivial) (by rfl))
  have hquiesce' := hresume.tail (Next.quiesce (i := false)
    (by rfl : _ = Session.claimed .copyCapture { ownerId := some 1, fencingToken := 1 })
    (by rintro _ ⟨⟩; exact Nat.le_refl 0) (by rintro (_ | _) <;> trivial) (by rfl))
  have hopen' := hquiesce'.tail (Next.openSnapshot (i := false)
    (by rfl : _ = Session.quiesced .copyCapture { ownerId := some 1, fencingToken := 1 }))
  have henter := hopen'.tail (Next.enterSnapshot (i := false) (by rfl)
    (by rintro (_ | _) <;> trivial) (by rfl))
  have hcomplete := henter.tail (Next.completeArchive (i := false) (by rfl))
  have hrelease := hcomplete.tail (Next.releaseCapture (i := false) (by rfl)
    (by rintro (_ | _) <;> trivial) (by rfl))
  have hclaim' := hrelease.tail (Next.claim (i := false) .migration 2 none (by rfl)
    (by rintro (_ | _) <;> trivial) (by rfl))
  exact ⟨_, hstart, hclaim', .inr ⟨true, _, _, _, by rfl, by rfl⟩, .inl (by rfl)⟩

end Results

end Migration
end SpaceWorks
