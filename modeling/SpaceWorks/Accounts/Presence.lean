import SpaceWorks.Library.Checked
import SpaceWorks.Library.Runs
import SpaceWorks.Library.Table

/-!
# Presence sessions

The starts and ends of `presence/services.py`, with the transactions of `services_claim.py` and of
memberships that end sessions.  Each is one step under its row locks; times read before a lock are
parameters.  Times are in microseconds.
-/

namespace SpaceWorks
namespace Presence

open Checked TransactionalSystem Table List

structure MakerspaceMembership where
  id : Nat
  userId : Nat
  makerspaceId : Nat
  active : Bool := true

/-- A claim with its session id, and the user and makerspace of its membership. -/
structure MemberClaimCode where
  id : Nat
  membership : MakerspaceMembership
  consumed : Bool := false
  absoluteExpiresAt : Nat := 0
  revoked : Bool := false

structure PresenceSession where
  id : Nat
  memberId : Nat
  makerspaceId : Nat
  membershipId : Nat
  createdViaClaim : Option Nat
  startedAt : Nat
  expiresAt : Nat
  endedAt : Option Nat := none

instance : Keyed MakerspaceMembership Nat := ⟨MakerspaceMembership.id⟩

instance : Keyed MemberClaimCode Nat := ⟨MemberClaimCode.id⟩

instance : Keyed PresenceSession Nat := ⟨PresenceSession.id⟩

structure State where
  clock : Nat := 0
  memberships : Table MakerspaceMembership := ∅
  claims : Table MemberClaimCode := ∅
  sessions : Table PresenceSession := ∅

/-- `presence_presets` in minutes, and what a claim asks of its user. -/
structure Settings where
  presets : Nat → List Nat
  credentialFreeWalkIn : Nat → Bool

structure ClaimContext where
  sessionId : Nat
  membershipId : Nat
  makerspaceId : Nat
  absoluteExpiresAt : Nat

def PresenceSession.activeAt (session : PresenceSession) (now : Nat) : Bool :=
  session.endedAt = none ∧ now < session.expiresAt

/-- The filter of `_active_sessions`. -/
def selects (userId makerspaceId : Nat) (claimId : Option Nat) (now : Nat)
    (session : PresenceSession) : Bool :=
  session.memberId = userId ∧ session.makerspaceId = makerspaceId ∧ session.activeAt now ∧
    claimId.all fun id => session.createdViaClaim = some id

def activeSessions (s : State) (userId makerspaceId : Nat) (claimId : Option Nat) :
    List PresenceSession :=
  (s.sessions.rows.filter (selects userId makerspaceId claimId s.clock)).mergeSort fun a b =>
    b.startedAt < a.startedAt ∨ (b.startedAt = a.startedAt ∧ b.id ≤ a.id)

def endWhere (s : State) (p : PresenceSession → Bool) (endedAt : Nat) : State :=
  { s with sessions := s.sessions.mapRows (fun session =>
      if p session then { session with endedAt := some endedAt } else session) (by
    intro session
    split <;> rfl) }

/-- `validated_claim_session` with `_validate_claim_scope`. -/
def validatedClaim (settings : Settings) (s : State) (userId makerspaceId checkedAt : Nat) :
    Option ClaimContext → Except String (Option MemberClaimCode)
  | none => pure none
  | some context => do
    let claim ← orRefuse (s.claims.get? context.sessionId) "ClaimSessionInvalid"
    require (claim.consumed ∧ claim.revoked = false ∧ checkedAt < claim.absoluteExpiresAt ∧
        (s.memberships.get? claim.membership.id).any MakerspaceMembership.active ∧
        settings.credentialFreeWalkIn claim.membership.userId ∧
        context.membershipId = claim.membership.id ∧
        context.makerspaceId = claim.membership.makerspaceId ∧
        context.absoluteExpiresAt / 1000000 = claim.absoluteExpiresAt / 1000000)
      "ClaimSessionInvalid"
    require (claim.membership.userId = userId ∧ claim.membership.makerspaceId = makerspaceId)
      "Claim session does not belong to this member and makerspace."
    pure (some claim)

def startSession (settings : Settings) (s : State) (context : Option ClaimContext)
    (userId makerspaceId durationMinutes checkedAt : Nat) :
    Except String (State × PresenceSession) := do
  require (durationMinutes ∈ settings.presets makerspaceId) "Choose an allowed session length."
  let claim ← validatedClaim settings s userId makerspaceId checkedAt context
  let membership ← orRefuse (s.memberships.rows.find? fun membership =>
    membership.makerspaceId = makerspaceId ∧ membership.userId = userId ∧ membership.active)
    "MemberPresenceRequired"
  let requestedDuration := 60000000 * durationMinutes
  let claimId := claim.map MemberClaimCode.id
  match (activeSessions s userId makerspaceId claimId).head?.filter fun session =>
      session.expiresAt - session.startedAt = requestedDuration ∧
        claim.all fun claim => session.expiresAt ≤ claim.absoluteExpiresAt with
  | some session => pure (s, session)
  | none =>
    let superseded := endWhere s (selects userId makerspaceId claimId s.clock) s.clock
    let session : PresenceSession := {
      id := superseded.sessions.nextKey
      memberId := userId
      makerspaceId := makerspaceId
      membershipId := membership.id
      createdViaClaim := claimId
      startedAt := s.clock
      expiresAt := claim.elim (s.clock + requestedDuration) fun claim =>
        min (s.clock + requestedDuration) claim.absoluteExpiresAt }
    require (session.startedAt < session.expiresAt) "presence_session_expires_after_start"
    let sessions ← superseded.sessions.insertNew session "The id of a session is new."
    pure ({ superseded with sessions := sessions }, session)

def endSession (settings : Settings) (s : State) (context : Option ClaimContext)
    (userId makerspaceId checkedAt : Nat) : Except String (State × Option PresenceSession) := do
  let claim ← validatedClaim settings s userId makerspaceId checkedAt context
  match (activeSessions s userId makerspaceId (claim.map MemberClaimCode.id)).head? with
  | none => pure (s, none)
  | some session => pure (endWhere s (·.id = session.id) s.clock, some session)

def ofClaim (claim : MemberClaimCode) (endedAt : Nat) (session : PresenceSession) : Bool :=
  session.createdViaClaim = some claim.id ∧ session.memberId = claim.membership.userId ∧
    session.makerspaceId = claim.membership.makerspaceId ∧ session.activeAt endedAt

/-- `_revoke_locked_claim` for the unrevoked claims of a filter. -/
def revokeClaims (s : State) (p : MemberClaimCode → Bool) (now : Nat) : State :=
  { endWhere s (fun session => s.claims.rows.any fun claim =>
      p claim && !claim.revoked && ofClaim claim now session) now with
    claims := s.claims.mapRows (fun claim =>
      if p claim ∧ claim.revoked = false then { claim with revoked := true } else claim) (by
    intro claim
    split <;> rfl) }

inductive Operation
  | wait (elapsed : Nat)
  | activateMembership (membership : MakerspaceMembership)
  | revokeMembership (membershipId now : Nat)
  | issueClaimCode (id membershipId now : Nat)
  | consumeClaimCode (id sessionTtl : Nat)
  | revokeClaimCode (id now : Nat)
  | transitionWalkIn (userId now : Nat)
  | expireClaimPresence (id now : Nat)
  | startSession (context : Option ClaimContext) (userId makerspaceId durationMinutes : Nat)
      (checkedAt : Nat)
  | endSession (context : Option ClaimContext) (userId makerspaceId checkedAt : Nat)

def step (settings : Settings) (s : State) : Operation → Except String State
  | .wait elapsed => pure { s with clock := s.clock + elapsed }
  | .activateMembership membership =>
    pure { s with memberships := s.memberships.updateOrCreate { membership with active := true } }
  | .revokeMembership membershipId now => do
    let membership ← orRefuse (s.memberships.get? membershipId) "MakerspaceMembership.DoesNotExist"
    require (now ≤ s.clock) "The time has passed."
    pure { endWhere s (selects membership.userId membership.makerspaceId none now) now with
      memberships := s.memberships.put { membership with active := false } }
  | .issueClaimCode id membershipId now => do
    let membership ← orRefuse (s.memberships.get? membershipId) "ClaimCodeIneligible"
    require (membership.active ∧ settings.credentialFreeWalkIn membership.userId)
      "ClaimCodeIneligible"
    require (now ≤ s.clock) "The time has passed."
    let t := revokeClaims s (·.membership.id = membershipId) now
    let claims ← t.claims.insertNew { id := id, membership := membership }
      "The id of a claim is new."
    pure { t with claims := claims }
  | .consumeClaimCode id sessionTtl => do
    let claim ← orRefuse (s.claims.get? id) "ClaimCodeError"
    require (claim.consumed = false ∧ claim.revoked = false) "ClaimCodeError"
    pure { s with claims := s.claims.put { claim with
      consumed := true
      absoluteExpiresAt := s.clock + sessionTtl } }
  | .revokeClaimCode id now => do
    require (now ≤ s.clock) "The time has passed."
    pure (revokeClaims s (·.id = id) now)
  | .transitionWalkIn userId now => do
    require (now ≤ s.clock) "The time has passed."
    pure (revokeClaims s (·.membership.userId = userId) now)
  | .expireClaimPresence id now => do
    let claim ← orRefuse (s.claims.get? id) "MemberClaimCode.DoesNotExist"
    require (claim.revoked ∨ claim.absoluteExpiresAt ≤ now) "The claim is live."
    require (s.sessions.rows.all fun session =>
      ofClaim claim now session → session.membershipId = claim.membership.id) "Stale provenance."
    pure (endWhere s (ofClaim claim now) now)
  | .startSession context userId makerspaceId durationMinutes checkedAt =>
    Prod.fst <$> startSession settings s context userId makerspaceId durationMinutes checkedAt
  | .endSession context userId makerspaceId checkedAt =>
    Prod.fst <$> endSession settings s context userId makerspaceId checkedAt

variable {settings : Settings} {s t : State} {userId makerspaceId checkedAt : Nat}
  {p : PresenceSession → Bool} {endedAt now : Nat} {session : PresenceSession}
  {claim : Option MemberClaimCode}

variable {context : Option ClaimContext}

/-- One active session of each origin, and claims bound their sessions. -/
structure Inv (s : State) : Prop where
  one : ∀ a ∈ s.sessions, ∀ b ∈ s.sessions, a.activeAt s.clock = true → b.activeAt s.clock = true →
    a.memberId = b.memberId → a.makerspaceId = b.makerspaceId →
    a.createdViaClaim = b.createdViaClaim → a = b
  claim : ∀ session ∈ s.sessions, ∀ id, session.createdViaClaim = some id →
    ∃ claim ∈ s.claims, claim.id = id ∧ claim.consumed = true ∧
      claim.membership.userId = session.memberId ∧
      claim.membership.makerspaceId = session.makerspaceId ∧
      session.expiresAt ≤ claim.absoluteExpiresAt ∧
      (session.activeAt s.clock = true → claim.revoked = false)

/-- Active sessions were active before, and all keep who they are of. -/
def Ends (s t : State) : Prop :=
  ∀ session ∈ t.sessions, ∃ old ∈ s.sessions, session.memberId = old.memberId ∧
    session.makerspaceId = old.makerspaceId ∧ session.createdViaClaim = old.createdViaClaim ∧
    session.expiresAt = old.expiresAt ∧
    (session.activeAt t.clock = true → session = old ∧ old.activeAt s.clock = true)

/-- A consumed claim stays, and is revoked with its sessions. -/
def KeepsClaims (s t : State) : Prop :=
  ∀ claim ∈ s.claims, claim.consumed = true → ∃ claim' ∈ t.claims, claim'.id = claim.id ∧
    claim'.consumed = true ∧ claim'.membership = claim.membership ∧
    claim'.absoluteExpiresAt = claim.absoluteExpiresAt ∧
    (claim'.revoked = claim.revoked ∨ ∀ session ∈ t.sessions,
      session.memberId = claim.membership.userId →
      session.makerspaceId = claim.membership.makerspaceId →
      session.createdViaClaim = some claim.id → session.activeAt t.clock = false)

theorem inv_of_ends (inv : Inv s) (hends : Ends s t) (hclaims : KeepsClaims s t) : Inv t where
  one a ha b hb hactive hactive' hmember hmakerspace hvia := by
    obtain ⟨_, hold, -, -, -, -, hsame⟩ := hends a ha
    obtain ⟨_, hold', -, -, -, -, hsame'⟩ := hends b hb
    obtain ⟨rfl, hwas⟩ := hsame hactive
    obtain ⟨rfl, hwas'⟩ := hsame' hactive'
    exact inv.one _ hold _ hold' hwas hwas' hmember hmakerspace hvia
  claim session hsession id hvia := by
    obtain ⟨old, hold, hmember, hmakerspace, hold_via, hexpires, hsame⟩ := hends session hsession
    obtain ⟨claim, hclaim, rfl, hconsumed, huser, hspace, hdeadline, hlive⟩ :=
      inv.claim old hold id (hold_via ▸ hvia)
    obtain ⟨claim', hclaim', hid, hconsumed', hmembership, habsolute, hrevoked⟩ :=
      hclaims claim hclaim hconsumed
    rw [← hmembership, ← hmember] at huser
    rw [← hmembership, ← hmakerspace] at hspace
    refine ⟨claim', hclaim', hid, hconsumed', huser, hspace, ?_, fun hactive => ?_⟩
    · rw [hexpires, habsolute]
      exact hdeadline
    · rcases hrevoked with hrevoked | hended
      · rw [hrevoked]
        exact hlive (hsame hactive).2
      · rw [hended session hsession (hmembership ▸ huser.symm) (hmembership ▸ hspace.symm) hvia]
          at hactive
        cases hactive

theorem keepsClaims_of_eq (h : t.claims = s.claims) : KeepsClaims s t := fun claim hclaim hconsumed =>
  ⟨claim, h ▸ hclaim, rfl, hconsumed, rfl, rfl, .inl rfl⟩

theorem mem_endWhere :
    session ∈ (endWhere s p endedAt).sessions ↔ ∃ old ∈ s.sessions,
      (if p old then { old with endedAt := some endedAt } else old) = session := by
  simp only [endWhere, mem_mapRows]

theorem active_endWhere
    (h : session ∈ (endWhere s p endedAt).sessions)
    (hactive : session.activeAt now = true) : session ∈ s.sessions ∧ p session = false := by
  obtain ⟨old, hold, rfl⟩ := mem_endWhere.mp h
  cases hp : p old with
  | true => simp [hp, PresenceSession.activeAt] at hactive
  | false => simpa [hp] using hold

theorem ends_endWhere (p : PresenceSession → Bool) (endedAt : Nat)
    (hsessions : t.sessions = (endWhere s p endedAt).sessions) (hclock : s.clock ≤ t.clock) :
    Ends s t := by
  intro session hsession
  obtain ⟨old, hold, heq⟩ := mem_endWhere.mp (hsessions ▸ hsession)
  refine ⟨old, hold, ?_⟩
  split at heq
  · subst heq
    exact ⟨rfl, rfl, rfl, rfl, fun h => by simp [PresenceSession.activeAt] at h⟩
  · subst heq
    refine ⟨rfl, rfl, rfl, rfl, fun h => ⟨rfl, ?_⟩⟩
    obtain ⟨hended, hexpires⟩ := of_decide_eq_true h
    exact decide_eq_true ⟨hended, hclock.trans_lt hexpires⟩

theorem ends_of_eq (hsessions : t.sessions = s.sessions) (hclock : s.clock ≤ t.clock) :
    Ends s t := by
  intro session hsession
  refine ⟨session, hsessions ▸ hsession, rfl, rfl, rfl, rfl, fun h => ⟨rfl, ?_⟩⟩
  obtain ⟨hended, hexpires⟩ := of_decide_eq_true h
  exact decide_eq_true ⟨hended, hclock.trans_lt hexpires⟩

theorem keepsClaims_revokeClaims {p : MemberClaimCode → Bool} (hnow : now ≤ s.clock)
    (hsessions : t.sessions = (revokeClaims s p now).sessions) (hclock : t.clock = s.clock)
    (hclaims : ∀ claim ∈ (revokeClaims s p now).claims, claim ∈ t.claims) : KeepsClaims s t := by
  intro claim hclaim hconsumed
  have hmem : (if p claim ∧ claim.revoked = false then { claim with revoked := true }
      else claim) ∈ (revokeClaims s p now).claims := by
    simp only [revokeClaims, mem_mapRows]
    exact ⟨claim, hclaim, rfl⟩
  refine ⟨_, hclaims _ hmem, ?_⟩
  split
  · next hrevoked =>
      refine ⟨rfl, hconsumed, rfl, rfl, .inr fun session hsession huser hspace hvia => ?_⟩
      by_contra hactive
      rw [Bool.not_eq_false, hclock] at hactive
      have hended := (active_endWhere (hsessions ▸ hsession) hactive).2
      rw [any_eq_false] at hended
      obtain ⟨hopen, hexpires⟩ := of_decide_eq_true hactive
      refine hended claim hclaim ?_
      simp [hrevoked.1, hrevoked.2, ofClaim, hvia, huser, hspace, PresenceSession.activeAt, hopen,
        hnow.trans_lt hexpires]
  · exact ⟨rfl, hconsumed, rfl, rfl, .inl rfl⟩

theorem validatedClaim_some {claim : MemberClaimCode}
    (h : validatedClaim settings s userId makerspaceId checkedAt context = .ok (some claim)) :
    claim ∈ s.claims ∧ claim.consumed = true ∧ claim.revoked = false ∧
      claim.membership.userId = userId ∧ claim.membership.makerspaceId = makerspaceId := by
  cases context with
  | none => cases h
  | some =>
    simp only [validatedClaim, bind_ok, orRefuse_ok, require_ok, pure_ok] at h
    obtain ⟨_, hfound, -, hvalid, -, hscope, heq⟩ := h
    cases heq
    exact ⟨mem_of_get? hfound, hvalid.1, hvalid.2.1, hscope⟩

theorem validatedClaim_id {context : ClaimContext}
    (h : validatedClaim settings s userId makerspaceId checkedAt (some context) = .ok claim) :
    claim.map MemberClaimCode.id = some context.sessionId := by
  simp [validatedClaim] at h
  obtain ⟨_, hfound, -, -, -, -, rfl⟩ := h
  exact congrArg some (key_of_get? hfound)

/-- A new session, and what is left of those it supersedes. -/
structure Starts (s t : State) (session : PresenceSession) (userId makerspaceId : Nat)
    (claim : Option MemberClaimCode) : Prop where
  rows : ∀ row, row ∈ t.sessions ↔ row ∈ (endWhere s (selects userId makerspaceId
    (claim.map MemberClaimCode.id) s.clock) s.clock).sessions ∨ row = session
  claims : t.claims = s.claims
  clock : t.clock = s.clock
  member : session.memberId = userId
  makerspace : session.makerspaceId = makerspaceId
  via : session.createdViaClaim = claim.map MemberClaimCode.id
  deadline : ∀ found, claim = some found → session.expiresAt ≤ found.absoluteExpiresAt

theorem startSession_cases {durationMinutes : Nat}
    (h : startSession settings s context userId makerspaceId durationMinutes checkedAt =
      .ok (t, session)) :
    ∃ claim, validatedClaim settings s userId makerspaceId checkedAt context = .ok claim ∧
      ((t = s ∧ session ∈ activeSessions s userId makerspaceId (claim.map MemberClaimCode.id)) ∨
        Starts s t session userId makerspaceId claim) := by
  simp only [startSession, bind_ok, orRefuse_ok] at h
  obtain ⟨-, -, claim, hclaim, _, -, h⟩ := h
  refine ⟨claim, hclaim, ?_⟩
  split at h
  · next found hfound =>
      cases h
      exact .inl ⟨rfl, mem_of_mem_head? (Option.filter_eq_some_iff.mp hfound).1⟩
  · simp only [bind_ok, pure_ok, insertNew_ok] at h
    obtain ⟨-, -, _, ⟨hfresh, rfl⟩, heq⟩ := h
    cases heq
    refine .inr ⟨fun row => mem_insert hfresh, rfl, rfl, rfl, rfl, rfl, ?_⟩
    rintro _ rfl
    exact min_le_right _ _

theorem inv_starts (inv : Inv s)
    (hclaim : validatedClaim settings s userId makerspaceId checkedAt context = .ok claim)
    (h : Starts s t session userId makerspaceId claim) : Inv t := by
  have hended := inv_of_ends inv (ends_endWhere (selects userId makerspaceId
    (claim.map MemberClaimCode.id) s.clock) s.clock rfl le_rfl) (keepsClaims_of_eq rfl)
  -- an active session of the same origin would have been superseded
  have hno : ∀ row ∈ (endWhere s (selects userId makerspaceId (claim.map MemberClaimCode.id)
      s.clock) s.clock).sessions, row.activeAt s.clock = true → row.memberId = session.memberId →
      row.makerspaceId = session.makerspaceId →
      row.createdViaClaim ≠ session.createdViaClaim := by
    intro row hrow hactive hmember hmakerspace hvia
    have hselects := (active_endWhere hrow hactive).2
    rw [h.member] at hmember
    rw [h.makerspace] at hmakerspace
    rw [h.via] at hvia
    cases claim <;> simp [selects, hmember, hmakerspace, hvia, hactive] at hselects
  refine ⟨fun a ha b hb hactive hactive' hmember hmakerspace hvia => ?_, fun row hrow id hvia => ?_⟩
  · rw [h.clock] at hactive hactive'
    rcases (h.rows a).mp ha with ha | rfl <;> rcases (h.rows b).mp hb with hb | rfl
    · exact hended.one a ha b hb hactive hactive' hmember hmakerspace hvia
    · exact absurd hvia (hno a ha hactive hmember hmakerspace)
    · exact absurd hvia.symm (hno b hb hactive' hmember.symm hmakerspace.symm)
    · rfl
  · rw [h.claims, h.clock]
    rcases (h.rows row).mp hrow with hold | rfl
    · exact hended.claim row hold id hvia
    · rw [h.via] at hvia
      obtain ⟨found, rfl, rfl⟩ := Option.map_eq_some_iff.mp hvia
      obtain ⟨hmem, hconsumed, hlive, huser, hspace⟩ := validatedClaim_some hclaim
      exact ⟨found, hmem, rfl, hconsumed, huser.trans h.member.symm,
        hspace.trans h.makerspace.symm, h.deadline found rfl, fun _ => hlive⟩

theorem endSession_cases {ended : Option PresenceSession}
    (h : endSession settings s context userId makerspaceId checkedAt = .ok (t, ended)) :
    ∃ claim, validatedClaim settings s userId makerspaceId checkedAt context = .ok claim ∧
      (t = s ∨ ∃ session ∈ activeSessions s userId makerspaceId (claim.map MemberClaimCode.id),
        t = endWhere s (·.id = session.id) s.clock) := by
  simp [endSession] at h
  obtain ⟨claim, hclaim, h⟩ := h
  refine ⟨claim, hclaim, ?_⟩
  split at h
  · cases h
    exact .inl rfl
  · next session hsession =>
      cases h
      exact .inr ⟨session, mem_of_mem_head? hsession, rfl⟩

theorem inv_step {operation : Operation} (inv : Inv s) (h : step settings s operation = .ok t) :
    Inv t := by
  cases operation with
  | wait =>
    cases h
    exact inv_of_ends inv (ends_of_eq rfl (Nat.le_add_right _ _)) (keepsClaims_of_eq rfl)
  | activateMembership =>
    cases h
    exact inv_of_ends inv (ends_of_eq rfl le_rfl) (keepsClaims_of_eq rfl)
  | revokeMembership =>
    simp [step] at h
    obtain ⟨_, -, -, -, rfl⟩ := h
    exact inv_of_ends inv (ends_endWhere _ _ rfl le_rfl) (keepsClaims_of_eq rfl)
  | issueClaimCode =>
    simp only [step, bind_ok, orRefuse_ok, require_ok, insertNew_ok, pure_ok] at h
    obtain ⟨_, -, -, -, -, hnow, _, ⟨hfresh, rfl⟩, rfl⟩ := h
    exact inv_of_ends inv (ends_endWhere _ _ rfl le_rfl) (keepsClaims_revokeClaims hnow rfl rfl
      fun claim hclaim => (mem_insert hfresh).mpr (.inl hclaim))
  | consumeClaimCode =>
    simp only [step, bind_ok, orRefuse_ok, require_ok, pure_ok] at h
    obtain ⟨_, hclaim, -, ⟨hfresh, -⟩, rfl⟩ := h
    refine inv_of_ends inv (ends_of_eq rfl le_rfl) fun other hother hconsumed => ?_
    refine ⟨other, mem_put.mpr (.inl ⟨hother, fun hkey => ?_⟩), rfl, hconsumed, rfl, rfl, .inl rfl⟩
    rw [eq_of_key_eq hother (mem_of_get? hclaim) hkey, hfresh] at hconsumed
    cases hconsumed
  | revokeClaimCode | transitionWalkIn =>
    simp only [step, bind_ok, require_ok, pure_ok] at h
    obtain ⟨-, hnow, rfl⟩ := h
    exact inv_of_ends inv (ends_endWhere _ _ rfl le_rfl)
      (keepsClaims_revokeClaims hnow rfl rfl fun _ hclaim => hclaim)
  | expireClaimPresence =>
    simp [step] at h
    obtain ⟨_, -, -, -, -, -, rfl⟩ := h
    exact inv_of_ends inv (ends_endWhere _ _ rfl le_rfl) (keepsClaims_of_eq rfl)
  | startSession =>
    obtain ⟨⟨_, _⟩, hstart, rfl⟩ := map_eq_ok.mp h
    obtain ⟨_, hclaim, ⟨rfl, -⟩ | hstarts⟩ := startSession_cases hstart
    · exact inv
    · exact inv_starts inv hclaim hstarts
  | endSession =>
    obtain ⟨⟨_, _⟩, hend, rfl⟩ := map_eq_ok.mp h
    obtain ⟨_, _, rfl | ⟨_, -, rfl⟩⟩ := endSession_cases hend
    · exact inv
    · exact inv_of_ends inv (ends_endWhere _ _ rfl le_rfl) (keepsClaims_of_eq rfl)

variable (settings : Settings)

theorem kept_endWhere {s : State}
    {other : PresenceSession} (hother : other ∈ s.sessions) (hp : p other = false) :
    other ∈ (endWhere s p endedAt).sessions :=
  mem_endWhere.mpr ⟨other, hother, by simp [hp]⟩

theorem via_of_active {s : State} {userId makerspaceId id : Nat}
    (h : session ∈ activeSessions s userId makerspaceId (some id)) :
    session ∈ s.sessions ∧ session.createdViaClaim = some id := by
  obtain ⟨hmem, hselects⟩ := mem_filter.mp (mem_mergeSort.mp h)
  exact ⟨hmem, by simpa using (of_decide_eq_true hselects).2.2.2⟩

/-- At most one active session of each origin; a claim bounds its sessions, and its holder gets and
ends no others. -/
theorem presence_of_run (operations : List Operation) :
    let s := run (step settings) {} operations
    (∀ a ∈ s.sessions, ∀ b ∈ s.sessions, a.activeAt s.clock = true → b.activeAt s.clock = true →
      a.createdViaClaim = b.createdViaClaim → (a.createdViaClaim = none →
        a.memberId = b.memberId ∧ a.makerspaceId = b.makerspaceId) → a = b) ∧
    (∀ session ∈ s.sessions, session.activeAt s.clock = true → ∀ id,
      session.createdViaClaim = some id → ∃ claim ∈ s.claims, claim.id = id ∧
        claim.revoked = false ∧ session.expiresAt ≤ claim.absoluteExpiresAt) ∧
    ∀ context userId makerspaceId checkedAt t,
      (∀ durationMinutes session, startSession settings s (some context) userId makerspaceId
          durationMinutes checkedAt = .ok (t, session) →
        session.createdViaClaim = some context.sessionId ∧ ∀ other ∈ s.sessions,
          other.createdViaClaim ≠ some context.sessionId → other ∈ t.sessions) ∧
      ∀ ended, endSession settings s (some context) userId makerspaceId checkedAt =
          .ok (t, ended) → ∀ other ∈ s.sessions,
        other.createdViaClaim ≠ some context.sessionId → other ∈ t.sessions := by
  intro s
  have inv : Inv s := run_preserves (fun _ _ _ inv h => inv_step inv h) ⟨by simp, by simp⟩ operations
  refine ⟨fun a ha b hb hactive hactive' hvia hplain => ?_, fun session hsession hactive id hvia => ?_,
    fun context userId makerspaceId checkedAt t => ⟨fun durationMinutes session h => ?_,
      fun ended h other hother hne => ?_⟩⟩
  · have hsame : a.memberId = b.memberId ∧ a.makerspaceId = b.makerspaceId := by
      cases horigin : a.createdViaClaim with
      | none => exact hplain horigin
      | some id =>
        obtain ⟨_, hclaim, hid, -, huser, hspace, -⟩ := inv.claim a ha id horigin
        obtain ⟨_, hclaim', hid', -, huser', hspace', -⟩ := inv.claim b hb id (hvia ▸ horigin)
        cases eq_of_key_eq hclaim hclaim' (hid.trans hid'.symm)
        exact ⟨huser.symm.trans huser', hspace.symm.trans hspace'⟩
    exact inv.one a ha b hb hactive hactive' hsame.1 hsame.2 hvia
  · obtain ⟨claim, hclaim, hid, -, -, -, hdeadline, hlive⟩ := inv.claim session hsession id hvia
    exact ⟨claim, hclaim, hid, hlive hactive, hdeadline⟩
  · obtain ⟨_, hclaim, ⟨rfl, hmem⟩ | hstarts⟩ := startSession_cases h
    · rw [validatedClaim_id hclaim] at hmem
      exact ⟨(via_of_active hmem).2, fun other hother _ => hother⟩
    · have hvia := hstarts.via
      rw [validatedClaim_id hclaim] at hvia
      refine ⟨hvia, fun other hother hne => (hstarts.rows other).mpr (.inl ?_)⟩
      rw [validatedClaim_id hclaim]
      exact kept_endWhere hother (by simp [selects, hne])
  · obtain ⟨_, hclaim, rfl | ⟨_, hmem, rfl⟩⟩ := endSession_cases h
    · exact hother
    · rw [validatedClaim_id hclaim] at hmem
      obtain ⟨hsession, hvia⟩ := via_of_active hmem
      refine kept_endWhere hother (decide_eq_false fun hid => hne ?_)
      rw [eq_of_key_eq hother hsession hid, hvia]

end Presence
end SpaceWorks
