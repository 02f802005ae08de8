import SpaceWorks.Library.Checked
import SpaceWorks.Library.Runs
import SpaceWorks.Library.Table

/-!
# Member claim codes

Issue, revocation and redemption (`services_claim.py`), and the view (`views_claim.py`) with its
transaction around `consume_claim_code`.  A code is as `_normalized_code` leaves it.
-/

namespace SpaceWorks
namespace ClaimCodes

open Checked TransactionalSystem Table Function List Option Except

def maxFailedAttempts : Nat := 5

def isSecretChar (c : Char) : Bool :=
  ('A' ≤ c && c ≤ 'Z') || ('2' ≤ c && c ≤ '9')

/-- Four groups of four, each after a hyphen. -/
def isSecret (rest : List Char) : Bool :=
  rest.length = 20 && (List.range 20).all fun i =>
    if i % 5 = 0 then rest[i]? = some '-' else rest[i]?.any isSecretChar

def claimId (code : List Char) : Option Nat :=
  if "MC1-".toList.isPrefixOf code then
    let digits := (code.drop 4).takeWhile Char.isDigit
    let rest := (code.drop 4).dropWhile Char.isDigit
    if digits ≠ [] ∧ digits.head? ≠ some '0' ∧ isSecret rest then
      some (digits.foldl (fun n c => 10 * n + (c.toNat - 48)) 0)
    else
      none
  else
    none

/-- `_raw_code`, with the sixteen characters that it draws. -/
def rawCode (id : Nat) (secret : List Char) : List Char :=
  "MC1-".toList ++ Nat.toDigits 10 id ++ '-' :: secret.take 4 ++ '-' :: (secret.drop 4).take 4 ++
    '-' :: (secret.drop 8).take 4 ++ '-' :: (secret.drop 12).take 4

section Rows

structure Membership where
  id : Nat
  makerspaceId : Nat
  userId : Nat
  active : Bool

instance : Keyed Membership Nat := ⟨Membership.id⟩

/-- A row of `MemberClaimCode`; `δ` is the type of digests. -/
structure MemberClaimCode (δ : Type) where
  id : Nat
  membershipId : Nat
  codeDigest : δ
  expiresAt : Nat
  consumedAt : Option Nat := none
  absoluteExpiresAt : Option Nat := none
  failedAttempts : Nat := 0
  revokedAt : Option Nat := none

variable {δ : Type}

instance : Keyed (MemberClaimCode δ) Nat := ⟨MemberClaimCode.id⟩

@[simp] theorem key_claim (claim : MemberClaimCode δ) : key claim = claim.id := rfl

inductive Outcome
  | unknown
  | used
  | mismatch
  | ineligible
  | wrongMakerspace
  | revoked
  | expired
  | accepted
  deriving DecidableEq

structure Attempt where
  code : List Char
  outcome : Outcome

/-- The rows, the walk-ins without credentials, and the attempts, the last one first. -/
structure Desk (δ : Type) where
  now : Nat
  memberships : Table Membership
  credentialFree : Nat → Bool
  claims : Table (MemberClaimCode δ)
  nextClaim : Nat
  attempts : List Attempt

structure Settings (δ : Type) where
  digest : List Char → δ
  codeTtl : Nat
  sessionTtl : Nat

inductive Refusal
  | permissionDenied
  | ineligible
  | notFound
  | integrity

/-- `_revoke_locked_claim` of the unrevoked rows. -/
def MemberClaimCode.revokeIf (now : Nat) (p : MemberClaimCode δ → Bool)
    (claim : MemberClaimCode δ) : MemberClaimCode δ :=
  if p claim && claim.revokedAt.isNone then { claim with revokedAt := some now } else claim

theorem revokeIf_id (now : Nat) (p : MemberClaimCode δ → Bool) (claim : MemberClaimCode δ) :
    (claim.revokeIf now p).id = claim.id := by
  unfold MemberClaimCode.revokeIf
  split <;> rfl

def Desk.revokeWhere (s : Desk δ) (p : MemberClaimCode δ → Bool) : Desk δ :=
  { s with claims := s.claims.mapRows (·.revokeIf s.now p) (revokeIf_id s.now p) }

def Desk.lockedTarget (s : Desk δ) (makerspaceId membershipId : Nat) : Option Membership :=
  (s.memberships.get? membershipId).filter fun membership =>
    membership.makerspaceId = makerspaceId && membership.active &&
      s.credentialFree membership.userId

variable [DecidableEq δ]

/-- `issue_claim_code`; `authorized` is the answer about the staff. -/
def Desk.issue (settings : Settings δ) (s : Desk δ) (authorized : Bool)
    (makerspaceId membershipId : Nat) (secret : List Char) : Except Refusal (Desk δ) := do
  require (authorized = true) .permissionDenied
  let membership ← orRefuse (s.lockedTarget makerspaceId membershipId) .ineligible
  let s := s.revokeWhere (·.membershipId = membership.id)
  let codeDigest := settings.digest (rawCode s.nextClaim secret)
  require (∀ claim ∈ s.claims.rows, claim.codeDigest ≠ codeDigest) .integrity
  let claim : MemberClaimCode δ :=
    { id := s.nextClaim
      membershipId := membership.id
      codeDigest := codeDigest
      expiresAt := s.now + settings.codeTtl }
  let claims ← s.claims.insertNew claim .integrity
  pure { s with claims := claims, nextClaim := s.nextClaim + 1 }

/-- `revoke_claim_code`. -/
def Desk.revoke (s : Desk δ) (authorized : Bool) (makerspaceId id : Nat) :
    Except Refusal (Desk δ) := do
  require (authorized = true) .permissionDenied
  let claim ← orRefuse ((s.claims.get? id).filter fun claim =>
    (s.memberships.get? claim.membershipId).any (·.makerspaceId = makerspaceId)) .notFound
  pure (s.revokeWhere (·.id = claim.id))

/-- `transition_walk_in_to_account` with its revocation hook. -/
def Desk.transition (s : Desk δ) (userId : Nat) : Desk δ :=
  { s with credentialFree := update s.credentialFree userId false }.revokeWhere
    fun claim => (s.memberships.get? claim.membershipId).any fun membership : Membership =>
      membership.userId = userId

/-- The transaction of `consume_claim_code`, and what it raises after that. -/
def Desk.consume (settings : Settings δ) (s : Desk δ) (code : List Char)
    (makerspaceId : Option Nat) : Desk δ × Outcome :=
  match (claimId code).bind s.claims.get? with
  | none => (s, .unknown)
  | some claim =>
    if claim.consumedAt.isSome || maxFailedAttempts ≤ claim.failedAttempts then
      (s, .used)
    else if claim.codeDigest ≠ settings.digest code then
      let failed := { claim with
        failedAttempts := claim.failedAttempts + 1
        consumedAt :=
          if maxFailedAttempts ≤ claim.failedAttempts + 1 then some s.now else none }
      ({ s with claims := s.claims.put failed }, .mismatch)
    else
      let consumed := { claim with consumedAt := some s.now }
      let s' := { s with claims := s.claims.put consumed }
      match (s.memberships.get? claim.membershipId).bind fun membership =>
        s.lockedTarget membership.makerspaceId claim.membershipId with
      | none => (s', .ineligible)
      | some membership =>
        if makerspaceId.any (membership.makerspaceId ≠ ·) then (s', .wrongMakerspace)
        else if claim.revokedAt.isSome then (s', .revoked)
        else if claim.expiresAt ≤ s.now then (s', .expired)
        else
          let resolved := { consumed with absoluteExpiresAt := some (s.now + settings.sessionTtl) }
          ({ s with claims := s.claims.put resolved }, .accepted)

/-- `consume_claim_code` in the view, whose transaction rolls back on any error. -/
def Desk.redeem (settings : Settings δ) (s : Desk δ) (inView : Bool) (code : List Char)
    (makerspaceId : Option Nat) : Desk δ :=
  let result := s.consume settings code makerspaceId
  let kept := if inView && result.2 ≠ .accepted then s else result.1
  { kept with attempts := { code := code, outcome := result.2 } :: s.attempts }

inductive Operation
  | tick (now : Nat)
  | issue (authorized : Bool) (makerspaceId membershipId : Nat) (secret : List Char)
  | revoke (authorized : Bool) (makerspaceId id : Nat)
  | transition (userId : Nat)
  | setCredentialFree (userId : Nat) (free : Bool)
  | setMembership (membership : Membership)
  | addMembership (membership : Membership)
  | redeem (inView : Bool) (code : List Char) (makerspaceId : Option Nat)

def Desk.step (settings : Settings δ) (s : Desk δ) : Operation → Except Refusal (Desk δ)
  | .tick now => .ok { s with now := max s.now now }
  | .issue authorized makerspaceId membershipId secret =>
    s.issue settings authorized makerspaceId membershipId secret
  | .revoke authorized makerspaceId id => s.revoke authorized makerspaceId id
  | .transition userId => .ok (s.transition userId)
  | .setCredentialFree userId free =>
    .ok { s with credentialFree := update s.credentialFree userId free }
  | .setMembership membership => .ok { s with memberships := s.memberships.put membership }
  | .addMembership membership => do
    let memberships ← s.memberships.insertNew membership .integrity
    pure { s with memberships := memberships }
  | .redeem inView code makerspaceId => .ok (s.redeem settings inView code makerspaceId)

def Desk.initial : Desk δ where
  now := 0
  memberships := ∅
  credentialFree := fun _ => false
  claims := ∅
  nextClaim := 1
  attempts := []

end Rows

section Redemption

variable {δ : Type} [DecidableEq δ] {settings : Settings δ} {s : Desk δ}
variable {code : List Char} {makerspaceId : Option Nat}

structure Accepts (settings : Settings δ) (s : Desk δ) (code : List Char)
    (claim : MemberClaimCode δ) : Prop where
  digest : claim.codeDigest = settings.digest code
  unconsumed : claim.consumedAt = none
  attempts : claim.failedAttempts < maxFailedAttempts
  unrevoked : claim.revokedAt = none
  live : s.now < claim.expiresAt
  target : ∃ membership ∈ s.memberships, membership.id = claim.membershipId ∧
    membership.active = true ∧ s.credentialFree membership.userId = true

structure Redeems (settings : Settings δ) (s : Desk δ) (code : List Char)
    (claim claim' : MemberClaimCode δ) (outcome : Outcome) : Prop where
  id : claim'.id = claim.id
  membershipId : claim'.membershipId = claim.membershipId
  revokedAt : claim'.revokedAt = claim.revokedAt
  unconsumed : claim.consumedAt = none
  attempts : claim.failedAttempts < maxFailedAttempts
  mismatch : outcome = .mismatch → claim'.failedAttempts = claim.failedAttempts + 1 ∧
    claim.codeDigest ≠ settings.digest code
  matched : outcome ≠ .mismatch → claim'.failedAttempts = claim.failedAttempts ∧
    claim'.consumedAt ≠ none
  accepted : outcome = .accepted → Accepts settings s code claim

omit [DecidableEq δ] in
theorem lockedTarget_eq_some {makerspaceId membershipId : Nat} {membership : Membership}
    (h : s.lockedTarget makerspaceId membershipId = some membership) :
    s.memberships.get? membershipId = some membership ∧ membership.active = true ∧
      s.credentialFree membership.userId = true := by
  obtain ⟨hget, hp⟩ := filter_eq_some_iff.mp h
  simp at hp
  exact ⟨hget, hp.1.2, hp.2⟩

theorem consume_cases (settings : Settings δ) (s : Desk δ) (code : List Char)
    (makerspaceId : Option Nat) :
    ((s.consume settings code makerspaceId).1 = s ∧
        (s.consume settings code makerspaceId).2 ≠ .mismatch ∧
        (s.consume settings code makerspaceId).2 ≠ .accepted) ∨
      ∃ claim claim', claimId code = some claim.id ∧ s.claims.get? claim.id = some claim ∧
        (s.consume settings code makerspaceId).1 = { s with claims := s.claims.put claim' } ∧
        Redeems settings s code claim claim' (s.consume settings code makerspaceId).2 := by
  unfold Desk.consume
  split
  · exact .inl ⟨rfl, by simp, by simp⟩
  · rename_i claim hclaim
    obtain ⟨id, hid, hget⟩ := bind_eq_some_iff.mp hclaim
    obtain rfl : claim.id = id := key_of_get? hget
    split
    · exact .inl ⟨rfl, by simp, by simp⟩
    · rename_i hlive
      simp at hlive
      obtain ⟨hunconsumed, hattempts⟩ := hlive
      right
      split
      · rename_i hdigest
        exact ⟨claim, _, hid, hget, rfl, {
          id := rfl
          membershipId := rfl
          revokedAt := rfl
          unconsumed := hunconsumed
          attempts := hattempts
          mismatch := fun _ => ⟨rfl, hdigest⟩
          matched := fun hne => absurd rfl hne
          accepted := by simp }⟩
      · rename_i hdigest
        have hmatched : ∀ (claim' : MemberClaimCode δ) (outcome : Outcome),
            claim'.id = claim.id → claim'.membershipId = claim.membershipId →
            claim'.revokedAt = claim.revokedAt → claim'.consumedAt ≠ none →
            claim'.failedAttempts = claim.failedAttempts → outcome ≠ .mismatch →
            (outcome = .accepted → Accepts settings s code claim) →
            Redeems settings s code claim claim' outcome := by
          intro claim' outcome hid' hmembership hrevoked hconsumed hfailed hne haccepted
          exact {
            id := hid'
            membershipId := hmembership
            revokedAt := hrevoked
            unconsumed := hunconsumed
            attempts := hattempts
            mismatch := fun heq => absurd heq hne
            matched := fun _ => ⟨hfailed, hconsumed⟩
            accepted := haccepted }
        split
        · exact ⟨claim, _, hid, hget, rfl,
            hmatched _ _ rfl rfl rfl (by simp) rfl (by simp) (by simp)⟩
        · rename_i membership htarget
          split
          · exact ⟨claim, _, hid, hget, rfl,
              hmatched _ _ rfl rfl rfl (by simp) rfl (by simp) (by simp)⟩
          · split
            · exact ⟨claim, _, hid, hget, rfl,
                hmatched _ _ rfl rfl rfl (by simp) rfl (by simp) (by simp)⟩
            · rename_i hrevoked
              split
              · exact ⟨claim, _, hid, hget, rfl,
                  hmatched _ _ rfl rfl rfl (by simp) rfl (by simp) (by simp)⟩
              · rename_i hexpired
                obtain ⟨_, -, hlocked⟩ := bind_eq_some_iff.mp htarget
                obtain ⟨hmembership, hactive, hfree⟩ := lockedTarget_eq_some hlocked
                refine ⟨claim, _, hid, hget, rfl,
                  hmatched _ _ rfl rfl rfl (by simp) rfl (by simp) fun _ => ?_⟩
                exact {
                  digest := not_not.mp hdigest
                  unconsumed := hunconsumed
                  attempts := hattempts
                  unrevoked := by simpa using hrevoked
                  live := not_le.mp hexpired
                  target := ⟨membership, mem_of_get? hmembership,
                    key_of_get? hmembership, hactive, hfree⟩ }

end Redemption

section Invariant

variable {δ : Type} {s s' : Desk δ}
  {p : MemberClaimCode δ → Bool} {claim' : MemberClaimCode δ} {code : List Char}
  {outcome : Outcome}

def AcceptedTwice (a b : Attempt) : Prop :=
  a.outcome = .accepted ∧ b.outcome = .accepted ∧ claimId a.code = claimId b.code

structure Inv (s : Desk δ) : Prop where
  single : ∀ a ∈ s.claims, ∀ b ∈ s.claims, a.membershipId = b.membershipId →
    a.revokedAt = none → b.revokedAt = none → a = b
  numbered : ∀ claim ∈ s.claims, claim.id < s.nextClaim
  named : ∀ attempt ∈ s.attempts, attempt.outcome = .accepted ∨ attempt.outcome = .mismatch →
    ∃ id < s.nextClaim, claimId attempt.code = some id
  consumed : ∀ attempt ∈ s.attempts, attempt.outcome = .accepted → ∀ claim ∈ s.claims,
    claimId attempt.code = some claim.id → claim.consumedAt ≠ none
  once : s.attempts.Pairwise fun a b => ¬ AcceptedTwice a b

theorem inv_initial : Inv (Desk.initial : Desk δ) := by
  constructor <;> simp [Desk.initial]

theorem Inv.changeClaims (inv : Inv s) {claims : Table (MemberClaimCode δ)}
    (h : ∀ claim' ∈ claims, ∃ claim ∈ s.claims, claim.id = claim'.id ∧
      claim.membershipId = claim'.membershipId ∧
      (claim'.revokedAt = none → claim.revokedAt = none) ∧
      (claim.consumedAt ≠ none → claim'.consumedAt ≠ none)) :
    Inv { s with claims := claims } where
  single := by
    intro a' ha' b' hb' hmembership ha hb
    obtain ⟨a, hmemA, hidA, hmembershipA, hrevokedA, -⟩ := h a' ha'
    obtain ⟨b, hmemB, hidB, hmembershipB, hrevokedB, -⟩ := h b' hb'
    have hsame : a = b := inv.single a hmemA b hmemB
      (hmembershipA.trans (hmembership.trans hmembershipB.symm)) (hrevokedA ha) (hrevokedB hb)
    refine eq_of_key_eq ha' hb' ?_
    rw [key_claim, key_claim, ← hidA, ← hidB, hsame]
  numbered := by
    intro claim' hclaim'
    obtain ⟨claim, hmem, hid, -⟩ := h claim' hclaim'
    exact hid ▸ inv.numbered claim hmem
  named := inv.named
  consumed := by
    intro attempt hattempt haccepted claim' hclaim' hnames
    obtain ⟨claim, hmem, hid, -, -, hconsumed⟩ := h claim' hclaim'
    exact hconsumed (inv.consumed attempt hattempt haccepted claim hmem (hid ▸ hnames))
  once := inv.once

theorem mem_revokeWhere :
    claim' ∈ (s.revokeWhere p).claims ↔ ∃ claim ∈ s.claims, claim.revokeIf s.now p = claim' := by
  simp [Desk.revokeWhere, mem_mapRows]

theorem inv_revokeWhere (inv : Inv s) (p : MemberClaimCode δ → Bool) : Inv (s.revokeWhere p) := by
  refine inv.changeClaims ?_
  intro claim' hclaim'
  obtain ⟨claim, hmem, rfl⟩ := mem_revokeWhere.mp hclaim'
  refine ⟨claim, hmem, (revokeIf_id s.now p claim).symm, ?_⟩
  unfold MemberClaimCode.revokeIf
  split
  · exact ⟨rfl, by simp, id⟩
  · exact ⟨rfl, id, id⟩

theorem revoked_of_mem_revokeWhere
    (h : claim' ∈ (s.revokeWhere p).claims) (hunrevoked : claim'.revokedAt = none) :
    p claim' = false ∧ claim' ∈ s.claims := by
  obtain ⟨_, hmem, rfl⟩ := mem_revokeWhere.mp h
  unfold MemberClaimCode.revokeIf at hunrevoked ⊢
  split at hunrevoked
  · simp at hunrevoked
  · rename_i hp
    rw [if_neg hp]
    rw [hunrevoked] at hp
    exact ⟨by simpa using hp, hmem⟩

variable [DecidableEq δ] {settings : Settings δ}

theorem inv_issue {authorized : Bool} {makerspaceId membershipId : Nat} {secret : List Char}
    (inv : Inv s)
    (h : s.issue settings authorized makerspaceId membershipId secret = .ok s') : Inv s' := by
  simp only [Desk.issue, bind_ok, require_ok, orRefuse_ok, pure_ok, insertNew_ok] at h
  obtain ⟨_, -, membership, -, _, -, _, ⟨hnew, rfl⟩, rfl⟩ := h
  have hrevoked := inv_revokeWhere inv (·.membershipId = membership.id)
  have hfresh : ∀ claim ∈ (s.revokeWhere (·.membershipId = membership.id)).claims,
      claim.membershipId = membership.id → claim.revokedAt ≠ none := by
    intro claim hclaim hmembership hnone
    have hother := (revoked_of_mem_revokeWhere hclaim hnone).1
    simp [hmembership] at hother
  exact {
    single := by
      intro a ha b hb hmembership hunrevokedA hunrevokedB
      rcases (mem_insert hnew).mp ha with holdA | rfl
      · rcases (mem_insert hnew).mp hb with holdB | rfl
        · exact hrevoked.single a holdA b holdB hmembership hunrevokedA hunrevokedB
        · exact absurd hunrevokedA (hfresh a holdA hmembership)
      · rcases (mem_insert hnew).mp hb with holdB | rfl
        · exact absurd hunrevokedB (hfresh b holdB hmembership.symm)
        · rfl
    numbered := by
      intro claim hclaim
      rcases (mem_insert hnew).mp hclaim with hold | rfl
      · exact Nat.lt_succ_of_lt (hrevoked.numbered claim hold)
      · exact Nat.lt_succ_self _
    named := by
      intro attempt hattempt houtcome
      obtain ⟨id, hlt, hid⟩ := hrevoked.named attempt hattempt houtcome
      exact ⟨id, Nat.lt_succ_of_lt hlt, hid⟩
    consumed := by
      intro attempt hattempt haccepted claim hclaim hnames
      rcases (mem_insert hnew).mp hclaim with hold | rfl
      · exact hrevoked.consumed attempt hattempt haccepted claim hold hnames
      · obtain ⟨_, hlt, hid⟩ := hrevoked.named attempt hattempt (.inl haccepted)
        rw [hid] at hnames
        exact absurd (some.inj hnames) (Nat.ne_of_lt hlt)
    once := hrevoked.once }

omit [DecidableEq δ] in
theorem inv_put (inv : Inv s) {claim : MemberClaimCode δ}
    (hget : s.claims.get? claim.id = some claim)
    (h : Redeems settings s code claim claim' outcome) :
    Inv { s with claims := s.claims.put claim' } := by
  refine inv.changeClaims ?_
  intro x hx
  rcases mem_of_mem_put hx with rfl | ⟨hold, -⟩
  · exact ⟨claim, mem_of_get? hget, h.id.symm, h.membershipId.symm,
      fun hnone => h.revokedAt ▸ hnone, fun hconsumed => absurd h.unconsumed hconsumed⟩
  · exact ⟨x, hold, rfl, rfl, id, id⟩

omit [DecidableEq δ] in
theorem Inv.attempt (inv : Inv s) (hnamed : outcome = .accepted ∨ outcome = .mismatch →
      ∃ id < s.nextClaim, claimId code = some id) (haccepted : outcome = .accepted →
      (∀ claim ∈ s.claims, claimId code = some claim.id → claim.consumedAt ≠ none) ∧
        ∀ attempt ∈ s.attempts, attempt.outcome = .accepted →
          claimId code ≠ claimId attempt.code) :
    Inv { s with attempts := { code := code, outcome := outcome } :: s.attempts } where
  single := inv.single
  numbered := inv.numbered
  named := by
    intro attempt hattempt houtcome
    rcases mem_cons.mp hattempt with rfl | hold
    · exact hnamed houtcome
    · exact inv.named attempt hold houtcome
  consumed := by
    intro attempt hattempt houtcome
    rcases mem_cons.mp hattempt with rfl | hold
    · exact (haccepted houtcome).1
    · exact inv.consumed attempt hold houtcome
  once := by
    refine pairwise_cons.mpr ⟨?_, inv.once⟩
    rintro attempt hattempt ⟨houtcome, hother, hsame⟩
    exact (haccepted houtcome).2 attempt hattempt hother hsame

theorem inv_redeem (inv : Inv s) (inView : Bool) (code : List Char)
    (makerspaceId : Option Nat) : Inv (s.redeem settings inView code makerspaceId) := by
  unfold Desk.redeem
  rcases consume_cases settings s code makerspaceId with
    ⟨hsame, hmismatch, haccepted⟩ | ⟨claim, _, hid, hget, hchanged, hredeems⟩
  · simp only [hsame, ite_self]
    refine inv.attempt ?_ ?_
    · intro houtcome
      exact houtcome.elim (absurd · haccepted) (absurd · hmismatch)
    · exact fun houtcome => absurd houtcome haccepted
  · have hmem := mem_of_get? hget
    -- an accepted attempt finds its claim unconsumed, and leaves it consumed
    have hfirst : ∀ attempt ∈ s.attempts, attempt.outcome = .accepted →
        claimId code ≠ claimId attempt.code := by
      intro attempt hattempt hother hsame
      exact inv.consumed attempt hattempt hother claim hmem (hsame ▸ hid) hredeems.unconsumed
    have hnamed : ∃ id < s.nextClaim, claimId code = some id :=
      ⟨claim.id, inv.numbered claim hmem, hid⟩
    by_cases hrolledBack : (inView && (s.consume settings code makerspaceId).2 ≠ .accepted) = true
    · simp only [if_pos hrolledBack]
      simp at hrolledBack
      exact inv.attempt (fun _ => hnamed) fun houtcome => absurd houtcome hrolledBack.2
    · simp only [if_neg hrolledBack, hchanged]
      refine (inv_put inv hget hredeems).attempt (fun _ => hnamed) fun houtcome => ⟨?_, hfirst⟩
      intro x hx hnames
      have hsame : x.id = claim.id := some.inj (hnames.symm.trans hid)
      rcases mem_of_mem_put hx with rfl | ⟨-, hkey⟩
      · exact (hredeems.matched (by rw [houtcome]; simp)).2
      · exact absurd (hsame.trans hredeems.id.symm) hkey

theorem inv_step {operation : Operation} (inv : Inv s)
    (h : s.step settings operation = .ok s') : Inv s' := by
  cases operation with
  | tick | setCredentialFree | setMembership =>
    cases h
    exact ⟨inv.single, inv.numbered, inv.named, inv.consumed, inv.once⟩
  | issue => exact inv_issue inv h
  | revoke =>
    simp [Desk.step, Desk.revoke] at h
    obtain ⟨_, -, _, -, rfl⟩ := h
    exact inv_revokeWhere inv _
  | transition userId =>
    cases h
    have hfree : Inv { s with credentialFree := update s.credentialFree userId false } :=
      ⟨inv.single, inv.numbered, inv.named, inv.consumed, inv.once⟩
    exact inv_revokeWhere hfree _
  | addMembership =>
    simp [Desk.step] at h
    obtain ⟨_, -, rfl⟩ := h
    exact ⟨inv.single, inv.numbered, inv.named, inv.consumed, inv.once⟩
  | redeem inView code makerspaceId =>
    cases h
    exact inv_redeem inv inView code makerspaceId

end Invariant

section Counters

variable {δ : Type} [DecidableEq δ] {settings : Settings δ} {s s' : Desk δ}

def Attempt.fails (id : Nat) (attempt : Attempt) : Bool :=
  attempt.outcome = .mismatch && claimId attempt.code = some id

/-- The committed counters are the numbers of failed attempts. -/
def Counted (s : Desk δ) : Prop :=
  ∀ claim ∈ s.claims, claim.failedAttempts = s.attempts.countP (·.fails claim.id)

/-- The code is not that of the redeemable claim that it names. -/
def Desk.wrong (settings : Settings δ) (s : Desk δ) (code : List Char) : Bool :=
  ((claimId code).bind s.claims.get?).any fun claim =>
    claim.consumedAt.isNone && claim.failedAttempts < maxFailedAttempts &&
      claim.codeDigest ≠ settings.digest code

/-- No wrong code comes through the view. -/
def Direct (settings : Settings δ) (s : Desk δ) : Operation → Bool
  | .redeem inView code _ => !inView || !s.wrong settings code
  | _ => true

omit [DecidableEq δ] in
theorem counted_revokeWhere (hcounted : Counted s) (p : MemberClaimCode δ → Bool) :
    Counted (s.revokeWhere p) := by
  intro claim' hclaim'
  obtain ⟨claim, hmem, rfl⟩ := mem_revokeWhere.mp hclaim'
  have hfailed : (claim.revokeIf s.now p).failedAttempts = claim.failedAttempts := by
    unfold MemberClaimCode.revokeIf
    split <;> rfl
  rw [hfailed, revokeIf_id]
  exact hcounted claim hmem

theorem counted_issue {authorized : Bool} {makerspaceId membershipId : Nat}
    {secret : List Char} (inv : Inv s) (hcounted : Counted s)
    (h : s.issue settings authorized makerspaceId membershipId secret = .ok s') : Counted s' := by
  simp only [Desk.issue, bind_ok, require_ok, orRefuse_ok, pure_ok, insertNew_ok] at h
  obtain ⟨_, -, _, -, _, -, _, ⟨hnew, rfl⟩, rfl⟩ := h
  intro claim hclaim
  rcases (mem_insert hnew).mp hclaim with hold | rfl
  · exact counted_revokeWhere hcounted _ claim hold
  · -- no attempt has named the new claim
    refine (countP_eq_zero.mpr ?_).symm
    intro attempt hattempt hfails
    simp [Attempt.fails] at hfails
    obtain ⟨id, _, hid⟩ := inv.named attempt hattempt (.inr hfails.1)
    have hsame : id = s.nextClaim := some.inj (hid.symm.trans hfails.2)
    omega

theorem counted_redeem (hcounted : Counted s) {inView : Bool} {code : List Char}
    {makerspaceId : Option Nat}
    (hdirect : Direct settings s (.redeem inView code makerspaceId) = true) :
    Counted (s.redeem settings inView code makerspaceId) := by
  have hcons : ∀ (id : Nat) (outcome : Outcome),
      ({ code := code, outcome := outcome } :: s.attempts).countP (·.fails id) =
        s.attempts.countP (·.fails id) +
          if outcome = .mismatch ∧ claimId code = some id then 1 else 0 := by
    intro id outcome
    simp [countP_cons, Attempt.fails]
  unfold Desk.redeem
  rcases consume_cases settings s code makerspaceId with
    ⟨hsame, hmismatch, _⟩ | ⟨claim, _, hid, hget, hchanged, hredeems⟩
  · simp only [hsame, ite_self]
    intro claim hclaim
    rw [hcons, if_neg fun h => hmismatch h.1]
    exact hcounted claim hclaim
  · by_cases hrolledBack : (inView && (s.consume settings code makerspaceId).2 ≠ .accepted) = true
    · simp only [if_pos hrolledBack]
      simp at hrolledBack
      have hmatch : (s.consume settings code makerspaceId).2 ≠ .mismatch := by
        intro hmismatch
        obtain ⟨-, hdigest⟩ := hredeems.mismatch hmismatch
        have hwrong : s.wrong settings code = true := by
          simp [Desk.wrong, hid, hget, hredeems.unconsumed, hredeems.attempts, hdigest]
        simp [Direct, hrolledBack.1, hwrong] at hdirect
      intro x hx
      rw [hcons, if_neg fun h => hmatch h.1]
      exact hcounted x hx
    · simp only [if_neg hrolledBack, hchanged]
      intro x hx
      rw [hcons]
      rcases mem_of_mem_put hx with rfl | ⟨hold, hkey⟩
      · have hbefore := hcounted claim (mem_of_get? hget)
        by_cases hmismatch : (s.consume settings code makerspaceId).2 = .mismatch
        · rw [(hredeems.mismatch hmismatch).1, hbefore, hredeems.id, if_pos ⟨hmismatch, hid⟩]
        · rw [(hredeems.matched hmismatch).1, hbefore, hredeems.id, if_neg fun h => hmismatch h.1]
          rfl
      · have hother : claimId code ≠ some x.id := by
          rw [hid]
          intro hsame
          exact hkey ((some.inj hsame).symm.trans hredeems.id.symm)
        rw [if_neg fun h => hother h.2]
        exact hcounted x hold

theorem counted_step {operation : Operation} (inv : Inv s) (hcounted : Counted s)
    (hdirect : Direct settings s operation = true)
    (h : s.step settings operation = .ok s') : Counted s' := by
  cases operation with
  | issue => exact counted_issue inv hcounted h
  | revoke =>
    simp [Desk.step, Desk.revoke] at h
    obtain ⟨_, -, _, -, rfl⟩ := h
    exact counted_revokeWhere hcounted _
  | transition userId =>
    cases h
    have hfree : Counted { s with
        credentialFree := update s.credentialFree userId false } := hcounted
    exact counted_revokeWhere hfree _
  | addMembership =>
    simp [Desk.step] at h
    obtain ⟨_, -, rfl⟩ := h
    exact hcounted
  | redeem =>
    cases h
    exact counted_redeem hcounted hdirect
  | tick now | setCredentialFree userId free | setMembership membership =>
    cases h
    exact hcounted

end Counters

section Results

variable {δ : Type} [DecidableEq δ]

theorem inv_run (settings : Settings δ) (operations : List Operation) :
    Inv (run (Desk.step settings) Desk.initial operations) := by
  refine run_preserves (I := Inv) ?_ inv_initial operations
  intro s operation s' inv hstep
  exact inv_step inv hstep

/-- At most one unrevoked claim a membership, none accepted twice, and none that is not live;
without wrong codes in the view, the counters count the failed attempts. -/
theorem claims_of_run (settings : Settings δ) (operations : List Operation) :
    let s := run (Desk.step settings) Desk.initial operations
    (∀ a ∈ s.claims, ∀ b ∈ s.claims, a.membershipId = b.membershipId →
      a.revokedAt = none → b.revokedAt = none → a = b) ∧
    s.attempts.Pairwise (fun a b => ¬ AcceptedTwice a b) ∧
    (∀ code makerspaceId, (s.consume settings code makerspaceId).2 = .accepted →
      ∃ claim ∈ s.claims, claimId code = some claim.id ∧ Accepts settings s code claim) ∧
    (Throughout (Desk.step settings) (fun s operation => Direct settings s operation = true)
        Desk.initial operations →
      Counted s ∧ ∀ code makerspaceId id,
        (s.consume settings code makerspaceId).2 = .accepted → claimId code = some id →
          s.attempts.countP (·.fails id) < maxFailedAttempts) := by
  intro s
  have inv : Inv s := inv_run settings operations
  have haccepts : ∀ code makerspaceId, (s.consume settings code makerspaceId).2 = .accepted →
      ∃ claim ∈ s.claims, claimId code = some claim.id ∧ Accepts settings s code claim := by
    intro code makerspaceId haccepted
    rcases consume_cases settings s code makerspaceId with
      ⟨-, -, hnot⟩ | ⟨claim, _, hid, hget, -, hredeems⟩
    · exact absurd haccepted hnot
    · exact ⟨claim, mem_of_get? hget, hid, hredeems.accepted haccepted⟩
  refine ⟨inv.single, inv.once, haccepts, fun hdirect => ?_⟩
  have hcounted : Inv s ∧ Counted s := by
    refine run_preserves_throughout (I := fun s => Inv s ∧ Counted s)
      (P := fun s operation => Direct settings s operation = true) ?_ ?_ hdirect
    · rintro _ _ _ ⟨inv, hcounted⟩ hdirect hstep
      exact ⟨inv_step inv hstep, counted_step inv hcounted hdirect hstep⟩
    · exact ⟨inv_initial, by simp [Counted, Desk.initial]⟩
  refine ⟨hcounted.2, fun code makerspaceId id haccepted hid => ?_⟩
  obtain ⟨claim, hmem, hclaim, hlive⟩ := haccepts code makerspaceId haccepted
  obtain rfl := some.inj (hclaim.symm.trans hid)
  rw [← hcounted.2 claim hmem]
  exact hlive.attempts

/-- A desk whose digest of a code is the code. -/
def plainDigests : Settings (List Char) where
  digest := fun code => code
  codeTtl := 600
  sessionTtl := 3600

def issued : List Operation :=
  [.addMembership { id := 1, makerspaceId := 1, userId := 7, active := true },
    .setCredentialFree 7 true,
    .issue true 1 1 "ABCDEFGHJKLMNPQR".toList]

def rightCode : List Char := rawCode 1 "ABCDEFGHJKLMNPQR".toList

def wrongCode : List Char := rawCode 1 "ZZZZZZZZZZZZZZZZ".toList

/-- Six guesses at the claim, and its code. -/
def guesses (inView : Bool) : List Operation :=
  issued ++ List.replicate 6 (.redeem inView wrongCode (some 1)) ++
    [.redeem inView rightCode (some 1)]

/-- Outside the view the fifth guess closes the claim. -/
theorem direct_guesses_counted :
    Counted (run (Desk.step plainDigests) Desk.initial (guesses false)) :=
  ((claims_of_run plainDigests (guesses false)).2.2.2 (by decide +kernel)).1

theorem view_guesses_uncounted :
    (run (Desk.step plainDigests) Desk.initial (guesses true)).attempts.map (·.outcome) =
        .accepted :: List.replicate 6 .mismatch ∧
      (run (Desk.step plainDigests) Desk.initial (guesses true)).claims.rows.map
        (·.failedAttempts) = [0] := by
  decide +kernel

end Results

end ClaimCodes
end SpaceWorks
