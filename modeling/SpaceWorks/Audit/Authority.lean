import SpaceWorks.Audit.Line

/-!
# Signing-key authority

One key is active, the intervals of the keys partition the sequences, batches are chained and signed
within them, and the store's transitions neither fork nor cycle nor belong to an aborted rotation.
-/

namespace SpaceWorks
namespace Audit

open Checked TransactionalSystem Table List

variable {H : Hashes} {log : List AuditLog} {ledger ledger' : Ledger}
variable {keys keys' : Table AuditSigningKey} {rotations : Table AuditSigningKeyRotation}
variable {active active' : AuditSigningKey} {retired retired' : List AuditSigningKey}
variable {head : Nat × Digest} {rotation rotation' : AuditSigningKeyRotation}
  {state : RotationState}

theorem Line.of_reached {rotations' : Table AuditSigningKeyRotation}
    (h : Line keys rotations active retired)
    (hreached : ∀ key ∈ keys, Reached rotations' key ↔ Reached rotations key) :
    Line keys rotations' active retired :=
  { h with reached := fun key hkey => (hreached key hkey).trans (h.reached key hkey) }

theorem AuditSigningKeyRotation.Open.not_finalized (h : rotation.Open) :
    rotation.latestState ≠ some .finalized := by
  rcases h with h | h <;> simp [h]

theorem AuditSigningKeyRotation.Open.not_aborted (h : rotation.Open) :
    rotation.latestState ≠ some .aborted := by
  rcases h with h | h <;> simp [h]

theorem AuditSigningKeyRotation.open_of_addState (hhistory : History rotation.states)
    (h : rotation.addState state = .ok rotation') :
    rotation.Open := by
  obtain ⟨hfollows, -⟩ := addState_ok.mp h
  unfold latestState at hfollows
  unfold Open latestState
  rcases hhistory with hs | hs | hs | hs <;> rw [hs] at hfollows ⊢ <;>
    simp [RotationState.follows] at hfollows ⊢

theorem mem_put_rotation
    (hmem : rotation ∈ rotations) (hpayload : rotation'.payload = rotation.payload)
    {x : AuditSigningKeyRotation} :
    x ∈ rotations.put rotation' ↔ x = rotation' ∨ x ∈ rotations ∧ x ≠ rotation := by
  have hkey : Keyed.key rotation' = Keyed.key rotation :=
    congrArg RotationPayload.rotationId hpayload
  rw [mem_put, hkey]
  constructor
  · rintro (⟨hx, hne⟩ | ⟨rfl, -⟩)
    · exact .inr ⟨hx, fun heq => hne (heq ▸ rfl)⟩
    · exact .inl rfl
  · rintro (rfl | ⟨hx, hne⟩)
    · exact .inr ⟨rfl, rotation, hmem, rfl⟩
    · exact .inl ⟨hx, fun heq => hne (eq_of_key_eq hx hmem heq)⟩

theorem Succession.addState {head' : Nat × Digest}
    (h : Succession keys rotations head active retired) (hmem : rotation ∈ rotations)
    (hadd : rotation.addState state = .ok rotation')
    (hbound : ∀ {payload}, Bound keys payload → Bound keys' payload)
    (hothers : ∀ other ∈ rotations, other ≠ rotation → other.Open →
      Claims active' head' other.payload)
    (hopen : rotation'.Open → Claims active' head' rotation.payload)
    (hclaimed : ∀ x ∈ rotations.put rotation',
      active'.pendingRotation = some x.payload.rotationId → x.Open)
    (hretired : ∀ key ∈ retired, key ∈ retired') (hfinal : state = .finalized → ∃ key ∈ retired',
      key.fingerprint = rotation.payload.oldFingerprint ∧
        key.validToSeq = some rotation.payload.lastOldBatchSeq) :
    Succession keys' (rotations.put rotation') head' active' retired' := by
  have hpayload := (AuditSigningKeyRotation.payload_addState hadd).1
  have hlatest := AuditSigningKeyRotation.latestState_addState hadd
  have hwas := AuditSigningKeyRotation.open_of_addState (h.history rotation hmem) hadd
  have hput := fun {x} => mem_put_rotation (x := x) hmem hpayload
  -- a rotation after the step has the payload of one before it, and is not aborted
  -- unless that one was or is the one that the state was added to
  have hbefore : ∀ {x}, x ∈ rotations.put rotation' → ∃ y ∈ rotations,
      y.payload = x.payload ∧ (x.latestState ≠ some .aborted → y.latestState ≠ some .aborted) ∧
        (y = rotation → x = rotation') ∧ (y ≠ rotation → x = y) := by
    intro x hx
    rcases hput.mp hx with rfl | ⟨hold, hne⟩
    · exact ⟨rotation, hmem, hpayload.symm, fun _ => hwas.not_aborted, fun _ => rfl,
        fun hne => absurd rfl hne⟩
    · exact ⟨x, hold, rfl, id, fun heq => absurd heq hne, fun _ => rfl⟩
  have hsame : ∀ {x y}, x ∈ rotations.put rotation' → y ∈ rotations.put rotation' →
      (∀ x' ∈ rotations, ∀ y' ∈ rotations, x'.payload = x.payload → y'.payload = y.payload →
        (x.latestState ≠ some .aborted → x'.latestState ≠ some .aborted) →
        (y.latestState ≠ some .aborted → y'.latestState ≠ some .aborted) → x' = y') → x = y := by
    intro x y hx hy heq
    obtain ⟨x', hx', hxp, hxa, hx₁, hx₂⟩ := hbefore hx
    obtain ⟨y', hy', hyp, hya, hy₁, hy₂⟩ := hbefore hy
    obtain rfl := heq x' hx' y' hy' hxp hyp hxa hya
    by_cases hr : x' = rotation
    · rw [hx₁ hr, hy₁ hr]
    · rw [hx₂ hr, hy₂ hr]
  exact {
    bound := by
      intro x hx
      obtain ⟨y, hy, hp, -⟩ := hbefore hx
      exact hp ▸ hbound (h.bound y hy)
    history := by
      intro x hx
      rcases hput.mp hx with rfl | ⟨hold, -⟩
      · exact (h.history rotation hmem).addState hadd
      · exact h.history x hold
    distinct := by
      intro x hx y hy heq
      refine hsame hx hy fun x' hx' y' hy' hxp hyp _ _ => h.distinct x' hx' y' hy' ?_
      rw [hxp, hyp]
      exact heq
    pending := by
      intro x hx hxopen
      rcases hput.mp hx with rfl | ⟨hold, hne⟩
      · exact hpayload ▸ hopen hxopen
      · exact hothers x hold hne hxopen
    claimed := hclaimed
    successor := by
      intro x hx y hy hxa hya heq
      refine hsame hx hy fun x' hx' y' hy' hxp hyp hxa' hya' =>
        h.successor x' hx' y' hy' (hxa' hxa) (hya' hya) ?_
      rw [hxp, hyp]
      exact heq
    finalized := by
      intro x hx hxfinal
      rcases hput.mp hx with rfl | ⟨hold, -⟩
      · rw [hpayload]
        exact hfinal (by simpa [hlatest] using hxfinal)
      · obtain ⟨key, hkey, hrest⟩ := h.finalized x hold hxfinal
        exact ⟨key, hretired key hkey, hrest⟩ }

theorem reached_addState (hhistory : History rotation.states) (hmem : rotation ∈ rotations)
    (hadd : rotation.addState state = .ok rotation') {key : AuditSigningKey} :
    Reached (rotations.put rotation') key ↔ Reached rotations key ∨
      state = .finalized ∧ rotation.payload.newFingerprint = key.fingerprint := by
  have hpayload := (AuditSigningKeyRotation.payload_addState hadd).1
  have hlatest := AuditSigningKeyRotation.latestState_addState hadd
  have hwas := (AuditSigningKeyRotation.open_of_addState hhistory hadd).not_finalized
  constructor
  · rintro (hone | ⟨x, hx, hfinal, hfp⟩)
    · exact .inl (.inl hone)
    · rcases (mem_put_rotation hmem hpayload).mp hx with rfl | ⟨hold, -⟩
      · exact .inr ⟨by simpa [hlatest] using hfinal, hpayload ▸ hfp⟩
      · exact .inl (.inr ⟨x, hold, hfinal, hfp⟩)
  · rintro ((hone | ⟨x, hx, hfinal, hfp⟩) | ⟨rfl, hfp⟩)
    · exact .inl hone
    · refine .inr ⟨x, (mem_put_rotation hmem hpayload).mpr (.inr ⟨hx, ?_⟩), hfinal, hfp⟩
      rintro rfl
      exact hwas hfinal
    · exact .inr ⟨rotation', (mem_put_rotation hmem hpayload).mpr (.inl rfl), hlatest,
        hpayload ▸ hfp⟩

theorem recorded_addState (hmem : rotation ∈ rotations)
    (hadd : rotation.addState state = .ok rotation') {transition : RotationEnvelope}
    (h : Recorded rotations transition)
    (hkept : state = .aborted → transition ≠ rotation.envelope) :
    Recorded (rotations.put rotation') transition := by
  obtain ⟨hpayload, henvelope⟩ := AuditSigningKeyRotation.payload_addState hadd
  have hlatest := AuditSigningKeyRotation.latestState_addState hadd
  obtain ⟨x, hx, rfl, hstate⟩ := h
  by_cases heq : x = rotation
  · subst heq
    refine ⟨rotation', (mem_put_rotation hmem hpayload).mpr (.inl rfl), henvelope, ?_⟩
    rw [hlatest]
    rintro ⟨⟩
    exact hkept rfl rfl
  · exact ⟨x, (mem_put_rotation hmem hpayload).mpr (.inr ⟨hx, heq⟩), rfl, hstate⟩

theorem Succession.claim_unique (h : Succession keys rotations head active retired)
    (hmem : rotation ∈ rotations)
    (hpending : active.pendingRotation = some rotation.payload.rotationId)
    {other : AuditSigningKeyRotation} (hother : other ∈ rotations) (hopen : other.Open) :
    other = rotation := by
  have hclaim := (h.pending other hother hopen).2.1
  rw [hpending] at hclaim
  have hid : rotation.payload.rotationId = other.payload.rotationId := by simpa using hclaim
  exact eq_of_key_eq hother hmem hid.symm

variable {active : AuditSigningKey} {retired : List AuditSigningKey} {candidate : AuditSigningKey}
variable {rotationId : Uuid} {now : Instant}

theorem Provisioned.addCandidate (h : Provisioned ledger active retired)
    (habsent : ledger.keys.get? (Keyed.key candidate) = none)
    (hoff : candidate.isActive = false) (hversion : 1 < candidate.version)
    (hto : candidate.validToSeq = none) (hpending : candidate.pendingRotation = none) :
    Provisioned { ledger with keys := ledger.keys.insert candidate habsent } active retired := by
  have hkept : ∀ {key}, key ∈ ledger.keys → key ∈ ledger.keys.insert candidate habsent := by
    intro key hkey
    rw [mem_insert]
    exact .inl hkey
  have hnew : ∀ key ∈ ledger.keys, key.fingerprint ≠ candidate.fingerprint :=
    get?_eq_none.mp habsent
  have hunreached : ¬ Reached ledger.rotations candidate := by
    rintro (_ | ⟨rotation, hmem, -, hfp⟩)
    · omega
    · obtain ⟨-, -, newKey, hnewKey, -, hnewfp, -, -⟩ := h.succession.bound rotation hmem
      exact hnew newKey hnewKey (hnewfp.trans hfp)
  exact {
    line :=
      { h.line with
        active_mem := hkept h.line.active_mem
        only_active := by
          intro key hkey hon
          rcases (mem_insert habsent).mp hkey with hold | rfl
          · exact h.line.only_active key hold hon
          · exact absurd hon (by simp [hoff])
        only_pending := by
          intro key hkey hclaim
          rcases (mem_insert habsent).mp hkey with hold | rfl
          · exact h.line.only_pending key hold hclaim
          · exact absurd hpending hclaim
        retired_mem := fun key hkey => hkept (h.line.retired_mem key hkey)
        open_ended := by
          intro key hkey
          rcases (mem_insert habsent).mp hkey with hold | rfl
          · exact h.line.open_ended key hold
          · exact .inr hto
        reached := by
          intro key hkey
          rcases (mem_insert habsent).mp hkey with hold | rfl
          · exact h.line.reached key hold
          · refine ⟨fun hreached => absurd hreached hunreached, ?_⟩
            rintro (rfl | hretired)
            · exact absurd rfl (hnew key h.line.active_mem)
            · exact absurd rfl (hnew key (h.line.retired_mem key hretired))
        versions := by
          intro key hkey
          rcases (mem_insert habsent).mp hkey with hold | rfl
          · exact h.line.versions key hold
          · omega }
    succession :=
      { h.succession with
        bound := by
          intro rotation hmem
          obtain ⟨oldKey, hold, newKey, hnewKey, hrest⟩ := h.succession.bound rotation hmem
          exact ⟨oldKey, hkept hold, newKey, hkept hnewKey, hrest⟩ }
    chained := h.chained
    signed := by
      intro batch hmem
      obtain ⟨key, hkey, hrest⟩ := h.signed batch hmem
      exact ⟨key, hkept hkey, hrest⟩
    recorded := h.recorded }

theorem Succession.open_of_active
    {keys : Table AuditSigningKey} {rotations : Table AuditSigningKeyRotation} {head : Nat × Digest}
    (h : Succession keys rotations head active retired) (hl : Line keys rotations active retired)
    (hmem : rotation ∈ rotations) (hstate : rotation.latestState ≠ some .aborted)
    (hold : rotation.payload.oldFingerprint = active.fingerprint) :
    rotation.Open := by
  have hfinal : rotation.latestState ≠ some .finalized := by
    intro hfinal
    obtain ⟨_, hkey, hfp, -⟩ := h.finalized rotation hmem hfinal
    exact hl.fingerprint_of_retired hkey (hfp.trans hold)
  unfold AuditSigningKeyRotation.Open AuditSigningKeyRotation.latestState at *
  rcases h.history rotation hmem with hs | hs | hs | hs <;> rw [hs] at hstate hfinal ⊢ <;>
    simp at hstate hfinal ⊢

theorem Provisioned.claim (h : Provisioned ledger active retired)
    (hnone : active.pendingRotation = none)
    (habsent : ledger.rotations.get? (Keyed.key rotation) = none)
    (hstates : rotation.states = [.prepared]) (hcandidate : candidate ∈ ledger.keys)
    (hold : rotation.payload.oldFingerprint = active.fingerprint)
    (hnew : rotation.payload.newFingerprint = candidate.fingerprint)
    (hversion : active.version < candidate.version)
    (hfrom : candidate.validFromSeq = rotation.payload.lastOldBatchSeq + 1) (hhead : ledger.head =
      (rotation.payload.lastOldBatchSeq, rotation.payload.lastOldBatchRoot))
    (hfresh : ∀ other ∈ ledger.rotations,
      other.payload.newFingerprint ≠ candidate.fingerprint) {claimed : AuditSigningKey}
    (hclaimed : claimed = { active with pendingRotation := some rotation.payload.rotationId }) :
    Provisioned { ledger with
      keys := ledger.keys.put claimed
      rotations := ledger.rotations.insert rotation habsent } claimed retired := by
  have hsame : SameAuthority claimed active := by
    subst hclaimed
    exact ⟨rfl, rfl, rfl⟩
  have hto : claimed.validToSeq = none := by
    subst hclaimed
    exact h.line.active_open
  have hon : claimed.isActive = true := by
    subst hclaimed
    exact h.line.active_on
  have hprepared : rotation.latestState = some .prepared := by
    simp [AuditSigningKeyRotation.latestState, hstates]
  have hkept : ∀ {x}, x ∈ ledger.rotations.insert rotation habsent ↔
      x ∈ ledger.rotations ∨ x = rotation := mem_insert habsent
  have hreached : ∀ key, Reached (ledger.rotations.insert rotation habsent) key ↔
      Reached ledger.rotations key := by
    intro key
    constructor
    · rintro (hone | ⟨x, hx, hfinal, hfp⟩)
      · exact .inl hone
      · rcases hkept.mp hx with hx | rfl
        · exact .inr ⟨x, hx, hfinal, hfp⟩
        · simp [hprepared] at hfinal
    · rintro (hone | ⟨x, hx, hrest⟩)
      · exact .inl hone
      · exact .inr ⟨x, hkept.mpr (.inl hx), hrest⟩
  have hbound : Bound ledger.keys rotation.payload :=
    ⟨active, h.line.active_mem, candidate, hcandidate, hold.symm, hnew.symm, hversion, hfrom⟩
  have hothers : ∀ x ∈ ledger.rotations, x.latestState ≠ some .aborted →
      x.payload.oldFingerprint ≠ active.fingerprint := fun x hx hstate heq =>
    h.no_open hnone hx (h.succession.open_of_active h.line hx hstate heq)
  exact {
    line := (h.line.putActive hsame.1 hsame.2.1 hsame.2.2 hto hon).of_reached
      fun key _ => hreached key
    succession := {
      bound := by
        intro x hx
        rcases hkept.mp hx with hx | rfl
        · exact bound_put h.line.active_mem hsame (h.succession.bound x hx)
        · exact bound_put h.line.active_mem hsame hbound
      history := by
        intro x hx
        rcases hkept.mp hx with hx | rfl
        · exact h.succession.history x hx
        · exact .inl hstates
      distinct := by
        intro x hx y hy heq
        rcases hkept.mp hx with hx' | rfl <;> rcases hkept.mp hy with hy' | rfl
        · exact h.succession.distinct x hx' y hy' heq
        · exact absurd (heq.trans hnew) (hfresh x hx')
        · exact absurd (heq.symm.trans hnew) (hfresh y hy')
        · rfl
      pending := by
        intro x hx hopen
        rcases hkept.mp hx with hx | rfl
        · exact absurd hopen (h.no_open hnone hx)
        · exact ⟨hold.trans hsame.1.symm, by rw [hclaimed], hhead⟩
      claimed := by
        intro x hx hclaim
        rw [hclaimed] at hclaim
        have hid : rotation.payload.rotationId = x.payload.rotationId := by simpa using hclaim
        rcases hkept.mp hx with hx | rfl
        · exact absurd hid.symm (get?_eq_none.mp habsent x hx)
        · exact .inl hprepared
      successor := by
        intro x hx y hy hxa hya heq
        rcases hkept.mp hx with hx' | rfl <;> rcases hkept.mp hy with hy' | rfl
        · exact h.succession.successor x hx' y hy' hxa hya heq
        · exact absurd (heq.trans hold) (hothers x hx' hxa)
        · exact absurd (heq.symm.trans hold) (hothers y hy' hya)
        · rfl
      finalized := by
        intro x hx hfinal
        rcases hkept.mp hx with hx | rfl
        · exact h.succession.finalized x hx hfinal
        · simp [hprepared] at hfinal }
    chained := h.chained
    signed := by
      intro batch hmem
      have hput : Signed (ledger.keys.put claimed) ledger.rotations batch := by
        refine signed_put h.line.active_mem hsame ?_ (h.signed batch hmem)
        rw [AuditSigningKey.authorizes_congr hsame.2.2 (hto.trans h.line.active_open.symm)]
        exact id
      obtain ⟨key, hkey, hk, hrest⟩ := hput
      exact ⟨key, hkey, (hreached key).mpr hk, hrest⟩
    recorded := by
      intro transition hmem
      obtain ⟨x, hx, hrest⟩ := h.recorded transition hmem
      exact ⟨x, hkept.mpr (.inl hx), hrest⟩ }

theorem Governed.prepareRotation
    {expectedFingerprint fingerprint : Fingerprint} {expectedHead : Nat × Digest}
    (h : Governed ledger)
    (hstep : ledger.prepareRotation expectedFingerprint expectedHead fingerprint rotationId now =
      .ok ledger') :
    Governed ledger' := by
  simp only [Ledger.prepareRotation, bind_ok, require_ok, orRefuse_ok] at hstep
  obtain ⟨active, hactive, -, -, -, -, hstep⟩ := hstep
  obtain ⟨retired, hp⟩ := h.activated hactive
  split at hstep
  · obtain rfl : ledger = ledger' := by simpa using hstep
    exact h
  · rename_i hnone
    simp only [bind_ok, require_ok, pure_ok, insertNew_ok] at hstep
    obtain ⟨_, ⟨hfresh, rfl⟩, -, -, _, ⟨habsent, rfl⟩, rfl⟩ := hstep
    have hlast : active.version ≤ ledger.lastVersion := Ledger.version_le_last hp.line.active_mem
    have hpos := hp.line.versions active hp.line.active_mem
    have hversion : 1 < ledger.lastVersion + 1 := by omega
    have hcandidate := hp.addCandidate hfresh rfl hversion rfl rfl
    refine .inr ⟨_, retired, hcandidate.claim (by simpa using hnone) habsent rfl
      ((mem_insert hfresh).mpr (.inr rfl)) rfl rfl (Nat.lt_succ_of_le hlast) rfl rfl ?_ rfl⟩
    intro other hother heq
    obtain ⟨-, -, newKey, hnewKey, -, hfp, -, -⟩ := hp.succession.bound other hother
    exact get?_eq_none.mp hfresh newKey hnewKey (hfp.trans heq)

theorem Governed.anchorRotation (h : Governed ledger) (hmem : rotation ∈ ledger.rotations)
    (hstep : ledger.anchorRotation rotation = .ok ledger') :
    Governed ledger' ∧ ledger'.rotations = ledger.rotations := by
  simp only [Ledger.anchorRotation, Ledger.validateRotation, bind_ok, require_ok,
    orRefuse_ok, pure_ok, mapError_eq_ok] at hstep
  obtain ⟨_, ⟨-, -, -, -, -, -, rfl⟩, current, hcurrent, -, hpending, _, hpublish,
    rfl⟩ := hstep
  obtain ⟨-, htransitions⟩ := AnchorStore.publishRotation_transitions hpublish
  rcases htransitions with ⟨-, hsame⟩ | hnew
  · exact ⟨h.same rfl rfl rfl hsame, rfl⟩
  · obtain ⟨active, retired, hp⟩ := h.provisioned hmem
    refine ⟨.inr ⟨active, retired, hp.line, hp.succession, hp.chained, hp.signed, ?_⟩, rfl⟩
    intro transition htransition
    rw [hnew] at htransition
    rcases mem_cons.mp htransition with rfl | hold
    · refine ⟨rotation, hmem, rfl, ?_⟩
      have hopen : rotation.Open := by
        have hmine : current = active :=
          hp.line.only_pending current (mem_of_get? hcurrent) (by simp [hpending])
        exact hp.succession.claimed rotation hmem (hmine ▸ hpending)
      exact hopen.not_aborted
    · exact hp.recorded transition hold

theorem Governed.publishRotation
    (h : Governed ledger) (hstep : ledger.publishRotation rotationId = .ok ledger') :
    Governed ledger' := by
  simp [Ledger.publishRotation] at hstep
  obtain ⟨rotation, hget, anchored, hanchor, hstep⟩ := hstep
  obtain ⟨hgoverned, hrotations⟩ := h.anchorRotation (mem_of_get? hget) hanchor
  have hmem : rotation ∈ anchored.rotations := by
    rw [hrotations]
    exact mem_of_get? hget
  split at hstep
  · obtain rfl : anchored = ledger' := by simpa using hstep
    exact hgoverned
  · simp at hstep
    obtain ⟨rotation', hadd, rfl⟩ := hstep
    obtain ⟨active, retired, hp⟩ := hgoverned.provisioned hmem
    have hwas := AuditSigningKeyRotation.open_of_addState (hp.succession.history rotation hmem) hadd
    have hlatest := AuditSigningKeyRotation.latestState_addState hadd
    have hpayload := (AuditSigningKeyRotation.payload_addState hadd).1
    have hreached : ∀ key, Reached (anchored.rotations.put rotation') key ↔
        Reached anchored.rotations key := by
      intro key
      rw [reached_addState (hp.succession.history rotation hmem) hmem hadd]
      simp
    refine .inr ⟨active, retired, ?_⟩
    exact {
      line := hp.line.of_reached fun key _ => hreached key
      succession := by
        refine hp.succession.addState hmem hadd id ?_ ?_ ?_ (fun _ => id) (by simp)
        · exact fun other hother _ hopen => hp.succession.pending other hother hopen
        · exact fun _ => hp.succession.pending rotation hmem hwas
        · intro x hx hclaim
          rcases (mem_put_rotation hmem hpayload).mp hx with rfl | ⟨hold, -⟩
          · exact .inr hlatest
          · exact hp.succession.claimed x hold hclaim
      chained := hp.chained
      signed := by
        intro batch hbatch
        obtain ⟨key, hkey, hk, hrest⟩ := hp.signed batch hbatch
        exact ⟨key, hkey, (hreached key).mpr hk, hrest⟩
      recorded := fun transition ht =>
        recorded_addState hmem hadd (hp.recorded transition ht) (by simp) }

def AuditSigningKey.retire (key : AuditSigningKey) (head : Nat) : AuditSigningKey :=
  { key with validToSeq := some head, isActive := false, pendingRotation := none, wrapped := false }

theorem Provisioned.handOver (h : Provisioned ledger active retired)
    (hmem : rotation ∈ ledger.rotations)
    (hold : active.fingerprint = rotation.payload.oldFingerprint)
    (hpending : active.pendingRotation = some rotation.payload.rotationId)
    (hhead : ledger.head = (rotation.payload.lastOldBatchSeq, rotation.payload.lastOldBatchRoot))
    (hle : active.validFromSeq ≤ ledger.head.1) (hcandidate : candidate ∈ ledger.keys)
    (hnew : candidate.fingerprint = rotation.payload.newFingerprint)
    (hadd : rotation.addState .finalized = .ok rotation') (now : Instant) :
    Provisioned { ledger with
      keys := (ledger.keys.put (active.retire ledger.head.1)).put
        { candidate with isActive := true, activatedAt := some now }
      rotations := ledger.rotations.put rotation' }
      { candidate with isActive := true, activatedAt := some now }
      (active.retire ledger.head.1 :: retired) := by
  have hhistory := h.succession.history rotation hmem
  have hwas := AuditSigningKeyRotation.open_of_addState hhistory hadd
  have hlatest := AuditSigningKeyRotation.latestState_addState hadd
  obtain ⟨oldKey, holdKey, newKey, hnewKey, holdFp, hnewFp, _, hfrom⟩ :=
    h.succession.bound rotation hmem
  obtain rfl : oldKey = active := eq_of_key_eq holdKey h.line.active_mem (holdFp.trans hold.symm)
  obtain rfl : newKey = candidate := eq_of_key_eq hnewKey hcandidate (hnewFp.trans hnew.symm)
  have hunreached : ¬ Reached ledger.rotations newKey :=
    h.succession.not_reached h.line hmem hwas.not_finalized hnewKey hnewFp
  have hne : newKey.fingerprint ≠ oldKey.fingerprint := by
    intro heq
    obtain rfl := eq_of_key_eq hnewKey holdKey heq
    omega
  have hnotRetired : newKey ∉ retired := fun hin =>
    hunreached ((h.line.reached newKey hnewKey).mpr (.inr hin))
  have hnewTo : newKey.validToSeq = none := (h.line.open_ended newKey hnewKey).resolve_left hnotRetired
  have hnewPending : newKey.pendingRotation = none := by
    by_contra hclaim
    exact hne (congrArg _ (h.line.only_pending newKey hnewKey hclaim))
  have hretiredSame : SameAuthority (oldKey.retire ledger.head.1) oldKey := ⟨rfl, rfl, rfl⟩
  have hactiveSame : SameAuthority
      { newKey with isActive := true, activatedAt := some now } newKey := ⟨rfl, rfl, rfl⟩
  have hmiddle : newKey ∈ ledger.keys.put (oldKey.retire ledger.head.1) :=
    mem_put.mpr (.inl ⟨hnewKey, hne⟩)
  have hcases : ∀ key ∈ (ledger.keys.put (oldKey.retire ledger.head.1)).put
      { newKey with isActive := true, activatedAt := some now },
      key = { newKey with isActive := true, activatedAt := some now } ∨
        key = oldKey.retire ledger.head.1 ∨
          key ∈ ledger.keys ∧ key.fingerprint ≠ oldKey.fingerprint ∧
            key.fingerprint ≠ newKey.fingerprint := by
    intro key hkey
    rcases mem_of_mem_put hkey with rfl | ⟨hkey, hnotNew⟩
    · exact .inl rfl
    · rcases mem_of_mem_put hkey with rfl | ⟨hkey, hnotOld⟩
      · exact .inr (.inl rfl)
      · exact .inr (.inr ⟨hkey, hnotOld, hnotNew⟩)
  have hreached : ∀ key, Reached (ledger.rotations.put rotation') key ↔
      Reached ledger.rotations key ∨ RotationState.finalized = .finalized ∧
          rotation.payload.newFingerprint = key.fingerprint :=
    fun key => reached_addState hhistory hmem hadd
  have hotherRetired : ∀ key ∈ retired, key.fingerprint ≠ newKey.fingerprint := by
    intro key hkey heq
    obtain rfl := eq_of_key_eq (h.line.retired_mem key hkey) hnewKey heq
    exact hnotRetired hkey
  exact {
    line := {
      active_mem := mem_put.mpr (.inr ⟨rfl, newKey, hmiddle, rfl⟩)
      active_on := rfl
      active_open := hnewTo
      only_active := by
        intro key hkey hon
        rcases hcases key hkey with rfl | rfl | ⟨hkey, hnotOld, -⟩
        · rfl
        · simp [AuditSigningKey.retire] at hon
        · exact absurd (congrArg _ (h.line.only_active key hkey hon)) hnotOld
      only_pending := by
        intro key hkey hclaim
        rcases hcases key hkey with rfl | rfl | ⟨hkey, hnotOld, -⟩
        · rfl
        · simp [AuditSigningKey.retire] at hclaim
        · exact absurd (congrArg _ (h.line.only_pending key hkey hclaim)) hnotOld
      retired_mem := by
        intro key hkey
        rcases mem_cons.mp hkey with rfl | hkey
        · refine mem_put.mpr (.inl ⟨mem_put.mpr (.inr ⟨rfl, oldKey, holdKey, rfl⟩), ?_⟩)
          exact hne.symm
        · exact mem_put.mpr (.inl ⟨mem_put.mpr (.inl
            ⟨h.line.retired_mem key hkey, h.line.fingerprint_of_retired hkey⟩),
            hotherRetired key hkey⟩)
      open_ended := by
        intro key hkey
        rcases hcases key hkey with rfl | rfl | ⟨hkey, -, -⟩
        · exact .inr hnewTo
        · exact .inl (by simp)
        · exact (h.line.open_ended key hkey).imp (fun hin => by simp [hin]) id
      partition := by
        refine ⟨ledger.head.1, rfl, hle, ?_, h.line.partition⟩
        rw [hhead]
        exact hfrom
      reached := by
        intro key hkey
        rw [hreached]
        rcases hcases key hkey with rfl | rfl | ⟨hkey, hnotOld, hnotNew⟩
        · exact ⟨fun _ => .inl rfl, fun _ => .inr ⟨rfl, hnewFp.symm⟩⟩
        · have hwasActive := (h.line.reached oldKey holdKey).mpr (.inl rfl)
          exact ⟨fun _ => .inr (by simp), fun _ => .inl hwasActive⟩
        · rw [h.line.reached key hkey]
          constructor
          · rintro ((rfl | hin) | ⟨-, heq⟩)
            · exact absurd rfl hnotOld
            · exact .inr (by simp [hin])
            · exact absurd (heq.symm.trans hnewFp.symm) hnotNew
          · rintro (rfl | hin)
            · exact absurd rfl hnotNew
            · rcases mem_cons.mp hin with rfl | hin
              · exact absurd rfl hnotOld
              · exact .inl (.inr hin)
      versions := by
        intro key hkey
        rcases hcases key hkey with rfl | rfl | ⟨hkey, -, -⟩
        · exact h.line.versions newKey hnewKey
        · exact h.line.versions oldKey holdKey
        · exact h.line.versions key hkey }
    succession := by
      refine h.succession.addState hmem hadd ?_ ?_ ?_ ?_ (fun key hkey => by simp [hkey]) ?_
      · exact fun hbound => bound_put hmiddle hactiveSame (bound_put holdKey hretiredSame hbound)
      · exact fun other hother hdistinct hopen =>
          absurd (h.succession.claim_unique hmem hpending hother hopen) hdistinct
      · exact fun hopen => absurd hlatest hopen.not_finalized
      · intro x hx hclaim
        simp [hnewPending] at hclaim
      · exact fun _ => ⟨oldKey.retire ledger.head.1, by simp, hold, by rw [hhead]; rfl⟩
    chained := h.chained
    signed := by
      intro batch hbatch
      have hretire : Signed (ledger.keys.put (oldKey.retire ledger.head.1)) ledger.rotations
          batch := by
        refine signed_put holdKey hretiredSame ?_ (h.signed batch hbatch)
        intro hauth
        refine AuditSigningKey.authorizes_iff.mpr ⟨(AuditSigningKey.authorizes_iff.mp hauth).1, ?_⟩
        rintro _ ⟨⟩
        exact h.chained.seq_le_head hbatch
      obtain ⟨key, hkey, hk, hrest⟩ := signed_put hmiddle hactiveSame (fun hauth => hauth) hretire
      exact ⟨key, hkey, (hreached key).mpr (.inl hk), hrest⟩
    recorded := fun transition ht =>
      recorded_addState hmem hadd (h.recorded transition ht) (by simp) }

theorem Governed.finalizeRotation
    (h : Governed ledger) (hstep : ledger.finalizeRotation rotationId now = .ok ledger') :
    Governed ledger' := by
  simp only [Ledger.finalizeRotation, Ledger.validateRotation, bind_ok, require_ok,
    orRefuse_ok, pure_ok] at hstep
  obtain ⟨_, hget, -, -, -, -, _, hactive, -, ⟨hold, hpending⟩, -, hhead, -, -, -, hle,
    _, hnew, _, hadd, rfl⟩ := hstep
  obtain ⟨_, hp⟩ := h.activated hactive
  obtain ⟨hnewMem, hnewFp⟩ := get?_eq_some.mp hnew
  exact .inr ⟨_, _, hp.handOver (mem_of_get? hget) hold hpending hhead hle hnewMem hnewFp hadd now⟩

theorem Provisioned.putCandidate (h : Provisioned ledger active retired)
    {written : AuditSigningKey} (hcandidate : candidate ∈ ledger.keys)
    (hunreached : ¬ Reached ledger.rotations candidate) (hsame : SameAuthority written candidate)
    (hto : written.validToSeq = candidate.validToSeq) (hon : written.isActive = candidate.isActive)
    (hpending : written.pendingRotation = candidate.pendingRotation) :
    Provisioned { ledger with keys := ledger.keys.put written } active retired := by
  have hnotLine : ¬ (candidate = active ∨ candidate ∈ retired) := fun hin =>
    hunreached ((h.line.reached candidate hcandidate).mpr hin)
  have hother : ∀ key ∈ ledger.keys, key ≠ candidate → key.fingerprint ≠ written.fingerprint :=
    fun key hkey hne heq => hne (eq_of_key_eq hkey hcandidate (heq.trans hsame.1))
  have hkept : ∀ key ∈ ledger.keys, key ≠ candidate → key ∈ ledger.keys.put written :=
    fun key hkey hne => mem_put.mpr (.inl ⟨hkey, hother key hkey hne⟩)
  have hactive : active ≠ candidate := fun heq => hnotLine (.inl heq.symm)
  have hretired : ∀ key ∈ retired, key ≠ candidate :=
    fun key hkey heq => hnotLine (.inr (heq ▸ hkey))
  exact {
    line := {
      active_mem := hkept active h.line.active_mem hactive
      active_on := h.line.active_on
      active_open := h.line.active_open
      only_active := by
        intro key hkey hkeyOn
        rcases mem_of_mem_put hkey with rfl | ⟨hkey, -⟩
        · exact absurd (h.line.only_active candidate hcandidate (hon ▸ hkeyOn)).symm hactive
        · exact h.line.only_active key hkey hkeyOn
      only_pending := by
        intro key hkey hclaim
        rcases mem_of_mem_put hkey with rfl | ⟨hkey, -⟩
        · exact absurd (h.line.only_pending candidate hcandidate (hpending ▸ hclaim)).symm hactive
        · exact h.line.only_pending key hkey hclaim
      retired_mem := fun key hkey =>
        hkept key (h.line.retired_mem key hkey) (hretired key hkey)
      open_ended := by
        intro key hkey
        rcases mem_of_mem_put hkey with rfl | ⟨hkey, -⟩
        · rw [hto]
          exact .inr ((h.line.open_ended candidate hcandidate).resolve_left
            fun hin => hnotLine (.inr hin))
        · exact h.line.open_ended key hkey
      partition := h.line.partition
      reached := by
        intro key hkey
        rcases mem_of_mem_put hkey with rfl | ⟨hkey, _⟩
        · have hsameReached : Reached ledger.rotations key ↔ Reached ledger.rotations candidate := by
            unfold Reached
            rw [hsame.1, hsame.2.1]
          refine ⟨fun hreached => absurd (hsameReached.mp hreached) hunreached, ?_⟩
          rintro (rfl | hin)
          · exact absurd hsame.1 (fun heq => hactive (eq_of_key_eq h.line.active_mem
              hcandidate heq))
          · exact absurd hsame.1 (fun heq => hretired key hin (eq_of_key_eq
              (h.line.retired_mem key hin) hcandidate heq))
        · exact h.line.reached key hkey
      versions := by
        intro key hkey
        rcases mem_of_mem_put hkey with rfl | ⟨hkey, -⟩
        · rw [hsame.2.1]
          exact h.line.versions candidate hcandidate
        · exact h.line.versions key hkey }
    succession :=
      { h.succession with
        bound := fun rotation hmem => bound_put hcandidate hsame (h.succession.bound rotation hmem) }
    chained := h.chained
    signed := by
      intro batch hbatch
      refine signed_put hcandidate hsame ?_ (h.signed batch hbatch)
      rw [AuditSigningKey.authorizes_congr hsame.2.2 hto]
      exact id
    recorded := h.recorded }

theorem Provisioned.release (h : Provisioned ledger active retired)
    (hmem : rotation ∈ ledger.rotations)
    (hpending : active.pendingRotation = some rotation.payload.rotationId)
    (hadd : rotation.addState .aborted = .ok rotation')
    (hunanchored : rotation.envelope ∉ ledger.anchors.transitions) :
    Provisioned { ledger with
      keys := ledger.keys.put { active with pendingRotation := none }
      rotations := ledger.rotations.put rotation' }
      { active with pendingRotation := none } retired := by
  have hhistory := h.succession.history rotation hmem
  have hlatest := AuditSigningKeyRotation.latestState_addState hadd
  have hsame : SameAuthority { active with pendingRotation := none } active := ⟨rfl, rfl, rfl⟩
  have hreached : ∀ key, Reached (ledger.rotations.put rotation') key ↔
      Reached ledger.rotations key := by
    intro key
    rw [reached_addState hhistory hmem hadd]
    simp
  exact {
    line := (h.line.putActive hsame.1 hsame.2.1 hsame.2.2 h.line.active_open
      h.line.active_on).of_reached fun key _ => hreached key
    succession := by
      refine h.succession.addState hmem hadd ?_ ?_ ?_ ?_ (fun _ => id) (by simp)
      · exact fun hbound => bound_put h.line.active_mem hsame hbound
      · exact fun other hother hdistinct hopen =>
          absurd (h.succession.claim_unique hmem hpending hother hopen) hdistinct
      · exact fun hopen => absurd hlatest hopen.not_aborted
      · intro x hx hclaim
        simp at hclaim
    chained := h.chained
    signed := by
      intro batch hbatch
      have hput : Signed (ledger.keys.put { active with pendingRotation := none })
          ledger.rotations batch :=
        signed_put h.line.active_mem hsame (fun hauth => hauth) (h.signed batch hbatch)
      obtain ⟨key, hkey, hk, hrest⟩ := hput
      exact ⟨key, hkey, (hreached key).mpr hk, hrest⟩
    recorded := by
      intro transition ht
      refine recorded_addState hmem hadd (h.recorded transition ht) fun _ heq => ?_
      exact hunanchored (heq ▸ ht) }

theorem Governed.abortRotation
    (h : Governed ledger) (hstep : ledger.abortRotation rotationId = .ok ledger') :
    Governed ledger' := by
  simp only [Ledger.abortRotation, Ledger.validateRotation, bind_ok, require_ok,
    orRefuse_ok, pure_ok, mapError_eq_ok] at hstep
  obtain ⟨rotation, hget, -, -, oldKey, hold, -, -, head, hhead, -, rfl, -, ⟨hactive, hpending⟩,
    newKey, hnew, _, hadd, rfl⟩ := hstep
  have hmem := mem_of_get? hget
  obtain ⟨active, _, hp⟩ := h.provisioned hmem
  obtain rfl : oldKey = active := hp.line.only_active oldKey (mem_of_get? hold) hactive
  obtain ⟨hnewMem, hnewFp⟩ := get?_eq_some.mp hnew
  have hwas := AuditSigningKeyRotation.open_of_addState (hp.succession.history rotation hmem) hadd
  -- the head of the store ends at the old key, so nobody took over from it there
  have hunanchored : rotation.envelope ∉ ledger.anchors.transitions := fun hin =>
    AnchorStore.scopeHead_signer_last hhead hin rfl rfl
  have hunwrapped : SameAuthority { newKey with wrapped := false } newKey := ⟨rfl, rfl, rfl⟩
  have hcandidate := hp.putCandidate hnewMem
    (hp.succession.not_reached hp.line hmem hwas.not_finalized hnewMem hnewFp)
    hunwrapped rfl rfl rfl
  exact .inr ⟨_, _, hcandidate.release hmem hpending hadd hunanchored⟩

theorem Governed.step {log : List AuditLog} {ledger ledger' : Ledger} {request : ScopeRequest}
    (h : Governed ledger) (hstep : ledger.step H log request = .ok ledger') :
    Governed ledger' := by
  cases request with
  | provisionMacKey secret =>
    change ledger.provisionMacKey H log secret = .ok ledger' at hstep
    unfold Ledger.provisionMacKey at hstep
    split at hstep
    all_goals
      cases hstep
      exact h.same rfl rfl rfl rfl
  | provision => exact h.provision hstep
  | anchorActivation => exact (h.anchorActivation hstep).1
  | activate => exact h.activate hstep
  | sealScope => exact h.sealScope hstep
  | anchorBatch => exact h.anchorBatch hstep
  | prepareRotation =>
    exact h.prepareRotation hstep
  | anchorRotation rotationId =>
    change ledger.publishRotationOnly rotationId = .ok ledger' at hstep
    simp [Ledger.publishRotationOnly] at hstep
    obtain ⟨_, hget, hanchor⟩ := hstep
    exact (h.anchorRotation (mem_of_get? hget) hanchor).1
  | publishRotation => exact h.publishRotation hstep
  | finalizeRotation => exact h.finalizeRotation hstep
  | abortRotation => exact h.abortRotation hstep

theorem governed_initial (scope : Scope) : Governed (Ledger.initial scope) :=
  .inl ⟨rfl, rfl, rfl, rfl⟩

theorem governed_after (requests : List Request) (scope : Scope) :
    Governed ((Deployment.after H requests).ledger scope) :=
  Deployment.ledger_preserves governed_initial (fun h hstep => h.step hstep) requests scope

variable {rotation : AuditSigningKeyRotation} {fingerprint : Fingerprint}

/-- Batches stay, rotations only change state, and an aborted one does not. -/
def Extends (ledger ledger' : Ledger) : Prop :=
  ledger.batches <:+ ledger'.batches ∧
    ∀ rotation ∈ ledger.rotations, ∃ rotation' ∈ ledger'.rotations,
      rotation'.payload = rotation.payload ∧
        (rotation.latestState = some .aborted → rotation' = rotation)

theorem Extends.of_eq (hbatches : ledger'.batches = ledger.batches)
    (hrotations : ledger'.rotations = ledger.rotations) :
    Extends ledger ledger' := by
  refine ⟨hbatches ▸ suffix_refl _, fun rotation hmem => ⟨rotation, ?_, rfl, fun _ => rfl⟩⟩
  rw [hrotations]
  exact hmem

theorem Extends.refl (ledger : Ledger) : Extends ledger ledger :=
  Extends.of_eq rfl rfl

theorem Extends.trans {a b c : Ledger} (hab : Extends a b) (hbc : Extends b c) :
    Extends a c := by
  refine ⟨hab.1.trans hbc.1, fun rotation hmem => ?_⟩
  obtain ⟨middle, hmiddle, hpayload, hkept⟩ := hab.2 rotation hmem
  obtain ⟨last, hlast, hpayload', hkept'⟩ := hbc.2 middle hmiddle
  refine ⟨last, hlast, hpayload'.trans hpayload, fun haborted => ?_⟩
  obtain rfl := hkept haborted
  exact hkept' haborted

theorem Extends.of_addState {rotation' : AuditSigningKeyRotation} {state : RotationState}
    (hmem : rotation ∈ ledger.rotations) (hadd : rotation.addState state = .ok rotation')
    (hbatches : ledger'.batches = ledger.batches)
    (hrotations : ledger'.rotations = ledger.rotations.put rotation') :
    Extends ledger ledger' := by
  obtain ⟨hpayload, -⟩ := AuditSigningKeyRotation.payload_addState hadd
  refine ⟨hbatches ▸ suffix_refl _, fun other hother => ?_⟩
  rw [hrotations]
  by_cases heq : other = rotation
  · subst heq
    refine ⟨rotation', (mem_put_rotation hmem hpayload).mpr (.inl rfl), hpayload, ?_⟩
    intro haborted
    have hfollows := (AuditSigningKeyRotation.addState_ok.mp hadd).1
    rw [haborted] at hfollows
    simp [RotationState.follows] at hfollows
  · exact ⟨other, (mem_put_rotation hmem hpayload).mpr (.inr ⟨hother, heq⟩), rfl, fun _ => rfl⟩

theorem Ledger.provision_keeps (hstep : ledger.provision H log fingerprint now = .ok ledger') :
    ledger'.batches = ledger.batches ∧ ledger'.rotations = ledger.rotations := by
  unfold provision at hstep
  split at hstep
  · simp at hstep
    obtain ⟨-, -, rfl⟩ := hstep
    exact ⟨rfl, rfl⟩
  · simp at hstep
    obtain ⟨-, -, -, -, -, -, -, -, rfl⟩ := hstep
    exact ⟨rfl, rfl⟩

theorem Ledger.anchorActivation_keeps (hstep : ledger.anchorActivation H log = .ok ledger') :
    ledger'.batches = ledger.batches ∧ ledger'.rotations = ledger.rotations := by
  simp [anchorActivation] at hstep
  obtain ⟨-, -, -, -, -, -, -, -, -, -, -, -, -, -, -, -, -, -, -, -, rfl⟩ := hstep
  exact ⟨rfl, rfl⟩

theorem Ledger.activate_keeps (hstep : ledger.activate H log fingerprint now = .ok ledger') :
    ledger'.batches = ledger.batches ∧ ledger'.rotations = ledger.rotations := by
  simp [activate] at hstep
  obtain ⟨_, hprovision, _, -, hstep⟩ := hstep
  obtain ⟨hbatches, hrotations⟩ := provision_keeps hprovision
  split at hstep
  · simp at hstep
    obtain ⟨-, -, rfl⟩ := hstep
    exact ⟨hbatches, hrotations⟩
  · simp at hstep
    obtain ⟨_, hanchor, rfl⟩ := hstep
    obtain ⟨hbatches', hrotations'⟩ := anchorActivation_keeps hanchor
    exact ⟨hbatches'.trans hbatches, hrotations'.trans hrotations⟩

theorem Ledger.anchorRotation_keeps (hstep : ledger.anchorRotation rotation = .ok ledger') :
    ledger'.batches = ledger.batches ∧ ledger'.rotations = ledger.rotations := by
  simp [anchorRotation] at hstep
  obtain ⟨-, -, -, -, -, -, -, -, rfl⟩ := hstep
  exact ⟨rfl, rfl⟩

theorem Ledger.step_extends
    {request : ScopeRequest} (hstep : ledger.step H log request = .ok ledger') :
    Extends ledger ledger' := by
  cases request with
  | provisionMacKey secret =>
    change ledger.provisionMacKey H log secret = .ok ledger' at hstep
    unfold provisionMacKey at hstep
    split at hstep
    all_goals
      cases hstep
      exact .of_eq rfl rfl
  | provision =>
    exact .of_eq (provision_keeps hstep).1 (provision_keeps hstep).2
  | anchorActivation =>
    exact .of_eq (anchorActivation_keeps hstep).1 (anchorActivation_keeps hstep).2
  | activate =>
    exact .of_eq (activate_keeps hstep).1 (activate_keeps hstep).2
  | sealScope =>
    simp only [step, sealScope, bind_ok] at hstep
    obtain ⟨-, -, _, -, -, -, -, -, hstep⟩ := hstep
    split at hstep
    · obtain rfl : ledger = ledger' := by simpa using hstep
      exact .refl ledger
    · simp at hstep
      obtain ⟨-, -, -, -, rfl⟩ := hstep
      exact ⟨suffix_cons _ _, fun rotation hmem => ⟨rotation, hmem, rfl, fun _ => rfl⟩⟩
  | anchorBatch =>
    simp [step, anchorBatch] at hstep
    obtain ⟨-, -, -, -, -, -, rfl⟩ := hstep
    exact .of_eq rfl rfl
  | prepareRotation =>
    simp only [step, prepareRotation, bind_ok] at hstep
    obtain ⟨_, -, -, -, -, -, hstep⟩ := hstep
    split at hstep
    · obtain rfl : ledger = ledger' := by simpa using hstep
      exact .refl ledger
    · simp only [bind_ok, pure_ok, insertNew_ok] at hstep
      obtain ⟨_, -, -, -, _, ⟨habsent, rfl⟩, rfl⟩ := hstep
      exact ⟨suffix_refl _, fun rotation hmem =>
        ⟨rotation, (mem_insert habsent).mpr (.inl hmem), rfl, fun _ => rfl⟩⟩
  | anchorRotation =>
    simp [step, publishRotationOnly] at hstep
    obtain ⟨_, -, hanchor⟩ := hstep
    exact .of_eq (anchorRotation_keeps hanchor).1 (anchorRotation_keeps hanchor).2
  | publishRotation =>
    simp [step, publishRotation] at hstep
    obtain ⟨_, hget, anchored, hanchor, hstep⟩ := hstep
    obtain ⟨hbatches, hrotations⟩ := anchorRotation_keeps hanchor
    split at hstep
    · obtain rfl : anchored = ledger' := by simpa using hstep
      exact .of_eq hbatches hrotations
    · simp at hstep
      obtain ⟨_, hadd, rfl⟩ := hstep
      exact .of_addState (mem_of_get? hget) hadd hbatches (by rw [hrotations])
  | finalizeRotation =>
    simp only [step, finalizeRotation, bind_ok, orRefuse_ok, pure_ok] at hstep
    obtain ⟨_, hget, -, -, -, -, -, -, -, -, -, -, -, -, -, -, -, -, _, hadd,
      rfl⟩ := hstep
    exact .of_addState (mem_of_get? hget) hadd rfl rfl
  | abortRotation =>
    simp only [step, abortRotation, bind_ok, orRefuse_ok, pure_ok] at hstep
    obtain ⟨_, hget, -, -, -, -, -, -, -, -, -, -, -, -, -, -, _, hadd, rfl⟩ := hstep
    exact .of_addState (mem_of_get? hget) hadd rfl rfl

theorem Chained.seq_eq_length
    {batch : AuditBatch} {batches : List AuditBatch} (h : Chained (batch :: batches)) :
    batch.batchSeq = batches.length + 1 := by
  induction batches generalizing batch with
  | nil => exact h.1
  | cons _ _ ih =>
    rw [h.1, ih h.tail]
    rfl

theorem Chained.head_eq_length (h : Chained ledger.batches) :
    ledger.head.1 = ledger.batches.length := by
  unfold Ledger.head
  cases hbatches : ledger.batches with
  | nil => rfl
  | cons =>
    rw [hbatches] at h
    exact h.seq_eq_length

variable (H : Hashes) {ledger : Ledger}

structure KeyAuthority (ledger : Ledger) : Prop where
  one_active : ledger.keys.rows ≠ [] → ∃! key, key ∈ ledger.keys ∧ key.isActive = true
  covered : ledger.keys.rows ≠ [] → ∀ batchSeq,
    ∃! key, key ∈ ledger.keys ∧ Reached ledger.rotations key ∧ key.authorizes batchSeq = true
  contiguous : ∀ rotation ∈ ledger.rotations, rotation.latestState = some .finalized →
    ∃ oldKey ∈ ledger.keys, ∃ newKey ∈ ledger.keys,
      oldKey.fingerprint = rotation.payload.oldFingerprint ∧
        newKey.fingerprint = rotation.payload.newFingerprint ∧
          oldKey.validToSeq = some rotation.payload.lastOldBatchSeq ∧
            newKey.validFromSeq = rotation.payload.lastOldBatchSeq + 1
  chained : Chained ledger.batches
  signed : ∀ batch ∈ ledger.batches, Signed ledger.keys ledger.rotations batch
  paused : ∀ rotation ∈ ledger.rotations, rotation.Open →
    ledger.head = (rotation.payload.lastOldBatchSeq, rotation.payload.lastOldBatchRoot)
  aborted : ∀ rotation ∈ ledger.rotations, rotation.latestState = some .aborted →
    ∀ key ∈ ledger.keys, key.fingerprint = rotation.payload.newFingerprint → key.isActive = false
  no_fork : ∀ {oldSigner newSigner newSigner'}, HandsOver ledger.anchors oldSigner newSigner →
    HandsOver ledger.anchors oldSigner newSigner' → newSigner = newSigner'
  no_cycle : ∀ signer, ¬ Relation.TransGen (HandsOver ledger.anchors) signer signer
  no_aborted : ∀ transition ∈ ledger.anchors.transitions, ∀ rotation ∈ ledger.rotations,
    rotation.latestState = some .aborted →
      transition.payload.rotationId ≠ rotation.payload.rotationId

variable {H}

theorem Unprovisioned.keyAuthority (h : Unprovisioned ledger) :
    KeyAuthority ledger := by
  have hkeys : ledger.keys.rows = [] := by
    rw [h.keys]
    rfl
  have hrotations : ∀ rotation, rotation ∉ ledger.rotations := by
    rw [h.rotations]
    exact notMem_empty
  have hhands : ∀ {a b}, ¬ HandsOver ledger.anchors a b := by
    rintro _ _ ⟨_, hmem, -⟩
    rw [h.transitions] at hmem
    simp at hmem
  exact {
    one_active := fun hne => absurd hkeys hne
    covered := fun hne => absurd hkeys hne
    contiguous := fun rotation hmem => absurd hmem (hrotations rotation)
    chained := by
      rw [h.batches]
      trivial
    signed := by simp [h.batches]
    paused := fun rotation hmem => absurd hmem (hrotations rotation)
    aborted := fun rotation hmem => absurd hmem (hrotations rotation)
    no_fork := fun hab => absurd hab hhands
    no_cycle := by
      intro signer hcycle
      cases hcycle with
      | single hstep | tail _ hstep => exact hhands hstep
    no_aborted := by simp [h.transitions] }

def versionOf (keys : Table AuditSigningKey) (fingerprint : Fingerprint) : Nat :=
  ((keys.get? fingerprint).map (·.version)).getD 0

theorem Provisioned.version_lt (h : Provisioned ledger active retired)
    {oldSigner newSigner : Fingerprint} (hands : HandsOver ledger.anchors oldSigner newSigner) :
    versionOf ledger.keys oldSigner < versionOf ledger.keys newSigner := by
  obtain ⟨transition, hmem, rfl, rfl⟩ := hands
  obtain ⟨rotation, hrotation, rfl, -⟩ := h.recorded transition hmem
  obtain ⟨oldKey, hold, newKey, hnew, holdFp, hnewFp, hversion, -⟩ :=
    h.succession.bound rotation hrotation
  have holdGet : ledger.keys.get? rotation.payload.oldFingerprint = some oldKey :=
    get?_eq_some.mpr ⟨hold, holdFp⟩
  have hnewGet : ledger.keys.get? rotation.payload.newFingerprint = some newKey :=
    get?_eq_some.mpr ⟨hnew, hnewFp⟩
  change versionOf ledger.keys rotation.payload.oldFingerprint <
    versionOf ledger.keys rotation.payload.newFingerprint
  simpa [versionOf, holdGet, hnewGet] using hversion

theorem Provisioned.keyAuthority (h : Provisioned ledger active retired) :
    KeyAuthority ledger where
  one_active _ := ⟨active, ⟨h.line.active_mem, h.line.active_on⟩,
    fun key ⟨hkey, hon⟩ => h.line.only_active key hkey hon⟩
  covered := by
    intro _ batchSeq
    have hopen : ∀ key, key ∈ ledger.keys ∧ Reached ledger.rotations key ∧
        key.authorizes batchSeq = true → key = active ∨ key ∈ retired :=
      fun key ⟨hkey, hreached, _⟩ => (h.line.reached key hkey).mp hreached
    by_cases hlow : batchSeq < active.validFromSeq
    · obtain ⟨key, hkey, hholds⟩ := Consecutive.covers h.line.partition hlow
      have hmem := h.line.retired_mem key hkey
      refine ⟨key, ⟨hmem, (h.line.reached key hmem).mpr (.inr hkey),
        AuditSigningKey.authorizes_iff.mpr hholds⟩, fun other hother => ?_⟩
      have hotherHolds := AuditSigningKey.authorizes_iff.mp hother.2.2
      rcases hopen other hother with rfl | hretired
      · exact absurd hotherHolds.1 (by omega)
      · exact Consecutive.unique h.line.partition hretired hkey hotherHolds hholds
    · have hholds : active.authorizes batchSeq = true := by
        refine AuditSigningKey.authorizes_iff.mpr ⟨by omega, ?_⟩
        simp [h.line.active_open]
      refine ⟨active, ⟨h.line.active_mem, (h.line.reached active h.line.active_mem).mpr (.inl rfl),
        hholds⟩, fun other hother => ?_⟩
      rcases hopen other hother with rfl | hretired
      · rfl
      · have hotherHolds := AuditSigningKey.authorizes_iff.mp hother.2.2
        exact absurd (Consecutive.below h.line.partition hretired hotherHolds) hlow
  contiguous := by
    intro rotation hmem hfinal
    obtain ⟨-, -, newKey, hnew, -, hnewFp, -, hfrom⟩ := h.succession.bound rotation hmem
    obtain ⟨oldKey, hold, holdFp, hto⟩ := h.succession.finalized rotation hmem hfinal
    exact ⟨oldKey, h.line.retired_mem oldKey hold, newKey, hnew, holdFp, hnewFp, hto, hfrom⟩
  chained := h.chained
  signed := h.signed
  paused rotation hmem hopen := (h.succession.pending rotation hmem hopen).2.2
  aborted := by
    intro rotation hmem haborted key hkey hnew
    have hunreached := h.succession.not_reached h.line hmem (by simp [haborted]) hkey hnew
    cases hon : key.isActive with
    | false => rfl
    | true => exact absurd ((h.line.reached key hkey).mpr (.inl
        (h.line.only_active key hkey hon))) hunreached
  no_fork := by
    rintro _ _ _ ⟨t, ht, hold, rfl⟩ ⟨t', ht', hold', rfl⟩
    obtain ⟨rotation, hmem, rfl, hstate⟩ := h.recorded t ht
    obtain ⟨rotation', hmem', rfl, hstate'⟩ := h.recorded t' ht'
    rw [h.succession.successor rotation hmem rotation' hmem' hstate hstate' (hold.trans hold'.symm)]
  no_cycle := by
    intro signer hcycle
    have hlt : ∀ {last}, Relation.TransGen (HandsOver ledger.anchors) signer last →
        versionOf ledger.keys signer < versionOf ledger.keys last := by
      intro last hpath
      induction hpath with
      | single hstep => exact h.version_lt hstep
      | tail _ hstep ih => exact Nat.lt_trans ih (h.version_lt hstep)
    exact absurd (hlt hcycle) (Nat.lt_irrefl _)
  no_aborted := by
    intro transition ht rotation hmem haborted hid
    obtain ⟨other, hother, rfl, hstate⟩ := h.recorded transition ht
    obtain rfl : other = rotation := eq_of_key_eq hother hmem hid
    exact hstate haborted

/-- An aborted candidate is inactive for good, and no batch is sealed in an open rotation. -/
theorem signing_key_authority (requests later : List Request) (scope : Scope) :
    let ledger := (Deployment.after H requests).ledger scope
    let ledger' := (run (Deployment.step H) (Deployment.after H requests) later).ledger scope
    KeyAuthority ledger ∧
      (∀ rotation ∈ ledger.rotations, rotation.latestState = some .aborted →
        ∀ key ∈ ledger'.keys, key.fingerprint = rotation.payload.newFingerprint →
          key.isActive = false) ∧
      ∀ rotation ∈ ledger.rotations, ∀ rotation' ∈ ledger'.rotations,
        rotation.Open → rotation'.Open →
          rotation'.payload.rotationId = rotation.payload.rotationId →
            ledger'.batches = ledger.batches := by
  intro ledger ledger'
  have hkey : ∀ {ledger : Ledger}, Governed ledger → KeyAuthority ledger := by
    rintro _ (h | ⟨_, _, h⟩)
    · exact h.keyAuthority
    · exact h.keyAuthority
  have hnow : KeyAuthority ledger := hkey (governed_after requests scope)
  have hthen : KeyAuthority ledger' := by
    refine hkey ?_
    have hafter := governed_after (H := H) (requests ++ later) scope
    rw [Deployment.after, run_append] at hafter
    exact hafter
  obtain ⟨hsuffix, hrotations⟩ : Extends ledger ledger' :=
    Deployment.ledger_relates Extends.refl Extends.trans Ledger.step_extends _ later scope
  refine ⟨hnow, ?_, ?_⟩
  · intro rotation hmem haborted key hkey hnew
    obtain ⟨rotation', hmem', -, hkept⟩ := hrotations rotation hmem
    obtain rfl := hkept haborted
    exact hthen.aborted rotation' hmem' haborted key hkey hnew
  · intro rotation hmem rotation' hmem' hopen hopen' hid
    obtain ⟨same, hsame, hpayload, -⟩ := hrotations rotation hmem
    obtain rfl : same = rotation' := eq_of_key_eq hsame hmem'
      ((congrArg RotationPayload.rotationId hpayload).trans hid.symm)
    have hheads : ledger'.head.1 = ledger.head.1 := by
      rw [hnow.paused rotation hmem hopen, hthen.paused same hmem' hopen', hpayload]
    rw [hthen.chained.head_eq_length, hnow.chained.head_eq_length] at hheads
    exact (hsuffix.eq_of_length hheads.symm).symm

end Audit
end SpaceWorks
