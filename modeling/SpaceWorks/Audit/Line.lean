import SpaceWorks.Library.Intervals
import SpaceWorks.Audit.Deployment

/-!
# The line of signing keys

The retired keys, newest first, partition the sequences below the active key (`Line`); an open
rotation is the one the active key has pending (`Succession`).
-/

namespace SpaceWorks
namespace Audit

open Checked TransactionalSystem Table List

def Reached (rotations : Table AuditSigningKeyRotation) (key : AuditSigningKey) : Prop :=
  key.version = 1 ∨ ∃ rotation ∈ rotations,
    rotation.latestState = some .finalized ∧ rotation.payload.newFingerprint = key.fingerprint

/-- Prepared or published, and neither finalized nor aborted. -/
def AuditSigningKeyRotation.Open (rotation : AuditSigningKeyRotation) : Prop :=
  rotation.latestState = some .prepared ∨ rotation.latestState = some .published

/-- The batches, newest first, count down to 1 and chain their roots. -/
def Chained : List AuditBatch → Prop
  | [] => True
  | [batch] => batch.batchSeq = 1 ∧ batch.prevBatchRoot = none
  | batch :: previous :: batches =>
    batch.batchSeq = previous.batchSeq + 1 ∧
      batch.prevBatchRoot = some previous.merkleRoot ∧ Chained (previous :: batches)

def HandsOver (store : AnchorStore) (oldSigner newSigner : Fingerprint) : Prop :=
  ∃ transition ∈ store.transitions, transition.payload.oldFingerprint = oldSigner ∧
    transition.payload.newFingerprint = newSigner

section Lemmas

variable {key : AuditSigningKey} {batch : AuditBatch} {ledger : Ledger}
  {rotation rotation' : AuditSigningKeyRotation} {state : RotationState}

theorem AuditSigningKey.authorizes_iff {batchSeq : Nat} :
    key.authorizes batchSeq = true ↔
      Consecutive.Holds AuditSigningKey.validFromSeq AuditSigningKey.validToSeq key batchSeq := by
  unfold authorizes Consecutive.Holds
  cases key.validToSeq <;> simp

theorem Chained.tail {batch : AuditBatch} {batches : List AuditBatch}
    (h : Chained (batch :: batches)) :
    Chained batches := by
  cases batches with
  | nil => trivial
  | cons => exact h.2.2

theorem Chained.seq_le {batches : List AuditBatch} (h : Chained (batch :: batches))
    {other : AuditBatch} (hmem : other ∈ batch :: batches) :
    other.batchSeq ≤ batch.batchSeq := by
  induction batches generalizing batch with
  | nil =>
    obtain rfl : other = batch := by simpa using hmem
    exact Nat.le_refl _
  | cons _ _ ih =>
    rcases mem_cons.mp hmem with rfl | hlater
    · exact Nat.le_refl _
    · have hle := ih h.tail hlater
      have hstep := h.1
      omega

theorem Chained.seq_le_head (h : Chained ledger.batches) (hmem : batch ∈ ledger.batches) :
    batch.batchSeq ≤ ledger.head.1 := by
  unfold Ledger.head
  cases hbatches : ledger.batches with
  | nil => simp [hbatches] at hmem
  | cons =>
    rw [hbatches] at h hmem
    exact h.seq_le hmem

theorem Ledger.activeKey_eq_some (h : ledger.activeKey = some key) :
    key ∈ ledger.keys ∧ key.isActive = true :=
  ⟨mem_of_find?_eq_some h, by simpa using find?_some h⟩

theorem Ledger.activeKey_eq_none (h : ledger.activeKey = none) (hkey : key ∈ ledger.keys) :
    key.isActive = false := by
  simpa using find?_eq_none.mp h key hkey

theorem Ledger.version_le_last (hkey : key ∈ ledger.keys) :
    key.version ≤ ledger.lastVersion := by
  have hfold : ∀ (xs : List Nat) (n : Nat), n ≤ xs.foldl max n ∧ ∀ x ∈ xs, x ≤ xs.foldl max n := by
    intro xs
    induction xs with
    | nil => simp
    | cons x _ ih =>
      intro n
      obtain ⟨_, hall⟩ := ih (max n x)
      refine ⟨by simp only [foldl_cons]; omega, ?_⟩
      intro y hy
      rcases mem_cons.mp hy with rfl | hlater
      · simp only [foldl_cons]
        omega
      · exact hall y hlater
  exact (hfold _ 0).2 _ (mem_map_of_mem hkey)

def History (states : List RotationState) : Prop :=
  states = [.prepared] ∨ states = [.prepared, .published] ∨
    states = [.prepared, .published, .finalized] ∨ states = [.prepared, .aborted]

theorem AuditSigningKeyRotation.addState_ok :
    rotation.addState state = .ok rotation' ↔
      RotationState.follows rotation.latestState state = true ∧
        rotation' = { rotation with states := rotation.states ++ [state] } := by
  simp only [addState, bind_ok, require_ok, pure_ok]
  constructor
  · rintro ⟨-, hfollows, rfl⟩
    exact ⟨hfollows, rfl⟩
  · rintro ⟨hfollows, rfl⟩
    exact ⟨⟨⟩, hfollows, rfl⟩

theorem History.addState (hhistory : History rotation.states)
    (h : rotation.addState state = .ok rotation') :
    History rotation'.states := by
  obtain ⟨hfollows, rfl⟩ := AuditSigningKeyRotation.addState_ok.mp h
  unfold AuditSigningKeyRotation.latestState at hfollows
  rcases hhistory with hs | hs | hs | hs <;> rw [hs] at hfollows <;> cases state <;>
    simp [RotationState.follows] at hfollows <;> simp [History, hs]

theorem AuditSigningKeyRotation.latestState_addState (h : rotation.addState state = .ok rotation') :
    rotation'.latestState = some state := by
  obtain ⟨-, rfl⟩ := addState_ok.mp h
  simp [latestState]

theorem AuditSigningKeyRotation.payload_addState (h : rotation.addState state = .ok rotation') :
    rotation'.payload = rotation.payload ∧ rotation'.envelope = rotation.envelope := by
  obtain ⟨-, rfl⟩ := addState_ok.mp h
  exact ⟨rfl, rfl⟩

end Lemmas

structure Line (keys : Table AuditSigningKey) (rotations : Table AuditSigningKeyRotation)
    (active : AuditSigningKey) (retired : List AuditSigningKey) : Prop where
  active_mem : active ∈ keys
  active_on : active.isActive = true
  active_open : active.validToSeq = none
  only_active : ∀ key ∈ keys, key.isActive = true → key = active
  only_pending : ∀ key ∈ keys, key.pendingRotation ≠ none → key = active
  retired_mem : ∀ key ∈ retired, key ∈ keys
  open_ended : ∀ key ∈ keys, key ∈ retired ∨ key.validToSeq = none
  partition : Consecutive.Below AuditSigningKey.validFromSeq AuditSigningKey.validToSeq
    retired active.validFromSeq
  reached : ∀ key ∈ keys, Reached rotations key ↔ key = active ∨ key ∈ retired
  versions : ∀ key ∈ keys, 1 ≤ key.version

def Bound (keys : Table AuditSigningKey) (payload : RotationPayload) : Prop :=
  ∃ oldKey ∈ keys, ∃ newKey ∈ keys,
    oldKey.fingerprint = payload.oldFingerprint ∧ newKey.fingerprint = payload.newFingerprint ∧
      oldKey.version < newKey.version ∧ newKey.validFromSeq = payload.lastOldBatchSeq + 1

def Claims (active : AuditSigningKey) (head : Nat × Digest) (payload : RotationPayload) : Prop :=
  payload.oldFingerprint = active.fingerprint ∧ active.pendingRotation = some payload.rotationId ∧
      head = (payload.lastOldBatchSeq, payload.lastOldBatchRoot)

structure Succession (keys : Table AuditSigningKey)
    (rotations : Table AuditSigningKeyRotation) (head : Nat × Digest)
    (active : AuditSigningKey) (retired : List AuditSigningKey) : Prop where
  bound : ∀ rotation ∈ rotations, Bound keys rotation.payload
  history : ∀ rotation ∈ rotations, History rotation.states
  distinct : ∀ rotation ∈ rotations, ∀ other ∈ rotations,
    rotation.payload.newFingerprint = other.payload.newFingerprint → rotation = other
  pending : ∀ rotation ∈ rotations, rotation.Open → Claims active head rotation.payload
  claimed : ∀ rotation ∈ rotations,
    active.pendingRotation = some rotation.payload.rotationId → rotation.Open
  successor : ∀ rotation ∈ rotations, ∀ other ∈ rotations,
    rotation.latestState ≠ some .aborted → other.latestState ≠ some .aborted →
      rotation.payload.oldFingerprint = other.payload.oldFingerprint → rotation = other
  finalized : ∀ rotation ∈ rotations, rotation.latestState = some .finalized →
    ∃ key ∈ retired, key.fingerprint = rotation.payload.oldFingerprint ∧
      key.validToSeq = some rotation.payload.lastOldBatchSeq

/-- A reached key with the batch in its interval signed it. -/
def Signed (keys : Table AuditSigningKey) (rotations : Table AuditSigningKeyRotation)
    (batch : AuditBatch) : Prop :=
  ∃ key ∈ keys, Reached rotations key ∧ key.fingerprint = batch.signerFingerprint ∧
    batch.signature.signer = key.fingerprint ∧ key.authorizes batch.batchSeq = true

def Recorded (rotations : Table AuditSigningKeyRotation) (transition : RotationEnvelope) :
    Prop :=
  ∃ rotation ∈ rotations, rotation.envelope = transition ∧ rotation.latestState ≠ some .aborted

structure Provisioned (ledger : Ledger) (active : AuditSigningKey)
    (retired : List AuditSigningKey) : Prop where
  line : Line ledger.keys ledger.rotations active retired
  succession : Succession ledger.keys ledger.rotations ledger.head active retired
  chained : Chained ledger.batches
  signed : ∀ batch ∈ ledger.batches, Signed ledger.keys ledger.rotations batch
  recorded : ∀ transition ∈ ledger.anchors.transitions, Recorded ledger.rotations transition

structure Unprovisioned (ledger : Ledger) : Prop where
  keys : ledger.keys = ∅
  rotations : ledger.rotations = ∅
  batches : ledger.batches = []
  transitions : ledger.anchors.transitions = []

def Governed (ledger : Ledger) : Prop :=
  Unprovisioned ledger ∨ ∃ active retired, Provisioned ledger active retired

section

variable {keys : Table AuditSigningKey} {rotations : Table AuditSigningKeyRotation}
variable {active : AuditSigningKey} {retired : List AuditSigningKey} {head : Nat × Digest}
  {key old : AuditSigningKey}

theorem Line.fingerprint_of_retired (h : Line keys rotations active retired)
    (hkey : key ∈ retired) :
    key.fingerprint ≠ active.fingerprint := by
  intro heq
  obtain rfl : key = active := eq_of_key_eq (h.retired_mem key hkey) h.active_mem heq
  obtain ⟨_, hlast, -⟩ := Consecutive.closed h.partition hkey
  exact absurd hlast (by simp [h.active_open])

theorem Line.activeKey_eq {ledger : Ledger} (h : Line ledger.keys rotations active retired)
    (hkey : ledger.activeKey = some key) :
    key = active :=
  h.only_active key (Ledger.activeKey_eq_some hkey).1 (Ledger.activeKey_eq_some hkey).2

theorem Succession.not_reached (hs : Succession keys rotations head active retired)
    (hl : Line keys rotations active retired)
    {rotation : AuditSigningKeyRotation} (hmem : rotation ∈ rotations)
    (hstate : rotation.latestState ≠ some .finalized) (hkey : key ∈ keys)
    (hnew : key.fingerprint = rotation.payload.newFingerprint) :
    ¬ Reached rotations key := by
  obtain ⟨oldKey, hold, newKey, hnewKey, -, hfp, _, -⟩ := hs.bound rotation hmem
  obtain rfl : newKey = key := eq_of_key_eq hnewKey hkey (hfp.trans hnew.symm)
  rintro (_ | ⟨other, hother, hfinal, hsame⟩)
  · have hpos := hl.versions oldKey hold
    omega
  · obtain rfl := hs.distinct other hother rotation hmem (hsame.trans hnew)
    exact hstate hfinal

theorem Line.putActive (h : Line keys rotations active retired)
    (hfp : key.fingerprint = active.fingerprint) (hversion : key.version = active.version)
    (hfrom : key.validFromSeq = active.validFromSeq) (hto : key.validToSeq = none)
    (hon : key.isActive = true) :
    Line (keys.put key) rotations key retired := by
  have hreads : ∀ {x}, x ∈ keys.put key → x = key ∨ x ∈ keys ∧ x.fingerprint ≠ key.fingerprint :=
    fun hx => mem_of_mem_put hx
  exact {
    active_mem := mem_put.mpr (.inr ⟨rfl, active, h.active_mem, hfp.symm⟩)
    active_on := hon
    active_open := hto
    only_active := by
      intro x hx hactive
      rcases hreads hx with rfl | ⟨hold, hne⟩
      · rfl
      · exact absurd (h.only_active x hold hactive ▸ hfp.symm) hne
    only_pending := by
      intro x hx hpending
      rcases hreads hx with rfl | ⟨hold, hne⟩
      · rfl
      · exact absurd (h.only_pending x hold hpending ▸ hfp.symm) hne
    retired_mem := by
      intro x hx
      refine mem_put.mpr (.inl ⟨h.retired_mem x hx, ?_⟩)
      exact fun heq => h.fingerprint_of_retired hx (heq.trans hfp)
    open_ended := by
      intro x hx
      rcases hreads hx with rfl | ⟨hold, -⟩
      · exact .inr hto
      · exact h.open_ended x hold
    partition := by
      rw [hfrom]
      exact h.partition
    reached := by
      intro x hx
      rcases hreads hx with rfl | ⟨hold, hne⟩
      · have hactive := (h.reached active h.active_mem).mpr (.inl rfl)
        unfold Reached at hactive ⊢
        rw [hfp, hversion]
        simpa using hactive
      · rw [h.reached x hold]
        constructor
        · rintro (rfl | hretired)
          · exact absurd hfp.symm hne
          · exact .inr hretired
        · rintro (rfl | hretired)
          · exact absurd rfl hne
          · exact .inr hretired
    versions := by
      intro x hx
      rcases hreads hx with rfl | ⟨hold, -⟩
      · rw [hversion]
        exact h.versions active h.active_mem
      · exact h.versions x hold }

def SameAuthority (key other : AuditSigningKey) : Prop :=
  key.fingerprint = other.fingerprint ∧ key.version = other.version ∧
    key.validFromSeq = other.validFromSeq

theorem bound_put (hold : old ∈ keys) (hsame : SameAuthority key old)
    {payload : RotationPayload} (h : Bound keys payload) :
    Bound (keys.put key) payload := by
  have hkept : ∀ x ∈ keys, ∃ x' ∈ keys.put key, SameAuthority x' x := by
    intro x hx
    by_cases hfp : x.fingerprint = key.fingerprint
    · obtain rfl : x = old := eq_of_key_eq hx hold (hfp.trans hsame.1)
      exact ⟨key, mem_put.mpr (.inr ⟨rfl, x, hx, hfp⟩), hsame⟩
    · exact ⟨x, mem_put.mpr (.inl ⟨hx, hfp⟩), rfl, rfl, rfl⟩
  obtain ⟨oldKey, holdKey, newKey, hnewKey, h₁, h₂, h₃, h₄⟩ := h
  obtain ⟨oldKey', holdKey', hsame₁⟩ := hkept oldKey holdKey
  obtain ⟨newKey', hnewKey', hsame₂⟩ := hkept newKey hnewKey
  refine ⟨oldKey', holdKey', newKey', hnewKey', hsame₁.1.trans h₁, hsame₂.1.trans h₂, ?_, ?_⟩
  · rw [hsame₁.2.1, hsame₂.2.1]
    exact h₃
  · rw [hsame₂.2.2]
    exact h₄

theorem signed_put (hold : old ∈ keys) (hsame : SameAuthority key old) {batch : AuditBatch}
    (hto : old.authorizes batch.batchSeq = true → key.authorizes batch.batchSeq = true)
    (h : Signed keys rotations batch) :
    Signed (keys.put key) rotations batch := by
  obtain ⟨signer, hsigner, hreached, hfp, hsig, hauth⟩ := h
  by_cases heq : signer.fingerprint = key.fingerprint
  · obtain rfl : signer = old := eq_of_key_eq hsigner hold (heq.trans hsame.1)
    refine ⟨key, mem_put.mpr (.inr ⟨rfl, signer, hsigner, heq⟩), ?_,
      heq ▸ hfp, heq ▸ hsig, hto hauth⟩
    unfold Reached at hreached ⊢
    rw [hsame.1, hsame.2.1]
    exact hreached
  · exact ⟨signer, mem_put.mpr (.inl ⟨hsigner, heq⟩), hreached, hfp, hsig, hauth⟩

theorem AuditSigningKey.authorizes_congr {other : AuditSigningKey} {batchSeq : Nat}
    (hfrom : key.validFromSeq = other.validFromSeq) (hto : key.validToSeq = other.validToSeq) :
    key.authorizes batchSeq = other.authorizes batchSeq := by
  unfold authorizes
  rw [hfrom, hto]

variable {H : Hashes} {log : List AuditLog} {ledger ledger' : Ledger} {store store' : AnchorStore}
variable {key : AuditSigningKey} {rotation : AuditSigningKeyRotation} {fingerprint : Fingerprint}
variable {now : Instant} {batch : AuditBatch}

theorem AnchorStore.publish_transitions {envelope : AnchorEnvelope}
    (h : store.publish envelope = .ok store') :
    store'.transitions = store.transitions := by
  unfold publish at h
  split at h
  · simp only [bind_ok, require_ok, pure_ok] at h
    obtain ⟨-, -, rfl⟩ := h
    rfl
  · simp only [bind_ok] at h
    obtain ⟨_, -, h⟩ := h
    split at h
    all_goals
      simp only [bind_ok] at h
      obtain ⟨-, -, h⟩ := h
      simp only [pure_ok] at h
    · obtain ⟨-, -, -, -, -, -, -, -, rfl⟩ := h
      rfl
    · obtain ⟨-, -, -, -, -, -, rfl⟩ := h
      rfl

theorem AnchorStore.publishRotation_transitions {envelope : RotationEnvelope}
    (h : store.publishRotation envelope = .ok store') :
    store'.objects = store.objects ∧
      (envelope ∈ store.transitions ∧ store'.transitions = store.transitions ∨
        store'.transitions = envelope :: store.transitions) := by
  unfold publishRotation at h
  dsimp only at h
  split at h
  · rename_i existing hfound
    simp at h
    obtain ⟨rfl, rfl⟩ := h
    exact ⟨rfl, .inl ⟨mem_of_find?_eq_some hfound, rfl⟩⟩
  · simp at h
    obtain ⟨-, -, -, -, rfl⟩ := h
    exact ⟨rfl, .inr rfl⟩

theorem Governed.same (h : Governed ledger) (hkeys : ledger'.keys = ledger.keys)
    (hrotations : ledger'.rotations = ledger.rotations)
    (hbatches : ledger'.batches = ledger.batches)
    (htransitions : ledger'.anchors.transitions = ledger.anchors.transitions) :
    Governed ledger' := by
  rcases h with h | ⟨active, retired, h⟩
  · exact .inl ⟨hkeys ▸ h.keys, hrotations ▸ h.rotations, hbatches ▸ h.batches,
      htransitions ▸ h.transitions⟩
  · have hhead : ledger'.head = ledger.head := by
      unfold Ledger.head
      rw [hbatches]
    refine .inr ⟨active, retired, ?_⟩
    exact {
      line := by rw [hkeys, hrotations]; exact h.line
      succession := by rw [hkeys, hrotations, hhead]; exact h.succession
      chained := by rw [hbatches]; exact h.chained
      signed := by rw [hkeys, hrotations, hbatches]; exact h.signed
      recorded := by rw [hrotations, htransitions]; exact h.recorded }

theorem Provisioned.activeKey
    (h : Provisioned ledger active retired) : ledger.activeKey = some active := by
  cases hactive : ledger.activeKey with
  | none => exact absurd h.line.active_on (by simp [Ledger.activeKey_eq_none hactive
      h.line.active_mem])
  | some => rw [h.line.activeKey_eq hactive]

theorem Unprovisioned.activeKey (h : Unprovisioned ledger) : ledger.activeKey = none := by
  unfold Ledger.activeKey
  rw [h.keys]
  rfl

theorem Governed.activated (h : Governed ledger) (hkey : ledger.activeKey = some key) :
    ∃ retired, Provisioned ledger key retired := by
  rcases h with h | ⟨_, retired, h⟩
  · rw [h.activeKey] at hkey
    simp at hkey
  · obtain rfl := h.line.activeKey_eq hkey
    exact ⟨retired, h⟩

theorem Governed.provisioned (h : Governed ledger) (hmem : rotation ∈ ledger.rotations) :
    ∃ active retired, Provisioned ledger active retired := by
  rcases h with h | h
  · rw [h.rotations] at hmem
    exact absurd hmem (notMem_empty _)
  · exact h

theorem Unprovisioned.addKey (h : Unprovisioned ledger)
    {first : AuditSigningKey} (habsent : ledger.keys.get? (Keyed.key first) = none)
    (hversion : first.version = 1) (hfrom : first.validFromSeq = 0) (hto : first.validToSeq = none)
    (hon : first.isActive = true) :
    Provisioned { ledger with keys := ledger.keys.insert first habsent } first [] := by
  have honly : ∀ key ∈ ledger.keys.insert first habsent, key = first := by
    intro key hkey
    rw [mem_insert, h.keys] at hkey
    exact hkey.resolve_left (notMem_empty _)
  exact {
    line := {
      active_mem := by
        rw [mem_insert]
        exact .inr rfl
      active_on := hon
      active_open := hto
      only_active := fun key hkey _ => honly key hkey
      only_pending := fun key hkey _ => honly key hkey
      retired_mem := by simp
      open_ended := by
        intro key hkey
        rw [honly key hkey]
        exact .inr hto
      partition := hfrom
      reached := by
        intro key hkey
        obtain rfl := honly key hkey
        exact ⟨fun _ => .inl rfl, fun _ => .inl hversion⟩
      versions := by
        intro key hkey
        rw [honly key hkey, hversion] }
    succession := by
      rw [h.rotations]
      constructor <;> intro rotation hmem <;> exact absurd hmem (notMem_empty _)
    chained := by
      rw [h.batches]
      trivial
    signed := by simp [h.batches]
    recorded := by simp [h.transitions] }

theorem Governed.provision (h : Governed ledger)
    (hstep : ledger.provision H log fingerprint now = .ok ledger') :
    Governed ledger' := by
  unfold Ledger.provision at hstep
  split at hstep
  · simp at hstep
    obtain ⟨-, -, rfl⟩ := hstep
    exact h
  · rename_i hnone
    simp only [bind_ok, pure_ok, insertNew_ok] at hstep
    obtain ⟨-, -, -, -, -, -, -, ⟨habsent, rfl⟩, rfl⟩ := hstep
    rcases h with h | ⟨_, _, h⟩
    · exact .inr ⟨_, [], h.addKey habsent rfl rfl rfl rfl⟩
    · rw [h.activeKey] at hnone
      simp at hnone

theorem Governed.anchorActivation
    (h : Governed ledger) (hstep : ledger.anchorActivation H log = .ok ledger') :
    Governed ledger' ∧ ledger'.keys = ledger.keys := by
  simp only [Ledger.anchorActivation, bind_ok, pure_ok, mapError_eq_ok] at hstep
  obtain ⟨-, -, -, -, -, -, -, -, -, -, -, -, -, -, -, -, _, -, _, hpublish, rfl⟩ := hstep
  exact ⟨h.same rfl rfl rfl (AnchorStore.publish_transitions hpublish), rfl⟩

theorem Provisioned.putActive (h : Provisioned ledger active retired)
    (hsame : SameAuthority key active) (hto : key.validToSeq = none) (hon : key.isActive = true)
    (hpending : key.pendingRotation = active.pendingRotation) :
    Provisioned { ledger with keys := ledger.keys.put key } key retired where
  line := h.line.putActive hsame.1 hsame.2.1 hsame.2.2 hto hon
  succession :=
    { h.succession with
      bound := fun rotation hmem =>
        bound_put h.line.active_mem hsame (h.succession.bound rotation hmem)
      pending := by
        intro rotation hmem hopen
        unfold Claims
        rw [hsame.1, hpending]
        exact h.succession.pending rotation hmem hopen
      claimed := by
        rw [hpending]
        exact h.succession.claimed }
  chained := h.chained
  signed := by
    intro batch hmem
    refine signed_put h.line.active_mem hsame ?_ (h.signed batch hmem)
    rw [AuditSigningKey.authorizes_congr hsame.2.2 (hto.trans h.line.active_open.symm)]
    exact id
  recorded := h.recorded

theorem Governed.activate (h : Governed ledger)
    (hstep : ledger.activate H log fingerprint now = .ok ledger') :
    Governed ledger' := by
  simp [Ledger.activate] at hstep
  obtain ⟨_, hprovision, key, hkey, hstep⟩ := hstep
  have hgoverned := h.provision hprovision
  split at hstep
  · simp at hstep
    obtain ⟨-, -, rfl⟩ := hstep
    exact hgoverned
  · simp at hstep
    obtain ⟨anchored, hanchor, rfl⟩ := hstep
    obtain ⟨hanchored, hkeys⟩ := hgoverned.anchorActivation hanchor
    have hkey' : anchored.activeKey = some key := by
      unfold Ledger.activeKey
      rw [hkeys]
      exact hkey
    obtain ⟨retired, hp⟩ := hanchored.activated hkey'
    exact .inr ⟨_, retired, hp.putActive ⟨rfl, rfl, rfl⟩ hp.line.active_open hp.line.active_on rfl⟩

theorem Provisioned.no_open (h : Provisioned ledger active retired)
    (hnone : active.pendingRotation = none) (hmem : rotation ∈ ledger.rotations) :
    ¬ rotation.Open := by
  intro hopen
  have hpending := (h.succession.pending rotation hmem hopen).2.1
  rw [hnone] at hpending
  simp at hpending

theorem Provisioned.addBatch (h : Provisioned ledger active retired)
    (hnone : active.pendingRotation = none) (hseq : batch.batchSeq = match ledger.batches.head? with
      | some previous => previous.batchSeq + 1
      | none => 1) (hprev : batch.prevBatchRoot = ledger.batches.head?.map (·.merkleRoot))
    (hauth : active.authorizes batch.batchSeq = true)
    (hsigner : batch.signerFingerprint = active.fingerprint)
    (hsignature : batch.signature.signer = active.fingerprint) :
    Provisioned { ledger with batches := batch :: ledger.batches } active retired where
  line := h.line
  succession :=
    { h.succession with pending := fun rotation hmem hopen => absurd hopen (h.no_open hnone hmem) }
  chained := by
    have hchained := h.chained
    cases hbatches : ledger.batches with
    | nil =>
      rw [hbatches] at hseq hprev
      exact ⟨hseq, hprev⟩
    | cons =>
      rw [hbatches] at hseq hprev hchained
      exact ⟨hseq, hprev, hchained⟩
  signed := by
    intro other hmem
    rcases mem_cons.mp hmem with rfl | hlater
    · exact ⟨active, h.line.active_mem, (h.line.reached active h.line.active_mem).mpr (.inl rfl),
        hsigner.symm, hsignature, hauth⟩
    · exact h.signed other hlater
  recorded := h.recorded

theorem Governed.sealScope {signingKey : AuditSigningKey} (h : Governed ledger)
    (hstep : ledger.sealScope H log signingKey now = .ok ledger') :
    Governed ledger' := by
  simp only [Ledger.sealScope, bind_ok, require_ok, orRefuse_ok] at hstep
  obtain ⟨-, -, active, hactive, -, -, -, hnone, hstep⟩ := hstep
  obtain ⟨retired, hp⟩ := h.activated hactive
  split at hstep
  · obtain rfl : ledger = ledger' := by simpa using hstep
    exact h
  · simp only [bind_ok, require_ok, pure_ok] at hstep
    obtain ⟨-, hauth, -, -, rfl⟩ := hstep
    exact .inr ⟨active, retired, hp.addBatch hnone rfl rfl hauth rfl rfl⟩

theorem Governed.anchorBatch
    (h : Governed ledger) (hstep : ledger.anchorBatch log batch = .ok ledger') :
    Governed ledger' := by
  simp only [Ledger.anchorBatch, bind_ok, pure_ok, mapError_eq_ok] at hstep
  obtain ⟨-, -, _, -, _, hpublish, rfl⟩ := hstep
  exact h.same rfl rfl rfl (AnchorStore.publish_transitions hpublish)

end

end Audit
end SpaceWorks
