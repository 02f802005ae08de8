import SpaceWorks.Audit.Authority

/-!
# What the anchor store has

In an untampered deployment the store has the activation and a beginning of the batches
(`Published`), with the members of their rows (`Sealed`), and row MACs cover their content
(`LogSound`).
-/

namespace SpaceWorks
namespace Audit

open Checked TransactionalSystem Table List Option

section Envelopes

variable {log : List AuditLog} {scope : Scope} {batch : AuditBatch}

def AuditBatch.sealedEnvelope (batch : AuditBatch) : AnchorEnvelope where
  payload := batch.signature.message
  signature := batch.signature
  publicKey := batch.signature.signer

theorem Signature.verifies_iff
    {α : Type} [DecidableEq α] {signature : Signature α} {message : α} {publicKey : Fingerprint} :
    signature.verifies message publicKey = true ↔
      signature = { signer := publicKey, message := message } := by
  simp [verifies]

structure Sealed (log : List AuditLog) (scope : Scope) (batch : AuditBatch) : Prop where
  covers : ∃ rows leaves protocol,
    orderedRows log batch = some rows ∧ rows.mapM (·.member) = some leaves ∧
      batch.leaves = rows.zipIdx.map (fun leaf => ⟨leaf.1.pk, leaf.2⟩) ∧
        batch.leafCount = rows.length ∧
          batch.signature = Signature.mk batch.signerFingerprint (.batch (BatchPayload.mk
            scope batch.batchSeq leaves.length leaves batch.merkleRoot batch.prevBatchRoot
            batch.createdAt batch.signerFingerprint protocol))

theorem Sealed.seq (h : Sealed log scope batch) :
    batch.sealedEnvelope.seq = batch.batchSeq := by
  obtain ⟨_, _, _, -, -, -, -, hsignature⟩ := h.covers
  simp [AuditBatch.sealedEnvelope, hsignature, AnchorEnvelope.seq, AnchorPayload.batchSeq]

theorem Sealed.signer (h : Sealed log scope batch) :
    batch.sealedEnvelope.signer = batch.signerFingerprint := by
  obtain ⟨_, _, _, -, -, -, -, hsignature⟩ := h.covers
  simp [AuditBatch.sealedEnvelope, hsignature, AnchorEnvelope.signer,
    AnchorPayload.signerFingerprint]

theorem Ledger.batchEnvelope_ok {ledger : Ledger} {envelope : AnchorEnvelope}
    (h : ledger.batchEnvelope log batch = .ok envelope) :
    ∃ key rows leaves, ledger.keys.get? batch.signerFingerprint = some key ∧
      orderedRows log batch = some rows ∧ rows.mapM (·.member) = some leaves ∧
        batch.signature = Signature.mk batch.signerFingerprint (.batch (batchPayload ledger.scope
          key batch.batchSeq leaves batch.merkleRoot batch.prevBatchRoot batch.createdAt
          batch.signerFingerprint)) ∧ envelope = batch.sealedEnvelope := by
  simp only [batchEnvelope, bind_ok, require_ok, orRefuse_ok, pure_ok] at h
  obtain ⟨key, hkey, rows, hrows, leaves, hleaves, -, -, -, hverifies, rfl⟩ := h
  have hsignature := Signature.verifies_iff.mp hverifies
  have hfp : key.fingerprint = batch.signerFingerprint := key_of_get? hkey
  refine ⟨key, rows, leaves, hkey, hrows, hleaves, hfp ▸ hsignature, ?_⟩
  simp [AuditBatch.sealedEnvelope, hsignature]

end Envelopes

theorem latestObject_eq_none {objects : List AnchorEnvelope} :
    latestObject objects = none ↔ objects = [] := by
  cases objects with
  | nil => simp [latestObject]
  | cons =>
    simp only [latestObject, reduceCtorEq, iff_false]
    split
    · simp
    · split <;> simp

theorem latestObject_eq_some {objects : List AnchorEnvelope} {latest : AnchorEnvelope}
    (h : latestObject objects = some latest) :
    latest ∈ objects ∧ ∀ object ∈ objects, object.seq ≤ latest.seq := by
  induction objects generalizing latest with
  | nil => simp [latestObject] at h
  | cons object _ ih =>
    rw [latestObject] at h
    split at h
    · rename_i hnone
      obtain rfl := latestObject_eq_none.mp hnone
      obtain rfl : object = latest := by simpa using h
      simp
    · rename_i rest hrest
      obtain ⟨hmem, hmax⟩ := ih hrest
      split at h
      · rename_i hbefore
        obtain rfl : rest = latest := by simpa using h
        refine ⟨by simp [hmem], ?_⟩
        intro other hother
        rcases mem_cons.mp hother with rfl | hlater
        · rcases hbefore with _ | ⟨_, -⟩ <;> omega
        · exact hmax other hlater
      · rename_i hbefore
        obtain rfl : object = latest := by simpa using h
        refine ⟨by simp, ?_⟩
        intro other hother
        rcases mem_cons.mp hother with rfl | hlater
        · exact Nat.le_refl _
        · have hle := hmax other hlater
          have hnot : ¬ object.seq < rest.seq := fun hlt => hbefore (.inl hlt)
          omega

theorem collectTransitions_mem {root : Digest} {found handovers : List (Fingerprint × Fingerprint)}
    {transitions : List RotationPayload}
    (h : collectTransitions root found transitions = .ok handovers)
    {handover : Fingerprint × Fingerprint} (hmem : handover ∈ handovers) :
    handover ∈ found ∨ ∃ transition ∈ transitions,
      handover = (transition.oldFingerprint, transition.newFingerprint) := by
  induction transitions generalizing found with
  | nil =>
    obtain rfl : found = handovers := by simpa [collectTransitions] using h
    exact .inl hmem
  | cons transition _ ih =>
    simp only [collectTransitions, bind_ok, require_ok] at h
    obtain ⟨-, -, -, -, hrest⟩ := h
    rcases ih hrest with hfound | ⟨other, hother, rfl⟩
    · rcases mem_cons.mp hfound with rfl | hfound
      · exact .inr ⟨transition, by simp, rfl⟩
      · exact .inl hfound
    · exact .inr ⟨other, by simp [hother], rfl⟩

theorem followTransitions_from
    {handovers : List (Fingerprint × Fingerprint)} {visited : List Fingerprint}
    {signer last : Fingerprint} (h : followTransitions handovers visited signer = .ok last) :
    last = signer ∨ ∃ oldSigner, (oldSigner, last) ∈ handovers := by
  fun_induction followTransitions handovers visited signer with
  | case1 => exact .inl (by simpa using h.symm)
  | case2 => simp at h
  | case3 _ signer _ hfound _ ih =>
    rcases ih h with rfl | hlater
    · obtain ⟨_, _, hsplit, -⟩ := List.lookup_eq_some_iff.mp hfound
      exact .inr ⟨signer, by simp [hsplit]⟩
    · exact .inr hlater

theorem AnchorStore.scopeHead_ok
    {store : AnchorStore} {head : Option ScopeHead} (h : store.scopeHead = .ok head) :
    match head with
    | none => store.objects = []
    | some current => ∃ latest, latestObject store.objects = some latest ∧
        current.seq = latest.seq ∧ current.root = latest.payload.root ∧
          (current.signer = latest.signer ∨ ∃ transition ∈ store.transitions,
            transition.payload.newFingerprint = current.signer) := by
  unfold scopeHead at h
  split at h
  · rename_i hnone
    obtain rfl : none = head := by simpa using h
    exact latestObject_eq_none.mp hnone
  · rename_i latest hlatest
    simp at h
    obtain ⟨_, hcollect, _, hfollow, rfl⟩ := h
    refine ⟨latest, hlatest, rfl, rfl, ?_⟩
    rcases followTransitions_from hfollow with hsame | ⟨_, hmem⟩
    · exact .inl hsame
    · rcases collectTransitions_mem hcollect hmem with hnil | ⟨_, hpayload, heq⟩
      · simp at hnil
      · simp at hpayload
        obtain ⟨⟨transition, htransition, rfl⟩, -⟩ := hpayload
        exact .inr ⟨transition, htransition, (congrArg Prod.snd heq).symm⟩

theorem AnchorStore.publish_ok {store store' : AnchorStore} {envelope : AnchorEnvelope}
    (h : store.publish envelope = .ok store') :
    store' = store ∨ store' = { store with objects := envelope :: store.objects } ∧
        ∃ head, store.scopeHead = .ok head ∧
          (envelope.payload.protocol = 2 → envelope.seq = following (head.map (·.seq))) ∧
          (envelope.payload.protocol ≠ 2 → (∀ current ∈ head, current.signer = envelope.signer) ∧
              envelope.seq = following (store.latestSequence envelope.signer)) := by
  unfold publish at h
  split at h
  · simp at h
    obtain ⟨-, -, rfl⟩ := h
    exact .inl rfl
  · simp only [bind_ok] at h
    obtain ⟨head, hhead, h⟩ := h
    split at h
    · rename_i hprotocol
      simp only [bind_ok, require_ok, pure_ok] at h
      obtain ⟨-, hseq, -, -, -, -, -, -, -, -, rfl⟩ := h
      exact .inr ⟨rfl, head, hhead, fun _ => hseq, fun hne => absurd hprotocol hne⟩
    · rename_i hprotocol
      simp only [bind_ok, require_ok, pure_ok] at h
      obtain ⟨-, hsigner, -, -, -, -, -, hgap, rfl⟩ := h
      exact .inr ⟨rfl, head, hhead, fun heq => absurd heq hprotocol,
        fun _ => ⟨hsigner, hgap hprotocol⟩⟩

section

variable {log : List AuditLog} {ledger ledger' : Ledger}
  {batches anchored : List AuditBatch} {activations : List AnchorEnvelope}
  {latest : AnchorEnvelope} {key : AuditSigningKey}
  {envelope : AnchorEnvelope} {batch : AuditBatch} {rows : List AuditLog}

structure Published (ledger : Ledger) (anchored : List AuditBatch)
    (activations : List AnchorEnvelope) : Prop where
  anchored_suffix : anchored <:+ ledger.batches
  objects : ledger.anchors.objects = anchored.map (·.sealedEnvelope) ++ activations
  activation : ∀ object ∈ activations, ∃ payload, object.payload = .activation payload

theorem Chained.suffix (h : Chained batches) (hsuffix : anchored <:+ batches) :
    Chained anchored := by
  induction batches with
  | nil =>
    obtain rfl := suffix_nil.mp hsuffix
    exact h
  | cons _ _ ih =>
    rcases suffix_cons_iff.mp hsuffix with rfl | hlater
    · exact h
    · exact ih h.tail hlater

theorem Published.latest_seq (h : Published ledger anchored activations)
    (hchained : Chained ledger.batches)
    (hsealed : ∀ batch ∈ ledger.batches, Sealed log ledger.scope batch)
    (hlatest : latestObject ledger.anchors.objects = some latest) :
    latest.seq = anchored.length := by
  obtain ⟨hmem, hmax⟩ := latestObject_eq_some hlatest
  have hseq : ∀ batch ∈ anchored, batch.sealedEnvelope.seq = batch.batchSeq := fun batch hbatch =>
    (hsealed batch (h.anchored_suffix.subset hbatch)).seq
  have hobject : ∀ object ∈ ledger.anchors.objects, object.seq ≤ anchored.length := by
    intro object hobject
    rw [h.objects, mem_append] at hobject
    rcases hobject with hbatch | hact
    · obtain ⟨batch, hmem, rfl⟩ := List.mem_map.mp hbatch
      rw [hseq batch hmem]
      have hanchored := hchained.suffix h.anchored_suffix
      cases hlist : anchored with
      | nil => simp [hlist] at hmem
      | cons =>
        rw [hlist] at hmem hanchored
        have hle := hanchored.seq_le hmem
        have hfirst := hanchored.seq_eq_length
        simp only [length_cons]
        omega
    · obtain ⟨_, hpayload⟩ := h.activation object hact
      simp [AnchorEnvelope.seq, hpayload, AnchorPayload.batchSeq]
  refine Nat.le_antisymm (hobject latest hmem) ?_
  cases hlist : anchored with
  | nil => simp
  | cons first =>
    have hfirst : first.sealedEnvelope ∈ ledger.anchors.objects := by
      rw [h.objects, hlist]
      simp
    have hle := hmax _ hfirst
    have hanchored := hchained.suffix h.anchored_suffix
    rw [hlist] at hanchored
    rw [hseq first (by simp [hlist]), hanchored.seq_eq_length] at hle
    exact hle

theorem Governed.genesis_head (h : Governed ledger) (hkey : key ∈ ledger.keys)
    (hversion : key.version ≤ 1) {current : ScopeHead}
    (hcurrent : current.signer = latest.signer ∨ ∃ transition ∈ ledger.anchors.transitions,
      transition.payload.newFingerprint = current.signer)
    (hsigner : current.signer = key.fingerprint) :
    latest.signer = key.fingerprint := by
  rcases hcurrent with hsame | ⟨transition, hmem, hnew⟩
  · exact hsame.symm.trans hsigner
  · rcases h with h | ⟨_, _, h⟩
    · rw [h.transitions] at hmem
      simp at hmem
    · obtain ⟨rotation, hrotation, rfl, -⟩ := h.recorded transition hmem
      obtain ⟨oldKey, hold, newKey, hnewKey, -, hnewFp, _, -⟩ := h.succession.bound rotation
        hrotation
      have hpos := h.line.versions oldKey hold
      obtain rfl : newKey = key := eq_of_key_eq hnewKey hkey (hnewFp.trans (hnew.trans hsigner))
      omega

theorem AnchorStore.latestSequence_eq {store : AnchorStore}
    (hlatest : latestObject store.objects = some latest) :
    store.latestSequence latest.signer = some latest.seq := by
  obtain ⟨hmem, hmax⟩ := latestObject_eq_some hlatest
  unfold latestSequence
  rw [List.max?_eq_some_iff]
  refine ⟨List.mem_map.mpr ⟨latest, by simpa using hmem, rfl⟩, ?_⟩
  intro seq hseq
  obtain ⟨object, hobject, rfl⟩ := List.mem_map.mp hseq
  exact hmax object (mem_filter.mp hobject).1

theorem Published.next_seq (h : Published ledger anchored activations) (hgoverned : Governed ledger)
    (hchained : Chained ledger.batches)
    (hsealed : ∀ batch ∈ ledger.batches, Sealed log ledger.scope batch) (hkey : key ∈ ledger.keys)
    (hsigner : envelope.signer = key.fingerprint)
    (hprotocol : envelope.payload.protocol ≠ 2 → key.version ≤ 1)
    {head : Option ScopeHead} (hhead : ledger.anchors.scopeHead = .ok head)
    (hsecond : envelope.payload.protocol = 2 → envelope.seq = following (head.map (·.seq)))
    (hfirst : envelope.payload.protocol ≠ 2 → (∀ current ∈ head, current.signer = envelope.signer) ∧
        envelope.seq = following (ledger.anchors.latestSequence envelope.signer)) :
    ledger.anchors.objects = [] ∧ envelope.seq = 0 ∨ envelope.seq = anchored.length + 1 := by
  have hcases := AnchorStore.scopeHead_ok hhead
  cases head with
  | none =>
    refine .inl ⟨hcases, ?_⟩
    by_cases hp : envelope.payload.protocol = 2
    · exact hsecond hp
    · rw [(hfirst hp).2]
      simp [AnchorStore.latestSequence, hcases, following]
  | some current =>
    obtain ⟨_, hlatest, hseq, -, hcurrent⟩ := hcases
    have hlength := h.latest_seq hchained hsealed hlatest
    refine .inr ?_
    by_cases hp : envelope.payload.protocol = 2
    · rw [hsecond hp]
      simp [following, hseq, hlength]
    · obtain ⟨hsame, hgap⟩ := hfirst hp
      have hlatestSigner := hgoverned.genesis_head hkey (hprotocol hp) hcurrent
        ((hsame current rfl).trans hsigner)
      rw [hgap, hsigner, ← hlatestSigner, AnchorStore.latestSequence_eq hlatest, hlength]
      rfl

theorem Chained.next_anchored (h : Chained batches) (hsuffix : anchored <:+ batches)
    (hmem : batch ∈ batches) (hseq : batch.batchSeq = anchored.length + 1) :
    batch :: anchored <:+ batches := by
  obtain ⟨before, after, rfl⟩ := append_of_mem hmem
  have hlater : batch :: after <:+ before ++ batch :: after := suffix_append _ _
  have hlength := (h.suffix hlater).seq_eq_length
  have hafter : after <:+ before ++ batch :: after := (suffix_cons _ _).trans hlater
  have heq : anchored.length = after.length := by omega
  have hsame : anchored = after :=
    (suffix_of_suffix_length_le hsuffix hafter (by omega)).eq_of_length heq
  rw [hsame]
  exact hlater

variable {scope : Scope}

theorem find_pk (hnodup : (log.map (·.pk)).Nodup) {row : AuditLog} (hmem : row ∈ log) :
    log.find? (·.pk = row.pk) = some row := by
  induction log with
  | nil => cases hmem
  | cons first _ ih =>
    obtain ⟨hfresh, hrest⟩ := nodup_cons.mp hnodup
    rcases mem_cons.mp hmem with rfl | hlater
    · simp
    · have hne : first.pk ≠ row.pk := by
        intro heq
        exact hfresh (List.mem_map.mpr ⟨row, hlater, heq.symm⟩)
      rw [List.find?_cons_of_neg (by simpa using hne)]
      exact ih hrest hlater

theorem orderedRows_append
    {more : List AuditLog} (h : orderedRows log batch = some rows) :
    orderedRows (log ++ more) batch = some rows := by
  unfold orderedRows at h ⊢
  generalize batch.leaves = leaves at h ⊢
  induction leaves generalizing rows with
  | nil => exact h
  | cons _ _ ih =>
    simp only [mapM_cons, bind_eq_bind, bind_eq_some_iff, Option.pure_def, some.injEq] at h ⊢
    obtain ⟨row, hrow, rest, hrest, rfl⟩ := h
    exact ⟨row, by simp [hrow], rest, ih hrest, rfl⟩

theorem Sealed.append (h : Sealed log scope batch) (more : List AuditLog) :
    Sealed (log ++ more) scope batch := by
  obtain ⟨rows, leaves, protocol, hrows, hrest⟩ := h.covers
  exact ⟨rows, leaves, protocol, orderedRows_append hrows, hrest⟩

theorem mapM_member (h : ∀ row ∈ rows, row.member.isSome = true) :
    rows.mapM (·.member) = some (rows.filterMap (·.member)) := by
  induction rows with
  | nil => rfl
  | cons row _ ih =>
    obtain ⟨_, hmember⟩ := isSome_iff_exists.mp (h row (by simp))
    rw [mapM_cons, ih fun other hother => h other (by simp [hother])]
    simp [hmember]

theorem mapM_find (h : ∀ row ∈ rows, log.find? (·.pk = row.pk) = some row)
    (start : Nat) :
    ((rows.zipIdx start).map fun leaf => AuditBatchLeaf.mk leaf.1.pk leaf.2).mapM
      (fun leaf => log.find? (·.pk = leaf.auditLogId)) = some rows := by
  induction rows generalizing start with
  | nil => rfl
  | cons row _ ih =>
    rw [zipIdx_cons, map_cons, mapM_cons,
      ih (fun other hother => h other (by simp [hother])), h row (by simp)]
    rfl

variable {H : Hashes} {fingerprint : Fingerprint} {now : Instant} {request : ScopeRequest}

structure Attested (log : List AuditLog) (ledger : Ledger) : Prop where
  governed : Governed ledger
  sealed_batches : ∀ batch ∈ ledger.batches, Sealed log ledger.scope batch
  published : ∃ anchored activations, Published ledger anchored activations

theorem Governed.chained (h : Governed ledger) : Chained ledger.batches := by
  rcases h with h | ⟨_, _, h⟩
  · rw [h.batches]
    trivial
  · exact h.chained

theorem Attested.same (h : Attested log ledger) (hgoverned : Governed ledger')
    (hscope : ledger'.scope = ledger.scope) (hbatches : ledger'.batches = ledger.batches)
    (hobjects : ledger'.anchors.objects = ledger.anchors.objects) :
    Attested log ledger' := by
  obtain ⟨anchored, activations, hp⟩ := h.published
  refine ⟨hgoverned, by rw [hbatches, hscope]; exact h.sealed_batches, anchored, activations, ?_⟩
  exact ⟨hbatches ▸ hp.anchored_suffix, hobjects ▸ hp.objects, hp.activation⟩

theorem Attested.publish (h : Attested log ledger)
    {key : AuditSigningKey} (hkey : key ∈ ledger.keys)
    (hsigner : envelope.signer = key.fingerprint)
    (hprotocol : envelope.payload.protocol ≠ 2 → key.version ≤ 1)
    (hkind : (∃ payload, envelope.payload = .activation payload) ∨
      ∃ batch ∈ ledger.batches, envelope = batch.sealedEnvelope)
    {anchors : AnchorStore} (hpublish : ledger.anchors.publish envelope = .ok anchors) :
    ∃ anchored activations, Published { ledger with anchors := anchors } anchored activations := by
  obtain ⟨anchored, activations, hp⟩ := h.published
  rcases AnchorStore.publish_ok hpublish with rfl | ⟨rfl, _, hhead, hsecond, hfirst⟩
  · exact ⟨anchored, activations, hp.anchored_suffix, hp.objects, hp.activation⟩
  · have hnext := hp.next_seq h.governed h.governed.chained h.sealed_batches hkey hsigner hprotocol
      hhead hsecond hfirst
    rcases hkind with ⟨payload, hpayload⟩ | ⟨batch, hbatch, rfl⟩
    · have hzero : envelope.seq = 0 := by
        simp [AnchorEnvelope.seq, hpayload, AnchorPayload.batchSeq]
      rcases hnext with ⟨hempty, -⟩ | _
      · refine ⟨[], [envelope], nil_suffix, by simp [hempty], ?_⟩
        intro object hobject
        obtain rfl : object = envelope := by simpa using hobject
        exact ⟨payload, hpayload⟩
      · omega
    · rw [(h.sealed_batches batch hbatch).seq] at hnext
      have hpos : 1 ≤ batch.batchSeq := by
        obtain ⟨_, after, hsplit⟩ := append_of_mem hbatch
        have hlater : batch :: after <:+ ledger.batches := hsplit ▸ suffix_append _ _
        rw [(h.governed.chained.suffix hlater).seq_eq_length]
        omega
      rcases hnext with ⟨-, _⟩ | hlength
      · omega
      · exact ⟨batch :: anchored, activations,
          h.governed.chained.next_anchored hp.anchored_suffix hbatch hlength,
          by simp [hp.objects], hp.activation⟩

theorem Ledger.provision_scope (hstep : ledger.provision H log fingerprint now = .ok ledger') :
    ledger'.scope = ledger.scope ∧ ledger'.anchors = ledger.anchors := by
  unfold provision at hstep
  split at hstep
  · simp at hstep
    obtain ⟨-, -, rfl⟩ := hstep
    exact ⟨rfl, rfl⟩
  · simp at hstep
    obtain ⟨-, -, -, -, -, -, -, -, rfl⟩ := hstep
    exact ⟨rfl, rfl⟩

theorem Attested.anchorActivation
    (h : Attested log ledger) (hstep : ledger.anchorActivation H log = .ok ledger') :
    Attested log ledger' := by
  have hgoverned := (h.governed.anchorActivation hstep).1
  simp only [Ledger.anchorActivation, bind_ok, require_ok, orRefuse_ok, pure_ok,
    mapError_eq_ok] at hstep
  obtain ⟨key, hkey, -, hmaterial, -, hversion, activation, hactivation, -, -, -, -, -, -, -, -,
    envelope, henvelope, _, hpublish, rfl⟩ := hstep
  have hcontent : envelope = AnchorEnvelope.mk (.activation activation.payload)
      activation.signature key.fingerprint := by
    simpa [AuditSigningKey.activationEnvelope, hactivation, eq_comm] using henvelope
  have hsigner : activation.payload.signerFingerprint = key.fingerprint := by
    simpa [AuditSigningKey.hasMaterial, hactivation] using (Bool.and_eq_true_iff.mp hmaterial).2
  have hpublished := h.publish (Ledger.activeKey_eq_some hkey).1
    (by rw [hcontent]; exact hsigner) (fun _ => hversion.le)
    (.inl ⟨activation.payload, by rw [hcontent]⟩) hpublish
  exact ⟨hgoverned, h.sealed_batches, hpublished⟩

theorem Attested.activate (h : Attested log ledger)
    (hstep : ledger.activate H log fingerprint now = .ok ledger') :
    Attested log ledger' := by
  have hgoverned := h.governed.activate hstep
  simp [Ledger.activate] at hstep
  obtain ⟨provisioned, hprovision, _, -, hstep⟩ := hstep
  obtain ⟨hscope, hanchors⟩ := Ledger.provision_scope hprovision
  have hprovisioned : Attested log provisioned :=
    h.same (h.governed.provision hprovision) hscope (Ledger.provision_keeps hprovision).1
      (congrArg _ hanchors)
  split at hstep
  · simp at hstep
    obtain ⟨-, -, rfl⟩ := hstep
    exact hprovisioned
  · simp at hstep
    obtain ⟨_, hanchor, rfl⟩ := hstep
    exact (hprovisioned.anchorActivation hanchor).same hgoverned rfl rfl rfl

theorem Attested.anchorBatch
    (h : Attested log ledger) (hstep : ledger.anchorBatch log batch = .ok ledger') :
    Attested log ledger' := by
  have hgoverned := h.governed.anchorBatch hstep
  simp [Ledger.anchorBatch] at hstep
  obtain ⟨hbatch, _, henvelope, _, hpublish, rfl⟩ := hstep
  obtain ⟨key, _, _, hkey, -, -, hsignature, rfl⟩ := Ledger.batchEnvelope_ok henvelope
  have hsigner : batch.sealedEnvelope.signer = key.fingerprint := by
    rw [(h.sealed_batches batch hbatch).signer]
    exact (key_of_get? hkey).symm
  have hprotocol : batch.sealedEnvelope.payload.protocol ≠ 2 → key.version ≤ 1 := by
    intro hne
    by_contra hlt
    refine hne ?_
    simp [AuditBatch.sealedEnvelope, hsignature, AnchorPayload.protocol, batchPayload,
      anchorProtocolVersion, Nat.not_le.mp hlt]
  exact ⟨hgoverned, h.sealed_batches, h.publish (mem_of_get? hkey) hsigner hprotocol
    (.inr ⟨batch, hbatch, rfl⟩) hpublish⟩

theorem Attested.sealScope {signingKey : AuditSigningKey} (hnodup : (log.map (·.pk)).Nodup)
    (h : Attested log ledger) (hstep : ledger.sealScope H log signingKey now = .ok ledger') :
    Attested log ledger' := by
  have hgoverned := h.governed.sealScope hstep
  simp only [Ledger.sealScope, bind_ok] at hstep
  obtain ⟨-, -, _, -, -, -, -, -, hstep⟩ := hstep
  split at hstep
  · obtain rfl : ledger = ledger' := by simpa using hstep
    exact h
  · rename_i root hroot
    simp at hstep
    obtain ⟨-, -, -, -, rfl⟩ := hstep
    have hrows : ∀ row ∈ ledger.unbatched log, row ∈ log ∧ row.member.isSome = true := by
      intro row hrow
      simp only [Ledger.unbatched, visibleRows, mem_filter, Bool.and_eq_true] at hrow
      exact ⟨hrow.1.1, hrow.2.1⟩
    obtain ⟨anchored, activations, hp⟩ := h.published
    refine ⟨hgoverned, ?_, anchored, activations,
      hp.anchored_suffix.trans (suffix_cons _ _), hp.objects, hp.activation⟩
    intro batch hbatch
    rcases mem_cons.mp hbatch with rfl | hlater
    · exact ⟨_, _, _, mapM_find (fun row hrow => find_pk hnodup (hrows row hrow).1) 0,
        mapM_member fun row hrow => (hrows row hrow).2, rfl, rfl, rfl⟩
    · exact h.sealed_batches batch hlater

/-- The request is not about anchors of batches or activation. -/
def ScopeRequest.Quiet : ScopeRequest → Prop
  | .anchorActivation | .activate _ _ | .sealScope _ _ | .anchorBatch _ => False
  | _ => True

theorem Ledger.anchorRotation_objects {rotation : AuditSigningKeyRotation}
    (hstep : ledger.anchorRotation rotation = .ok ledger') :
    ledger'.scope = ledger.scope ∧ ledger'.anchors.objects = ledger.anchors.objects := by
  simp only [anchorRotation, bind_ok, pure_ok, mapError_eq_ok] at hstep
  obtain ⟨_, -, -, -, -, -, _, hpublish, rfl⟩ := hstep
  exact ⟨rfl, (AnchorStore.publishRotation_transitions hpublish).1⟩

theorem Ledger.quiet_step (hquiet : request.Quiet)
    (hstep : ledger.step H log request = .ok ledger') :
    ledger'.scope = ledger.scope ∧ ledger'.batches = ledger.batches ∧
      ledger'.anchors.objects = ledger.anchors.objects := by
  cases request with
  | provisionMacKey secret =>
    change ledger.provisionMacKey H log secret = .ok ledger' at hstep
    unfold provisionMacKey at hstep
    split at hstep
    all_goals
      cases hstep
      exact ⟨rfl, rfl, rfl⟩
  | provision =>
    obtain ⟨hscope, hanchors⟩ := provision_scope hstep
    exact ⟨hscope, (provision_keeps hstep).1, congrArg _ hanchors⟩
  | anchorActivation | activate | sealScope | anchorBatch => exact hquiet.elim
  | prepareRotation =>
    simp only [step, prepareRotation, bind_ok] at hstep
    obtain ⟨_, -, -, -, -, -, hstep⟩ := hstep
    split at hstep
    · obtain rfl : ledger = ledger' := by simpa using hstep
      exact ⟨rfl, rfl, rfl⟩
    · simp at hstep
      obtain ⟨_, -, -, -, _, -, rfl⟩ := hstep
      exact ⟨rfl, rfl, rfl⟩
  | anchorRotation =>
    simp [step, publishRotationOnly] at hstep
    obtain ⟨_, -, hanchor⟩ := hstep
    obtain ⟨hscope, hobjects⟩ := anchorRotation_objects hanchor
    exact ⟨hscope, (anchorRotation_keeps hanchor).1, hobjects⟩
  | publishRotation =>
    simp [step, publishRotation] at hstep
    obtain ⟨_, -, anchored, hanchor, hstep⟩ := hstep
    obtain ⟨hscope, hobjects⟩ := anchorRotation_objects hanchor
    have hbatches := (anchorRotation_keeps hanchor).1
    split at hstep
    · obtain rfl : anchored = ledger' := by simpa using hstep
      exact ⟨hscope, hbatches, hobjects⟩
    · simp at hstep
      obtain ⟨_, -, rfl⟩ := hstep
      exact ⟨hscope, hbatches, hobjects⟩
  | finalizeRotation =>
    simp [step, finalizeRotation] at hstep
    obtain ⟨-, -, -, -, -, -, -, -, -, -, -, -, -, -, -, -, -, -, -, -, rfl⟩ := hstep
    exact ⟨rfl, rfl, rfl⟩
  | abortRotation =>
    simp [step, abortRotation] at hstep
    obtain ⟨-, -, -, -, -, -, -, -, -, -, -, -, -, -, -, -, -, -, rfl⟩ := hstep
    exact ⟨rfl, rfl, rfl⟩

theorem Attested.step (hnodup : (log.map (·.pk)).Nodup)
    (h : Attested log ledger) (hstep : ledger.step H log request = .ok ledger') :
    Attested log ledger' := by
  have hquiet : request.Quiet → Attested log ledger' := by
    intro hquiet
    obtain ⟨hscope, hbatches, hobjects⟩ := Ledger.quiet_step hquiet hstep
    exact h.same (h.governed.step hstep) hscope hbatches hobjects
  cases request with
  | anchorActivation => exact h.anchorActivation hstep
  | activate => exact h.activate hstep
  | sealScope => exact h.sealScope hnodup hstep
  | anchorBatch => exact h.anchorBatch hstep
  | provisionMacKey | provision | prepareRotation | anchorRotation | publishRotation
  | finalizeRotation | abortRotation =>
    exact hquiet trivial

theorem Ledger.step_scope (hstep : ledger.step H log request = .ok ledger') :
    ledger'.scope = ledger.scope := by
  have hanchor : ∀ {before after : Ledger}, before.anchorActivation H log = .ok after →
      after.scope = before.scope := by
    intro before after hanchor
    simp [anchorActivation] at hanchor
    obtain ⟨-, -, -, -, -, -, -, -, -, -, -, -, -, -, -, -, -, -, -, -, rfl⟩ := hanchor
    rfl
  by_cases hquiet : request.Quiet
  · exact (quiet_step hquiet hstep).1
  · cases request with
    | anchorActivation => exact hanchor hstep
    | activate =>
      simp [step, activate] at hstep
      obtain ⟨_, hprovision, _, -, hstep⟩ := hstep
      have hscope := (provision_scope hprovision).1
      split at hstep
      · simp at hstep
        obtain ⟨-, -, rfl⟩ := hstep
        exact hscope
      · simp at hstep
        obtain ⟨_, hanchored, rfl⟩ := hstep
        exact (hanchor hanchored).trans hscope
    | sealScope =>
      simp only [step, sealScope, bind_ok] at hstep
      obtain ⟨-, -, _, -, -, -, -, -, hstep⟩ := hstep
      split at hstep
      · obtain rfl : ledger = ledger' := by simpa using hstep
        rfl
      · simp at hstep
        obtain ⟨-, -, -, -, rfl⟩ := hstep
        rfl
    | anchorBatch =>
      simp [step, anchorBatch] at hstep
      obtain ⟨-, -, -, -, -, -, rfl⟩ := hstep
      rfl
    | _ => exact absurd trivial hquiet

structure Untampered (H : Hashes) (d : Deployment) : Prop where
  pks : ∀ row ∈ d.log, row.pk < d.nextPk
  nodup : (d.log.map (·.pk)).Nodup
  macs : ∀ row ∈ d.log, ∀ mac, row.rowMac = some mac →
    ∃ secret, mac = H.hmac secret (.row row.content)
  scopes : ∀ scope, (d.ledger scope).scope = scope
  ledgers : ∀ scope, Attested d.log (d.ledger scope)

theorem untampered_initial : Untampered H .initial where
  pks := by simp [Deployment.initial]
  nodup := by simp [Deployment.initial]
  macs := by simp [Deployment.initial]
  scopes _ := rfl
  ledgers scope := ⟨governed_initial scope, by simp [Deployment.initial, Ledger.initial],
    [], [], suffix_refl _, rfl, by simp⟩

theorem Deployment.content_of_rowMac
    {d : Deployment} {content : RowContent} {keyAvailable : Bool} {mac : Digest}
    (h : d.rowMac H content keyAvailable = some mac) :
    ∃ secret, mac = H.hmac secret (.row content) := by
  unfold rowMac calculateRowMac at h
  split at h
  · simp only [bind_eq_some_iff] at h
    obtain ⟨key, -, hmac⟩ := h
    split at hmac
    · exact ⟨key.secret, by simpa using hmac.symm⟩
    · simp at hmac
  · simp at h

theorem untampered_step : Preserves (Deployment.step H) (Untampered H) := by
  intro d request d' hd h
  cases request with
  | record =>
    simp [Deployment.step, Deployment.record] at h
    obtain ⟨-, -, rfl⟩ := h
    exact {
      pks := by
        intro row hrow
        rcases mem_append.mp hrow with hold | hnew
        · exact Nat.lt_succ_of_lt (hd.pks row hold)
        · obtain rfl := mem_singleton.mp hnew
          exact Nat.lt_succ_self _
      nodup := by
        rw [map_append, nodup_append]
        refine ⟨hd.nodup, by simp, ?_⟩
        intro pk hpk other hother
        obtain ⟨row, hrow, rfl⟩ := List.mem_map.mp hpk
        obtain rfl : other = d.nextPk := by simpa using hother
        exact Nat.ne_of_lt (hd.pks row hrow)
      macs := by
        intro row hrow mac hmac
        rcases mem_append.mp hrow with hold | hnew
        · exact hd.macs row hold mac hmac
        · obtain rfl := mem_singleton.mp hnew
          exact Deployment.content_of_rowMac hmac
      scopes := hd.scopes
      ledgers := fun scope =>
        { hd.ledgers scope with
          sealed_batches := fun batch hbatch =>
            ((hd.ledgers scope).sealed_batches batch hbatch).append _ } }
  | scope scope =>
    simp [Deployment.step] at h
    obtain ⟨ledger, hledger, rfl⟩ := h
    have hother : ∀ other, other ≠ scope →
        Function.update d.ledger scope ledger other = d.ledger other :=
      fun other hne => Function.update_of_ne hne _ _
    exact {
      pks := hd.pks
      nodup := hd.nodup
      macs := hd.macs
      scopes := by
        intro other
        by_cases heq : other = scope
        · subst heq
          simpa using (Ledger.step_scope hledger).trans (hd.scopes other)
        · simpa [hother other heq] using hd.scopes other
      ledgers := by
        intro other
        by_cases heq : other = scope
        · subst heq
          simpa using (hd.ledgers other).step hd.nodup hledger
        · simpa [hother other heq] using hd.ledgers other }

theorem untampered_after (requests : List Request) :
    Untampered H (Deployment.after H requests) :=
  run_preserves untampered_step untampered_initial requests

end

end Audit
end SpaceWorks
