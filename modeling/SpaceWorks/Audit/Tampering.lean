import SpaceWorks.Audit.Anchoring
import SpaceWorks.Audit.Integrity

/-!
# Tamper evidence

A database whose rows may be anything is verified against the anchors of an untampered deployment:
verified batches are anchored ones, none is left out, and their MACs fix the rows.
-/

namespace SpaceWorks
namespace Audit

open Checked TransactionalSystem List Option

variable {H : Hashes} {site : Site} {d : Deployment}
  {row : AuditLog} {rows : List AuditLog} {batch : AuditBatch}

theorem member_eq_some {member : Member} (h : row.member = some member) :
    row.pk = member.auditLogId ∧ row.content.eventUuid = some member.eventUuid ∧
      row.rowMac = some member.rowMac := by
  unfold AuditLog.member at h
  split at h
  · rename_i eventUuid rowMac huuid hmac
    cases h
    exact ⟨rfl, huuid, hmac⟩
  · simp at h

theorem verifyRow_mac {mac : Digest}
    (h : verifyRow H site d row = .ok ()) (hmac : row.rowMac = some mac) :
    ∃ secret, mac = H.hmac secret (.row row.content) := by
  have hattested : classifyAuditRow H site d row = .attested := by
    have hstatus : ∀ status, classifyAuditRow H site d row = status →
        status = .attested ∨ status = .mismatch ∨ status = .keyUnavailable := by
      intro status hs
      unfold classifyAuditRow at hs
      simp only [hmac] at hs
      split at hs
      · exact .inr (.inl hs.symm)
      · split at hs
        · exact .inr (.inr hs.symm)
        · split at hs
          · exact .inr (.inr hs.symm)
          · split at hs
            · exact .inl hs.symm
            · exact .inr (.inl hs.symm)
    rcases hstatus _ rfl with hs | hs | hs
    · exact hs
    · simp [verifyRow, hs] at h
    · simp [verifyRow, hs] at h
  unfold classifyAuditRow at hattested
  simp only [hmac] at hattested
  split at hattested
  · simp at hattested
  · split at hattested
    · simp at hattested
    · split at hattested
      · simp at hattested
      · rename_i key hkey
        split at hattested
        · rename_i hcalculated
          unfold calculateRowMac at hcalculated
          split at hcalculated
          · exact ⟨key.secret, (some.inj hcalculated).symm⟩
          · simp at hcalculated
        · simp at hattested

theorem rows_eq_of_members {rows' : List AuditLog} {leaves : List Member}
    (h : rows.mapM (·.member) = some leaves) (h' : rows'.mapM (·.member) = some leaves)
    (hfixed : ∀ row ∈ rows, ∀ row' ∈ rows', ∀ member, row.member = some member →
      row'.member = some member → row = row') :
    rows = rows' := by
  induction rows generalizing rows' leaves with
  | nil =>
    obtain rfl : leaves = [] := by simpa [eq_comm] using h
    cases rows' with
    | nil => rfl
    | cons => simp [bind_eq_some_iff] at h'
  | cons row _ ih =>
    simp [bind_eq_some_iff] at h
    obtain ⟨_, hmember, _, hrest, rfl⟩ := h
    cases rows' with
    | nil => simp at h'
    | cons row' =>
      simp only [mapM_cons, bind_eq_bind, bind_eq_some_iff, Option.pure_def, some.injEq] at h'
      obtain ⟨member', hmember', _, hrest', heq⟩ := h'
      obtain ⟨rfl, rfl⟩ := cons.inj heq
      rw [hfixed row (by simp) row' (by simp) member' hmember hmember',
        ih hrest hrest' fun x hx y hy => hfixed x (by simp [hx]) y (by simp [hy])]

theorem orderedRows_ids
    {log : List AuditLog} (h : orderedRows log batch = some rows) :
    batch.leaves.map (·.auditLogId) = rows.map (·.pk) ∧ ∀ row ∈ rows, row ∈ log := by
  unfold orderedRows at h
  generalize batch.leaves = leaves at h ⊢
  induction leaves generalizing rows with
  | nil =>
    obtain rfl : rows = [] := by simpa [eq_comm] using h
    simp
  | cons leaf _ ih =>
    simp [bind_eq_some_iff] at h
    obtain ⟨row, hrow, _, hrest, rfl⟩ := h
    obtain ⟨hids, hmem⟩ := ih hrest
    have hpk : row.pk = leaf.auditLogId := by simpa using find?_some hrow
    refine ⟨by simp [hids, hpk], ?_⟩
    intro other hother
    rcases mem_cons.mp hother with rfl | hlater
    · exact mem_of_find?_eq_some hrow
    · exact hmem other hlater

theorem leaves_eq_zipIdx {leaves : List AuditBatchLeaf}
    (hpositions : leaves.map (·.leafPosition) = List.range leaves.length)
    (hids : leaves.map (·.auditLogId) = rows.map (·.pk)) :
    leaves = rows.zipIdx.map fun leaf => ⟨leaf.1.pk, leaf.2⟩ := by
  have hlength : leaves.length = rows.length := by simpa using congrArg List.length hids
  refine ext_getElem (by simpa using hlength) fun i hi hi' => ?_
  have hposition : (leaves.map (·.leafPosition))[i]? = (List.range leaves.length)[i]? := by
    rw [hpositions]
  have hid : (leaves.map (·.auditLogId))[i]? = (rows.map (·.pk))[i]? := by
    rw [hids]
  have hrow : i < rows.length := hlength ▸ hi
  rw [getElem?_map, getElem?_eq_getElem hi, List.getElem?_range hi] at hposition
  rw [getElem?_map, getElem?_map, getElem?_eq_getElem hi, getElem?_eq_getElem hrow] at hid
  have hfields : leaves[i].leafPosition = i ∧ leaves[i].auditLogId = rows[i].pk :=
    ⟨some.inj hposition, some.inj hid⟩
  cases hleaf : leaves[i] with
  | mk =>
    rw [hleaf] at hfields
    obtain ⟨hleafPosition, hleafId⟩ := hfields
    simp only at hleafPosition hleafId
    rw [hleafPosition, hleafId]
    simp

variable {ledger : Ledger} {keys : List AuditSigningKey} {batches : List AuditBatch}

structure Verified (H : Hashes) (d : Deployment) (ledger : Ledger) (batch : AuditBatch) : Prop where
  positions : batch.leaves.map (·.leafPosition) = List.range batch.leaves.length
  count : batch.leaves.length = batch.leafCount
  envelope : ledger.batchEnvelope d.log batch = .ok batch.sealedEnvelope
  anchored : ledger.anchors.fetch batch.signerFingerprint batch.batchSeq = some batch.sealedEnvelope

theorem verifyBatch_ok {expectedSeq : Nat} {previousRoot : Option Digest}
    (h : verifyBatch H d ledger keys expectedSeq previousRoot batch = .ok ()) :
    batch.batchSeq = expectedSeq ∧ batch.prevBatchRoot = previousRoot ∧
      Verified H d ledger batch := by
  simp only [verifyBatch, verifyBatchLocal, bind_ok, require_ok, orRefuse_ok, mapError_eq_ok] at h
  obtain ⟨-, ⟨hseq, hroot⟩, _, -, -, ⟨-, ⟨hpositions, hcount⟩, -⟩, _, henvelope,
    _, hexternal, rfl⟩ := h
  obtain ⟨-, -, -, -, -, -, -, rfl⟩ := Ledger.batchEnvelope_ok henvelope
  exact ⟨hseq, hroot, hpositions, hcount, henvelope, hexternal⟩

theorem verifyBatchLoop_ok (h : verifyBatchLoop H d ledger keys batches = .ok ()) :
    Chained batches ∧ ∀ batch ∈ batches, Verified H d ledger batch := by
  induction batches with
  | nil => exact ⟨trivial, by simp⟩
  | cons _ batches ih =>
    simp only [verifyBatchLoop, bind_ok] at h
    obtain ⟨_, hrest, hbatch⟩ := h
    obtain ⟨hchained, hverified⟩ := ih hrest
    obtain ⟨hseq, hroot, hfirst⟩ := verifyBatch_ok hbatch
    constructor
    · cases batches with
      | nil => exact ⟨hseq, hroot⟩
      | cons =>
        refine ⟨?_, hroot, hchained⟩
        rw [hseq, hchained.seq_eq_length]
        rfl
    · intro other hother
      rcases mem_cons.mp hother with rfl | hlater
      · exact hfirst
      · exact hverified other hlater

theorem Chained.eq_of_subset {others : List AuditBatch} (h : Chained batches) (h' : Chained others)
    (hlength : batches.length = others.length) (hsubset : ∀ batch ∈ batches, batch ∈ others) :
    batches = others := by
  induction batches generalizing others with
  | nil => exact (length_eq_zero_iff.mp hlength.symm).symm
  | cons batch batches ih =>
    cases others with
    | nil => simp at hlength
    | cons other others =>
      have hlengths : batches.length = others.length := by simpa using hlength
      have hseq := h.seq_eq_length
      have hbelow : ∀ x ∈ others, x.batchSeq ≤ others.length := by
        intro x hx
        cases hothers : others with
        | nil => simp [hothers] at hx
        | cons =>
          rw [hothers] at hx h'
          have hle := h'.tail.seq_le hx
          have hfirst := h'.tail.seq_eq_length
          simp only [length_cons]
          omega
      have hhead : batch = other := by
        rcases mem_cons.mp (hsubset batch (by simp)) with rfl | hlater
        · rfl
        · have hle := hbelow batch hlater
          omega
      subst hhead
      rw [ih h.tail h'.tail hlengths]
      intro x hx
      rcases mem_cons.mp (hsubset x (by simp [hx])) with rfl | hlater
      · have hbelowSelf : ∀ y ∈ batches, y.batchSeq ≤ batches.length := by
          intro y hy
          cases hbatches : batches with
          | nil => simp [hbatches] at hy
          | cons =>
            rw [hbatches] at hy h
            have hle := h.tail.seq_le hy
            have hfirst := h.tail.seq_eq_length
            simp only [length_cons]
            omega
        have hle := hbelowSelf x hx
        omega
      · exact hlater

/-- No two different rows of the logs share a MAC. -/
def CollisionFree (H : Hashes) (log recorded : List AuditLog) : Prop :=
  ∀ row ∈ log, ∀ row' ∈ recorded, ∀ secret secret',
    H.hmac secret (.row row.content) = H.hmac secret' (.row row'.content) →
      row.content = row'.content

/-- A batch that verifies with the envelope of a sealed one is that batch, rows included. -/
theorem Verified.eq_sealed {d recorded : Deployment} {site : Site} {ledger : Ledger} {scope : Scope}
    (hcollision : CollisionFree H d.log recorded.log)
    (hrows : ∀ row ∈ d.log, verifyRow H site d row = .ok ()) (hrecorded : Untampered H recorded)
    {other : AuditBatch} (h : Verified H d ledger batch)
    (hother : Sealed recorded.log scope other)
    (hsame : batch.sealedEnvelope = other.sealedEnvelope) :
    batch = other ∧ ∃ rows, orderedRows d.log batch = some rows ∧
      orderedRows recorded.log batch = some rows := by
  obtain ⟨_, rows, _, -, hlocal, hmembers, hsignature, -⟩ :=
    Ledger.batchEnvelope_ok h.envelope
  obtain ⟨rows', _, _, hsealed, hmembers', hleaves, hcount, hsignature'⟩ :=
    hother.covers
  have hsignatures : batch.signature = other.signature := congrArg AnchorEnvelope.signature hsame
  have hpayloads := hsignatures
  rw [hsignature, hsignature'] at hpayloads
  simp only [batchPayload, Signature.mk.injEq, AnchorPayload.batch.injEq,
    BatchPayload.mk.injEq] at hpayloads
  obtain ⟨_, -, _, -, rfl, _, _, _, -, -⟩ := hpayloads
  obtain ⟨hids, hmem⟩ := orderedRows_ids hlocal
  obtain ⟨-, hmem'⟩ := orderedRows_ids hsealed
  have hequal : rows = rows' := by
    refine rows_eq_of_members hmembers hmembers' fun row hrow row' hrow' member hm hm' => ?_
    obtain ⟨hpk, -, hmac⟩ := member_eq_some hm
    obtain ⟨hpk', -, hmac'⟩ := member_eq_some hm'
    obtain ⟨secret, hcovers⟩ := verifyRow_mac (hrows row (hmem row hrow)) hmac
    obtain ⟨secret', hcovers'⟩ := hrecorded.macs row' (hmem' row' hrow') _ hmac'
    have hcontent : row.content = row'.content :=
      hcollision row (hmem row hrow) row' (hmem' row' hrow') secret secret'
        (hcovers.symm.trans hcovers')
    obtain ⟨_, _, _⟩ := row
    obtain ⟨_, _, _⟩ := row'
    simp only at hpk hpk' hmac hmac' hcontent
    rw [hpk, hpk', hmac, hmac', hcontent]
  subst hequal
  have hbatch : batch = other := by
    have hlength : batch.leafCount = other.leafCount := by
      rw [← h.count, hcount]
      simpa using congrArg List.length hids
    have hleaf : batch.leaves = other.leaves := by
      rw [hleaves]
      exact leaves_eq_zipIdx h.positions hids
    cases batch
    cases other
    simp_all
  subst hbatch
  exact ⟨rfl, rows, hlocal, hsealed⟩

/-- A database that verifies against untampered anchors has the anchored batches and the recorded
rows. -/
theorem verified_log_is_recorded (requests : List Request) (site : Site) (d : Deployment)
    (hcollision : CollisionFree H d.log (Deployment.after H requests).log) (hanchors : ∀ scope,
      (d.ledger scope).anchors = ((Deployment.after H requests).ledger scope).anchors)
    (hverify : verifyAuditIntegrity H site d = .ok ())
    {scope : Scope} (hvisited : scope ∈ d.visited site) :
    let recorded := Deployment.after H requests
    let batches := (d.ledger scope).batches
    (∃ activations, (recorded.ledger scope).anchors.objects =
        batches.map (·.sealedEnvelope) ++ activations ∧
          ∀ object ∈ activations, ∃ payload, object.payload = .activation payload) ∧
      batches <:+ (recorded.ledger scope).batches ∧
        ∀ batch ∈ batches, ∃ rows, orderedRows d.log batch = some rows ∧
          orderedRows recorded.log batch = some rows := by
  intro recorded batches
  have hrecorded : Untampered H recorded := untampered_after requests
  have hattested := hrecorded.ledgers scope
  obtain ⟨anchored, activations, hp⟩ := hattested.published
  simp only [verifyAuditIntegrity, verifyRows, bind_ok, forM_eq_ok] at hverify
  obtain ⟨-, hrows, -, -, hscopes⟩ := hverify
  have hscope := hscopes scope hvisited
  simp only [verifyScope, verifyBatches, bind_ok, require_ok, orRefuse_ok, mapError_eq_ok] at hscope
  obtain ⟨_, -, _, -, _, -, _, hloop, _, -, -, -, head, hhead, rfl⟩ := hscope
  obtain ⟨hchained, hverified⟩ := verifyBatchLoop_ok hloop
  -- each local batch is the one that was sealed under its envelope
  have hsealed : ∀ batch ∈ batches, batch ∈ anchored ∧ ∃ rows,
      orderedRows d.log batch = some rows ∧ orderedRows recorded.log batch = some rows := by
    intro batch hbatch
    have hv := hverified batch hbatch
    have hstored : batch.sealedEnvelope ∈ (recorded.ledger scope).anchors.objects := by
      rw [← hanchors scope]
      exact mem_of_find?_eq_some hv.anchored
    rw [hp.objects, mem_append] at hstored
    rcases hstored with hmem | hact
    · obtain ⟨other, hother, hsame⟩ := mem_map.mp hmem
      obtain ⟨rfl, hrest⟩ := hv.eq_sealed hcollision hrows hrecorded
        (hattested.sealed_batches other (hp.anchored_suffix.subset hother)) hsame.symm
      exact ⟨hother, hrest⟩
    · obtain ⟨_, hpayload⟩ := hp.activation _ hact
      obtain ⟨_, _, _, -, -, -, hsignature, -⟩ := Ledger.batchEnvelope_ok hv.envelope
      simp [AuditBatch.sealedEnvelope, hsignature] at hpayload
  -- the head of the store leaves none of them out
  have hlength : batches.length = anchored.length := by
    rw [hanchors scope] at hhead
    obtain ⟨_, hlatest, hseq, -, -⟩ := AnchorStore.scopeHead_ok hhead
    exact hseq.trans (hp.latest_seq hattested.governed.chained hattested.sealed_batches hlatest)
  have hequal : batches = anchored :=
    hchained.eq_of_subset (hattested.governed.chained.suffix hp.anchored_suffix) hlength
      fun batch hbatch => (hsealed batch hbatch).1
  rw [hequal]
  exact ⟨⟨activations, hp.objects, hp.activation⟩, hp.anchored_suffix,
    fun batch hbatch => (hsealed batch (hequal ▸ hbatch)).2⟩

def sums : Hashes where
  sha256
    | .leaf auditLogId eventUuid rowMac => auditLogId + eventUuid + rowMac
    | .node left right => left + right + 1
    | .genesisRow content => content.createdAt
  hmac secret
    | .row content => secret + content.createdAt
    | .cutover _ value => secret + value

def oneSealedRow : List Request :=
  [.scope none (.provisionMacKey 7), .scope none (.activate 1 2), .record
      { makerspaceId := none
        eventUuid := some 11
        actorId := some 3
        action := "login"
        targetType := ""
        targetId := ""
        metadata := .dict []
        createdAt := 5 } true,
    .scope none (.sealScope
      { fingerprint := 1
        version := 1
        validFromSeq := 0
        validToSeq := none
        isActive := true
        activation := none
        activatedAt := some 2
        wrapped := true
        pendingRotation := none } 6)]

def oneAnchoredRow : List Request :=
  oneSealedRow ++ ((Deployment.after sums oneSealedRow).ledger none).batches.map fun batch =>
    .scope none (.anchorBatch batch)

theorem anchored_row_is_recorded :
    ((Deployment.after sums oneAnchoredRow).ledger none).batches.length = 1 ∧
      ((Deployment.after sums oneAnchoredRow).ledger none).batches <:+
        ((Deployment.after sums oneAnchoredRow).ledger none).batches := by
  have hlog : ∃ row, (Deployment.after sums oneAnchoredRow).log = [row] :=
    length_eq_one_iff.mp (by decide +kernel)
  have hcollision : CollisionFree sums (Deployment.after sums oneAnchoredRow).log
      (Deployment.after sums oneAnchoredRow).log := by
    obtain ⟨_, hrow⟩ := hlog
    rw [hrow]
    intro x hx y hy secret secret' _
    rw [mem_singleton.mp hx, mem_singleton.mp hy]
  have hverify : verifyAuditIntegrity sums { makerspaces := [], macConfigured := true }
      (Deployment.after sums oneAnchoredRow) = .ok () := by
    decide +kernel
  exact ⟨by decide +kernel, (verified_log_is_recorded oneAnchoredRow
    { makerspaces := [], macConfigured := true } _ hcollision (fun _ => rfl) hverify
    (by decide +kernel)).2.1⟩

end Audit
end SpaceWorks
