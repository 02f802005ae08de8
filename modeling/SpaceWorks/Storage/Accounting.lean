import SpaceWorks.Storage.Quota

/-!
# The counter and what was debited

In fitting runs the counter of every makerspace is what was debited and not refunded.
-/

namespace SpaceWorks
namespace Quota

open Checked TransactionalSystem Ledgers Table List Option Except

variable {l l' : Ledger Account} {e : Entry Account} {p : Account → Prop} {account : Account}
  {uuid targetId objectKey rowCreatedAt : Nat} {event : DocumentAdded}

def SameOn (p : Account → Prop) (l l' : Ledger Account) : Prop :=
  ∀ e, p e.account → (e ∈ l'.debits ↔ e ∈ l.debits) ∧ (e ∈ l'.refunds ↔ e ∈ l.refunds)

theorem sameOn_debit (h : ¬ p e.account) : SameOn p l (l.debit e) := by
  intro other hother
  have hne : other ≠ e := by
    rintro rfl
    exact h hother
  simp [hne]

theorem sameOn_refund (h : ¬ p e.account) : SameOn p l (l.refund e) := by
  intro other hother
  have hne : other ≠ e := by
    rintro rfl
    exact h hother
  simp [hne]

theorem SameOn.debited (h : SameOn p l l')
    (hp : p account) : l'.Debited account ↔ l.Debited account := by
  constructor <;> rintro ⟨e, he, rfl⟩
  · exact ⟨e, (h e hp).1.mp he, rfl⟩
  · exact ⟨e, (h e hp).1.mpr he, rfl⟩

theorem SameOn.refunded (h : SameOn p l l')
    (hp : p account) : l'.Refunded account ↔ l.Refunded account := by
  constructor <;> rintro ⟨e, he, rfl⟩
  · exact ⟨e, (h e hp).2.mp he, rfl⟩
  · exact ⟨e, (h e hp).2.mpr he, rfl⟩

def Account.IsEvidence : Account → Prop
  | .evidence _ => True
  | _ => False

def Account.IsDocument : Account → Prop
  | .document _ => True
  | _ => False

def Account.IsImport : Account → Prop
  | .importObject _ => True
  | _ => False

theorem isEvidence (id : Nat) : (Account.evidence id).IsEvidence := trivial
theorem isDocument (uuid : Nat) : (Account.document uuid).IsDocument := trivial
theorem isImport (id : Nat) : (Account.importObject id).IsImport := trivial

variable {settings : Settings} {s s' : Books} {makerspaceId size : Nat}

structure Counted (used : Nat → Nat) (ledger : Ledger Account) : Prop where
  counter : ∀ makerspaceId, used makerspaceId = ledger.outstanding makerspaceId
  sound : ledger.Sound

theorem addStorage_cases {debited : Bool}
    (h : s.addStorage settings makerspaceId size account = .ok (s', debited)) :
    (debited = false ∧ s' = s ∧
      (settings.selfHost = true ∨ size = 0 ∨ s.limit makerspaceId = none)) ∨
      (debited = true ∧ s' = s.debit makerspaceId size account ∧ settings.selfHost = false) := by
  unfold Books.addStorage at h
  split at h
  · rename_i hfree
    simp at hfree
    cases h
    exact .inl ⟨rfl, rfl, hfree.imp_right .inl⟩
  · rename_i hpaid
    simp at hpaid
    split at h
    · rename_i hlimit
      cases h
      exact .inl ⟨rfl, rfl, .inr (.inr hlimit)⟩
    · split at h
      · cases h
      · cases h
        exact .inr ⟨rfl, rfl, hpaid.1⟩

theorem Counted.debit (counted : Counted s.used s.ledger) (h : ¬ s.ledger.Debited account) :
    Counted (s.debit makerspaceId size account).used
      (s.debit makerspaceId size account).ledger where
  counter := by
    intro other
    refine Eq.trans ?_ (Ledger.outstanding_debit counted.sound
      (e := ⟨account, makerspaceId, size⟩) h other).symm
    by_cases heq : other = makerspaceId
    · subst heq
      simp [Books.debit, counted.counter]
    · simp [Books.debit, heq, Ne.symm heq, counted.counter]
  sound := counted.sound.debit (e := ⟨account, makerspaceId, size⟩) h

theorem Counted.freeStorage (counted : Counted s.used s.ledger)
    (hdebited : settings.selfHost = false → size ≠ 0 →
      Entry.mk account makerspaceId size ∈ s.ledger.debits)
    (h : settings.selfHost = false → size ≠ 0 → ¬ s.ledger.Refunded account) :
    Counted (s.freeStorage settings makerspaceId size account).used
      (s.freeStorage settings makerspaceId size account).ledger := by
  unfold Books.freeStorage
  split
  · exact counted
  · rename_i hpaid
    simp at hpaid
    have hmem := hdebited hpaid.1 hpaid.2
    have hfresh := h hpaid.1 hpaid.2
    constructor
    · intro other
      have hsum := Ledger.outstanding_refund counted.sound hmem hfresh other
      rw [← counted.counter] at hsum
      by_cases heq : other = makerspaceId
      · subst heq
        simp at hsum
        simp only [Function.update_self]
        omega
      · simp [Ne.symm heq] at hsum
        simp only [Function.update_of_ne heq]
        exact hsum
    · exact counted.sound.refund hmem hfresh

theorem sameOn_freeStorage {p : Account → Prop} (h : ¬ p account) :
    SameOn p s.ledger (s.freeStorage settings makerspaceId size account).ledger := by
  unfold Books.freeStorage
  split
  · exact fun _ _ => ⟨Iff.rfl, Iff.rfl⟩
  · exact sameOn_refund h

theorem refunded_freeStorage {other : Account} (hne : other ≠ account)
    (h : (s.freeStorage settings makerspaceId size account).ledger.Refunded other) :
    s.ledger.Refunded other :=
  (SameOn.refunded (sameOn_freeStorage (p := (· = other)) hne.symm) rfl).mp h

@[simp] theorem freeStorage_debits :
    (s.freeStorage settings makerspaceId size account).ledger.debits = s.ledger.debits := by
  unfold Books.freeStorage
  split <;> rfl

@[simp] theorem freeStorage_imports :
    (s.freeStorage settings makerspaceId size account).imports = s.imports := by
  unfold Books.freeStorage
  split <;> rfl

@[simp] theorem freeStorage_rollbacks :
    (s.freeStorage settings makerspaceId size account).rollbacks = s.rollbacks := by
  unfold Books.freeStorage
  split <;> rfl

@[simp] theorem freeStorage_evidence :
    (s.freeStorage settings makerspaceId size account).evidence = s.evidence := by
  unfold Books.freeStorage
  split <;> rfl

@[simp] theorem freeStorage_evidenceCharged :
    (s.freeStorage settings makerspaceId size account).evidenceCharged = s.evidenceCharged := by
  unfold Books.freeStorage
  split <;> rfl

@[simp] theorem freeStorage_documentsAdded :
    (s.freeStorage settings makerspaceId size account).documentsAdded = s.documentsAdded := by
  unfold Books.freeStorage
  split <;> rfl

@[simp] theorem freeStorage_released :
    (s.freeStorage settings makerspaceId size account).released = s.released := by
  unfold Books.freeStorage
  split <;> rfl

variable {evidence : Table EvidenceUploadFinalization} {charged : List EvidenceCharged}

structure EvidenceInv (evidence : Table EvidenceUploadFinalization)
    (charged : List EvidenceCharged) (l : Ledger Account) : Prop where
  known : ∀ id, l.Debited (.evidence id) → ∃ state ∈ evidence, state.evidenceId = id
  uncharged : ∀ state ∈ evidence, state.quotaCharged = false →
    ¬ l.Debited (.evidence state.evidenceId)
  unexpired : ∀ state ∈ evidence, state.expired = false → ¬ l.Refunded (.evidence state.evidenceId)
  proven : ∀ event ∈ charged,
    Entry.mk (.evidence event.evidenceId) event.makerspaceId event.bytes ∈ l.debits

theorem EvidenceInv.sameOn (inv : EvidenceInv evidence charged l)
    (h : SameOn Account.IsEvidence l l') : EvidenceInv evidence charged l' where
  known := fun id hdebited => inv.known id ((h.debited (isEvidence id)).mp hdebited)
  uncharged := fun state hstate hfree hdebited =>
    inv.uncharged state hstate hfree ((h.debited (isEvidence _)).mp hdebited)
  unexpired := fun state hstate hlive hrefunded =>
    inv.unexpired state hstate hlive ((h.refunded (isEvidence _)).mp hrefunded)
  proven := fun event hevent => (h _ (isEvidence _)).1.mpr (inv.proven event hevent)

theorem EvidenceInv.put (inv : EvidenceInv evidence charged l)
    (state : EvidenceUploadFinalization) {old : EvidenceUploadFinalization}
    (hold : evidence.get? state.evidenceId = some old)
    (hcharged : state.quotaCharged = false → old.quotaCharged = false)
    (hexpired : state.expired = false → old.expired = false) :
    EvidenceInv (evidence.put state) charged l := by
  have hmem : old ∈ evidence := mem_of_get? hold
  have hid : old.evidenceId = state.evidenceId := key_of_get? hold
  constructor
  · intro id hdebited
    obtain ⟨other, hother, rfl⟩ := inv.known id hdebited
    by_cases heq : other.evidenceId = state.evidenceId
    · exact ⟨state, mem_put_self hold, heq.symm⟩
    · exact ⟨other, mem_put.mpr (.inl ⟨hother, heq⟩), rfl⟩
  · intro other hother hfree
    rcases mem_of_mem_put hother with rfl | ⟨hkept, -⟩
    · exact hid ▸ inv.uncharged old hmem (hcharged hfree)
    · exact inv.uncharged other hkept hfree
  · intro other hother hlive
    rcases mem_of_mem_put hother with rfl | ⟨hkept, -⟩
    · exact hid ▸ inv.unexpired old hmem (hexpired hlive)
    · exact inv.unexpired other hkept hlive
  · exact inv.proven

theorem EvidenceInv.debit (inv : EvidenceInv evidence charged l)
    (state : EvidenceUploadFinalization) (event : EvidenceCharged)
    {old : EvidenceUploadFinalization} (hold : evidence.get? state.evidenceId = some old)
    (hcharged : state.quotaCharged = true) (hexpired : state.expired = false → old.expired = false)
    (hevent : event.evidenceId = state.evidenceId) :
    EvidenceInv (evidence.put state) (event :: charged)
      (l.debit (Entry.mk (.evidence event.evidenceId) event.makerspaceId event.bytes)) := by
  have hput := inv.put state hold (by simp [hcharged]) hexpired
  constructor
  · rintro id ⟨e, he, haccount⟩
    rcases mem_cons.mp he with rfl | hbefore
    · obtain rfl : event.evidenceId = id := Account.evidence.inj haccount
      exact ⟨state, mem_put_self hold, hevent.symm⟩
    · exact hput.known id ⟨e, hbefore, haccount⟩
  · rintro other hother hfree ⟨e, he, haccount⟩
    rcases mem_cons.mp he with rfl | hbefore
    · have hid : event.evidenceId = other.evidenceId := Account.evidence.inj haccount
      have hsame : other = state := eq_of_key_eq hother (mem_put_self hold) (hid.symm.trans hevent)
      rw [hsame, hcharged] at hfree
      cases hfree
    · exact hput.uncharged other hother hfree ⟨e, hbefore, haccount⟩
  · exact hput.unexpired
  · intro other hother
    rcases mem_cons.mp hother with rfl | hbefore
    · exact mem_cons_self
    · exact mem_cons_of_mem _ (inv.proven other hbefore)

theorem EvidenceInv.freeStorage (inv : EvidenceInv evidence charged s.ledger)
    {makerspaceId size id : Nat}
    (h : ∀ state ∈ evidence, state.evidenceId = id → state.expired = true) :
    EvidenceInv evidence charged
      (s.freeStorage settings makerspaceId size (.evidence id)).ledger where
  known := fun other hdebited => inv.known other (by simpa [Ledger.Debited] using hdebited)
  uncharged := fun state hstate hfree hdebited =>
    inv.uncharged state hstate hfree (by simpa [Ledger.Debited] using hdebited)
  unexpired := by
    intro state hstate hlive hrefunded
    refine inv.unexpired state hstate hlive (refunded_freeStorage ?_ hrefunded)
    intro heq
    rw [h state hstate (Account.evidence.inj heq)] at hlive
    cases hlive
  proven := fun event hevent => by simpa using inv.proven event hevent

theorem provenChargeBytes_debited (settings : Settings)
    (inv : EvidenceInv s.evidence s.evidenceCharged s.ledger) (state : EvidenceUploadFinalization) :
    s.provenChargeBytes settings state = 0 ∨
      Entry.mk (.evidence state.evidenceId) state.makerspaceId
        (s.provenChargeBytes settings state) ∈ s.ledger.debits := by
  unfold Books.provenChargeBytes
  simp only []
  split
  · exact .inl rfl
  · split
    · rename_i hany
      right
      obtain ⟨event, hevent, hmatch⟩ := List.any_eq_true.mp hany
      simp at hmatch
      have hdebit := inv.proven event hevent
      rw [hmatch.1.1.1.1, hmatch.1.1.1.2, hmatch.1.1.2] at hdebit
      exact hdebit
    · exact .inl rfl

variable {added : Table DocumentAdded} {released : List Nat}

structure DocumentInv (added : Table DocumentAdded) (released : List Nat)
    (l : Ledger Account) : Prop where
  known : ∀ uuid, l.Debited (.document uuid) → ∃ event ∈ added, event.eventUuid = uuid
  proven : ∀ event ∈ added, ∀ metadata ∈ event.metadata,
    Entry.mk (.document event.eventUuid) event.makerspaceId metadata.bytes ∈ l.debits
  released : ∀ uuid, l.Refunded (.document uuid) → uuid ∈ released

theorem DocumentInv.sameOn (inv : DocumentInv added released l)
    (h : SameOn Account.IsDocument l l') : DocumentInv added released l' where
  known := fun uuid hdebited => inv.known uuid ((h.debited (isDocument uuid)).mp hdebited)
  proven := fun event hevent metadata hmetadata =>
    (h _ (isDocument _)).1.mpr (inv.proven event hevent metadata hmetadata)
  released := fun uuid hrefunded =>
    inv.released uuid ((h.refunded (isDocument uuid)).mp hrefunded)

theorem DocumentInv.fresh (inv : DocumentInv added released l)
    (h : added.get? uuid = none) : ¬ l.Debited (.document uuid) := by
  intro hdebited
  obtain ⟨event, hevent, hid⟩ := inv.known uuid hdebited
  exact get?_eq_none.mp h event hevent hid

theorem DocumentInv.addFree (inv : DocumentInv added released l)
    (hfresh : added.get? event.eventUuid = none) (hfree : event.metadata = none) :
    DocumentInv (added.insert event hfresh) released l where
  known := by
    intro uuid hdebited
    obtain ⟨other, hother, hid⟩ := inv.known uuid hdebited
    exact ⟨other, (mem_insert hfresh).mpr (.inl hother), hid⟩
  proven := by
    intro other hother metadata hmetadata
    rcases (mem_insert hfresh).mp hother with hold | rfl
    · exact inv.proven other hold metadata hmetadata
    · rw [hfree] at hmetadata
      cases hmetadata
  released := inv.released

theorem DocumentInv.addCharged (inv : DocumentInv added released l)
    (hfresh : added.get? event.eventUuid = none)
    {chargeMeta : ChargeMeta} (hcharged : event.metadata = some chargeMeta) :
    DocumentInv (added.insert event hfresh) released
      (l.debit ⟨.document event.eventUuid, event.makerspaceId, chargeMeta.bytes⟩) where
  known := by
    rintro uuid ⟨e, he, haccount⟩
    rcases mem_cons.mp he with rfl | hbefore
    · exact ⟨event, (mem_insert hfresh).mpr (.inr rfl), Account.document.inj haccount⟩
    · obtain ⟨other, hother, hid⟩ := inv.known uuid ⟨e, hbefore, haccount⟩
      exact ⟨other, (mem_insert hfresh).mpr (.inl hother), hid⟩
  proven := by
    intro other hother metadata hmetadata
    rcases (mem_insert hfresh).mp hother with hold | rfl
    · exact mem_cons_of_mem _ (inv.proven other hold metadata hmetadata)
    · obtain rfl : chargeMeta = metadata := some.inj (hcharged.symm.trans hmetadata)
      exact mem_cons_self
  released := inv.released

theorem DocumentInv.freeStorage (inv : DocumentInv added released s.ledger)
    {makerspaceId size : Nat} :
    DocumentInv added (uuid :: released)
      (s.freeStorage settings makerspaceId size (.document uuid)).ledger where
  known := fun other hdebited => inv.known other (by simpa [Ledger.Debited] using hdebited)
  proven := fun event hevent metadata hmetadata => by
    simpa using inv.proven event hevent metadata hmetadata
  released := by
    intro other hrefunded
    by_cases heq : other = uuid
    · exact heq ▸ mem_cons_self
    · refine mem_cons_of_mem _ (inv.released other (refunded_freeStorage ?_ hrefunded))
      simpa using heq

theorem provenCharge_eq_some (inv : DocumentInv s.documentsAdded s.released s.ledger)
    {makerspaceId : Nat} {targetType : DocumentType}
    {proof : ChargeProof}
    (h : s.provenCharge settings makerspaceId targetType targetId objectKey rowCreatedAt =
      some proof) :
    Entry.mk (.document proof.chargeEvent) makerspaceId proof.sizeBytes ∈ s.ledger.debits ∧
      ¬ s.ledger.Refunded (.document proof.chargeEvent) := by
  unfold Books.provenCharge at h
  split at h
  · cases h
  · split at h
    · rename_i event hevents
      split at h
      · cases h
      · rename_i metadata hmetadata
        split at h
        · rename_i hvalid
          cases h
          have hmem : event ∈ s.documentsAdded.rows.filter _ := hevents ▸ mem_singleton_self _
          obtain ⟨hevent, hmatch⟩ := mem_filter.mp hmem
          simp at hmatch
          have hdebit := inv.proven event hevent metadata hmetadata
          rw [hmatch.1.1.1] at hdebit
          exact ⟨hdebit, fun hrefunded => hvalid.2.2.2.2 (inv.released _ hrefunded)⟩
        · cases h
    · cases h

variable {imports : Table TenantImportObject} {rollbacks : Table Rollback} {id : Nat}
variable {row old : TenantImportObject}

def Rollback.refunding (rollback : Rollback) (id : Nat) : Bool :=
  rollback.refunded && rollback.row.quotaCharged && rollback.row.size ≠ 0 && rollback.row.id = id

def refunding (rollbacks : Table Rollback) (id : Nat) : Bool :=
  rollbacks.rows.any (·.refunding id)

theorem refunding_eq_false :
    refunding rollbacks id = false ↔ ∀ rollback ∈ rollbacks, rollback.refunding id = false := by
  simp only [refunding, List.any_eq_false, Bool.not_eq_true]
  rfl

theorem mem_erase {worker : Nat} {rollback : Rollback} :
    rollback ∈ rollbacks.erase worker ↔ rollback ∈ rollbacks ∧ rollback.worker ≠ worker := by
  simp [Table.erase, Table.mem_def]

theorem mem_rollBack :
    row ∈ imports.mapRows (·.rollBack id) (rollBack_id id) ↔
      ∃ old ∈ imports, old.rollBack id = row := by
  simp [mem_mapRows]

structure ImportInv (settings : Settings) (imports : Table TenantImportObject)
    (rollbacks : Table Rollback) (l : Ledger Account) : Prop where
  known : ∀ id, l.Debited (.importObject id) → ∃ row ∈ imports, row.id = id
  staged : ∀ row ∈ imports, row.state = .staged →
    row.quotaCharged = false ∧ ¬ l.Debited (.importObject row.id)
  charged : ∀ row ∈ imports, row.quotaCharged = true → settings.selfHost = false → row.size ≠ 0 →
    Entry.mk (.importObject row.id) row.makerspaceId row.size ∈ l.debits ∧
      (refunding rollbacks row.id = false → ¬ l.Refunded (.importObject row.id))
  read : ∀ rollback ∈ rollbacks, ∃ row ∈ imports, row.id = rollback.row.id ∧
    row.makerspaceId = rollback.row.makerspaceId ∧ row.size = rollback.row.size

theorem ImportInv.sameOn (inv : ImportInv settings imports rollbacks l)
    (h : SameOn Account.IsImport l l') : ImportInv settings imports rollbacks l' where
  known := fun id hdebited => inv.known id ((h.debited (isImport id)).mp hdebited)
  staged := fun row hrow hstaged => (inv.staged row hrow hstaged).imp_right
    fun hfresh hdebited => hfresh ((h.debited (isImport _)).mp hdebited)
  charged := by
    intro row hrow hcharged hself hsize
    obtain ⟨hdebit, hrefund⟩ := inv.charged row hrow hcharged hself hsize
    exact ⟨(h _ (isImport _)).1.mpr hdebit, fun hidle hrefunded =>
      hrefund hidle ((h.refunded (isImport _)).mp hrefunded)⟩
  read := inv.read

theorem ImportInv.putRow (inv : ImportInv settings imports rollbacks l)
    (hold : imports.get? row.id = some old)
    (hmakerspace : row.makerspaceId = old.makerspaceId) (hsize : row.size = old.size) :
    (∀ id, l.Debited (.importObject id) → ∃ other ∈ imports.put row, other.id = id) ∧
      ∀ rollback ∈ rollbacks, ∃ other ∈ imports.put row, other.id = rollback.row.id ∧
        other.makerspaceId = rollback.row.makerspaceId ∧ other.size = rollback.row.size := by
  have hid : old.id = row.id := key_of_get? hold
  constructor
  · intro id hdebited
    obtain ⟨other, hother, rfl⟩ := inv.known id hdebited
    by_cases heq : other.id = row.id
    · exact ⟨row, mem_put_self hold, heq.symm⟩
    · exact ⟨other, mem_put.mpr (.inl ⟨hother, heq⟩), rfl⟩
  · intro rollback hrollback
    obtain ⟨other, hother, hotherId, hotherMakerspace, hotherSize⟩ := inv.read rollback hrollback
    by_cases heq : other.id = row.id
    · have hsame : other = old := eq_of_key_eq hother (mem_of_get? hold) (heq.trans hid.symm)
      subst hsame
      exact ⟨row, mem_put_self hold, heq.symm.trans hotherId,
        hmakerspace.trans hotherMakerspace, hsize.trans hotherSize⟩
    · exact ⟨other, mem_put.mpr (.inl ⟨hother, heq⟩), hotherId, hotherMakerspace, hotherSize⟩

theorem ImportInv.put (inv : ImportInv settings imports rollbacks l)
    (row : TenantImportObject) {old : TenantImportObject} (hold : imports.get? row.id = some old)
    (hmakerspace : row.makerspaceId = old.makerspaceId) (hsize : row.size = old.size)
    (hstaged : row.state = .staged → old.state = .staged)
    (hcharged : row.quotaCharged = true → old.quotaCharged = true) :
    ImportInv settings (imports.put row) rollbacks l := by
  have hmem : old ∈ imports := mem_of_get? hold
  have hid : old.id = row.id := key_of_get? hold
  constructor
  · exact (inv.putRow hold hmakerspace hsize).1
  · intro other hother hstate
    rcases mem_of_mem_put hother with rfl | ⟨hkept, -⟩
    · obtain ⟨hfree, hfresh⟩ := inv.staged old hmem (hstaged hstate)
      refine ⟨?_, hid ▸ hfresh⟩
      cases hflag : other.quotaCharged with
      | false => rfl
      | true => exact absurd (hcharged hflag) (by simp [hfree])
    · exact inv.staged other hkept hstate
  · intro other hother hflag hself hpositive
    rcases mem_of_mem_put hother with rfl | ⟨hkept, -⟩
    · rw [hmakerspace, hsize, ← hid]
      exact inv.charged old hmem (hcharged hflag) hself (hsize ▸ hpositive)
    · exact inv.charged other hkept hflag hself hpositive
  · exact (inv.putRow hold hmakerspace hsize).2

theorem ImportInv.freeStorage (inv : ImportInv settings imports rollbacks s.ledger)
    {makerspaceId size : Nat}
    (h : ∀ row ∈ imports, row.id = id → row.quotaCharged = true → row.size ≠ 0 →
      refunding rollbacks id = true) :
    ImportInv settings imports rollbacks
      (s.freeStorage settings makerspaceId size (.importObject id)).ledger where
  known := fun other hdebited => inv.known other (by simpa [Ledger.Debited] using hdebited)
  staged := fun row hrow hstaged => (inv.staged row hrow hstaged).imp_right
    fun hfresh hdebited => hfresh (by simpa [Ledger.Debited] using hdebited)
  charged := by
    intro row hrow hcharged hself hsize
    obtain ⟨hdebit, hrefund⟩ := inv.charged row hrow hcharged hself hsize
    refine ⟨by simpa using hdebit, fun hidle => ?_⟩
    by_cases heq : row.id = id
    · rw [heq, h row hrow heq hcharged hsize] at hidle
      cases hidle
    · refine fun hrefunded => hrefund hidle (refunded_freeStorage ?_ hrefunded)
      simpa using heq
  read := inv.read

theorem ImportInv.setRollbacks (inv : ImportInv settings imports rollbacks l)
    {rollbacks' : Table Rollback}
    (hread : ∀ rollback ∈ rollbacks', ∃ old ∈ rollbacks, rollback.row = old.row)
    (hidle : ∀ row ∈ imports, row.quotaCharged = true → settings.selfHost = false →
      refunding rollbacks' row.id = false → refunding rollbacks row.id = false) :
    ImportInv settings imports rollbacks' l where
  known := inv.known
  staged := inv.staged
  charged := by
    intro row hrow hcharged hself hsize
    obtain ⟨hdebit, hrefund⟩ := inv.charged row hrow hcharged hself hsize
    exact ⟨hdebit, fun hfree => hrefund (hidle row hrow hcharged hself hfree)⟩
  read := by
    intro rollback hrollback
    obtain ⟨old, hold, hrow⟩ := hread rollback hrollback
    rw [hrow]
    exact inv.read old hold

theorem ImportInv.markFree (inv : ImportInv settings imports rollbacks l)
    (row : TenantImportObject) (hold : imports.get? row.id = some old)
    (hmakerspace : row.makerspaceId = old.makerspaceId) (hsize : row.size = old.size)
    (hpromoted : row.state ≠ .staged) (hfree : settings.selfHost = true ∨ row.size = 0) :
    ImportInv settings (imports.put row) rollbacks l where
  known := (inv.putRow hold hmakerspace hsize).1
  staged := by
    intro other hother hstate
    rcases mem_of_mem_put hother with rfl | ⟨hkept, -⟩
    · exact absurd hstate hpromoted
    · exact inv.staged other hkept hstate
  charged := by
    intro other hother hflag hself hpositive
    rcases mem_of_mem_put hother with rfl | ⟨hkept, -⟩
    · rcases hfree with hself' | hzero
      · rw [hself] at hself'
        cases hself'
      · exact absurd hzero hpositive
    · exact inv.charged other hkept hflag hself hpositive
  read := (inv.putRow hold hmakerspace hsize).2

theorem ImportInv.debit (inv : ImportInv settings imports rollbacks l) (sound : l.Sound)
    (row : TenantImportObject) (hold : imports.get? row.id = some old)
    (hmakerspace : row.makerspaceId = old.makerspaceId) (hsize : row.size = old.size)
    (hstaged : old.state = .staged) (hpromoted : row.state ≠ .staged) :
    ImportInv settings (imports.put row) rollbacks
      (l.debit ⟨.importObject row.id, row.makerspaceId, row.size⟩) := by
  have hmem : old ∈ imports := mem_of_get? hold
  have hid : old.id = row.id := key_of_get? hold
  have hfresh : ¬ l.Debited (.importObject row.id) := hid ▸ (inv.staged old hmem hstaged).2
  constructor
  · rintro id ⟨e, he, haccount⟩
    rcases mem_cons.mp he with rfl | hbefore
    · exact ⟨row, mem_put_self hold, Account.importObject.inj haccount⟩
    · exact (inv.putRow hold hmakerspace hsize).1 id ⟨e, hbefore, haccount⟩
  · intro other hother hstate
    rcases mem_put.mp hother with ⟨hkept, hne⟩ | ⟨rfl, -⟩
    · obtain ⟨hfree, hnone⟩ := inv.staged other hkept hstate
      refine ⟨hfree, ?_⟩
      rintro ⟨e, he, haccount⟩
      rcases mem_cons.mp he with rfl | hbefore
      · exact hne (Account.importObject.inj haccount).symm
      · exact hnone ⟨e, hbefore, haccount⟩
    · exact absurd hstate hpromoted
  · intro other hother hflag hself hpositive
    rcases mem_put.mp hother with ⟨hkept, -⟩ | ⟨rfl, -⟩
    · obtain ⟨hdebit, hrefund⟩ := inv.charged other hkept hflag hself hpositive
      exact ⟨mem_cons_of_mem _ hdebit, hrefund⟩
    · refine ⟨mem_cons_self, fun _ => ?_⟩
      rintro ⟨e, he, haccount⟩
      exact hfresh ⟨e, sound.debited e he, haccount⟩
  · exact (inv.putRow hold hmakerspace hsize).2

variable {evidenceId size makerspaceId id claimedAt worker : Nat} {l : Ledger Account}

structure Inv (settings : Settings) (s : Books) : Prop where
  counted : Counted s.used s.ledger
  evidence : EvidenceInv s.evidence s.evidenceCharged s.ledger
  documents : DocumentInv s.documentsAdded s.released s.ledger
  imports : ImportInv settings s.imports s.rollbacks s.ledger

theorem inv_initial (settings : Settings) (limit : Nat → Option Nat) :
    Inv settings (Books.initial limit) where
  counted := ⟨fun _ => rfl, Ledger.sound_empty⟩
  evidence := by constructor <;> simp [Books.initial, Ledger.Debited, Ledger.Refunded]
  documents := by constructor <;> simp [Books.initial, Ledger.Debited, Ledger.Refunded]
  imports := by constructor <;> simp [Books.initial, Ledger.Debited]

/-- Promotions debit what they mark, refunds are of charged rows, once, and their rollbacks are
marked. -/
def Books.fits (settings : Settings) (s : Books) : Event → Bool
  | .promoteImport id _ => settings.selfHost || (s.imports.get? id).all fun row =>
    row.size = 0 || (s.limit row.makerspaceId).isSome
  | .failImport id _ => settings.selfHost || !refunding s.rollbacks id
  | .refundRollback worker => settings.selfHost || (s.rollbacks.get? worker).all fun rollback =>
    !rollback.row.quotaCharged || rollback.row.size = 0 ||
      ((s.imports.get? rollback.row.id).any (·.quotaCharged) &&
        !refunding s.rollbacks rollback.row.id)
  | .crash worker => settings.selfHost || (s.rollbacks.get? worker).all fun rollback =>
    !rollback.refunding rollback.row.id
  | _ => true

theorem inv_chargeEvidence (inv : Inv settings s)
    (h : s.chargeEvidence settings evidenceId size = .ok s') : Inv settings s' := by
  simp [Books.chargeEvidence] at h
  obtain ⟨state, hget, _, h⟩ := h
  obtain rfl : state.evidenceId = evidenceId := key_of_get? hget
  split at h
  · cases h
    exact inv
  · rename_i hfree
    obtain ⟨⟨_, _⟩, hadd, h⟩ := bind_ok.mp h
    rcases addStorage_cases hadd with ⟨rfl, rfl, -⟩ | ⟨rfl, rfl, -⟩
    · cases h
      exact inv
    · cases h
      have hfresh : ¬ s.ledger.Debited (.evidence state.evidenceId) :=
        inv.evidence.uncharged state (mem_of_get? hget) (by simpa using hfree)
      exact {
        counted := inv.counted.debit hfresh
        evidence := inv.evidence.debit { state with quotaCharged := true, updatedAt := s.now }
          ⟨state.makerspaceId, state.evidenceId, _, s.now, settings.databaseId⟩ hget rfl id rfl
        documents := inv.documents.sameOn (sameOn_debit (fun h => h))
        imports := inv.imports.sameOn (sameOn_debit (fun h => h)) }

theorem inv_setEvidence {evidence : Table EvidenceUploadFinalization} (inv : Inv settings s)
    (h : EvidenceInv evidence s.evidenceCharged s.ledger) :
    Inv settings { s with evidence := evidence } :=
  { inv with evidence := h }

theorem inv_uploadEvidence (inv : Inv settings s)
    (h : s.uploadEvidence evidenceId makerspaceId = .ok s') : Inv settings s' := by
  simp only [Books.uploadEvidence, bind_ok, insertNew_ok] at h
  obtain ⟨_, ⟨hfresh, rfl⟩, h⟩ := h
  cases h
  have hnone : ¬ s.ledger.Debited (.evidence evidenceId) := by
    intro hdebited
    obtain ⟨state, hstate, hid⟩ := inv.evidence.known evidenceId hdebited
    exact get?_eq_none.mp hfresh state hstate hid
  refine inv_setEvidence inv {
    known := ?_
    uncharged := ?_
    unexpired := ?_
    proven := inv.evidence.proven }
  · intro id hdebited
    obtain ⟨state, hstate, hid⟩ := inv.evidence.known id hdebited
    exact ⟨state, (mem_insert hfresh).mpr (.inl hstate), hid⟩
  · intro state hstate hfree
    rcases (mem_insert hfresh).mp hstate with hold | rfl
    · exact inv.evidence.uncharged state hold hfree
    · exact hnone
  · intro state hstate hlive
    rcases (mem_insert hfresh).mp hstate with hold | rfl
    · exact inv.evidence.unexpired state hold hlive
    · rintro ⟨e, he, haccount⟩
      exact hnone ⟨e, inv.counted.sound.debited e he, haccount⟩

theorem inv_completeExpiry {token : Nat} (inv : Inv settings s)
    (h : s.completeExpiry settings evidenceId token = .ok s') : Inv settings s' := by
  simp only [Books.completeExpiry, bind_ok, orRefuse_ok] at h
  obtain ⟨state, hfilter, h⟩ := h
  obtain ⟨hget, hlive⟩ := filter_eq_some_iff.mp hfilter
  simp only [Bool.and_eq_true, Bool.not_eq_true'] at hlive
  obtain rfl : state.evidenceId = evidenceId := key_of_get? hget
  have hput : EvidenceInv (s.evidence.put { state with expired := true, expiryToken := none })
      s.evidenceCharged s.ledger := by
    refine inv.evidence.put _ hget (fun hfree => hfree) fun hexpired => ?_
    cases hexpired
  split at h
  · rename_i hreleased
    cases h
    have hdebited := (provenChargeBytes_debited settings inv.evidence state).resolve_left hreleased
    have hunrefunded := inv.evidence.unexpired state (mem_of_get? hget) hlive.1
    have hinv := inv_setEvidence inv hput
    exact {
      counted := hinv.counted.freeStorage (fun _ _ => hdebited) fun _ _ => hunrefunded
      evidence := by
        simp only [freeStorage_evidence, freeStorage_evidenceCharged]
        refine hinv.evidence.freeStorage fun other hother hid => ?_
        rw [eq_of_key_eq hother (mem_put_self hget) hid]
      documents := by
        simp only [freeStorage_documentsAdded, freeStorage_released]
        exact inv.documents.sameOn (sameOn_freeStorage (fun h => h))
      imports := by
        simp only [freeStorage_imports, freeStorage_rollbacks]
        exact inv.imports.sameOn (sameOn_freeStorage (fun h => h)) }
  · cases h
    exact inv_setEvidence inv hput

theorem inv_addDocument {eventUuid : Nat}
    {targetType : DocumentType} (inv : Inv settings s)
    (h : s.addDocument settings eventUuid makerspaceId targetType targetId objectKey size
      rowCreatedAt = .ok s') : Inv settings s' := by
  simp only [Books.addDocument, bind_ok, insertNew_ok] at h
  obtain ⟨⟨_, _⟩, hadd, metadata, hmetadata, _, ⟨hfresh, rfl⟩, h⟩ := h
  cases h
  rcases addStorage_cases hadd with ⟨rfl, rfl, -⟩ | ⟨rfl, rfl, -⟩
  · obtain rfl : none = metadata := ok.inj hmetadata
    exact { inv with documents := inv.documents.addFree hfresh rfl }
  · obtain ⟨_, rfl, hbytes⟩ := addedMetadata_debited hmetadata
    have hnone : ¬ s.ledger.Debited (.document eventUuid) := inv.documents.fresh hfresh
    exact {
      counted := inv.counted.debit hnone
      evidence := inv.evidence.sameOn (sameOn_debit (fun h => h))
      documents := by
        have hdocuments := inv.documents.addCharged hfresh rfl
        rw [hbytes] at hdocuments
        exact hdocuments
      imports := inv.imports.sameOn (sameOn_debit (fun h => h)) }

theorem inv_releaseCharge (inv : Inv settings s) (proof : ChargeProof) :
    Inv settings (s.releaseCharge settings proof) := by
  unfold Books.releaseCharge
  split
  · exact inv
  · split
    · exact inv
    · rename_i hproven
      simp only [not_or, not_not] at hproven
      obtain ⟨hdebited, hrefunded⟩ := provenCharge_eq_some inv.documents hproven.1
      exact {
        counted := inv.counted.freeStorage (fun _ _ => hdebited) fun _ _ => hrefunded
        evidence := by
          simp only [freeStorage_evidence, freeStorage_evidenceCharged]
          exact inv.evidence.sameOn (sameOn_freeStorage (fun h => h))
        documents := by
          simp only [freeStorage_documentsAdded, freeStorage_released]
          exact inv.documents.freeStorage
        imports := by
          simp only [freeStorage_imports, freeStorage_rollbacks]
          exact inv.imports.sameOn (sameOn_freeStorage (fun h => h)) }

theorem inv_setImports (inv : Inv settings s)
    (h : ImportInv settings imports s.rollbacks s.ledger) :
    Inv settings { s with imports := imports } :=
  { inv with imports := h }

theorem inv_stageImport (inv : Inv settings s)
    (h : s.stageImport id makerspaceId size = .ok s') : Inv settings s' := by
  simp only [Books.stageImport, bind_ok, insertNew_ok] at h
  obtain ⟨_, ⟨hfresh, rfl⟩, h⟩ := h
  cases h
  refine inv_setImports inv ?_
  constructor
  · intro other hdebited
    obtain ⟨row, hrow, hid⟩ := inv.imports.known other hdebited
    exact ⟨row, (mem_insert hfresh).mpr (.inl hrow), hid⟩
  · intro row hrow hstaged
    rcases (mem_insert hfresh).mp hrow with hold | rfl
    · exact inv.imports.staged row hold hstaged
    · refine ⟨rfl, fun hdebited => ?_⟩
      obtain ⟨other, hother, hid⟩ := inv.imports.known _ hdebited
      exact get?_eq_none.mp hfresh other hother hid
  · intro row hrow hcharged
    rcases (mem_insert hfresh).mp hrow with hold | rfl
    · exact inv.imports.charged row hold hcharged
    · cases hcharged
  · intro rollback hrollback
    obtain ⟨row, hrow, hrest⟩ := inv.imports.read rollback hrollback
    exact ⟨row, (mem_insert hfresh).mpr (.inl hrow), hrest⟩

theorem inv_promoteImport (inv : Inv settings s)
    (hfits : s.fits settings (.promoteImport id claimedAt) = true)
    (h : s.promoteImport settings id claimedAt = .ok s') : Inv settings s' := by
  simp only [Books.promoteImport, bind_ok, orRefuse_ok, require_ok] at h
  obtain ⟨row, hfilter, ⟨_, _⟩, hadd, _, _, h⟩ := h
  cases h
  obtain ⟨hget, hclaimed⟩ := filter_eq_some_iff.mp hfilter
  simp at hclaimed
  obtain rfl : row.id = id := key_of_get? hget
  have hstaged := inv.imports.staged row (mem_of_get? hget) hclaimed.1
  rcases addStorage_cases hadd with ⟨rfl, rfl, hfree⟩ | ⟨rfl, rfl, -⟩
  · -- no debit: the row is empty, or the deployment keeps no counters
    have hharmless : settings.selfHost = true ∨ row.size = 0 := by
      simp [Books.fits, hget, isSome_iff_ne_none] at hfits
      rcases hfree with hself | hsize | hlimit
      · exact .inl hself
      · exact .inr hsize
      · exact hfits.imp_right fun h => h.resolve_right fun hne => hne hlimit
    refine inv_setImports inv ?_
    exact inv.imports.markFree { row with state := .promoted, quotaCharged := true }
      hget rfl rfl (by simp) hharmless
  · exact {
      counted := inv.counted.debit hstaged.2
      evidence := inv.evidence.sameOn (sameOn_debit (fun h => h))
      documents := inv.documents.sameOn (sameOn_debit (fun h => h))
      imports := inv.imports.debit inv.counted.sound
        { row with state := .promoted, quotaCharged := true } hget rfl rfl hclaimed.1
        (by simp) }

theorem inv_refundImport (inv : Inv settings s) (makerspaceId size id : Nat)
    (himports : ImportInv settings imports rollbacks s.ledger)
    (hdebited : settings.selfHost = false → size ≠ 0 →
      Entry.mk (.importObject id) makerspaceId size ∈ s.ledger.debits ∧
        ¬ s.ledger.Refunded (.importObject id))
    (hrows : ∀ row ∈ imports, row.id = id → row.quotaCharged = true → row.size ≠ 0 →
      refunding rollbacks id = true) :
    Inv settings { s.freeStorage settings makerspaceId size (.importObject id) with
      imports := imports, rollbacks := rollbacks } where
  counted := inv.counted.freeStorage (fun hself hsize => (hdebited hself hsize).1)
    fun hself hsize => (hdebited hself hsize).2
  evidence := by
    simp only [freeStorage_evidence, freeStorage_evidenceCharged]
    exact inv.evidence.sameOn (sameOn_freeStorage (fun h => h))
  documents := by
    simp only [freeStorage_documentsAdded, freeStorage_released]
    exact inv.documents.sameOn (sameOn_freeStorage (fun h => h))
  imports := himports.freeStorage hrows

theorem inv_failImport (inv : Inv settings s)
    (hfits : s.fits settings (.failImport id claimedAt) = true)
    (h : s.failImport settings id claimedAt = .ok s') : Inv settings s' := by
  simp only [Books.failImport, bind_ok, orRefuse_ok] at h
  obtain ⟨row, hfilter, h⟩ := h
  cases h
  obtain ⟨hget, -⟩ := filter_eq_some_iff.mp hfilter
  obtain rfl : row.id = id := key_of_get? hget
  have himports := inv.imports.put { row with state := .failed, quotaCharged := false }
    hget rfl rfl (fun hstate => by cases hstate) (by simp)
  split
  · rename_i hcharged
    have hrefund := inv_refundImport inv row.makerspaceId row.size row.id himports ?_ ?_
    · simpa using hrefund
    · intro hself hsize
      obtain ⟨hdebit, hidle⟩ := inv.imports.charged row (mem_of_get? hget) hcharged hself hsize
      refine ⟨hdebit, hidle ?_⟩
      simpa [Books.fits, hself] using hfits
    · intro other hother hid hflag
      rw [eq_of_key_eq hother (mem_put_self hget) hid] at hflag
      cases hflag
  · exact inv_setImports inv himports

theorem inv_readRollback (inv : Inv settings s)
    (h : s.readRollback worker id = .ok s') : Inv settings s' := by
  simp only [Books.readRollback, bind_ok, orRefuse_ok, insertNew_ok] at h
  obtain ⟨row, hfilter, _, ⟨hfresh, rfl⟩, h⟩ := h
  cases h
  obtain ⟨hget, -⟩ := filter_eq_some_iff.mp hfilter
  refine { inv with imports := ?_ }
  exact {
    known := inv.imports.known
    staged := inv.imports.staged
    charged := by
      intro other hother hcharged hself hsize
      obtain ⟨hdebit, hidle⟩ := inv.imports.charged other hother hcharged hself hsize
      refine ⟨hdebit, fun hfree => hidle ?_⟩
      rw [refunding_eq_false] at hfree ⊢
      exact fun rollback hrollback =>
        hfree rollback ((mem_insert hfresh).mpr (.inl hrollback))
    read := by
      intro rollback hrollback
      rcases (mem_insert hfresh).mp hrollback with hold | rfl
      · exact inv.imports.read rollback hold
      · exact ⟨row, mem_of_get? hget, rfl, rfl, rfl⟩ }

theorem inv_refundRollback (inv : Inv settings s)
    (hfits : s.fits settings (.refundRollback worker) = true)
    (h : s.refundRollback settings worker = .ok s') : Inv settings s' := by
  simp only [Books.refundRollback, bind_ok, orRefuse_ok] at h
  obtain ⟨rollback, hfilter, h⟩ := h
  cases h
  obtain ⟨hget, hunrefunded⟩ := filter_eq_some_iff.mp hfilter
  have hmem : rollback ∈ s.rollbacks := mem_of_get? hget
  obtain rfl : rollback.worker = worker := key_of_get? hget
  have himports : ImportInv settings s.imports (s.rollbacks.put { rollback with refunded := true })
      s.ledger := by
    refine inv.imports.setRollbacks ?_ ?_
    · intro other hother
      rcases mem_of_mem_put hother with rfl | ⟨hkept, -⟩
      · exact ⟨rollback, hmem, rfl⟩
      · exact ⟨other, hkept, rfl⟩
    · intro row _ _ _ hfree
      rw [refunding_eq_false] at hfree ⊢
      intro other hother
      by_cases heq : other.worker = rollback.worker
      · have hsame : other = rollback := eq_of_key_eq hother hmem heq
        simp only [Bool.not_eq_true'] at hunrefunded
        simp [hsame, Rollback.refunding, hunrefunded]
      · exact hfree other (mem_put.mpr (.inl ⟨hother, heq⟩))
  split
  · rename_i hcharged
    have hrefund := inv_refundImport inv rollback.row.makerspaceId rollback.row.size
      rollback.row.id himports ?_ ?_
    · simpa using hrefund
    · intro hself hsize
      obtain ⟨row, hrow, hid, hmakerspace, hrowSize⟩ := inv.imports.read rollback hmem
      have hrowGet : s.imports.get? rollback.row.id = some row := get?_eq_some.mpr ⟨hrow, hid⟩
      simp [Books.fits, hself, hget, hcharged, hsize, hrowGet, Bool.not_eq_true'] at hfits
      obtain ⟨hdebit, hidle⟩ := inv.imports.charged row hrow hfits.1 hself (hrowSize ▸ hsize)
      rw [hid, hmakerspace, hrowSize] at hdebit
      rw [hid] at hidle
      exact ⟨hdebit, hidle hfits.2⟩
    · intro row hrow hid hflag hsize
      obtain ⟨other, hother, hotherId, -, hotherSize⟩ := inv.imports.read rollback hmem
      have hsame : row = other := eq_of_key_eq hrow hother (hid.trans hotherId.symm)
      have hrollback : ({ rollback with refunded := true } : Rollback).refunding
          rollback.row.id = true := by
        simp [Rollback.refunding, hcharged, ← hotherSize, ← hsame, hsize]
      exact List.any_eq_true.mpr ⟨_, mem_put_self hget, hrollback⟩
  · exact { inv with imports := himports }

theorem ImportInv.eraseRollback (inv : ImportInv settings imports rollbacks l)
    (h : ∀ rollback, rollbacks.get? worker = some rollback → ∀ row ∈ imports,
      row.quotaCharged = true → settings.selfHost = false → rollback.refunding row.id = false) :
    ImportInv settings imports (rollbacks.erase worker) l := by
  refine inv.setRollbacks ?_ ?_
  · intro rollback hrollback
    exact ⟨rollback, (mem_erase.mp hrollback).1, rfl⟩
  · intro row hrow hcharged hself hfree
    rw [refunding_eq_false] at hfree ⊢
    intro rollback hrollback
    by_cases heq : rollback.worker = worker
    · exact h rollback (get?_eq_some.mpr ⟨hrollback, heq⟩) row hrow hcharged hself
    · exact hfree rollback (mem_erase.mpr ⟨hrollback, heq⟩)

theorem rollBack_eq (id : Nat) (row : TenantImportObject) :
    row.rollBack id = row ∧ row.id ≠ id ∨
      row.rollBack id = { row with state := .rolledBack, quotaCharged := false } ∧ row.id = id := by
  unfold TenantImportObject.rollBack
  split
  · rename_i hid
    exact .inr ⟨rfl, hid⟩
  · rename_i hne
    exact .inl ⟨rfl, hne⟩

theorem ImportInv.rollBack (inv : ImportInv settings imports rollbacks l) (id : Nat) :
    ImportInv settings (imports.mapRows (·.rollBack id) (rollBack_id id)) rollbacks l where
  known := by
    intro other hdebited
    obtain ⟨row, hrow, hid⟩ := inv.known other hdebited
    exact ⟨row.rollBack id, mem_rollBack.mpr ⟨row, hrow, rfl⟩, (rollBack_id id row).trans hid⟩
  staged := by
    intro row' hrow' hstaged
    obtain ⟨row, hrow, rfl⟩ := mem_rollBack.mp hrow'
    rcases rollBack_eq id row with ⟨heq, -⟩ | ⟨heq, -⟩
    · rw [heq] at hstaged ⊢
      exact inv.staged row hrow hstaged
    · rw [heq] at hstaged
      cases hstaged
  charged := by
    intro row' hrow' hcharged
    obtain ⟨row, hrow, rfl⟩ := mem_rollBack.mp hrow'
    rcases rollBack_eq id row with ⟨heq, -⟩ | ⟨heq, -⟩
    · rw [heq] at hcharged ⊢
      exact inv.charged row hrow hcharged
    · rw [heq] at hcharged
      cases hcharged
  read := by
    intro rollback hrollback
    obtain ⟨row, hrow, hrest⟩ := inv.read rollback hrollback
    refine ⟨row.rollBack id, mem_rollBack.mpr ⟨row, hrow, rfl⟩, ?_⟩
    rcases rollBack_eq id row with ⟨heq, -⟩ | ⟨heq, -⟩
    · rw [heq]
      exact hrest
    · rw [heq]
      exact hrest

theorem inv_markRollback (inv : Inv settings s)
    (h : s.markRollback worker = .ok s') : Inv settings s' := by
  simp only [Books.markRollback, bind_ok, orRefuse_ok] at h
  obtain ⟨rollback, hfilter, h⟩ := h
  cases h
  obtain ⟨hget, -⟩ := filter_eq_some_iff.mp hfilter
  refine { inv with imports := (inv.imports.rollBack rollback.row.id).eraseRollback ?_ }
  intro other hother row' hrow' hcharged _
  obtain rfl : rollback = other := some.inj (hget.symm.trans hother)
  obtain ⟨row, -, rfl⟩ := mem_rollBack.mp hrow'
  rcases rollBack_eq rollback.row.id row with ⟨heq, hne⟩ | ⟨heq, -⟩
  · rw [heq]
    simp [Rollback.refunding, Ne.symm hne]
  · rw [heq] at hcharged
    cases hcharged

theorem inv_crash (inv : Inv settings s) (hfits : s.fits settings (.crash worker) = true) :
    Inv settings { s with rollbacks := s.rollbacks.erase worker } := by
  refine { inv with imports := inv.imports.eraseRollback ?_ }
  intro rollback hget row _ _ hself
  simp only [Books.fits, hself, hget, all_some, Bool.false_or, Bool.not_eq_true'] at hfits
  by_cases heq : rollback.row.id = row.id
  · exact heq ▸ hfits
  · simp [Rollback.refunding, heq]

theorem inv_step {event : Event} (inv : Inv settings s) (hfits : s.fits settings event = true)
    (h : s.step settings event = .ok s') : Inv settings s' := by
  cases event with
  | tick | setLimit =>
    cases h
    exact { inv with }
  | uploadEvidence => exact inv_uploadEvidence inv h
  | finalizeEvidence evidenceId =>
    simp only [Books.step, Books.finalizeEvidence, bind_ok, orRefuse_ok] at h
    obtain ⟨state, hfilter, h⟩ := h
    cases h
    obtain ⟨hget, -⟩ := filter_eq_some_iff.mp hfilter
    obtain rfl : state.evidenceId = evidenceId := key_of_get? hget
    exact inv_setEvidence inv (inv.evidence.put _ hget id id)
  | chargeEvidence => exact inv_chargeEvidence inv h
  | claimExpiry evidenceId =>
    simp only [Books.step, Books.claimExpiry, bind_ok, orRefuse_ok] at h
    obtain ⟨state, hfilter, h⟩ := h
    cases h
    obtain ⟨hget, -⟩ := filter_eq_some_iff.mp hfilter
    obtain rfl : state.evidenceId = evidenceId := key_of_get? hget
    exact inv_setEvidence inv (inv.evidence.put _ hget id id)
  | completeExpiry => exact inv_completeExpiry inv h
  | addDocument =>
    exact inv_addDocument inv h
  | releaseDocument proof =>
    cases h
    exact inv_releaseCharge inv proof
  | stageImport => exact inv_stageImport inv h
  | claimImport id =>
    simp only [Books.step, Books.claimImport, bind_ok, orRefuse_ok] at h
    obtain ⟨row, hfilter, h⟩ := h
    cases h
    obtain ⟨hget, -⟩ := filter_eq_some_iff.mp hfilter
    obtain rfl : row.id = id := key_of_get? hget
    refine inv_setImports inv (inv.imports.put _ hget rfl rfl ?_ ?_)
    · exact fun hstaged => hstaged
    · exact fun hcharged => hcharged
  | renewClaim id =>
    simp only [Books.step, Books.renewClaim, bind_ok, orRefuse_ok] at h
    obtain ⟨row, hfilter, h⟩ := h
    cases h
    obtain ⟨hget, -⟩ := filter_eq_some_iff.mp hfilter
    obtain rfl : row.id = id := key_of_get? hget
    refine inv_setImports inv (inv.imports.put _ hget rfl rfl ?_ ?_)
    · exact fun hstaged => hstaged
    · exact fun hcharged => hcharged
  | promoteImport => exact inv_promoteImport inv hfits h
  | verifyImport id =>
    simp only [Books.step, Books.verifyImport, bind_ok, orRefuse_ok] at h
    obtain ⟨row, hfilter, h⟩ := h
    cases h
    obtain ⟨hget, -⟩ := filter_eq_some_iff.mp hfilter
    obtain rfl : row.id = id := key_of_get? hget
    refine inv_setImports inv (inv.imports.put _ hget rfl rfl ?_ ?_)
    · intro hstaged
      cases hstaged
    · exact fun hcharged => hcharged
  | failImport => exact inv_failImport inv hfits h
  | readRollback => exact inv_readRollback inv h
  | refundRollback => exact inv_refundRollback inv hfits h
  | markRollback => exact inv_markRollback inv h
  | crash =>
    cases h
    exact inv_crash inv hfits

/-- In fitting runs counters are debits without refunds, each refunded once and no more than
debited. -/
theorem used_of_run (settings : Settings) (limit : Nat → Option Nat) (events : List Event)
    (h : Throughout (Books.step settings) (fun s event => s.fits settings event = true)
      (Books.initial limit) events) :
    (∀ makerspaceId, (run (Books.step settings) (Books.initial limit) events).used makerspaceId =
      (run (Books.step settings) (Books.initial limit) events).ledger.outstanding makerspaceId) ∧
    (run (Books.step settings) (Books.initial limit) events).ledger.Sound := by
  have inv : Inv settings (run (Books.step settings) (Books.initial limit) events) :=
    run_preserves_throughout (I := Inv settings) (P := fun s event => s.fits settings event = true)
      (fun inv hfits hstep => inv_step inv hfits hstep) (inv_initial settings limit) h
  exact ⟨inv.counted.counter, inv.counted.sound⟩

def managed : Settings where
  selfHost := false
  databaseId := some 1
  storageOrigin := some 1
  promotionLease := 900

def chargedPhoto : List Event :=
  [.uploadEvidence 1 1, .finalizeEvidence 1 100, .chargeEvidence 1 100]

def rolledBackImport : List Event :=
  [.stageImport 2 1 60, .claimImport 2, .promoteImport 2 0, .verifyImport 2,
    .readRollback 7 2, .refundRollback 7, .markRollback 7]

theorem rollback_refunds_once :
    (run (Books.step managed) (Books.initial fun _ => some 1000)
      (chargedPhoto ++ rolledBackImport)).used 1 = 100 ∧
      (run (Books.step managed) (Books.initial fun _ => some 1000)
        (chargedPhoto ++ rolledBackImport)).ledger.Sound := by
  have h := used_of_run managed (fun _ => some 1000) (chargedPhoto ++ rolledBackImport)
    (by decide +kernel)
  exact ⟨(h.1 1).trans (by decide +kernel), h.2⟩

/-- An unlimited import is refunded out of the photo, and a repeated rollback twice. -/
theorem refunds_without_debit :
    ((run (Books.step managed) (Books.initial fun _ => some 1000)
        (chargedPhoto ++ .setLimit 1 none :: rolledBackImport)).used 1 = 40 ∧
      (run (Books.step managed) (Books.initial fun _ => some 1000)
        (chargedPhoto ++ .setLimit 1 none :: rolledBackImport)).ledger.debits =
        [⟨.evidence 1, 1, 100⟩]) ∧
    ((run (Books.step managed) (Books.initial fun _ => some 1000)
        (chargedPhoto ++ rolledBackImport.take 6 ++
          [.crash 7, .readRollback 7 2, .refundRollback 7, .markRollback 7])).used 1 = 40 ∧
      (run (Books.step managed) (Books.initial fun _ => some 1000)
        (chargedPhoto ++ rolledBackImport.take 6 ++
          [.crash 7, .readRollback 7 2, .refundRollback 7, .markRollback 7])).ledger.refunds =
        [⟨.importObject 2, 1, 60⟩, ⟨.importObject 2, 1, 60⟩]) := by
  decide +kernel

end Quota
end SpaceWorks
