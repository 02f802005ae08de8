import Mathlib.Logic.Relation
import SpaceWorks.Library.Numerals
import SpaceWorks.Library.PyValue

/-!
# Proven document charges

`release_charge_once` of `document_storage_quota.py`, with the proofs read off the audit log
(`parse_charge` of `document_storage_charge.py`).
-/

namespace SpaceWorks
namespace DocumentCharges

open Python Relation Function List Option

/-- An audit row, with the text of its event identifier. -/
structure AuditLog where
  makerspaceId : Option Nat
  targetType : String
  targetId : String
  action : String
  eventUuid : String
  metadata : Value

structure Facts where
  makerspaceId : Nat
  targetType : String
  targetId : String
  objectKey : String
  rowCreatedAt : String
  deriving DecidableEq

structure ChargeProof extends Facts where
  sizeBytes : Int
  accountingDatabaseId : String
  storageOrigin : String
  chargeEventUuid : String
  deriving DecidableEq

section Charges

def releaseAction : String := "storage.document_quota_released"

def chargeActions : List (String × String) :=
  [("warranty.warrantydocument", "warranty.document_added"),
    ("procurement.tobuyreceipt", "procurement.receipt_added")]

def proofFields : List String :=
  ["version", "bytes", "accounting_database_id", "storage_origin", "object_key_sha256",
    "row_created_at"]

def isHexDigit (c : Char) : Bool :=
  c.isDigit || (97 ≤ c.toNat && c.toNat ≤ 102)

def canonicalUuid (value : String) : Bool :=
  value.toList.length = 36 &&
    (value.toList.zipIdx.all fun entry =>
      if entry.2 ∈ [8, 13, 18, 23] then entry.1 = '-' else isHexDigit entry.1) &&
    value.toList.any fun c => c ≠ '-' && c ≠ '0'

/-- `current_context` of database and private origin. -/
def currentContext (databaseId origin : Option String) : Option (String × String) :=
  databaseId.bind fun databaseId => origin.bind fun origin =>
    if canonicalUuid databaseId && origin.toList.length = 64 && origin.toList.all isHexDigit then
      some (databaseId, origin)
    else none

def holdsText (metadata : Value) (key text : String) : Bool :=
  match metadata.get key with
  | some (.str found) => found == text
  | _ => false

def intAt (metadata : Value) (key : String) : Option Int :=
  match metadata.get key with
  | some (.int n) => some n
  | _ => none

/-- `PROOF_FIELDS.intersection(meta)`, of a dict. -/
def namesProof : Value → Bool
  | .dict entries => entries.any fun entry => entry.1 ∈ proofFields
  | _ => false

variable (rowTime : String → Bool) (sha256 : String → String)

/-- `valid_target`; `rowTime` is `canonical_row_time` of a text. -/
def validTarget (facts : Facts) : Bool :=
  0 < facts.makerspaceId && (chargeActions.lookup facts.targetType).isSome &&
    plainNumeral facts.targetId.toList && facts.objectKey ≠ "" && rowTime facts.rowCreatedAt

/-- A canonical creation time of another incarnation. -/
def otherIncarnation (facts : Facts) (metadata : Value) : Bool :=
  match metadata.get "row_created_at" with
  | some (.str text) => rowTime text && text ≠ facts.rowCreatedAt
  | _ => false

/-- The markers that the loop of `_proven_charge` collects. -/
def markers (log : List AuditLog) (facts : Facts) : List AuditLog :=
  log.filter fun event =>
    event.makerspaceId = some facts.makerspaceId && event.targetType = facts.targetType &&
      event.targetId = facts.targetId &&
      some event.action = chargeActions.lookup facts.targetType &&
      namesProof event.metadata && !otherIncarnation rowTime facts event.metadata

def parseCharge (event : AuditLog) (facts : Facts) (context : String × String) :
    Option ChargeProof :=
  (intAt event.metadata "bytes").bind fun bytes =>
    if validTarget rowTime facts && event.makerspaceId = some facts.makerspaceId &&
        event.targetType = facts.targetType && event.targetId = facts.targetId &&
        some event.action = chargeActions.lookup facts.targetType &&
        canonicalUuid event.eventUuid && intAt event.metadata "version" = some 1 && 0 < bytes &&
        holdsText event.metadata "accounting_database_id" context.1 &&
        holdsText event.metadata "storage_origin" context.2 &&
        holdsText event.metadata "object_key_sha256" (sha256 facts.objectKey) &&
        holdsText event.metadata "row_created_at" facts.rowCreatedAt then
      some ⟨facts, bytes, context.1, context.2, event.eventUuid⟩
    else none

def released (log : List AuditLog) (proof : ChargeProof) : Bool :=
  log.any fun event =>
    event.makerspaceId = some proof.makerspaceId && event.action = releaseAction &&
      holdsText event.metadata "charge_event_uuid" proof.chargeEventUuid

/-- `_proven_charge`, with charges in `log` and releases in `later`. -/
def provenCharge (context : Option (String × String)) (log later : List AuditLog)
    (facts : Facts) : Option ChargeProof :=
  if validTarget rowTime facts then
    match context, markers rowTime log facts with
    | some context, [event] =>
      (parseCharge rowTime sha256 event facts context).filter fun proof => !released later proof
    | _, _ => none
  else none

def chargeByEvent (context : Option (String × String)) (log later : List AuditLog)
    (facts : Facts) (sizeBytes : Int) (chargeEventUuid : String) : Option ChargeProof :=
  if canonicalUuid chargeEventUuid && 0 < sizeBytes then
    (provenCharge rowTime sha256 context log later facts).filter fun proof =>
      proof.chargeEventUuid = chargeEventUuid && proof.sizeBytes = sizeBytes
  else none

end Charges

section

inductive Phase where
  | idle
  | waiting (proof : ChargeProof)
  | locked (proof : ChargeProof) (used : Int)
  | read (proof : ChargeProof) (used : Int) (context : Option (String × String))
      (log : List AuditLog)
  | written (proof : ChargeProof) (used : Int)
  | done (result : Bool)
  | raised

/-- The makerspace held, with its balance as read. -/
def Phase.holds : Phase → Option (Nat × Int)
  | .locked proof used | .read proof used _ _ | .written proof used =>
    some (proof.makerspaceId, used)
  | _ => none

structure State where
  log : List AuditLog
  used : Nat → Int
  holder : Nat → Option Nat
  call : Nat → Phase
  refunds : List (ChargeProof × Int)

/-- What `release_charge_once` does before its transaction. -/
def started (proof : ChargeProof) (selfHost : Bool) : Phase :=
  if selfHost then .done false else .waiting proof

def State.move (s : State) (id : Nat) (phase : Phase) : State :=
  { s with call := update s.call id phase }

def State.finish (s : State) (id : Nat) (phase : Phase) : State :=
  { s.move id phase with
    holder := fun makerspaceId =>
      if s.holder makerspaceId = some id then none else s.holder makerspaceId }

variable (rowTime : String → Bool) (sha256 sanitized : String → String)

/-- A refund's audit row; `sanitized` is by `record`. -/
def releaseRow (proof : ChargeProof) (eventUuid : String) : AuditLog where
  makerspaceId := some proof.makerspaceId
  targetType := proof.targetType
  targetId := proof.targetId
  action := releaseAction
  eventUuid := eventUuid
  metadata := .dict [("version", .int 1), ("bytes", .int proof.sizeBytes),
    ("accounting_database_id", .str (sanitized proof.accountingDatabaseId)),
    ("storage_origin", .str (sanitized proof.storageOrigin)),
    ("object_key_sha256", .str (sanitized (sha256 proof.objectKey))),
    ("row_created_at", .str (sanitized proof.rowCreatedAt)),
    ("charge_event_uuid", .str (sanitized proof.chargeEventUuid))]

def freeStorage (used : Int) (sizeBytes : Int) : Int :=
  max (used - sizeBytes) 0

def State.commit (s : State) (id : Nat) (proof : ChargeProof) (used : Int) (eventUuid : String) :
    State :=
  { s.finish id (.done true) with
    log := s.log ++ [releaseRow sha256 sanitized proof eventUuid]
    used := update s.used proof.makerspaceId
      (freeStorage (s.used proof.makerspaceId) proof.sizeBytes)
    refunds := s.refunds ++ [(proof, used)] }

/-- What the re-proof under the lock decides. -/
def Proven (context : Option (String × String)) (log later : List AuditLog)
    (proof : ChargeProof) (used : Int) : Prop :=
  chargeByEvent rowTime sha256 context log later proof.toFacts proof.sizeBytes
    proof.chargeEventUuid = some proof ∧ proof.sizeBytes ≤ used

instance (context : Option (String × String)) (log later : List AuditLog) (proof : ChargeProof)
    (used : Int) : Decidable (Proven rowTime sha256 context log later proof used) :=
  inferInstanceAs (Decidable (_ ∧ _))

/-- An audit row, a balance under the lock, or a step of `release_charge_once`. -/
inductive Next (s : State) : State → Prop
  | append (event : AuditLog) : Next s { s with log := s.log ++ [event] }
  | balance (makerspaceId : Nat) (used : Int) (hfree : s.holder makerspaceId = none)
      (hused : 0 ≤ used) :
      Next s { s with used := update s.used makerspaceId used }
  | start (id : Nat) (proof : ChargeProof) (selfHost : Bool) (h : s.call id = .idle) :
      Next s (s.move id (started proof selfHost))
  | lock (id : Nat) {proof : ChargeProof} (h : s.call id = .waiting proof)
      (hfree : s.holder proof.makerspaceId = none) :
      Next s { s.move id (.locked proof (s.used proof.makerspaceId)) with
        holder := update s.holder proof.makerspaceId (some id) }
  | read (id : Nat) (databaseId origin : Option String) {proof : ChargeProof} {used : Int}
      (h : s.call id = .locked proof used) :
      Next s (s.move id (.read proof used (currentContext databaseId origin) s.log))
  | refuse (id : Nat) {proof : ChargeProof} {used : Int} {context : Option (String × String)}
      {log : List AuditLog} (h : s.call id = .read proof used context log)
      (hproven : ¬ Proven rowTime sha256 context log s.log proof used) :
      Next s (s.finish id (.done false))
  | write (id : Nat) {proof : ChargeProof} {used : Int} {context : Option (String × String)}
      {log : List AuditLog} (h : s.call id = .read proof used context log)
      (hproven : Proven rowTime sha256 context log s.log proof used) :
      Next s (s.move id (.written proof used))
  | commit (id : Nat) (eventUuid : String) {proof : ChargeProof} {used : Int}
      (h : s.call id = .written proof used) :
      Next s (s.commit sha256 sanitized id proof used eventUuid)
  | abort (id : Nat) : Next s (s.finish id .raised)

variable {rowTime : String → Bool} {sha256 sanitized : String → String} {log later : List AuditLog}
variable {proof : ChargeProof}

/-- The charge is the only marker of its incarnation, with its size. -/
def Justified (rowTime : String → Bool) (sha256 : String → String) (log : List AuditLog)
    (proof : ChargeProof) : Prop :=
  ∃ before event context, before <+: log ∧ markers rowTime before proof.toFacts = [event] ∧
    parseCharge rowTime sha256 event proof.toFacts context = some proof ∧ 0 < proof.sizeBytes

theorem Justified.mono (h : Justified rowTime sha256 log proof) (hlog : log <+: later) :
    Justified rowTime sha256 later proof := by
  obtain ⟨before, event, context, hbefore, hmarker⟩ := h
  exact ⟨before, event, context, hbefore.trans hlog, hmarker⟩

theorem released_mono
    (h : released log proof = true) (hlog : log <+: later) : released later proof = true := by
  obtain ⟨_, rfl⟩ := hlog
  simp only [released, any_append, Bool.or_eq_true] at h ⊢
  exact .inl h

theorem chargeByEvent_eq_some {context : Option (String × String)}
    {facts : Facts} {sizeBytes : Int} {chargeEventUuid : String}
    (h : chargeByEvent rowTime sha256 context log later facts sizeBytes chargeEventUuid =
      some proof) :
    canonicalUuid chargeEventUuid = true ∧ 0 < sizeBytes ∧
      proof.chargeEventUuid = chargeEventUuid ∧ proof.sizeBytes = sizeBytes ∧
      released later proof = false ∧
      ∃ event context, markers rowTime log facts = [event] ∧
        parseCharge rowTime sha256 event facts context = some proof := by
  unfold chargeByEvent at h
  split at h
  · next hasked =>
      simp at hasked
      obtain ⟨hproven, hsame⟩ := filter_eq_some_iff.mp h
      simp at hsame
      unfold provenCharge at hproven
      split at hproven
      · split at hproven
        · next context event hmarkers =>
            obtain ⟨hparse, hreleased⟩ := filter_eq_some_iff.mp hproven
            exact ⟨hasked.1, hasked.2, hsame.1, hsame.2, by simpa using hreleased, event, context,
              hmarkers, hparse⟩
        · cases hproven
      · cases hproven
  · cases h

theorem released_releaseRow (hsanitized : ∀ uuid, canonicalUuid uuid = true → sanitized uuid = uuid)
    (h : canonicalUuid proof.chargeEventUuid = true) (log : List AuditLog) (eventUuid : String) :
    released (log ++ [releaseRow sha256 sanitized proof eventUuid]) proof = true := by
  have hkey : holdsText (releaseRow sha256 sanitized proof eventUuid).metadata "charge_event_uuid"
      proof.chargeEventUuid = true := by
    simp [holdsText, releaseRow, Value.get, List.lookup_cons, hsanitized _ h]
  simp only [released, any_append, any_cons, hkey]
  simp [releaseRow]

variable {s t : State}

def refundKey (refund : ChargeProof × Int) : Nat × String :=
  (refund.1.makerspaceId, refund.1.chargeEventUuid)

structure Inv (rowTime : String → Bool) (sha256 : String → String) (s : State) : Prop where
  nonneg : ∀ makerspaceId, 0 ≤ s.used makerspaceId
  held : ∀ id makerspaceId used, (s.call id).holds = some (makerspaceId, used) →
    s.holder makerspaceId = some id ∧ s.used makerspaceId = used
  read : ∀ id proof used context log, s.call id = .read proof used context log → log <+: s.log
  written : ∀ id proof used, s.call id = .written proof used →
    Justified rowTime sha256 s.log proof ∧ canonicalUuid proof.chargeEventUuid = true ∧
      proof.sizeBytes ≤ used ∧ (proof.makerspaceId, proof.chargeEventUuid) ∉ s.refunds.map refundKey
  refunded : ∀ refund ∈ s.refunds, Justified rowTime sha256 s.log refund.1 ∧
    released s.log refund.1 = true ∧ refund.1.sizeBytes ≤ refund.2
  once : (s.refunds.map refundKey).Nodup

theorem Inv.keep (hinv : Inv rowTime sha256 s) (id : Nat)
    (hlog : s.log <+: t.log) (hrefunds : t.refunds = s.refunds)
    (hnonneg : ∀ makerspaceId, 0 ≤ t.used makerspaceId)
    (hcalls : ∀ other, other ≠ id → t.call other = s.call other)
    (hothers : ∀ other makerspaceId used, other ≠ id →
      (s.call other).holds = some (makerspaceId, used) →
      t.holder makerspaceId = s.holder makerspaceId ∧ t.used makerspaceId = s.used makerspaceId)
    (hown : ∀ makerspaceId used, (t.call id).holds = some (makerspaceId, used) →
      t.holder makerspaceId = some id ∧ t.used makerspaceId = used)
    (hread : ∀ proof used context log, t.call id = .read proof used context log → log <+: t.log)
    (hwritten : ∀ proof used, t.call id = .written proof used →
      Justified rowTime sha256 s.log proof ∧ canonicalUuid proof.chargeEventUuid = true ∧
        proof.sizeBytes ≤ used ∧
        (proof.makerspaceId, proof.chargeEventUuid) ∉ s.refunds.map refundKey) :
    Inv rowTime sha256 t := by
  refine ⟨hnonneg, ?_, ?_, ?_, ?_, hrefunds ▸ hinv.once⟩
  · intro other makerspaceId used hholds
    by_cases hother : other = id
    · subst hother
      exact hown makerspaceId used hholds
    · rw [hcalls other hother] at hholds
      obtain ⟨hholder, hused⟩ := hothers other makerspaceId used hother hholds
      rw [hholder, hused]
      exact hinv.held other makerspaceId used hholds
  · intro other proof used context log hcall
    by_cases hother : other = id
    · exact hread proof used context log (hother ▸ hcall)
    · rw [hcalls other hother] at hcall
      exact (hinv.read other proof used context log hcall).trans hlog
  · intro other proof used hcall
    have hknown := if hother : other = id then hwritten proof used (hother ▸ hcall)
      else hinv.written other proof used (hcalls other hother ▸ hcall)
    rw [hrefunds]
    exact ⟨hknown.1.mono hlog, hknown.2⟩
  · intro refund hrefund
    obtain ⟨hjustified, hreleased, hsize⟩ := hinv.refunded refund (hrefunds ▸ hrefund)
    exact ⟨hjustified.mono hlog, released_mono hreleased hlog, hsize⟩

theorem Inv.phase (hinv : Inv rowTime sha256 s) {id : Nat} {phase : Phase}
    (hcall : t.call = update s.call id phase) (hlog : t.log = s.log)
    (hused : t.used = s.used) (hrefunds : t.refunds = s.refunds)
    (hholder : ∀ makerspaceId other, other ≠ id → s.holder makerspaceId = some other →
      t.holder makerspaceId = s.holder makerspaceId)
    (hown : ∀ makerspaceId used, phase.holds = some (makerspaceId, used) →
      t.holder makerspaceId = some id ∧ s.used makerspaceId = used)
    (hread : ∀ proof used context log, phase = .read proof used context log → log <+: s.log)
    (hwritten : ∀ proof used, phase = .written proof used →
      Justified rowTime sha256 s.log proof ∧ canonicalUuid proof.chargeEventUuid = true ∧
        proof.sizeBytes ≤ used ∧
        (proof.makerspaceId, proof.chargeEventUuid) ∉ s.refunds.map refundKey) :
    Inv rowTime sha256 t := by
  have hphase : t.call id = phase := by rw [hcall, update_self]
  refine hinv.keep id (hlog ▸ prefix_refl _) hrefunds (hused ▸ hinv.nonneg)
    (fun other hother => by rw [hcall, update_of_ne hother]) ?_ ?_ ?_ ?_
  · intro other makerspaceId used hother hholds
    exact ⟨hholder makerspaceId other hother (hinv.held other makerspaceId used hholds).1,
      by rw [hused]⟩
  · rw [hphase, hused]
    exact hown
  · rw [hphase, hlog]
    exact hread
  · rw [hphase]
    exact hwritten

theorem Inv.commit (hinv : Inv rowTime sha256 s)
    (hsanitized : ∀ uuid, canonicalUuid uuid = true → sanitized uuid = uuid)
    {id : Nat} {proof : ChargeProof} {used : Int} (eventUuid : String)
    (h : s.call id = .written proof used) :
    Inv rowTime sha256 (s.commit sha256 sanitized id proof used eventUuid) := by
  obtain ⟨hjustified, huuid, hsize, hfresh⟩ := hinv.written id proof used h
  obtain ⟨hholder, _⟩ := hinv.held id proof.makerspaceId used (by rw [h]; rfl)
  have hlog : s.log <+: s.log ++ [releaseRow sha256 sanitized proof eventUuid] := prefix_append _ _
  -- another call holds another makerspace
  have hother : ∀ other makerspaceId used', other ≠ id →
      (s.call other).holds = some (makerspaceId, used') → makerspaceId ≠ proof.makerspaceId := by
    rintro other _ used' hne hholds rfl
    rw [(hinv.held other _ used' hholds).1] at hholder
    exact hne (some.inj hholder)
  have hcall : ∀ other, other ≠ id →
      (s.commit sha256 sanitized id proof used eventUuid).call other = s.call other :=
    fun other hne => update_of_ne hne _ _
  have hself : (s.commit sha256 sanitized id proof used eventUuid).call id = .done true :=
    update_self _ _ _
  refine ⟨fun makerspaceId => ?_, ?_, ?_, ?_, ?_, ?_⟩
  · by_cases hm : makerspaceId = proof.makerspaceId
    · subst hm
      simp only [State.commit, update_self, freeStorage]
      omega
    · simpa [State.commit, State.finish, hm] using hinv.nonneg makerspaceId
  · intro other makerspaceId used' hholds
    have hne : other ≠ id := by
      rintro rfl
      rw [hself] at hholds
      cases hholds
    rw [hcall other hne] at hholds
    have hm := hother other makerspaceId used' hne hholds
    obtain ⟨hholder', hused'⟩ := hinv.held other makerspaceId used' hholds
    simp [State.commit, State.finish, hholder', hne, hm, hused']
  · intro other proof' used' context log hread
    have hne : other ≠ id := by
      rintro rfl
      rw [hself] at hread
      cases hread
    rw [hcall other hne] at hread
    exact (hinv.read other proof' used' context log hread).trans hlog
  · intro other proof' used' hwritten
    have hne : other ≠ id := by
      rintro rfl
      rw [hself] at hwritten
      cases hwritten
    rw [hcall other hne] at hwritten
    have hm := hother other proof'.makerspaceId used' hne (by rw [hwritten]; rfl)
    obtain ⟨hjustified', huuid', hsize', hfresh'⟩ := hinv.written other proof' used' hwritten
    refine ⟨hjustified'.mono hlog, huuid', hsize', fun hmem => ?_⟩
    rw [State.commit, map_append, mem_append] at hmem
    rcases hmem with hmem | hmem
    · exact hfresh' hmem
    · exact hm (congrArg Prod.fst (mem_singleton.mp hmem))
  · intro refund hrefund
    rcases mem_append.mp hrefund with hold | hnew
    · obtain ⟨hjustified', hreleased, hsize'⟩ := hinv.refunded refund hold
      exact ⟨hjustified'.mono hlog, released_mono hreleased hlog, hsize'⟩
    · rw [mem_singleton.mp hnew]
      exact ⟨hjustified.mono hlog, released_releaseRow hsanitized huuid _ _, hsize⟩
  · rw [State.commit, map_append]
    refine nodup_append.mpr ⟨hinv.once, by simp, ?_⟩
    rintro _ hkey _ hnew rfl
    rw [mem_singleton.mp hnew] at hkey
    exact hfresh hkey

theorem Inv.next (hinv : Inv rowTime sha256 s)
    (hsanitized : ∀ uuid, canonicalUuid uuid = true → sanitized uuid = uuid)
    (h : Next rowTime sha256 sanitized s t) : Inv rowTime sha256 t := by
  cases h with
  | append =>
    exact hinv.keep 0 (prefix_append _ _) rfl hinv.nonneg (fun _ _ => rfl)
      (fun _ _ _ _ _ => ⟨rfl, rfl⟩) (hinv.held 0)
      (fun proof used context log hread =>
        (hinv.read 0 proof used context log hread).trans (prefix_append _ _))
      (hinv.written 0)
  | balance makerspaceId used hfree hused =>
    have hother : ∀ other m used', (s.call other).holds = some (m, used') →
        update s.used makerspaceId used m = s.used m := by
      intro other m used' hholds
      refine update_of_ne ?_ _ _
      rintro rfl
      rw [(hinv.held other m used' hholds).1] at hfree
      cases hfree
    refine hinv.keep 0 (prefix_refl _) rfl (fun m => ?_) (fun _ _ => rfl)
      (fun other m used' _ hholds => ⟨rfl, hother other m used' hholds⟩)
      (fun m used' hholds => ?_) (hinv.read 0) (hinv.written 0)
    · by_cases hm : m = makerspaceId
      · subst hm
        simpa using hused
      · simpa [hm] using hinv.nonneg m
    · obtain ⟨hholder, heq⟩ := hinv.held 0 m used' hholds
      exact ⟨hholder, (hother 0 m used' hholds).trans heq⟩
  | start _ _ selfHost =>
    refine hinv.phase rfl rfl rfl rfl (fun _ _ _ _ => rfl) ?_ ?_ ?_ <;>
      intros <;> cases selfHost <;> contradiction
  | @lock _ _ _ hfree =>
    refine hinv.phase rfl rfl rfl rfl ?_ ?_ ?_ ?_
    · intro makerspaceId other _ hholder
      refine update_of_ne ?_ _ _
      rintro rfl
      rw [hfree] at hholder
      cases hholder
    · intro makerspaceId used hholds
      cases hholds
      exact ⟨update_self _ _ _, rfl⟩
    · intro _ _ _ _ hread
      cases hread
    · intro _ _ hwritten
      cases hwritten
  | @read id _ _ _ _ hcall =>
    refine hinv.phase rfl rfl rfl rfl (fun _ _ _ _ => rfl) ?_ ?_ ?_
    · intro makerspaceId used' hholds
      exact hinv.held id makerspaceId used' (by rw [hcall]; exact hholds)
    · intro _ _ _ _ hread
      cases hread
      exact prefix_refl _
    · intro _ _ hwritten
      cases hwritten
  | @refuse | abort =>
    refine hinv.phase rfl rfl rfl rfl ?_ ?_ ?_ ?_
    · intro makerspaceId other hne hholder
      simp [State.finish, hholder, hne]
    all_goals intros; contradiction
  | @write id _ _ context log hcall hproven =>
    refine hinv.phase rfl rfl rfl rfl (fun _ _ _ _ => rfl) ?_ ?_ ?_
    · intro makerspaceId used' hholds
      exact hinv.held id makerspaceId used' (by rw [hcall]; exact hholds)
    · intro _ _ _ _ hread
      cases hread
    · intro _ _ hwritten
      cases hwritten
      obtain ⟨hproof, hsize⟩ := hproven
      obtain ⟨huuid, hpositive, -, -, hreleased, event, context, hmarkers, hparse⟩ :=
        chargeByEvent_eq_some hproof
      refine ⟨⟨log, event, context, hinv.read id _ _ _ _ hcall, hmarkers, hparse, hpositive⟩,
        huuid, hsize, fun hmem => ?_⟩
      -- a refund of this charge would have left its marker
      obtain ⟨refund, hrefund, hkey⟩ := mem_map.mp hmem
      have hmarked := (hinv.refunded refund hrefund).2.1
      simp [refundKey] at hkey
      simp only [released, hkey.1, hkey.2] at hmarked hreleased
      rw [hmarked] at hreleased
      cases hreleased
  | commit _ eventUuid hcall => exact hinv.commit hsanitized eventUuid hcall

/-- Any audit history and nonnegative balances, no call. -/
def State.initial (log : List AuditLog) (used : Nat → Int) : State :=
  ⟨log, used, fun _ => none, fun _ => .idle, []⟩

theorem inv_of_run {log : List AuditLog} {used : Nat → Int} (hused : ∀ m, 0 ≤ used m)
    (hsanitized : ∀ uuid, canonicalUuid uuid = true → sanitized uuid = uuid)
    (h : ReflTransGen (Next rowTime sha256 sanitized) (State.initial log used) s) :
    Inv rowTime sha256 s := by
  induction h with
  | refl =>
    refine ⟨hused, ?_, ?_, ?_, ?_, nodup_nil⟩ <;>
      intros <;> contradiction
  | tail _ hnext ih => exact ih.next hsanitized hnext

end

end DocumentCharges
end SpaceWorks
