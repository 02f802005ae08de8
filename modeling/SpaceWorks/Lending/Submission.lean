import SpaceWorks.Library.RowLocks
import SpaceWorks.Lending.Stock

/-!
# Submission without an account

A request without an account (`request_workflow.py`, `public_views.py`, `checkin_submit.py`) carries
the fingerprints of a key and its payload, and counts against a limit until reviewed.  Its
transaction locks the makerspace; a member's does not, and a staff decision locks the request.
-/

namespace SpaceWorks
namespace Lending

open Checked TransactionalSystem RowLocks Availability Table List Prod

inductive CanonicalPayload
  | anonymous (contactEmail contactName contactPhone : String) (items : List (Nat × Int))
      (requestedFor : String)
  | checkin (mid : Int) (items : List (Nat × Int)) (requestedFor : String)

structure Deployment where
  outstandingLimit : Nat
  idempotencyKeyMaxLength : Nat
  lower : String → String
  dumps : CanonicalPayload → String
  hexdigest : String → String

inductive Submitter
  | member
  | anonymous (contactEmail contactName contactPhone : String)
  | checkedIn (mid : Int)
  deriving DecidableEq

structure Submission where
  id : Nat
  makerspaceId : Nat
  requesterId : Nat
  submitter : Submitter
  idempotencyKey : String := ""
  items : List (Nat × Int)
  requestedFor : String := ""

variable (D : Deployment)

def fingerprint (value : String) : String :=
  let value := D.lower (Python.strip value)
  if value = "" then "" else D.hexdigest value

def idempotencyFingerprint (header : String) : Except Refusal String := do
  let idempotencyKey := Python.strip header
  require (idempotencyKey ≠ "")
    (.validation "idempotency_key" "This header is required for account-less submissions.")
  require (idempotencyKey.length ≤ D.idempotencyKeyMaxLength)
    (.validation "idempotency_key"
      s!"Ensure this header has no more than {D.idempotencyKeyMaxLength} characters.")
  return fingerprint D idempotencyKey

def sortedItems (items : List (Nat × Int)) : List (Nat × Int) :=
  items.insertionSort fun a b => a.1 < b.1 ∨ (a.1 = b.1 ∧ a.2 ≤ b.2)

/-- `_anonymous_payload_fingerprint`, or the check-in's; none for a member. -/
def payloadFingerprint (submission : Submission) : String :=
  match submission.submitter with
  | .member => ""
  | .anonymous email name phone =>
    fingerprint D (D.dumps (.anonymous email (Python.strip name) phone
      (sortedItems submission.items) submission.requestedFor))
  | .checkedIn mid =>
    fingerprint D (D.dumps (.checkin mid (sortedItems submission.items) submission.requestedFor))

def requestWithKey (s : State) (makerspaceId : Nat) (keyFingerprint : String) :
    Option HardwareRequest :=
  s.requests.rows.find? fun request => request.makerspaceId = makerspaceId ∧
    request.anonymousIdempotencyKeyFingerprint = keyFingerprint

def idempotencyConflict : Refusal :=
  .anonymousRequestIdempotencyConflict
    "This idempotency key was already used for a different request."

def anonymousIdempotencyReplay (s : State) (makerspaceId : Nat)
    (keyFingerprint payloadFingerprint : String) : Except Refusal (Option HardwareRequest) := do
  require (keyFingerprint ≠ "") (.requestValidation "An Idempotency-Key header is required.")
  require (∀ existing ∈ requestWithKey s makerspaceId keyFingerprint,
      existing.anonymousPayloadFingerprint = payloadFingerprint) idempotencyConflict
  return requestWithKey s makerspaceId keyFingerprint

def countsAgainstLimit (makerspaceId : Nat) (request : HardwareRequest) : Bool :=
  request.makerspaceId = makerspaceId ∧ request.status = .pendingApproval ∧
    request.anonymousIdempotencyKeyFingerprint ≠ ""

def pendingAnonymous (s : State) (makerspaceId : Nat) : List HardwareRequest :=
  s.requests.rows.filter (countsAgainstLimit makerspaceId)

def enforceAnonymousOutstandingLimit (s : State) (makerspaceId : Nat) : Except Refusal Unit :=
  require ((pendingAnonymous s makerspaceId).length < D.outstandingLimit)
    (.anonymousRequestOutstandingLimit
      "This makerspace is not accepting more anonymous requests until pending requests are reviewed.")

inductive StaffDecision
  | accept (accepted : Option (List (Nat × Int)))
  | reject (reason : String)
  | assignBox (boxCode : String)
  | cancel (reason : String)
  | issue (actorId : Nat) (now : Int) (payloads : List String) (rejects : List Reject)
  | returnItems (boxCode : String) (entries : List ResolutionEntry)

def StaffDecision.make (s : State) (requestId : Nat) : StaffDecision → Except Refusal State
  | .accept accepted => acceptRequest s requestId accepted
  | .reject reason => rejectRequest s requestId reason
  | .assignBox boxCode => Lending.assignBox s requestId boxCode
  | .cancel reason => cancelRequest s requestId reason
  | .issue actorId now payloads rejects => issueRequest s requestId actorId now payloads rejects
  | .returnItems boxCode entries => returnRequest s requestId boxCode entries

/-- Create, answer with an existing request, or decide. -/
inductive SubmissionWrite
  | create (request : HardwareRequest)
  | answer (requestId : Nat)
  | review (requestId : Nat) (decision : StaffDecision)

def Submission.row (submission : Submission) (keyFingerprint payloadFingerprint : String) :
    HardwareRequest :=
  submitted submission.id submission.makerspaceId submission.requesterId submission.items
    keyFingerprint payloadFingerprint

/-- `submit_request` after its lookup of the key. -/
def answerOrCreate (s : State) (submission : Submission) (keyFingerprint : String)
    (existing : Option HardwareRequest) : Except Refusal SubmissionWrite :=
  match existing with
  | some existing => return .answer existing.id
  | none => do
    enforceAnonymousOutstandingLimit D s submission.makerspaceId
    return .create (submission.row keyFingerprint (payloadFingerprint D submission))

def submitWithoutAccount (s : State) (submission : Submission) :
    Except Refusal SubmissionWrite := do
  let keyFingerprint ← idempotencyFingerprint D submission.idempotencyKey
  let existing ← anonymousIdempotencyReplay s submission.makerspaceId keyFingerprint
    (payloadFingerprint D submission)
  answerOrCreate D s submission keyFingerprint existing

/-- The first lookup of `RequestSubmitView`. -/
def lookUp (s : State) (submission : Submission) : Except Refusal (Option HardwareRequest) := do
  let keyFingerprint ← idempotencyFingerprint D submission.idempotencyKey
  anonymousIdempotencyReplay s submission.makerspaceId keyFingerprint
    (payloadFingerprint D submission)

inductive SubmissionOp
  | submit (submission : Submission)
  | decide (requestId : Nat) (decision : StaffDecision)

inductive RowKey
  | makerspace (makerspaceId : Nat)
  | request (requestId : Nat)

def SubmissionOp.locked : SubmissionOp → List RowKey
  | .submit submission =>
    if submission.submitter = .member then [] else [.makerspace submission.makerspaceId]
  | .decide requestId _ => [.request requestId]

/-- What an operation decides; staff decisions are taken where they commit. -/
def SubmissionOp.decides (s : State) : SubmissionOp → Except Refusal SubmissionWrite
  | .submit submission =>
    if submission.submitter = .member then return .create (submission.row "" "")
    else submitWithoutAccount D s submission
  | .decide requestId decision => return .review requestId decision

def SubmissionWrite.make (s : State) : SubmissionWrite → Except Refusal State
  | .create request => createRequest s request
  | .answer _ => return s
  | .review requestId decision => decision.make s requestId

def submissions : LockSystem State SubmissionOp RowKey SubmissionWrite Refusal where
  needs _ := SubmissionOp.locked
  decide := SubmissionOp.decides D
  write := SubmissionWrite.make

variable {s t u : State} {request new : HardwareRequest} {requestId : Nat}
variable {p : State × HardwareRequest} {payloads : List String} {rejects : List Reject}
variable {reason boxCode : String}

/-- The columns of a request that no later write changes. -/
def HardwareRequest.identity (request : HardwareRequest) : Nat × Nat × String × String :=
  (request.id, request.makerspaceId, request.anonymousIdempotencyKeyFingerprint,
    request.anonymousPayloadFingerprint)

/-- Identities stay, and nothing becomes pending. -/
structure Reviewed (s t : State) : Prop where
  kept : t.requests.rows.map HardwareRequest.identity = s.requests.rows.map HardwareRequest.identity
  pending : ∀ request ∈ t.requests, request.status = .pendingApproval →
    ∃ old ∈ s.requests, old.id = request.id ∧ old.status = .pendingApproval

theorem reviewed_of_requests_eq (h : t.requests = s.requests) : Reviewed s t where
  kept := by rw [h]
  pending := by
    intro request hrequest hpending
    exact ⟨request, h ▸ hrequest, rfl, hpending⟩

theorem Reviewed.trans (h : Reviewed s t) (h' : Reviewed t u) : Reviewed s u where
  kept := h'.kept.trans h.kept
  pending := by
    intro request hrequest hpending
    obtain ⟨old, hold, hid, hwas⟩ := h'.pending request hrequest hpending
    obtain ⟨older, holder, hid', hwas'⟩ := h.pending old hold hwas
    exact ⟨older, holder, hid'.trans hid, hwas'⟩

/-- The row at hand is a version of the stored one, and is not pending. -/
structure Holds (s : State) (request : HardwareRequest) : Prop where
  stored : ∃ old ∈ s.requests, old.identity = request.identity
  settled : request.status ≠ .pendingApproval

theorem reviewed_saveRequest (h : Holds s request) :
    Reviewed s (s.saveRequest request) where
  kept := by
    obtain ⟨old, hold, hidentity⟩ := h.stored
    simp only [State.saveRequest, Table.put, Table.mapRows, List.map_map]
    refine map_congr_left fun row hrow => ?_
    by_cases hkey : row.id = request.id
    · have hid : old.id = request.id := congrArg Prod.fst hidentity
      obtain rfl : row = old := eq_of_key_eq hrow hold (hkey.trans hid.symm)
      simp [hkey, hidentity]
    · simp [hkey]
  pending := by
    intro row hrow hpending
    rcases mem_of_mem_put hrow with rfl | ⟨hold, -⟩
    · exact absurd hpending h.settled
    · exact ⟨row, hold, rfl, hpending⟩

theorem Holds.of_eq (h : Holds s request)
    (hidentity : new.identity = request.identity) (hstatus : new.status ≠ .pendingApproval) :
    Holds s new where
  stored := by
    obtain ⟨old, hold, hsame⟩ := h.stored
    exact ⟨old, hold, hsame.trans hidentity.symm⟩
  settled := hstatus

theorem Holds.review (h : Holds s request) (hreview : Reviewed s t) :
    Holds t request where
  stored := by
    obtain ⟨old, hold, hsame⟩ := h.stored
    have hmem : old.identity ∈ t.requests.rows.map HardwareRequest.identity := by
      rw [hreview.kept]
      exact mem_map_of_mem hold
    obtain ⟨row, hrow, hrowIdentity⟩ := List.mem_map.mp hmem
    exact ⟨row, hrow, hrowIdentity.trans hsame⟩
  settled := h.settled

theorem holds_of_get? {locked : HardwareRequest} (hget : s.requests.get? requestId = some locked)
    (hidentity : new.identity = locked.identity) (hstatus : new.status ≠ .pendingApproval) :
    Holds s new :=
  ⟨⟨locked, mem_of_get? hget, hidentity.symm⟩, hstatus⟩

theorem reviewed_post {postings : List StockPosting} (h : s.post postings = .ok t) :
    Reviewed s t := by
  simp [State.post] at h
  obtain ⟨_, -, rfl⟩ := h
  exact reviewed_of_requests_eq rfl

def Continues (s : State) (p : State × HardwareRequest) : Prop :=
  Reviewed s p.1 ∧ Holds p.1 p.2

theorem Reviewed.continue (h : Reviewed s t) (hp : Continues t p) :
    Continues s p :=
  ⟨h.trans hp.1, hp.2⟩

theorem continues_save (h : Holds s request) (hput : p.1.requests = s.requests.put p.2)
    (hidentity : p.2.identity = request.identity) (hstatus : p.2.status ≠ .pendingApproval) :
    Continues s p := by
  have hnew : Holds s p.2 := h.of_eq hidentity hstatus
  have hsaved : Reviewed s p.1 := (reviewed_saveRequest hnew).trans (reviewed_of_requests_eq hput)
  exact ⟨hsaved, hnew.review hsaved⟩

theorem continues_clearUnissuedAssignment (h : Holds s request)
    (hstep : clearUnissuedAssignment s request = .ok p) :
    Continues s p := by
  simp only [clearUnissuedAssignment, bind_ok, require_ok] at hstep
  obtain ⟨-, -, hstep⟩ := hstep
  split at hstep
  · simp at hstep
    subst hstep
    exact ⟨reviewed_of_requests_eq rfl, h⟩
  · simp at hstep
    obtain ⟨_, -, -, -, rfl⟩ := hstep
    exact continues_save h rfl rfl h.settled

theorem continues_issueIndividualAssets
    (h : Holds s request) (hstep : issueIndividualAssets s request payloads = .ok p) :
    Continues s p := by
  simp only [issueIndividualAssets] at hstep
  split at hstep
  · simp at hstep
    subst hstep
    exact ⟨reviewed_of_requests_eq rfl, h⟩
  · simp at hstep
    obtain ⟨-, -, _, -, -, -, _, -, _, -, rfl⟩ := hstep
    exact continues_save h rfl rfl h.settled

theorem continues_issueItems (h : Holds s request) (hstep : issueItems s request rejects = .ok p) :
    Continues s p := by
  simp [issueItems] at hstep
  obtain ⟨_, hpost, rfl⟩ := hstep
  have hreview := reviewed_post hpost
  exact hreview.continue (continues_save (h.review hreview) rfl rfl h.settled)

theorem continues_returnItems {resolutions : List Resolution}
    (h : Holds s request) (hstep : returnItems s request resolutions = .ok p) :
    Continues s p := by
  simp [returnItems] at hstep
  obtain ⟨_, hpost, rfl⟩ := hstep
  have hreview := reviewed_post hpost
  exact hreview.continue (continues_save (h.review hreview) rfl rfl h.settled)

theorem continues_flipReturn
    {q : State × HardwareRequest} {resolution : Resolution} (h : Continues s p)
    (hstep : flipReturn p resolution = .ok q) :
    Continues s q := by
  simp only [flipReturn] at hstep
  split at hstep
  · simp at hstep
    obtain ⟨_, -, _, -, _, -, rfl⟩ := hstep
    exact h.1.continue (continues_save h.2 rfl rfl h.2.settled)
  · simp at hstep
    exact hstep ▸ h

theorem reviewed_accept {accepted : Option (List (Nat × Int))}
    (hstep : acceptRequest s requestId accepted = .ok t) :
    Reviewed s t := by
  simp only [acceptRequest, State.lockedRequest, reserveForRequest, bind_ok, orRefuse_ok,
    require_ok, pure_ok] at hstep
  obtain ⟨_, hget, -, -, -, -, -, -, -, -, _, hpost, rfl⟩ := hstep
  have hreview := reviewed_post hpost
  refine hreview.trans (reviewed_saveRequest (Holds.review ?_ hreview))
  exact holds_of_get? hget rfl (by simp)

theorem reviewed_reject (hstep : rejectRequest s requestId reason = .ok t) :
    Reviewed s t := by
  simp only [rejectRequest, State.lockedRequest, bind_ok, orRefuse_ok, require_ok, pure_ok] at hstep
  obtain ⟨-, -, _, hget, -, -, rfl⟩ := hstep
  exact reviewed_saveRequest (holds_of_get? hget rfl (by simp))

theorem reviewed_assignBox (hstep : Lending.assignBox s requestId boxCode = .ok t) :
    Reviewed s t := by
  simp only [Lending.assignBox, State.lockedRequest, bind_ok, orRefuse_ok, require_ok,
    pure_ok] at hstep
  obtain ⟨locked, hget, -, hstatus, box, -, -, -, rfl⟩ := hstep
  have hnew : Holds s { locked with assignedBoxId := some box.id } :=
    holds_of_get? hget rfl (by simp [hstatus])
  exact (reviewed_saveRequest hnew).trans (reviewed_of_requests_eq rfl)

theorem reviewed_cancel (hstep : cancelRequest s requestId reason = .ok t) :
    Reviewed s t := by
  simp only [cancelRequest, releaseRequestReservation, State.lockedRequest, bind_ok,
    orRefuse_ok, require_ok, pure_ok] at hstep
  obtain ⟨locked, hget, -, hstatus, -, -, -, -, p, hclear, _, ⟨-, -, -, -, -, -, -, -, -, -,
    hpost⟩, rfl⟩ := hstep
  have hlocked : Holds s locked := holds_of_get? hget rfl (by simp [hstatus])
  obtain ⟨hreview, hholds⟩ := continues_clearUnissuedAssignment hlocked hclear
  have hpaid := reviewed_post hpost
  have hnew : Holds _ { p.2 with status := .cancelled } := (hholds.review hpaid).of_eq rfl (by simp)
  exact (hreview.trans hpaid).trans (reviewed_saveRequest hnew)

theorem reviewed_issue {actorId : Nat} {now : Int}
    (hstep : issueRequest s requestId actorId now payloads rejects = .ok t) :
    Reviewed s t := by
  simp only [issueRequest, State.lockedRequest, bind_ok, orRefuse_ok, require_ok, pure_ok] at hstep
  obtain ⟨locked, hget, -, hstatus, -, -, -, -, _, hassets, q, hitems, -, -, rfl⟩ := hstep
  have hlocked : Holds s locked := holds_of_get? hget rfl (by simp [hstatus])
  obtain ⟨hreview, hholds⟩ := continues_issueIndividualAssets hlocked hassets
  obtain ⟨hreview', hholds'⟩ := continues_issueItems hholds hitems
  have hnew : Holds _ { q.2 with
      status := .issued, issuedBy := some actorId, issuedAt := some now } :=
    hholds'.of_eq rfl (by simp)
  exact (hreview.trans hreview').trans (reviewed_saveRequest hnew)

theorem finalizeReturnStatus_identity (request : HardwareRequest) :
    (finalizeReturnStatus request).identity = request.identity ∧
      (finalizeReturnStatus request).status ≠ .pendingApproval := by
  unfold finalizeReturnStatus
  split
  · split <;> exact ⟨rfl, by simp⟩
  · exact ⟨rfl, by simp⟩

theorem reviewed_return {entries : List ResolutionEntry}
    (hstep : returnRequest s requestId boxCode entries = .ok t) :
    Reviewed s t := by
  simp only [returnRequest, requireReturnable, flipIndividualAssetReturns, State.lockedRequest,
    bind_ok, orRefuse_ok, require_ok, pure_ok] at hstep
  obtain ⟨-, -, locked, hget, -, ⟨-, -, hout⟩, _, -, _, -, _, hitems, q, hflips,
    rfl⟩ := hstep
  have hsettled : locked.status ≠ .pendingApproval := by
    intro hpending
    simp [RequestStatus.out, hpending] at hout
  have hcontinues := continues_returnItems (holds_of_get? hget rfl hsettled) hitems
  obtain ⟨hreview, hholds⟩ : Continues s q :=
    foldlM_preserves (fun _ _ _ _ hp hflip => continues_flipReturn hp hflip) hcontinues hflips
  obtain ⟨hidentity, hstatus⟩ := finalizeReturnStatus_identity q.2
  have hsaved : Reviewed q.1 (q.1.saveRequest (finalizeReturnStatus q.2)) :=
    reviewed_saveRequest (hholds.of_eq hidentity hstatus)
  exact hreview.trans (hsaved.trans (reviewed_of_requests_eq rfl))

theorem reviewed_decision {decision : StaffDecision} (hstep : decision.make s requestId = .ok t) :
    Reviewed s t := by
  cases decision with
  | accept => exact reviewed_accept hstep
  | reject => exact reviewed_reject hstep
  | assignBox => exact reviewed_assignBox hstep
  | cancel => exact reviewed_cancel hstep
  | issue => exact reviewed_issue hstep
  | returnItems => exact reviewed_return hstep

variable {D : Deployment} {s t : State} {request : HardwareRequest} {makerspaceId : Nat}
variable {keyFingerprint : String} {submission : Submission} {w : SubmissionWrite}

/-- A key names one request, and pending ones without an account stay in the limit. -/
structure Screened (D : Deployment) (s : State) : Prop where
  unique : ∀ request ∈ s.requests, ∀ other ∈ s.requests, request.makerspaceId = other.makerspaceId →
    request.anonymousIdempotencyKeyFingerprint = other.anonymousIdempotencyKeyFingerprint →
    request.anonymousIdempotencyKeyFingerprint ≠ "" → request = other
  bounded : ∀ makerspaceId, (pendingAnonymous s makerspaceId).length ≤ D.outstandingLimit

theorem screened_empty (D : Deployment) : Screened D {} where
  unique := by
    intro request hrequest
    cases hrequest
  bounded := fun _ => Nat.zero_le _

/-- Requests with a key stay while others are written. -/
structure Undisturbed (makerspaceId : Nat) (s t : State) : Prop where
  kept : ∀ request ∈ s.requests, request.makerspaceId = makerspaceId →
    request.anonymousIdempotencyKeyFingerprint ≠ "" →
    ∃ new ∈ t.requests, new.identity = request.identity
  gained : ∀ request ∈ t.requests, request.makerspaceId = makerspaceId →
    request.anonymousIdempotencyKeyFingerprint ≠ "" →
    ∃ old ∈ s.requests, old.identity = request.identity ∧
      (request.status = .pendingApproval → old.status = .pendingApproval)

theorem Reviewed.undisturbed (h : Reviewed s t) (makerspaceId : Nat) :
    Undisturbed makerspaceId s t where
  kept := by
    intro request hrequest _ _
    have hmem : request.identity ∈ t.requests.rows.map HardwareRequest.identity := by
      rw [h.kept]
      exact mem_map_of_mem hrequest
    obtain ⟨new, hnew, hidentity⟩ := List.mem_map.mp hmem
    exact ⟨new, hnew, hidentity⟩
  gained := by
    intro request hrequest _ _
    have hmem : request.identity ∈ s.requests.rows.map HardwareRequest.identity := by
      rw [← h.kept]
      exact mem_map_of_mem hrequest
    obtain ⟨old, hold, hidentity⟩ := List.mem_map.mp hmem
    refine ⟨old, hold, hidentity, fun hpending => ?_⟩
    obtain ⟨was, hwas, hid, _⟩ := h.pending request hrequest hpending
    have hsame : old.id = was.id := (congrArg Prod.fst hidentity).trans hid.symm
    rwa [eq_of_key_eq hold hwas hsame]

theorem undisturbed_create (hstep : createRequest s request = .ok t)
    (hother : request.makerspaceId ≠ makerspaceId ∨
      request.anonymousIdempotencyKeyFingerprint = "") :
    Undisturbed makerspaceId s t := by
  simp only [createRequest, bind_ok, require_ok, insertNew_ok, pure_ok] at hstep
  obtain ⟨-, -, _, ⟨hnew, rfl⟩, rfl⟩ := hstep
  constructor
  · intro old hold _ _
    exact ⟨old, (mem_insert hnew).mpr (.inl hold), rfl⟩
  · intro row hrow hmakerspace hkey
    rcases (mem_insert hnew).mp hrow with hold | rfl
    · exact ⟨row, hold, rfl, id⟩
    · rcases hother with hne | hblank
      · exact absurd hmakerspace hne
      · exact absurd hblank hkey

theorem Undisturbed.pending_le (h : Undisturbed makerspaceId s t) :
    (pendingAnonymous t makerspaceId).length ≤ (pendingAnonymous s makerspaceId).length := by
  have hnodup : ((pendingAnonymous t makerspaceId).map HardwareRequest.id).Nodup :=
    t.requests.nodup.sublist (filter_sublist.map HardwareRequest.id)
  have hsub : (pendingAnonymous t makerspaceId).map HardwareRequest.id ⊆
      (pendingAnonymous s makerspaceId).map HardwareRequest.id := by
    intro id hid
    obtain ⟨request, hrequest, rfl⟩ := List.mem_map.mp hid
    obtain ⟨hmem, hcounts⟩ := mem_filter.mp hrequest
    simp [countsAgainstLimit] at hcounts
    obtain ⟨hmakerspace, hpending, hkey⟩ := hcounts
    obtain ⟨old, hold, hidentity, hwas⟩ := h.gained request hmem hmakerspace hkey
    simp [HardwareRequest.identity] at hidentity
    obtain ⟨hid, hmakerspace', hkey', -⟩ := hidentity
    refine List.mem_map.mpr ⟨old, mem_filter.mpr ⟨hold, ?_⟩, hid⟩
    simp only [countsAgainstLimit, decide_eq_true_eq]
    exact ⟨hmakerspace'.trans hmakerspace, hwas hpending, hkey' ▸ hkey⟩
  have hle := (subperm_of_subset hnodup hsub).length_le
  simpa only [length_map] using hle

theorem Reviewed.screened (h : Screened D s) (hreview : Reviewed s t) : Screened D t where
  unique := by
    intro request hrequest other hother hmakerspace hkey hne
    obtain ⟨old, hold, hidentity, -⟩ :=
      (hreview.undisturbed request.makerspaceId).gained request hrequest rfl hne
    obtain ⟨old', hold', hidentity', -⟩ :=
      (hreview.undisturbed other.makerspaceId).gained other hother rfl (hkey ▸ hne)
    simp only [HardwareRequest.identity, mk.injEq] at hidentity hidentity'
    obtain rfl : old = old' := by
      refine h.unique old hold old' hold' ?_ ?_ ?_
      · rw [hidentity.2.1, hidentity'.2.1, hmakerspace]
      · rw [hidentity.2.2.1, hidentity'.2.2.1, hkey]
      · rwa [hidentity.2.2.1]
    exact eq_of_key_eq hrequest hother (hidentity.1.symm.trans hidentity'.1)
  bounded := fun makerspaceId =>
    (hreview.undisturbed makerspaceId).pending_le.trans (h.bounded makerspaceId)

/-! What the lookup of a key finds. -/

theorem requestWithKey_eq_none :
    requestWithKey s makerspaceId keyFingerprint = none ↔
      ∀ request ∈ s.requests, ¬ (request.makerspaceId = makerspaceId ∧
        request.anonymousIdempotencyKeyFingerprint = keyFingerprint) := by
  simp [requestWithKey, Table.mem_def]

theorem requestWithKey_eq_some (h : Screened D s) (hkey : keyFingerprint ≠ "") :
    requestWithKey s makerspaceId keyFingerprint = some request ↔
      request ∈ s.requests ∧ request.makerspaceId = makerspaceId ∧
        request.anonymousIdempotencyKeyFingerprint = keyFingerprint := by
  constructor
  · intro hfind
    have hmatches := List.find?_some hfind
    simp at hmatches
    exact ⟨List.mem_of_find?_eq_some hfind, hmatches⟩
  · rintro ⟨hrequest, hmakerspace, hsame⟩
    cases hfind : requestWithKey s makerspaceId keyFingerprint with
    | none =>
      exact absurd ⟨hmakerspace, hsame⟩ (requestWithKey_eq_none.mp hfind request hrequest)
    | some found =>
      have hmatches := List.find?_some hfind
      simp at hmatches
      rw [h.unique found (List.mem_of_find?_eq_some hfind) request hrequest
        (hmatches.1.trans hmakerspace.symm) (hmatches.2.trans hsame.symm)
        (by rw [hmatches.2]; exact hkey)]

theorem anonymousIdempotencyReplay_ok {payload : String} {found : Option HardwareRequest} :
    anonymousIdempotencyReplay s makerspaceId keyFingerprint payload = .ok found ↔
      keyFingerprint ≠ "" ∧ requestWithKey s makerspaceId keyFingerprint = found ∧
        ∀ existing ∈ found, existing.anonymousPayloadFingerprint = payload := by
  simp only [anonymousIdempotencyReplay, bind_ok, require_ok, pure_ok]
  constructor
  · rintro ⟨-, hkey, -, hpayload, rfl⟩
    exact ⟨hkey, rfl, hpayload⟩
  · rintro ⟨hkey, rfl, hpayload⟩
    exact ⟨⟨⟩, hkey, ⟨⟩, hpayload, rfl⟩

theorem submitWithoutAccount_ok :
    submitWithoutAccount D s submission = .ok w ↔
      ∃ keyFingerprint, idempotencyFingerprint D submission.idempotencyKey = .ok keyFingerprint ∧
        keyFingerprint ≠ "" ∧
        ((∃ existing, requestWithKey s submission.makerspaceId keyFingerprint = some existing ∧
            existing.anonymousPayloadFingerprint = payloadFingerprint D submission ∧
            w = .answer existing.id) ∨
          (requestWithKey s submission.makerspaceId keyFingerprint = none ∧
            (pendingAnonymous s submission.makerspaceId).length < D.outstandingLimit ∧
            w = .create
              (submission.row keyFingerprint (payloadFingerprint D submission)))) := by
  simp only [submitWithoutAccount, bind_ok, anonymousIdempotencyReplay_ok]
  refine exists_congr fun keyFingerprint => and_congr_right fun _ => ?_
  constructor
  · rintro ⟨found, ⟨hkey, hfound, hpayload⟩, hanswer⟩
    refine ⟨hkey, ?_⟩
    cases found with
    | none =>
      simp only [answerOrCreate, enforceAnonymousOutstandingLimit, bind_ok, require_ok,
        pure_ok] at hanswer
      obtain ⟨-, hlimit, rfl⟩ := hanswer
      exact .inr ⟨hfound, hlimit, rfl⟩
    | some existing =>
      simp [answerOrCreate] at hanswer
      exact .inl ⟨existing, hfound, hpayload existing rfl, hanswer.symm⟩
  · rintro ⟨hkey, ⟨existing, hfound, hpayload, rfl⟩ | ⟨hnone, hlimit, rfl⟩⟩
    · refine ⟨some existing, ⟨hkey, hfound, ?_⟩, rfl⟩
      rintro _ ⟨⟩
      exact hpayload
    · refine ⟨none, ⟨hkey, hnone, by simp⟩, ?_⟩
      simp only [answerOrCreate, enforceAnonymousOutstandingLimit, bind_ok, require_ok, pure_ok]
      exact ⟨⟨⟩, hlimit, trivial⟩

theorem screened_create (h : Screened D s) (hstep : createRequest s request = .ok t)
    (hlimit : request.anonymousIdempotencyKeyFingerprint ≠ "" →
      (pendingAnonymous s request.makerspaceId).length < D.outstandingLimit) :
    Screened D t := by
  simp only [createRequest, bind_ok, require_ok, insertNew_ok, pure_ok] at hstep
  obtain ⟨-, hfree, requests, ⟨hnew, rfl⟩, rfl⟩ := hstep
  have hfresh : ∀ other ∈ s.requests, other.makerspaceId = request.makerspaceId →
      other.anonymousIdempotencyKeyFingerprint = request.anonymousIdempotencyKeyFingerprint →
      request.anonymousIdempotencyKeyFingerprint = "" := by
    intro other hother hmakerspace hkey
    by_contra hne
    exact hfree ⟨hne, other, hother, hmakerspace, hkey⟩
  constructor
  · intro row hrow other hother hmakerspace hkey hne
    rcases (mem_insert hnew).mp hrow with hold | rfl
    · rcases (mem_insert hnew).mp hother with hold' | rfl
      · exact h.unique row hold other hold' hmakerspace hkey hne
      · exact absurd (hkey.trans (hfresh row hold hmakerspace hkey)) hne
    · rcases (mem_insert hnew).mp hother with hold' | rfl
      · exact absurd (hfresh other hold' hmakerspace.symm hkey.symm) hne
      · rfl
  · intro makerspaceId
    have hbounded := h.bounded makerspaceId
    have hsplit : pendingAnonymous { s with requests := s.requests.insert request hnew }
        makerspaceId = pendingAnonymous s makerspaceId ++
          [request].filter (countsAgainstLimit makerspaceId) := by
      simp [pendingAnonymous, Table.insert]
    rw [hsplit, length_append]
    by_cases hcounts : countsAgainstLimit makerspaceId request
    · have hcounted := hcounts
      simp [countsAgainstLimit] at hcounted
      obtain ⟨rfl, -, hkey⟩ := hcounted
      have hroom := hlimit hkey
      simp only [filter_cons, hcounts, if_true, filter_nil, length_singleton]
      omega
    · simp only [filter_cons, hcounts, filter_nil]
      simpa using hbounded

theorem screened_preserved : Preserves (submissions D).serial (Screened D) := by
  intro s op t h hstep
  obtain ⟨_, hdecide, hwrite⟩ := serial_ok.mp hstep
  cases op with
  | decide =>
    simp [submissions, SubmissionOp.decides] at hdecide
    subst hdecide
    exact Reviewed.screened h (reviewed_decision hwrite)
  | submit =>
    simp only [submissions, SubmissionOp.decides] at hdecide
    split at hdecide
    · simp at hdecide
      subst hdecide
      exact screened_create h hwrite fun hkey => absurd rfl hkey
    · obtain ⟨_, -, -, hcases⟩ := submitWithoutAccount_ok.mp hdecide
      rcases hcases with ⟨_, -, -, rfl⟩ | ⟨-, hlimit, rfl⟩
      · simp [submissions, SubmissionWrite.make] at hwrite
        exact hwrite ▸ h
      · exact screened_create h hwrite fun _ => hlimit

theorem undisturbed_of_write {op : SubmissionOp}
    (hdecide : SubmissionOp.decides D s op = .ok w) (hwrite : w.make s = .ok t)
    (hother : RowKey.makerspace makerspaceId ∉ op.locked) :
    Undisturbed makerspaceId s t := by
  cases op with
  | decide =>
    simp [SubmissionOp.decides] at hdecide
    subst hdecide
    exact (reviewed_decision hwrite).undisturbed makerspaceId
  | submit submission =>
    simp only [SubmissionOp.decides] at hdecide
    split at hdecide
    · simp at hdecide
      subst hdecide
      exact undisturbed_create hwrite (.inr rfl)
    · next hvisitor =>
        obtain ⟨_, -, -, hcases⟩ := submitWithoutAccount_ok.mp hdecide
        rcases hcases with ⟨_, -, -, rfl⟩ | ⟨-, -, rfl⟩
        · simp [SubmissionWrite.make] at hwrite
          exact (reviewed_of_requests_eq (hwrite ▸ rfl)).undisturbed makerspaceId
        · refine undisturbed_create hwrite (.inl fun hsame => hother ?_)
          have hlocked : submission.makerspaceId = makerspaceId := hsame
          simp [SubmissionOp.locked, hvisitor, hlocked]

theorem Undisturbed.requestWithKey_none (h : Undisturbed makerspaceId s t)
    (hkey : keyFingerprint ≠ "") (hnone : requestWithKey s makerspaceId keyFingerprint = none) :
    requestWithKey t makerspaceId keyFingerprint = none := by
  rw [requestWithKey_eq_none] at hnone ⊢
  rintro request hrequest ⟨hmakerspace, hsame⟩
  obtain ⟨old, hold, hidentity, -⟩ :=
    h.gained request hrequest hmakerspace (by rw [hsame]; exact hkey)
  simp [HardwareRequest.identity] at hidentity
  exact hnone old hold ⟨hidentity.2.1.trans hmakerspace, hidentity.2.2.1.trans hsame⟩

theorem Undisturbed.requestWithKey_some
    (h : Undisturbed makerspaceId s t) (hscreened : Screened D s) (hscreened' : Screened D t)
    (hkey : keyFingerprint ≠ "")
    (hsome : requestWithKey s makerspaceId keyFingerprint = some request) :
    ∃ new, requestWithKey t makerspaceId keyFingerprint = some new ∧
      new.identity = request.identity := by
  obtain ⟨hrequest, hmakerspace, hsame⟩ := (requestWithKey_eq_some hscreened hkey).mp hsome
  obtain ⟨new, hnew, hidentity⟩ := h.kept request hrequest hmakerspace (by rw [hsame]; exact hkey)
  refine ⟨new, (requestWithKey_eq_some hscreened' hkey).mpr ⟨hnew, ?_⟩, hidentity⟩
  simp [HardwareRequest.identity] at hidentity
  exact ⟨hidentity.2.1.trans hmakerspace, hidentity.2.2.1.trans hsame⟩

theorem submissions_independent : (submissions D).Independent (Screened D) := by
  intro s t op other v w h hlocks hop hother hwrite
  have ht : Screened D t := screened_preserved h (serial_ok.mpr ⟨w, hother, hwrite⟩)
  refine ⟨?_, rfl⟩
  cases op with
  | decide => exact hop
  | submit submission =>
    simp only [submissions, SubmissionOp.decides] at hop ⊢
    split at hop
    · next hmember =>
        rw [if_pos hmember]
        exact hop
    · next hvisitor =>
        rw [if_neg hvisitor]
        have hapart : Undisturbed submission.makerspaceId s t := by
          refine undisturbed_of_write hother hwrite (hlocks _ ?_)
          simp [submissions, SubmissionOp.locked, hvisitor]
        obtain ⟨keyFingerprint, hprint, hkey, hcases⟩ := submitWithoutAccount_ok.mp hop
        refine submitWithoutAccount_ok.mpr ⟨keyFingerprint, hprint, hkey, ?_⟩
        rcases hcases with ⟨_, hfound, hpayload, rfl⟩ | ⟨hnone, hlimit, rfl⟩
        · obtain ⟨new, hnew, hidentity⟩ := hapart.requestWithKey_some h ht hkey hfound
          simp [HardwareRequest.identity] at hidentity
          exact .inl ⟨new, hnew, hidentity.2.2.2.trans hpayload, by rw [hidentity.1]⟩
        · exact .inr ⟨hapart.requestWithKey_none hkey hnone, hapart.pending_le.trans_lt hlimit, rfl⟩

/-- A used key is answered with its request under the same payload, and refused under another. -/
structure Replayed (D : Deployment) (s : State) (submission : Submission)
    (original : HardwareRequest) : Prop where
  lookup : lookUp D s submission = .ok (some original) ↔
    payloadFingerprint D submission = original.anonymousPayloadFingerprint
  answer : submitWithoutAccount D s submission = .ok (.answer original.id) ↔
    payloadFingerprint D submission = original.anonymousPayloadFingerprint
  refused : payloadFingerprint D submission ≠ original.anonymousPayloadFingerprint →
    lookUp D s submission = .error idempotencyConflict ∧
      submitWithoutAccount D s submission = .error idempotencyConflict
  unchanged : (SubmissionWrite.answer original.id).make s = .ok s

theorem Screened.replayed (h : Screened D s) {original : HardwareRequest}
    (hprint : idempotencyFingerprint D submission.idempotencyKey = .ok keyFingerprint)
    (hkey : keyFingerprint ≠ "") (horiginal : original ∈ s.requests)
    (hmakerspace : original.makerspaceId = submission.makerspaceId)
    (hsame : original.anonymousIdempotencyKeyFingerprint = keyFingerprint) :
    Replayed D s submission original := by
  have hfound : requestWithKey s submission.makerspaceId keyFingerprint = some original :=
    (requestWithKey_eq_some h hkey).mpr ⟨horiginal, hmakerspace, hsame⟩
  have hlookup : lookUp D s submission =
      anonymousIdempotencyReplay s submission.makerspaceId keyFingerprint
        (payloadFingerprint D submission) := by
    simp only [lookUp, hprint]
    rfl
  have hsubmit : submitWithoutAccount D s submission = (do
      let existing ← anonymousIdempotencyReplay s submission.makerspaceId keyFingerprint
        (payloadFingerprint D submission)
      answerOrCreate D s submission keyFingerprint existing) := by
    simp only [submitWithoutAccount, hprint]
    rfl
  by_cases hpayload : payloadFingerprint D submission = original.anonymousPayloadFingerprint
  · have hreplay : anonymousIdempotencyReplay s submission.makerspaceId keyFingerprint
        (payloadFingerprint D submission) = .ok (some original) := by
      refine anonymousIdempotencyReplay_ok.mpr ⟨hkey, hfound, ?_⟩
      rintro _ ⟨⟩
      exact hpayload.symm
    rw [hreplay] at hlookup hsubmit
    exact ⟨⟨fun _ => hpayload, fun _ => hlookup⟩, ⟨fun _ => hpayload, fun _ => hsubmit⟩,
      fun hne => absurd hpayload hne, rfl⟩
  · have hreplay : anonymousIdempotencyReplay s submission.makerspaceId keyFingerprint
        (payloadFingerprint D submission) = .error idempotencyConflict := by
      have hrefuse : ¬ ∀ existing ∈ requestWithKey s submission.makerspaceId keyFingerprint,
          existing.anonymousPayloadFingerprint = payloadFingerprint D submission := by
        intro hall
        exact hpayload (hall original hfound).symm
      simp only [anonymousIdempotencyReplay, require, if_pos hkey, if_neg hrefuse]
      rfl
    rw [hreplay] at hlookup hsubmit
    have hrefused : submitWithoutAccount D s submission = .error idempotencyConflict := hsubmit
    constructor
    · rw [hlookup]
      exact ⟨(fun hok => nomatch hok), fun heq => absurd heq hpayload⟩
    · rw [hrefused]
      exact ⟨(fun hok => nomatch hok), fun heq => absurd heq hpayload⟩
    · exact fun _ => ⟨hlookup, hrefused⟩
    · rfl

/-- **Submission without an account.** In every interleaving a key names one request, the limit
holds, and a replay gets the original or a refusal by payload. -/
theorem screened_of_path
    {ι : Type} [DecidableEq ι] {c : Shared State ι SubmissionOp RowKey SubmissionWrite}
    (h : Screened D s) (hpath : Path (submissions D) (atRest s) c) :
    Screened D c.state ∧
      ∀ (submission : Submission) (keyFingerprint : String), keyFingerprint ≠ "" →
        idempotencyFingerprint D submission.idempotencyKey = .ok keyFingerprint →
        ∀ original ∈ c.state.requests, original.makerspaceId = submission.makerspaceId →
          original.anonymousIdempotencyKeyFingerprint = keyFingerprint →
          Replayed D c.state submission original := by
  have hscreened : Screened D c.state :=
    invariant_of_path submissions_independent screened_preserved h hpath
  refine ⟨hscreened, ?_⟩
  intro submission keyFingerprint hkey hprint original horiginal hmakerspace hsame
  exact hscreened.replayed hprint hkey horiginal hmakerspace hsame

def oneVisitor : Deployment where
  outstandingLimit := 1
  idempotencyKeyMaxLength := 128
  lower := Python.lower
  dumps
    | .anonymous email name _ _ _ => email ++ name
    | .checkin _ _ requestedFor => requestedFor
  hexdigest value := "sha256:" ++ value

def visit (name : String) : Submission where
  id := 1
  makerspaceId := 1
  requesterId := 9
  submitter := .anonymous "ada@example.org" name ""
  idempotencyKey := "K-1"
  items := [(1, 2)]

/-- A retry gets the request, another name under the key a refusal. -/
theorem screened_of_path_retry :
    ∃ c : Shared State Bool SubmissionOp RowKey SubmissionWrite,
      Screened oneVisitor c.state ∧ ∃ original ∈ c.state.requests,
        submitWithoutAccount oneVisitor c.state (visit "Ada") = .ok (.answer original.id) ∧
        submitWithoutAccount oneVisitor c.state (visit "Eve") = .error idempotencyConflict := by
  obtain ⟨t, original, hserial, horiginal, hmakerspace, hkey, hpayload⟩ :
      ∃ t original, (submissions oneVisitor).serial {} (.submit (visit "Ada")) = .ok t ∧
        original ∈ t.requests ∧ original.makerspaceId = 1 ∧
        original.anonymousIdempotencyKeyFingerprint = "sha256:k-1" ∧
        original.anonymousPayloadFingerprint = "sha256:ada@example.orgada" := by
    refine ⟨_, _, rfl, mem_cons_self, rfl, ?_, ?_⟩
    · decide
    · decide
  obtain ⟨hscreened, hreplayed⟩ := screened_of_path (screened_empty oneVisitor)
    (path_of_serial true hserial)
  have hada := hreplayed (visit "Ada") "sha256:k-1" (by decide) (by decide) original horiginal
    hmakerspace hkey
  have heve := hreplayed (visit "Eve") "sha256:k-1" (by decide) (by decide) original horiginal
    hmakerspace hkey
  refine ⟨atRest t, hscreened, original, horiginal, hada.answer.mpr ?_, (heve.refused ?_).2⟩
  · rw [hpayload]
    decide
  · rw [hpayload]
    decide

end Lending
end SpaceWorks
