import SpaceWorks.Library.Checked
import SpaceWorks.Audit.Format

/-!
# The anchor store of one scope

The object-lock bucket of `anchors_object_storage.py` and `anchors_object_rotation.py`, under one
scope.  Objects are never overwritten or removed.
-/

namespace SpaceWorks
namespace Audit

open Checked List

variable {handovers : List (Fingerprint × Fingerprint)} {visited : List Fingerprint}
  {signer : Fingerprint}

inductive AnchorError
  | doesNotBindRoot
  | forks
  | cycles
  | otherContent
  | doesNotContinueHead
  | noTransition
  | notAuthority
  | pinnedToAnotherSigner
  | regressesHead
  | leavesGap
  | doesNotBindHead

structure AnchorStore where
  objects : List AnchorEnvelope
  transitions : List RotationEnvelope

structure ScopeHead where
  seq : Nat
  signer : Fingerprint
  root : Digest
  deriving DecidableEq

def AnchorStore.fetch (store : AnchorStore) (signer : Fingerprint) (seq : Nat) :
    Option AnchorEnvelope :=
  store.objects.find? fun object => object.signer = signer ∧ object.seq = seq

def AnchorStore.fetchRotation (store : AnchorStore) (oldSigner newSigner : Fingerprint)
    (seq : Nat) : Option RotationEnvelope :=
  store.transitions.find? fun transition =>
    transition.payload.oldFingerprint = oldSigner ∧ transition.payload.newFingerprint = newSigner ∧
        transition.payload.lastOldBatchSeq = seq

/-- The order of `max` on pairs of a sequence and a signer. -/
def AnchorEnvelope.Before (object other : AnchorEnvelope) : Prop :=
  object.seq < other.seq ∨ object.seq = other.seq ∧ object.signer ≤ other.signer

instance (object other : AnchorEnvelope) : Decidable (object.Before other) :=
  inferInstanceAs (Decidable (_ ∨ _))

/-- `max(candidates)` of `_scope_batch_head`. -/
def latestObject : List AnchorEnvelope → Option AnchorEnvelope
  | [] => none
  | object :: objects =>
    match latestObject objects with
    | none => some object
    | some latest => if object.Before latest then some latest else some object

/-- The handovers at the head, by their old signer. -/
def collectTransitions (root : Digest) :
    List (Fingerprint × Fingerprint) → List RotationPayload →
      Except AnchorError (List (Fingerprint × Fingerprint))
  | found, [] => .ok found
  | found, transition :: transitions => do
    require (transition.lastOldBatchRoot = root) .doesNotBindRoot
    require (∀ newSigner ∈ found.lookup transition.oldFingerprint,
      newSigner = transition.newFingerprint) .forks
    collectTransitions root
      ((transition.oldFingerprint, transition.newFingerprint) :: found) transitions

def unvisited (handovers : List (Fingerprint × Fingerprint)) (visited : List Fingerprint) :
    List (Fingerprint × Fingerprint) :=
  handovers.filter fun handover => handover.1 ∉ visited

theorem unvisited_shrinks
    {newSigner : Fingerprint} (hfound : handovers.lookup signer = some newSigner)
    (hnew : signer ∉ visited) :
    (unvisited handovers (signer :: visited)).length < (unvisited handovers visited).length := by
  have hmem : ∃ handover ∈ handovers, handover.1 = signer := by
    obtain ⟨_, _, hsplit, -⟩ := List.lookup_eq_some_iff.mp hfound
    exact ⟨(signer, newSigner), by simp [hsplit], rfl⟩
  obtain ⟨handover, hmem, rfl⟩ := hmem
  have hsub : unvisited handovers (handover.1 :: visited) =
      (unvisited handovers visited).filter (·.1 ≠ handover.1) := by
    simp only [unvisited, filter_filter]
    refine filter_congr fun x _ => ?_
    simp
  rw [hsub]
  exact length_filter_lt_length_iff_exists.mpr
    ⟨handover, by simpa [unvisited] using ⟨hmem, hnew⟩, by simp⟩

def followTransitions (handovers : List (Fingerprint × Fingerprint))
    (visited : List Fingerprint) (signer : Fingerprint) : Except AnchorError Fingerprint :=
  match _hfound : handovers.lookup signer with
  | none => .ok signer
  | some newSigner =>
    if _hvisited : signer ∈ visited then
      .error .cycles
    else
      followTransitions handovers (signer :: visited) newSigner
  termination_by (unvisited handovers visited).length
  decreasing_by exact unvisited_shrinks _hfound _hvisited

/-- `_scope_head`; none stands for sequence -1. -/
def AnchorStore.scopeHead (store : AnchorStore) : Except AnchorError (Option ScopeHead) :=
  match latestObject store.objects with
  | none => .ok none
  | some object => do
    let root := object.payload.root
    let handovers ← collectTransitions root []
      ((store.transitions.map (·.payload)).filter (·.lastOldBatchSeq = object.seq))
    let signer ← followTransitions handovers [] object.signer
    pure (some { seq := object.seq, signer := signer, root := root })

/-- `_latest_sequence`; none stands for -1. -/
def AnchorStore.latestSequence (store : AnchorStore) (signer : Fingerprint) : Option Nat :=
  ((store.objects.filter (·.signer = signer)).map (·.seq)).max?

/-- The number after a sequence, where none stands for -1. -/
def following : Option Nat → Nat
  | none => 0
  | some seq => seq + 1

/-- What the store then has under the identity of `envelope`. -/
def AnchorStore.publish (store : AnchorStore) (envelope : AnchorEnvelope) :
    Except AnchorError AnchorStore :=
  match store.fetch envelope.signer envelope.seq with
  | some existing => do
    require (existing = envelope) .otherContent
    pure store
  | none => do
    let head ← store.scopeHead
    if envelope.payload.protocol = 2 then
      require (envelope.seq = following (head.map (·.seq))) .doesNotContinueHead
      require (∀ current ∈ head, current.signer ≠ envelope.signer →
        store.fetchRotation current.signer envelope.signer current.seq ≠ none)
        .noTransition
    else
      require (∀ current ∈ head, current.signer = envelope.signer) .notAuthority
    let latest := store.latestSequence envelope.signer
    require (envelope.seq = 0 → ∀ object ∈ store.objects, object.signer = envelope.signer)
      .pinnedToAnotherSigner
    require (∀ seq ∈ latest, seq < envelope.seq) .regressesHead
    require (envelope.payload.protocol ≠ 2 → envelope.seq = following latest) .leavesGap
    pure { store with objects := envelope :: store.objects }

def AnchorStore.publishRotation (store : AnchorStore) (envelope : RotationEnvelope) :
    Except AnchorError AnchorStore :=
  let payload := envelope.payload
  match store.fetchRotation payload.oldFingerprint payload.newFingerprint
      payload.lastOldBatchSeq with
  | some existing => do
    require (existing = envelope) .otherContent
    pure store
  | none => do
    let head ← store.scopeHead
    require (head = some (ScopeHead.mk payload.lastOldBatchSeq payload.oldFingerprint
      payload.lastOldBatchRoot)) .doesNotBindHead
    pure { store with transitions := envelope :: store.transitions }

theorem followTransitions_ends
    {last : Fingerprint} (h : followTransitions handovers visited signer = .ok last) :
    handovers.lookup last = none := by
  fun_induction followTransitions handovers visited signer with
  | case1 _ signer hnone =>
    obtain rfl : signer = last := by simpa using h
    exact hnone
  | case2 => simp at h
  | case3 _ _ _ _ _ ih => exact ih h

theorem collectTransitions_lookup
    {root : Digest} {found : List (Fingerprint × Fingerprint)}
    {transitions : List RotationPayload}
    (h : collectTransitions root found transitions = .ok handovers) :
    (∀ signer, found.lookup signer ≠ none → handovers.lookup signer ≠ none) ∧
      ∀ transition ∈ transitions, handovers.lookup transition.oldFingerprint ≠ none := by
  induction transitions generalizing found with
  | nil =>
    obtain rfl : found = handovers := by simpa [collectTransitions] using h
    exact ⟨fun _ hsigner => hsigner, by simp⟩
  | cons _ _ ih =>
    simp only [collectTransitions, bind_ok, require_ok] at h
    obtain ⟨-, -, -, -, hrest⟩ := h
    obtain ⟨hkept, hothers⟩ := ih hrest
    refine ⟨fun signer hsigner => hkept signer ?_, ?_⟩
    · rw [lookup_cons]
      split
      · simp
      · exact hsigner
    · intro other hother
      rcases mem_cons.mp hother with rfl | hlater
      · exact hkept _ (by simp)
      · exact hothers other hlater

theorem AnchorStore.scopeHead_signer_last {store : AnchorStore} {head : ScopeHead}
    (h : store.scopeHead = .ok (some head))
    {transition : RotationEnvelope} (hmem : transition ∈ store.transitions)
    (hseq : transition.payload.lastOldBatchSeq = head.seq) :
    transition.payload.oldFingerprint ≠ head.signer := by
  unfold scopeHead at h
  split at h
  · simp at h
  · rename_i object hlatest
    simp at h
    obtain ⟨_, hcollect, _, hfollow, rfl⟩ := h
    have hin := (collectTransitions_lookup hcollect).2 transition.payload
      (by simpa using ⟨⟨transition, hmem, rfl⟩, hseq⟩)
    rintro rfl
    exact hin (followTransitions_ends hfollow)

end Audit
end SpaceWorks
