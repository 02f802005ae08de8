import Mathlib.Data.List.Basic
import Mathlib.Logic.Relation
/-!
# The fence of mapped writes

The fences of `apps/encryption/write_fence.py` and the database's check of mapped writes
(`pii_assert_mapped_write_allowed`).  Transactions take advisory locks and read what is committed at
each statement; statements interleave in any way.
-/

namespace SpaceWorks
namespace Encryption

open Function List Option

inductive Resource
  | global
  | makerspace (id : Nat)
  deriving DecidableEq

inductive FenceState
  | open
  | closed

inductive OperationKind
  | enableTransition
  | decryptRollback
  | searchRotation
  | tenantImport

structure Fence where
  state : FenceState := .open
  operationId : Option Nat := none
  operationKind : Option OperationKind := none

structure Fences where
  makerspaceIds : List Nat
  fence : Resource → Fence

def Fences.write (fences : Fences) (rows : List Resource) (value : Fence) : Fences :=
  { fences with fence := fun resource => if resource ∈ rows then value else fences.fence resource }

structure Lock where
  resource : Resource
  exclusive : Bool

/-- Two sessions cannot hold both locks. -/
def Lock.Conflicts (a b : Lock) : Prop :=
  a.resource = b.resource ∧ (a.exclusive = true ∨ b.exclusive = true)

/-- The operation kinds that may write through their own closed fence. -/
def writingKinds : List OperationKind :=
  [.enableTransition, .decryptRollback, .searchRotation, .tenantImport]

/-- `pii_assert_mapped_write_allowed` does not raise for a fence. -/
def Fence.Allows (fence : Fence) (operation : Option Nat) : Prop :=
  ¬ (fence.state = .closed ∧
    (operation ≠ fence.operationId ∨ ∃ kind, fence.operationKind = some kind ∧ kind ∉ writingKinds))

section Sessions

inductive Task
  | closeGlobal (kind : OperationKind) (allMakerspaces : Bool)
  | closeMakerspace (id : Nat) (kind : OperationKind)
  | reopen (operation : Nat)

/-- How far a call has come with its fences and rows. -/
inductive Position
  | started
  | missed
  | located (resource : Resource)
  | listed (rows : List Resource)
  | written (rows : List Resource) (value : Fence)

/-- A transaction: locks, operation, and for a writer the checks it has passed. -/
inductive Session
  | idle
  | writing (held : List Lock) (operation : Option Nat) (globalPassed : Bool)
      (passed : List (Option Nat × Option Nat))
  | fencing (held : List Lock) (task : Task) (position : Position)

def Session.held : Session → List Lock
  | .idle => []
  | .writing held _ _ _ => held
  | .fencing held _ _ => held

def Session.take (lock : Lock) : Session → Session
  | .idle => .idle
  | .writing held operation globalPassed passed =>
    .writing (lock :: held) operation globalPassed passed
  | .fencing held task position => .fencing (lock :: held) task position

structure Shared (ι : Type) where
  fences : Fences
  nextOperation : Nat := 0
  returned : List Nat := []
  session : ι → Session

variable {ι : Type} [DecidableEq ι]

def Shared.set (c : Shared ι) (i : ι) (session : Session) : Shared ι :=
  { c with session := update c.session i session }

/-- One statement; an operation id is known once its close returns. -/
inductive Next : Shared ι → Shared ι → Prop
  | beginWriting {c : Shared ι} {i : ι}
      (hidle : c.session i = .idle) :
      Next c (c.set i (.writing [] none false []))
  | beginFencing {c : Shared ι} {i : ι} (task : Task) (hidle : c.session i = .idle)
      (hknown : ∀ operation, task = .reopen operation → operation ∈ c.returned) :
      Next c (c.set i (.fencing [] task .started))
  | lock {c : Shared ι} {i : ι} (lock : Lock)
      (hfree : ∀ j, j ≠ i → ∀ other ∈ (c.session j).held, ¬ lock.Conflicts other) :
      Next c (c.set i ((c.session i).take lock))
  | setOperation {c : Shared ι} {i : ι} {held : List Lock} {old : Option Nat} {globalPassed : Bool}
      {passed : List (Option Nat × Option Nat)} (operation : Option Nat)
      (hwriting : c.session i = .writing held old globalPassed passed) :
      Next c (c.set i (.writing held operation false passed))
  | checkGlobal {c : Shared ι} {i : ι} {held : List Lock} {operation : Option Nat}
      {globalPassed : Bool} {passed : List (Option Nat × Option Nat)}
      (hwriting : c.session i = .writing held operation globalPassed passed)
      (hlocked : ⟨.global, false⟩ ∈ held)
      (hallowed : (c.fences.fence .global).Allows operation) :
      Next c (c.set i (.writing held operation true passed))
  | passGlobal {c : Shared ι} {i : ι} {held : List Lock} {operation : Option Nat}
      {passed : List (Option Nat × Option Nat)}
      (hwriting : c.session i = .writing held operation true passed) :
      Next c (c.set i (.writing held operation false ((operation, none) :: passed)))
  | passMakerspace {c : Shared ι} {i : ι} {held : List Lock} {operation : Option Nat}
      {passed : List (Option Nat × Option Nat)} (id : Nat)
      (hwriting : c.session i = .writing held operation true passed)
      (hlocked : ⟨.makerspace id, false⟩ ∈ held)
      (hexists : id ∈ c.fences.makerspaceIds)
      (hallowed : (c.fences.fence (.makerspace id)).Allows operation) :
      Next c (c.set i (.writing held operation false ((operation, some id) :: passed)))
  | commitWrites {c : Shared ι} {i : ι} {held : List Lock} {operation : Option Nat}
      {passed : List (Option Nat × Option Nat)}
      (hwriting : c.session i = .writing held operation false passed) :
      Next c (c.set i .idle)
  | findGlobal {c : Shared ι} {i : ι} {held : List Lock} {operation : Nat}
      (hfencing : c.session i = .fencing held (.reopen operation) .started)
      (hfound : (c.fences.fence .global).operationId = some operation) :
      Next c (c.set i (.fencing held (.reopen operation) (.located .global)))
  | missGlobal {c : Shared ι} {i : ι} {held : List Lock} {operation : Nat}
      (hfencing : c.session i = .fencing held (.reopen operation) .started)
      (hmissed : (c.fences.fence .global).operationId ≠ some operation) :
      Next c (c.set i (.fencing held (.reopen operation) .missed))
  | findMakerspace {c : Shared ι} {i : ι} {held : List Lock} {operation : Nat} (id : Nat)
      (hfencing : c.session i = .fencing held (.reopen operation) .missed)
      (hexists : id ∈ c.fences.makerspaceIds)
      (hfound : (c.fences.fence (.makerspace id)).operationId = some operation) :
      Next c (c.set i (.fencing held (.reopen operation) (.located (.makerspace id))))
  | listClosing {c : Shared ι} {i : ι} {held : List Lock} {kind : OperationKind}
      {allMakerspaces : Bool}
      (hfencing : c.session i = .fencing held (.closeGlobal kind allMakerspaces) .started)
      (hlocked : ⟨.global, true⟩ ∈ held) :
      Next c (c.set i (.fencing held (.closeGlobal kind allMakerspaces)
        (.listed (.global ::
          if allMakerspaces then c.fences.makerspaceIds.map .makerspace else []))))
  | listReopening {c : Shared ι} {i : ι} {held : List Lock} {operation : Nat}
      (hfencing : c.session i = .fencing held (.reopen operation) (.located .global))
      (hlocked : ⟨.global, true⟩ ∈ held) :
      Next c (c.set i (.fencing held (.reopen operation)
        (.listed (.global :: (c.fences.makerspaceIds.filter fun id =>
          (c.fences.fence (.makerspace id)).operationId = some operation).map .makerspace))))
  | pickClosing {c : Shared ι} {i : ι} {held : List Lock} {id : Nat} {kind : OperationKind}
      (hfencing : c.session i = .fencing held (.closeMakerspace id kind) .started)
      (hlocked : ⟨.global, false⟩ ∈ held)
      (hexists : id ∈ c.fences.makerspaceIds) :
      Next c (c.set i (.fencing held (.closeMakerspace id kind) (.listed [.makerspace id])))
  | pickReopening {c : Shared ι} {i : ι} {held : List Lock} {operation : Nat} {id : Nat}
      (hfencing : c.session i = .fencing held (.reopen operation) (.located (.makerspace id)))
      (hlocked : ⟨.global, false⟩ ∈ held) :
      Next c (c.set i (.fencing held (.reopen operation) (.listed [.makerspace id])))
  | writeClosed {c : Shared ι} {i : ι} {held : List Lock} {task : Task} {rows : List Resource}
      (kind : OperationKind)
      (hfencing : c.session i = .fencing held task (.listed rows))
      (hcloses : (∃ allMakerspaces, task = .closeGlobal kind allMakerspaces) ∨
        ∃ id, task = .closeMakerspace id kind)
      (hlocked : ∀ id, .makerspace id ∈ rows → ⟨.makerspace id, true⟩ ∈ held)
      (hopen : ∀ resource ∈ rows, (c.fences.fence resource).state ≠ .closed) :
      Next c ({ c with nextOperation := c.nextOperation + 1 }.set i
        (.fencing held task (.written rows
          { state := .closed, operationId := some c.nextOperation, operationKind := some kind })))
  | writeOpen {c : Shared ι} {i : ι} {held : List Lock} {operation : Nat} {rows : List Resource}
      (hfencing : c.session i = .fencing held (.reopen operation) (.listed rows))
      (hlocked : ∀ id, .makerspace id ∈ rows → ⟨.makerspace id, true⟩ ∈ held)
      (hclosed : ∀ resource ∈ rows, (c.fences.fence resource).state = .closed ∧
        (c.fences.fence resource).operationId = some operation) :
      Next c (c.set i (.fencing held (.reopen operation) (.written rows {})))
  | commitFences {c : Shared ι} {i : ι} {held : List Lock} {task : Task} {rows : List Resource}
      {value : Fence}
      (hfencing : c.session i = .fencing held task (.written rows value)) :
      Next c ({ c with
        fences := c.fences.write rows value
        returned := value.operationId.toList ++ c.returned }.set i .idle)
  | rollback {c : Shared ι} (i : ι) : Next c (c.set i .idle)

def Path : Shared ι → Shared ι → Prop :=
  Relation.ReflTransGen Next

def atRest (makerspaceIds : List Nat) : Shared ι where
  fences := { makerspaceIds := makerspaceIds, fence := fun _ => {} }
  session := fun _ => .idle

end Sessions

section Invariant

variable {ι : Type} {c c' : Shared ι} {i : ι}
  {a : Lock} {session : Session} {fences : Fences} {held' : List Lock} {task : Task}
  {rows : List Resource} {value : Fence} {resource : Resource} {j : ι}

/-- The operation id that a closing session is about to commit. -/
def Session.pending : Session → Option Nat
  | .fencing _ _ (.written _ value) => value.operationId
  | _ => none

/-- All fences of the operation under the exclusive global lock, or one makerspace's under the
shared one. -/
def Covers (fences : Fences) (held : List Lock) (task : Task) (rows : List Resource) : Prop :=
  (∀ id, .makerspace id ∈ rows → id ∈ fences.makerspaceIds) ∧
  ((⟨.global, true⟩ ∈ held ∧ .global ∈ rows ∧ ∀ operation, task = .reopen operation →
      ∀ id, (fences.fence (.makerspace id)).operationId = some operation → .makerspace id ∈ rows) ∨
    (⟨.global, false⟩ ∈ held ∧ (∃ id, rows = [.makerspace id]) ∧ ∀ operation,
      task = .reopen operation → (fences.fence .global).operationId ≠ some operation))

/-- The written rows are locked, and committed as read. -/
def Replaces (c : Shared ι) (held : List Lock) (task : Task) (rows : List Resource)
    (value : Fence) : Prop :=
  (∀ id, .makerspace id ∈ rows → ⟨.makerspace id, true⟩ ∈ held) ∧
  ((∃ operation, value.state = .closed ∧ value.operationId = some operation ∧
      operation < c.nextOperation ∧ operation ∉ c.returned ∧
      (∀ reopened, task ≠ .reopen reopened) ∧
      ∀ resource ∈ rows, (c.fences.fence resource).state ≠ .closed) ∨
    (∃ operation, value = {} ∧ task = .reopen operation ∧
      ∀ resource ∈ rows, (c.fences.fence resource).state = .closed ∧
        (c.fences.fence resource).operationId = some operation))

/-- What a session knows of the committed fences still stands. -/
def Fits (c : Shared ι) : Session → Prop
  | .idle => True
  | .writing held operation globalPassed passed =>
    (globalPassed = true → ⟨.global, false⟩ ∈ held ∧ (c.fences.fence .global).Allows operation) ∧
    ∀ entry ∈ passed, ⟨.global, false⟩ ∈ held ∧ (c.fences.fence .global).Allows entry.1 ∧
      ∀ id, entry.2 = some id → ⟨.makerspace id, false⟩ ∈ held ∧
        (c.fences.fence (.makerspace id)).Allows entry.1
  | .fencing held task position =>
    (∀ operation, task = .reopen operation → operation ∈ c.returned) ∧
    match position with
    | .started => True
    | .missed => ∀ operation, task = .reopen operation →
        (c.fences.fence .global).operationId ≠ some operation
    | .located resource => ∀ id, resource = .makerspace id →
        id ∈ c.fences.makerspaceIds ∧ ∀ operation, task = .reopen operation →
          (c.fences.fence .global).operationId ≠ some operation
    | .listed rows => Covers c.fences held task rows
    | .written rows value => Covers c.fences held task rows ∧ Replaces c held task rows value

/-- Locks are compatible, reads are committed, ids are fresh and name the closed fences, several of
them only for a global close. -/
structure Inv (c : Shared ι) : Prop where
  compatible : ∀ i j, i ≠ j → ∀ a ∈ (c.session i).held, ∀ b ∈ (c.session j).held, ¬ a.Conflicts b
  fits : ∀ i, Fits c (c.session i)
  distinct : ∀ i j, i ≠ j → ∀ operation, (c.session i).pending = some operation →
    (c.session j).pending ≠ some operation
  known : ∀ resource operation, (c.fences.fence resource).operationId = some operation →
    operation ∈ c.returned
  issued : ∀ operation ∈ c.returned, operation < c.nextOperation
  identified : ∀ resource, (c.fences.fence resource).operationId ≠ none ↔
    (c.fences.fence resource).state = .closed
  grouped : ∀ operation id id', id ≠ id' →
    (c.fences.fence (.makerspace id)).operationId = some operation →
    (c.fences.fence (.makerspace id')).operationId = some operation →
      (c.fences.fence .global).operationId = some operation
  existing : ∀ id operation, (c.fences.fence (.makerspace id)).operationId = some operation →
    id ∈ c.fences.makerspaceIds

theorem inv_atRest (makerspaceIds : List Nat) : Inv (atRest makerspaceIds : Shared ι) where
  compatible := by simp [atRest, Session.held]
  fits := by simp [atRest, Fits]
  distinct := by simp [atRest, Session.pending]
  known := by simp [atRest]
  issued := by simp [atRest]
  identified := by simp [atRest]
  grouped := by simp [atRest]
  existing := by simp [atRest]

theorem Lock.Conflicts.symm {b : Lock} (h : a.Conflicts b) : b.Conflicts a :=
  ⟨h.1.symm, h.2.symm⟩

theorem held_take {lock : Lock} (h : a ∈ (session.take lock).held) :
    a = lock ∨ a ∈ session.held := by
  cases session with
  | idle => cases h
  | writing | fencing => exact mem_cons.mp h

theorem pending_take (session : Session) (lock : Lock) :
    (session.take lock).pending = session.pending := by
  cases session with
  | idle | writing => rfl
  | fencing _ _ position =>
    cases position with
    | started | missed | located _ | listed _ | written _ _ => rfl

theorem Covers.mono {held : List Lock}
    (hheld : ∀ a ∈ held, a ∈ held') (h : Covers fences held task rows) :
    Covers fences held' task rows := by
  obtain ⟨hexist, ⟨hlock, hrest⟩ | ⟨hlock, hrest⟩⟩ := h
  · exact ⟨hexist, .inl ⟨hheld _ hlock, hrest⟩⟩
  · exact ⟨hexist, .inr ⟨hheld _ hlock, hrest⟩⟩

theorem Replaces.mono {held : List Lock}
    (hheld : ∀ a ∈ held, a ∈ held') (h : Replaces c held task rows value) :
    Replaces c held' task rows value :=
  ⟨fun id hid => hheld _ (h.1 id hid), h.2⟩

theorem fits_take (h : Fits c session) (lock : Lock) :
    Fits c (session.take lock) := by
  cases session with
  | idle => trivial
  | writing =>
    obtain ⟨hglobal, hpassed⟩ := h
    refine ⟨fun hflag => ?_, fun entry hentry => ?_⟩
    · exact ⟨mem_cons_of_mem _ (hglobal hflag).1, (hglobal hflag).2⟩
    · obtain ⟨hlock, hallows, hmakerspace⟩ := hpassed entry hentry
      refine ⟨mem_cons_of_mem _ hlock, hallows, fun id hid => ?_⟩
      exact ⟨mem_cons_of_mem _ (hmakerspace id hid).1, (hmakerspace id hid).2⟩
  | fencing _ _ position =>
    refine ⟨h.1, ?_⟩
    cases position with
    | started => trivial
    | missed | located => exact h.2
    | listed => exact Covers.mono (fun a ha => mem_cons_of_mem _ ha) h.2
    | written =>
      exact ⟨h.2.1.mono fun a ha => mem_cons_of_mem _ ha,
        h.2.2.mono fun a ha => mem_cons_of_mem _ ha⟩

theorem Inv.tick (h : Inv c) : Inv { c with nextOperation := c.nextOperation + 1 } := by
  refine ⟨h.compatible, fun j => ?_, h.distinct, h.known, fun operation hmem => ?_,
    h.identified, h.grouped, h.existing⟩
  · have hfits := h.fits j
    cases hsession : c.session j with
    | idle => trivial
    | writing =>
      rw [hsession] at hfits
      exact hfits
    | fencing _ _ position =>
      rw [hsession] at hfits
      cases position with
      | started | missed | located _ | listed _ => exact hfits
      | written =>
        obtain ⟨hreopen, hcovers, hlocked, hvalue⟩ := hfits
        refine ⟨hreopen, hcovers, hlocked, ?_⟩
        rcases hvalue with ⟨operation, hstate, hid, hlt, hrest⟩ | hopens
        · exact .inl ⟨operation, hstate, hid, Nat.lt_succ_of_lt hlt, hrest⟩
        · exact .inr hopens
  · exact Nat.lt_succ_of_lt (h.issued operation hmem)

theorem pending_fresh (h : Fits c session) {operation : Nat}
    (hpending : session.pending = some operation) :
    operation < c.nextOperation ∧ operation ∉ c.returned := by
  cases session with
  | idle | writing => cases hpending
  | fencing _ _ position =>
    cases position with
    | started | missed | located _ | listed _ => cases hpending
    | written =>
      obtain ⟨-, -, -, hvalue⟩ := h
      rcases hvalue with ⟨_, -, hid, hlt, hnew, -⟩ | ⟨_, rfl, -⟩
      · rw [Session.pending, hid] at hpending
        cases hpending
        exact ⟨hlt, hnew⟩
      · cases hpending

theorem lock_of_row {held : List Lock} (hcovers : Covers fences held task rows)
    (hlocked : ∀ id, .makerspace id ∈ rows → ⟨.makerspace id, true⟩ ∈ held)
    (hrow : resource ∈ rows) : ⟨resource, true⟩ ∈ held := by
  cases resource with
  | makerspace id => exact hlocked id hrow
  | global =>
    rcases hcovers.2 with ⟨hlock, -, -⟩ | ⟨-, ⟨_, rfl⟩, -⟩
    · exact hlock
    · cases mem_singleton.mp hrow

theorem fence_write_of_locked (h : Inv c) (hj : j ≠ i) {held : List Lock}
    (hfencing : c.session i = .fencing held task (.written rows value))
    (ha : a ∈ (c.session j).held) :
    (c.fences.write rows value).fence a.resource = c.fences.fence a.resource := by
  have hfits := h.fits i
  rw [hfencing] at hfits
  obtain ⟨-, hcovers, hlocked, -⟩ := hfits
  refine if_neg fun hrow => ?_
  have hlock := lock_of_row hcovers hlocked hrow
  have hheld : ⟨a.resource, true⟩ ∈ (c.session i).held := by
    rw [hfencing]
    exact hlock
  exact h.compatible i j (Ne.symm hj) _ hheld a ha ⟨rfl, .inl rfl⟩

theorem fits_commit (h : Inv c) (hj : j ≠ i) {held : List Lock}
    (hfencing : c.session i = .fencing held task (.written rows value)) :
    Fits { c with
      fences := c.fences.write rows value
      returned := value.operationId.toList ++ c.returned } (c.session j) := by
  have hkept {a : Lock} (ha : a ∈ (c.session j).held) := fence_write_of_locked h hj hfencing ha
  have hfits := h.fits j
  have hown := h.fits i
  rw [hfencing] at hown
  obtain ⟨-, hcovers, _, hvalue⟩ := hown
  -- the global fence never gets an operation that has been returned
  have hmissed : ∀ operation, operation ∈ c.returned →
      (c.fences.fence .global).operationId ≠ some operation →
        ((c.fences.write rows value).fence .global).operationId ≠ some operation := by
    intro operation hreturned hold
    change (if _ ∈ rows then value else _).operationId ≠ _
    split
    · rcases hvalue with ⟨_, -, hid, -, hnew, -⟩ | ⟨_, rfl, -⟩
      · rw [hid]
        rintro hsame
        exact hnew (some.inj hsame ▸ hreturned)
      · simp
    · exact hold
  -- the committing call holds a lock of the global fence
  have hshared : ⟨.global, true⟩ ∉ (c.session j).held := by
    intro hexclusive
    obtain ⟨a, ha, hglobal⟩ : ∃ a ∈ held, a.resource = .global := by
      rcases hcovers.2 with ⟨hlock, -⟩ | ⟨hlock, -⟩
      · exact ⟨_, hlock, rfl⟩
      · exact ⟨_, hlock, rfl⟩
    have hheld : a ∈ (c.session i).held := by
      rw [hfencing]
      exact ha
    exact h.compatible i j (Ne.symm hj) a hheld _ hexclusive ⟨hglobal, .inr rfl⟩
  cases hsession : c.session j with
  | idle => trivial
  | writing =>
    rw [hsession] at hfits hkept
    obtain ⟨hglobal, hpassed⟩ := hfits
    refine ⟨fun hflag => ?_, fun entry hentry => ?_⟩
    · obtain ⟨hlock, hallows⟩ := hglobal hflag
      refine ⟨hlock, ?_⟩
      rw [hkept hlock]
      exact hallows
    · obtain ⟨hlock, hallows, hmakerspace⟩ := hpassed entry hentry
      refine ⟨hlock, by rw [hkept hlock]; exact hallows, fun id hid => ?_⟩
      obtain ⟨hidLock, hidAllows⟩ := hmakerspace id hid
      exact ⟨hidLock, by rw [hkept hidLock]; exact hidAllows⟩
  | fencing held' task' position =>
    rw [hsession] at hfits hkept hshared
    obtain ⟨hreopen, hposition⟩ := hfits
    refine ⟨fun operation htask => mem_append_right _ (hreopen operation htask), ?_⟩
    have hcovers' : ∀ rows', Covers c.fences held' task' rows' →
        Covers (c.fences.write rows value) held' task' rows' := by
      rintro _ ⟨hexist, ⟨hlock, -⟩ | ⟨hlock, hpick, hother⟩⟩
      · exact absurd hlock hshared
      · refine ⟨hexist, .inr ⟨hlock, hpick, fun operation htask => ?_⟩⟩
        rw [hkept hlock]
        exact hother operation htask
    cases position with
    | started => trivial
    | missed =>
      intro operation htask
      exact hmissed operation (hreopen operation htask) (hposition operation htask)
    | located =>
      intro id hid
      obtain ⟨hexist, hother⟩ := hposition id hid
      exact ⟨hexist, fun operation htask =>
        hmissed operation (hreopen operation htask) (hother operation htask)⟩
    | listed rows' => exact hcovers' rows' hposition
    | written rows' =>
      obtain ⟨hcoversOld, hlocked', hvalue'⟩ := hposition
      have hrow : ∀ resource ∈ rows', (c.fences.write rows value).fence resource =
          c.fences.fence resource := fun resource hresource =>
        hkept (lock_of_row hcoversOld hlocked' hresource)
      refine ⟨hcovers' rows' hcoversOld, hlocked', ?_⟩
      rcases hvalue' with ⟨new, hstate, hid, hlt, hnew, htask, hopen⟩ |
        ⟨operation, hempty, htask, hclosed⟩
      · refine .inl ⟨new, hstate, hid, hlt, ?_, htask, fun resource hresource => ?_⟩
        · rw [mem_append, not_or]
          refine ⟨fun hmem => ?_, hnew⟩
          have hpending : (c.session i).pending = some new := by
            rw [hfencing]
            exact mem_toList.mp hmem
          exact h.distinct i j (Ne.symm hj) new hpending (by rw [hsession]; exact hid)
        · change ((c.fences.write rows value).fence resource).state ≠ .closed
          rw [hrow resource hresource]
          exact hopen resource hresource
      · refine .inr ⟨operation, hempty, htask, fun resource hresource => ?_⟩
        rw [hrow resource hresource]
        exact hclosed resource hresource

theorem fence_write_of_mem (h : resource ∈ rows) :
    (fences.write rows value).fence resource = value := if_pos h

theorem fence_write_of_notMem (h : resource ∉ rows) :
    (fences.write rows value).fence resource = fences.fence resource := if_neg h

theorem grouped_write (h : Inv c) {held : List Lock} (hcovers : Covers c.fences held task rows)
    (hvalue : Replaces c held task rows value) (operation : Nat) (id id' : Nat) (hne : id ≠ id')
    (hid : ((c.fences.write rows value).fence (.makerspace id)).operationId = some operation)
    (hid' : ((c.fences.write rows value).fence (.makerspace id')).operationId = some operation) :
    ((c.fences.write rows value).fence .global).operationId = some operation := by
  obtain ⟨-, ⟨new, _, hnew, -, hfresh, -, hopen⟩ | ⟨reopened, rfl, htask, hclosed⟩⟩ := hvalue
  · by_cases hsame : operation = new
    · subst hsame
      have hrow : ∀ k, ((c.fences.write rows value).fence (.makerspace k)).operationId =
          some operation → .makerspace k ∈ rows := by
        intro k hk
        by_contra hout
        rw [fence_write_of_notMem hout] at hk
        exact hfresh (h.known _ _ hk)
      rcases hcovers.2 with ⟨-, hglobal, -⟩ | ⟨-, ⟨_, rfl⟩, -⟩
      · rw [fence_write_of_mem hglobal]
        exact hnew
      · have hk := mem_singleton.mp (hrow id hid)
        have hk' := mem_singleton.mp (hrow id' hid')
        exact absurd (Resource.makerspace.inj (hk.trans hk'.symm)) hne
    · have hout : ∀ k, ((c.fences.write rows value).fence (.makerspace k)).operationId =
          some operation → (c.fences.fence (.makerspace k)).operationId = some operation := by
        intro k hk
        by_cases hrow : .makerspace k ∈ rows
        · rw [fence_write_of_mem hrow, hnew] at hk
          exact absurd (some.inj hk).symm hsame
        · rwa [fence_write_of_notMem hrow] at hk
      have hglobal := h.grouped operation id id' hne (hout id hid) (hout id' hid')
      rw [fence_write_of_notMem]
      · exact hglobal
      · intro hrow
        refine hopen _ hrow ((h.identified .global).mp ?_)
        rw [hglobal]
        exact some_ne_none operation
  · have hout : ∀ k, ((c.fences.write rows {}).fence (.makerspace k)).operationId =
        some operation → .makerspace k ∉ rows ∧
          (c.fences.fence (.makerspace k)).operationId = some operation := by
      intro k hk
      by_cases hrow : .makerspace k ∈ rows
      · rw [fence_write_of_mem hrow] at hk
        cases hk
      · exact ⟨hrow, by rwa [fence_write_of_notMem hrow] at hk⟩
    obtain ⟨hrow, hold⟩ := hout id hid
    have hglobal := h.grouped operation id id' hne hold (hout id' hid').2
    rw [fence_write_of_notMem]
    · exact hglobal
    · intro hmem
      obtain rfl : operation = reopened := some.inj (hglobal.symm.trans (hclosed _ hmem).2)
      rcases hcovers.2 with ⟨-, -, hall⟩ | ⟨-, ⟨_, rfl⟩, -⟩
      · exact hrow (hall operation htask id hold)
      · cases mem_singleton.mp hmem

variable [DecidableEq ι]

theorem Inv.set (h : Inv c) (hheld : ∀ a ∈ session.held, a ∈ (c.session i).held ∨
      ∀ j, j ≠ i → ∀ b ∈ (c.session j).held, ¬ a.Conflicts b) (hfits : Fits c session)
    (hpending : ∀ operation, session.pending = some operation →
      ∀ j, j ≠ i → (c.session j).pending ≠ some operation) :
    Inv (c.set i session) := by
  have hfree : ∀ a ∈ session.held, ∀ j, j ≠ i → ∀ b ∈ (c.session j).held, ¬ a.Conflicts b := by
    intro a ha j hj b hb
    rcases hheld a ha with hold | hnew
    · exact h.compatible i j (Ne.symm hj) a hold b hb
    · exact hnew j hj b hb
  constructor
  · intro j k hjk a ha b hb
    simp only [Shared.set, update_apply] at ha hb
    by_cases hj : j = i
    · rw [if_pos hj] at ha
      rw [if_neg (fun hk => hjk (hj.trans hk.symm))] at hb
      exact hfree a ha k (fun hk => hjk (hj.trans hk.symm)) b hb
    · rw [if_neg hj] at ha
      by_cases hk : k = i
      · rw [if_pos hk] at hb
        exact fun hconflict => hfree b hb j hj a ha hconflict.symm
      · rw [if_neg hk] at hb
        exact h.compatible j k hjk a ha b hb
  · intro j
    change Fits c (update c.session i session j)
    rw [update_apply]
    split
    · exact hfits
    · exact h.fits j
  · intro j k hjk operation hj
    simp only [Shared.set, update_apply] at hj ⊢
    by_cases hji : j = i
    · rw [if_pos hji] at hj
      rw [if_neg (fun hk => hjk (hji.trans hk.symm))]
      exact hpending operation hj k fun hk => hjk (hji.trans hk.symm)
    · rw [if_neg hji] at hj
      split
      · exact fun hk => hpending operation hk j hji hj
      · exact h.distinct j k hjk operation hj
  · exact h.known
  · exact h.issued
  · exact h.identified
  · exact h.grouped
  · exact h.existing

theorem Inv.setKeeping (h : Inv c) (hheld : session.held = (c.session i).held)
    (hfits : Fits c session) (hpending : session.pending = none) :
    Inv (c.set i session) := by
  refine h.set (fun a ha => .inl (hheld ▸ ha)) hfits fun operation hoperation => ?_
  rw [hpending] at hoperation
  cases hoperation

theorem Inv.setIdle (h : Inv c) (i : ι) : Inv (c.set i .idle) := by
  refine h.set (fun a ha => ?_) trivial fun operation hoperation => ?_
  · cases ha
  · cases hoperation

theorem Inv.commit
    (h : Inv c) {held : List Lock} {task : Task} {rows : List Resource} {value : Fence}
    (hfencing : c.session i = .fencing held task (.written rows value)) :
    Inv ({ c with
      fences := c.fences.write rows value
      returned := value.operationId.toList ++ c.returned }.set i .idle) := by
  have hown := h.fits i
  rw [hfencing] at hown
  obtain ⟨-, hcovers, hvalue⟩ := hown
  have hidle := h.setIdle i
  have hcases : ∀ resource, ((c.fences.write rows value).fence resource = value ∧
      resource ∈ rows) ∨ (c.fences.write rows value).fence resource = c.fences.fence resource := by
    intro resource
    by_cases hrow : resource ∈ rows
    · exact .inl ⟨fence_write_of_mem hrow, hrow⟩
    · exact .inr (fence_write_of_notMem hrow)
  constructor
  · exact hidle.compatible
  · intro j
    change Fits _ (update c.session i .idle j)
    rw [update_apply]
    split
    · trivial
    · next hj => exact fits_commit h hj hfencing
  · exact hidle.distinct
  · intro resource operation hoperation
    rcases hcases resource with ⟨hnew, -⟩ | hold
    · refine mem_append_left _ (mem_toList.mpr ?_)
      exact (congrArg Fence.operationId hnew).symm.trans hoperation
    · exact mem_append_right _
        (h.known resource operation ((congrArg Fence.operationId hold).symm.trans hoperation))
  · intro operation hmem
    rcases mem_append.mp hmem with hnew | hold
    · obtain ⟨-, ⟨_, -, hid, hlt, -⟩ | ⟨_, rfl, -⟩⟩ := hvalue
      · rw [mem_toList, hid] at hnew
        cases hnew
        exact hlt
      · cases hnew
    · exact h.issued operation hold
  · intro resource
    change ((c.fences.write rows value).fence resource).operationId ≠ none ↔
      ((c.fences.write rows value).fence resource).state = .closed
    rcases hcases resource with ⟨hnew, -⟩ | hold
    · rw [hnew]
      obtain ⟨-, ⟨_, hstate, hid, -⟩ | ⟨_, rfl, -⟩⟩ := hvalue
      · simp [hstate, hid]
      · simp
    · rw [hold]
      exact h.identified resource
  · exact grouped_write h hcovers hvalue
  · intro id operation hoperation
    rcases hcases (.makerspace id) with ⟨-, hrow⟩ | hold
    · exact hcovers.1 id hrow
    · exact h.existing id operation ((congrArg Fence.operationId hold).symm.trans hoperation)

theorem Inv.next (h : Inv c) (hnext : Next c c') : Inv c' := by
  cases hnext with
  | @beginWriting _ hidle =>
    refine h.setKeeping (by rw [hidle]; rfl) ⟨?_, ?_⟩ rfl
    · intro hflag
      cases hflag
    · intro entry hentry
      cases hentry
  | @beginFencing _ _ hidle hknown =>
    exact h.setKeeping (by rw [hidle]; rfl) ⟨hknown, trivial⟩ rfl
  | @lock i lock hfree =>
    refine h.set (fun a ha => ?_) (fits_take (h.fits i) lock) fun operation hoperation j hj => ?_
    · rcases held_take ha with rfl | hold
      · exact .inr hfree
      · exact .inl hold
    · rw [pending_take] at hoperation
      exact h.distinct i j (Ne.symm hj) operation hoperation
  | @setOperation i _ _ _ _ _ hwriting =>
    have hfits := h.fits i
    rw [hwriting] at hfits
    refine h.setKeeping (by rw [hwriting]; rfl) ⟨fun hflag => ?_, hfits.2⟩ rfl
    cases hflag
  | @checkGlobal i _ _ _ _ hwriting hlocked hallowed =>
    have hfits := h.fits i
    rw [hwriting] at hfits
    exact h.setKeeping (by rw [hwriting]; rfl) ⟨fun _ => ⟨hlocked, hallowed⟩, hfits.2⟩ rfl
  | @passGlobal i _ _ _ hwriting =>
    have hfits := h.fits i
    rw [hwriting] at hfits
    obtain ⟨hlocked, hallowed⟩ := hfits.1 rfl
    refine h.setKeeping (by rw [hwriting]; rfl) ⟨fun hflag => ?_, fun entry hentry => ?_⟩ rfl
    · cases hflag
    · rcases mem_cons.mp hentry with rfl | hold
      · refine ⟨hlocked, hallowed, fun id hid => ?_⟩
        cases hid
      · exact hfits.2 entry hold
  | @passMakerspace i _ _ _ _ hwriting hlocked _ hallowed =>
    have hfits := h.fits i
    rw [hwriting] at hfits
    obtain ⟨hglobal, hglobalAllowed⟩ := hfits.1 rfl
    refine h.setKeeping (by rw [hwriting]; rfl) ⟨fun hflag => ?_, fun entry hentry => ?_⟩ rfl
    · cases hflag
    · rcases mem_cons.mp hentry with rfl | hold
      · refine ⟨hglobal, hglobalAllowed, fun other hother => ?_⟩
        cases hother
        exact ⟨hlocked, hallowed⟩
      · exact hfits.2 entry hold
  | commitWrites => exact h.setIdle _
  | @findGlobal i _ _ hfencing =>
    have hfits := h.fits i
    rw [hfencing] at hfits
    refine h.setKeeping (by rw [hfencing]; rfl) ⟨hfits.1, fun id hid => ?_⟩ rfl
    cases hid
  | @missGlobal i _ _ hfencing hmissed =>
    have hfits := h.fits i
    rw [hfencing] at hfits
    refine h.setKeeping (by rw [hfencing]; rfl) ⟨hfits.1, fun other htask => ?_⟩ rfl
    obtain rfl := Task.reopen.inj htask
    exact hmissed
  | @findMakerspace i _ _ _ hfencing hexists =>
    have hfits := h.fits i
    rw [hfencing] at hfits
    refine h.setKeeping (by rw [hfencing]; rfl) ⟨hfits.1, fun other hother => ?_⟩ rfl
    obtain rfl := Resource.makerspace.inj hother
    exact ⟨hexists, hfits.2⟩
  | @listClosing i _ _ allMakerspaces hfencing hlocked =>
    have hfits := h.fits i
    rw [hfencing] at hfits
    refine h.setKeeping (by rw [hfencing]; rfl) ⟨hfits.1, fun id hid => ?_, .inl
      ⟨hlocked, mem_cons_self, fun operation htask => ?_⟩⟩ rfl
    · cases allMakerspaces with
      | false => simp at hid
      | true => simpa using hid
    · cases htask
  | @listReopening i _ operation hfencing hlocked =>
    have hfits := h.fits i
    rw [hfencing] at hfits
    refine h.setKeeping (by rw [hfencing]; rfl) ⟨hfits.1, fun id hid => ?_, .inl
      ⟨hlocked, mem_cons_self, fun other htask id hid => ?_⟩⟩ rfl
    · simp at hid
      exact hid.1
    · obtain rfl := Task.reopen.inj htask
      refine mem_cons_of_mem _ (mem_map.mpr ⟨id, mem_filter.mpr ⟨?_, ?_⟩, rfl⟩)
      · exact h.existing id operation hid
      · simpa using hid
  | @pickClosing i _ id _ hfencing hlocked hexists =>
    have hfits := h.fits i
    rw [hfencing] at hfits
    refine h.setKeeping (by rw [hfencing]; rfl) ⟨hfits.1, fun other hother => ?_, .inr
      ⟨hlocked, ⟨id, rfl⟩, fun operation htask => ?_⟩⟩ rfl
    · obtain rfl := Resource.makerspace.inj (mem_singleton.mp hother)
      exact hexists
    · cases htask
  | @pickReopening i _ _ id hfencing hlocked =>
    have hfits := h.fits i
    rw [hfencing] at hfits
    obtain ⟨hexists, hother⟩ := hfits.2 id rfl
    refine h.setKeeping (by rw [hfencing]; rfl) ⟨hfits.1, fun k hk => ?_, .inr
      ⟨hlocked, ⟨id, rfl⟩, hother⟩⟩ rfl
    obtain rfl := Resource.makerspace.inj (mem_singleton.mp hk)
    exact hexists
  | @writeClosed i _ task _ _ hfencing hcloses hlocked hopen =>
    have hfits := h.fits i
    rw [hfencing] at hfits
    have htask : ∀ reopened, task ≠ .reopen reopened := by
      rintro _ rfl
      rcases hcloses with ⟨_, hcloses⟩ | ⟨_, hcloses⟩
      · cases hcloses
      · cases hcloses
    have hfresh : c.nextOperation ∉ c.returned := fun hmem =>
      Nat.lt_irrefl _ (h.issued _ hmem)
    refine h.tick.set (fun a ha => .inl ?_) ⟨hfits.1, hfits.2, hlocked, .inl
      ⟨c.nextOperation, rfl, rfl, Nat.lt_succ_self _, hfresh, htask, hopen⟩⟩
      fun operation hoperation j hj => ?_
    · change a ∈ (c.session i).held
      rw [hfencing]
      exact ha
    · cases hoperation
      intro hpending
      exact Nat.lt_irrefl _ (pending_fresh (h.fits j) hpending).1
  | @writeOpen i _ operation _ hfencing hlocked hclosed =>
    have hfits := h.fits i
    rw [hfencing] at hfits
    exact h.setKeeping (by rw [hfencing]; rfl)
      ⟨hfits.1, hfits.2, hlocked, .inr ⟨operation, rfl, rfl, hclosed⟩⟩ rfl
  | commitFences hfencing => exact h.commit hfencing
  | rollback i => exact h.setIdle i

theorem inv_of_path {makerspaceIds : List Nat} (hpath : Path (atRest makerspaceIds) c) : Inv c := by
  induction hpath with
  | refl => exact inv_atRest makerspaceIds
  | tail _ hnext ih => exact ih.next hnext

end Invariant

section Results

variable {ι : Type} [DecidableEq ι]

/-- The fences that a check of a mapped write has read. -/
def Checked (entry : Option Nat × Option Nat) (resource : Resource) : Prop :=
  resource = .global ∨ ∃ id, entry.2 = some id ∧ resource = .makerspace id

/-- Until its end a mapped write finds its fences open or closed by its own operation; a close
closes open fences, a reopen its own ones, with no checked write at work. -/
theorem mapped_writes_fenced
    {makerspaceIds : List Nat} {c : Shared ι} (hpath : Path (atRest makerspaceIds) c) :
    (∀ i held operation globalPassed passed,
      c.session i = .writing held operation globalPassed passed →
        ∀ entry ∈ passed, ∀ resource, Checked entry resource →
          (c.fences.fence resource).state = .closed →
            ∃ own, entry.1 = some own ∧ (c.fences.fence resource).operationId = some own) ∧
    ∀ i held task rows value, c.session i = .fencing held task (.written rows value) →
      ((∀ operation, task ≠ .reopen operation) →
        value.state = .closed ∧ ∀ resource ∈ rows, (c.fences.fence resource).state ≠ .closed) ∧
      (∀ operation, task = .reopen operation → value = {} ∧ ∀ resource, resource ∈ rows ↔
        (c.fences.fence resource).state = .closed ∧
          (c.fences.fence resource).operationId = some operation) ∧
      ∀ j held' operation globalPassed passed,
        c.session j = .writing held' operation globalPassed passed →
          ∀ entry ∈ passed, ∀ resource, Checked entry resource → resource ∉ rows := by
  have h := inv_of_path hpath
  -- a passed check holds the shared lock of each of its fences, which allow it
  have hchecked : ∀ i held operation globalPassed passed,
      c.session i = .writing held operation globalPassed passed →
        ∀ entry ∈ passed, ∀ resource, Checked entry resource →
          ⟨resource, false⟩ ∈ held ∧ (c.fences.fence resource).Allows entry.1 := by
    intro i held operation globalPassed passed hsession entry hentry resource hresource
    have hfits := h.fits i
    rw [hsession] at hfits
    obtain ⟨hglobal, hallows, hmakerspace⟩ := hfits.2 entry hentry
    rcases hresource with rfl | ⟨id, hid, rfl⟩
    · exact ⟨hglobal, hallows⟩
    · exact hmakerspace id hid
  constructor
  · intro i held operation globalPassed passed hsession entry hentry resource hresource hclosed
    have hallows := (hchecked i held operation globalPassed passed hsession entry hentry resource
      hresource).2
    have hown : entry.1 = (c.fences.fence resource).operationId := by
      by_contra hother
      exact hallows ⟨hclosed, .inl hother⟩
    obtain ⟨own, hoperation⟩ := ne_none_iff_exists'.mp ((h.identified resource).mpr hclosed)
    exact ⟨own, hown.trans hoperation, hoperation⟩
  · intro i held task rows value hsession
    have hfits := h.fits i
    rw [hsession] at hfits
    obtain ⟨-, hcovers, hlocked, hvalue⟩ := hfits
    refine ⟨fun htask => ?_, fun operation htask => ?_, ?_⟩
    · rcases hvalue with ⟨_, hstate, -, -, -, -, hopen⟩ | ⟨operation, -, hreopen, -⟩
      · exact ⟨hstate, hopen⟩
      · exact absurd hreopen (htask operation)
    · rcases hvalue with ⟨_, -, -, -, -, hclose, -⟩ | ⟨reopened, hempty, hreopen, hclosed⟩
      · exact absurd htask (hclose operation)
      · obtain rfl : reopened = operation := Task.reopen.inj (hreopen.symm.trans htask)
        refine ⟨hempty, fun resource => ⟨hclosed resource, fun ⟨_, hid⟩ => ?_⟩⟩
        rcases hcovers.2 with ⟨-, hglobal, hall⟩ | ⟨-, ⟨id, rfl⟩, hmissed⟩
        · cases resource with
          | global => exact hglobal
          | makerspace id => exact hall reopened htask id hid
        · cases resource with
          | global => exact absurd hid (hmissed reopened htask)
          | makerspace other =>
            by_contra hout
            have hne : id ≠ other := fun hsame => hout (by rw [hsame]; exact mem_cons_self)
            exact hmissed reopened htask
              (h.grouped reopened id other hne (hclosed _ mem_cons_self).2 hid)
    · intro j held' operation globalPassed passed hwriting entry hentry resource hresource hrow
      have hne : i ≠ j := by
        rintro rfl
        rw [hsession] at hwriting
        cases hwriting
      have hexclusive : ⟨resource, true⟩ ∈ (c.session i).held := by
        rw [hsession]
        exact lock_of_row hcovers hlocked hrow
      have hshared : ⟨resource, false⟩ ∈ (c.session j).held := by
        rw [hwriting]
        exact (hchecked j held' operation globalPassed passed hwriting entry hentry resource
          hresource).1
      exact h.compatible i j hne _ hexclusive _ hshared ⟨rfl, .inl rfl⟩

theorem free_of_idle {c : Shared Bool} {i : Bool} (h : c.session (!i) = .idle) (lock : Lock) :
    ∀ j, j ≠ i → ∀ other ∈ (c.session j).held, ¬ lock.Conflicts other := by
  intro j hj other hother
  rw [Bool.eq_not_of_ne hj, h] at hother
  cases hother

/-- A session closes a fence for a rollback, another writes under it. -/
theorem path_rollback : ∃ c : Shared Bool, Path (atRest [1]) c ∧
    (∃ held, c.session false = .writing held (some 0) false [(some 0, some 1)]) ∧
      (c.fences.fence (.makerspace 1)).state = .closed := by
  have hbegin : Path (atRest [1] : Shared Bool) _ := .single
    (Next.beginFencing (i := true) (.closeMakerspace 1 .decryptRollback) rfl (by simp))
  have hglobal := hbegin.tail (Next.lock (i := true) ⟨.global, false⟩ (free_of_idle (by rfl) _))
  have hown := hglobal.tail (Next.lock (i := true) ⟨.makerspace 1, true⟩ (free_of_idle (by rfl) _))
  have hpick := hown.tail (Next.pickClosing (i := true)
    (by rfl : _ = Session.fencing [⟨.makerspace 1, true⟩, ⟨.global, false⟩]
      (.closeMakerspace 1 .decryptRollback) .started) (by simp) (mem_singleton_self 1))
  have hwrite := hpick.tail (Next.writeClosed (i := true) .decryptRollback
    (by rfl : _ = Session.fencing [⟨.makerspace 1, true⟩, ⟨.global, false⟩]
      (.closeMakerspace 1 .decryptRollback) (.listed [.makerspace 1])) (.inr ⟨1, rfl⟩)
    (by simp) (by intro resource _ h; cases h))
  have hclosed := hwrite.tail (Next.commitFences (i := true) (by rfl))
  have hstart := hclosed.tail (Next.beginWriting (i := false) (by rfl))
  have hoperation := hstart.tail (Next.setOperation (i := false) (some 0) (by rfl))
  have hshared := hoperation.tail
    (Next.lock (i := false) ⟨.global, false⟩ (free_of_idle (by rfl) _))
  have htenant := hshared.tail
    (Next.lock (i := false) ⟨.makerspace 1, false⟩ (free_of_idle (by rfl) _))
  have hcheck := htenant.tail (Next.checkGlobal (i := false)
    (by rfl : _ = Session.writing [⟨.makerspace 1, false⟩, ⟨.global, false⟩] (some 0) false [])
    (by simp) (by rintro ⟨h, -⟩; cases h))
  have hpass := hcheck.tail (Next.passMakerspace (i := false) 1
    (by rfl : _ = Session.writing [⟨.makerspace 1, false⟩, ⟨.global, false⟩] (some 0) true [])
    (by simp) (mem_singleton_self 1) ?_)
  · exact ⟨_, hpass, ⟨_, rfl⟩, rfl⟩
  · rintro ⟨-, hother | ⟨_, hkind, hout⟩⟩
    · exact hother rfl
    · cases hkind
      exact hout (by simp [writingKinds])

/-- That write runs under the operation of the closed fence. -/
theorem rollback_write_fenced : ∃ c : Shared Bool, ∃ own,
    (c.fences.fence (.makerspace 1)).state = .closed ∧
      (c.fences.fence (.makerspace 1)).operationId = some own ∧ own = 0 := by
  obtain ⟨c, hpath, ⟨held, hwriting⟩, hclosed⟩ := path_rollback
  obtain ⟨own, hown, hoperation⟩ := (mapped_writes_fenced hpath).1 false held _ _ _ hwriting
    (some 0, some 1) mem_cons_self (.makerspace 1) (.inr ⟨1, rfl, rfl⟩) hclosed
  exact ⟨c, own, hclosed, hoperation, (some.inj hown).symm⟩

end Results

end Encryption
end SpaceWorks
