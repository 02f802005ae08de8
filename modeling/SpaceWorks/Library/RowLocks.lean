import Mathlib.Logic.Relation
import SpaceWorks.Library.Runs
import SpaceWorks.Library.Checked

/-!
# Transactions under row locks

A session takes locks one by one, decides under them what to write, and commits or gives up; between
these events the others go on.
-/

namespace RowLocks

universe u v w y z

open Checked TransactionalSystem Function List

/-- Requests `α`, states `σ`, locks `κ`, writes `ω`, refusals `ε`. -/
structure LockSystem (σ : Type u) (α : Type v) (κ : Type w) (ω : Type u) (ε : Type y) where
  /-- The locks that a request holds while it decides. -/
  needs : σ → α → List κ
  decide : σ → α → Except ε ω
  /-- The write, which a constraint may still refuse. -/
  write : σ → ω → Except ε σ

inductive Session (α : Type v) (κ : Type w) (ω : Type u)
  | idle
  | locking (a : α) (held : List κ)
  | decided (a : α) (held : List κ) (write : ω)

def Session.held {α : Type v} {κ : Type w} {ω : Type u} : Session α κ ω → List κ
  | .idle => []
  | .locking _ held => held
  | .decided _ held _ => held

structure Shared (σ : Type u) (ι : Type z) (α : Type v) (κ : Type w) (ω : Type u) where
  state : σ
  session : ι → Session α κ ω

section Interleaving

variable {σ : Type u} {ι : Type z} {α : Type v} {κ : Type w} {ω : Type u} {ε : Type y}
def Shared.set [DecidableEq ι] (c : Shared σ ι α κ ω) (i : ι) (session : Session α κ ω) :
    Shared σ ι α κ ω :=
  { c with session := update c.session i session }

inductive Next [DecidableEq ι] (L : LockSystem σ α κ ω ε) : Shared σ ι α κ ω → Shared σ ι α κ ω → Prop
  | start {c : Shared σ ι α κ ω} {i : ι} (a : α)
      (hidle : c.session i = .idle) :
      Next L c (c.set i (.locking a []))
  | lock {c : Shared σ ι α κ ω} {i : ι} {a : α} {held : List κ} (k : κ)
      (hlocking : c.session i = .locking a held)
      (hfree : ∀ j, j ≠ i → k ∉ (c.session j).held) :
      Next L c (c.set i (.locking a (k :: held)))
  | decide {c : Shared σ ι α κ ω} {i : ι} {a : α} {held : List κ} {w : ω}
      (hlocking : c.session i = .locking a held)
      (hheld : ∀ k ∈ L.needs c.state a, k ∈ held)
      (hdecide : L.decide c.state a = .ok w) :
      Next L c (c.set i (.decided a held w))
  | commit {c : Shared σ ι α κ ω} {i : ι} {a : α} {held : List κ} {w : ω} {s' : σ}
      (hdecided : c.session i = .decided a held w)
      (hwrite : L.write c.state w = .ok s') :
      Next L c ({ c with state := s' }.set i .idle)
  | rollback {c : Shared σ ι α κ ω} (i : ι) : Next L c (c.set i .idle)

/-- Any interleaving of the events of the sessions. -/
def Path [DecidableEq ι] (L : LockSystem σ α κ ω ε) : Shared σ ι α κ ω → Shared σ ι α κ ω → Prop :=
  Relation.ReflTransGen (Next L)

def atRest (s : σ) : Shared σ ι α κ ω :=
  ⟨s, fun _ => .idle⟩

namespace LockSystem

variable (L : LockSystem σ α κ ω ε)

/-- A request on its own: decide and write. -/
def serial (s : σ) (a : α) : Except ε σ := do
  L.write s (← L.decide s a)

/-- A decision survives the write of a request that needs other locks. -/
def Independent (I : σ → Prop) : Prop :=
  ∀ ⦃s s' : σ⦄ ⦃a b : α⦄ ⦃v w : ω⦄, I s → (∀ k ∈ L.needs s a, k ∉ L.needs s b) →
    L.decide s a = .ok v → L.decide s b = .ok w → L.write s w = .ok s' →
    L.decide s' a = .ok v ∧ L.needs s' a = L.needs s a

end LockSystem

variable {L : LockSystem σ α κ ω ε}

theorem serial_ok {s s' : σ} {a : α} :
    L.serial s a = .ok s' ↔ ∃ w, L.decide s a = .ok w ∧ L.write s w = .ok s' := by
  simp [LockSystem.serial]

/-- Locks exclude each other, and decisions still stand. -/
structure Isolated (L : LockSystem σ α κ ω ε) (c : Shared σ ι α κ ω) : Prop where
  exclusive : ∀ i j, i ≠ j → ∀ k ∈ (c.session i).held, k ∉ (c.session j).held
  stands : ∀ i a held w, c.session i = .decided a held w →
    L.decide c.state a = .ok w ∧ ∀ k ∈ L.needs c.state a, k ∈ held

theorem isolated_atRest (s : σ) : Isolated L (atRest s : Shared σ ι α κ ω) where
  exclusive := by simp [atRest, Session.held]
  stands := by simp [atRest]

variable [DecidableEq ι]

theorem exclusive_set {c : Shared σ ι α κ ω} {i : ι} {session : Session α κ ω}
    (h : ∀ i j, i ≠ j → ∀ k ∈ (c.session i).held, k ∉ (c.session j).held)
    (hheld : ∀ k ∈ session.held, k ∈ (c.session i).held ∨
      ∀ j, j ≠ i → k ∉ (c.session j).held) :
    ∀ a b, a ≠ b → ∀ k ∈ ((c.set i session).session a).held,
      k ∉ ((c.set i session).session b).held := by
  intro a b hab k hk hk'
  simp only [Shared.set, update_apply] at hk hk'
  by_cases ha : a = i
  · subst ha
    rw [if_pos rfl] at hk
    rw [if_neg (Ne.symm hab)] at hk'
    rcases hheld k hk with hold | hfree
    · exact h a b hab k hold hk'
    · exact hfree b (Ne.symm hab) hk'
  · rw [if_neg ha] at hk
    by_cases hb : b = i
    · subst hb
      rw [if_pos rfl] at hk'
      rcases hheld k hk' with hold | hfree
      · exact h a b hab k hk hold
      · exact hfree a ha hk
    · rw [if_neg hb] at hk'
      exact h a b hab k hk hk'

theorem stands_set {c : Shared σ ι α κ ω} {i : ι} {session : Session α κ ω} (h : Isolated L c)
    (hsession : ∀ a held w, session ≠ .decided a held w) :
    ∀ j a held w, (c.set i session).session j = .decided a held w →
      L.decide c.state a = .ok w ∧ ∀ k ∈ L.needs c.state a, k ∈ held := by
  intro j a held w hj
  simp only [Shared.set, update_apply] at hj
  by_cases hji : j = i
  · rw [if_pos hji] at hj
    exact absurd hj (hsession a held w)
  · rw [if_neg hji] at hj
    exact h.stands j a held w hj

theorem isolated_next {I : σ → Prop} (hindependent : L.Independent I) {c c' : Shared σ ι α κ ω}
    (hI : I c.state) (h : Isolated L c) (hnext : Next L c c') :
    Isolated L c' ∧ (c'.state = c.state ∨ ∃ a, L.serial c.state a = .ok c'.state) := by
  cases hnext with
  | start | rollback =>
    refine ⟨⟨exclusive_set h.exclusive (by simp [Session.held]), ?_⟩, .inl rfl⟩
    exact stands_set h (by simp)
  | @lock _ _ _ _ hlocking hfree =>
    refine ⟨⟨exclusive_set h.exclusive ?_, stands_set h (by simp)⟩, .inl rfl⟩
    intro k' hk'
    rcases mem_cons.mp hk' with rfl | hold
    · exact .inr hfree
    · exact .inl (by rw [hlocking]; exact hold)
  | @decide i _ _ _ hlocking hheld hdecide =>
    refine ⟨⟨exclusive_set h.exclusive ?_, ?_⟩, .inl rfl⟩
    · intro k hk
      exact .inl (by rw [hlocking]; exact hk)
    · intro j b held' w' hj
      simp only [Shared.set, update_apply] at hj
      by_cases hji : j = i
      · rw [if_pos hji] at hj
        cases hj
        exact ⟨hdecide, hheld⟩
      · rw [if_neg hji] at hj
        exact h.stands j b held' w' hj
  | @commit i a held w s' hdecided hwrite =>
    obtain ⟨hdecide, hneeds⟩ := h.stands i a held w hdecided
    refine ⟨⟨exclusive_set (c := { c with state := s' }) h.exclusive (by simp [Session.held]), ?_⟩,
      .inr ⟨a, serial_ok.mpr ⟨w, hdecide, hwrite⟩⟩⟩
    intro j b held' w' hj
    simp only [Shared.set, update_apply] at hj
    by_cases hji : j = i
    · rw [if_pos hji] at hj
      cases hj
    · rw [if_neg hji] at hj
      -- the other session holds other locks, so its decision survives
      obtain ⟨hdecide', hneeds'⟩ := h.stands j b held' w' hj
      have hdisjoint : ∀ k ∈ L.needs c.state b, k ∉ L.needs c.state a := by
        intro k hk hk'
        have hheld : k ∈ (c.session j).held := by rw [hj]; exact hneeds' k hk
        refine h.exclusive j i hji k hheld ?_
        rw [hdecided]
        exact hneeds k hk'
      obtain ⟨hstill, hsame⟩ := hindependent hI hdisjoint hdecide' hdecide hwrite
      refine ⟨hstill, ?_⟩
      change ∀ k ∈ L.needs s' b, k ∈ held'
      rw [hsame]
      exact hneeds'

/-- **Serializability.** Interleavings from rest end as serial runs do. -/
theorem serializable
    {I : σ → Prop} (hindependent : L.Independent I) (hpreserved : Preserves L.serial I)
    {s₀ : σ} (h₀ : I s₀) {c : Shared σ ι α κ ω} (hpath : Path L (atRest s₀) c) :
    (∃ as, Commits L.serial s₀ as c.state) ∧ I c.state ∧ Isolated L c := by
  induction hpath with
  | refl => exact ⟨⟨[], .nil s₀⟩, h₀, isolated_atRest s₀⟩
  | @tail _ _ _ hnext ih =>
    obtain ⟨⟨as, hrun⟩, hI, hisolated⟩ := ih
    obtain ⟨hisolated', hstep⟩ := isolated_next hindependent hI hisolated hnext
    rcases hstep with hsame | ⟨a, hserial⟩
    · rw [hsame]
      exact ⟨⟨as, hrun⟩, hI, hisolated'⟩
    · exact ⟨⟨as ++ [a], hrun.snoc hserial⟩, hpreserved hI hserial, hisolated'⟩

/-- What serial requests preserve holds in every interleaving. -/
theorem invariant_of_path
    {I : σ → Prop} (hindependent : L.Independent I) (hpreserved : Preserves L.serial I)
    {s₀ : σ} (h₀ : I s₀) {c : Shared σ ι α κ ω} (hpath : Path L (atRest s₀) c) :
    I c.state :=
  (serializable hindependent hpreserved h₀ hpath).2.1

/-! A serial run is one of the interleavings. -/

@[simp] theorem Shared.session_set (c : Shared σ ι α κ ω) (i : ι) (session : Session α κ ω) :
    (c.set i session).session i = session := by
  simp [Shared.set]

@[simp] theorem Shared.set_set (c : Shared σ ι α κ ω) (i : ι) (old new : Session α κ ω) :
    (c.set i old).set i new = c.set i new := by
  simp [Shared.set]

theorem Shared.held_atRest_set {s : σ} {i j : ι} (session : Session α κ ω) (hj : j ≠ i) :
    (((atRest s : Shared σ ι α κ ω).set i session).session j).held = [] := by
  simp [Shared.set, update_of_ne hj, atRest, Session.held]

theorem Shared.atRest_set
    (s : σ) (i : ι) : (atRest s : Shared σ ι α κ ω).set i .idle = atRest s := by
  simp [Shared.set, atRest]

theorem path_locks {s : σ} {i : ι} {a : α} (ks held : List κ) :
    Path L ((atRest s).set i (.locking a held))
      ((atRest s).set i (.locking a (ks.reverse ++ held))) := by
  induction ks generalizing held with
  | nil => exact .refl
  | cons k _ ih =>
    have hnext : Next L ((atRest s).set i (.locking a held))
        (((atRest s).set i (.locking a held)).set i (.locking a (k :: held))) := by
      refine Next.lock k (Shared.session_set _ i _) fun j hj => ?_
      rw [Shared.held_atRest_set _ hj]
      exact not_mem_nil
    rw [Shared.set_set] at hnext
    rw [reverse_cons, append_assoc]
    exact .head hnext (ih (k :: held))

theorem path_of_decide (i : ι) {s : σ} {a : α} {w : ω} (h : L.decide s a = .ok w) :
    Path L (atRest s) ((atRest s).set i (.decided a (L.needs s a).reverse w)) := by
  have hstart : Path L (atRest s) ((atRest s).set i (.locking a [])) := .single (Next.start a rfl)
  have hlocks := path_locks (L := L) (s := s) (i := i) (a := a) (L.needs s a) []
  rw [append_nil] at hlocks
  have hdecided : Next L ((atRest s).set i (.locking a (L.needs s a).reverse)) _ :=
    Next.decide (Shared.session_set _ i _) (fun k hk => mem_reverse.mpr hk) h
  rw [Shared.set_set] at hdecided
  exact (hstart.trans hlocks).tail hdecided

theorem path_of_serial (i : ι) {s s' : σ} {a : α} (h : L.serial s a = .ok s') :
    Path L (atRest s : Shared σ ι α κ ω) (atRest s') := by
  obtain ⟨w, hdecide, hwrite⟩ := serial_ok.mp h
  have hcommit : Next L ((atRest s).set i (.decided a (L.needs s a).reverse w)) _ :=
    Next.commit (Shared.session_set _ i _) hwrite
  have hrest : Shared.set { (atRest s).set i (.decided a (L.needs s a).reverse w) with
      state := s' } i .idle = (atRest s' : Shared σ ι α κ ω) := by
    have hset : ({ (atRest s).set i (.decided a (L.needs s a).reverse w) with
        state := s' } : Shared σ ι α κ ω) =
        (atRest s').set i (.decided a (L.needs s a).reverse w) := rfl
    rw [hset, Shared.set_set, Shared.atRest_set]
  rw [hrest] at hcommit
  exact (path_of_decide i hdecide).tail hcommit

end Interleaving

end RowLocks
