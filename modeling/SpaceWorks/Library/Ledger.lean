import Mathlib.Algebra.BigOperators.Group.List.Basic
import Mathlib.Algebra.Ring.Nat
import Mathlib.Data.List.Nodup
/-!
# Ledgers of debits and refunds

Debits of purses and their refunds, each entry for an account.  `Sound`: an account is debited and
refunded at most once, and what it was debited; `outstanding` is what a purse is still owed.
-/

namespace Ledgers

open List

universe u

variable {κ : Type u}

structure Entry (κ : Type u) where
  account : κ
  purse : Nat
  amount : Nat
  deriving DecidableEq

structure Ledger (κ : Type u) where
  debits : List (Entry κ) := []
  refunds : List (Entry κ) := []

namespace Ledger

def debit (l : Ledger κ) (e : Entry κ) : Ledger κ :=
  { l with debits := e :: l.debits }

def refund (l : Ledger κ) (e : Entry κ) : Ledger κ :=
  { l with refunds := e :: l.refunds }

@[simp] theorem debit_debits (l : Ledger κ) (e : Entry κ) :
    (l.debit e).debits = e :: l.debits := rfl

@[simp] theorem debit_refunds (l : Ledger κ) (e : Entry κ) : (l.debit e).refunds = l.refunds := rfl

@[simp] theorem refund_debits (l : Ledger κ) (e : Entry κ) : (l.refund e).debits = l.debits := rfl

@[simp] theorem refund_refunds (l : Ledger κ) (e : Entry κ) :
    (l.refund e).refunds = e :: l.refunds := rfl

def Debited (l : Ledger κ) (account : κ) : Prop :=
  ∃ e ∈ l.debits, e.account = account

def Refunded (l : Ledger κ) (account : κ) : Prop :=
  ∃ e ∈ l.refunds, e.account = account

structure Sound (l : Ledger κ) : Prop where
  debitedOnce : (l.debits.map Entry.account).Nodup
  refundedOnce : (l.refunds.map Entry.account).Nodup
  debited : ∀ e ∈ l.refunds, e ∈ l.debits

theorem sound_empty : Sound ({} : Ledger κ) := by
  constructor <;> simp

theorem Sound.debit {l : Ledger κ} (sound : l.Sound) {e : Entry κ}
    (h : ¬ l.Debited e.account) : (l.debit e).Sound where
  debitedOnce := by
    refine nodup_cons.mpr ⟨?_, sound.debitedOnce⟩
    intro hmem
    obtain ⟨other, hother, heq⟩ := mem_map.mp hmem
    exact h ⟨other, hother, heq⟩
  refundedOnce := sound.refundedOnce
  debited := fun other hother => mem_cons_of_mem e (sound.debited other hother)

theorem Sound.refund {l : Ledger κ} (sound : l.Sound) {e : Entry κ}
    (hdebited : e ∈ l.debits) (h : ¬ l.Refunded e.account) : (l.refund e).Sound where
  debitedOnce := sound.debitedOnce
  refundedOnce := by
    refine nodup_cons.mpr ⟨?_, sound.refundedOnce⟩
    intro hmem
    obtain ⟨other, hother, heq⟩ := mem_map.mp hmem
    exact h ⟨other, hother, heq⟩
  debited := by
    intro other hother
    rcases mem_cons.mp hother with rfl | hold
    · exact hdebited
    · exact sound.debited other hold

variable [DecidableEq κ]

def owed (l : Ledger κ) (purse : Nat) : List (Entry κ) :=
  l.debits.filter fun e => e.purse = purse && !decide (e ∈ l.refunds)

def outstanding (l : Ledger κ) (purse : Nat) : Nat :=
  ((l.owed purse).map Entry.amount).sum

@[simp] theorem outstanding_empty (purse : Nat) : ({} : Ledger κ).outstanding purse = 0 := rfl

theorem outstanding_debit {l : Ledger κ} (sound : l.Sound) {e : Entry κ}
    (h : ¬ l.Debited e.account) (purse : Nat) :
    (l.debit e).outstanding purse =
      l.outstanding purse + if e.purse = purse then e.amount else 0 := by
  have hfresh : e ∉ l.refunds := fun hmem => h ⟨e, sound.debited e hmem, rfl⟩
  have howed : (l.debit e).owed purse =
      (e :: l.debits).filter fun e => e.purse = purse && !decide (e ∈ l.refunds) := rfl
  rw [outstanding, howed, filter_cons]
  by_cases hpurse : e.purse = purse
  · rw [if_pos (by simp [hpurse, hfresh]), if_pos hpurse]
    exact Nat.add_comm _ _
  · rw [if_neg (by simp [hpurse]), if_neg hpurse]
    exact (Nat.add_zero _).symm

theorem owed_refund {l : Ledger κ} (sound : l.Sound) {e : Entry κ} (purse : Nat) :
    (l.refund e).owed purse = (l.owed purse).erase e := by
  have hnodup : (l.owed purse).Nodup := (List.Nodup.of_map _ sound.debitedOnce).filter _
  rw [hnodup.erase_eq_filter, owed, owed, filter_filter]
  refine filter_congr fun other _ => ?_
  by_cases heq : other = e <;> simp [heq]

theorem outstanding_refund {l : Ledger κ} (sound : l.Sound) {e : Entry κ}
    (hdebited : e ∈ l.debits) (h : ¬ l.Refunded e.account) (purse : Nat) :
    l.outstanding purse =
      (l.refund e).outstanding purse + if e.purse = purse then e.amount else 0 := by
  have hfresh : e ∉ l.refunds := fun hmem => h ⟨e, hmem, rfl⟩
  rw [outstanding, outstanding, owed_refund sound]
  by_cases hpurse : e.purse = purse
  · have hmem : e ∈ l.owed purse := by simp [owed, hdebited, hfresh, hpurse]
    rw [if_pos hpurse, Nat.add_comm]
    exact (sum_map_erase Entry.amount hmem).symm
  · have hnotMem : e ∉ l.owed purse := by simp [owed, hpurse]
    rw [if_neg hpurse, erase_of_not_mem hnotMem, Nat.add_zero]

end Ledger

end Ledgers
