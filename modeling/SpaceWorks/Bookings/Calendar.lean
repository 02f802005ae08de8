import Mathlib.Data.Int.ConditionallyCompleteOrder
import Mathlib.Order.CompletePartialOrder
import Mathlib.Order.ConditionallyCompleteLattice.Basic
import Mathlib.Order.Interval.Set.Disjoint
import SpaceWorks.Bookings.Model

/-!
# The calendar of a space

A booking occupies a half-open interval, and no two confirmed bookings of a space meet.
-/

namespace SpaceWorks
namespace Bookings

open Checked TransactionalSystem Table

/-- The half-open interval a booking occupies. -/
def slot (booking : Booking) : Set Int :=
  Set.Ico booking.startsAt booking.endsAt

def calendar (s : State) (spaceId : Nat) : Set Booking :=
  {booking | booking ∈ s.bookings ∧ booking.spaceId = spaceId ∧ booking.status = .confirmed}

def NoDoubleBooking (s : State) : Prop :=
  ∀ spaceId, Set.PairwiseDisjoint (calendar s spaceId) slot

def Allowed : Status → Status → Prop
  | .pending, .confirmed => True
  | .pending, .rejected => True
  | .pending, .cancelled => True
  | .confirmed, .cancelled => True
  | .confirmed, .completed => True
  | .confirmed, .noShow => True
  | _, _ => False

/-- The statuses that say how a booking ended. -/
def Status.IsOutcome (status : Status) : Prop :=
  status = .completed ∨ status = .noShow

def Op.clock : Op → Option Int
  | .create _ now => some now
  | .approve _ _ now => some now
  | .cancel _ _ now => some now
  | .complete _ _ now => some now
  | .noShow _ _ now => some now
  | .reject _ _ => none
  | .updateRules _ _ => none
  | .deactivate _ => none

structure Moves (op : Op) (before after : Booking) : Prop where
  same_row : after.id = before.id ∧ after.spaceId = before.spaceId
  same_slot : slot after = slot before
  status_move : after.status = before.status ∨ Allowed before.status after.status
  outcome_after_end : after.status ≠ before.status → after.status.IsOutcome →
    ∃ now, op.clock = some now ∧ before.endsAt ≤ now

theorem Moves.refl (op : Op) (booking : Booking) : Moves op booking booking where
  same_row := ⟨rfl, rfl⟩
  same_slot := rfl
  status_move := .inl rfl
  outcome_after_end := fun h => absurd rfl h

theorem slot_disjoint_of_not_clash {a b : Booking}
    (h : ¬ (a.startsAt < b.endsAt ∧ a.endsAt > b.startsAt)) :
    Disjoint (slot a) (slot b) := by
  refine Set.disjoint_left.mpr ?_
  rintro _ ⟨_, _⟩ ⟨_, _⟩
  exact h ⟨by omega, by omega⟩

theorem slot_disjoint_of_not_confirmedOverlap
    {s : State} {asked other : Booking} {exclude : Option Nat}
    (h : ¬ confirmedOverlap s asked.spaceId asked.startsAt asked.endsAt exclude)
    (hother : other ∈ calendar s asked.spaceId) (hne : exclude ≠ some other.id) :
    Disjoint (slot other) (slot asked) := by
  obtain ⟨hmem, hspace, hstatus⟩ := hother
  refine slot_disjoint_of_not_clash fun hmeet => h ?_
  refine List.any_eq_true.mpr ⟨other, hmem, ?_⟩
  simp [clashes, hspace, hstatus, hmeet.1, hmeet.2, hne]

section

inductive Effect (s : State) (op : Op) : State → Prop
  | kept {s' : State} (hbookings : s'.bookings = s.bookings) : Effect s op s'
  | created {booking : Booking} (hnew : s.bookings.get? (key booking) = none)
      (hstatus : booking.status = .pending ∨ booking.status = .confirmed)
      (hslot : booking.startsAt < booking.endsAt)
      (hfree : booking.status = .confirmed →
        ¬ confirmedOverlap s booking.spaceId booking.startsAt booking.endsAt none) :
      Effect s op { s with bookings := s.bookings.insert booking hnew }
  | moved {booking : Booking} {status : Status} (hmem : booking ∈ s.bookings)
      (hallowed : Allowed booking.status status)
      (hfree : status = .confirmed →
        ¬ confirmedOverlap s booking.spaceId booking.startsAt booking.endsAt (some booking.id))
      (hended : status.IsOutcome →
        ∃ now, op.clock = some now ∧ booking.endsAt ≤ now) :
      Effect s op { s with bookings := s.bookings.put { booking with status := status } }

variable {s s' : State} {bookingId spaceId : Nat} {now : Int} {op : Op}

theorem lockedBooking_spec {found : BookableSpace × Booking}
    (h : lockedBooking s bookingId spaceId = .ok found) :
    found.2 ∈ s.bookings ∧ found.2.spaceId = found.1.id := by
  simp only [lockedBooking, lockedSpace, bind_ok, orRefuse_ok, require_ok, pure_ok] at h
  obtain ⟨_, _, _, hlocked, -, hsame, rfl⟩ := h
  exact ⟨mem_of_get? hlocked, hsame⟩

theorem createBooking_effect {request : BookingRequest} (h : createBooking s request now = .ok s') :
    Effect s (.create request now) s' := by
  simp only [createBooking, bind_ok, require_ok, pure_ok, insertNew_ok] at h
  obtain ⟨space, -, -, -, -, hends, -, -, -, -, -, -, -, hfree, _, ⟨hnew, rfl⟩, rfl⟩ := h
  refine .created hnew ?_ (by simpa using hends) ?_
  · by_cases hmode : space.approvalMode = .instant <;> simp [hmode]
  · intro hstatus hoverlap
    exact hfree ⟨hstatus, hoverlap⟩

theorem approveBooking_effect (h : approveBooking s bookingId spaceId now = .ok s') :
    Effect s (.approve bookingId spaceId now) s' := by
  simp only [approveBooking, bind_ok, require_ok, pure_ok] at h
  obtain ⟨⟨_, _⟩, hlocked, -, hpending, -, -, -, -, -, hfree, rfl⟩ := h
  obtain ⟨hmem, hspace⟩ := lockedBooking_spec hlocked
  dsimp only at hpending hfree hmem hspace
  refine .moved hmem (by simp [hpending, Allowed]) ?_ (by simp [Status.IsOutcome])
  intro _ hoverlap
  rw [hspace] at hoverlap
  exact hfree hoverlap

theorem rejectBooking_effect (h : rejectBooking s bookingId spaceId = .ok s') :
    Effect s (.reject bookingId spaceId) s' := by
  simp only [rejectBooking, bind_ok, require_ok, pure_ok] at h
  obtain ⟨⟨_, _⟩, hlocked, -, hpending, rfl⟩ := h
  dsimp only at hpending
  exact .moved (lockedBooking_spec hlocked).1 (by simp [hpending, Allowed]) (by simp)
    (by simp [Status.IsOutcome])

theorem transition_effect {status : Status} {requireEnded : Bool}
    (hallowed : Allowed .confirmed status)
    (hended : status.IsOutcome → requireEnded = true ∧ op.clock = some now)
    (h : transition s bookingId spaceId status requireEnded now = .ok s') :
    Effect s op s' := by
  simp only [transition, bind_ok, require_ok, pure_ok] at h
  obtain ⟨⟨_, _⟩, hlocked, -, hconfirmed, -, hpast, rfl⟩ := h
  have hstatus : status ≠ .confirmed := by
    rintro rfl
    exact hallowed
  refine .moved (lockedBooking_spec hlocked).1 (hconfirmed ▸ hallowed)
    (fun hc => absurd hc hstatus) ?_
  intro houtcome
  obtain ⟨hrequire, hclock⟩ := hended houtcome
  exact ⟨now, hclock, by simpa [hrequire] using hpast⟩

/-- The inversion lemma of the booking services. -/
theorem step_effect (h : step s op = .ok s') :
    Effect s op s' := by
  cases op with
  | create => exact createBooking_effect h
  | approve => exact approveBooking_effect h
  | reject => exact rejectBooking_effect h
  | cancel =>
    exact transition_effect (by simp [Allowed]) (by simp [Status.IsOutcome]) h
  | complete | noShow =>
    exact transition_effect (by simp [Allowed]) (fun _ => ⟨rfl, rfl⟩) h
  | updateRules =>
    simp [step, updateBookingRules] at h
    obtain ⟨-, -, -, -, -, -, rfl⟩ := h
    exact .kept rfl
  | deactivate =>
    simp [step, deactivateSpace] at h
    obtain ⟨-, -, -, -, rfl⟩ := h
    exact .kept rfl

theorem noDoubleBooking_of_effect (h : Effect s op s') (hs : NoDoubleBooking s) :
    NoDoubleBooking s' := by
  intro spaceId
  cases h with
  | kept hbookings =>
    have hsame : calendar s' spaceId = calendar s spaceId := by
      simp [calendar, hbookings]
    exact hsame ▸ hs spaceId
  | @created booking hnew _ _ hfree =>
    by_cases hin : booking.spaceId = spaceId ∧ booking.status = .confirmed
    · have hsub : calendar { s with bookings := s.bookings.insert booking hnew } spaceId ⊆
          insert booking (calendar s spaceId) := by
        rintro _ ⟨hx, hrest⟩
        rcases (mem_insert hnew).mp hx with hold | rfl
        · exact .inr ⟨hold, hrest⟩
        · exact .inl rfl
      refine Set.PairwiseDisjoint.subset ((hs spaceId).insert ?_) hsub
      intro other hother _
      have hcal : other ∈ calendar s booking.spaceId := hin.1.symm ▸ hother
      exact (slot_disjoint_of_not_confirmedOverlap (hfree hin.2) hcal (by simp)).symm
    · refine (hs spaceId).subset ?_
      rintro _ ⟨hx, hrest⟩
      rcases (mem_insert hnew).mp hx with hold | rfl
      · exact ⟨hold, hrest⟩
      · exact absurd hrest hin
  | @moved booking status _ _ hfree =>
    have hkept : ∀ x ∈ s.bookings.put { booking with status := status },
        x = { booking with status := status } ∨ (x ∈ s.bookings ∧ x.id ≠ booking.id) :=
      fun x hx => mem_of_mem_put hx
    by_cases hin : booking.spaceId = spaceId ∧ status = .confirmed
    · let confirmed : Booking := { booking with status := status }
      let others : Set Booking := {x ∈ calendar s spaceId | x.id ≠ booking.id}
      have hsub : calendar
            { s with bookings := s.bookings.put { booking with status := status } } spaceId ⊆
          insert confirmed others := by
        rintro x ⟨hx, hrest⟩
        rcases hkept x hx with rfl | ⟨hold, hne⟩
        · exact .inl rfl
        · exact .inr ⟨⟨hold, hrest⟩, hne⟩
      have hothers : others.PairwiseDisjoint slot := (hs spaceId).subset fun x hx => hx.1
      refine Set.PairwiseDisjoint.subset (hothers.insert ?_) hsub
      rintro other ⟨hother, hne⟩ -
      have hcal : other ∈ calendar s booking.spaceId := hin.1.symm ▸ hother
      have hid : some booking.id ≠ some other.id := by
        simpa using Ne.symm hne
      exact (slot_disjoint_of_not_confirmedOverlap (hfree hin.2) hcal hid).symm
    · refine (hs spaceId).subset ?_
      rintro x ⟨hx, hrest⟩
      rcases hkept x hx with rfl | ⟨hold, -⟩
      · exact absurd hrest hin
      · exact ⟨hold, hrest⟩

theorem noDoubleBooking_preserved : Preserves step NoDoubleBooking :=
  fun _ _ _ hs h => noDoubleBooking_of_effect (step_effect h) hs

theorem moves_of_effect (h : Effect s op s') {before : Booking} (hbefore : before ∈ s.bookings) :
    ∃ after ∈ s'.bookings, Moves op before after := by
  cases h with
  | kept hbookings => exact ⟨before, hbookings ▸ hbefore, .refl op before⟩
  | created hnew =>
    exact ⟨before, (mem_insert hnew).mpr (.inl hbefore), .refl op before⟩
  | @moved booking status hmem hallowed _ hended =>
    by_cases hid : before.id = booking.id
    · obtain rfl : before = booking := eq_of_key_eq hbefore hmem hid
      have hold : s.bookings.get? (key { before with status := status }) = some before :=
        get?_key hmem
      exact ⟨{ before with status := status }, mem_put_self hold,
        { same_row := ⟨rfl, rfl⟩
          same_slot := rfl
          status_move := .inr hallowed
          outcome_after_end := fun _ => hended }⟩
    · exact ⟨before, mem_put.mpr (.inl ⟨hbefore, hid⟩), .refl op before⟩

theorem moves_of_settle (op : Op) {before : Booking} (hbefore : before ∈ s.bookings) :
    ∃ after ∈ (settle step s op).bookings, Moves op before after := by
  cases h : step s op with
  | ok => exact settle_ok h ▸ moves_of_effect (step_effect h) hbefore
  | error => exact ⟨before, (settle_error h).symm ▸ hbefore, .refl op before⟩

end

/-- **In every run from a calendar without double bookings there are none, and statuses move along
allowed moves only, to an outcome after the end.** -/
theorem calendar_of_run (s : State) (hs : NoDoubleBooking s) (ops : List Op) :
    NoDoubleBooking (run step s ops) ∧ ∀ (op : Op), ∀ before ∈ (run step s ops).bookings,
        ∃ after ∈ (settle step (run step s ops) op).bookings, Moves op before after :=
  ⟨run_preserves noDoubleBooking_preserved hs ops,
    fun op _ hbefore => moves_of_settle op hbefore⟩

def emptyRoom : State where
  spaces := ⟨[{ id := 1, makerspaceId := 1, approvalMode := .instant }], by decide⟩
  bookings := ∅

theorem emptyRoom_noDoubleBooking : NoDoubleBooking emptyRoom :=
  fun _ booking hbooking => absurd hbooking.1 (notMem_empty booking)

def touchingRequests : List Op :=
  [.create { newId := 1, spaceId := 1, startsAt := minutes 60, endsAt := minutes 120 } 0,
    .create { newId := 2, spaceId := 1, startsAt := minutes 120, endsAt := minutes 180 } 0,
    .create { newId := 3, spaceId := 1, startsAt := minutes 90, endsAt := minutes 150 } 0]

/-- The overlapping request is refused, the touching ones are not. -/
theorem calendar_of_touchingRequests :
    (run step emptyRoom touchingRequests).bookings.rows.map Booking.id = [1, 2] ∧
      NoDoubleBooking (run step emptyRoom touchingRequests) ∧
      ∀ (op : Op), ∀ before ∈ (run step emptyRoom touchingRequests).bookings,
        ∃ after ∈ (settle step (run step emptyRoom touchingRequests) op).bookings,
          Moves op before after :=
  ⟨by decide, calendar_of_run emptyRoom emptyRoom_noDoubleBooking touchingRequests⟩

end Bookings
end SpaceWorks
