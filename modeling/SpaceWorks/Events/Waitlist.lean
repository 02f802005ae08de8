import SpaceWorks.Events.Seats

/-!
# The waiting list of an event

Waiting registrations are promoted in the order in which they joined, and a published event that has
not ended has no free spot while somebody waits.
-/

namespace SpaceWorks
namespace Events

open Checked TransactionalSystem Table List Option

variable {s : State} {eventId : Nat} {r : Registration} {selected : List Registration}

def Waiting (s : State) (eventId : Nat) (registration : Registration) : Prop :=
  registration ∈ s.registrations ∧ registration.eventId = eventId ∧
    registration.status = .waitlisted

theorem mem_lockWaiters {registration : Registration} :
    registration ∈ lockWaiters s eventId ↔ Waiting s eventId registration := by
  rw [lockWaiters, mem_filter, registrationsOf, mem_insertionSort, mem_filter]
  simp [Waiting, Table.mem_def, and_assoc]

instance : IsTrans Registration Registration.precedes where
  trans := by
    rintro a b c (hab | ⟨hab, hid⟩) (hbc | ⟨hbc, hid'⟩)
    · exact .inl (hab.trans hbc)
    · exact .inl (hbc ▸ hab)
    · exact .inl (hab ▸ hbc)
    · exact .inr ⟨hab.trans hbc, hid.trans hid'⟩

instance : Std.Total Registration.precedes where
  total := by
    intro a b
    simp only [Registration.precedes]
    omega

theorem lockWaiters_sorted (s : State) (eventId : Nat) :
    (lockWaiters s eventId).Pairwise Registration.precedes :=
  (pairwise_insertionSort Registration.precedes _).filter _

theorem lockWaiters_nodup (s : State) (eventId : Nat) :
    ((lockWaiters s eventId).map Registration.id).Nodup := by
  have hrows : ((s.registrations.rows.filter fun r => r.eventId = eventId).map
      Registration.id).Nodup :=
    s.registrations.nodup.sublist (filter_sublist.map Registration.id)
  have hsorted : ((registrationsOf s eventId).map Registration.id).Nodup :=
    (((perm_insertionSort Registration.precedes _).map Registration.id).nodup_iff).mpr hrows
  exact hsorted.sublist (filter_sublist.map Registration.id)

def Registration.movedTo (registration : Registration) (status : Status) : Registration :=
  { registration with status := status, calendarSequence := registration.calendarSequence + 1 }

def Registration.promoted (registration : Registration) : Registration :=
  registration.movedTo .registered

theorem mem_changeStatus {locked : Registration} {status : Status}
    (h : r ∈ (changeStatus s locked status).registrations) :
    r = locked.movedTo status ∨ (r ∈ s.registrations ∧ r.id ≠ locked.id) :=
  mem_of_mem_put h

theorem mem_promote (h : r ∈ (promote s selected).registrations) :
    (∃ x ∈ selected, r = x.promoted) ∨
      (r ∈ s.registrations ∧ r.id ∉ selected.map Registration.id) := by
  induction selected generalizing s with
  | nil => exact .inr ⟨h, not_mem_nil⟩
  | cons x _ ih =>
    rw [promote_cons] at h
    rcases ih h with ⟨y, hy, rfl⟩ | ⟨hr, hne⟩
    · exact .inl ⟨y, mem_cons_of_mem x hy, rfl⟩
    · rcases mem_of_mem_put hr with rfl | ⟨hold, hkey⟩
      · exact .inl ⟨x, mem_cons_self, rfl⟩
      · refine .inr ⟨hold, ?_⟩
        rw [map_cons, mem_cons, not_or]
        exact ⟨hkey, hne⟩

theorem mem_promote_of_notMem
    (hr : r ∈ s.registrations) (hne : r.id ∉ selected.map Registration.id) :
    r ∈ (promote s selected).registrations := by
  induction selected generalizing s with
  | nil => exact hr
  | cons _ _ ih =>
    rw [map_cons, mem_cons, not_or] at hne
    rw [promote_cons]
    exact ih (mem_put.mpr (.inl ⟨hr, hne.1⟩)) hne.2

theorem promoted_mem_promote (hselected : ∀ x ∈ selected, x ∈ s.registrations)
    (hnodup : (selected.map Registration.id).Nodup) (hr : r ∈ selected) :
    r.promoted ∈ (promote s selected).registrations := by
  induction selected generalizing s with
  | nil => exact absurd hr not_mem_nil
  | cons x _ ih =>
    rw [map_cons, nodup_cons] at hnodup
    rw [promote_cons]
    rcases mem_cons.mp hr with rfl | hr
    · refine mem_promote_of_notMem ?_ hnodup.1
      exact mem_put.mpr (.inr ⟨rfl, r, hselected r mem_cons_self, rfl⟩)
    · refine ih (fun y hy => ?_) hnodup.2 hr
      refine mem_put.mpr (.inl ⟨hselected y (mem_cons_of_mem x hy), ?_⟩)
      intro hsame
      exact hnodup.1 (mem_map.mpr ⟨y, hy, hsame⟩)

theorem occupancy_promote (hselected : ∀ x ∈ selected, Waiting s eventId x)
    (hnodup : (selected.map Registration.id).Nodup) :
    confirmedOccupancy (promote s selected) eventId =
      confirmedOccupancy s eventId + selected.length := by
  induction selected generalizing s with
  | nil => rfl
  | cons x _ ih =>
    rw [map_cons, nodup_cons] at hnodup
    obtain ⟨hmem, hevent, hstatus⟩ := hselected x mem_cons_self
    have hone : confirmedOccupancy (changeStatus s x .registered) eventId + seat eventId x =
        confirmedOccupancy s eventId + seat eventId x.promoted :=
      occupancy_put hmem (show x.promoted.id = x.id from rfl) rfl eventId
    have hbefore : seat eventId x = 0 := seat_eq_zero_of_not_confirmed (by rw [hstatus]; rfl)
    have hafter : seat eventId x.promoted = 1 := by
      simp [seat, takesSeat, Registration.promoted, Registration.movedTo, hevent, Status.confirmed]
    have hrest := ih (s := changeStatus s x .registered) (fun y hy => ?_) hnodup.2
    · rw [promote_cons, hrest, length_cons]
      omega
    · obtain ⟨hy₀, hy₁, hy₂⟩ := hselected y (mem_cons_of_mem x hy)
      refine ⟨mem_put.mpr (.inl ⟨hy₀, ?_⟩), hy₁, hy₂⟩
      intro hsame
      exact hnodup.1 (mem_map.mpr ⟨y, hy, hsame⟩)

theorem selectWaiters_eq_take (waiters : List Registration) (count : Option Nat) :
    selectWaiters waiters count = waiters.take (count.getD waiters.length) := by
  cases count with
  | none => exact take_length.symm
  | some => rfl

variable {s t : State} {status : Status} {event : Event} {eventId registrationId : Nat} {now : Int}
variable {locked : Registration} {op : Op}

theorem confirmed_of_undecided (h : status = .pendingApproval ∨ status = .waitlisted) :
    status.confirmed = false := by
  rcases h with rfl | rfl
  · rfl
  · rfl

def editPromotes (s : State) (event : Event) (now : Int) : List Registration :=
  if mayPromote event now ∧ (event.capacity = 0 ∨ confirmedOccupancy s event.id < event.capacity)
      ∧ event.registrationRequiresApproval = false then
    selectWaiters (lockWaiters s event.id)
      (updatePromotionCount event (confirmedOccupancy s event.id))
  else []

def cancelPromotes (s : State) (event : Event) (locked : Registration) (now : Int) :
    List Registration :=
  if (locked.status = .registered ∧ ¬ event.registrationRequiresApproval ∧ 0 < event.capacity
      ∧ mayPromote event now) ∧ event.registrationRequiresApproval = false then
    selectWaiters (lockWaiters (changeStatus s locked .cancelled) event.id) (some 1)
  else []

def Op.recordsAttendance : Op → Bool
  | .correctAttendance _ _ | .markAttended _ _ _ _ _ => true
  | _ => false

/-- What an operation does to the waiting lists. -/
inductive Turn (s : State) : Op → State → Prop
  | created {event : Event} {gate : Except String Unit}
      (hnew : s.events.get? (key event) = none) :
      Turn s (.createEvent event gate) { s with events := s.events.insert event hnew }
  | moved {op : Op} (event : Event) (status : EventStatus)
      (hop : ∀ request now, op ≠ .register request now)
      (hmem : event ∈ s.events)
      (hmove : event.status = .draft ∨ status = .cancelled ∨ status = .completed)
      (hstatus : status ≠ .draft) :
      Turn s op { s with events := s.events.put (event.moveTo status) }
  | edited {eventId : Nat} {changes : EventChanges} {now : Int} {gate quota : Except String Unit}
      (old saved : Event)
      (hmem : old ∈ s.events) (hevent : old.id = eventId) (hid : saved.id = old.id)
      (hspace : saved.makerspaceId = old.makerspaceId) (hstatus : saved.status = old.status)
      (happroval : old.status ≠ .draft →
        saved.registrationRequiresApproval = old.registrationRequiresApproval) :
      Turn s (.updateEvent eventId changes now gate quota)
        { promote s (editPromotes s saved now) with events := s.events.put saved }
  | registered {request : RegisterRequest} {now : Int} (event : Event) (row : Registration)
      (hnew : s.registrations.get? (key row) = none)
      (hmem : event ∈ s.events) (hevent : event.id = request.eventId)
      (hopen : event.status = .published)
      (hrow : row.eventId = event.id) (hcreated : row.createdAt = now)
      (hfresh : row.status = freshRegistrationStatus s event) :
      Turn s (.register request now) { s with registrations := s.registrations.insert row hnew }
  | reactivated {request : RegisterRequest} {now : Int} (event : Event) (old row : Registration)
      (hexisting : existingRegistration s event request.member request.pii
        request.normalizedEmail = some old)
      (hold : old ∈ s.registrations) (hcancelled : old.status = .cancelled) (hid : row.id = old.id)
      (hmem : event ∈ s.events) (hevent : event.id = request.eventId)
      (hopen : event.status = .published)
      (hsame : old.eventId = event.id) (hrow : row.eventId = event.id)
      (hcreated : row.createdAt = now)
      (hfresh : row.status = freshRegistrationStatus s event) :
      Turn s (.register request now) { s with registrations := s.registrations.put row }
  | decided {op : Op} (event : Event) (old row : Registration)
      (hop : ∀ request now, op ≠ .register request now)
      (hmem : event ∈ s.events) (hold : old ∈ s.registrations) (hsame : old.eventId = event.id)
      (hid : row.id = old.id) (hrow : row.eventId = event.id)
      (hmember : row.memberId = old.memberId) (hcreated : row.createdAt = old.createdAt)
      (hundecided : old.status = .pendingApproval ∨ old.status = .waitlisted)
      (hseat : row.status ≠ .attended)
      (hnew : row.status = .rejected ∨ event.registrationRequiresApproval = true) :
      Turn s op { s with registrations := s.registrations.put row }
  | cancelled {registrationId eventId : Nat} {now : Int} (event : Event) (locked : Registration)
      (hmem : event ∈ s.events) (hevent : event.id = eventId)
      (hlocked : locked ∈ s.registrations) (hid : locked.id = registrationId)
      (hsame : locked.eventId = event.id)
      (hstatus : locked.status = .registered ∨ locked.status.confirmed = false) :
      Turn s (.cancel registrationId eventId now)
        (promote (changeStatus s locked .cancelled) (cancelPromotes s event locked now))
  | attended {op : Op} (old row : Registration) (checkIns : Table CheckIn)
      (hop : op.recordsAttendance = true)
      (hold : old ∈ s.registrations) (hid : row.id = old.id) (hrow : row.eventId = old.eventId)
      (hmember : row.memberId = old.memberId) (hcreated : row.createdAt = old.createdAt)
      (hseated : old.status.confirmed = true) (hseated' : row.status.confirmed = true) :
      Turn s op { s with registrations := s.registrations.put row, checkIns := checkIns }

theorem promoteAutomatically_of_approval
    (h : event.registrationRequiresApproval = true) (count : Option Nat) :
    promoteAutomatically s event count = s :=
  if_pos h

theorem promoteAutomatically_of_open
    (h : event.registrationRequiresApproval = false) (count : Option Nat) :
    promoteAutomatically s event count =
      promote s (selectWaiters (lockWaiters s event.id) count) := by
  rw [promoteAutomatically, h]
  rfl

theorem updateEvent_turn {changes : EventChanges} {gate quota : Except String Unit}
    (h : updateEvent s eventId changes now gate quota = .ok t) :
    Turn s (.updateEvent eventId changes now gate quota) t := by
  simp only [updateEvent, bind_ok, lockedEvent_ok, require_ok, pure_ok] at h
  obtain ⟨old, hold, -, -, -, -, -, happroval, -, -, -, -, -, -, rfl⟩ := h
  have hkept : old.status ≠ .draft →
      (changes.apply old).registrationRequiresApproval = old.registrationRequiresApproval := by
    intro hdraft
    cases hchange : changes.registrationRequiresApproval with
    | none => simp [EventChanges.apply, hchange]
    | some =>
      by_contra hne
      refine happroval ⟨by rw [hchange]; rfl, ?_, hdraft⟩
      rw [hchange]
      rintro hsame
      exact hne (by simp [EventChanges.apply, hchange, some.inj hsame])
  obtain ⟨saved, hsaved, hid, hspace, hstatus, hsavedApproval, hpromotes⟩ : ∃ saved,
      saved = (if changes.touchesCalendar then
          { changes.apply old with calendarSequence := (changes.apply old).calendarSequence + 1 }
        else changes.apply old) ∧ saved.id = old.id ∧ saved.makerspaceId = old.makerspaceId ∧
      saved.status = old.status ∧
      saved.registrationRequiresApproval = (changes.apply old).registrationRequiresApproval ∧
      editPromotes s saved now = editPromotes s (changes.apply old) now := by
    refine ⟨_, rfl, ?_⟩
    split
    · exact ⟨rfl, rfl, rfl, rfl, rfl⟩
    · exact ⟨rfl, rfl, rfl, rfl, rfl⟩
  have hloop : (if mayPromote (changes.apply old) now ∧ ((changes.apply old).capacity = 0 ∨
          confirmedOccupancy s (changes.apply old).id < (changes.apply old).capacity) then
        promoteAutomatically s (changes.apply old)
          (updatePromotionCount (changes.apply old) (confirmedOccupancy s (changes.apply old).id))
      else s) = promote s (editPromotes s (changes.apply old) now) := by
    unfold editPromotes
    cases hpolicy : (changes.apply old).registrationRequiresApproval with
    | true =>
      simp [promoteAutomatically_of_approval hpolicy]
    | false =>
      simp only [promoteAutomatically_of_open hpolicy, and_true]
      split
      · rfl
      · rfl
  rw [hloop, promote_events, ← hsaved, ← hpromotes]
  refine .edited old saved (mem_of_get? hold) (key_of_get? hold) hid hspace hstatus ?_
  intro hdraft
  rw [hsavedApproval]
  exact hkept hdraft

theorem register_turn {request : RegisterRequest} (h : register s request now = .ok t) :
    Turn s (.register request now) t := by
  simp only [register, bind_ok, lockedEvent_ok, require_ok] at h
  obtain ⟨event, hget, -, -, -, hopen, -, -, h⟩ := h
  have hmem : event ∈ s.events := mem_of_get? hget
  have hevent : event.id = request.eventId := key_of_get? hget
  simp [registrationIsOpen] at hopen
  split at h
  case h_1 existing hexisting =>
    obtain ⟨hold, hof⟩ := mem_existingRegistration hexisting
    simp only [reactivate, bind_ok, require_ok, pure_ok] at h
    obtain ⟨-, hcancelled, -, -, -, -, rfl⟩ := h
    exact .reactivated event existing _ hexisting hold hcancelled rfl hmem hevent hopen.1.1 hof hof
      rfl rfl
  case h_2 =>
    simp only [insertRegistration, bind_ok, insertNew_ok, pure_ok] at h
    obtain ⟨-, -, -, -, _, ⟨hnew, rfl⟩, rfl⟩ := h
    exact .registered event _ hnew hmem hevent hopen.1.1 rfl rfl rfl

theorem lockRegistration_keys
    (h : lockRegistration s registrationId eventId = .ok (event, locked)) :
    event.id = eventId ∧ locked.id = registrationId := by
  simp only [lockRegistration, bind_ok, lockedEvent_ok, orRefuse_ok, pure_ok, Prod.mk.injEq] at h
  obtain ⟨_, he, _, hr, _, -, rfl, rfl⟩ := h
  exact ⟨key_of_get? he, key_of_get? hr⟩

theorem changeStatus_turn (hop : ∀ request now, op ≠ .register request now)
    (hlock : lockRegistration s registrationId eventId = .ok (event, locked))
    (hundecided : locked.status = .pendingApproval ∨ locked.status = .waitlisted)
    (hseat : status ≠ .attended)
    (hnew : status = .rejected ∨ event.registrationRequiresApproval = true) :
    Turn s op (changeStatus s locked status) := by
  obtain ⟨hmem, hold, hsame⟩ := lockRegistration_ok hlock
  exact .decided event locked _ hop hmem hold hsame rfl hsame rfl rfl hundecided hseat hnew

theorem cancelRegistration_ok (h : cancelRegistration s registrationId eventId now = .ok t) :
    ∃ event ∈ s.events, ∃ locked ∈ s.registrations, event.id = eventId ∧
      locked.id = registrationId ∧ locked.eventId = event.id ∧
      (locked.status = .registered ∨ locked.status.confirmed = false) ∧
      t = promote (changeStatus s locked .cancelled) (cancelPromotes s event locked now) := by
  simp only [cancelRegistration, bind_ok, require_ok] at h
  obtain ⟨⟨event, locked⟩, hlock, -, hstatus, h⟩ := h
  obtain ⟨hmem, hlocked, hsame⟩ := lockRegistration_ok hlock
  obtain ⟨hevent, hid⟩ := lockRegistration_keys hlock
  refine ⟨event, hmem, locked, hlocked, hevent, hid, hsame, ?_, ?_⟩
  · rcases hstatus with hpending | hregistered | hwaiting
    · exact .inr (by rw [hpending]; rfl)
    · exact .inl hregistered
    · exact .inr (by rw [hwaiting]; rfl)
  · unfold cancelPromotes
    split at h
    case isTrue hhand =>
      have hpolicy : event.registrationRequiresApproval = false := Bool.eq_false_iff.mpr hhand.2.1
      rw [if_pos ⟨hhand, hpolicy⟩, ← promoteAutomatically_of_open hpolicy]
      exact (pure_ok.mp h).symm
    case isFalse hkeep =>
      rw [if_neg fun hall => hkeep hall.1]
      exact (pure_ok.mp h).symm

theorem cancelRegistration_turn (h : cancelRegistration s registrationId eventId now = .ok t) :
    Turn s (.cancel registrationId eventId now) t := by
  obtain ⟨event, hmem, locked, hlocked, hevent, hid, hsame, hstatus, rfl⟩ := cancelRegistration_ok h
  exact .cancelled event locked hmem hevent hlocked hid hsame hstatus

/-- The inversion lemma for the waiting lists. -/
theorem turn_of_step (h : step s op = .ok t) : Turn s op t := by
  cases op with
  | createEvent =>
    simp only [step, createEvent, bind_ok, insertNew_ok, pure_ok] at h
    obtain ⟨-, -, -, -, _, ⟨hnew, rfl⟩, rfl⟩ := h
    exact .created hnew
  | updateEvent => exact updateEvent_turn h
  | publish =>
    simp only [step, publish, bind_ok, lockedEvent_ok, require_ok, pure_ok] at h
    obtain ⟨locked, hlocked, -, hdraft, -, -, -, -, -, -, rfl⟩ := h
    exact .moved locked .published (by simp) (mem_of_get? hlocked) (.inl hdraft) (by decide)
  | cancelEvent =>
    simp [step, cancelEvent, transition, lockedEvent_ok] at h
    obtain ⟨locked, hlocked, -, -, rfl⟩ := h
    exact .moved locked .cancelled (by simp) (mem_of_get? hlocked) (.inr (.inl rfl)) (by decide)
  | completeEvent =>
    simp [step, completeEvent, transition, lockedEvent_ok] at h
    obtain ⟨locked, hlocked, -, -, rfl⟩ := h
    exact .moved locked .completed (by simp) (mem_of_get? hlocked) (.inr (.inr rfl)) (by decide)
  | register => exact register_turn h
  | approve =>
    simp only [step, approveRegistration, bind_ok, require_ok, pure_ok] at h
    obtain ⟨⟨_, _⟩, hlock, -, ⟨hpolicy, hpending, -⟩, rfl⟩ := h
    refine changeStatus_turn (by simp) hlock (.inl hpending) ?_ (.inr hpolicy)
    split
    · decide
    · decide
  | reject =>
    simp only [step, rejectRegistration, bind_ok, require_ok, pure_ok] at h
    obtain ⟨⟨_, _⟩, hlock, -, hstatus, rfl⟩ := h
    exact changeStatus_turn (by simp) hlock hstatus (by decide) (.inl rfl)
  | promote =>
    simp only [step, promoteRegistration, bind_ok, require_ok, pure_ok] at h
    obtain ⟨⟨_, _⟩, hlock, -, ⟨hpolicy, hwaiting, -⟩, -, -, rfl⟩ := h
    exact changeStatus_turn (by simp) hlock (.inr hwaiting) (by decide) (.inr hpolicy)
  | cancel => exact cancelRegistration_turn h
  | correctAttendance =>
    simp only [step, correctAttendance, bind_ok, require_ok, pure_ok] at h
    obtain ⟨⟨_, locked⟩, hlock, -, hattended, -, -, rfl⟩ := h
    exact .attended locked _ s.checkIns rfl (lockRegistration_ok hlock).2.1 rfl rfl rfl rfl
      (by rw [hattended]; rfl) rfl
  | markAttended =>
    simp only [step, markAttended, bind_ok, require_ok, pure_ok] at h
    obtain ⟨_, -, -, -, -, -, ⟨_, locked⟩, hlock, -, hregistered, checkIns, -, rfl⟩ := h
    exact .attended locked _ checkIns rfl (lockRegistration_ok hlock).2.1 rfl rfl rfl rfl
      (by rw [hregistered.1]; rfl) rfl

variable {event saved : Event} {eventId n : Nat} {r locked row : Registration} {ops : List Op}
variable {P : Nat → Int → Prop}

def Fair (s : State) (event : Event) : Prop :=
  (∃ r, Waiting s event.id r) → hasSpot s event = false

theorem hasSpot_eq_false_iff :
    hasSpot s event = false ↔
      event.capacity ≠ 0 ∧ event.capacity ≤ confirmedOccupancy s event.id := by
  rw [← Bool.not_eq_true, hasSpot_iff]
  omega

theorem Fair.frame (h : Fair s event)
    (hseats : confirmedOccupancy t event.id = confirmedOccupancy s event.id)
    (hwaiting : ∀ r, Waiting t event.id r → ∃ r', Waiting s event.id r') :
    Fair t event := by
  rintro ⟨r, hr⟩
  rw [hasSpot_eq_false_iff, hseats]
  exact hasSpot_eq_false_iff.mp (h (hwaiting r hr))

theorem occupancy_promote_other
    (hselected : ∀ x ∈ selected, x ∈ s.registrations ∧ x.eventId ≠ eventId)
    (hnodup : (selected.map Registration.id).Nodup) :
    confirmedOccupancy (promote s selected) eventId = confirmedOccupancy s eventId := by
  induction selected generalizing s with
  | nil => rfl
  | cons x _ ih =>
    rw [map_cons, nodup_cons] at hnodup
    obtain ⟨hmem, hne⟩ := hselected x mem_cons_self
    have hone : confirmedOccupancy (changeStatus s x .registered) eventId + seat eventId x =
        confirmedOccupancy s eventId + seat eventId x.promoted :=
      occupancy_put hmem (show x.promoted.id = x.id from rfl) rfl eventId
    have hbefore : seat eventId x = 0 := seat_eq_zero_of_ne hne
    have hafter : seat eventId x.promoted = 0 := seat_eq_zero_of_ne hne
    have hrest := ih (s := changeStatus s x .registered) (fun y hy => ?_) hnodup.2
    · rw [promote_cons, hrest]
      omega
    · obtain ⟨hy₀, hy₁⟩ := hselected y (mem_cons_of_mem x hy)
      refine ⟨mem_put.mpr (.inl ⟨hy₀, ?_⟩), hy₁⟩
      intro hsame
      exact hnodup.1 (mem_map.mpr ⟨y, hy, hsame⟩)

theorem take_nodup (s : State) (eventId n : Nat) :
    (((lockWaiters s eventId).take n).map Registration.id).Nodup :=
  (lockWaiters_nodup s eventId).sublist ((take_sublist n _).map Registration.id)

theorem waiting_of_mem_take (h : r ∈ (lockWaiters s eventId).take n) : Waiting s eventId r :=
  mem_lockWaiters.mp (mem_of_mem_take h)

theorem waiting_of_promote (h : Waiting (promote s selected) eventId r) :
    Waiting s eventId r ∧ r ∉ selected := by
  obtain ⟨hr, hevent, hstatus⟩ := h
  rcases mem_promote hr with ⟨_, -, rfl⟩ | ⟨hold, hne⟩
  · cases hstatus
  · exact ⟨⟨hold, hevent, hstatus⟩, fun hin => hne (mem_map_of_mem hin)⟩

theorem occupancy_of_waiting (h : Waiting (promote s ((lockWaiters s eventId).take n)) eventId r) :
    confirmedOccupancy (promote s ((lockWaiters s eventId).take n)) eventId =
      confirmedOccupancy s eventId + n := by
  obtain ⟨hwaiting, hout⟩ := waiting_of_promote h
  have hlong : n < (lockWaiters s eventId).length := by
    by_contra hshort
    rw [take_of_length_le (Nat.le_of_not_lt hshort)] at hout
    exact hout (mem_lockWaiters.mpr hwaiting)
  rw [occupancy_promote (fun x hx => waiting_of_mem_take hx) (take_nodup s eventId n),
    length_take, Nat.min_eq_left (Nat.le_of_lt hlong)]

def Op.reading : Op → Option (Nat × Int)
  | .updateEvent eventId _ now _ _ => some (eventId, now)
  | .publish eventId now _ => some (eventId, now)
  | .register request now => some (request.eventId, now)
  | .approve _ eventId now => some (eventId, now)
  | .promote _ eventId now => some (eventId, now)
  | .cancel _ eventId now => some (eventId, now)
  | _ => none

def readings (ops : List Op) : List (Nat × Int) :=
  ops.filterMap Op.reading

/-- A time that no operation of the run on the event has passed. -/
def NotBefore (ops : List Op) (eventId : Nat) (now : Int) : Prop :=
  ∀ reading ∈ readings ops, reading.1 = eventId → reading.2 ≤ now

/-- A time after all operations of the run on the event. -/
def After (ops : List Op) (eventId : Nat) (now : Int) : Prop :=
  ∀ reading ∈ readings ops, reading.1 = eventId → reading.2 < now

instance (ops : List Op) (eventId : Nat) (now : Int) : Decidable (NotBefore ops eventId now) :=
  inferInstanceAs (Decidable (∀ reading ∈ readings ops, reading.1 = eventId → reading.2 ≤ now))

instance (ops : List Op) (eventId : Nat) (now : Int) : Decidable (After ops eventId now) :=
  inferInstanceAs (Decidable (∀ reading ∈ readings ops, reading.1 = eventId → reading.2 < now))

theorem readings_append (ops more : List Op) :
    readings (ops ++ more) = readings ops ++ readings more :=
  filterMap_append

theorem NotBefore.init {more : List Op} (h : NotBefore (ops ++ more) eventId now) :
    NotBefore ops eventId now := by
  intro reading hreading
  refine h reading ?_
  rw [readings_append]
  exact mem_append_left _ hreading

theorem NotBefore.last {reading : Int}
    (h : NotBefore (ops ++ [op]) eventId now) (hop : op.reading = some (eventId, reading)) :
    reading ≤ now := by
  refine h (eventId, reading) ?_ rfl
  rw [readings_append]
  exact mem_append_right _ (mem_filterMap.mpr ⟨op, by simp, hop⟩)

/-- The invariant of the waiting lists after the operations of a run. -/
structure Queued (ops : List Op) (s : State) : Prop where
  hosted : ∀ r ∈ s.registrations, ∃ event ∈ s.events, event.id = r.eventId ∧ event.status ≠ .draft
  stamped : ∀ r ∈ s.registrations, (r.eventId, r.createdAt) ∈ readings ops
  fair : ∀ event ∈ s.events, event.status = .published →
    event.registrationRequiresApproval = false →
    ∀ now, NotBefore ops event.id now → now ≤ event.endsAt → Fair s event

theorem hosted_put {old : Event} (hmem : old ∈ s.events) (hid : saved.id = old.id)
    (hstatus : old.status ≠ .draft → saved.status ≠ .draft)
    (h : ∃ event ∈ s.events, event.id = eventId ∧ event.status ≠ .draft) :
    ∃ event ∈ s.events.put saved, event.id = eventId ∧ event.status ≠ .draft := by
  obtain ⟨event, hevent, rfl, hlive⟩ := h
  by_cases hsame : event.id = old.id
  · obtain rfl : event = old := eq_of_key_eq hevent hmem hsame
    exact ⟨saved, mem_put.mpr (.inr ⟨rfl, event, hmem, hid.symm⟩), hid, hstatus hlive⟩
  · exact ⟨event, mem_put.mpr (.inl ⟨hevent, fun heq => hsame (heq.trans hid)⟩), rfl, hlive⟩

theorem of_mem_promote (hselected : ∀ x ∈ selected, x ∈ s.registrations)
    (h : ∀ x ∈ s.registrations, P x.eventId x.createdAt)
    (hr : r ∈ (promote s selected).registrations) :
    P r.eventId r.createdAt := by
  rcases mem_promote hr with ⟨x, hx, rfl⟩ | ⟨hold, -⟩
  · exact h x (hselected x hx)
  · exact h r hold

theorem editPromotes_eq_take (s : State) (event : Event) (now : Int) :
    ∃ n, editPromotes s event now = (lockWaiters s event.id).take n := by
  unfold editPromotes
  split
  · exact ⟨_, selectWaiters_eq_take _ _⟩
  · exact ⟨0, rfl⟩

theorem cancelPromotes_eq_take (s : State) (event : Event) (locked : Registration) (now : Int) :
    ∃ n, cancelPromotes s event locked now =
      (lockWaiters (changeStatus s locked .cancelled) event.id).take n := by
  unfold cancelPromotes
  split
  · exact ⟨1, rfl⟩
  · exact ⟨0, rfl⟩

theorem mem_of_mem_editPromotes (h : r ∈ editPromotes s event now) :
    Waiting s event.id r := by
  obtain ⟨_, hn⟩ := editPromotes_eq_take s event now
  rw [hn] at h
  exact waiting_of_mem_take h

theorem mem_of_mem_cancelPromotes (h : r ∈ cancelPromotes s event locked now) :
    Waiting (changeStatus s locked .cancelled) event.id r := by
  obtain ⟨_, hn⟩ := cancelPromotes_eq_take s event locked now
  rw [hn] at h
  exact waiting_of_mem_take h

theorem of_mem_put {old : Registration}
    (hold : old ∈ s.registrations) (hevent : row.eventId = old.eventId)
    (hcreated : row.createdAt = old.createdAt) (h : ∀ x ∈ s.registrations, P x.eventId x.createdAt)
    (hr : r ∈ s.registrations.put row) :
    P r.eventId r.createdAt := by
  rcases mem_of_mem_put hr with rfl | ⟨hmem, -⟩
  · rw [hevent, hcreated]
    exact h old hold
  · exact h r hmem

theorem hosted_of_turn (h : Queued ops s) (hturn : Turn s op t) :
    ∀ r ∈ t.registrations, ∃ event ∈ t.events, event.id = r.eventId ∧ event.status ≠ .draft := by
  intro r hr
  cases hturn with
  | created hnew =>
    obtain ⟨event, hevent, hid, hlive⟩ := h.hosted r hr
    exact ⟨event, (mem_insert hnew).mpr (.inl hevent), hid, hlive⟩
  | moved _ _ _ hmem _ hstatus =>
    exact hosted_put hmem rfl (fun _ => hstatus) (h.hosted r hr)
  | edited _ _ hmem _ hid _ hstatus =>
    refine hosted_put hmem hid (fun hlive => hstatus ▸ hlive) ?_
    exact of_mem_promote (P := fun eventId _ => ∃ event ∈ s.events, event.id = eventId ∧
      event.status ≠ .draft) (fun x hx => (mem_of_mem_editPromotes hx).1) h.hosted hr
  | registered event _ hnew hmem _ hopen hrow =>
    rcases (mem_insert hnew).mp hr with hold | rfl
    · exact h.hosted r hold
    · exact ⟨event, hmem, hrow.symm, by rw [hopen]; decide⟩
  | reactivated event old row hexisting hold hcancelled hid hmem hevent hopen hsame hrow hcreated
      hfresh =>
    rcases mem_of_mem_put hr with rfl | ⟨hmem', -⟩
    · exact ⟨event, hmem, hrow.symm, by rw [hopen]; decide⟩
    · exact h.hosted r hmem'
  | decided event _ _ _ _ hold hsame _ hrow _ hcreated =>
    exact of_mem_put (P := fun eventId _ => ∃ event ∈ s.events, event.id = eventId ∧
      event.status ≠ .draft) hold (hrow.trans hsame.symm) hcreated h.hosted hr
  | cancelled event locked _ _ hlocked =>
    rw [promote_events]
    have hchanged : ∀ x ∈ (changeStatus s locked .cancelled).registrations,
        ∃ event ∈ s.events, event.id = x.eventId ∧ event.status ≠ .draft := by
      intro x hx
      rcases mem_changeStatus hx with rfl | ⟨hmem', -⟩
      · exact h.hosted locked hlocked
      · exact h.hosted x hmem'
    exact of_mem_promote (P := fun eventId _ => ∃ event ∈ s.events, event.id = eventId ∧
      event.status ≠ .draft) (fun x hx => (mem_of_mem_cancelPromotes hx).1) hchanged hr
  | attended _ _ _ _ hold _ hrow _ hcreated =>
    exact of_mem_put (P := fun eventId _ => ∃ event ∈ s.events, event.id = eventId ∧
      event.status ≠ .draft) hold hrow hcreated h.hosted hr

theorem stamped_of_turn (h : Queued ops s) (hturn : Turn s op t) :
    ∀ r ∈ t.registrations, (r.eventId, r.createdAt) ∈ readings (ops ++ [op]) := by
  have hold : ∀ r ∈ s.registrations, (r.eventId, r.createdAt) ∈ readings (ops ++ [op]) := by
    intro r hr
    rw [readings_append]
    exact mem_append_left _ (h.stamped r hr)
  have hfresh {eventId : Nat} {now : Int} (hop : op.reading = some (eventId, now)) :
      (eventId, now) ∈ readings (ops ++ [op]) := by
    rw [readings_append]
    exact mem_append_right _ (mem_filterMap.mpr ⟨op, by simp, hop⟩)
  intro r hr
  cases hturn with
  | created | moved => exact hold r hr
  | edited =>
    exact of_mem_promote (P := fun eventId createdAt => (eventId, createdAt) ∈ readings _)
      (fun x hx => (mem_of_mem_editPromotes hx).1) hold hr
  | registered _ _ hnew _ hevent _ hrow hcreated =>
    rcases (mem_insert hnew).mp hr with hmem' | rfl
    · exact hold r hmem'
    · rw [hrow, hevent, hcreated]
      exact hfresh rfl
  | reactivated event old row hexisting hold' hcancelled hid hmem hevent hopen hsame hrow hcreated
      hfresh' =>
    rcases mem_of_mem_put hr with rfl | ⟨hmem', -⟩
    · rw [hrow, hevent, hcreated]
      exact hfresh rfl
    · exact hold r hmem'
  | decided _ _ _ _ _ hold' hsame _ hrow _ hcreated =>
    exact of_mem_put (P := fun eventId createdAt => (eventId, createdAt) ∈ readings _)
      hold' (hrow.trans hsame.symm) hcreated hold hr
  | @cancelled registrationId eventId now _ locked _ _ hlocked =>
    have hchanged : ∀ x ∈ (changeStatus s locked .cancelled).registrations,
        (x.eventId, x.createdAt) ∈ readings (ops ++ [.cancel registrationId eventId now]) := by
      intro x hx
      rcases mem_changeStatus hx with rfl | ⟨hmem', -⟩
      · exact hold locked hlocked
      · exact hold x hmem'
    exact of_mem_promote (P := fun eventId createdAt => (eventId, createdAt) ∈ readings _)
      (fun x hx => (mem_of_mem_cancelPromotes hx).1) hchanged hr
  | attended _ _ _ _ hold' _ hrow _ hcreated =>
    exact of_mem_put (P := fun eventId createdAt => (eventId, createdAt) ∈ readings _)
      hold' hrow hcreated hold hr

theorem fair_edited (hpublished : saved.status = .published)
    (hpolicy : saved.registrationRequiresApproval = false) (hopen : now ≤ saved.endsAt) :
    Fair (promote s (editPromotes s saved now)) saved := by
  have hmay : mayPromote saved now = true := by
    simp [mayPromote, hpublished, hopen]
  rintro ⟨_, hr⟩
  rw [hasSpot_eq_false_iff]
  by_cases hroom : saved.capacity = 0 ∨ confirmedOccupancy s saved.id < saved.capacity
  · have hselected : editPromotes s saved now = (lockWaiters s saved.id).take
        ((updatePromotionCount saved (confirmedOccupancy s saved.id)).getD
          (lockWaiters s saved.id).length) := by
      rw [editPromotes, if_pos ⟨hmay, hroom, hpolicy⟩, selectWaiters_eq_take]
    rw [hselected] at hr ⊢
    have hcount := occupancy_of_waiting hr
    by_cases hlimit : saved.capacity = 0
    · -- without a limit the whole list is promoted
      obtain ⟨hwaiting, hout⟩ := waiting_of_promote hr
      rw [updatePromotionCount, if_pos hlimit, getD_none, take_length] at hout
      exact absurd (mem_lockWaiters.mpr hwaiting) hout
    · rw [updatePromotionCount, if_neg hlimit, getD_some] at hcount ⊢
      omega
  · have hselected : editPromotes s saved now = [] := if_neg fun hall => hroom hall.2.1
    rw [hselected, promote_nil]
    omega

theorem fair_cancelled
    (h : Fair s event) (hlocked : locked ∈ s.registrations) (hsame : locked.eventId = event.id)
    (hstatus : locked.status = .registered ∨ locked.status.confirmed = false)
    (hpublished : event.status = .published)
    (hpolicy : event.registrationRequiresApproval = false) (hopen : now ≤ event.endsAt) :
    Fair (promote (changeStatus s locked .cancelled) (cancelPromotes s event locked now))
      event := by
  have hgiven : confirmedOccupancy (changeStatus s locked .cancelled) event.id +
      seat event.id locked =
        confirmedOccupancy s event.id + seat event.id (locked.movedTo .cancelled) :=
    occupancy_put hlocked (show (locked.movedTo .cancelled).id = locked.id from rfl) rfl event.id
  have hempty : seat event.id (locked.movedTo .cancelled) = 0 := seat_eq_zero_of_not_confirmed rfl
  have hbefore : ∀ r, Waiting (changeStatus s locked .cancelled) event.id r →
      Waiting s event.id r := by
    rintro _ ⟨hr, hevent, hwaiting⟩
    rcases mem_changeStatus hr with rfl | ⟨hold, -⟩
    · cases hwaiting
    · exact ⟨hold, hevent, hwaiting⟩
  rcases hstatus with hseated | hunseated
  · have hseat : seat event.id locked = 1 := by
      simp [seat, takesSeat, hsame, hseated, Status.confirmed]
    by_cases hlimit : event.capacity = 0
    · -- an event without a limit has no waiting list
      rintro ⟨r, hr⟩
      have hfull := h ⟨r, hbefore r (waiting_of_promote hr).1⟩
      exact absurd hlimit (hasSpot_eq_false_iff.mp hfull).1
    · have hmay : mayPromote event now = true := by
        simp [mayPromote, hpublished, hopen]
      have hselected : cancelPromotes s event locked now =
          (lockWaiters (changeStatus s locked .cancelled) event.id).take 1 :=
        if_pos ⟨⟨hseated, by rw [hpolicy]; decide, Nat.pos_of_ne_zero hlimit, hmay⟩, hpolicy⟩
      rw [hselected]
      rintro ⟨r, hr⟩
      have hfull := hasSpot_eq_false_iff.mp (h ⟨r, hbefore r (waiting_of_promote hr).1⟩)
      have hcount := occupancy_of_waiting hr
      rw [hasSpot_eq_false_iff]
      omega
  · have hnone : cancelPromotes s event locked now = [] := by
      refine if_neg fun hall => ?_
      rw [hall.1.1] at hunseated
      cases hunseated
    rw [hnone, promote_nil]
    have hseat : seat event.id locked = 0 := seat_eq_zero_of_not_confirmed hunseated
    refine h.frame ?_ fun r hr => ⟨r, hbefore r hr⟩
    omega

theorem fair_registered (h : Fair s event) (hpolicy : event.registrationRequiresApproval = false)
    (hfresh : row.status = freshRegistrationStatus s event)
    (hseats : confirmedOccupancy s event.id ≤ confirmedOccupancy t event.id)
    (hrows : ∀ r, Waiting t event.id r → Waiting s event.id r ∨ r = row) :
    Fair t event := by
  rintro ⟨r, hr⟩
  cases hspot : hasSpot s event with
  | true =>
    rcases hrows r hr with hwaiting | rfl
    · exact absurd (h ⟨r, hwaiting⟩) (by rw [hspot]; exact Bool.true_eq_false.mp)
    · have hstatus := hr.2.2
      rw [hfresh, freshRegistrationStatus, hpolicy, hspot] at hstatus
      cases hstatus
  | false =>
    rw [hasSpot_eq_false_iff] at hspot ⊢
    exact ⟨hspot.1, hspot.2.trans hseats⟩

theorem Fair.put {event : Event} {old row : Registration} (h : Fair s event)
    (hold : old ∈ s.registrations) (hid : row.id = old.id)
    (hregistrations : t.registrations = s.registrations.put row)
    (hseat : seat event.id row = seat event.id old)
    (hrow : row.eventId = event.id → row.status = .waitlisted → Waiting s event.id old) :
    Fair t event := by
  have hcount := occupancy_put hold hid hregistrations event.id
  refine h.frame (by omega) ?_
  rintro r ⟨hr, hevent, hwaiting⟩
  rw [hregistrations] at hr
  rcases mem_of_mem_put hr with rfl | ⟨hmem, -⟩
  · exact ⟨old, hrow hevent hwaiting⟩
  · exact ⟨r, hmem, hevent, hwaiting⟩

theorem fair_of_turn (h : Queued ops s) (hturn : Turn s op t)
    (hevent : event ∈ t.events) (hpublished : event.status = .published)
    (hpolicy : event.registrationRequiresApproval = false)
    (hnow : NotBefore (ops ++ [op]) event.id now) (hopen : now ≤ event.endsAt) :
    Fair t event := by
  have hfair : event ∈ s.events → Fair s event := fun hmem =>
    h.fair event hmem hpublished hpolicy now hnow.init hopen
  cases hturn with
  | @created new _ hnew =>
    rcases (mem_insert hnew).mp hevent with hmem | rfl
    · exact (hfair hmem).frame rfl fun r hr => ⟨r, hr⟩
    · -- nobody is registered for a new event
      rintro ⟨r, hr, hof, -⟩
      obtain ⟨host, hhost, hid, -⟩ := h.hosted r hr
      exact absurd (hid.trans hof) (get?_eq_none.mp hnew host hhost)
  | moved old _ _ hmem hmove =>
    rcases mem_of_mem_put hevent with rfl | ⟨hold, -⟩
    · -- nobody is registered for a draft
      rintro ⟨r, hr, hof, -⟩
      obtain ⟨host, hhost, hid, hlive⟩ := h.hosted r hr
      obtain rfl : host = old := eq_of_key_eq hhost hmem (hid.trans hof)
      rcases hmove with hdraft | rfl | rfl
      · exact absurd hdraft hlive
      · cases hpublished
      · cases hpublished
    · exact (hfair hold).frame rfl fun r hr => ⟨r, hr⟩
  | @edited _ _ reading _ _ _ saved _ hid' hid =>
    rcases mem_of_mem_put hevent with rfl | ⟨hold, hne⟩
    · have hlast : reading ≤ now := hnow.last (by rw [hid, hid']; rfl)
      exact fair_edited hpublished hpolicy (hlast.trans hopen)
    · refine (hfair hold).frame ?_ fun r hr => ⟨r, (waiting_of_promote hr).1⟩
      obtain ⟨n, hn⟩ := editPromotes_eq_take s saved reading
      refine occupancy_promote_other (fun x hx => ?_) ?_
      · obtain ⟨hx₀, hx₁, -⟩ := mem_of_mem_editPromotes hx
        exact ⟨hx₀, fun hsame => hne (hsame.symm.trans hx₁)⟩
      · rw [hn]
        exact take_nodup s saved.id n
  | registered host row hnew hmem _ _ hrow _ hfresh =>
    have hcount : confirmedOccupancy { s with registrations := s.registrations.insert row hnew }
        event.id = confirmedOccupancy s event.id + seat event.id row :=
      occupancy_insert hnew rfl event.id
    by_cases hsame : event.id = host.id
    · obtain rfl : event = host := eq_of_key_eq hevent hmem hsame
      refine fair_registered (hfair hmem) hpolicy hfresh (by omega) ?_
      rintro _ ⟨hr, hof, hwaiting⟩
      rcases (mem_insert hnew).mp hr with hold | rfl
      · exact .inl ⟨hold, hof, hwaiting⟩
      · exact .inr rfl
    · have hseat : seat event.id row = 0 := seat_eq_zero_of_ne (by rw [hrow]; exact Ne.symm hsame)
      refine (hfair hevent).frame (by omega) ?_
      rintro r ⟨hr, hof, hwaiting⟩
      rcases (mem_insert hnew).mp hr with hold | rfl
      · exact ⟨r, hold, hof, hwaiting⟩
      · exact absurd (hof.symm.trans hrow) hsame
  | reactivated host old row hexisting hold hcancelled hid hmem hid' hopened hsame' hrow hcreated
      hfresh =>
    have hcount : confirmedOccupancy { s with registrations := s.registrations.put row }
        event.id + seat event.id old = confirmedOccupancy s event.id + seat event.id row :=
      occupancy_put hold hid rfl event.id
    have hempty : seat event.id old = 0 := seat_eq_zero_of_not_confirmed (by rw [hcancelled]; rfl)
    by_cases hsame : event.id = host.id
    · obtain rfl : event = host := eq_of_key_eq hevent hmem hsame
      refine fair_registered (hfair hmem) hpolicy hfresh (by omega) ?_
      rintro _ ⟨hr, hof, hwaiting⟩
      rcases mem_of_mem_put hr with rfl | ⟨hmem', -⟩
      · exact .inr rfl
      · exact .inl ⟨hmem', hof, hwaiting⟩
    · have hseat : seat event.id row = 0 := seat_eq_zero_of_ne (by rw [hrow]; exact Ne.symm hsame)
      refine (hfair hevent).put hold hid rfl (by omega) ?_
      intro hof
      exact absurd (hof.symm.trans hrow) hsame
  | decided host old row _ hmem hold _ hid hrow _ _ hundecided hseat hnew =>
    have hempty : seat event.id old = 0 :=
      seat_eq_zero_of_not_confirmed (confirmed_of_undecided hundecided)
    by_cases hsame : event.id = host.id
    · obtain rfl : event = host := eq_of_key_eq hevent hmem hsame
      have hrejected : row.status = .rejected :=
        hnew.resolve_right (by rw [hpolicy]; exact Bool.false_ne_true)
      have hseat : seat event.id row = 0 := seat_eq_zero_of_not_confirmed (by rw [hrejected]; rfl)
      refine (hfair hevent).put hold hid rfl (by omega) ?_
      intro _ hwaiting
      exact nomatch hrejected.symm.trans hwaiting
    · have hseat : seat event.id row = 0 := seat_eq_zero_of_ne (by rw [hrow]; exact Ne.symm hsame)
      refine (hfair hevent).put hold hid rfl (by omega) ?_
      intro hof
      exact absurd (hof.symm.trans hrow) hsame
  | @cancelled _ _ reading host locked hmem hid hlocked _ hsame' hstatus =>
    rw [promote_events] at hevent
    by_cases hsame : event.id = host.id
    · obtain rfl : event = host := eq_of_key_eq hevent hmem hsame
      have hlast : reading ≤ now := hnow.last (by rw [hid]; rfl)
      exact fair_cancelled (hfair hmem) hlocked hsame' hstatus hpublished hpolicy
        (hlast.trans hopen)
    · have hgiven : confirmedOccupancy (changeStatus s locked .cancelled) event.id +
          seat event.id locked =
            confirmedOccupancy s event.id + seat event.id (locked.movedTo .cancelled) :=
        occupancy_put hlocked (show (locked.movedTo .cancelled).id = locked.id from rfl) rfl
          event.id
      have hempty : seat event.id locked = 0 :=
        seat_eq_zero_of_ne (by rw [hsame']; exact Ne.symm hsame)
      have hcancelled : seat event.id (locked.movedTo .cancelled) = 0 :=
        seat_eq_zero_of_not_confirmed rfl
      obtain ⟨n, hn⟩ := cancelPromotes_eq_take s host locked reading
      have hpromoted : confirmedOccupancy (promote (changeStatus s locked .cancelled)
          (cancelPromotes s host locked reading)) event.id =
            confirmedOccupancy (changeStatus s locked .cancelled) event.id := by
        refine occupancy_promote_other (fun x hx => ?_) ?_
        · obtain ⟨hx₀, hx₁, -⟩ := mem_of_mem_cancelPromotes hx
          exact ⟨hx₀, fun heq => hsame (heq.symm.trans hx₁)⟩
        · rw [hn]
          exact take_nodup _ host.id n
      refine (hfair hevent).frame (by omega) ?_
      intro r hr
      obtain ⟨⟨hr₀, hof, hwaiting⟩, -⟩ := waiting_of_promote hr
      rcases mem_changeStatus hr₀ with rfl | ⟨hold, -⟩
      · cases hwaiting
      · exact ⟨r, hold, hof, hwaiting⟩
  | attended _ _ _ _ hold hid hrow _ _ hseated hseated' =>
    refine (hfair hevent).put hold hid rfl ?_ ?_
    · simp [seat, takesSeat, hrow, hseated, hseated']
    · intro _ hwaiting
      rw [hwaiting] at hseated'
      cases hseated'

theorem queued_of_turn (h : Queued ops s) (hturn : Turn s op t) :
    Queued (ops ++ [op]) t where
  hosted := hosted_of_turn h hturn
  stamped := stamped_of_turn h hturn
  fair _ hevent hpublished hpolicy _ hnow hopen :=
    fair_of_turn h hturn hevent hpublished hpolicy hnow hopen

theorem Queued.more (h : Queued ops s) (op : Op) : Queued (ops ++ [op]) s where
  hosted := h.hosted
  stamped r hr := by
    rw [readings_append]
    exact mem_append_left _ (h.stamped r hr)
  fair event hevent hpublished hpolicy now hnow :=
    h.fair event hevent hpublished hpolicy now hnow.init

theorem queued_noEvents : Queued [] noEvents where
  hosted r hr := absurd hr (notMem_empty r)
  stamped r hr := absurd hr (notMem_empty r)
  fair event hevent := absurd hevent (notMem_empty event)

theorem queued_of_run (ops : List Op) : Queued ops (run step noEvents ops) :=
  run_history queued_noEvents (fun h _ hstep => queued_of_turn h (turn_of_step hstep))
    (fun h _ _ => h.more _) ops

variable {r row locked : Registration} {eventId : Nat}

def Promoted (t : State) (registration : Registration) : Prop :=
  ∃ row ∈ t.registrations, row.id = registration.id ∧ row.status = .registered

theorem promoted_promote_iff {selected : List Registration}
    (hselected : ∀ x ∈ selected, x ∈ s.registrations)
    (hnodup : (selected.map Registration.id).Nodup)
    (hr : r ∈ s.registrations) (hwaiting : r.status = .waitlisted) :
    Promoted (promote s selected) r ↔ r ∈ selected := by
  constructor
  · rintro ⟨row, hrow, hid, hregistered⟩
    rcases mem_promote hrow with ⟨x, hx, rfl⟩ | ⟨hold, -⟩
    · obtain rfl : x = r := eq_of_key_eq (hselected x hx) hr hid
      exact hx
    · obtain rfl : row = r := eq_of_key_eq hold hr hid
      exact nomatch hwaiting.symm.trans hregistered
  · intro hin
    exact ⟨r.promoted, promoted_mem_promote hselected hnodup hin, rfl, rfl⟩

theorem not_promoted_put (hr : r ∈ s.registrations) (hwaiting : r.status = .waitlisted)
    (hregistrations : t.registrations = s.registrations.put row)
    (hrow : row.id = r.id → row.status ≠ .registered) :
    ¬ Promoted t r := by
  rintro ⟨new, hnew, hid, hregistered⟩
  rw [hregistrations] at hnew
  rcases mem_of_mem_put hnew with rfl | ⟨hold, -⟩
  · exact hrow hid hregistered
  · obtain rfl : new = r := eq_of_key_eq hold hr hid
    exact nomatch hwaiting.symm.trans hregistered

theorem lockWaiters_changeStatus {status : Status} (hlocked : locked ∈ s.registrations)
    (hbefore : locked.status ≠ .waitlisted) (hafter : status ≠ .waitlisted) (eventId : Nat) :
    lockWaiters (changeStatus s locked status) eventId = lockWaiters s eventId := by
  have hmem : ∀ r, r ∈ lockWaiters (changeStatus s locked status) eventId ↔
      r ∈ lockWaiters s eventId := by
    intro r
    rw [mem_lockWaiters, mem_lockWaiters]
    constructor
    · rintro ⟨hr, hof, hwaiting⟩
      rcases mem_changeStatus hr with rfl | ⟨hold, -⟩
      · exact absurd hwaiting hafter
      · exact ⟨hold, hof, hwaiting⟩
    · rintro ⟨hr, hof, hwaiting⟩
      refine ⟨mem_put.mpr (.inl ⟨hr, ?_⟩), hof, hwaiting⟩
      intro hsame
      obtain rfl : r = locked := eq_of_key_eq hr hlocked hsame
      exact hbefore hwaiting
  have hperm : (lockWaiters (changeStatus s locked status) eventId).Perm (lockWaiters s eventId) :=
    (perm_ext_iff_of_nodup (lockWaiters_nodup _ eventId).of_map
      (lockWaiters_nodup s eventId).of_map).mpr hmem
  refine hperm.eq_of_pairwise ?_ (lockWaiters_sorted _ eventId) (lockWaiters_sorted s eventId)
  intro a b ha hb hab hba
  have hid : a.id = b.id := by
    simp only [Registration.precedes] at hab hba
    omega
  exact eq_of_key_eq (mem_lockWaiters.mp ((hmem a).mp ha)).1 (mem_lockWaiters.mp hb).1 hid

/-- The promoted waiters are the first ones of the waiting list. -/
def PromotesFirst (s t : State) (eventId : Nat) : Prop :=
  ∃ n, ∀ r, Waiting s eventId r → (Promoted t r ↔ r ∈ (lockWaiters s eventId).take n)

theorem promotesFirst_of_nobody (h : ∀ r, Waiting s eventId r → ¬ Promoted t r) :
    PromotesFirst s t eventId :=
  ⟨0, fun r hr => ⟨fun hpromoted => absurd hpromoted (h r hr),
    fun hin => absurd hin not_mem_nil⟩⟩

theorem promotesFirst_of_cancelled {host : Event}
    (hlocked : locked ∈ s.registrations) (eventId : Nat) (now : Int) :
    PromotesFirst s (promote (changeStatus s locked .cancelled)
      (cancelPromotes s host locked now)) eventId := by
  obtain ⟨n, hn⟩ := cancelPromotes_eq_take s host locked now
  have hselected : ∀ x ∈ cancelPromotes s host locked now,
      x ∈ (changeStatus s locked .cancelled).registrations := fun x hx =>
    (mem_of_mem_cancelPromotes hx).1
  have hnodup : ((cancelPromotes s host locked now).map Registration.id).Nodup := by
    rw [hn]
    exact take_nodup _ host.id n
  -- the cancelled row is not promoted, every other row stays until the promotion
  have hiff : ∀ r, Waiting s eventId r →
      (Promoted (promote (changeStatus s locked .cancelled) (cancelPromotes s host locked now)) r ↔
        r ∈ cancelPromotes s host locked now) := by
    intro r hr
    by_cases hself : r.id = locked.id
    · constructor
      · rintro ⟨row, hrow, hid, hregistered⟩
        have hgone : locked.movedTo .cancelled ∈
            (changeStatus s locked .cancelled).registrations :=
          mem_put.mpr (.inr ⟨rfl, locked, hlocked, rfl⟩)
        rcases mem_promote hrow with ⟨x, hx, rfl⟩ | ⟨hold, -⟩
        · obtain rfl : x = locked.movedTo .cancelled :=
            eq_of_key_eq (hselected x hx) hgone (hid.trans hself)
          exact nomatch (mem_of_mem_cancelPromotes hx).2.2
        · obtain rfl : row = locked.movedTo .cancelled := eq_of_key_eq hold hgone (hid.trans hself)
          cases hregistered
      · intro hin
        rcases mem_changeStatus (hselected r hin) with rfl | ⟨-, hne⟩
        · exact nomatch (mem_of_mem_cancelPromotes hin).2.2
        · exact absurd hself hne
    · exact promoted_promote_iff hselected hnodup (mem_put.mpr (.inl ⟨hr.1, hself⟩)) hr.2.2
  by_cases hhost : host.id = eventId
  · by_cases hseated : locked.status = .registered
    · have hlist : lockWaiters (changeStatus s locked .cancelled) host.id =
          lockWaiters s host.id :=
        lockWaiters_changeStatus hlocked (by rw [hseated]; decide) (by decide) host.id
      rw [hn, hlist, hhost] at hiff
      refine ⟨n, ?_⟩
      rw [hn, hlist, hhost]
      exact hiff
    · have hnone : cancelPromotes s host locked now = [] := if_neg fun hall => hseated hall.1.1
      refine promotesFirst_of_nobody fun r hr hpromoted => ?_
      have hin := (hiff r hr).mp hpromoted
      rw [hnone] at hin
      exact absurd hin not_mem_nil
  · refine promotesFirst_of_nobody fun r hr hpromoted => hhost ?_
    exact (mem_of_mem_cancelPromotes ((hiff r hr).mp hpromoted)).2.1.symm.trans hr.2.1

theorem promotesFirst_of_turn
    {op : Op} (hturn : Turn s op t) {event : Event} (hevent : event ∈ s.events)
    (hpolicy : event.registrationRequiresApproval = false) :
    PromotesFirst s t event.id := by
  have hkept : t.registrations = s.registrations → PromotesFirst s t event.id := by
    intro hsame
    refine promotesFirst_of_nobody ?_
    rintro r ⟨hr, -, hwaiting⟩ ⟨row, hrow, hid, hregistered⟩
    obtain rfl : row = r := eq_of_key_eq (hsame ▸ hrow) hr hid
    exact nomatch hwaiting.symm.trans hregistered
  cases hturn with
  | created | moved => exact hkept rfl
  | @edited _ _ reading _ _ _ saved =>
    have hselected : ∀ x ∈ editPromotes s saved reading, x ∈ s.registrations :=
      fun x hx => (mem_of_mem_editPromotes hx).1
    obtain ⟨n, hn⟩ := editPromotes_eq_take s saved reading
    have hnodup : ((editPromotes s saved reading).map Registration.id).Nodup := by
      rw [hn]
      exact take_nodup s saved.id n
    have hiff : ∀ r, Waiting s event.id r →
        (Promoted (promote s (editPromotes s saved reading)) r ↔
          r ∈ editPromotes s saved reading) := fun r hr =>
      promoted_promote_iff hselected hnodup hr.1 hr.2.2
    by_cases hsame : saved.id = event.id
    · rw [hn, hsame] at hiff
      exact ⟨n, by rw [hn, hsame]; exact hiff⟩
    · refine promotesFirst_of_nobody fun r hr hpromoted => hsame ?_
      exact (mem_of_mem_editPromotes ((hiff r hr).mp hpromoted)).2.1.symm.trans hr.2.1
  | registered _ _ hnew =>
    refine promotesFirst_of_nobody ?_
    rintro r ⟨hr, -, hwaiting⟩ ⟨new, hnew', hid', hregistered⟩
    rcases (mem_insert hnew).mp hnew' with hold | rfl
    · obtain rfl : new = r := eq_of_key_eq hold hr hid'
      exact nomatch hwaiting.symm.trans hregistered
    · exact absurd hid'.symm (get?_eq_none.mp hnew r hr)
  | reactivated host old row hexisting hold hcancelled hid hmem hid' hopened hsame hrow hcreated
      hfresh =>
    refine promotesFirst_of_nobody fun r hr => not_promoted_put hr.1 hr.2.2 rfl fun heq => ?_
    obtain rfl : old = r := eq_of_key_eq hold hr.1 (hid.symm.trans heq)
    exact nomatch hcancelled.symm.trans hr.2.2
  | decided host old _ _ hmem hold hsame hid _ _ _ _ _ hnew =>
    refine promotesFirst_of_nobody fun r hr => not_promoted_put hr.1 hr.2.2 rfl fun heq => ?_
    obtain rfl : old = r := eq_of_key_eq hold hr.1 (hid.symm.trans heq)
    obtain rfl : event = host := eq_of_key_eq hevent hmem (hr.2.1.symm.trans hsame)
    rw [hnew.resolve_right (by rw [hpolicy]; exact Bool.false_ne_true)]
    decide
  | @cancelled _ _ reading _ _ _ _ hlocked =>
    exact promotesFirst_of_cancelled hlocked event.id reading
  | attended old _ _ _ hold hid _ _ _ hseated =>
    refine promotesFirst_of_nobody fun r hr => not_promoted_put hr.1 hr.2.2 rfl fun heq => ?_
    obtain rfl : old = r := eq_of_key_eq hold hr.1 (hid.symm.trans heq)
    rw [hr.2.2] at hseated
    cases hseated

theorem lockWaiters_joined (hrows : ∀ r, Waiting t eventId r ↔ Waiting s eventId r ∨ r = row)
    (hbehind : ∀ r, Waiting s eventId r → r.createdAt < row.createdAt) :
    lockWaiters t eventId = lockWaiters s eventId ++ [row] := by
  have hmem : ∀ r, r ∈ lockWaiters t eventId ↔ r ∈ lockWaiters s eventId ++ [row] := by
    intro r
    rw [mem_append, mem_singleton, mem_lockWaiters, mem_lockWaiters, hrows r]
  have hnodup : (lockWaiters s eventId ++ [row]).Nodup := by
    refine nodup_append'.mpr ⟨(lockWaiters_nodup s eventId).of_map, by simp, ?_⟩
    rw [disjoint_singleton]
    exact fun hin => absurd (hbehind row (mem_lockWaiters.mp hin)) (lt_irrefl _)
  have hsorted : (lockWaiters s eventId ++ [row]).Pairwise Registration.precedes := by
    refine pairwise_append.mpr ⟨lockWaiters_sorted s eventId, by simp, ?_⟩
    intro a ha b hb
    obtain rfl := mem_singleton.mp hb
    exact .inl (hbehind a (mem_lockWaiters.mp ha))
  have hperm : (lockWaiters t eventId).Perm (lockWaiters s eventId ++ [row]) :=
    (perm_ext_iff_of_nodup (lockWaiters_nodup t eventId).of_map hnodup).mpr hmem
  refine hperm.eq_of_pairwise ?_ (lockWaiters_sorted t eventId) hsorted
  intro a b ha hb hab hba
  have hid : a.id = b.id := by
    simp only [Registration.precedes] at hab hba
    omega
  exact eq_of_key_eq (mem_lockWaiters.mp ha).1 (mem_lockWaiters.mp ((hmem b).mpr hb)).1 hid

theorem joins_last {ops : List Op} (h : Queued ops s) {request : RegisterRequest} {now : Int}
    (hturn : Turn s (.register request now) t) (hafter : After ops request.eventId now)
    (hwaits : Waiting t request.eventId row) (hnew : ¬ Waiting s request.eventId row) :
    lockWaiters t request.eventId = lockWaiters s request.eventId ++ [row] := by
  have hbehind : ∀ r, Waiting s request.eventId r → r.createdAt < now := by
    rintro r ⟨hr, hof, -⟩
    exact hafter _ (h.stamped r hr) hof
  cases hturn with
  | moved _ _ hop | decided _ _ _ hop => exact absurd rfl (hop request now)
  | attended _ _ _ hop => cases hop
  | registered _ joined habsent _ _ _ _ hcreated =>
    obtain rfl : row = joined := by
      rcases (mem_insert habsent).mp hwaits.1 with hold | heq
      · exact absurd ⟨hold, hwaits.2⟩ hnew
      · exact heq
    refine lockWaiters_joined (fun r => ?_) (by rw [hcreated]; exact hbehind)
    constructor
    · rintro ⟨hr, hrest⟩
      exact ((mem_insert habsent).mp hr).imp_left fun hold => ⟨hold, hrest⟩
    · rintro (⟨hr, hrest⟩ | rfl)
      · exact ⟨(mem_insert habsent).mpr (.inl hr), hrest⟩
      · exact hwaits
  | reactivated event old joined hexisting hold hcancelled hid hmem hevent hopen hsame hrow
      hcreated hfresh =>
    obtain rfl : row = joined := by
      rcases mem_of_mem_put hwaits.1 with heq | ⟨hmem', -⟩
      · exact heq
      · exact absurd ⟨hmem', hwaits.2⟩ hnew
    refine lockWaiters_joined (fun r => ?_) (by rw [hcreated]; exact hbehind)
    constructor
    · rintro ⟨hr, hrest⟩
      rcases mem_of_mem_put hr with rfl | ⟨hmem', -⟩
      · exact .inr rfl
      · exact .inl ⟨hmem', hrest⟩
    · rintro (⟨hr, hrest⟩ | rfl)
      · refine ⟨mem_put.mpr (.inl ⟨hr, fun heq => ?_⟩), hrest⟩
        obtain rfl : r = old := eq_of_key_eq hr hold (heq.trans hid)
        exact nomatch hcancelled.symm.trans hrest.2
      · exact hwaits

theorem waitlist_of_run (ops : List Op) :
    (∀ event ∈ (run step noEvents ops).events, event.status = .published →
      event.registrationRequiresApproval = false →
      ∀ now, NotBefore ops event.id now → now ≤ event.endsAt →
      (∃ r, Waiting (run step noEvents ops) event.id r) →
      hasSpot (run step noEvents ops) event = false) ∧
    (∀ op t, step (run step noEvents ops) op = .ok t →
      ∀ event ∈ (run step noEvents ops).events, event.registrationRequiresApproval = false →
      PromotesFirst (run step noEvents ops) t event.id) ∧
    (∀ request now t, After ops request.eventId now →
      step (run step noEvents ops) (.register request now) = .ok t →
      ∀ row, Waiting t request.eventId row → ¬ Waiting (run step noEvents ops) request.eventId row →
      lockWaiters t request.eventId =
        lockWaiters (run step noEvents ops) request.eventId ++ [row]) := by
  have h := queued_of_run ops
  refine ⟨h.fair, fun op t hstep event hevent hpolicy => ?_, fun request now t hafter hstep => ?_⟩
  · exact promotesFirst_of_turn (turn_of_step hstep) hevent hpolicy
  · exact fun row hwaits hnew => joins_last h (turn_of_step hstep) hafter hwaits hnew

def crowdedLecture : List Op :=
  [.createEvent
      { id := 1, makerspaceId := 1, startsAt := 100, endsAt := 200, capacity := 1,
        isPublic := true } (.ok ()),
    .publish 1 10 (.ok ()),
    .register (visitor 1 "a@example.org") 20,
    .register (visitor 2 "b@example.org") 21,
    .register (visitor 3 "c@example.org") 22,
    .cancel 1 1 30]

/-- The second takes the seat, the third waits, the first stands last. -/
theorem waitlist_of_crowdedLecture :
    (lockWaiters (run step noEvents crowdedLecture) 1).map Registration.id = [3] ∧
      (∃ row, row.id = 1 ∧
        lockWaiters (run step noEvents
          (crowdedLecture ++ [.register (visitor 4 "a@example.org") 40])) 1 =
            lockWaiters (run step noEvents crowdedLecture) 1 ++ [row]) ∧
      ∀ event ∈ (run step noEvents crowdedLecture).events, event.status = .published →
        event.registrationRequiresApproval = false → 30 ≤ event.endsAt →
        hasSpot (run step noEvents crowdedLecture) event = false := by
  refine ⟨by decide +kernel, ?_, fun event hevent hpublished hpolicy hopen => ?_⟩
  · obtain ⟨row, hid, hwaits, hnew⟩ : ∃ row, row.id = 1 ∧
        Waiting (run step noEvents
          (crowdedLecture ++ [.register (visitor 4 "a@example.org") 40])) 1 row ∧
        ¬ Waiting (run step noEvents crowdedLecture) 1 row := by
      refine ⟨(lockWaiters (run step noEvents
        (crowdedLecture ++ [.register (visitor 4 "a@example.org") 40])) 1).getLast (by decide +kernel),
        by decide +kernel, mem_lockWaiters.mp (by decide +kernel), fun h => ?_⟩
      exact absurd (mem_lockWaiters.mpr h) (by decide +kernel)
    exact ⟨row, hid, (waitlist_of_run crowdedLecture).2.2 (visitor 4 "a@example.org") 40 _
      (by decide +kernel) (by rfl) row hwaits hnew⟩
  · have hid : event.id = 1 := by
      revert event
      decide +kernel
    have hsome : ∃ r, r ∈ lockWaiters (run step noEvents crowdedLecture) 1 :=
      exists_mem_of_ne_nil _ (by decide +kernel)
    refine (waitlist_of_run crowdedLecture).1 event hevent hpublished hpolicy 30 ?_ hopen ?_
    · rw [hid]
      decide +kernel
    · rw [hid]
      exact hsome.imp fun r hr => mem_lockWaiters.mp hr

end Events
end SpaceWorks
