import SpaceWorks.Events.Model

/-!
# The seats of an event

No more registrations take a seat than a positive capacity allows.
-/

namespace SpaceWorks
namespace Events

open Checked TransactionalSystem Table List Option

section

variable {s : State}
  {eventId : Nat} {registration old new r : Registration} {t : State} {event : Event}
  {row : Registration} {selected : List Registration}

def seat (eventId : Nat) (registration : Registration) : Nat :=
  if takesSeat eventId registration then 1 else 0

theorem seat_le_one (eventId : Nat) (registration : Registration) :
    seat eventId registration ≤ 1 := by
  unfold seat
  split <;> omega

theorem seat_eq_zero_of_ne (h : registration.eventId ≠ eventId) :
    seat eventId registration = 0 := by
  simp [seat, takesSeat, h]

theorem seat_eq_zero_of_not_confirmed (h : registration.status.confirmed = false) :
    seat eventId registration = 0 := by
  simp [seat, takesSeat, h]

theorem seat_mono (hevent : new.eventId = old.eventId)
    (hseat : new.status.confirmed → old.status.confirmed) (eventId : Nat) :
    seat eventId new ≤ seat eventId old := by
  by_cases hnew : new.status.confirmed = true
  · simp [seat, takesSeat, hevent, hnew, hseat hnew]
  · rw [seat_eq_zero_of_not_confirmed (by simpa using hnew)]
    exact Nat.zero_le _

theorem confirmedOccupancy_eq_sum (s : State) (eventId : Nat) :
    confirmedOccupancy s eventId = s.registrations.sum (seat eventId) := by
  unfold confirmedOccupancy Table.sum seat
  induction s.registrations.rows with
  | nil => rfl
  | cons _ _ ih =>
    rw [countP_cons, map_cons, sum_cons, ih]
    omega

/-- A write changes the occupancy by the difference of two seats. -/
theorem occupancy_put (hold : old ∈ s.registrations) (hid : new.id = old.id)
    (ht : t.registrations = s.registrations.put new) (eventId : Nat) :
    confirmedOccupancy t eventId + seat eventId old =
      confirmedOccupancy s eventId + seat eventId new := by
  have hget : s.registrations.get? (key new) = some old := by
    rw [key_registration, hid]
    exact get?_key hold
  rw [confirmedOccupancy_eq_sum, confirmedOccupancy_eq_sum, ht]
  exact sum_put hget (seat eventId)

theorem occupancy_put_le (ht : t.registrations = s.registrations.put new) (eventId : Nat) :
    confirmedOccupancy t eventId ≤ confirmedOccupancy s eventId + seat eventId new := by
  cases hget : s.registrations.get? (key new) with
  | some =>
    have hcount := occupancy_put (mem_of_get? hget) (key_of_get? hget).symm ht eventId
    omega
  | none =>
    -- no row has the key, so nothing is written
    have hkeep : confirmedOccupancy t eventId = confirmedOccupancy s eventId := by
      rw [confirmedOccupancy_eq_sum, confirmedOccupancy_eq_sum, ht]
      exact sum_put_of_eq fun old hold hkey =>
        absurd hkey (get?_eq_none.mp hget old hold)
    omega

theorem occupancy_insert (hnew : s.registrations.get? (key row) = none)
    (ht : t.registrations = s.registrations.insert row hnew) (eventId : Nat) :
    confirmedOccupancy t eventId = confirmedOccupancy s eventId + seat eventId row := by
  rw [confirmedOccupancy_eq_sum, confirmedOccupancy_eq_sum, ht, sum_insert]

@[simp] theorem promote_nil (s : State) : promote s [] = s := rfl

@[simp] theorem promote_cons (s : State) (r : Registration) (rs : List Registration) :
    promote s (r :: rs) = promote (changeStatus s r .registered) rs := rfl

@[simp] theorem promote_events (s : State) (selected : List Registration) :
    (promote s selected).events = s.events := by
  induction selected generalizing s with
  | nil => rfl
  | cons _ _ ih => rw [promote_cons, ih]; rfl

/-- Promotion takes at most one seat for each selected row of the event. -/
theorem occupancy_promote_le
    (hselected : ∀ r ∈ selected, r.eventId = eventId) (s : State) (other : Nat) :
    confirmedOccupancy (promote s selected) other ≤
      confirmedOccupancy s other + if other = eventId then selected.length else 0 := by
  induction selected generalizing s with
  | nil => simp
  | cons r _ ih =>
    rw [promote_cons]
    have hrest := ih (fun x hx => hselected x (by simp [hx])) (changeStatus s r .registered)
    let promoted : Registration :=
      { r with status := .registered, calendarSequence := r.calendarSequence + 1 }
    have hone : confirmedOccupancy (changeStatus s r .registered) other ≤
        confirmedOccupancy s other + seat other promoted :=
      occupancy_put_le rfl other
    have hseat := seat_le_one other promoted
    by_cases hother : other = eventId
    · simp only [hother, ↓reduceIte, length_cons] at hrest hone hseat ⊢
      omega
    · have hzero : seat other promoted = 0 :=
        seat_eq_zero_of_ne (by simpa [promoted, hselected r (by simp)] using Ne.symm hother)
      simp only [hother, ↓reduceIte] at hrest ⊢
      omega

theorem hasSpot_iff :
    hasSpot s event ↔
      event.capacity = 0 ∨ confirmedOccupancy s event.id < event.capacity := by
  unfold hasSpot spotsLeft
  by_cases hcap : event.capacity = 0
  · simp [hcap]
  · simp only [hcap, ↓reduceIte, false_or, decide_eq_true_eq]
    omega

theorem eventId_of_mem_registrationsOf (h : r ∈ registrationsOf s eventId) :
    r ∈ s.registrations ∧ r.eventId = eventId := by
  rw [registrationsOf, mem_insertionSort, mem_filter] at h
  exact ⟨h.1, by simpa using h.2⟩

theorem eventId_of_mem_lockWaiters (h : r ∈ lockWaiters s eventId) :
    r.eventId = eventId :=
  (eventId_of_mem_registrationsOf (mem_of_mem_filter h)).2

theorem mem_of_mem_selectWaiters {waiters : List Registration} {count : Option Nat}
    (h : r ∈ selectWaiters waiters count) :
    r ∈ waiters := by
  cases count with
  | none => exact h
  | some => exact mem_of_mem_take h

theorem length_selectWaiters_le (waiters : List Registration) (n : Nat) :
    (selectWaiters waiters (some n)).length ≤ n := by
  simp [selectWaiters]

theorem promoteAutomatically_eq (s : State) (event : Event) (count : Option Nat) :
    ∃ selected : List Registration, promoteAutomatically s event count = promote s selected ∧
        (∀ r ∈ selected, r.eventId = event.id) ∧
        ∀ n, count = some n → selected.length ≤ n := by
  unfold promoteAutomatically
  split
  · exact ⟨[], rfl, by simp, by simp⟩
  · refine ⟨_, rfl, fun r hr => eventId_of_mem_lockWaiters (mem_of_mem_selectWaiters hr), ?_⟩
    rintro n rfl
    exact length_selectWaiters_le _ n

theorem mem_existingRegistration {member : Option Member} {pii : PiiSettings} {email : String}
    {existing : Registration} (h : existingRegistration s event member pii email = some existing) :
    existing ∈ s.registrations ∧ existing.eventId = event.id := by
  refine eventId_of_mem_registrationsOf ?_
  rcases or_eq_some_iff.mp h with hmember | ⟨-, hemail⟩
  · obtain ⟨_, -, hfind⟩ := bind_eq_some_iff.mp hmember
    exact mem_of_find?_eq_some hfind
  · unfold existingByEmail at hemail
    split at hemail
    · rcases or_eq_some_iff.mp hemail with hlegacy | ⟨-, hhash⟩
      · exact mem_of_find?_eq_some hlegacy
      · exact mem_of_find?_eq_some hhash
    · exact mem_of_find?_eq_some hemail

variable {s s' : State} {eventId registrationId : Nat} {locked : Registration}
variable {gate : Except String Unit} {now : Int}

inductive Effect (s : State) : State → Prop
  | eventCreated (event : Event)
      (hnew : s.events.get? (key event) = none) :
      Effect s { s with events := s.events.insert event hnew }
  | eventMoved (event : Event) (status : EventStatus)
      (hmem : event ∈ s.events) :
      Effect s { s with events := s.events.put (event.moveTo status) }
  | eventEdited (old saved : Event) (selected : List Registration) (hmem : old ∈ s.events)
      (hid : saved.id = old.id)
      (hselected : ∀ r ∈ selected, r.eventId = old.id)
      (hfits : saved.capacity = 0 ∨
        confirmedOccupancy s old.id + selected.length ≤ saved.capacity) :
      Effect s { promote s selected with events := s.events.put saved }
  | registered (event : Event) (row : Registration) (hnew : s.registrations.get? (key row) = none)
      (hmem : event ∈ s.events)
      (hevent : row.eventId = event.id)
      (hspot : row.status.confirmed → hasSpot s event) :
      Effect s { s with registrations := s.registrations.insert row hnew }
  | rewritten (event : Event) (old new : Registration) (checkIns : Table CheckIn)
      (hmem : event ∈ s.events)
      (hold : old ∈ s.registrations)
      (hid : new.id = old.id)
      (hevent : old.eventId = event.id)
      (hkeep : new.eventId = old.eventId)
      (hspot : new.status.confirmed → old.status.confirmed ∨ hasSpot s event) :
      Effect s { s with registrations := s.registrations.put new, checkIns := checkIns }
  | handedOn (event : Event) (old : Registration) (selected : List Registration)
      (hmem : event ∈ s.events)
      (hold : old ∈ s.registrations)
      (hevent : old.eventId = event.id)
      (hseated : old.status = .registered)
      (hselected : ∀ r ∈ selected, r.eventId = event.id)
      (hone : selected.length ≤ 1) :
      Effect s (promote (changeStatus s old .cancelled) selected)

theorem lockedEvent_ok :
    lockedEvent s eventId = .ok event ↔ s.events.get? eventId = some event := by
  simp [lockedEvent]

theorem lockRegistration_ok (h : lockRegistration s registrationId eventId = .ok (event, locked)) :
    event ∈ s.events ∧ locked ∈ s.registrations ∧ locked.eventId = event.id := by
  simp only [lockRegistration, bind_ok, lockedEvent_ok, orRefuse_ok,
    require_ok, pure_ok, Prod.mk.injEq] at h
  obtain ⟨_, he, _, hr, _, hbelongs, rfl, rfl⟩ := h
  exact ⟨mem_of_get? he, mem_of_get? hr, hbelongs⟩

theorem changeStatus_effect {status : Status}
    (hlocked : event ∈ s.events ∧ locked ∈ s.registrations ∧ locked.eventId = event.id)
    (hspot : status.confirmed → locked.status.confirmed ∨ hasSpot s event) :
    Effect s (changeStatus s locked status) :=
  .rewritten event locked _ s.checkIns hlocked.1 hlocked.2.1 rfl hlocked.2.2 rfl hspot

theorem createEvent_effect (h : createEvent s event gate = .ok s') :
    Effect s s' := by
  simp only [createEvent, bind_ok, insertNew_ok, pure_ok] at h
  obtain ⟨-, -, -, -, _, ⟨hnew, rfl⟩, rfl⟩ := h
  exact .eventCreated event hnew

theorem updateEvent_effect {changes : EventChanges} {quota : Except String Unit}
    (h : updateEvent s eventId changes now gate quota = .ok s') :
    Effect s s' := by
  simp only [updateEvent, bind_ok, lockedEvent_ok, require_ok, pure_ok] at h
  obtain ⟨old, hold, -, -, -, -, -, -, -, -, -, hcapacity, -, -, rfl⟩ := h
  have hmem : old ∈ s.events := mem_of_get? hold
  have hlockedId : (changes.apply old).id = old.id := rfl
  -- the waiters that the update promotes, and the room that it has for them
  obtain ⟨selected, hpromoted, hselected, hfits⟩ : ∃ selected : List Registration,
      (if mayPromote (changes.apply old) now ∧ ((changes.apply old).capacity = 0 ∨
          confirmedOccupancy s old.id < (changes.apply old).capacity) then
        promoteAutomatically s (changes.apply old)
          (updatePromotionCount (changes.apply old) (confirmedOccupancy s old.id))
      else s) = promote s selected ∧
      (∀ r ∈ selected, r.eventId = old.id) ∧
      ((changes.apply old).capacity = 0 ∨
        confirmedOccupancy s old.id + selected.length ≤ (changes.apply old).capacity) := by
    split
    case isTrue hroom =>
      obtain ⟨selected, heq, hof, hlength⟩ := promoteAutomatically_eq s (changes.apply old)
          (updatePromotionCount (changes.apply old) (confirmedOccupancy s old.id))
      refine ⟨selected, heq, hof, ?_⟩
      by_cases hcap : (changes.apply old).capacity = 0
      · exact .inl hcap
      · have hcount := hlength ((changes.apply old).capacity - confirmedOccupancy s old.id)
          (by simp [updatePromotionCount, hcap])
        omega
    case isFalse =>
      refine ⟨[], rfl, by simp, ?_⟩
      rw [hlockedId] at hcapacity
      simp only [length_nil]
      omega
  rw [hlockedId, hpromoted, promote_events]
  exact .eventEdited old _ selected hmem (by split <;> rfl) hselected (by split <;> exact hfits)

theorem publish_effect (h : publish s eventId now gate = .ok s') :
    Effect s s' := by
  simp [publish, lockedEvent_ok] at h
  obtain ⟨locked, hlocked, -, -, -, -, -, -, -, -, rfl⟩ := h
  exact .eventMoved locked .published (mem_of_get? hlocked)

theorem transition_effect {newStatus : EventStatus} (h : transition s eventId newStatus = .ok s') :
    Effect s s' := by
  simp [transition, lockedEvent_ok] at h
  obtain ⟨locked, hlocked, -, -, rfl⟩ := h
  exact .eventMoved locked newStatus (mem_of_get? hlocked)

theorem hasSpot_of_fresh_confirmed (h : (freshRegistrationStatus s event).confirmed) :
    hasSpot s event := by
  unfold freshRegistrationStatus at h
  split at h
  · cases h
  · split at h
    case isTrue hspot => exact hspot
    case isFalse => cases h

theorem register_effect {request : RegisterRequest} (h : register s request now = .ok s') :
    Effect s s' := by
  simp only [register, bind_ok, lockedEvent_ok] at h
  obtain ⟨event, hevent, -, -, -, -, -, -, h⟩ := h
  have hmem : event ∈ s.events := mem_of_get? hevent
  split at h
  case h_1 existing hexisting =>
    obtain ⟨hold, hof⟩ := mem_existingRegistration hexisting
    simp [reactivate] at h
    obtain ⟨-, -, -, -, -, -, rfl⟩ := h
    exact .rewritten event existing _ s.checkIns hmem hold rfl hof rfl
      fun hconfirmed => .inr (hasSpot_of_fresh_confirmed hconfirmed)
  case h_2 =>
    simp only [insertRegistration, bind_ok, insertNew_ok, pure_ok] at h
    obtain ⟨-, -, -, -, _, ⟨hnew, rfl⟩, rfl⟩ := h
    exact .registered event _ hnew hmem rfl hasSpot_of_fresh_confirmed

theorem approveRegistration_effect (h : approveRegistration s registrationId eventId now = .ok s') :
    Effect s s' := by
  simp only [approveRegistration, bind_ok, pure_ok] at h
  obtain ⟨⟨event, _⟩, hlock, -, -, rfl⟩ := h
  refine changeStatus_effect (lockRegistration_ok hlock) fun hconfirmed => .inr ?_
  by_cases hspot : hasSpot s event
  · exact hspot
  · simp [hspot, Status.confirmed] at hconfirmed

theorem rejectRegistration_effect (h : rejectRegistration s registrationId eventId = .ok s') :
    Effect s s' := by
  simp only [rejectRegistration, bind_ok, pure_ok] at h
  obtain ⟨⟨_, _⟩, hlock, -, -, rfl⟩ := h
  exact changeStatus_effect (lockRegistration_ok hlock) fun hspot => by cases hspot

theorem promoteRegistration_effect (h : promoteRegistration s registrationId eventId now = .ok s') :
    Effect s s' := by
  simp only [promoteRegistration, bind_ok, require_ok, pure_ok] at h
  obtain ⟨⟨_, _⟩, hlock, -, -, _, hspot, rfl⟩ := h
  exact changeStatus_effect (lockRegistration_ok hlock) fun _ => .inr hspot

theorem cancelRegistration_effect (h : cancelRegistration s registrationId eventId now = .ok s') :
    Effect s s' := by
  simp only [cancelRegistration, bind_ok] at h
  obtain ⟨⟨event, locked⟩, hlock, -, -, h⟩ := h
  have hlocked := lockRegistration_ok hlock
  split at h
  case isTrue hhand =>
    rw [pure_ok] at h
    subst h
    obtain ⟨selected, heq, hselected, hlength⟩ :=
      promoteAutomatically_eq (changeStatus s locked .cancelled) event (some 1)
    rw [heq]
    exact .handedOn event locked selected hlocked.1 hlocked.2.1 hlocked.2.2 hhand.1
      hselected (hlength 1 rfl)
  case isFalse =>
    rw [pure_ok] at h
    subst h
    exact changeStatus_effect hlocked fun hspot => by cases hspot

theorem correctAttendance_effect (h : correctAttendance s registrationId eventId = .ok s') :
    Effect s s' := by
  simp only [correctAttendance, bind_ok, require_ok, pure_ok] at h
  obtain ⟨⟨event, locked⟩, hlock, _, hattended, -, -, rfl⟩ := h
  obtain ⟨hmem, hold, hof⟩ := lockRegistration_ok hlock
  exact .rewritten event locked _ s.checkIns hmem hold rfl hof rfl
    fun _ => .inl (by rw [hattended]; rfl)

theorem markAttended_effect {operationId : Nat} {attendedAt : Int}
    (h : markAttended s registrationId eventId operationId attendedAt gate = .ok s') :
    Effect s s' := by
  simp only [markAttended, bind_ok, require_ok, pure_ok] at h
  obtain ⟨_, -, -, -, -, -, ⟨event, locked⟩, hlock, _, hregistered, checkIns, -, rfl⟩ := h
  obtain ⟨hmem, hold, hof⟩ := lockRegistration_ok hlock
  exact .rewritten event locked _ checkIns hmem hold rfl hof rfl
    fun _ => .inl (by rw [hregistered.1]; rfl)

/-- The inversion lemma of the event services. -/
theorem step_effect {op : Op} (h : step s op = .ok s') :
    Effect s s' := by
  cases op with
  | createEvent => exact createEvent_effect h
  | updateEvent => exact updateEvent_effect h
  | publish => exact publish_effect h
  | cancelEvent | completeEvent => exact transition_effect h
  | register => exact register_effect h
  | approve => exact approveRegistration_effect h
  | reject => exact rejectRegistration_effect h
  | promote => exact promoteRegistration_effect h
  | cancel => exact cancelRegistration_effect h
  | correctAttendance => exact correctAttendance_effect h
  | markAttended =>
    exact markAttended_effect h

/-- Registrations have events, and occupancy stays within capacity. -/
structure Seated (s : State) : Prop where
  event_of_registration : ∀ r ∈ s.registrations, ∃ event ∈ s.events, event.id = r.eventId
  occupancy_le : ∀ event ∈ s.events, 0 < event.capacity →
      confirmedOccupancy s event.id ≤ event.capacity

theorem event_of_put {old saved : Event} {eventId : Nat} (hmem : old ∈ s.events)
    (hid : saved.id = old.id) (h : ∃ event ∈ s.events, event.id = eventId) :
    ∃ event ∈ s.events.put saved, event.id = eventId := by
  obtain ⟨event, hevent, rfl⟩ := h
  by_cases hsame : event.id = old.id
  · refine ⟨saved, mem_put.mpr (.inr ⟨rfl, old, hmem, ?_⟩), ?_⟩
    · simp [hid]
    · rw [hid, hsame]
  · exact ⟨event, mem_put.mpr (.inl ⟨hevent, by simpa [hid] using hsame⟩), rfl⟩

theorem event_of_mem_promote {events : Table Event} {event : Event}
    (hmem : event ∈ events) (hselected : ∀ r ∈ selected, r.eventId = event.id)
    (hs : ∀ r ∈ s.registrations, ∃ e ∈ events, e.id = r.eventId) :
    ∀ r ∈ (promote s selected).registrations, ∃ e ∈ events, e.id = r.eventId := by
  induction selected generalizing s with
  | nil => exact hs
  | cons x _ ih =>
    refine ih (fun r hr => hselected r (by simp [hr])) fun r hr => ?_
    rcases mem_of_mem_put hr with rfl | ⟨hold, -⟩
    · exact ⟨event, hmem, (hselected x (by simp)).symm⟩
    · exact hs r hold

theorem spot_bound {event e : Event} (hs : Seated s) (hmem : event ∈ s.events)
    (hevent : row.eventId = event.id) (he : e ∈ s.events) (hcap : 0 < e.capacity)
    (hspot : row.status.confirmed → hasSpot s event) :
    confirmedOccupancy s e.id + seat e.id row ≤ e.capacity := by
  have hle := hs.occupancy_le e he hcap
  by_cases hnew : row.status.confirmed = true
  · by_cases hsame : e.id = event.id
    · obtain rfl : e = event := eq_of_key_eq he hmem hsame
      have hseat := seat_le_one e.id row
      have hfree := hasSpot_iff.mp (hspot hnew)
      omega
    · rw [seat_eq_zero_of_ne (by rw [hevent]; exact Ne.symm hsame)]
      exact hle
  · rw [seat_eq_zero_of_not_confirmed (by simpa using hnew)]
    exact hle

theorem seated_of_effect (h : Effect s s') (hs : Seated s) :
    Seated s' := by
  cases h with
  | eventCreated event hnew =>
    -- nothing is registered for the new event yet
    have hfree : confirmedOccupancy s event.id = 0 := by
      rw [confirmedOccupancy_eq_sum]
      refine sum_eq_zero fun r hr => seat_eq_zero_of_ne ?_
      obtain ⟨host, hhost, hid⟩ := hs.event_of_registration r hr
      exact hid ▸ get?_eq_none.mp hnew host hhost
    refine ⟨fun r hr => ?_, fun e he hcap => ?_⟩
    · obtain ⟨host, hhost, hid⟩ := hs.event_of_registration r hr
      exact ⟨host, (mem_insert hnew).mpr (.inl hhost), hid⟩
    · rcases (mem_insert hnew).mp he with hold | rfl
      · exact hs.occupancy_le e hold hcap
      · exact hfree ▸ Nat.zero_le _
  | eventMoved event _ hmem =>
    refine ⟨fun r hr => ?_, fun e he hcap => ?_⟩
    · exact event_of_put hmem rfl (hs.event_of_registration r hr)
    · rcases mem_of_mem_put he with rfl | ⟨hold, -⟩
      · exact hs.occupancy_le event hmem hcap
      · exact hs.occupancy_le e hold hcap
  | eventEdited old _ selected hmem hid hselected =>
    have hcount : ∀ e, confirmedOccupancy (promote s selected) e ≤
        confirmedOccupancy s e + if e = old.id then selected.length else 0 :=
      occupancy_promote_le hselected s
    refine ⟨fun r hr => ?_, fun e he hcap => ?_⟩
    · exact event_of_put hmem hid
        (event_of_mem_promote hmem hselected hs.event_of_registration r hr)
    · have hbound := hcount e.id
      change confirmedOccupancy (promote s selected) e.id ≤ e.capacity
      rcases mem_of_mem_put he with rfl | ⟨hold, hne⟩
      · rw [if_pos hid, hid] at hbound
        rw [hid]
        omega
      · have hother : e.id ≠ old.id := by simpa [hid] using hne
        rw [if_neg hother] at hbound
        have hle := hs.occupancy_le e hold hcap
        omega
  | registered event _ hnew hmem hevent hspot =>
    refine ⟨fun r hr => ?_, fun e he hcap => ?_⟩
    · rcases (mem_insert hnew).mp hr with hold | rfl
      · exact hs.event_of_registration r hold
      · exact ⟨event, hmem, hevent.symm⟩
    · rw [occupancy_insert hnew rfl]
      exact spot_bound hs hmem hevent he hcap hspot
  | rewritten event old new checkIns hmem hold hid hevent hkeep hspot =>
    refine ⟨fun r hr => ?_, fun e he hcap => ?_⟩
    · rcases mem_of_mem_put hr with rfl | ⟨hr₀, -⟩
      · exact ⟨event, hmem, by rw [hkeep, hevent]⟩
      · exact hs.event_of_registration r hr₀
    · let after : State := { s with registrations := s.registrations.put new, checkIns := checkIns }
      have hput : confirmedOccupancy after e.id + seat e.id old =
          confirmedOccupancy s e.id + seat e.id new :=
        occupancy_put hold hid rfl e.id
      change confirmedOccupancy after e.id ≤ e.capacity
      by_cases hseat : new.status.confirmed → old.status.confirmed
      · have hle := hs.occupancy_le e he hcap
        have hmono := seat_mono hkeep hseat e.id
        omega
      · have hfree : hasSpot s event := by
          by_contra hno
          exact hseat fun hconfirmed => (hspot hconfirmed).resolve_right hno
        have hbound := spot_bound hs hmem (hkeep.trans hevent) he hcap fun _ => hfree
        omega
  | handedOn event old _ hmem hold hevent hseated hselected =>
    refine ⟨fun r hr => ?_, fun e he hcap => ?_⟩
    · rw [promote_events]
      refine event_of_mem_promote hmem hselected (fun x hx => ?_) r hr
      rcases mem_of_mem_put hx with rfl | ⟨hx₀, -⟩
      · exact hs.event_of_registration old hold
      · exact hs.event_of_registration x hx₀
    · rw [promote_events] at he
      have hle := hs.occupancy_le e he hcap
      let given : Registration :=
        { old with status := .cancelled, calendarSequence := old.calendarSequence + 1 }
      have hid : given.id = old.id := rfl
      have hgiven : confirmedOccupancy (changeStatus s old .cancelled) e.id +
          seat e.id old = confirmedOccupancy s e.id + seat e.id given :=
        occupancy_put hold hid rfl e.id
      have hnone : seat e.id given = 0 := seat_eq_zero_of_not_confirmed rfl
      have htaken := occupancy_promote_le hselected (changeStatus s old .cancelled) e.id
      by_cases hsame : e.id = event.id
      · have hseat : seat e.id old = 1 := by
          simp [seat, takesSeat, hsame, hevent, hseated, Status.confirmed]
        rw [if_pos hsame] at htaken
        omega
      · rw [if_neg hsame] at htaken
        omega

theorem seated_preserved : Preserves step Seated :=
  fun _ _ _ hs h => seated_of_effect (step_effect h) hs

end

/-- **In every run, confirmed registrations stay within a limited capacity.** -/
theorem seats_of_run (s : State) (hs : Seated s) (ops : List Op) :
    ∀ event ∈ (run step s ops).events, 0 < event.capacity →
      confirmedOccupancy (run step s ops) event.id ≤ event.capacity :=
  (run_preserves seated_preserved hs ops).occupancy_le

def noEvents : State where
  events := ∅
  registrations := ∅
  checkIns := ∅

theorem noEvents_seated : Seated noEvents where
  event_of_registration := fun r hr => absurd hr (notMem_empty r)
  occupancy_le := fun event he => absurd he (notMem_empty event)

def visitor (id : Nat) (email : String) : RegisterRequest :=
  { newId := id, eventId := 1, name := "Visitor", email := email, phone := "1" }

def crowdedWorkshop : List Op :=
  [.createEvent
      { id := 1, makerspaceId := 1, startsAt := 100, endsAt := 200, capacity := 2,
        isPublic := true } (.ok ()),
    .publish 1 10 (.ok ()),
    .register (visitor 1 "a@example.org") 20,
    .register (visitor 2 "b@example.org") 21,
    .register (visitor 3 "c@example.org") 22,
    .cancel 1 1 30,
    .updateEvent 1 { capacity := some 1 } 40 (.ok ()) (.ok ()),
    .register (visitor 4 "a@example.org") 50]

/-- The waiting visitor takes the seat, the lower capacity is refused. -/
theorem seats_of_crowdedWorkshop :
    (run step noEvents crowdedWorkshop).registrations.rows.map Registration.status =
        [.waitlisted, .registered, .registered] ∧
      ∀ event ∈ (run step noEvents crowdedWorkshop).events, 0 < event.capacity →
        confirmedOccupancy (run step noEvents crowdedWorkshop) event.id ≤ event.capacity :=
  ⟨by decide, seats_of_run noEvents noEvents_seated crowdedWorkshop⟩

end Events
end SpaceWorks
