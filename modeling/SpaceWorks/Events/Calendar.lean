import SpaceWorks.Events.Seats
import SpaceWorks.Library.Versions

/-!
# The calendar feed of events

The components of `services_calendar.py`, and the number that tells a client of a change.  `dtstamp`
and `last-modified` are written with it and left out.
-/

namespace SpaceWorks
namespace Events

open Checked TransactionalSystem Versions Table List Option

def Status.display : Status → String
  | .pendingApproval => "Pending approval"
  | .registered => "Registered"
  | .waitlisted => "Waitlisted"
  | .rejected => "Rejected"
  | .cancelled => "Cancelled"
  | .attended => "Attended"

/-- A component but for its number; blanks are left out. -/
structure Content where
  uid : String
  summary : String
  description : Option String
  location : Option String
  dtstart : Int
  dtend : Int
  status : String

structure Component extends Content where
  sequence : Nat

def nonBlank (text : String) : Option String :=
  if text = "" then none else some text

def addCommon (uid title description location : String) (startsAt endsAt : Int)
    (status : String) (sequence : Nat) : Component where
  uid := uid
  summary := title
  description := nonBlank description
  location := nonBlank location
  dtstart := startsAt
  dtend := endsAt
  status := status
  sequence := sequence

def componentStatus (event : Event) (registration : Option Registration) : String :=
  if event.status = .cancelled then "CANCELLED"
  else match registration with
    | none => "CONFIRMED"
    | some registration =>
      match registration.status with
      | .pendingApproval | .waitlisted => "TENTATIVE"
      | .rejected | .cancelled => "CANCELLED"
      | .registered | .attended => "CONFIRMED"

def componentDescription (event : Event) : Option Registration → String
  | none => event.description
  | some registration =>
    s!"Registration status: {registration.status.display}."
      ++ (if event.description = "" then "" else "\n\n" ++ event.description)

/-- `_event_component`; the `calendar_uid` is never written again. -/
def eventComponent (calendarUid : Nat → String) (event : Event)
    (registration : Option Registration) : Component :=
  addCommon s!"event-{calendarUid event.id}@spaceworks" event.title
    (componentDescription event registration) event.location event.startsAt event.endsAt
    (componentStatus event registration)
    (event.calendarSequence + (registration.map Registration.calendarSequence).getD 0)

inductive Subject
  | event (id : Nat)
  | registration (id : Nat)

def component (calendarUid : Nat → String) (s : State) : Subject → Option Component
  | .event id => (s.events.get? id).map fun event => eventComponent calendarUid event none
  | .registration id =>
    (s.registrations.get? id).bind fun registration =>
      (s.events.get? registration.eventId).map fun event =>
        eventComponent calendarUid event (some registration)

section

def Event.shown (event : Event) : String × String × String × Int × Int × EventStatus :=
  (event.title, event.description, event.location, event.startsAt, event.endsAt, event.status)

/-- Components show changes of events only with their numbers. -/
def EventsAnnounced (s t : State) : Prop :=
  Announces Event.id Event.shown Event.calendarSequence s.events t.events

/-- Components show changes of registrations only with their numbers. -/
def RegistrationsAnnounced (s t : State) : Prop :=
  Announces Registration.eventId Registration.status Registration.calendarSequence
    s.registrations t.registrations

/-- Both tables have changed only with the numbers of their rows. -/
structure AnnouncedBy (s t : State) : Prop where
  events : EventsAnnounced s t
  registrations : RegistrationsAnnounced s t

variable {s t u : State} {locked : Registration} {changes : EventChanges} {op : Op}

theorem announcedBy_refl (s : State) : AnnouncedBy s s :=
  ⟨announces_refl _, announces_refl _⟩

theorem announcedBy_changeStatus
    (h : AnnouncedBy s u) (hmem : locked ∈ s.registrations)
    (status : Status) :
    AnnouncedBy s (changeStatus u locked status) where
  events := h.events
  registrations := announces_put locked h.registrations (get?_key hmem)
      ⟨rfl, .inl (Nat.lt_succ_self _)⟩

theorem announcedBy_promote {selected : List Registration} (h : AnnouncedBy s u)
    (hselected : ∀ r ∈ selected, r ∈ s.registrations) :
    AnnouncedBy s (promote u selected) := by
  induction selected generalizing u with
  | nil => exact h
  | cons _ _ ih =>
    obtain ⟨hr, hrest⟩ := forall_mem_cons.mp hselected
    exact ih (announcedBy_changeStatus h hr .registered) hrest

theorem mem_of_mem_lockWaiters {eventId : Nat} {r : Registration} (h : r ∈ lockWaiters s eventId) :
    r ∈ s.registrations :=
  (eventId_of_mem_registrationsOf (mem_of_mem_filter h)).1

theorem announcedBy_promoteAutomatically (s : State) (event : Event) (count : Option Nat) :
    AnnouncedBy s (promoteAutomatically s event count) := by
  unfold promoteAutomatically
  split
  · exact announcedBy_refl s
  · exact announcedBy_promote (announcedBy_refl s) fun r hr =>
      mem_of_mem_lockWaiters (mem_of_mem_selectWaiters hr)

theorem announcedBy_putEvent
    (old : Event) {new : Event} (h : AnnouncedBy s u) (hold : s.events.get? new.id = some old)
    (hnew : Supersedes Event.id Event.shown Event.calendarSequence old new) :
    AnnouncedBy s { u with events := u.events.put new } :=
  ⟨announces_put old h.events hold hnew, h.registrations⟩

theorem supersedes_moveTo (event : Event) (status : EventStatus) :
    Supersedes Event.id Event.shown Event.calendarSequence event (event.moveTo status) :=
  ⟨rfl, .inl (Nat.lt_succ_self _)⟩

theorem shown_apply (h : changes.touchesCalendar = false) (event : Event) :
    (changes.apply event).shown = event.shown := by
  simp only [EventChanges.touchesCalendar, Bool.or_eq_false_iff, isSome_eq_false_iff,
    isNone_iff_eq_none] at h
  obtain ⟨⟨⟨⟨⟨⟨htitle, hdescription⟩, hstarts⟩, hends⟩, hlocation⟩, -⟩, -⟩ := h
  simp [EventChanges.apply, Event.shown, htitle, hdescription, hstarts, hends, hlocation]

theorem supersedes_update (changes : EventChanges) (event : Event) :
    Supersedes Event.id Event.shown Event.calendarSequence event
      (if changes.touchesCalendar then
        { changes.apply event with calendarSequence := (changes.apply event).calendarSequence + 1 }
      else changes.apply event) := by
  split
  · exact ⟨rfl, .inl (Nat.lt_succ_self _)⟩
  · next huntouched =>
      exact ⟨rfl, .inr ⟨shown_apply (by simpa using huntouched) event, rfl⟩⟩

variable {s t : State} {eventId registrationId : Nat} {now : Int} {gate : Except String Unit}

theorem announced_updateEvent {quota : Except String Unit}
    (h : updateEvent s eventId changes now gate quota = .ok t) :
    AnnouncedBy s t := by
  simp [updateEvent, lockedEvent_ok] at h
  obtain ⟨old, hold, -, -, -, -, -, -, -, -, -, -, -, -, rfl⟩ := h
  have hkey := get?_key (mem_of_get? hold)
  refine announcedBy_putEvent old ?_ ?_ (supersedes_update changes old)
  · split
    · exact announcedBy_promoteAutomatically s _ _
    · exact announcedBy_refl s
  · split <;> exact hkey

theorem announced_transition
    {newStatus : EventStatus} (h : transition s eventId newStatus = .ok t) :
    AnnouncedBy s t := by
  simp [transition, lockedEvent_ok] at h
  obtain ⟨locked, hlocked, -, -, rfl⟩ := h
  exact announcedBy_putEvent locked (announcedBy_refl s)
    (get?_key (mem_of_get? hlocked)) (supersedes_moveTo locked newStatus)

theorem announced_register {request : RegisterRequest} (h : register s request now = .ok t) :
    AnnouncedBy s t := by
  simp only [register, bind_ok, lockedEvent_ok] at h
  obtain ⟨_, -, -, -, -, -, -, -, h⟩ := h
  split at h
  · next existing hexisting =>
      have hmem := (mem_existingRegistration hexisting).1
      simp [reactivate] at h
      obtain ⟨-, -, -, -, -, -, rfl⟩ := h
      exact ⟨announces_refl _, announces_put existing (announces_refl _) (get?_key hmem)
        ⟨rfl, .inl (Nat.lt_succ_self _)⟩⟩
  · simp only [insertRegistration, bind_ok, insertNew_ok, pure_ok] at h
    obtain ⟨-, -, -, -, _, ⟨hnew, rfl⟩, rfl⟩ := h
    exact ⟨announces_refl _, announces_insert hnew⟩

theorem announced_cancelRegistration (h : cancelRegistration s registrationId eventId now = .ok t) :
    AnnouncedBy s t := by
  simp only [cancelRegistration, bind_ok] at h
  obtain ⟨⟨event, locked⟩, hlock, -, -, h⟩ := h
  have hlocked := (lockRegistration_ok hlock).2.1
  have hcancelled := announcedBy_changeStatus (announcedBy_refl s) hlocked .cancelled
  split at h
  · rw [pure_ok] at h
    subst h
    have hpromoted := announcedBy_promoteAutomatically (changeStatus s locked .cancelled) event
      (some 1)
    exact ⟨announces_trans hcancelled.events hpromoted.events,
      announces_trans hcancelled.registrations hpromoted.registrations⟩
  · rw [pure_ok] at h
    exact h ▸ hcancelled

def Op.attends (op : Op) (registrationId : Nat) : Bool :=
  match op with
  | .markAttended id _ _ _ _ => id = registrationId
  | .correctAttendance id _ => id = registrationId
  | _ => false

structure Attended (s t : State) (registrationId : Nat) : Prop where
  events : t.events = s.events
  registration : ∃ (locked new : Registration) (event : Event),
    s.registrations.get? registrationId = some locked ∧ s.events.get? locked.eventId = some event ∧
      t.registrations = s.registrations.put new ∧ new.id = registrationId ∧
      new.eventId = locked.eventId ∧ new.calendarSequence = locked.calendarSequence ∧
      ((locked.status = .registered ∧ new.status = .attended) ∨
        (locked.status = .attended ∧ new.status = .registered))

theorem lockRegistration_spec {event : Event}
    (h : lockRegistration s registrationId eventId = .ok (event, locked)) :
    s.registrations.get? registrationId = some locked ∧
      s.events.get? locked.eventId = some event := by
  simp only [lockRegistration, bind_ok, lockedEvent_ok, orRefuse_ok,
    require_ok, pure_ok, Prod.mk.injEq] at h
  obtain ⟨e, he, _, hr, _, hbelongs, rfl, rfl⟩ := h
  refine ⟨hr, ?_⟩
  rw [hbelongs, show e.id = eventId from key_of_get? he]
  exact he

theorem attended_correctAttendance (h : correctAttendance s registrationId eventId = .ok t) :
    Attended s t registrationId := by
  simp only [correctAttendance, bind_ok, require_ok, pure_ok] at h
  obtain ⟨⟨event, locked⟩, hlock, _, hattended, -, -, rfl⟩ := h
  obtain ⟨hlocked, hevent⟩ := lockRegistration_spec hlock
  exact ⟨rfl, locked, _, event, hlocked, hevent, rfl, key_of_get? hlocked, rfl, rfl,
    .inr ⟨hattended, rfl⟩⟩

theorem attended_markAttended {operationId : Nat} {attendedAt : Int}
    (h : markAttended s registrationId eventId operationId attendedAt gate = .ok t) :
    Attended s t registrationId := by
  simp only [markAttended, bind_ok, require_ok, pure_ok] at h
  obtain ⟨_, -, -, -, -, -, ⟨event, locked⟩, hlock, _, hregistered, _, -, rfl⟩ := h
  obtain ⟨hlocked, hevent⟩ := lockRegistration_spec hlock
  exact ⟨rfl, locked, _, event, hlocked, hevent, rfl, key_of_get? hlocked, rfl, rfl,
    .inl ⟨hregistered.1, rfl⟩⟩

/-- Operations announce changes, or write an attendance. -/
theorem step_announced (h : step s op = .ok t) :
    AnnouncedBy s t ∨
      ∃ registrationId, op.attends registrationId = true ∧ Attended s t registrationId := by
  cases op with
  | createEvent =>
    simp only [step, createEvent, bind_ok, insertNew_ok, pure_ok] at h
    obtain ⟨-, -, -, -, _, ⟨hnew, rfl⟩, rfl⟩ := h
    exact .inl ⟨announces_insert hnew, announces_refl _⟩
  | updateEvent => exact .inl (announced_updateEvent h)
  | publish =>
    simp [step, publish, lockedEvent_ok] at h
    obtain ⟨locked, hlocked, -, -, -, -, -, -, -, -, rfl⟩ := h
    exact .inl (announcedBy_putEvent locked (announcedBy_refl s)
      (get?_key (mem_of_get? hlocked)) (supersedes_moveTo locked .published))
  | cancelEvent | completeEvent => exact .inl (announced_transition h)
  | register => exact .inl (announced_register h)
  | approve =>
    simp only [step, approveRegistration, bind_ok, pure_ok] at h
    obtain ⟨⟨_, _⟩, hlock, -, -, rfl⟩ := h
    have hlocked := (lockRegistration_ok hlock).2.1
    exact .inl (announcedBy_changeStatus (announcedBy_refl s) hlocked _)
  | reject =>
    simp only [step, rejectRegistration, bind_ok, pure_ok] at h
    obtain ⟨⟨_, _⟩, hlock, -, -, rfl⟩ := h
    have hlocked := (lockRegistration_ok hlock).2.1
    exact .inl (announcedBy_changeStatus (announcedBy_refl s) hlocked _)
  | promote =>
    simp only [step, promoteRegistration, bind_ok, pure_ok] at h
    obtain ⟨⟨_, _⟩, hlock, -, -, -, -, rfl⟩ := h
    have hlocked := (lockRegistration_ok hlock).2.1
    exact .inl (announcedBy_changeStatus (announcedBy_refl s) hlocked _)
  | cancel => exact .inl (announced_cancelRegistration h)
  | correctAttendance registrationId =>
    exact .inr ⟨registrationId, by simp [Op.attends], attended_correctAttendance h⟩
  | markAttended registrationId =>
    exact .inr ⟨registrationId, by simp [Op.attends], attended_markAttended h⟩

variable {calendarUid : Nat → String} {event event' : Event}
variable {registration registration' : Registration} {subject : Subject}

theorem componentStatus_congr
    (hevent : event'.status = event.status) (hstatus : registration'.status = registration.status) :
    componentStatus event' (some registration') = componentStatus event (some registration) := by
  simp [componentStatus, hevent, hstatus]

theorem componentDescription_congr (hevent : event'.description = event.description)
    (hstatus : registration'.status = registration.status) :
    componentDescription event' (some registration') =
      componentDescription event (some registration) := by
  unfold componentDescription
  dsimp only
  rw [hevent, hstatus]

theorem content_event (hid : event'.id = event.id) (hshown : event'.shown = event.shown) :
    (eventComponent calendarUid event' none).toContent =
      (eventComponent calendarUid event none).toContent := by
  simp [Event.shown] at hshown
  obtain ⟨htitle, hdescription, hlocation, hstarts, hends, hstatus⟩ := hshown
  unfold eventComponent addCommon componentDescription componentStatus
  rw [hid, htitle, hdescription, hlocation, hstarts, hends, hstatus]

theorem content_registration (hid : event'.id = event.id) (hshown : event'.shown = event.shown)
    (hsame : registration'.status = registration.status) :
    (eventComponent calendarUid event' (some registration')).toContent =
      (eventComponent calendarUid event (some registration)).toContent := by
  simp [Event.shown] at hshown
  obtain ⟨htitle, hdescription, hlocation, hstarts, hends, hstatus⟩ := hshown
  unfold eventComponent addCommon
  rw [hid, htitle, hlocation, hstarts, hends, componentStatus_congr hstatus hsame,
    componentDescription_congr hdescription hsame]

/-- The rows behind a component have changed only with their numbers. -/
structure AnnouncedFor (subject : Subject) (s t : State) : Prop where
  events : EventsAnnounced s t
  registration : ∀ id, subject = .registration id → ∀ old,
    s.registrations.get? id = some old → ∃ new, t.registrations.get? id = some new ∧
      Supersedes Registration.eventId Registration.status Registration.calendarSequence old new

theorem announcedFor_refl (subject : Subject) (s : State) : AnnouncedFor subject s s :=
  ⟨announces_refl _, fun _ _ old hold => ⟨old, hold, supersedes_refl old⟩⟩

theorem announcedFor_trans {u : State}
    (h : AnnouncedFor subject s t) (h' : AnnouncedFor subject t u) : AnnouncedFor subject s u := by
  refine ⟨announces_trans h.events h'.events, fun id hsubject old hold => ?_⟩
  obtain ⟨mid, hmid, hfirst⟩ := h.registration id hsubject old hold
  obtain ⟨new, hnew, hsecond⟩ := h'.registration id hsubject mid hmid
  exact ⟨new, hnew, supersedes_trans hfirst hsecond⟩

theorem announcedFor_of_announcedBy (h : AnnouncedBy s t) (subject : Subject) :
    AnnouncedFor subject s t :=
  ⟨h.events, fun id _ old hold => h.registrations id old hold⟩

/-- The operation writes the attendance of the registration. -/
def Op.attendsTo (op : Op) : Subject → Bool
  | .event _ => false
  | .registration id => op.attends id

/-- An operation announces a component's changes, unless it writes its attendance. -/
theorem step_announcedFor (h : step s op = .ok t) (hnot : op.attendsTo subject = false) :
    AnnouncedFor subject s t := by
  rcases step_announced h with hannounced | ⟨_, hattends, hattended⟩
  · exact announcedFor_of_announcedBy hannounced subject
  · obtain ⟨hevents, _, new, _, -, -, hput, hid, -⟩ := hattended
    refine ⟨?_, fun id hsubject old hold => ⟨old, ?_, supersedes_refl old⟩⟩
    · unfold EventsAnnounced
      rw [hevents]
      exact announces_refl _
    · subst hsubject
      have hne : id ≠ key new := by
        rintro rfl
        rw [key_registration, hid] at hnot
        rw [Op.attendsTo, hattends] at hnot
        cases hnot
      rw [hput, get?_put_of_ne _ hne, hold]

theorem sequence_lt_of_announced {before after : Component} (h : AnnouncedFor subject s t)
    (hbefore : component calendarUid s subject = some before)
    (hafter : component calendarUid t subject = some after)
    (hne : after.toContent ≠ before.toContent) :
    before.sequence < after.sequence := by
  cases subject with
  | event id =>
    obtain ⟨event, hevent, rfl⟩ := map_eq_some_iff.mp hbefore
    obtain ⟨event', hevent', rfl⟩ := map_eq_some_iff.mp hafter
    obtain ⟨new, hnew, hsup⟩ := h.events id event hevent
    obtain rfl : event' = new := some.inj (hevent'.symm.trans hnew)
    have hshown : event'.shown ≠ event.shown := fun heq => hne (content_event hsup.same heq)
    have hlt := lt_of_supersedes hsup hshown
    simp only [eventComponent, addCommon, map_none, getD_none]
    omega
  | registration id =>
    obtain ⟨registration, hregistration, hbefore⟩ := bind_eq_some_iff.mp hbefore
    obtain ⟨event, hevent, rfl⟩ := map_eq_some_iff.mp hbefore
    obtain ⟨registration', hregistration', hafter⟩ := bind_eq_some_iff.mp hafter
    obtain ⟨event', hevent', rfl⟩ := map_eq_some_iff.mp hafter
    obtain ⟨newRow, hnewRow, hrow⟩ := h.registration id rfl registration hregistration
    obtain rfl : registration' = newRow := some.inj (hregistration'.symm.trans hnewRow)
    rw [hrow.same] at hevent'
    obtain ⟨new, hnew, hsup⟩ := h.events _ event hevent
    obtain rfl : event' = new := some.inj (hevent'.symm.trans hnew)
    have hle := le_of_supersedes hsup
    have hle' := le_of_supersedes hrow
    have hlt : event.calendarSequence < event'.calendarSequence ∨
        registration.calendarSequence < registration'.calendarSequence := by
      rcases hsup.newer with hlt | ⟨hshown, -⟩
      · exact .inl hlt
      · rcases hrow.newer with hlt | ⟨hsame, -⟩
        · exact .inr hlt
        · exact absurd (content_registration hsup.same hshown hsame) hne
    simp only [eventComponent, addCommon, map_some, getD_some]
    omega

theorem nonBlank_inj {a b : String} (h : nonBlank a = nonBlank b) : a = b := by
  unfold nonBlank at h
  by_cases ha : a = "" <;> by_cases hb : b = "" <;> simp_all

theorem description_ne {event : Event} {registered attended : Registration}
    (hregistered : registered.status = .registered) (hattended : attended.status = .attended) :
    componentDescription event (some registered) ≠ componentDescription event (some attended) := by
  intro heq
  have hlength := congrArg String.length heq
  unfold componentDescription at hlength
  dsimp only at hlength
  rw [hregistered, hattended, String.length_append, String.length_append, String.length_append,
    String.length_append, String.length_append, String.length_append] at hlength
  have hdisplays : (toString (Status.display .registered)).length =
      (toString (Status.display .attended)).length := by omega
  revert hdisplays
  decide

theorem content_ne_of_description {event : Event} {registration registration' : Registration}
    (hne : componentDescription event (some registration) ≠
      componentDescription event (some registration')) :
    (eventComponent calendarUid event (some registration')).toContent ≠
      (eventComponent calendarUid event (some registration)).toContent := by
  intro heq
  have hdescription : nonBlank (componentDescription event (some registration')) =
      nonBlank (componentDescription event (some registration)) :=
    congrArg Content.description heq
  exact hne (nonBlank_inj hdescription).symm

theorem attended_unannounced
    (calendarUid : Nat → String) {registrationId : Nat} (h : Attended s t registrationId) :
    ∃ before after, component calendarUid s (.registration registrationId) = some before ∧
        component calendarUid t (.registration registrationId) = some after ∧
        after.toContent ≠ before.toContent ∧ after.sequence = before.sequence := by
  obtain ⟨hevents, locked, new, event, hlocked, hevent, hput, hid, heventId, hsequence, hstatus⟩ := h
  have hnew : t.registrations.get? registrationId = some new := by
    rw [hput, ← hid]
    exact get?_put_self (hid ▸ hlocked)
  have hbefore : component calendarUid s (.registration registrationId) =
      some (eventComponent calendarUid event (some locked)) := by
    rw [component, hlocked, bind_some, hevent, map_some]
  have hafter : component calendarUid t (.registration registrationId) =
      some (eventComponent calendarUid event (some new)) := by
    rw [component, hnew, bind_some, heventId, hevents, hevent, map_some]
  refine ⟨_, _, hbefore, hafter, content_ne_of_description ?_, ?_⟩
  · rcases hstatus with ⟨hregistered, hattended⟩ | ⟨hattended, hregistered⟩
    · exact description_ne hregistered hattended
    · exact (description_ne hregistered hattended).symm
  · simp [eventComponent, addCommon, hsequence]

theorem attended_of_attends
    {registrationId : Nat} (hattends : op.attends registrationId = true)
    (h : step s op = .ok t) :
    Attended s t registrationId := by
  cases op with
  | markAttended id =>
    obtain rfl : id = registrationId := by simpa [Op.attends] using hattends
    exact attended_markAttended h
  | correctAttendance id =>
    obtain rfl : id = registrationId := by simpa [Op.attends] using hattends
    exact attended_correctAttendance h
  | _ => cases hattends

end

section Result

/-- A component that shows something new has a greater number. -/
def SequenceAnnounces (calendarUid : Nat → String) (s : State) (ops : List Op)
    (subject : Subject) : Prop :=
  ∀ sofar during later, ops = sofar ++ during ++ later → ∀ before after,
    component calendarUid (run step s sofar) subject = some before →
      component calendarUid (run step s (sofar ++ during)) subject = some after →
        after.toContent ≠ before.toContent → before.sequence < after.sequence

def NoAttendance (s : State) (ops : List Op) (subject : Subject) : Prop :=
  Throughout step (fun m op => op.attendsTo subject = true → (step m op).isOk = false) s ops

variable {s : State} {calendarUid : Nat → String} {subject : Subject}

theorem announcedFor_of_run {ops : List Op} (h : NoAttendance s ops subject) :
    AnnouncedFor subject s (run step s ops) := by
  refine run_preserves_throughout (I := fun m => AnnouncedFor subject s m) ?_
    (announcedFor_refl subject s) h
  intro m op m' hm hcondition hstep
  refine announcedFor_trans hm (step_announcedFor hstep ?_)
  cases hattends : op.attendsTo subject with
  | false => rfl
  | true =>
    have hrefused := hcondition hattends
    rw [hstep] at hrefused
    cases hrefused

theorem sequenceAnnounces_tail {op : Op} {ops : List Op}
    (h : SequenceAnnounces calendarUid s (op :: ops) subject) :
    SequenceAnnounces calendarUid (settle step s op) ops subject := by
  intro sofar during later hops before after hbefore hafter
  refine h (op :: sofar) during later ?_ before after hbefore hafter
  rw [hops, cons_append, cons_append]

theorem refused_of_sequenceAnnounces {op : Op} {ops : List Op}
    (h : SequenceAnnounces calendarUid s (op :: ops) subject)
    (hattends : op.attendsTo subject = true) :
    (step s op).isOk = false := by
  cases hstep : step s op with
  | error => rfl
  | ok =>
    cases subject with
    | event => cases hattends
    | registration id =>
      obtain ⟨before, after, hbefore, hafter, hne, _⟩ :=
        attended_unannounced calendarUid (attended_of_attends hattends hstep)
      have hrun : component calendarUid (run step s ([] ++ [op])) (.registration id) =
          some after := by
        rw [nil_append, run_cons, run_nil, settle_ok hstep]
        exact hafter
      have hlt := h [] [op] ops rfl before after hbefore hrun hne
      omega

/-- The number grows with the text exactly in runs without an attendance of the registration. -/
theorem sequence_announces_iff
    (calendarUid : Nat → String) (s : State) (ops : List Op) (subject : Subject) :
    SequenceAnnounces calendarUid s ops subject ↔ NoAttendance s ops subject := by
  constructor
  · intro h
    induction ops generalizing s with
    | nil => trivial
    | cons _ _ ih =>
      exact ⟨refused_of_sequenceAnnounces h, ih _ (sequenceAnnounces_tail h)⟩
  · rintro h _ _ _ rfl _ _ hbefore hafter hne
    unfold NoAttendance at h
    rw [append_assoc, throughout_append, throughout_append] at h
    rw [run_append] at hafter
    exact sequence_lt_of_announced (announcedFor_of_run h.2.1) hbefore hafter hne

def openWorkshop : State where
  events := ⟨[{ id := 1
                makerspaceId := 4
                title := "Soldering"
                startsAt := 100
                endsAt := 200
                isPublic := true
                status := .published }], nodup_singleton _⟩
  registrations := ⟨[{ id := 8
                       eventId := 1
                       name := "Asha"
                       email := "asha@example.org"
                       phone := "1"
                       viaMakerspaceId := 4
                       createdAt := 10 }], nodup_singleton _⟩
  checkIns := ∅

theorem attendance_keeps_sequence :
    ∃ (ops : List Op) (before after : Component),
      component (fun _ => "uid") openWorkshop (.registration 8) = some before ∧
        component (fun _ => "uid") (run step openWorkshop ops) (.registration 8) = some after ∧
        before.description = some "Registration status: Registered." ∧
        after.description = some "Registration status: Attended." ∧
        before.sequence = 0 ∧ after.sequence = 0 := by
  refine ⟨[.markAttended 8 1 50 150 (.ok ())], _, _, rfl, rfl, ?_⟩
  decide +kernel

end Result

end Events
end SpaceWorks
