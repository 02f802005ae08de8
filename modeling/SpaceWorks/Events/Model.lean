import Mathlib.Data.List.Sort
import SpaceWorks.Library.Checked
import SpaceWorks.Library.Python
import SpaceWorks.Library.Runs
import SpaceWorks.Library.Table

/-!
# Events and their registrations

The lifecycle of an event (`services.py`, `services_lifecycle.py`), registration
(`services_registration.py`, `capacity.py`), its decisions (`services_registration_state.py`) and
check-in (`services_checkin.py`), each one step under the lock of the event.  Times are
microseconds, amounts hundredths; clock readings are arguments.
-/

namespace SpaceWorks
namespace Events

open Checked TransactionalSystem

inductive EventStatus
  | draft
  | published
  | cancelled
  | completed
  deriving DecidableEq

def EventStatus.text : EventStatus → String
  | .draft => "draft"
  | .published => "published"
  | .cancelled => "cancelled"
  | .completed => "completed"

inductive Status
  | pendingApproval
  | registered
  | waitlisted
  | rejected
  | cancelled
  | attended
  deriving DecidableEq

def Status.confirmed : Status → Bool
  | .registered | .attended => true
  | _ => false

/-- The statuses of `uniq_active_event_registration_member`. -/
def Status.active : Status → Bool
  | .pendingApproval | .registered | .waitlisted => true
  | _ => false

structure Event where
  id : Nat
  makerspaceId : Nat
  title : String := ""
  description : String := ""
  location : String := ""
  timezoneName : String := ""
  startsAt : Int
  endsAt : Int
  capacity : Nat := 0
  paymentAmount : Int := 0
  registrationRequiresApproval : Bool := false
  registrationCutoffAt : Option Int := none
  registrationCutoffLeadMinutes : Option Nat := none
  isPublic : Bool := false
  status : EventStatus := .draft
  calendarSequence : Nat := 0

structure Registration where
  id : Nat
  eventId : Nat
  memberId : Option Nat := none
  name : String
  email : String
  phone : String
  emailHashGeneration : Option Nat := none
  emailExactHash : Option String := none
  /-- The stored address is an encryption envelope. -/
  emailEncrypted : Bool := false
  viaMakerspaceId : Nat
  status : Status := .registered
  calendarSequence : Nat := 0
  createdAt : Int
  deriving DecidableEq

structure CheckIn where
  operationId : Nat
  makerspaceId : Nat
  eventId : Nat
  registrationId : Nat
  attendedAt : Int

instance : Keyed Event Nat := ⟨Event.id⟩

instance : Keyed Registration Nat := ⟨Registration.id⟩

instance : Keyed CheckIn Nat := ⟨CheckIn.operationId⟩

@[simp] theorem key_event (event : Event) : key event = event.id := rfl

@[simp] theorem key_registration (registration : Registration) :
    key registration = registration.id := rfl

inductive Error
  | validation (detail : List (String × String))
  | invalidTransition (message : String)
  | capacityConflict (message : String)
  | registrationClosed (message : String)
  | registrationRejected (message : String)
  | duplicateRegistration (message : String) (freshStatus : Status)
  | duplicateCheckIn
  | doesNotExist (model : String)
  | integrity (constraint : String)
  /-- A refusal by the gate, the quota, the form or a field. -/
  | gate (message : String)

structure State where
  events : Table Event
  registrations : Table Registration
  checkIns : Table CheckIn

section

variable (s : State)

def takesSeat (eventId : Nat) (registration : Registration) : Bool :=
  registration.eventId = eventId && registration.status.confirmed

def confirmedOccupancy (eventId : Nat) : Nat :=
  s.registrations.rows.countP (takesSeat eventId)

/-- `spots_left`; `none` for an event without a limit. -/
def spotsLeft (event : Event) : Option Nat :=
  if event.capacity = 0 then none
  else some (event.capacity - confirmedOccupancy s event.id)

/-- `available is None or available > 0`. -/
def hasSpot (event : Event) : Bool :=
  match spotsLeft s event with
  | none => true
  | some available => 0 < available

def effectiveRegistrationCutoff (event : Event) : Option Int :=
  match event.registrationCutoffAt with
  | some cutoff => some cutoff
  | none => event.registrationCutoffLeadMinutes.map fun lead =>
    event.startsAt - lead * 60000000

def registrationIsOpen (event : Event) (now : Int) : Bool :=
  event.status = .published && now < event.endsAt
    && (effectiveRegistrationCutoff event).all fun cutoff => now < cutoff

def freshRegistrationStatus (event : Event) : Status :=
  if event.registrationRequiresApproval then .pendingApproval
  else if hasSpot s event then .registered
  else .waitlisted

def lockedEvent (eventId : Nat) : Except Error Event :=
  orRefuse (s.events.get? eventId) (.doesNotExist "Event")

/-- The order of registrations: `ordering = ["created_at", "id"]`. -/
def Registration.precedes (r r' : Registration) : Prop :=
  r.createdAt < r'.createdAt ∨ (r.createdAt = r'.createdAt ∧ r.id ≤ r'.id)

instance : DecidableRel Registration.precedes := fun _ _ =>
  inferInstanceAs (Decidable (_ ∨ _))

def registrationsOf (eventId : Nat) : List Registration :=
  (s.registrations.rows.filter fun r => r.eventId = eventId).insertionSort Registration.precedes

/-- `_locked_event`, then `_lock_registration`. -/
def lockRegistration (registrationId eventId : Nat) :
    Except Error (Event × Registration) := do
  let event ← lockedEvent s eventId
  let locked ← orRefuse (s.registrations.get? registrationId) (.doesNotExist "EventRegistration")
  require (locked.eventId = event.id)
    (.invalidTransition "Registration does not belong to this event.")
  return (event, locked)

/-- A saved status, and `calendar_registration_changed`. -/
def changeStatus (registration : Registration) (status : Status) : State :=
  { s with
    registrations := s.registrations.put
      { registration with
        status := status
        calendarSequence := registration.calendarSequence + 1 } }

/-- The unique constraints of `EventRegistration`. -/
def brokenConstraint (row : Registration) : Option String :=
  let others := s.registrations.rows.filter fun r => r.id ≠ row.id && r.eventId = row.eventId
  if others.any fun r => !row.emailEncrypted && !r.emailEncrypted && r.email = row.email then
    some "uniq_event_registration_email"
  else if others.any fun r => row.emailHashGeneration.isSome && row.emailExactHash.isSome
      && r.emailHashGeneration = row.emailHashGeneration
      && r.emailExactHash = row.emailExactHash then
    some "uniq_event_registration_email_hash"
  else if others.any fun r => row.memberId.isSome && r.memberId = row.memberId
      && row.status.active && r.status.active then
    some "uniq_active_event_registration_member"
  else none

def checkConstraints (row : Registration) : Except Error Unit :=
  match brokenConstraint s row with
  | none => .ok ()
  | some name => .error (.integrity name)

/-- `_validate`: `Event.clean`, then the order of the ends. -/
def validateEvent (event : Event) : Except Error Unit := do
  require (¬ (event.registrationCutoffAt.isSome ∧ event.registrationCutoffLeadMinutes.isSome))
    (.validation [("__all__",
      "Choose either an absolute registration cutoff or lead minutes, not both.")])
  require (event.registrationCutoffAt.all fun cutoff => cutoff ≤ event.startsAt)
    (.validation [("registration_cutoff_at",
      "Registration cutoff cannot be after the event starts.")])
  require (¬ event.endsAt < event.startsAt)
    (.validation [("ends_at", "End time must be at or after start time.")])

def mayPromote (event : Event) (now : Int) : Bool :=
  event.status = .published && event.endsAt ≥ now

/-- `create_event`, or an occurrence, published from the start or not. -/
def createEvent (event : Event) (gate : Except String Unit) : Except Error State := do
  gate.mapError Error.gate
  validateEvent event
  let events ← s.events.insertNew event (.integrity "event_pkey")
  return { s with events := events }

def lockWaiters (eventId : Nat) : List Registration :=
  (registrationsOf s eventId).filter fun r => r.status = .waitlisted

/-- The waiters `_promote` selects: `waiters[:count]`, or all of them. -/
def selectWaiters (waiters : List Registration) : Option Nat → List Registration
  | none => waiters
  | some count => waiters.take count

def promote (selected : List Registration) : State :=
  selected.foldl (fun s registration => changeStatus s registration .registered) s

def promoteAutomatically (event : Event) (count : Option Nat) : State :=
  if event.registrationRequiresApproval then s
  else promote s (selectWaiters (lockWaiters s event.id) count)

structure EventChanges where
  title : Option String := none
  description : Option String := none
  location : Option String := none
  timezoneName : Option String := none
  startsAt : Option Int := none
  endsAt : Option Int := none
  capacity : Option Nat := none
  paymentAmount : Option Int := none
  registrationRequiresApproval : Option Bool := none
  registrationCutoffAt : Option (Option Int) := none
  registrationCutoffLeadMinutes : Option (Option Nat) := none
  isPublic : Option Bool := none

/-- The `setattr` loop of `_update_event`. -/
def EventChanges.apply (changes : EventChanges) (event : Event) : Event :=
  { event with
    title := changes.title.getD event.title
    description := changes.description.getD event.description
    location := changes.location.getD event.location
    timezoneName := changes.timezoneName.getD event.timezoneName
    startsAt := changes.startsAt.getD event.startsAt
    endsAt := changes.endsAt.getD event.endsAt
    capacity := changes.capacity.getD event.capacity
    paymentAmount := changes.paymentAmount.getD event.paymentAmount
    registrationRequiresApproval :=
      changes.registrationRequiresApproval.getD event.registrationRequiresApproval
    registrationCutoffAt := changes.registrationCutoffAt.getD event.registrationCutoffAt
    registrationCutoffLeadMinutes :=
      changes.registrationCutoffLeadMinutes.getD event.registrationCutoffLeadMinutes
    isPublic := changes.isPublic.getD event.isPublic }

/-- Some field of `CALENDAR_EVENT_FIELDS` is among the changes. -/
def EventChanges.touchesCalendar (changes : EventChanges) : Bool :=
  changes.title.isSome || changes.description.isSome || changes.startsAt.isSome
    || changes.endsAt.isSome || changes.location.isSome || changes.timezoneName.isSome
    || changes.isPublic.isSome

/-- How many waiters `_update_event` promotes. -/
def updatePromotionCount (locked : Event) (confirmed : Nat) : Option Nat :=
  if locked.capacity = 0 then none else some (locked.capacity - confirmed)

/-- `_update_event`; the `quota` is for a reopened event. -/
def updateEvent (eventId : Nat) (changes : EventChanges) (now : Int)
    (gate quota : Except String Unit) : Except Error State := do
  let old ← lockedEvent s eventId
  require (old.status = .draft ∨ old.status = .published)
    (.invalidTransition "Terminal events cannot be updated.")
  gate.mapError Error.gate
  require (¬ (changes.registrationRequiresApproval.isSome
      ∧ changes.registrationRequiresApproval ≠ some old.registrationRequiresApproval
      ∧ old.status ≠ .draft))
    (.invalidTransition "Approval policy can only be changed while the event is a draft.")
  let locked := changes.apply old
  validateEvent locked
  let confirmed := confirmedOccupancy s locked.id
  require (¬ (0 < locked.capacity ∧ locked.capacity < confirmed))
    (.capacityConflict "Capacity cannot be below confirmed occupancy.")
  let reopened := locked.status = .published ∧ old.endsAt < now ∧ now ≤ locked.endsAt
  (if reopened then quota else .ok ()).mapError Error.gate
  let promoted :=
    if mayPromote locked now ∧ (locked.capacity = 0 ∨ confirmed < locked.capacity) then
      promoteAutomatically s locked (updatePromotionCount locked confirmed)
    else s
  let saved :=
    if changes.touchesCalendar then
      { locked with calendarSequence := locked.calendarSequence + 1 }
    else locked
  return { promoted with events := promoted.events.put saved }

/-- A lifecycle transition, then `calendar_event_changed`. -/
def Event.moveTo (event : Event) (status : EventStatus) : Event :=
  { event with status := status, calendarSequence := event.calendarSequence + 1 }

def publish (eventId : Nat) (now : Int) (gate : Except String Unit) :
    Except Error State := do
  let locked ← lockedEvent s eventId
  require (locked.status = .draft) (.invalidTransition "Only draft events can be published.")
  validateEvent locked
  require (¬ locked.endsAt < now) (.invalidTransition "Ended events cannot be published.")
  gate.mapError Error.gate
  return { s with events := s.events.put (locked.moveTo .published) }

def transition (eventId : Nat) (newStatus : EventStatus) : Except Error State := do
  let locked ← lockedEvent s eventId
  require (locked.status = .published)
    (.invalidTransition s!"Cannot transition event from {locked.status.text} to {newStatus.text}.")
  return { s with events := s.events.put (locked.moveTo newStatus) }

/-- `cancel`, without the certificates and the survey it closes. -/
def cancelEvent (eventId : Nat) : Except Error State :=
  transition s eventId .cancelled

def completeEvent (eventId : Nat) : Except Error State :=
  transition s eventId .completed

structure Member where
  id : Nat
  displayName : String := ""
  fullName : String := ""
  username : String := ""
  email : String := ""
  phone : String := ""

/-- The settings and the keyed hash of the address index. -/
structure PiiSettings where
  encryptionEnabled : Bool := false
  dualRead : Bool := false
  generation : Nat := 0
  eventEmailHash : Nat → Nat → Nat → String → String := fun _ _ _ email => email

/-- The arguments of `register`, the new key, settings and gates. -/
structure RegisterRequest where
  newId : Nat
  eventId : Nat
  member : Option Member := none
  name : String := ""
  email : String := ""
  phone : String := ""
  staffRegistration : Bool := false
  collaborative : Bool := false
  viaMakerspaceId : Option Nat := none
  pii : PiiSettings := {}
  gate : Except String Unit := .ok ()

/-- Python's `a or b` on text. -/
def textOr (a b : String) : String :=
  if a = "" then b else a

def RegisterRequest.storedName (request : RegisterRequest) : String :=
  Python.strip <| match request.member with
    | some member => textOr member.displayName (textOr member.fullName member.username)
    | none => request.name

def RegisterRequest.normalizedEmail (request : RegisterRequest) : String :=
  Python.lower <| Python.strip <| match request.member with
    | some member => textOr member.email request.email
    | none => request.email

def RegisterRequest.storedPhone (request : RegisterRequest) : String :=
  Python.strip <| match request.member with
    | some member => textOr member.phone request.phone
    | none => request.phone

/-- The branch of `_existing_registration` that looks the address up. -/
def existingByEmail (event : Event) (pii : PiiSettings) (normalizedEmail : String) :
    Option Registration :=
  let ofEvent := registrationsOf s event.id
  if pii.encryptionEnabled then
    let hash := pii.eventEmailHash pii.generation event.makerspaceId event.id normalizedEmail
    let existing := ofEvent.find? fun r =>
      r.emailHashGeneration = some pii.generation && r.emailExactHash = some hash
        && Python.lower (Python.strip r.email) = normalizedEmail
    let legacy := ofEvent.find? fun r =>
      pii.dualRead && !r.emailEncrypted && Python.lower (Python.strip r.email) = normalizedEmail
    legacy.or existing
  else
    ofEvent.find? fun r => r.email = normalizedEmail

def existingRegistration (event : Event) (member : Option Member) (pii : PiiSettings)
    (normalizedEmail : String) : Option Registration :=
  let byMember := member.bind fun member =>
    (registrationsOf s event.id).find? fun r => r.memberId = some member.id
  byMember.or (existingByEmail s event pii normalizedEmail)

def validateRegistration (row : Registration) : Except Error Unit :=
  let blank := [("name", row.name), ("email", row.email), ("phone", row.phone)].filter
    fun field => field.2 = ""
  require (blank = [])
    (.validation (blank.map fun field => (field.1, "This field cannot be blank.")))

/-- The contact fields, with the columns derived from them. -/
def RegisterRequest.writeContact (request : RegisterRequest) (event : Event)
    (row : Registration) : Registration :=
  { row with
    memberId := (request.member.map Member.id).or row.memberId
    viaMakerspaceId := request.viaMakerspaceId.getD event.makerspaceId
    name := request.storedName
    email := request.normalizedEmail
    phone := request.storedPhone
    emailEncrypted := request.pii.encryptionEnabled
    emailHashGeneration :=
      if request.pii.encryptionEnabled then some request.pii.generation
      else row.emailHashGeneration
    emailExactHash :=
      if request.pii.encryptionEnabled then
        some (request.pii.eventEmailHash request.pii.generation event.makerspaceId event.id
          request.normalizedEmail)
      else row.emailExactHash }

def existingRefusal (existing : Registration) : Error :=
  if existing.status = .rejected then
    .registrationRejected "This registration application was rejected."
  else
    .duplicateRegistration "A registration already exists for this email." existing.status

/-- The re-activation of a cancelled row by `register`. -/
def reactivate (request : RegisterRequest) (event : Event) (existing : Registration)
    (status : Status) (now : Int) : Except Error State := do
  require (existing.status = .cancelled) (existingRefusal existing)
  let row : Registration :=
    { request.writeContact event existing with status := status, createdAt := now }
  validateRegistration row
  checkConstraints s row
  return { s with
    registrations :=
      s.registrations.put { row with calendarSequence := existing.calendarSequence + 1 } }

def RegisterRequest.newRow (request : RegisterRequest) (event : Event) (status : Status)
    (now : Int) : Registration :=
  request.writeContact event
    { id := request.newId
      eventId := event.id
      name := ""
      email := ""
      phone := ""
      viaMakerspaceId := event.makerspaceId
      status := status
      createdAt := now }

def insertRegistration (row : Registration) : Except Error State := do
  validateRegistration row
  checkConstraints s row
  let registrations ← s.registrations.insertNew row (.integrity "eventregistration_pkey")
  return { s with registrations := registrations }

def closedRefusal (event : Event) (now : Int) : Error :=
  if event.status = .published ∧ now < event.endsAt
      ∧ (effectiveRegistrationCutoff event).any (fun cutoff => now ≥ cutoff) then
    .registrationClosed "Registration for this event is closed."
  else
    .invalidTransition "This event is not open for registration."

def register (request : RegisterRequest) (now : Int) : Except Error State := do
  let locked ← lockedEvent s request.eventId
  require (locked.isPublic ∨ request.staffRegistration ∨ request.collaborative)
    (.invalidTransition "This event is not open for registration.")
  require (registrationIsOpen locked now) (closedRefusal locked now)
  request.gate.mapError Error.gate
  let status := freshRegistrationStatus s locked
  match existingRegistration s locked request.member request.pii request.normalizedEmail with
  | some existing => reactivate s request locked existing status now
  | none => insertRegistration s (request.newRow locked status now)

def decisionIsOpen (event : Event) (now : Int) : Bool :=
  event.status = .published && now < event.endsAt

def approveRegistration (registrationId eventId : Nat) (now : Int) : Except Error State := do
  let (event, locked) ← lockRegistration s registrationId eventId
  require (event.registrationRequiresApproval ∧ locked.status = .pendingApproval
      ∧ decisionIsOpen event now)
    (.invalidTransition "This registration cannot be approved.")
  let newStatus : Status := if hasSpot s event then .registered else .waitlisted
  return changeStatus s locked newStatus

def rejectRegistration (registrationId eventId : Nat) : Except Error State := do
  let (_, locked) ← lockRegistration s registrationId eventId
  require (locked.status = .pendingApproval ∨ locked.status = .waitlisted)
    (.invalidTransition "This registration cannot be rejected.")
  return changeStatus s locked .rejected

def promoteRegistration (registrationId eventId : Nat) (now : Int) : Except Error State := do
  let (event, locked) ← lockRegistration s registrationId eventId
  require (event.registrationRequiresApproval ∧ locked.status = .waitlisted
      ∧ decisionIsOpen event now)
    (.invalidTransition "This registration cannot be promoted manually.")
  require (hasSpot s event) (.capacityConflict "No event capacity is available.")
  return promote s (selectWaiters [locked] (some 1))

def cancelRegistration (registrationId eventId : Nat) (now : Int) : Except Error State := do
  let (event, locked) ← lockRegistration s registrationId eventId
  require (locked.status = .pendingApproval ∨ locked.status = .registered
      ∨ locked.status = .waitlisted)
    (.invalidTransition "This registration cannot be cancelled.")
  let cancelled := changeStatus s locked .cancelled
  if locked.status = .registered ∧ ¬ event.registrationRequiresApproval
      ∧ 0 < event.capacity ∧ mayPromote event now then
    return promoteAutomatically cancelled event (some 1)
  else
    return cancelled

def correctAttendance (registrationId eventId : Nat) : Except Error State := do
  let (_, locked) ← lockRegistration s registrationId eventId
  require (locked.status = .attended)
    (.invalidTransition "Only attended registrations can be corrected.")
  -- an attended row is outside the partial index it re-enters here
  checkConstraints s { locked with status := .registered }
  return { s with registrations := s.registrations.put { locked with status := .registered } }

/-- `mark_attended_with_event`; the `gate` is for feature and station. -/
def markAttended (registrationId eventId operationId : Nat) (attendedAt : Int)
    (gate : Except String Unit) : Except Error State := do
  let event ← lockedEvent s eventId
  gate.mapError Error.gate
  require (∀ checkIn ∈ s.checkIns.rows, ¬ (checkIn.makerspaceId = event.makerspaceId
      ∧ checkIn.operationId = operationId)) .duplicateCheckIn
  let (_, locked) ← lockRegistration s registrationId eventId
  require (locked.status = .registered ∧ (event.status = .published ∨ event.status = .completed))
    (.invalidTransition "This registration cannot be marked attended.")
  let checkIn : CheckIn :=
    { operationId := operationId
      makerspaceId := event.makerspaceId
      eventId := event.id
      registrationId := locked.id
      attendedAt := attendedAt }
  let checkIns ← s.checkIns.insertNew checkIn (.integrity "operation_id")
  return { s with
    checkIns := checkIns
    registrations := s.registrations.put { locked with status := .attended } }

end

inductive Op
  | createEvent (event : Event) (gate : Except String Unit)
  | updateEvent (eventId : Nat) (changes : EventChanges) (now : Int)
      (gate quota : Except String Unit)
  | publish (eventId : Nat) (now : Int) (gate : Except String Unit)
  | cancelEvent (eventId : Nat)
  | completeEvent (eventId : Nat)
  | register (request : RegisterRequest) (now : Int)
  | approve (registrationId eventId : Nat) (now : Int)
  | reject (registrationId eventId : Nat)
  | promote (registrationId eventId : Nat) (now : Int)
  | cancel (registrationId eventId : Nat) (now : Int)
  | correctAttendance (registrationId eventId : Nat)
  | markAttended (registrationId eventId operationId : Nat) (attendedAt : Int)
      (gate : Except String Unit)

def step (s : State) : Op → Except Error State
  | .createEvent event gate => createEvent s event gate
  | .updateEvent eventId changes now gate quota => updateEvent s eventId changes now gate quota
  | .publish eventId now gate => publish s eventId now gate
  | .cancelEvent eventId => cancelEvent s eventId
  | .completeEvent eventId => completeEvent s eventId
  | .register request now => register s request now
  | .approve registrationId eventId now => approveRegistration s registrationId eventId now
  | .reject registrationId eventId => rejectRegistration s registrationId eventId
  | .promote registrationId eventId now => promoteRegistration s registrationId eventId now
  | .cancel registrationId eventId now => cancelRegistration s registrationId eventId now
  | .correctAttendance registrationId eventId => correctAttendance s registrationId eventId
  | .markAttended registrationId eventId operationId attendedAt gate =>
    markAttended s registrationId eventId operationId attendedAt gate

end Events
end SpaceWorks
