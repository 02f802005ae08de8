import SpaceWorks.Library.Runs
import SpaceWorks.Library.Checked
import SpaceWorks.Library.Table

/-!
# Bookings of a makerspace's bookable spaces

Requests, decisions and lifecycle (`services_bookings.py`) and the rules of a space
(`services_rules.py`).  Every operation locks the space's row and is one step.  Times are
microseconds; clock readings are arguments, and nothing relates two of them.
-/

namespace SpaceWorks
namespace Bookings

open Checked TransactionalSystem

inductive ApprovalMode
  | instant
  | approve
  deriving DecidableEq

inductive Status
  | pending
  | confirmed
  | rejected
  | cancelled
  | completed
  | noShow
  deriving DecidableEq

def Status.text : Status → String
  | .pending => "pending"
  | .confirmed => "confirmed"
  | .rejected => "rejected"
  | .cancelled => "cancelled"
  | .completed => "completed"
  | .noShow => "no_show"

structure BookableSpace where
  id : Nat
  makerspaceId : Nat
  isActive : Bool := true
  approvalMode : ApprovalMode := .approve
  minBookingDurationMinutes : Int := 30
  maxBookingDurationMinutes : Int := 480
  bookingLeadTimeMinutes : Int := 60
  maxBookingAdvanceDays : Int := 30

structure Booking where
  id : Nat
  spaceId : Nat
  memberId : Option Nat := none
  startsAt : Int
  endsAt : Int
  status : Status := .confirmed
  note : String := ""

instance : Keyed BookableSpace Nat := ⟨BookableSpace.id⟩

instance : Keyed Booking Nat := ⟨Booking.id⟩

inductive Error
  | validation (field message : String)
  | conflict (message : String)
  | invalidTransition (message : String)
  | doesNotExist (model : String)
  /-- A refusal of the form answers, the module gate or the quota. -/
  | gate (message : String)

structure State where
  spaces : Table BookableSpace
  bookings : Table Booking

def minutes (n : Int) : Int := n * 60000000

def days (n : Int) : Int := n * 86400000000

def enforceBookingRules
    (space : BookableSpace) (startsAt endsAt now : Int) : Except Error Unit := do
  let duration := endsAt - startsAt
  require (¬ duration < minutes space.minBookingDurationMinutes)
    (.validation "ends_at"
      s!"Booking must be at least {space.minBookingDurationMinutes} minutes long.")
  require (¬ duration > minutes space.maxBookingDurationMinutes)
    (.validation "ends_at" s!"Booking cannot exceed {space.maxBookingDurationMinutes} minutes.")
  require (¬ startsAt < now + minutes space.bookingLeadTimeMinutes)
    (.validation "starts_at"
      s!"Booking must start at least {space.bookingLeadTimeMinutes} minutes from now.")
  require (¬ startsAt > now + days space.maxBookingAdvanceDays)
    (.validation "starts_at"
      s!"Booking cannot start more than {space.maxBookingAdvanceDays} days from now.")

def maxDurationMinutes : Int := 60 * 24 * 30

def maxLeadMinutes : Int := 60 * 24 * 365

def maxAdvanceDays : Int := 3650

structure RuleChanges where
  minBookingDurationMinutes : Option Int := none
  maxBookingDurationMinutes : Option Int := none
  bookingLeadTimeMinutes : Option Int := none
  maxBookingAdvanceDays : Option Int := none
  approvalMode : Option ApprovalMode := none

/-- The `setattr` loop of `update_booking_rules`. -/
def RuleChanges.apply (changes : RuleChanges) (space : BookableSpace) : BookableSpace :=
  { space with
    minBookingDurationMinutes :=
      changes.minBookingDurationMinutes.getD space.minBookingDurationMinutes
    maxBookingDurationMinutes :=
      changes.maxBookingDurationMinutes.getD space.maxBookingDurationMinutes
    bookingLeadTimeMinutes := changes.bookingLeadTimeMinutes.getD space.bookingLeadTimeMinutes
    maxBookingAdvanceDays := changes.maxBookingAdvanceDays.getD space.maxBookingAdvanceDays
    approvalMode := changes.approvalMode.getD space.approvalMode }

def checkRules (locked : BookableSpace) : Except Error Unit := do
  require (¬ locked.minBookingDurationMinutes < 1)
    (.validation "min_booking_duration_minutes" "Must be at least 1 minute.")
  require (¬ locked.maxBookingDurationMinutes < 1)
    (.validation "max_booking_duration_minutes" "Must be at least 1 minute.")
  require (¬ locked.maxBookingDurationMinutes < locked.minBookingDurationMinutes)
    (.validation "max_booking_duration_minutes" "Maximum duration cannot be below the minimum.")
  require (¬ locked.minBookingDurationMinutes > maxDurationMinutes)
    (.validation "min_booking_duration_minutes" s!"Cannot exceed {maxDurationMinutes} minutes.")
  require (¬ locked.maxBookingDurationMinutes > maxDurationMinutes)
    (.validation "max_booking_duration_minutes" s!"Cannot exceed {maxDurationMinutes} minutes.")
  require (¬ locked.bookingLeadTimeMinutes < 0)
    (.validation "booking_lead_time_minutes" "Cannot be negative.")
  require (¬ locked.bookingLeadTimeMinutes > maxLeadMinutes)
    (.validation "booking_lead_time_minutes" s!"Cannot exceed {maxLeadMinutes} minutes.")
  require (¬ locked.maxBookingAdvanceDays < 1)
    (.validation "max_booking_advance_days" "Must be at least 1 day.")
  require (¬ locked.maxBookingAdvanceDays > maxAdvanceDays)
    (.validation "max_booking_advance_days" s!"Cannot exceed {maxAdvanceDays} days.")

section Operations

variable (s : State)

def lockedSpace (spaceId : Nat) : Except Error BookableSpace :=
  orRefuse (s.spaces.get? spaceId) (.doesNotExist "BookableSpace")

def lockedBooking (bookingId spaceId : Nat) : Except Error (BookableSpace × Booking) := do
  let space ← lockedSpace s spaceId
  let locked ← orRefuse (s.bookings.get? bookingId) (.doesNotExist "Booking")
  require (locked.spaceId = space.id)
    (.invalidTransition "Booking no longer belongs to this space.")
  return (space, locked)

/-- The filter of `_confirmed_overlap`. -/
def clashes (spaceId : Nat) (startsAt endsAt : Int) (exclude : Option Nat)
    (booking : Booking) : Bool :=
  booking.spaceId = spaceId && booking.status = .confirmed && booking.startsAt < endsAt
    && booking.endsAt > startsAt
    && exclude ≠ some booking.id

def confirmedOverlap (spaceId : Nat) (startsAt endsAt : Int) (exclude : Option Nat) : Bool :=
  s.bookings.rows.any (clashes spaceId startsAt endsAt exclude)

/-- The arguments of `create_booking`, the new key, and the checks of other apps. -/
structure BookingRequest where
  newId : Nat
  spaceId : Nat
  memberId : Option Nat := none
  startsAt : Int
  endsAt : Int
  note : String := ""
  gate : Except String Unit := .ok ()

def createBooking (request : BookingRequest) (now : Int) : Except Error State := do
  let lockedSpace ← lockedSpace s request.spaceId
  require lockedSpace.isActive (.invalidTransition "Inactive spaces cannot accept bookings.")
  let status : Status :=
    if lockedSpace.approvalMode = .instant then .confirmed else .pending
  let booking : Booking :=
    { id := request.newId
      spaceId := lockedSpace.id
      memberId := request.memberId
      startsAt := request.startsAt
      endsAt := request.endsAt
      status := status
      note := request.note }
  require (¬ booking.endsAt ≤ booking.startsAt)
    (.validation "ends_at" "End time must be after start time.")
  enforceBookingRules lockedSpace request.startsAt request.endsAt now
  require (¬ request.endsAt ≤ now) (.validation "ends_at" "End time must be in the future.")
  request.gate.mapError Error.gate
  require (¬ (status = .confirmed
      ∧ confirmedOverlap s lockedSpace.id request.startsAt request.endsAt none))
    (.conflict "This space is already booked for that time.")
  let bookings ← s.bookings.insertNew booking (.gate "duplicate primary key")
  return { s with bookings := bookings }

def approveBooking (bookingId spaceId : Nat) (now : Int) : Except Error State := do
  let (space, locked) ← lockedBooking s bookingId spaceId
  require (locked.status = .pending)
    (.invalidTransition s!"Cannot transition booking from {locked.status.text} to confirmed.")
  require space.isActive (.invalidTransition "Inactive spaces cannot approve bookings.")
  require (¬ locked.endsAt ≤ now) (.invalidTransition "Ended bookings cannot be approved.")
  require (¬ confirmedOverlap s space.id locked.startsAt locked.endsAt (some locked.id))
    (.conflict "This space is already booked for that time.")
  return { s with bookings := s.bookings.put { locked with status := .confirmed } }

def rejectBooking (bookingId spaceId : Nat) : Except Error State := do
  let (_, locked) ← lockedBooking s bookingId spaceId
  require (locked.status = .pending)
    (.invalidTransition s!"Cannot transition booking from {locked.status.text} to rejected.")
  return { s with bookings := s.bookings.put { locked with status := .rejected } }

def transition (bookingId spaceId : Nat) (newStatus : Status) (requireEnded : Bool)
    (now : Int) : Except Error State := do
  let (_, locked) ← lockedBooking s bookingId spaceId
  require (locked.status = .confirmed)
    (.invalidTransition
      s!"Cannot transition booking from {locked.status.text} to {newStatus.text}.")
  require (¬ (requireEnded ∧ locked.endsAt > now)) (.invalidTransition "Booking has not ended yet.")
  return { s with bookings := s.bookings.put { locked with status := newStatus } }

def cancelBooking (bookingId spaceId : Nat) (now : Int) : Except Error State :=
  transition s bookingId spaceId .cancelled false now

def completeBooking (bookingId spaceId : Nat) (now : Int) : Except Error State :=
  transition s bookingId spaceId .completed true now

def markNoShow (bookingId spaceId : Nat) (now : Int) : Except Error State :=
  transition s bookingId spaceId .noShow true now

def updateBookingRules (spaceId : Nat) (changes : RuleChanges) : Except Error State := do
  let locked ← lockedSpace s spaceId
  require locked.isActive (.invalidTransition "Inactive spaces cannot be updated.")
  checkRules (changes.apply locked)
  return { s with spaces := s.spaces.put (changes.apply locked) }

def deactivateSpace (spaceId : Nat) : Except Error State := do
  let locked ← lockedSpace s spaceId
  require locked.isActive (.invalidTransition "Space is already inactive.")
  return { s with spaces := s.spaces.put { locked with isActive := false } }

end Operations

inductive Op
  | create (request : BookingRequest) (now : Int)
  | approve (bookingId spaceId : Nat) (now : Int)
  | reject (bookingId spaceId : Nat)
  | cancel (bookingId spaceId : Nat) (now : Int)
  | complete (bookingId spaceId : Nat) (now : Int)
  | noShow (bookingId spaceId : Nat) (now : Int)
  | updateRules (spaceId : Nat) (changes : RuleChanges)
  | deactivate (spaceId : Nat)

def step (s : State) : Op → Except Error State
  | .create request now => createBooking s request now
  | .approve bookingId spaceId now => approveBooking s bookingId spaceId now
  | .reject bookingId spaceId => rejectBooking s bookingId spaceId
  | .cancel bookingId spaceId now => cancelBooking s bookingId spaceId now
  | .complete bookingId spaceId now => completeBooking s bookingId spaceId now
  | .noShow bookingId spaceId now => markNoShow s bookingId spaceId now
  | .updateRules spaceId changes => updateBookingRules s spaceId changes
  | .deactivate spaceId => deactivateSpace s spaceId

end Bookings
end SpaceWorks
