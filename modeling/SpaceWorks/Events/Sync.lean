import SpaceWorks.Events.Waitlist

/-!
# Synchronization of offline check-ins

A device sends check-ins in batches (`services_checkin_sync.py`, `checkin_policy.py`).  Each is
looked up with plain reads, then recorded by the locked transaction of `services_checkin.py`, so
others can commit in between.
-/

namespace SpaceWorks
namespace CheckInSync

open Checked TransactionalSystem Table List Option Prod
open Events (Event Registration CheckIn)

structure Lease where
  scanOpensAt : Int
  scanClosesAt : Int
  expiresAt : Int
  syncDeadline : Int

structure Item where
  operationId : Nat
  checkinToken : Option Nat
  reportedOccurredAt : Int

inductive Outcome
  | applied (registrationId : Nat) (attendedAt : Int)
  | duplicateOperation
  | eventUnavailable
  | outsideWindow
  | invalidToken
  | alreadyAttended
  | registrationChanged

structure Answer where
  operationId : Nat
  outcome : Outcome

structure Settings where
  clockSkew : Int := 300000000
  checkinToken : Nat → Nat

section Reads

variable (settings : Settings) (s : Events.State)

def syncIsOpen (lease : Lease) (now : Int) : Bool :=
  now ≤ lease.syncDeadline

def reportedTimeIsValid (reportedAt : Int) (lease : Lease) (receivedAt : Int) : Bool :=
  lease.scanOpensAt ≤ reportedAt && reportedAt ≤ lease.scanClosesAt
    && reportedAt ≤ lease.expiresAt && reportedAt ≤ receivedAt + settings.clockSkew

/-- The `exists()` query for an operation. -/
def recorded (makerspaceId operationId : Nat) : Bool :=
  s.checkIns.rows.any fun c => c.makerspaceId = makerspaceId && c.operationId = operationId

def admits (status : Events.EventStatus) : Bool :=
  status = .published || status = .completed

/-- `EventRegistration.objects.filter(event, checkin_token).first()`. -/
def findRegistration (eventId token : Nat) : Option Registration :=
  (Events.registrationsOf s eventId).find? fun r => settings.checkinToken r.id = token

/-- The answer of `_process` without recording, from its registration. -/
def registrationAnswer (registration : Registration) : Option Outcome :=
  if registration.status = .attended then some .alreadyAttended
  else if registration.status ≠ .registered then some .registrationChanged
  else none

/-- What `_process` reads next: a registration to record, or an outcome. -/
def lookUp (event : Event) (lease : Lease) (now : Int) (item : Item) :
    Except Outcome Registration := do
  require (reportedTimeIsValid settings item.reportedOccurredAt lease now) .outsideWindow
  let token ← orRefuse item.checkinToken .invalidToken
  let registration ← orRefuse (findRegistration settings s event.id token) .invalidToken
  match registrationAnswer registration with
  | some outcome => throw outcome
  | none => return registration

/-- The event, read again, still admits check-ins. -/
def freshAdmits (eventId : Nat) : Except Events.Error Bool := do
  let fresh ← orRefuse (s.events.get? eventId) (.doesNotExist "Event")
  return admits fresh.status

/-- The answer from the registration, read again. -/
def freshAnswer (registrationId : Nat) : Outcome :=
  if (s.registrations.get? registrationId).any fun r => r.status = .attended then
    .alreadyAttended
  else .registrationChanged

/-- `_process` without interruption; `gate` is for feature and station, and ends the request. -/
def process (event : Event) (lease : Lease) (now : Int) (gate : Except String Unit)
    (item : Item) : Except Events.Error (Events.State × Outcome) :=
  if recorded s event.makerspaceId item.operationId then pure (s, .duplicateOperation)
  else if ¬ admits event.status then pure (s, .eventUnavailable)
  else
    match lookUp settings s event lease now item with
    | .error outcome => pure (s, outcome)
    | .ok registration =>
      match Events.markAttended s registration.id event.id item.operationId
          item.reportedOccurredAt gate with
      | .ok t => pure (t, .applied registration.id item.reportedOccurredAt)
      | .error .duplicateCheckIn | .error (.integrity _) => pure (s, .duplicateOperation)
      | .error (.invalidTransition _) => do
        let admitted ← freshAdmits s event.id
        return (s, if admitted then freshAnswer s registration.id else .eventUnavailable)
      | .error e => throw e

def synchronize (event : Event) (lease : Lease) (clock : Nat → Int)
    (gate : Except String Unit) : Events.State → List Item →
    Except Events.Error (Events.State × List Answer)
  | s, [] => pure (s, [])
  | s, item :: items => do
    let (t, outcome) ← process settings s event lease (clock item.operationId) gate item
    let (u, answers) ← synchronize event lease clock gate t items
    return (u, ⟨item.operationId, outcome⟩ :: answers)

end Reads

section Devices

/-- How far `_process` has come with the first operation of the batch. -/
inductive Phase
  | unread
  | unrecorded
  | found (registrationId : Nat)
  | refused (registrationId : Nat)
  /-- The transaction was refused, and the event still admits check-ins. -/
  | admitted (registrationId : Nat)
  deriving DecidableEq

/-- A request: the event as read, what is left, and the answers. -/
structure Session where
  event : Event
  lease : Lease
  items : List Item
  phase : Phase := .unread
  answers : List Answer := []

def Session.answer (session : Session) (item : Item) (outcome : Outcome) : Session :=
  { session with
    items := session.items.tail
    phase := .unread
    answers := session.answers ++ [⟨item.operationId, outcome⟩] }

/-- One read or one transaction of `_process`. -/
def advance (settings : Settings) (s : Events.State) (session : Session) (now : Int)
    (gate : Except String Unit) (item : Item) : Except Events.Error (Events.State × Session) :=
  match session.phase with
  | .unread =>
    if recorded s session.event.makerspaceId item.operationId then
      pure (s, session.answer item .duplicateOperation)
    else if ¬ admits session.event.status then pure (s, session.answer item .eventUnavailable)
    else pure (s, { session with phase := .unrecorded })
  | .unrecorded =>
    match lookUp settings s session.event session.lease now item with
    | .error outcome => pure (s, session.answer item outcome)
    | .ok registration => pure (s, { session with phase := .found registration.id })
  | .found registrationId =>
    match Events.markAttended s registrationId session.event.id item.operationId
        item.reportedOccurredAt gate with
    | .ok t => pure (t, session.answer item (.applied registrationId item.reportedOccurredAt))
    | .error .duplicateCheckIn | .error (.integrity _) =>
      pure (s, session.answer item .duplicateOperation)
    | .error (.invalidTransition _) =>
      pure (s, { session with phase := .refused registrationId })
    | .error e => throw e
  | .refused registrationId => do
    let admitted ← freshAdmits s session.event.id
    return (s, if admitted then { session with phase := .admitted registrationId }
      else session.answer item .eventUnavailable)
  | .admitted registrationId => pure (s, session.answer item (freshAnswer s registrationId))

/-- The tables, and the request of each device. -/
structure World (ι : Type) where
  tables : Events.State
  session : ι → Option Session

variable {ι : Type} [DecidableEq ι]

inductive Op (ι : Type)
  | staff (op : Events.Op)
  | send (device : ι) (eventId : Nat) (lease : Lease) (items : List Item) (now : Int)
      (gate : Except String Unit)
  | advance (device : ι) (now : Int) (gate : Except String Unit)

inductive Error
  | event (error : Events.Error)
  | leaseExpired
  | gate (message : String)
  | validation (message : String)
  | idle

def World.setSession (w : World ι) (device : ι) (session : Option Session) : World ι :=
  { w with session := Function.update w.session device session }

@[simp] theorem setSession_self (w : World ι) (device : ι) (session : Option Session) :
    (w.setSession device session).session device = session := by
  simp [World.setSession]

theorem setSession_of_ne
    {device other : ι} (w : World ι) (session : Option Session) (h : other ≠ device) :
    (w.setSession device session).session other = w.session other := by
  simp [World.setSession, h]

def send (w : World ι) (device : ι) (eventId : Nat) (lease : Lease) (items : List Item)
    (now : Int) (gate : Except String Unit) : Except Error (World ι) := do
  gate.mapError Error.gate
  let event ← (Events.lockedEvent w.tables eventId).mapError Error.event
  require (items ≠ []) (.validation "This list may not be empty.")
  require (items.length ≤ 200) (.validation "At most 200 operations may be synchronized.")
  require ((items.map Item.operationId).Nodup)
    (.validation "Operation IDs must be unique within a batch.")
  require (syncIsOpen lease now) .leaseExpired
  return w.setSession device (some { event := event, lease := lease, items := items })

/-- One operation; a failing request ends, and its records stay. -/
def step (settings : Settings) (w : World ι) : Op ι → Except Error (World ι)
  | .staff op => do
    let tables ← (Events.step w.tables op).mapError Error.event
    return { w with tables := tables }
  | .send device eventId lease items now gate => send w device eventId lease items now gate
  | .advance device now gate =>
    match w.session device with
    | none => throw .idle
    | some session =>
      match session.items with
      | [] => throw .idle
      | item :: _ =>
        match advance settings w.tables session now gate item with
        | .ok (tables, next) =>
          pure ({ w with tables := tables }.setSession device (some next))
        | .error _ => pure (w.setSession device none)

end Devices

section Attendance

open Events (Turn)

variable {s t : Events.State} {op : Events.Op}
  {registrationId eventId operationId makerspaceId : Nat} {attendedAt : Int}
  {gate : Except String Unit}

theorem promote_checkIns (s : Events.State) (selected : List Registration) :
    (Events.promote s selected).checkIns = s.checkIns := by
  induction selected generalizing s with
  | nil => rfl
  | cons _ _ ih =>
    rw [Events.promote_cons, ih]
    rfl

theorem checkIns_of_turn (h : Turn s op t) (hop : op.recordsAttendance = false) :
    t.checkIns = s.checkIns := by
  cases h with
  | attended _ _ _ hrecords => exact absurd hrecords (by rw [hop]; decide)
  | edited | cancelled => exact promote_checkIns _ _
  | _ => rfl

theorem attended_of_turn (h : Turn s op t) (hop : op.recordsAttendance = false)
    {r : Registration} (hr : r ∈ s.registrations) (hattended : r.status = .attended) :
    r ∈ t.registrations := by
  have hother : ∀ old ∈ s.registrations, old.status ≠ .attended → r.id ≠ old.id := by
    rintro old hold hne hid
    obtain rfl : r = old := eq_of_key_eq hr hold hid
    exact hne hattended
  cases h with
  | created | moved => exact hr
  | edited =>
    refine Events.mem_promote_of_notMem hr fun hin => ?_
    obtain ⟨x, hx, hxid⟩ := List.mem_map.mp hin
    obtain ⟨hxs, -, hwaiting⟩ := Events.mem_of_mem_editPromotes hx
    exact hother x hxs (by rw [hwaiting]; decide) hxid.symm
  | registered _ _ hnew =>
    exact (mem_insert hnew).mpr (.inl hr)
  | reactivated _ old _ _ hold hcancelled hid =>
    refine mem_put.mpr (.inl ⟨hr, fun heq => ?_⟩)
    exact hother old hold (by rw [hcancelled]; decide) (heq.trans hid)
  | decided _ old _ _ _ hold _ hid _ _ _ hundecided =>
    refine mem_put.mpr (.inl ⟨hr, fun heq => ?_⟩)
    refine hother old hold (fun hbad => ?_) (heq.trans hid)
    rw [hbad] at hundecided
    exact absurd hundecided (by decide)
  | cancelled _ locked _ _ hlocked _ _ hstatus =>
    have hne : r.id ≠ locked.id := by
      refine hother locked hlocked fun hbad => ?_
      rw [hbad] at hstatus
      exact absurd hstatus (by decide)
    have hchanged : r ∈ (Events.changeStatus s locked .cancelled).registrations :=
      mem_put.mpr (.inl ⟨hr, hne⟩)
    refine Events.mem_promote_of_notMem hchanged fun hin => ?_
    obtain ⟨x, hx, hxid⟩ := List.mem_map.mp hin
    obtain ⟨hxs, -, hwaiting⟩ := Events.mem_of_mem_cancelPromotes hx
    obtain rfl : x = r := eq_of_key_eq hxs hchanged hxid
    exact nomatch hattended.symm.trans hwaiting
  | attended _ _ _ hrecords => exact absurd hrecords (by rw [hop]; decide)

theorem markAttended_ok
    (h : Events.markAttended s registrationId eventId operationId attendedAt gate = .ok t) :
    ∃ event ∈ s.events, ∃ locked ∈ s.registrations, ∃ checkIn : CheckIn,
      ∃ hnew : s.checkIns.get? (key checkIn) = none,
      event.id = eventId ∧ locked.id = registrationId ∧ locked.status = .registered ∧
      checkIn.operationId = operationId ∧ checkIn.makerspaceId = event.makerspaceId ∧
      checkIn.registrationId = registrationId ∧
      t = { s with
        checkIns := s.checkIns.insert checkIn hnew
        registrations := s.registrations.put { locked with status := .attended } } := by
  simp only [Events.markAttended, bind_ok, require_ok, pure_ok,
    Events.lockedEvent_ok, insertNew_ok] at h
  obtain ⟨event, hevent, -, -, -, -, ⟨_, locked⟩, hlock, -, ⟨hregistered, -⟩, _,
    ⟨hnew, rfl⟩, rfl⟩ := h
  obtain ⟨-, hmem, -⟩ := Events.lockRegistration_ok hlock
  obtain ⟨-, hid⟩ := Events.lockRegistration_keys hlock
  exact ⟨event, mem_of_get? hevent, locked, hmem, _, hnew, key_of_get? hevent, hid,
    hregistered, rfl, rfl, hid, rfl⟩

def attends (s : Events.State) (registrationId : Nat) : Bool :=
  (s.registrations.get? registrationId).any fun r => r.status = .attended

def checkInsOf (s : Events.State) (registrationId : Nat) : Nat :=
  s.checkIns.rows.countP fun c => c.registrationId = registrationId

/-- The check-ins, and one more if it can have it. -/
def allowance (s : Events.State) (registrationId : Nat) : Nat :=
  checkInsOf s registrationId + (if attends s registrationId then 0 else 1)

def corrects (registrationId : Nat) : Events.Op → Bool
  | .correctAttendance id _ => id = registrationId
  | _ => false

theorem attends_iff :
    attends s registrationId = true ↔
      ∃ r ∈ s.registrations, r.id = registrationId ∧ r.status = .attended := by
  simp [attends, Option.any_eq_true, get?_eq_some, and_assoc]

theorem attends_put (row : Registration) (hne : registrationId ≠ row.id)
    (h : t.registrations = s.registrations.put row) :
    attends t registrationId = attends s registrationId := by
  rw [attends, attends, h, get?_put_of_ne s.registrations hne]

theorem allowance_of_quiet (hcheckIns : t.checkIns = s.checkIns)
    (hattends : attends s registrationId = true → attends t registrationId = true) :
    allowance t registrationId ≤ allowance s registrationId := by
  have hcount : checkInsOf t registrationId = checkInsOf s registrationId := by
    rw [checkInsOf, checkInsOf, hcheckIns]
  rw [allowance, allowance, hcount]
  cases hs : attends s registrationId with
  | true => rw [hattends hs]
  | false =>
    cases attends t registrationId with
    | true => simp
    | false => exact le_rfl

theorem allowance_of_marked {marked : Nat}
    (h : Events.markAttended s marked eventId operationId attendedAt gate = .ok t) :
    allowance t registrationId ≤ allowance s registrationId := by
  obtain ⟨_, -, locked, hlocked, checkIn, hnew, -, hid, hregistered, -, -, hof, rfl⟩ :=
    markAttended_ok h
  by_cases hsame : registrationId = marked
  · subst hsame
    have hbefore : attends s registrationId = false := by
      by_contra hbad
      obtain ⟨r, hr, hrid, hattended⟩ := attends_iff.mp (Bool.not_eq_false _ ▸ hbad)
      obtain rfl : r = locked := eq_of_key_eq hr hlocked (hrid.trans hid.symm)
      exact nomatch hattended.symm.trans hregistered
    have hafter : attends { s with
        checkIns := s.checkIns.insert checkIn hnew
        registrations := s.registrations.put { locked with status := .attended } }
        registrationId = true := by
      refine attends_iff.mpr ⟨{ locked with status := .attended }, ?_, hid, rfl⟩
      exact mem_put.mpr (.inr ⟨rfl, locked, hlocked, rfl⟩)
    rw [allowance, allowance, hbefore, hafter]
    simp [checkInsOf, Table.insert, hof]
  · have hattends : attends { s with
        checkIns := s.checkIns.insert checkIn hnew
        registrations := s.registrations.put { locked with status := .attended } }
        registrationId = attends s registrationId :=
      attends_put { locked with status := .attended } (fun heq => hsame (heq.trans hid)) rfl
    rw [allowance, allowance, hattends]
    simp [checkInsOf, Table.insert, hof, Ne.symm hsame]

theorem allowance_of_step (h : Events.step s op = .ok t)
    (hop : corrects registrationId op = false) :
    allowance t registrationId ≤ allowance s registrationId := by
  cases hrecords : op.recordsAttendance with
  | false =>
    have hturn := Events.turn_of_step h
    refine allowance_of_quiet (checkIns_of_turn hturn hrecords) fun hattends => ?_
    obtain ⟨r, hr, hid, hattended⟩ := attends_iff.mp hattends
    exact attends_iff.mpr ⟨r, attended_of_turn hturn hrecords hr hattended, hid, hattended⟩
  | true =>
    cases op with
    | correctAttendance =>
      simp only [Events.step, Events.correctAttendance, bind_ok, require_ok, pure_ok] at h
      obtain ⟨⟨_, locked⟩, hlock, -, -, -, -, rfl⟩ := h
      obtain ⟨-, hid⟩ := Events.lockRegistration_keys hlock
      have hne : registrationId ≠ locked.id := fun heq =>
        of_decide_eq_false hop (hid.symm.trans heq.symm)
      refine allowance_of_quiet rfl fun hattends => ?_
      rw [attends_put (s := s) { locked with status := .registered } hne rfl]
      exact hattends
    | markAttended => exact allowance_of_marked h
    | _ => cases hrecords

theorem recorded_of_step (h : Events.step s op = .ok t)
    (hrecorded : recorded s makerspaceId operationId = true) :
    recorded t makerspaceId operationId = true := by
  have hkept : t.checkIns = s.checkIns → recorded t makerspaceId operationId = true := by
    intro hsame
    rw [recorded, hsame]
    exact hrecorded
  cases hrecords : op.recordsAttendance with
  | false => exact hkept (checkIns_of_turn (Events.turn_of_step h) hrecords)
  | true =>
    cases op with
    | correctAttendance =>
      simp only [Events.step, Events.correctAttendance, bind_ok, require_ok, pure_ok] at h
      obtain ⟨⟨_, _⟩, -, -, -, -, -, rfl⟩ := h
      exact hkept rfl
    | markAttended =>
      obtain ⟨-, -, -, -, _, _, -, -, -, -, -, -, rfl⟩ := markAttended_ok h
      simp only [recorded, Table.insert, any_append, Bool.or_eq_true]
      exact .inl hrecorded
    | _ => cases hrecords

theorem host_of_turn (h : Turn s op t)
    (hhost : ∃ event ∈ s.events, event.id = eventId ∧ event.makerspaceId = makerspaceId) :
    ∃ event ∈ t.events, event.id = eventId ∧ event.makerspaceId = makerspaceId := by
  obtain ⟨host, hmem, hid, hspace⟩ := hhost
  have hput : ∀ old ∈ s.events, ∀ saved : Event, saved.id = old.id →
      saved.makerspaceId = old.makerspaceId →
      ∃ event ∈ s.events.put saved, event.id = eventId ∧ event.makerspaceId = makerspaceId := by
    intro old hold saved hsaved hsavedSpace
    by_cases hsame : host.id = old.id
    · obtain rfl : host = old := eq_of_key_eq hmem hold hsame
      exact ⟨saved, mem_put.mpr (.inr ⟨rfl, host, hold, hsaved.symm⟩),
        hsaved.trans hid, hsavedSpace.trans hspace⟩
    · exact ⟨host, mem_put.mpr (.inl ⟨hmem, fun heq => hsame (heq.trans hsaved)⟩), hid, hspace⟩
  cases h with
  | created hnew => exact ⟨host, (mem_insert hnew).mpr (.inl hmem), hid, hspace⟩
  | moved old _ _ hold => exact hput old hold _ rfl rfl
  | edited old saved hold _ hsaved hsavedSpace => exact hput old hold saved hsaved hsavedSpace
  | cancelled =>
    rw [Events.promote_events]
    exact ⟨host, hmem, hid, hspace⟩
  | _ => exact ⟨host, hmem, hid, hspace⟩

end Attendance

section Interleavings

variable {ι : Type} [DecidableEq ι] {settings : Settings} {w w' : World ι} {op : Op ι}
  {outcome : Outcome} {s t : Events.State} {now : Int} {item : Item}
  {session next : Session} {gate : Except String Unit} {registrationId makerspaceId : Nat}
  {ops : List (Op ι)} {device : ι} {known : Nat → Prop}

/-- What one read or transaction does. -/
inductive Advanced (s : Events.State) (session : Session) (item : Item) :
    Events.State → Session → Prop
  | read (phase : Phase)
      (hlooked : session.phase = .unread →
        recorded s session.event.makerspaceId item.operationId = false) :
      Advanced s session item s { session with phase := phase }
  | answered (outcome : Outcome)
      (hunapplied : ∀ registrationId attendedAt, outcome ≠ .applied registrationId attendedAt)
      (hlooked : session.phase = .unread →
        recorded s session.event.makerspaceId item.operationId = true →
        outcome = .duplicateOperation) :
      Advanced s session item s (session.answer item outcome)
  | applied {t : Events.State} (registrationId : Nat) (gate : Except String Unit)
      (hphase : session.phase ≠ .unread)
      (hmark : Events.markAttended s registrationId session.event.id item.operationId
        item.reportedOccurredAt gate = .ok t) :
      Advanced s session item t
        (session.answer item (.applied registrationId item.reportedOccurredAt))

theorem registrationAnswer_unapplied {registration : Registration}
    (h : registrationAnswer registration = some outcome) :
    ∀ registrationId attendedAt, outcome ≠ .applied registrationId attendedAt := by
  unfold registrationAnswer at h
  split at h
  · exact some.inj h ▸ nofun
  · split at h
    · exact some.inj h ▸ nofun
    · cases h

theorem lookUp_unapplied {event : Event} {lease : Lease}
    (h : lookUp settings s event lease now item = .error outcome) :
    ∀ registrationId attendedAt, outcome ≠ .applied registrationId attendedAt := by
  simp only [lookUp, bind_eq_error, require_eq_error, require_ok, orRefuse_eq_error,
    orRefuse_ok] at h
  rcases h with ⟨-, rfl⟩ | ⟨-, -, ⟨-, rfl⟩ | ⟨_, -, ⟨-, rfl⟩ | ⟨_, -, h⟩⟩⟩
  · rintro _ _ ⟨⟩
  · rintro _ _ ⟨⟩
  · rintro _ _ ⟨⟩
  · split at h
    case h_1 answer hanswer =>
      obtain rfl : answer = outcome := Except.error.inj h
      exact registrationAnswer_unapplied hanswer
    case h_2 => cases h

theorem advanced_of_advance (h : advance settings s session now gate item = .ok (t, next)) :
    Advanced s session item t next := by
  unfold advance at h
  split at h
  case h_1 hphase =>
    split at h
    case isTrue hrecorded =>
      obtain ⟨rfl, rfl⟩ := mk.inj (pure_ok.mp h)
      exact .answered _ (by rintro _ _ ⟨⟩) fun _ _ => rfl
    case isFalse hrecorded =>
      split at h
      case isTrue =>
        obtain ⟨rfl, rfl⟩ := mk.inj (pure_ok.mp h)
        exact .answered _ nofun fun _ hbad => absurd hbad hrecorded
      case isFalse =>
        obtain ⟨rfl, rfl⟩ := mk.inj (pure_ok.mp h)
        exact .read _ fun _ => Bool.not_eq_true _ ▸ hrecorded
  case h_2 hphase =>
    have hread : session.phase ≠ .unread := by
      rw [hphase]
      decide
    split at h
    case h_1 outcome hlook =>
      obtain ⟨rfl, rfl⟩ := mk.inj (pure_ok.mp h)
      exact .answered _ (lookUp_unapplied hlook) fun hbad => absurd hbad hread
    case h_2 registration hlook =>
      obtain ⟨rfl, rfl⟩ := mk.inj (pure_ok.mp h)
      exact .read _ fun hbad => absurd hbad hread
  case h_3 registrationId hphase =>
    have hread : session.phase ≠ .unread := by
      rw [hphase]
      rintro ⟨⟩
    split at h
    case h_1 u hmark =>
      obtain ⟨rfl, rfl⟩ := mk.inj (pure_ok.mp h)
      exact .applied registrationId gate hread hmark
    case h_2 | h_3 =>
      obtain ⟨rfl, rfl⟩ := mk.inj (pure_ok.mp h)
      exact .answered _ (by rintro _ _ ⟨⟩) fun _ _ => rfl
    case h_4 =>
      obtain ⟨rfl, rfl⟩ := mk.inj (pure_ok.mp h)
      exact .read _ fun hbad => absurd hbad hread
    case h_5 => cases h
  case h_4 registrationId hphase =>
    have hread : session.phase ≠ .unread := by
      rw [hphase]
      rintro ⟨⟩
    simp only [bind_ok, pure_ok, mk.injEq] at h
    obtain ⟨_, -, rfl, rfl⟩ := h
    split
    · exact .read _ fun hbad => absurd hbad hread
    · exact .answered _ (by rintro _ _ ⟨⟩) fun hbad => absurd hbad hread
  case h_5 registrationId hphase =>
    have hread : session.phase ≠ .unread := by
      rw [hphase]
      rintro ⟨⟩
    obtain ⟨rfl, rfl⟩ := mk.inj (pure_ok.mp h)
    refine .answered _ ?_ fun hbad => absurd hbad hread
    unfold freshAnswer
    split
    · rintro _ _ ⟨⟩
    · rintro _ _ ⟨⟩

/-- The inversion lemma of devices and staff. -/
inductive Steps (w : World ι) : Op ι → World ι → Prop
  | staff {op : Events.Op} {tables : Events.State}
      (h : Events.step w.tables op = .ok tables) :
      Steps w (.staff op) { w with tables := tables }
  | sent {device : ι} {eventId : Nat} {lease : Lease} {items : List Item} {now : Int}
      {gate : Except String Unit} (event : Event)
      (hevent : event ∈ w.tables.events) (hid : event.id = eventId) :
      Steps w (.send device eventId lease items now gate)
        (w.setSession device (some { event := event, lease := lease, items := items }))
  | advanced {device : ι} {now : Int} {gate : Except String Unit} {tables : Events.State}
      {next : Session} (session : Session) (item : Item) (rest : List Item)
      (hsession : w.session device = some session) (hitems : session.items = item :: rest)
      (hadvanced : Advanced w.tables session item tables next) :
      Steps w (.advance device now gate) ({ w with tables := tables }.setSession device (some next))
  | ended {device : ι} {now : Int} {gate : Except String Unit} :
      Steps w (.advance device now gate) (w.setSession device none)

theorem steps_of_step (h : step settings w op = .ok w') : Steps w op w' := by
  cases op with
  | staff =>
    simp [step] at h
    obtain ⟨_, htables, rfl⟩ := h
    exact .staff htables
  | send =>
    simp only [step, send, bind_ok, mapError_eq_ok, require_ok, pure_ok, Events.lockedEvent_ok] at h
    obtain ⟨-, -, event, hevent, -, -, -, -, -, -, -, -, rfl⟩ := h
    exact .sent event (mem_of_get? hevent) (key_of_get? hevent)
  | advance =>
    simp only [step] at h
    split at h
    case h_1 => cases h
    case h_2 session hsession =>
      split at h
      case h_1 => cases h
      case h_2 item rest hitems =>
        split at h
        case h_1 tables next hadvance =>
          obtain rfl := pure_ok.mp h
          exact .advanced session item rest hsession hitems (advanced_of_advance hadvance)
        case h_2 =>
          obtain rfl := pure_ok.mp h
          exact .ended

theorem tables_of_steps (h : Steps w op w') :
    w'.tables = w.tables ∨ ∃ eventOp, Events.step w.tables eventOp = .ok w'.tables ∧
      (op = .staff eventOp ∨ ∀ registrationId, corrects registrationId eventOp = false) := by
  cases h with
  | staff h => exact .inr ⟨_, h, .inl rfl⟩
  | sent => exact .inl rfl
  | advanced session item _ _ _ hadvanced =>
    cases hadvanced with
    | read | answered => exact .inl rfl
    | applied registrationId gate _ hmark =>
      exact .inr ⟨.markAttended registrationId session.event.id item.operationId
        item.reportedOccurredAt gate, hmark, .inr fun _ => rfl⟩
  | ended => exact .inl rfl

theorem recorded_preserved (makerspaceId operationId : Nat) :
    Preserves (step (ι := ι) settings)
      fun w => recorded w.tables makerspaceId operationId = true := by
  intro w op w' hrecorded h
  rcases tables_of_steps (steps_of_step h) with hsame | ⟨_, hstep, -⟩
  · rw [hsame]
    exact hrecorded
  · exact recorded_of_step hstep hrecorded

def LeavesAttendance (settings : Settings) (registrationId : Nat) (w : World ι) (op : Op ι) :
    Prop :=
  ∀ eventOp w', op = .staff eventOp → step settings w op = .ok w' →
    corrects registrationId eventOp = false

theorem allowance_of_run
    (h : Throughout (step settings) (LeavesAttendance settings registrationId) w ops) :
    allowance (run (step settings) w ops).tables registrationId ≤
      allowance w.tables registrationId := by
  refine run_preserves_throughout
    (I := fun w' => allowance w'.tables registrationId ≤ allowance w.tables registrationId)
    (fun {u op u'} hu hop hstep => ?_) le_rfl h
  rcases tables_of_steps (steps_of_step hstep) with hsame | ⟨eventOp, hevent, hstaff | hnone⟩
  · rw [hsame]
    exact hu
  · exact (allowance_of_step hevent (hop eventOp u' hstaff hstep)).trans hu
  · exact (allowance_of_step hevent (hnone registrationId)).trans hu

theorem checkIns_of_run
    (h : Throughout (step settings) (LeavesAttendance settings registrationId) w ops) :
    checkInsOf (run (step settings) w ops).tables registrationId ≤
      checkInsOf w.tables registrationId + 1 := by
  have hallowance := allowance_of_run h
  unfold allowance at hallowance
  split at hallowance <;> split at hallowance <;> omega

/-- The event has its host, and applied answers are recorded. -/
structure Backed (s : Events.State) (session : Session) : Prop where
  host : ∃ event ∈ s.events, event.id = session.event.id ∧
    event.makerspaceId = session.event.makerspaceId
  applied : ∀ answer ∈ session.answers, ∀ registrationId attendedAt,
    answer.outcome = .applied registrationId attendedAt →
    recorded s session.event.makerspaceId answer.operationId = true

theorem Backed.of_step {eventOp : Events.Op}
    (h : Backed s session) (hstep : Events.step s eventOp = .ok t) : Backed t session where
  host := host_of_turn (Events.turn_of_step hstep) h.host
  applied answer hanswer registrationId attendedAt happlied :=
    recorded_of_step hstep (h.applied answer hanswer registrationId attendedAt happlied)

theorem Backed.answer (h : Backed s session)
    (hanswer : ∀ registrationId attendedAt, outcome = .applied registrationId attendedAt →
      recorded s session.event.makerspaceId item.operationId = true) :
    Backed s (session.answer item outcome) where
  host := h.host
  applied answer hin registrationId attendedAt happlied := by
    rcases mem_append.mp hin with hold | hnew
    · exact h.applied answer hold registrationId attendedAt happlied
    · obtain rfl := mem_singleton.mp hnew
      exact hanswer registrationId attendedAt happlied

theorem recorded_of_marked {operationId : Nat} {attendedAt : Int} (h : Backed s session)
    (hmark : Events.markAttended s registrationId session.event.id operationId attendedAt gate =
      .ok t) :
    recorded t session.event.makerspaceId operationId = true := by
  obtain ⟨event, hevent, _, -, checkIn, _, hid, -, -, hoperation, hspace, -, rfl⟩ :=
    markAttended_ok hmark
  obtain ⟨host, hhost, hhostId, hhostSpace⟩ := h.host
  obtain rfl : event = host := eq_of_key_eq hevent hhost (hid.trans hhostId.symm)
  simp only [recorded, Table.insert, any_append, Bool.or_eq_true, List.any_eq_true,
    mem_singleton, Bool.and_eq_true, decide_eq_true_eq]
  exact .inr ⟨checkIn, rfl, hspace.trans hhostSpace, hoperation⟩

def AllBacked (w : World ι) : Prop :=
  ∀ device session, w.session device = some session → Backed w.tables session

theorem AllBacked.setSession {next : Option Session} (h : AllBacked w)
    (hnext : ∀ session, next = some session → Backed w.tables session) :
    AllBacked (w.setSession device next) := by
  intro other session hsession
  by_cases hsame : other = device
  · subst hsame
    rw [setSession_self] at hsession
    exact hnext session hsession
  · rw [setSession_of_ne w next hsame] at hsession
    exact h other session hsession

theorem allBacked_preserved : Preserves (step (ι := ι) settings) AllBacked := by
  intro w op w' h hstep
  have hmoved : ∀ {eventOp : Events.Op} {tables : Events.State},
      Events.step w.tables eventOp = .ok tables → AllBacked { w with tables := tables } :=
    fun hevent device session hsession => (h device session hsession).of_step hevent
  cases steps_of_step hstep with
  | staff hevent => exact hmoved hevent
  | sent event hevent =>
    refine h.setSession fun session hsession => ?_
    cases hsession
    exact ⟨⟨event, hevent, rfl, rfl⟩, nofun⟩
  | @advanced device _ gate tables next session item _ hsession _ hadvanced =>
    have hbacked := h device session hsession
    cases hadvanced with
    | read =>
      refine h.setSession fun next hnext => ?_
      cases hnext
      exact ⟨hbacked.host, hbacked.applied⟩
    | answered _ hunapplied =>
      refine h.setSession fun next hnext => ?_
      cases hnext
      exact hbacked.answer fun registrationId attendedAt happlied =>
        absurd happlied (hunapplied registrationId attendedAt)
    | applied registrationId gate _ hmark =>
      have hevent : Events.step w.tables (.markAttended registrationId session.event.id
          item.operationId item.reportedOccurredAt gate) = .ok tables := hmark
      refine (hmoved hevent).setSession fun next hnext => ?_
      cases hnext
      exact (hbacked.of_step hevent).answer fun _ _ _ => recorded_of_marked hbacked hmark
  | ended =>
    refine h.setSession fun session hsession => ?_
    cases hsession

def Op.sends (device : ι) : Op ι → Prop
  | .send other _ _ _ _ _ => other = device
  | _ => False

/-- A batch sent again, with the operations known then. -/
structure Echoes (makerspaceId : Nat) (known : Nat → Prop) (device : ι) (w : World ι) :
    Prop where
  recorded : ∀ operationId, known operationId → recorded w.tables makerspaceId operationId = true
  session : ∀ session, w.session device = some session → session.event.makerspaceId = makerspaceId ∧
    (∀ answer ∈ session.answers, known answer.operationId → answer.outcome = .duplicateOperation) ∧
    (session.phase ≠ .unread → ∀ item ∈ session.items.head?, ¬ known item.operationId)

theorem Echoes.setSession {tables : Events.State} (hrecorded : ∀ operationId, known operationId →
      CheckInSync.recorded tables makerspaceId operationId = true)
    (hspace : next.event.makerspaceId = makerspaceId)
    (hanswers : ∀ answer ∈ next.answers, known answer.operationId →
      answer.outcome = .duplicateOperation)
    (hphase : next.phase ≠ .unread → ∀ item ∈ next.items.head?, ¬ known item.operationId) :
    Echoes makerspaceId known device
      ({ w with tables := tables }.setSession device (some next)) where
  recorded := hrecorded
  session other hother := by
    rw [setSession_self] at hother
    cases hother
    exact ⟨hspace, hanswers, hphase⟩

theorem echoes_of_step (h : Echoes makerspaceId known device w) (hop : ¬ op.sends device)
    (hstep : step settings w op = .ok w') :
    Echoes makerspaceId known device w' := by
  have hrecorded : ∀ operationId, known operationId →
      CheckInSync.recorded w'.tables makerspaceId operationId = true := fun id hid =>
    recorded_preserved makerspaceId id (h.recorded id hid) hstep
  cases steps_of_step hstep with
  | staff => exact ⟨hrecorded, h.session⟩
  | @sent =>
    refine ⟨hrecorded, fun session hsession => ?_⟩
    rw [setSession_of_ne w _ (Ne.symm hop)] at hsession
    exact h.session session hsession
  | @ended other =>
    refine ⟨hrecorded, fun session hsession => ?_⟩
    by_cases hsame : device = other
    · subst hsame
      rw [setSession_self] at hsession
      cases hsession
    · rw [setSession_of_ne w _ hsame] at hsession
      exact h.session session hsession
  | @advanced other _ gate _ _ session item _ hsession hitems hadvanced =>
    by_cases hsame : device = other
    · subst hsame
      obtain ⟨hspace, hanswers, hphase⟩ := h.session session hsession
      have hhead : session.phase ≠ .unread → ¬ known item.operationId := fun hread =>
        hphase hread item (by rw [hitems]; rfl)
      have hnext : ∀ outcome, (known item.operationId → outcome = .duplicateOperation) →
          ∀ answer ∈ (session.answer item outcome).answers, known answer.operationId →
            answer.outcome = .duplicateOperation := by
        intro outcome hecho answer hanswer hknown
        rcases mem_append.mp hanswer with hold | hlast
        · exact hanswers answer hold hknown
        · obtain rfl := mem_singleton.mp hlast
          exact hecho hknown
      cases hadvanced with
      | read _ hlooked =>
        refine .setSession hrecorded hspace hanswers fun _ other hother hknown => ?_
        rw [hitems, head?_cons, mem_some_iff] at hother
        subst hother
        -- a known operation is found recorded by the first read
        by_cases hread : session.phase = .unread
        · have hmissing := hlooked hread
          rw [hspace, h.recorded item.operationId hknown] at hmissing
          cases hmissing
        · exact hhead hread hknown
      | answered outcome _ hlooked =>
        refine .setSession hrecorded hspace (hnext outcome fun hknown => ?_) nofun
        by_cases hread : session.phase = .unread
        · exact hlooked hread (by rw [hspace]; exact h.recorded item.operationId hknown)
        · exact absurd hknown (hhead hread)
      | applied _ _ hread =>
        exact .setSession hrecorded hspace (hnext _ fun hknown => absurd hknown (hhead hread)) nofun
    · refine ⟨hrecorded, fun mine hmine => ?_⟩
      rw [setSession_of_ne _ _ hsame] at hmine
      exact h.session mine hmine

theorem tables_of_echo
    (h : Echoes makerspaceId known device w) (hsession : w.session device = some session)
    (hhead : ∀ item ∈ session.items.head?, known item.operationId)
    (hstep : step settings w (.advance device now gate) = .ok w') :
    w'.tables = w.tables := by
  cases steps_of_step hstep with
  | ended => rfl
  | advanced other item _ hother hitems hadvanced =>
    obtain rfl : other = session := some.inj (hother.symm.trans hsession)
    cases hadvanced with
    | read | answered => rfl
    | applied _ _ hread =>
      have hitem : item ∈ other.items.head? := by rw [hitems]; rfl
      exact absurd (hhead item hitem) ((h.session other hsession).2.2 hread item hitem)

end Interleavings

section

variable {settings : Settings} {s t : Events.State} {event : Event} {lease : Lease} {now : Int}
variable {gate : Except String Unit} {item : Item}
  {outcome : Outcome} {registration locked : Registration} {now' : Int}
  {clock clock' : Nat → Int} {items : List Item} {answers : List Answer}

/-- The answer that `_process` gives from its reads alone. -/
def settledAnswer (settings : Settings) (s : Events.State) (event : Event) (lease : Lease)
    (now : Int) (item : Item) : Option Outcome :=
  if recorded s event.makerspaceId item.operationId then some .duplicateOperation
  else if ¬ admits event.status then some .eventUnavailable
  else
    match lookUp settings s event lease now item with
    | .error outcome => some outcome
    | .ok _ => none

theorem process_of_settled (h : settledAnswer settings s event lease now item = some outcome) :
    process settings s event lease now gate item = .ok (s, outcome) := by
  unfold settledAnswer at h
  unfold process
  split at h
  case isTrue hrecorded =>
    rw [if_pos hrecorded, some.inj h]
    rfl
  case isFalse hrecorded =>
    rw [if_neg hrecorded]
    split at h
    case isTrue hclosed =>
      rw [if_pos hclosed, some.inj h]
      rfl
    case isFalse hopen =>
      rw [if_neg hopen]
      split at h
      case h_1 answer hlook =>
        rw [some.inj h]
        rfl
      case h_2 => cases h

theorem settled_unapplied (h : settledAnswer settings s event lease now item = some outcome) :
    ∀ registrationId attendedAt, outcome ≠ .applied registrationId attendedAt := by
  unfold settledAnswer at h
  split at h
  · exact some.inj h ▸ nofun
  · split at h
    · exact some.inj h ▸ nofun
    · split at h
      case h_1 answer hlook => exact some.inj h ▸ lookUp_unapplied hlook
      case h_2 => cases h

theorem lookUp_ok (h : lookUp settings s event lease now item = .ok registration) :
    registration ∈ s.registrations ∧ registration.eventId = event.id ∧
      registration.status = .registered := by
  simp only [lookUp, bind_ok, require_ok, orRefuse_ok] at h
  obtain ⟨-, -, _, -, _, hfound, h⟩ := h
  split at h
  case h_1 => cases h
  case h_2 hanswer =>
    obtain rfl := pure_ok.mp h
    have hmem := List.mem_of_find?_eq_some hfound
    rw [Events.registrationsOf, mem_insertionSort, mem_filter] at hmem
    refine ⟨hmem.1, of_decide_eq_true hmem.2, ?_⟩
    unfold registrationAnswer at hanswer
    split at hanswer
    · cases hanswer
    · split at hanswer
      · cases hanswer
      case isFalse hregistered => exact not_not.mp hregistered

/-- No other makerspace has recorded the operation. -/
def Native (s : Events.State) (event : Event) (operationId : Nat) : Prop :=
  ∀ checkIn ∈ s.checkIns, checkIn.operationId = operationId →
    checkIn.makerspaceId = event.makerspaceId

theorem markAttended_of_lookUp
    (hevent : s.events.get? event.id = some event) (hnative : Native s event item.operationId)
    (hfree : recorded s event.makerspaceId item.operationId = false)
    (hopen : admits event.status = true)
    (hfound : lookUp settings s event lease now item = .ok registration) :
    ∃ t, Events.markAttended s registration.id event.id item.operationId
      item.reportedOccurredAt (.ok ()) = .ok t := by
  obtain ⟨hmem, hof, hregistered⟩ := lookUp_ok hfound
  have hlock : Events.lockRegistration s registration.id event.id = .ok (event, registration) := by
    simp only [Events.lockRegistration, bind_ok, Events.lockedEvent_ok, orRefuse_ok,
      require_ok, pure_ok]
    exact ⟨event, hevent, registration, get?_key hmem, (), hof, rfl⟩
  have habsent : ∀ checkIn ∈ s.checkIns, checkIn.operationId ≠ item.operationId := by
    intro checkIn hcheckIn hsame
    refine absurd (List.any_eq_true.mpr ⟨checkIn, hcheckIn, ?_⟩) (Bool.not_eq_true _ ▸ hfree)
    simp [hsame, hnative checkIn hcheckIn hsame]
  simp only [Events.markAttended, bind_ok, Events.lockedEvent_ok, require_ok, pure_ok,
    mapError_eq_ok, insertNew_ok]
  refine ⟨_, event, hevent, (), trivial, (), fun checkIn hcheckIn hbad => ?_, (event, registration),
    hlock, (), ⟨hregistered, ?_⟩, _, ⟨get?_eq_none.mpr habsent, rfl⟩, rfl⟩
  · exact habsent checkIn hcheckIn hbad.2
  · simpa [admits] using hopen

theorem process_cases (hevent : s.events.get? event.id = some event)
    (hnative : Native s event item.operationId)
    (h : process settings s event lease now gate item = .ok (t, outcome)) :
    (settledAnswer settings s event lease now item = some outcome ∧ t = s) ∨
      ∃ registrationId, outcome = .applied registrationId item.reportedOccurredAt ∧
        Events.markAttended s registrationId event.id item.operationId item.reportedOccurredAt
          gate = .ok t := by
  cases hsettled : settledAnswer settings s event lease now item with
  | some =>
    rw [process_of_settled hsettled] at h
    obtain ⟨rfl, rfl⟩ := mk.inj (Except.ok.inj h)
    exact .inl ⟨rfl, rfl⟩
  | none =>
    refine .inr ?_
    unfold settledAnswer at hsettled
    split at hsettled
    case isTrue => cases hsettled
    case isFalse hfree =>
      split at hsettled
      case isTrue => cases hsettled
      case isFalse hopen =>
        split at hsettled
        case h_1 => cases hsettled
        case h_2 registration hfound =>
          unfold process at h
          rw [if_neg hfree, if_neg hopen, hfound] at h
          cases hgate : gate with
          | ok =>
            obtain ⟨_, hmark⟩ := markAttended_of_lookUp hevent hnative
              (Bool.not_eq_true _ ▸ hfree) (not_not.mp hopen) hfound
            rw [hgate] at h
            simp only [hmark] at h
            obtain ⟨rfl, rfl⟩ := mk.inj (pure_ok.mp h)
            exact ⟨registration.id, rfl, hmark⟩
          | error message =>
            have hrefused : Events.markAttended s registration.id event.id item.operationId
                item.reportedOccurredAt (.error message) = .error (.gate message) := by
              rw [Events.markAttended, Events.lockedEvent_ok.mpr hevent]
              rfl
            rw [hgate] at h
            simp only [hrefused] at h
            cases h

/-- Recording leaves events, settled answers and other operations alone. -/
structure Follows (settings : Settings) (event : Event) (operationIds : List Nat)
    (s t : Events.State) : Prop where
  events : t.events = s.events
  settled : ∀ lease now item outcome, item.operationId ∉ operationIds →
    settledAnswer settings s event lease now item = some outcome →
    settledAnswer settings t event lease now item = some outcome
  native : ∀ operationId, Native s event operationId → Native t event operationId

theorem Follows.refl (settings : Settings) (event : Event) (operationIds : List Nat)
    (s : Events.State) : Follows settings event operationIds s s where
  events := rfl
  settled _ _ _ _ _ h := h
  native _ h := h

theorem Follows.trans {ids more : List Nat} {u : Events.State} (h : Follows settings event ids s t)
    (h' : Follows settings event more t u) : Follows settings event (ids ++ more) s u where
  events := h'.events.trans h.events
  settled lease now item outcome hout hsettled := by
    rw [mem_append, not_or] at hout
    exact h'.settled lease now item outcome hout.2
      (h.settled lease now item outcome hout.1 hsettled)
  native operationId hnative := h'.native operationId (h.native operationId hnative)

def written (row r : Registration) : Registration :=
  if r.id = row.id then row else r

theorem written_id (row r : Registration) : (written row r).id = r.id := by
  unfold written
  split
  case isTrue hid => exact hid.symm
  case isFalse => rfl

theorem written_of_ne {row r : Registration} (h : r.id ≠ row.id) : written row r = r :=
  if_neg h

theorem registrationsOf_put (hlocked : locked ∈ s.registrations) (status : Events.Status)
    (checkIns : Table CheckIn) (eventId : Nat) :
    Events.registrationsOf { s with
        checkIns := checkIns
        registrations := s.registrations.put { locked with status := status } } eventId =
      (Events.registrationsOf s eventId).map (written { locked with status := status }) := by
  have hsame : ∀ r ∈ s.registrations,
      (written { locked with status := status } r).eventId = r.eventId ∧
      (written { locked with status := status } r).createdAt = r.createdAt := by
    intro r hr
    unfold written
    split
    case isTrue hid =>
      obtain rfl : r = locked := eq_of_key_eq hr hlocked hid
      exact ⟨rfl, rfl⟩
    case isFalse => exact ⟨rfl, rfl⟩
  have hrows : (s.registrations.put { locked with status := status }).rows =
      s.registrations.rows.map (written { locked with status := status }) := rfl
  have hfilter : (s.registrations.rows.filter
      ((fun r => decide (r.eventId = eventId)) ∘ written { locked with status := status })) =
      s.registrations.rows.filter fun r => r.eventId = eventId := by
    refine filter_congr fun r hr => ?_
    rw [Function.comp_apply, (hsame r hr).1]
  rw [Events.registrationsOf, Events.registrationsOf, hrows, List.filter_map, hfilter]
  refine (map_insertionSort Registration.precedes Registration.precedes
    (written { locked with status := status }) _ ?_).symm
  intro a ha b hb
  have hsameA := hsame a (mem_of_mem_filter ha)
  have hsameB := hsame b (mem_of_mem_filter hb)
  simp [Registration.precedes, written_id, hsameA.2, hsameB.2]

theorem lookUp_put (hlocked : locked ∈ s.registrations)
    (hregistered : locked.status = .registered) (checkIns : Table CheckIn)
    (h : lookUp settings s event lease now item = .error outcome) :
    lookUp settings { s with
      checkIns := checkIns
      registrations := s.registrations.put { locked with status := .attended } } event lease now
        item = .error outcome := by
  have hfind : ∀ token, findRegistration settings { s with
      checkIns := checkIns
      registrations := s.registrations.put { locked with status := .attended } } event.id token =
      (findRegistration settings s event.id token).map
        (written { locked with status := .attended }) := by
    intro token
    rw [findRegistration, registrationsOf_put hlocked, List.find?_map]
    congr 2
    funext r
    rw [Function.comp_apply, written_id]
  simp only [lookUp, bind_eq_error, require_eq_error, require_ok, orRefuse_eq_error,
    orRefuse_ok] at h ⊢
  rcases h with hwindow | ⟨u, hwindow, htoken | ⟨token, htoken, ⟨hnone, rfl⟩ | hfound⟩⟩
  · exact .inl hwindow
  · exact .inr ⟨u, hwindow, .inl htoken⟩
  · refine .inr ⟨u, hwindow, .inr ⟨token, htoken, .inl ⟨?_, rfl⟩⟩⟩
    rw [hfind, hnone]
    rfl
  · obtain ⟨registration, hregistration, hanswer⟩ := hfound
    refine .inr ⟨u, hwindow, .inr ⟨token, htoken, .inr ⟨registration, ?_, hanswer⟩⟩⟩
    -- the recorded registration had no answer
    have hne : registration.id ≠ locked.id := by
      intro hid
      have hmem := List.mem_of_find?_eq_some hregistration
      rw [Events.registrationsOf, mem_insertionSort, mem_filter] at hmem
      obtain rfl : registration = locked := eq_of_key_eq hmem.1 hlocked hid
      have hnone : registrationAnswer registration = none := by
        simp [registrationAnswer, hregistered]
      rw [hnone] at hanswer
      cases hanswer
    rw [hfind, hregistration, map_some]
    exact congrArg some (written_of_ne hne)

theorem follows_of_marked {registrationId operationId : Nat} {attendedAt : Int}
    (hevent : s.events.get? event.id = some event)
    (h : Events.markAttended s registrationId event.id operationId attendedAt gate = .ok t) :
    Follows settings event [operationId] s t := by
  obtain ⟨host, hhost, locked, hlocked, checkIn, hnew, hid, -, hregistered, hoperation, hspace, -,
    rfl⟩ := markAttended_ok h
  obtain rfl : host = event := eq_of_key_eq hhost (mem_of_get? hevent) hid
  constructor
  · rfl
  · intro lease now item outcome hout hsettled
    rw [mem_singleton] at hout
    have hrecorded : recorded { s with
        checkIns := s.checkIns.insert checkIn hnew
        registrations := s.registrations.put { locked with status := .attended } }
        host.makerspaceId item.operationId = recorded s host.makerspaceId item.operationId := by
      simp [recorded, Table.insert, hoperation, Ne.symm hout]
    unfold settledAnswer at hsettled ⊢
    rw [hrecorded]
    split
    case isTrue hknown => rwa [if_pos hknown] at hsettled
    case isFalse hfree =>
      rw [if_neg hfree] at hsettled
      split
      case isTrue hclosed => rwa [if_pos hclosed] at hsettled
      case isFalse hopen =>
        rw [if_neg hopen] at hsettled
        split at hsettled
        case h_1 answer hlook =>
          rw [lookUp_put hlocked hregistered _ hlook]
          exact hsettled
        case h_2 => cases hsettled
  · intro id hnative other hother hid
    rcases (mem_insert hnew).mp hother with hold | rfl
    · exact hnative other hold hid
    · exact hspace

/-- The answer to an operation that is sent again right away. -/
def Outcome.echo : Outcome → Outcome
  | .applied _ _ => .duplicateOperation
  | outcome => outcome

def Answer.echo (answer : Answer) : Answer :=
  { answer with outcome := answer.outcome.echo }

/-- The reported time stands as it stood at the other reading. -/
def SameWindow (settings : Settings) (lease : Lease) (now now' : Int) (item : Item) : Prop :=
  reportedTimeIsValid settings item.reportedOccurredAt lease now =
    reportedTimeIsValid settings item.reportedOccurredAt lease now'

theorem settledAnswer_congr (h : SameWindow settings lease now now' item) :
    settledAnswer settings s event lease now item =
      settledAnswer settings s event lease now' item := by
  unfold settledAnswer lookUp
  rw [h]

theorem Outcome.echo_of_unapplied
    (h : ∀ registrationId attendedAt, outcome ≠ .applied registrationId attendedAt) :
    outcome.echo = outcome := by
  cases outcome with
  | applied registrationId attendedAt => exact absurd rfl (h registrationId attendedAt)
  | _ => rfl

theorem settled_of_process (hevent : s.events.get? event.id = some event)
    (hnative : Native s event item.operationId) (hwindow : SameWindow settings lease now now' item)
    (h : process settings s event lease now gate item = .ok (t, outcome)) :
    settledAnswer settings t event lease now' item = some outcome.echo ∧
      Follows settings event [item.operationId] s t := by
  rcases process_cases hevent hnative h with ⟨hsettled, rfl⟩ | ⟨_, rfl, hmark⟩
  · rw [Outcome.echo_of_unapplied (settled_unapplied hsettled), ← settledAnswer_congr hwindow]
    exact ⟨hsettled, .refl settings event _ t⟩
  · refine ⟨?_, follows_of_marked hevent hmark⟩
    obtain ⟨host, hhost, -, -, checkIn, _, hid, -, -, hoperation, hspace, -, rfl⟩ :=
      markAttended_ok hmark
    obtain rfl : host = event := eq_of_key_eq hhost (mem_of_get? hevent) hid
    refine if_pos ?_
    simp only [recorded, Table.insert, any_append, Bool.or_eq_true, List.any_eq_true,
      mem_singleton, Bool.and_eq_true, decide_eq_true_eq]
    exact .inr ⟨checkIn, rfl, hspace, hoperation⟩

theorem settled_of_synchronize (hevent : s.events.get? event.id = some event)
    (hdistinct : (items.map Item.operationId).Nodup)
    (hnative : ∀ item ∈ items, Native s event item.operationId) (hwindow : ∀ item ∈ items,
      SameWindow settings lease (clock item.operationId) (clock' item.operationId) item)
    (h : synchronize settings event lease clock gate s items = .ok (t, answers)) :
    Follows settings event (items.map Item.operationId) s t ∧
      List.Forall₂ (fun item answer => answer.operationId = item.operationId ∧
        settledAnswer settings t event lease (clock' item.operationId) item =
          some answer.outcome.echo) items answers := by
  induction items generalizing s answers with
  | nil =>
    obtain ⟨rfl, rfl⟩ := mk.inj (pure_ok.mp h)
    exact ⟨.refl settings event _ s, .nil⟩
  | cons item _ ih =>
    simp only [synchronize, bind_ok, pure_ok, mk.injEq] at h
    obtain ⟨⟨_, _⟩, hprocess, ⟨_, _⟩, hrest, rfl, rfl⟩ := h
    rw [map_cons, nodup_cons] at hdistinct
    obtain ⟨hsettled, hfirst⟩ := settled_of_process hevent
      (hnative item mem_cons_self) (hwindow item mem_cons_self) hprocess
    obtain ⟨hlater, hanswers⟩ := ih (hfirst.events ▸ hevent) hdistinct.2
      (fun other hother => hfirst.native _ (hnative other (mem_cons_of_mem item hother)))
      (fun other hother => hwindow other (mem_cons_of_mem item hother)) hrest
    refine ⟨hfirst.trans hlater, .cons ⟨rfl, ?_⟩ hanswers⟩
    exact hlater.settled lease _ item _ hdistinct.1 hsettled

theorem synchronize_again {gate' : Except String Unit}
    (hevent : s.events.get? event.id = some event) (hdistinct : (items.map Item.operationId).Nodup)
    (hnative : ∀ item ∈ items, Native s event item.operationId) (hwindow : ∀ item ∈ items,
      SameWindow settings lease (clock item.operationId) (clock' item.operationId) item)
    (h : synchronize settings event lease clock gate s items = .ok (t, answers)) :
    synchronize settings event lease clock' gate' t items = .ok (t, answers.map Answer.echo) := by
  obtain ⟨-, hanswers⟩ := settled_of_synchronize hevent hdistinct hnative hwindow h
  clear h hdistinct hnative hwindow
  induction hanswers with
  | nil => rfl
  | @cons _ _ _ _ hfirst _ ih =>
    simp only [synchronize, bind_ok, pure_ok, map_cons]
    refine ⟨_, process_of_settled hfirst.2, _, ih, ?_⟩
    rw [Answer.echo, hfirst.1]

variable {ι : Type} [DecidableEq ι] {device : ι} {w : World ι} {session next : Session}
variable {rest : List Item}

def World.at (w : World ι) (device : ι) (tables : Events.State) (session : Session) : World ι :=
  ({ w with tables := tables }).setSession device (some session)

/-- The device's request goes on alone from one point to the other. -/
def Reaches (settings : Settings) (device : ι) (w : World ι) (s : Events.State)
    (session : Session) (t : Events.State) (next : Session) : Prop :=
  ∃ ops : List (Op ι), (∀ op ∈ ops, ∃ now gate, op = .advance device now gate) ∧
    run (step settings) (w.at device s session) ops = w.at device t next

theorem Reaches.refl (settings : Settings) (device : ι) (w : World ι) (s : Events.State)
    (session : Session) : Reaches settings device w s session s session :=
  ⟨[], fun _ hop => absurd hop not_mem_nil, rfl⟩

theorem Reaches.trans {u : Events.State} {middle : Session}
    (h : Reaches settings device w s session t middle)
    (h' : Reaches settings device w t middle u next) :
    Reaches settings device w s session u next := by
  obtain ⟨ops, hops, hrun⟩ := h
  obtain ⟨more, hmore, hrun'⟩ := h'
  refine ⟨ops ++ more, fun op hop => ?_, by rw [run_append, hrun, hrun']⟩
  exact (mem_append.mp hop).elim (hops op) (hmore op)

theorem reaches_of_advance (hitems : session.items = item :: rest)
    (h : advance settings s session now gate item = .ok (t, next)) :
    Reaches settings device w s session t next := by
  refine ⟨[.advance device now gate], fun op hop => ?_, ?_⟩
  · exact ⟨now, gate, mem_singleton.mp hop⟩
  · have hstep : step settings (w.at device s session) (.advance device now gate) =
        .ok (w.at device t next) := by
      have hsession : (w.at device s session).session device = some session :=
        setSession_self _ device _
      have htables : (w.at device s session).tables = s := rfl
      simp only [step, hsession, hitems, htables, h, pure_ok]
      simp [World.at, World.setSession]
    rw [run_cons, run_nil, settle_ok hstep]

theorem process_reached {outcome : Outcome}
    (hitems : session.items = item :: rest) (hphase : session.phase = .unread)
    (h : process settings s session.event session.lease now gate item = .ok (t, outcome)) :
    Reaches settings device w s session t (session.answer item outcome) := by
  have hone : ∀ {phase : Phase} {t' : Events.State} {next : Session},
      advance settings s { session with phase := phase } now gate item = .ok (t', next) →
      Reaches settings device w s { session with phase := phase } t' next := fun hadvance =>
    reaches_of_advance hitems hadvance
  have hstart : ∀ {t' : Events.State} {next : Session},
      advance settings s session now gate item = .ok (t', next) →
      Reaches settings device w s session t' next := reaches_of_advance hitems
  unfold process at h
  split at h
  case isTrue hrecorded =>
    obtain ⟨rfl, rfl⟩ := mk.inj (pure_ok.mp h)
    refine hstart ?_
    simp only [advance, hphase, if_pos hrecorded]
    rfl
  case isFalse hfree =>
    split at h
    case isTrue hclosed =>
      obtain ⟨rfl, rfl⟩ := mk.inj (pure_ok.mp h)
      refine hstart ?_
      simp only [advance, hphase, if_neg hfree, if_pos hclosed]
      rfl
    case isFalse hopen =>
      have hread : Reaches settings device w s session s { session with phase := .unrecorded } := by
        refine hstart ?_
        simp only [advance, hphase, if_neg hfree, if_neg hopen]
        rfl
      refine hread.trans ?_
      split at h
      case h_1 answer hlook =>
        obtain ⟨rfl, rfl⟩ := mk.inj (pure_ok.mp h)
        refine hone ?_
        simp only [advance, hlook]
        rfl
      case h_2 registration hlook =>
        have hfound : Reaches settings device w s { session with phase := .unrecorded } s
            { session with phase := .found registration.id } := by
          refine hone ?_
          simp only [advance, hlook]
          rfl
        refine hfound.trans ?_
        split at h
        case h_1 u hmark =>
          obtain ⟨rfl, rfl⟩ := mk.inj (pure_ok.mp h)
          refine hone ?_
          simp only [advance, hmark]
          rfl
        case h_2 hmark | h_3 hmark =>
          obtain ⟨rfl, rfl⟩ := mk.inj (pure_ok.mp h)
          refine hone ?_
          simp only [advance, hmark]
          rfl
        case h_4 message hmark =>
          have hrefused : Reaches settings device w s
              { session with phase := .found registration.id } s
              { session with phase := .refused registration.id } := by
            refine hone ?_
            simp only [advance, hmark]
            rfl
          refine hrefused.trans ?_
          simp only [bind_ok, pure_ok, mk.injEq] at h
          obtain ⟨admitted, hadmitted, rfl, rfl⟩ := h
          cases admitted with
          | false =>
            refine hone ?_
            simp only [advance, hadmitted]
            rfl
          | true =>
            have hadmits : Reaches settings device w s
                { session with phase := .refused registration.id } s
                { session with phase := .admitted registration.id } := by
              refine hone ?_
              simp only [advance, hadmitted]
              rfl
            exact hadmits.trans (hone rfl)
        case h_5 => cases h

/-- An uninterrupted batch is a run of its device. -/
theorem synchronize_reached {clock : Nat → Int}
    {answers : List Answer} (hphase : session.phase = .unread)
    (h : synchronize settings session.event session.lease clock gate s session.items =
      .ok (t, answers)) :
    Reaches settings device w s session t
      { session with items := [], answers := session.answers ++ answers } := by
  generalize hitems : session.items = items at h
  induction items generalizing s session answers with
  | nil =>
    obtain ⟨rfl, rfl⟩ := mk.inj (pure_ok.mp h)
    rw [append_nil, ← hitems]
    exact .refl settings device w s session
  | cons item rest ih =>
    simp only [synchronize, bind_ok, pure_ok, mk.injEq] at h
    obtain ⟨⟨u, outcome⟩, hprocess, ⟨t', answers'⟩, hrest, rfl, rfl⟩ := h
    have hfirst : Reaches settings device w s session u (session.answer item outcome) :=
      process_reached hitems hphase hprocess
    have hrestItems : (session.answer item outcome).items = rest := by
      rw [Session.answer, hitems]
      rfl
    have hlater : Reaches settings device w u (session.answer item outcome) t'
        { session.answer item outcome with
          items := []
          answers := (session.answer item outcome).answers ++ answers' } :=
      ih rfl hrestItems hrest
    refine hfirst.trans ?_
    simpa [Session.answer, hphase] using hlater

end

section Runs

variable {ι : Type} [DecidableEq ι]

def idle : World ι where
  tables := Events.noEvents
  session _ := none

omit [DecidableEq ι] in
theorem idle_backed : AllBacked (idle : World ι) := by
  intro device session hsession
  cases hsession

def reached (settings : Settings) (ops : List (Op ι)) : World ι :=
  run (step settings) idle ops

theorem echoes_of_send
    {settings : Settings} {w w' : World ι} {device : ι} {eventId : Nat} {lease : Lease}
    {items : List Item} {now : Int} {gate : Except String Unit} {event : Event}
    (hevent : w.tables.events.get? eventId = some event)
    (h : step settings w (.send device eventId lease items now gate) = .ok w') :
    Echoes event.makerspaceId
      (fun operationId => recorded w.tables event.makerspaceId operationId = true) device w' := by
  cases steps_of_step h with
  | sent host hhost hid =>
    obtain rfl : host = event := by
      refine eq_of_key_eq hhost (mem_of_get? hevent) ?_
      exact hid.trans (key_of_get? hevent).symm
    refine ⟨fun _ hknown => hknown, fun session hsession => ?_⟩
    rw [setSession_self] at hsession
    cases hsession
    exact ⟨rfl, nofun, nofun⟩

theorem echoes_of_run
    {settings : Settings} {makerspaceId : Nat} {known : Nat → Prop} {device : ι} {w : World ι}
    (h : Echoes makerspaceId known device w) {more : List (Op ι)}
    (hmore : ∀ op ∈ more, ¬ op.sends device) :
    Echoes makerspaceId known device (run (step settings) w more) :=
  run_preserves_throughout (P := fun _ op => ¬ op.sends device) echoes_of_step h
    (throughout_of_forall w hmore)

/-- **Synchronization.** A check-in has its operation id for itself, a registration gets one
check-in between corrections, and applied operations are recorded. A batch sent again is answered
with duplicates for what is recorded, changing nothing; alone, its other answers are the same. -/
theorem sync_of_run (settings : Settings) (ops : List (Op ι)) :
    (∀ checkIn ∈ (reached settings ops).tables.checkIns,
      ∀ other ∈ (reached settings ops).tables.checkIns,
      checkIn.operationId = other.operationId → checkIn = other) ∧
    (∀ registrationId more, Throughout (step settings) (LeavesAttendance settings registrationId)
        (reached settings ops) more →
      checkInsOf (reached settings (ops ++ more)).tables registrationId ≤
        checkInsOf (reached settings ops).tables registrationId + 1) ∧
    (∀ device session, (reached settings ops).session device = some session →
      ∀ answer ∈ session.answers, ∀ registrationId attendedAt,
      answer.outcome = .applied registrationId attendedAt →
      recorded (reached settings ops).tables session.event.makerspaceId answer.operationId = true) ∧
    (∀ device eventId lease items now gate event w,
      (reached settings ops).tables.events.get? eventId = some event →
      step settings (reached settings ops) (.send device eventId lease items now gate) = .ok w →
      ∀ more, (∀ op ∈ more, ¬ op.sends device) →
      ∀ session, (run (step settings) w more).session device = some session →
      (∀ answer ∈ session.answers,
        recorded (reached settings ops).tables event.makerspaceId answer.operationId = true →
        answer.outcome = .duplicateOperation) ∧
      ∀ now gate w',
        (∀ item ∈ session.items.head?,
          recorded (reached settings ops).tables event.makerspaceId item.operationId = true) →
        step settings (run (step settings) w more) (.advance device now gate) = .ok w' →
        w'.tables = (run (step settings) w more).tables) ∧
    (∀ event lease clock clock' gate gate' items t answers,
      (reached settings ops).tables.events.get? event.id = some event →
      (items.map Item.operationId).Nodup →
      (∀ item ∈ items, Native (reached settings ops).tables event item.operationId) →
      (∀ item ∈ items,
        SameWindow settings lease (clock item.operationId) (clock' item.operationId) item) →
      synchronize settings event lease clock gate (reached settings ops).tables items =
        .ok (t, answers) →
      synchronize settings event lease clock' gate' t items =
        .ok (t, answers.map Answer.echo)) := by
  refine ⟨fun checkIn hcheckIn other hother hid => eq_of_key_eq hcheckIn hother hid,
    fun registrationId more hmore => ?_, fun device session hsession => ?_,
    fun device eventId lease items now gate event w hevent hsend more hmore session hsession => ?_,
    fun event lease clock clock' gate gate' items t answers hevent hdistinct hnative hwindow h =>
      synchronize_again hevent hdistinct hnative hwindow h⟩
  · rw [reached, run_append]
    exact checkIns_of_run hmore
  · have hbacked : AllBacked (reached settings ops) :=
      run_preserves allBacked_preserved idle_backed ops
    exact (hbacked device session hsession).applied
  · have hechoes : Echoes event.makerspaceId (fun operationId =>
        recorded (reached settings ops).tables event.makerspaceId operationId = true) device
        (run (step settings) w more) := echoes_of_run (echoes_of_send hevent hsend) hmore
    refine ⟨(hechoes.session session hsession).2.1, fun now gate w' hhead hstep => ?_⟩
    exact tables_of_echo hechoes hsession hhead hstep

def plainTokens : Settings where
  checkinToken := id

def openLease : Lease where
  scanOpensAt := 0
  scanClosesAt := 1000
  expiresAt := 1000
  syncDeadline := 1000

def twoVisitors : List Events.Op :=
  [.createEvent
      { id := 1, makerspaceId := 1, startsAt := 100, endsAt := 200, isPublic := true } (.ok ()),
    .publish 1 10 (.ok ()),
    .register (Events.visitor 1 "a@example.org") 20,
    .register (Events.visitor 2 "b@example.org") 21]

def scan (operationId token : Nat) : Item where
  operationId := operationId
  checkinToken := some token
  reportedOccurredAt := 150

/-- Two scans, sent again, change nothing. -/
theorem sync_of_twoVisitors :
    ∃ event t, (reached plainTokens (twoVisitors.map (Op.staff (ι := Bool)))).tables.events.get? 1 =
        some event ∧
      synchronize plainTokens event openLease (fun _ => 170) (.ok ()) t [scan 7 1, scan 8 2] =
        .ok (t, [⟨7, .duplicateOperation⟩, ⟨8, .duplicateOperation⟩]) ∧
      checkInsOf t 1 = 1 := by
  refine ⟨_, _, rfl, (sync_of_run plainTokens (twoVisitors.map (Op.staff (ι := Bool)))).2.2.2.2
    _ openLease (fun _ => 160) (fun _ => 170) (.ok ()) (.ok ()) [scan 7 1, scan 8 2] _
    [⟨7, .applied 1 150⟩, ⟨8, .applied 2 150⟩] rfl (by decide) ?_ ?_ rfl, rfl⟩
  · intro item _ checkIn hcheckIn
    exact absurd hcheckIn not_mem_nil
  · unfold SameWindow
    decide

/-- Two scans of one visitor: sent again the first is a duplicate, and after a correction the second
is applied. -/
theorem resent_batch_answers_otherwise :
    ∃ event t u u', (run Events.step Events.noEvents twoVisitors).events.get? 1 = some event ∧
      synchronize plainTokens event openLease (fun _ => 160) (.ok ())
        (run Events.step Events.noEvents twoVisitors) [scan 7 1, scan 8 1] =
          .ok (t, [⟨7, .applied 1 150⟩, ⟨8, .alreadyAttended⟩]) ∧
      synchronize plainTokens event openLease (fun _ => 160) (.ok ()) t [scan 7 1, scan 8 1] =
        .ok (t, [⟨7, .duplicateOperation⟩, ⟨8, .alreadyAttended⟩]) ∧
      Events.step t (.correctAttendance 1 1) = .ok u ∧
      synchronize plainTokens event openLease (fun _ => 160) (.ok ()) u [scan 7 1, scan 8 1] =
        .ok (u', [⟨7, .duplicateOperation⟩, ⟨8, .applied 1 150⟩]) ∧
      checkInsOf u 1 = 1 ∧ checkInsOf u' 1 = 2 :=
  ⟨_, _, _, _, rfl, rfl, rfl, rfl, rfl, rfl, rfl⟩

/-- What an operation may do to the tables: a device marks attendance and nothing else. -/
def Op.may (op : Op ι) (eventOp : Events.Op) : Prop :=
  op = .staff eventOp ∨ (∃ device now gate, op = .advance device now gate) ∧
    ∃ registrationId eventId operationId attendedAt gate,
      eventOp = .markAttended registrationId eventId operationId attendedAt gate

/-- **Devices refine the services.**  The tables of devices and staff are those of a run of
the event services, so no scan takes an event over its capacity. -/
theorem devices_refine_services (settings : Settings) (ops : List (Op ι)) :
    (∃ eventOps, (reached settings ops).tables = run Events.step Events.noEvents eventOps ∧
      ∀ eventOp ∈ eventOps, ∃ op ∈ ops, op.may eventOp) ∧
    ∀ event ∈ (reached settings ops).tables.events, 0 < event.capacity →
      Events.confirmedOccupancy (reached settings ops).tables event.id ≤ event.capacity := by
  have hsimulates : ∀ {w w' : World ι} {op : Op ι}, step settings w op = .ok w' →
      ∃ eventOps, w'.tables = run Events.step w.tables eventOps ∧
        ∀ eventOp ∈ eventOps, op.may eventOp := by
    intro w w' op hstep
    have hone : ∀ (eventOp : Events.Op) {tables : Events.State},
        Events.step w.tables eventOp = .ok tables → op.may eventOp →
        ∃ eventOps, tables = run Events.step w.tables eventOps ∧
          ∀ eventOp ∈ eventOps, op.may eventOp := fun eventOp _ hevent hmay =>
      ⟨[eventOp], (settle_ok hevent).symm, forall_mem_singleton.mpr hmay⟩
    cases steps_of_step hstep with
    | staff hevent => exact hone _ hevent (.inl rfl)
    | sent | ended => exact ⟨[], rfl, forall_mem_nil _⟩
    | @advanced device now gate _ _ session item _ _ _ hadvanced =>
      cases hadvanced with
      | read | answered => exact ⟨[], rfl, forall_mem_nil _⟩
      | applied registrationId attendanceGate _ hmark =>
        exact hone (.markAttended registrationId session.event.id item.operationId
          item.reportedOccurredAt attendanceGate) hmark
          (.inr ⟨⟨device, now, gate, rfl⟩, _, _, _, _, _, rfl⟩)
  obtain ⟨eventOps, htables, hall⟩ := run_simulates World.tables Op.may hsimulates idle ops
  refine ⟨⟨eventOps, htables, hall⟩, ?_⟩
  have hseated : Events.Seated (run Events.step Events.noEvents eventOps) :=
    run_preserves Events.seated_preserved Events.noEvents_seated eventOps
  rw [reached, htables]
  exact hseated.occupancy_le

/-- **Batches.**  A batch that a device has sent is answered as `synchronize` answers it when
nobody commits in between. -/
theorem batch_synchronized {settings : Settings} {w w' : World ι} {device : ι} {eventId : Nat}
    {lease : Lease} {items : List Item} {now : Int} {gate gate' : Except String Unit}
    {event : Event} {clock : Nat → Int} {t : Events.State} {answers : List Answer}
    (hevent : w.tables.events.get? eventId = some event)
    (hsend : step settings w (.send device eventId lease items now gate) = .ok w')
    (h : synchronize settings event lease clock gate' w'.tables items = .ok (t, answers)) :
    ∃ ops : List (Op ι), (∀ op ∈ ops, ∃ now gate, op = .advance device now gate) ∧
      (run (step settings) w' ops).tables = t ∧
      (run (step settings) w' ops).session device = some
        { event := event, lease := lease, items := [], answers := answers } := by
  simp only [step, send, bind_ok, mapError_eq_ok, require_ok, pure_ok, Events.lockedEvent_ok,
    hevent, some.injEq] at hsend
  obtain ⟨-, -, _, rfl, -, -, -, -, -, -, -, -, rfl⟩ := hsend
  let session : Session := { event := event, lease := lease, items := items }
  have hreaches : Reaches settings device w w.tables session t _ := synchronize_reached rfl h
  obtain ⟨ops, hops, hrun⟩ := hreaches
  have hreached : run (step settings) (w.setSession device (some
      { event := event, lease := lease, items := items })) ops = w.at device t
        { event := event, lease := lease, items := [], answers := answers } := hrun
  refine ⟨ops, hops, ?_, ?_⟩
  · rw [hreached]
    rfl
  · rw [hreached]
    exact setSession_self _ device _

theorem batch_of_one_visitor :
    ∃ (w : World Bool) (ops : List (Op Bool)) (session : Session),
      step plainTokens (reached plainTokens (twoVisitors.map Op.staff))
        (.send true 1 openLease [scan 7 1, scan 8 1] 160 (.ok ())) = .ok w ∧
      (run (step plainTokens) w ops).session true = some session ∧
      session.answers = [⟨7, .applied 1 150⟩, ⟨8, .alreadyAttended⟩] := by
  obtain ⟨event, w, t, hevent, hsend, hanswers⟩ : ∃ event w t,
      (reached plainTokens (twoVisitors.map (Op.staff (ι := Bool)))).tables.events.get? 1 =
        some event ∧
      step plainTokens (reached plainTokens (twoVisitors.map Op.staff))
        (.send true 1 openLease [scan 7 1, scan 8 1] 160 (.ok ())) = .ok w ∧
      synchronize plainTokens event openLease (fun _ => 160) (.ok ()) w.tables
        [scan 7 1, scan 8 1] = .ok (t, [⟨7, .applied 1 150⟩, ⟨8, .alreadyAttended⟩]) :=
    ⟨_, _, _, rfl, rfl, rfl⟩
  obtain ⟨ops, -, -, hsession⟩ := batch_synchronized hevent hsend hanswers
  exact ⟨w, ops, _, hsend, hsession, rfl⟩

end Runs

end CheckInSync
end SpaceWorks
