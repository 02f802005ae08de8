import SpaceWorks.Events.Waitlist
import SpaceWorks.Payments.Rails

/-!
# The charges of event registrations

`service_payments.py` of `apps/events` raises a charge for a confirmed member and cancels the
pending one of a cancelled registration.  Its failures never reach the registration.
-/

namespace SpaceWorks
namespace EventCharges

open Checked TransactionalSystem Table List
open Events (Event Registration)
open Payments (Payment PaymentSource ClosingAnswer ChargeRequest Verifier)

structure State where
  events : Events.State
  payments : Payments.State

structure Billing where
  onlinePaymentsEnabled : Nat → Bool
  newChargesAllowed : Nat → Bool
  source : Nat → Option PaymentSource
  /-- The amount rules of `create_payment` on an amount. -/
  fee : Nat → Int → Except String Nat
  defaultCurrency : Nat → String := fun _ => "inr"
  /-- The vendor's answers when a rail is closed. -/
  answer : Nat → ClosingAnswer := fun _ => {}
  now : Int := 0

section Boundary

variable (s : Payments.State)

/-- The charge of `_get_or_create`. -/
def chargeRequest (event : Event) (registration : Registration) (billing : Billing) :
    ChargeRequest :=
  { newId := s.payments.nextKey
    makerspaceId := event.makerspaceId
    subjectType := .eventRegistration
    subjectId := registration.id
    memberId := registration.memberId
    amount := event.paymentAmount
    currency := billing.defaultCurrency event.makerspaceId
    createdAt := billing.now }

/-- `_get_or_create`, which returns any charge that exists. -/
def getOrCreate (event : Event) (registration : Registration) (billing : Billing) :
    Except Payments.Error Payments.State :=
  match Payments.paymentOfSubject s event.makerspaceId .eventRegistration registration.id with
  | some _ => pure s
  | none =>
    Payments.createPayment s (chargeRequest s event registration billing)
      (billing.newChargesAllowed event.makerspaceId) (billing.source event.makerspaceId)
      (billing.fee event.makerspaceId event.paymentAmount)

/-- The `except Exception` around charging. -/
def bestEffort (attempt : Except Payments.Error Payments.State) : Payments.State :=
  match attempt with
  | .ok t => t
  | .error _ => s

/-- `create_for_registered_registration`, but for the checkout. -/
def createForRegisteredRegistration (event : Event) (registration : Registration)
    (billing : Billing) : Payments.State :=
  if registration.memberId = none ∨ event.paymentAmount ≤ 0
      ∨ ¬ billing.onlinePaymentsEnabled event.makerspaceId then s
  else bestEffort s (getOrCreate s event registration billing)

def cancelForRegistration (event : Event) (registrationId : Nat) (billing : Billing) :
    Payments.State :=
  bestEffort s (Payments.cancelPending s event.makerspaceId .eventRegistration registrationId
    billing.answer billing.now)

end Boundary

/-- A registration confirmed now, not a corrected one. -/
def newlyRegistered (s : Events.State) (registration : Registration) : Bool :=
  registration.status = .registered
    && s.registrations.rows.all fun r => !(r.id = registration.id && r.status.confirmed)

/-- The confirmed registrations, in the order of `_promote`. -/
def confirmedBy (s t : Events.State) : List Registration :=
  (t.registrations.rows.filter (newlyRegistered s)).insertionSort Registration.precedes

def chargeOne (t : Events.State) (billing : Billing) (payments : Payments.State)
    (registration : Registration) : Payments.State :=
  match t.events.get? registration.eventId with
  | some event => createForRegisteredRegistration payments event registration billing
  | none => payments

/-- The part of `cancel_registration` about charges. -/
def cancelCharge (s : State) (op : Events.Op) (billing : Billing) : Payments.State :=
  match op with
  | .cancel registrationId eventId _ =>
    match s.events.events.get? eventId with
    | some event => cancelForRegistration s.payments event registrationId billing
    | none => s.payments
  | _ => s.payments

/-- The payments after the events went from `s` to `t`. -/
def settleCharges (s : State) (t : Events.State) (op : Events.Op) (billing : Billing) :
    Payments.State :=
  (confirmedBy s.events t).foldl (chargeOne t billing) (cancelCharge s op billing)

inductive Op
  | event (op : Events.Op) (billing : Billing)
  | payment (op : Payments.Op)

inductive Error
  | event (error : Events.Error)
  | payment (error : Payments.Error)
  | boundary

def step (v : Verifier) (s : State) : Op → Except Error State
  | .event op billing => do
    let events ← (Events.step s.events op).mapError Error.event
    return { events := events, payments := settleCharges s events op billing }
  | .payment op => do
    require (op.charges ≠ some .eventRegistration
      ∧ op.cancels.map Prod.fst ≠ some .eventRegistration) .boundary
    let payments ← (Payments.step v s.payments op).mapError Error.payment
    return { s with payments := payments }

section Rows

open Events (Turn Waiting)

variable {s t : Events.State} {op : Events.Op} {row old : Registration}

/-- How the row of a registration can come about in an operation. -/
inductive Arises (s : Events.State) (op : Events.Op) (row : Registration) : Prop
  | kept (hmem : row ∈ s.registrations)
  | seated (old : Registration) (hold : old ∈ s.registrations) (hid : row.id = old.id)
      (hevent : row.eventId = old.eventId) (hmember : row.memberId = old.memberId)
      (hseated : old.status.confirmed = true)
  | decided (old : Registration) (hold : old ∈ s.registrations) (hid : row.id = old.id)
      (hevent : row.eventId = old.eventId)
      (hundecided : old.status = .pendingApproval ∨ old.status = .waitlisted)
      (hseat : row.status ≠ .attended)
  | revived (request : Events.RegisterRequest) (now : Int) (event : Event) (old : Registration)
      (hop : op = .register request now)
      (hmem : event ∈ s.events) (hid : event.id = request.eventId)
      (hexisting : Events.existingRegistration s event request.member request.pii
        request.normalizedEmail = some old)
      (hold : old ∈ s.registrations) (hcancelled : old.status = .cancelled)
      (hrow : row.id = old.id) (hof : old.eventId = event.id) (hevent : row.eventId = event.id)
      (hseat : row.status ≠ .attended)
  | fresh (hnew : s.registrations.get? row.id = none) (hseat : row.status ≠ .attended)
  | cancelled (old : Registration) (hold : old ∈ s.registrations) (hid : row.id = old.id)
      (hevent : row.eventId = old.eventId) (hstatus : row.status = .cancelled)

theorem fresh_ne_attended (event : Event) :
    Events.freshRegistrationStatus s event ≠ .attended := by
  unfold Events.freshRegistrationStatus
  split
  · decide
  · split
    · decide
    · decide

theorem arises_of_turn (h : Turn s op t) (hrow : row ∈ t.registrations) :
    Arises s op row := by
  cases h with
  | created | moved => exact .kept hrow
  | @edited =>
    rcases Events.mem_promote hrow with ⟨x, hx, rfl⟩ | ⟨hold, -⟩
    · obtain ⟨hxs, -, hwaiting⟩ := Events.mem_of_mem_editPromotes hx
      exact .decided x hxs rfl rfl (.inr hwaiting) nofun
    · exact .kept hold
  | registered event _ hnew _ _ _ _ _ hfresh =>
    rcases (mem_insert hnew).mp hrow with hold | rfl
    · exact .kept hold
    · exact .fresh hnew (hfresh ▸ fresh_ne_attended event)
  | @reactivated request now event old joined hexisting hold hcancelled hid hmem hevent hopen hsame
      hof hcreated hfresh =>
    rcases mem_of_mem_put hrow with rfl | ⟨hmem', -⟩
    · exact .revived request now event old rfl hmem hevent hexisting hold hcancelled hid hsame
        hof (hfresh ▸ fresh_ne_attended event)
    · exact .kept hmem'
  | decided _ old _ _ _ hold hsame hid hof _ _ hundecided hseat =>
    rcases mem_of_mem_put hrow with rfl | ⟨hmem', -⟩
    · exact .decided old hold hid (hof.trans hsame.symm) hundecided hseat
    · exact .kept hmem'
  | @cancelled _ _ _ _ locked _ _ hlocked =>
    have hchanged : ∀ x ∈ (Events.changeStatus s locked .cancelled).registrations,
        x ∈ s.registrations ∨ x = locked.movedTo .cancelled := fun x hx =>
      (Events.mem_changeStatus hx).symm.imp_left fun hold => hold.1
    rcases Events.mem_promote hrow with ⟨x, hx, rfl⟩ | ⟨hold, -⟩
    · obtain ⟨hxs, -, hwaiting⟩ := Events.mem_of_mem_cancelPromotes hx
      rcases hchanged x hxs with hxs | rfl
      · exact .decided x hxs rfl rfl (.inr hwaiting) nofun
      · cases hwaiting
    · rcases hchanged row hold with hold | rfl
      · exact .kept hold
      · exact .cancelled locked hlocked rfl rfl rfl
  | attended old _ _ _ hold hid hof hmember _ hseated =>
    rcases mem_of_mem_put hrow with rfl | ⟨hmem', -⟩
    · exact .seated old hold hid hof hmember hseated
    · exact .kept hmem'

theorem exists_of_put {rows : Table Registration} (hrows : ∃ r ∈ rows, r.id = old.id) :
    ∃ r ∈ rows.put row, r.id = old.id := by
  obtain ⟨r, hr, hid⟩ := hrows
  by_cases hsame : row.id = old.id
  · exact ⟨row, mem_put.mpr (.inr ⟨rfl, r, hr, hid.trans hsame.symm⟩), hsame⟩
  · exact ⟨r, mem_put.mpr (.inl ⟨hr, fun heq => hsame (heq.symm.trans hid)⟩), hid⟩

theorem exists_of_promote {selected : List Registration}
    (h : ∃ r ∈ s.registrations, r.id = old.id) :
    ∃ r ∈ (Events.promote s selected).registrations, r.id = old.id := by
  induction selected generalizing s with
  | nil => exact h
  | cons _ _ ih =>
    exact ih (exists_of_put h)

theorem exists_of_turn (h : Turn s op t) (hold : old ∈ s.registrations) :
    ∃ row ∈ t.registrations, row.id = old.id := by
  have hkept : ∃ row ∈ s.registrations, row.id = old.id := ⟨old, hold, rfl⟩
  cases h with
  | created | moved => exact hkept
  | edited => exact exists_of_promote hkept
  | registered _ _ hnew =>
    exact ⟨old, (mem_insert hnew).mpr (.inl hold), rfl⟩
  | reactivated event other joined hexisting hother hcancelled hid hmem hevent hopen hsame hof
      hcreated hfresh =>
    exact exists_of_put hkept
  | decided event other moved hop hmem hother hsame hid hof hmember hcreated hundecided hseat
      hnew =>
    exact exists_of_put hkept
  | cancelled =>
    exact exists_of_promote (exists_of_put hkept)
  | attended =>
    exact exists_of_put hkept

theorem status_of_cancel {registrationId eventId : Nat} {now : Int}
    (h : Events.cancelRegistration s registrationId eventId now = .ok t)
    (hrow : row ∈ t.registrations) (hid : row.id = registrationId) :
    row.status = .cancelled := by
  obtain ⟨_, _, locked, _, -, hlockedId, -, -, rfl⟩ := Events.cancelRegistration_ok h
  have hself : ∀ x ∈ (Events.changeStatus s locked .cancelled).registrations,
      x.id = registrationId → x.status = .cancelled := by
    intro x hx hxid
    rcases Events.mem_changeStatus hx with rfl | ⟨-, hne⟩
    · rfl
    · exact absurd (hxid.trans hlockedId.symm) hne
  rcases Events.mem_promote hrow with ⟨x, hx, rfl⟩ | ⟨hold, -⟩
  · obtain ⟨hxs, -, hwaiting⟩ := Events.mem_of_mem_cancelPromotes hx
    exact nomatch hwaiting.symm.trans (hself x hxs hid)
  · exact hself row hold hid

end Rows

section

variable {s t : Payments.State} {event : Event} {registration : Registration} {billing : Billing}
  {before after row : Payment} {u : Events.State}

def ChargeOf (payment : Payment) (registrationId : Nat) : Prop :=
  payment.subjectType = .eventRegistration ∧ payment.subjectId = registrationId

instance (payment : Payment) (registrationId : Nat) : Decidable (ChargeOf payment registrationId) :=
  inferInstanceAs (Decidable (_ ∧ _))

theorem subject_of_toCharge (h : after.toCharge = before.toCharge) :
    after.subjectType = before.subjectType ∧ after.subjectId = before.subjectId :=
  ⟨congrArg Payments.Charge.subjectType h, congrArg Payments.Charge.subjectId h⟩

theorem ChargeOf.of_toCharge {registrationId : Nat}
    (h : ChargeOf after registrationId) (hsame : after.toCharge = before.toCharge) :
    ChargeOf before registrationId := by
  obtain ⟨htype, hid⟩ := subject_of_toCharge hsame
  exact ⟨htype.symm.trans h.1, hid.symm.trans h.2⟩

/-- Pending charges of the registration are added, and nothing else. -/
structure Raised (registrationIds : List Nat) (s t : Payments.State) : Prop where
  kept : ∀ payment ∈ s.payments, payment ∈ t.payments
  rows : ∀ payment ∈ t.payments, payment ∈ s.payments ∨
    ((∃ registrationId ∈ registrationIds, ChargeOf payment registrationId) ∧
      payment.status = .pending)

theorem Raised.refl (registrationIds : List Nat) (s : Payments.State) :
    Raised registrationIds s s where
  kept _ hpayment := hpayment
  rows _ hpayment := .inl hpayment

theorem paymentOfSubject_eq_some
    {makerspaceId subjectId : Nat} {subjectType : Payments.SubjectType} {payment : Payment}
    (h : Payments.paymentOfSubject s makerspaceId subjectType subjectId = some payment) :
    payment ∈ s.payments ∧ payment.subjectType = subjectType ∧ payment.subjectId = subjectId := by
  have hnamed := find?_some h
  simp only [Bool.and_eq_true, decide_eq_true_eq] at hnamed
  exact ⟨Payments.mem_newestFirst.mp (mem_of_find?_eq_some h), hnamed.1.2, hnamed.2⟩

theorem createForRegisteredRegistration_raised :
    Raised [registration.id] s
      (createForRegisteredRegistration s event registration billing) := by
  unfold createForRegisteredRegistration
  split
  case isTrue => exact .refl _ s
  case isFalse =>
    unfold bestEffort
    split
    case h_2 => exact .refl _ s
    case h_1 t hattempt =>
      unfold getOrCreate at hattempt
      split at hattempt
      case h_1 => exact pure_ok.mp hattempt ▸ .refl _ s
      case h_2 =>
        simp only [Payments.createPayment, bind_ok, pure_ok] at hattempt
        obtain ⟨-, -, _, -, _, -, _, hcreated, rfl⟩ := hattempt
        obtain ⟨hnew, rfl⟩ := Payments.insertPayment_ok hcreated
        constructor
        · intro payment hpayment
          exact (mem_insert hnew).mpr (.inl hpayment)
        · intro payment hpayment
          rcases (mem_insert hnew).mp hpayment with hold | rfl
          · exact .inl hold
          · exact .inr ⟨⟨registration.id, mem_singleton_self _, rfl, rfl⟩, rfl⟩

theorem checkConstraints_of_new
    (hrow : Payments.Unclaimed row) (hexternal : row.externalPaymentId = none)
    (hnone : Payments.paymentOfSubject s row.makerspaceId row.subjectType row.subjectId = none) :
    Payments.checkConstraints s row = .ok () := by
  have hsubject : ∀ p ∈ s.payments, ¬ (p.makerspaceId = row.makerspaceId ∧
      p.subjectType = row.subjectType ∧ p.subjectId = row.subjectId) := by
    rintro p hp ⟨hspace, htype, hid⟩
    have hmiss := find?_eq_none.mp hnone p (Payments.mem_newestFirst.mpr hp)
    simp [hspace, htype, hid] at hmiss
  have hbroken : Payments.brokenConstraint s row = none := by
    unfold Payments.brokenConstraint
    rw [if_neg]
    · simp [hrow.session, hrow.intent, hrow.order, hexternal]
    · intro hany
      obtain ⟨p, hp, hsame⟩ := any_eq_true.mp hany
      simp only [Bool.and_eq_true, decide_eq_true_eq] at hsame
      exact hsubject p (mem_of_mem_filter hp) ⟨hsame.1.1, hsame.1.2, hsame.2⟩
  rw [Payments.checkConstraints, hbroken]

theorem insertPayment_succeeds (hamount : 0 < row.amount)
    (hconstraints : Payments.checkConstraints s row = .ok ())
    (hnew : s.payments.get? (key row) = none) :
    Payments.insertPayment s row = .ok { s with payments := s.payments.insert row hnew } := by
  simp only [Payments.insertPayment, bind_ok, require_ok, pure_ok, insertNew_ok]
  exact ⟨(), hamount, (), hconstraints, _, ⟨hnew, rfl⟩, rfl⟩

def rowOf (request : ChargeRequest) (resolved : PaymentSource) (feeAmount : Nat) : Payment :=
  { id := request.newId
    makerspaceId := request.makerspaceId
    subjectType := request.subjectType
    subjectId := request.subjectId
    memberId := request.memberId
    amount := request.amount
    currency := request.currency
    provider := resolved.vendor
    stripeProvider := resolved.provider
    stripeConnectedAccountId := resolved.connectedAccountId
    stripeApplicationFeeAmount := feeAmount
    createdAt := request.createdAt }

theorem createPayment_inserts (request : ChargeRequest) (resolved : PaymentSource) (feeAmount : Nat)
    (hamount : 0 < request.amount) (hfresh : s.payments.get? request.newId = none)
    (hnone : Payments.paymentOfSubject s request.makerspaceId request.subjectType
      request.subjectId = none) :
    ∃ t, Payments.createPayment s request true (some resolved) (.ok feeAmount) = .ok t ∧
      rowOf request resolved feeAmount ∈ t.payments := by
  have hinsert : Payments.insertPayment s (rowOf request resolved feeAmount) =
      .ok { s with payments := s.payments.insert (rowOf request resolved feeAmount) hfresh } :=
    insertPayment_succeeds hamount (checkConstraints_of_new ⟨rfl, rfl, rfl, rfl⟩ rfl hnone) hfresh
  refine ⟨Payments.record
    { s with payments := s.payments.insert (rowOf request resolved feeAmount) hfresh }
    "payment.created" request.newId "", ?_, (mem_insert hfresh).mpr (.inr rfl)⟩
  simp only [Payments.createPayment, bind_ok, require_ok, orRefuse_some, mapError_eq_ok, pure_ok]
  exact ⟨(), trivial, resolved, rfl, feeAmount, rfl, _, hinsert, rfl⟩

/-- The provider can take a charge for the event. -/
def Billing.available (billing : Billing) (event : Event) : Bool :=
  billing.onlinePaymentsEnabled event.makerspaceId && billing.newChargesAllowed event.makerspaceId
    && (billing.source event.makerspaceId).isSome
    && (billing.fee event.makerspaceId event.paymentAmount).toBool

theorem createForRegisteredRegistration_covers
    (hmember : registration.memberId ≠ none) (hpriced : 0 < event.paymentAmount)
    (havailable : billing.available event) :
    ∃ payment ∈ (createForRegisteredRegistration s event registration billing).payments,
      ChargeOf payment registration.id := by
  simp only [Billing.available, Bool.and_eq_true] at havailable
  obtain ⟨⟨⟨honline, hallowed⟩, hsource⟩, hfee⟩ := havailable
  have hcharged : ¬ (registration.memberId = none ∨ event.paymentAmount ≤ 0 ∨
      ¬ billing.onlinePaymentsEnabled event.makerspaceId) := by
    simp [hmember, hpriced, honline]
  unfold createForRegisteredRegistration
  rw [if_neg hcharged]
  unfold bestEffort getOrCreate
  cases hfind : Payments.paymentOfSubject s event.makerspaceId .eventRegistration
      registration.id with
  | some payment =>
    obtain ⟨hmem, hsubject⟩ := paymentOfSubject_eq_some hfind
    exact ⟨payment, hmem, hsubject⟩
  | none =>
    obtain ⟨source, hsource⟩ := Option.isSome_iff_exists.mp hsource
    obtain ⟨amount, hamount⟩ : ∃ amount,
        billing.fee event.makerspaceId event.paymentAmount = .ok amount := by
      cases hfee' : billing.fee event.makerspaceId event.paymentAmount with
      | ok amount => exact ⟨amount, rfl⟩
      | error =>
        rw [hfee'] at hfee
        cases hfee
    obtain ⟨_, ht, hrow⟩ := createPayment_inserts (s := s)
      (chargeRequest s event registration billing) source amount hpriced
      (get?_nextKey s.payments) hfind
    rw [hallowed, hsource, hamount]
    simp only [ht]
    exact ⟨_, hrow, rfl, rfl⟩

theorem Raised.trans {ids more : List Nat} {u : Payments.State}
    (h : Raised ids s t) (h' : Raised more t u) : Raised (ids ++ more) s u where
  kept payment hpayment := h'.kept payment (h.kept payment hpayment)
  rows payment hpayment := by
    rcases h'.rows payment hpayment with hmiddle | ⟨⟨id, hid, hof⟩, hpending⟩
    · rcases h.rows payment hmiddle with hold | ⟨⟨id, hid, hof⟩, hpending⟩
      · exact .inl hold
      · exact .inr ⟨⟨id, mem_append_left more hid, hof⟩, hpending⟩
    · exact .inr ⟨⟨id, mem_append_right ids hid, hof⟩, hpending⟩

theorem chargeOne_raised :
    Raised [registration.id] s (chargeOne u billing s registration) := by
  unfold chargeOne
  split
  case h_1 => exact createForRegisteredRegistration_raised
  case h_2 => exact .refl _ s

theorem charge_raised (registrations : List Registration) :
    Raised (registrations.map Registration.id) s
      (registrations.foldl (chargeOne u billing) s) := by
  induction registrations generalizing s with
  | nil => exact .refl [] s
  | cons _ _ ih => exact chargeOne_raised.trans ih

theorem charge_covers {registrations : List Registration}
    (hin : registration ∈ registrations) (hmember : registration.memberId ≠ none)
    (hevent : event ∈ u.events) (hid : event.id = registration.eventId)
    (hpriced : 0 < event.paymentAmount) (havailable : billing.available event) :
    ∃ payment ∈ (registrations.foldl (chargeOne u billing) s).payments,
      ChargeOf payment registration.id := by
  induction registrations generalizing s with
  | nil => exact absurd hin not_mem_nil
  | cons _ rs ih =>
    rcases mem_cons.mp hin with rfl | hrest
    · have hget : u.events.get? registration.eventId = some event := by
        rw [← hid]
        exact get?_key hevent
      obtain ⟨payment, hpayment, hof⟩ :=
        createForRegisteredRegistration_covers (s := s) hmember hpriced havailable
      refine ⟨payment, (charge_raised rs).kept payment ?_, hof⟩
      rw [chargeOne, hget]
      exact hpayment
    · exact ih hrest

/-- Charges stay, at most the named one is cancelled. -/
structure Withdrawn (registrationId : Option Nat) (s t : Payments.State) : Prop where
  kept : ∀ before ∈ s.payments, ∃ after ∈ t.payments, after.toCharge = before.toCharge
  rows : ∀ after ∈ t.payments, after.subjectType = .eventRegistration →
    ∃ before ∈ s.payments, after.toCharge = before.toCharge ∧
      (after.status = .canceled → before.status = .canceled ∨ registrationId = some after.subjectId)

theorem Withdrawn.refl (registrationId : Option Nat) (s : Payments.State) :
    Withdrawn registrationId s s where
  kept before hbefore := ⟨before, hbefore, rfl⟩
  rows after hafter _ := ⟨after, hafter, rfl, .inl⟩

theorem withdrawn_of_rewritten {v : Verifier} {op : Payments.Op} {registrationId : Option Nat}
    (h : Payments.Rewritten v s (.ledger op) t) (hcharges : op.charges ≠ some .eventRegistration)
    (hcancels : ∀ id, op.cancels = some (.eventRegistration, id) → registrationId = some id) :
    Withdrawn registrationId s t := by
  have hrow : ∀ after ∈ t.payments,
      (∃ before ∈ s.payments, before.id = after.id ∧
        Payments.Rewrites v s (.ledger op) before after) ∨
      op.charges = some after.subjectType := by
    intro after hafter
    refine (h.rows after hafter).imp_right ?_
    rintro ⟨-, -, -, request, hop, hcharged⟩
    obtain rfl : op = request := Payments.RailOp.ledger.inj hop
    exact hcharged
  constructor
  · intro before hbefore
    obtain ⟨after, hafter, hid⟩ := h.kept before hbefore
    rcases h.rows after hafter with ⟨old, hold, hsame, hrewrites⟩ | ⟨-, hnone, -⟩
    · obtain rfl : old = before := eq_of_key_eq hold hbefore (hsame.trans hid)
      exact ⟨after, hafter, hrewrites.same_charge⟩
    · exact absurd hid.symm (get?_eq_none.mp hnone before hbefore)
  · intro after hafter htype
    rcases hrow after hafter with ⟨before, hbefore, -, hrewrites⟩ | hcharged
    · refine ⟨before, hbefore, hrewrites.same_charge, fun hcanceled => ?_⟩
      cases hrewrites with
      | kept => exact .inl hcanceled
      | checkout _ hpending =>
        rw [Payments.withCheckout_status, hpending] at hcanceled
        cases hcanceled
      | intent hpending => exact nomatch hpending.symm.trans hcanceled
      | expired | closed => exact .inl hcanceled
      | paid | paidRazorpay => cases hcanceled
      | settled _ hcancel =>
        obtain ⟨request, hop, hsubject⟩ := hcancel hcanceled
        obtain rfl : op = request := Payments.RailOp.ledger.inj hop
        rw [show before.subjectType = .eventRegistration from htype] at hsubject
        exact .inr (hcancels _ hsubject)
    · exact absurd (htype ▸ hcharged) hcharges

def cancelledBy : Events.Op → Option Nat
  | .cancel registrationId _ _ => some registrationId
  | _ => none

theorem cancelCharge_withdrawn (s : State) (op : Events.Op) (billing : Billing) :
    Withdrawn (cancelledBy op) s.payments (cancelCharge s op billing) := by
  unfold cancelCharge
  split
  case h_2 => exact .refl _ _
  case h_1 registrationId eventId now =>
    split
    case h_2 => exact .refl _ _
    case h_1 event hevent =>
      unfold cancelForRegistration bestEffort
      split
      case h_2 => exact .refl _ _
      case h_1 t hcancel =>
        refine withdrawn_of_rewritten
          (Payments.cancelPending_rewritten (v := Payments.signedBodies) hcancel) nofun ?_
        intro id hcancels
        cases hcancels
        rfl

variable {v : Verifier} {eventId : Nat} {s t : State}

/-- The event has a price, its makerspace a provider. -/
def Priced (eventId : Nat) (s : State) : Op → Prop
  | .event op billing =>
    ∀ event ∈ (settle Events.step s.events op).events.rows, event.id = eventId →
      0 < event.paymentAmount ∧ billing.available event
  | .payment _ => True

/-- A cancelled registration with a cancelled charge is taken up. -/
def RevivesCanceled (eventId : Nat) (s : State) : Op → Prop
  | .event (.register request _) _ =>
    request.eventId = eventId ∧ ∃ event ∈ s.events.events.rows, event.id = eventId ∧
        ∃ existing ∈ Events.existingRegistration s.events event request.member request.pii
            request.normalizedEmail,
          existing.status = .cancelled ∧ ∃ payment ∈ s.payments.payments.rows,
              ChargeOf payment existing.id ∧ payment.status = .canceled
  | _ => False

instance (eventId : Nat) (s : State) (op : Op) : Decidable (Priced eventId s op) := by
  cases op with
  | event op billing => exact inferInstanceAs (Decidable (∀ event ∈ _, _))
  | payment op => exact inferInstanceAs (Decidable True)

instance (eventId : Nat) (s : State) (op : Op) : Decidable (RevivesCanceled eventId s op) := by
  unfold RevivesCanceled
  split
  · infer_instance
  · infer_instance

structure Charged (eventId : Nat) (s : State) : Prop where
  seated : Events.Seated s.events
  subject : ∀ payment ∈ s.payments.payments, payment.subjectType = .eventRegistration →
    ∃ r ∈ s.events.registrations, r.id = payment.subjectId
  canceled : ∀ payment ∈ s.payments.payments, ∀ r ∈ s.events.registrations,
    r.eventId = eventId → ChargeOf payment r.id → payment.status = .canceled →
    r.status = .cancelled
  covered : ∀ r ∈ s.events.registrations, r.eventId = eventId → r.memberId ≠ none →
    r.status.confirmed = true → ∃ payment ∈ s.payments.payments, ChargeOf payment r.id

theorem mem_confirmedBy {s t : Events.State} {r : Registration} :
    r ∈ confirmedBy s t ↔ r ∈ t.registrations ∧ r.status = .registered ∧
      ∀ old ∈ s.registrations, old.id = r.id → old.status.confirmed = false := by
  rw [confirmedBy, mem_insertionSort, mem_filter, newlyRegistered]
  simp only [Bool.and_eq_true, decide_eq_true_eq, all_eq_true, Bool.not_eq_true',
    Bool.and_eq_false_imp, Table.mem_def]

theorem confirmed_cases {s t : Events.State} {op : Events.Op} {r : Registration}
    (h : Arises s op r) (hr : r ∈ t.registrations) (hconfirmed : r.status.confirmed = true) :
    r ∈ confirmedBy s t ∨ ∃ old ∈ s.registrations, old.id = r.id ∧ old.eventId = r.eventId ∧
        old.memberId = r.memberId ∧ old.status.confirmed = true := by
  have hregistered : r.status ≠ .attended → r.status = .registered := by
    intro hseat
    cases hstatus : r.status with
    | registered => rfl
    | attended => exact absurd hstatus hseat
    | pendingApproval | waitlisted | rejected | cancelled =>
      rw [hstatus] at hconfirmed
      cases hconfirmed
  have hnew : ∀ old ∈ s.registrations, r.id = old.id → old.status.confirmed = false →
      r.status ≠ .attended → r ∈ confirmedBy s t := by
    intro old hold hid hunseated hseat
    refine mem_confirmedBy.mpr ⟨hr, hregistered hseat, fun other hother hsame => ?_⟩
    obtain rfl : other = old := eq_of_key_eq hother hold (hsame.trans hid)
    exact hunseated
  cases h with
  | kept hmem => exact .inr ⟨r, hmem, rfl, rfl, rfl, hconfirmed⟩
  | seated old hold hid hevent hmember hseated =>
    exact .inr ⟨old, hold, hid.symm, hevent.symm, hmember.symm, hseated⟩
  | decided old hold hid _ hundecided hseat =>
    exact .inl (hnew old hold hid (Events.confirmed_of_undecided hundecided) hseat)
  | revived _ _ _ old _ _ _ _ hold hcancelled hid _ _ hseat =>
    exact .inl (hnew old hold hid (by rw [hcancelled]; rfl) hseat)
  | fresh hnone hseat =>
    refine .inl (mem_confirmedBy.mpr ⟨hr, hregistered hseat, fun old hold hsame => ?_⟩)
    exact absurd hsame (get?_eq_none.mp hnone old hold)
  | cancelled _ _ _ _ hstatus =>
    rw [hstatus] at hconfirmed
    cases hconfirmed

theorem charged_of_payment {payments : Payments.State} (h : Charged eventId s)
    (hpayments : Withdrawn none s.payments payments) :
    Charged eventId { s with payments := payments } where
  seated := h.seated
  subject payment hpayment htype := by
    obtain ⟨before, hbefore, hsame, -⟩ := hpayments.rows payment hpayment htype
    obtain ⟨htype', hid⟩ := subject_of_toCharge hsame
    obtain ⟨r, hr, hrid⟩ := h.subject before hbefore (htype'.symm.trans htype)
    exact ⟨r, hr, hrid.trans hid.symm⟩
  canceled payment hpayment r hr hof hcharge hcanceled := by
    obtain ⟨before, hbefore, hsame, hwas⟩ := hpayments.rows payment hpayment hcharge.1
    refine h.canceled before hbefore r hr hof (hcharge.of_toCharge hsame) ?_
    exact (hwas hcanceled).resolve_right nofun
  covered r hr hof hmember hconfirmed := by
    obtain ⟨before, hbefore, hcharge⟩ := h.covered r hr hof hmember hconfirmed
    obtain ⟨after, hafter, hsame⟩ := hpayments.kept before hbefore
    exact ⟨after, hafter, hcharge.of_toCharge hsame.symm⟩

theorem charged_of_event {op : Events.Op} {billing : Billing} {events : Events.State}
    (h : Charged eventId s) (hstep : Events.step s.events op = .ok events)
    (hpriced : Priced eventId s (.event op billing))
    (hrevives : ¬ RevivesCanceled eventId s (.event op billing)) :
    Charged eventId
      { events := events, payments := settleCharges s events op billing } := by
  have hturn := Events.turn_of_step hstep
  have hwithdrawn := cancelCharge_withdrawn s op billing
  have hraised : Raised ((confirmedBy s.events events).map Registration.id)
      (cancelCharge s op billing) (settleCharges s events op billing) := charge_raised _
  -- a cancelled charge was cancelled before, or its registration is cancelled now
  have hwas : ∀ payment ∈ (settleCharges s events op billing).payments,
      payment.subjectType = .eventRegistration → payment.status = .canceled →
      ∃ before ∈ s.payments.payments, payment.toCharge = before.toCharge ∧
        (before.status = .canceled ∨ cancelledBy op = some payment.subjectId) := by
    intro payment hpayment htype hcanceled
    rcases hraised.rows payment hpayment with hmiddle | ⟨-, hpending⟩
    · obtain ⟨before, hbefore, hsame, hcause⟩ := hwithdrawn.rows payment hmiddle htype
      exact ⟨before, hbefore, hsame, hcause hcanceled⟩
    · exact nomatch hpending.symm.trans hcanceled
  constructor
  · exact Events.seated_preserved h.seated hstep
  · intro payment hpayment htype
    rcases hraised.rows payment hpayment with hmiddle | ⟨⟨_, hid, hcharge⟩, -⟩
    · obtain ⟨before, hbefore, hsame, -⟩ := hwithdrawn.rows payment hmiddle htype
      obtain ⟨htype', hsubject⟩ := subject_of_toCharge hsame
      obtain ⟨_, hold, hid⟩ := h.subject before hbefore (htype'.symm.trans htype)
      obtain ⟨row, hrow, hrid⟩ := exists_of_turn hturn hold
      exact ⟨row, hrow, (hrid.trans hid).trans hsubject.symm⟩
    · obtain ⟨r, hr, rfl⟩ := mem_map.mp hid
      exact ⟨r, (mem_confirmedBy.mp hr).1, hcharge.2.symm⟩
  · intro payment hpayment r hr hof hcharge hcanceled
    obtain ⟨before, hbefore, hsame, hbeforeCanceled | hop⟩ :=
      hwas payment hpayment hcharge.1 hcanceled
    · have hbeforeCharge := hcharge.of_toCharge hsame
      have hold : ∀ old ∈ s.events.registrations, r.id = old.id → old.eventId = eventId →
          old.status = .cancelled := fun old hold hid holdOf =>
        h.canceled before hbefore old hold holdOf (hid ▸ hbeforeCharge) hbeforeCanceled
      cases arises_of_turn hturn hr with
      | kept hmem => exact hold r hmem rfl hof
      | seated old hmem hid hevent _ hseated =>
        rw [hold old hmem hid (hevent.symm.trans hof)] at hseated
        cases hseated
      | decided old hmem hid hevent hundecided =>
        rw [hold old hmem hid (hevent.symm.trans hof)] at hundecided
        exact absurd hundecided (by decide)
      | revived request now event old hop hmem hid hexisting hmem' hcancelled hrow hsame' hevent
          hseat =>
        subst hop
        refine absurd ⟨hid.symm.trans (hevent.symm.trans hof), event, hmem,
          hevent.symm.trans hof, old, hexisting, hcancelled, before, hbefore, ?_,
          hbeforeCanceled⟩ hrevives
        exact hrow ▸ hbeforeCharge
      | fresh hnone =>
        obtain ⟨old, hold', hid⟩ := h.subject before hbefore hbeforeCharge.1
        exact absurd (hid.trans hbeforeCharge.2) (get?_eq_none.mp hnone old hold')
      | cancelled _ _ _ _ hstatus => exact hstatus
    · cases op with
      | cancel =>
        refine status_of_cancel hstep hr ?_
        exact (hcharge.2.symm.trans (Option.some.inj hop).symm)
      | _ => cases hop
  · intro r hr hof hmember hconfirmed
    rcases confirmed_cases (arises_of_turn hturn hr) hr hconfirmed with
      hnew | ⟨old, hold, hid, hevent, hmember', hseated⟩
    · obtain ⟨event, hevent, hid⟩ :=
        (Events.seated_preserved h.seated hstep).event_of_registration r hr
      obtain ⟨hprice, havailable⟩ := hpriced event (by rw [settle_ok hstep]; exact hevent)
        (hid.trans hof)
      exact charge_covers hnew hmember hevent hid hprice havailable
    · obtain ⟨before, hbefore, hcharge⟩ := h.covered old hold (hevent.trans hof)
        (hmember' ▸ hmember) hseated
      obtain ⟨after, hafter, hsame⟩ := hwithdrawn.kept before hbefore
      exact ⟨after, hraised.kept after hafter, hid ▸ hcharge.of_toCharge hsame.symm⟩

theorem charged_of_step {op : Op} (h : Charged eventId s)
    (hop : Priced eventId s op ∧ ¬ RevivesCanceled eventId s op)
    (hstep : step v s op = .ok t) : Charged eventId t := by
  cases op with
  | event =>
    simp [step] at hstep
    obtain ⟨_, hevents, rfl⟩ := hstep
    exact charged_of_event h hevents hop.1 hop.2
  | payment =>
    simp only [step, bind_ok, require_ok, mapError_eq_ok, pure_ok] at hstep
    obtain ⟨-, ⟨hcharges, hcancels⟩, _, hpayments, rfl⟩ := hstep
    refine charged_of_payment h (withdrawn_of_rewritten (v := v)
      (Payments.rewritten_of_step hpayments) hcharges fun id hcancel => ?_)
    exact absurd (by rw [hcancel]; rfl) hcancels

def noCharges : State where
  events := Events.noEvents
  payments := { payments := ∅, processed := ∅, merchants := ∅ }

theorem noCharges_charged (eventId : Nat) : Charged eventId noCharges where
  seated := Events.noEvents_seated
  subject payment hpayment := absurd hpayment (notMem_empty payment)
  canceled payment hpayment := absurd hpayment (notMem_empty payment)
  covered r hr := absurd hr (notMem_empty r)

/-- **Charges.** While the event is priced and no registration with a cancelled charge is taken up,
a confirmed member has a charge that is not cancelled. -/
theorem charged_of_run (v : Verifier) (eventId : Nat) (ops : List Op) (hops : Throughout (step v)
      (fun s op => Priced eventId s op ∧ ¬ RevivesCanceled eventId s op) noCharges ops) :
    ∀ r ∈ (run (step v) noCharges ops).events.registrations,
      r.eventId = eventId → r.memberId ≠ none → r.status = .registered →
      ∃ payment ∈ (run (step v) noCharges ops).payments.payments,
        ChargeOf payment r.id ∧ payment.status ≠ .canceled := by
  have h : Charged eventId (run (step v) noCharges ops) :=
    run_preserves_throughout charged_of_step (noCharges_charged eventId) hops
  intro r hr hof hmember hregistered
  obtain ⟨payment, hpayment, hcharge⟩ := h.covered r hr hof hmember (by rw [hregistered]; rfl)
  refine ⟨payment, hpayment, hcharge, fun hcanceled => ?_⟩
  exact nomatch hregistered.symm.trans (h.canceled payment hpayment r hr hof hcharge hcanceled)

def openBilling : Billing where
  onlinePaymentsEnabled _ := true
  newChargesAllowed _ := true
  source _ := some {}
  fee _ _ := .ok 0

def memberRequest (newId memberId : Nat) (email : String) : Events.RegisterRequest :=
  { newId := newId
    eventId := 1
    member := some { id := memberId, displayName := "Member", email := email, phone := "1" } }

def pricedLecture : List Op :=
  [.event (.createEvent
      { id := 1, makerspaceId := 1, startsAt := 100, endsAt := 200, capacity := 1,
        paymentAmount := 700, isPublic := true } (.ok ())) openBilling,
    .event (.publish 1 10 (.ok ())) openBilling,
    .event (.register (memberRequest 1 1 "a@example.org") 20) openBilling,
    .event (.register (memberRequest 2 2 "b@example.org") 21) openBilling,
    .event (.cancel 1 1 30) openBilling,
    .payment (.markOffline 2 (.ok ()) (fun _ => {}) 40)]

/-- The second member has a seat and a charge. -/
theorem charged_of_pricedLecture :
    ∃ r ∈ (run (step Payments.signedBodies) noCharges pricedLecture).events.registrations,
      r.id = 2 ∧ r.status = .registered ∧ ∃ payment ∈
            (run (step Payments.signedBodies) noCharges pricedLecture).payments.payments,
          ChargeOf payment r.id ∧ payment.status ≠ .canceled := by
  obtain ⟨r, hr, hid, hof, hmember, hregistered⟩ :
      ∃ r ∈ (run (step Payments.signedBodies) noCharges pricedLecture).events.registrations.rows,
        r.id = 2 ∧ r.eventId = 1 ∧ r.memberId ≠ none ∧ r.status = .registered := by
    decide +kernel
  exact ⟨r, hr, hid, hregistered, charged_of_run Payments.signedBodies 1 pricedLecture
    (by decide +kernel) r hr hof hmember hregistered⟩

def reregistration : List Op :=
  [.event (.createEvent
      { id := 1, makerspaceId := 1, startsAt := 100, endsAt := 200, paymentAmount := 700,
        isPublic := true } (.ok ())) openBilling,
    .event (.publish 1 10 (.ok ())) openBilling,
    .event (.register (memberRequest 1 1 "a@example.org") 20) openBilling,
    .event (.cancel 1 1 30) openBilling,
    .event (.register (memberRequest 2 1 "a@example.org") 40) openBilling]

/-- The member is registered again with a cancelled charge alone. -/
theorem reregistration_left_canceled :
    Throughout (step Payments.signedBodies) (Priced 1) noCharges reregistration ∧
      ∃ r ∈ (run (step Payments.signedBodies) noCharges reregistration).events.registrations.rows,
        r.eventId = 1 ∧ r.memberId ≠ none ∧ r.status = .registered ∧ ∃ payment ∈
              (run (step Payments.signedBodies) noCharges reregistration).payments.payments.rows,
            ChargeOf payment r.id ∧ ∀ other ∈
                  (run (step Payments.signedBodies) noCharges
                    reregistration).payments.payments.rows,
                ChargeOf other r.id → other.status = .canceled := by
  decide +kernel

end

end EventCharges
end SpaceWorks
