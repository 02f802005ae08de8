import SpaceWorks.Payments.Model

/-!
# The life of a payment

What any order of webhook deliveries and staff actions can do to a payment.
-/

namespace SpaceWorks
namespace Payments

open Checked TransactionalSystem Table List Option

inductive Allowed : Status → Status → Prop
  | settle : Allowed .pending .paidOnline
  | collect : Allowed .pending .paidOffline
  | waive : Allowed .pending .waived
  | cancel : Allowed .pending .canceled
  | correct : Allowed .waived .paidOnline

def StripeEvent.IsPaid (event : StripeEvent) : Prop :=
  (event.type = "checkout.session.completed"
      ∧ (event.paymentStatus = some "paid" ∨ event.paymentStatus = none))
    ∨ event.type = "checkout.session.async_payment_succeeded"
    ∨ event.type = "payment_intent.succeeded"

theorem isPaid_of_relevant {event : StripeEvent} (hrelevant : event.relevant)
    (hlive : event.type ≠ "checkout.session.expired") :
    event.IsPaid := by
  simp [StripeEvent.relevant, handledTypes] at hrelevant
  obtain ⟨⟨⟨-, htype⟩, hcompleted⟩, -⟩ := hrelevant
  rcases htype with hdone | hasync | hexpired | hintent
  · refine .inl ⟨hdone, ?_⟩
    by_contra hunpaid
    simp [hdone, not_or.mp hunpaid] at hcompleted
  · exact .inr (.inl hasync)
  · exact absurd hexpired hlive
  · exact .inr (.inr hintent)

/-- A verified paid event names a charge of the payment, at its makerspace or account. -/
inductive PaidEvent (v : Verifier) (s : State) : Op → Payment → Prop
  | stripe {makerspaceId : Nat} {body signature : String} {servable : Bool} {now : Int}
      {event : StripeEvent} {payment : Payment}
      (hverified : verifyStripe v s makerspaceId body signature = .ok event)
      (hpaid : event.IsPaid)
      (hspace : payment.makerspaceId = makerspaceId)
      (hrail : payment.stripeProvider = .raw)
      (hcharge : namedByStripe event.sessionId event.intentId payment) :
      PaidEvent v s (.stripeWebhook makerspaceId body signature servable now) payment
  | connect {body signature : String} {servable : Nat → Bool} {refreshed : Option Account}
      {now : Int} {event : StripeEvent} {payment : Payment}
      (hverified : constructEvent v body signature s.platformWebhookSecret = .ok event)
      (hpaid : event.IsPaid)
      (hrail : payment.stripeProvider = .connect)
      (haccount : payment.stripeConnectedAccountId = some event.accountId)
      (hcharge : namedByStripe event.sessionId event.intentId payment) :
      PaidEvent v s (.connectWebhook body signature servable refreshed now) payment
  | razorpay {makerspaceId : Nat} {body signature eventIdHeader : String}
      {servable : Bool} {event : WebhookEvent} {payment : Payment}
      (hverified : verifyRazorpayDelivery v s makerspaceId body signature eventIdHeader = .ok event)
      (hpaid : event.isPaid)
      (hspace : payment.makerspaceId = makerspaceId)
      (hvendor : payment.provider = .razorpay)
      (hcharge : namedByRazorpay event.orderId event.paymentId payment) :
      PaidEvent v s (.razorpayWebhook makerspaceId body signature eventIdHeader servable) payment

structure Moves (v : Verifier) (s : State) (op : Op) (before after : Payment) : Prop where
  same_row : after.id = before.id
  same_charge : after.toCharge = before.toCharge
  status_move : after.status = before.status ∨ Allowed before.status after.status
  paid_online : before.status ≠ .paidOnline → after.status = .paidOnline → PaidEvent v s op before

theorem Moves.refl (v : Verifier) (s : State) (op : Op) (payment : Payment) :
    Moves v s op payment payment where
  same_row := rfl
  same_charge := rfl
  status_move := .inl rfl
  paid_online := fun hne heq => absurd heq hne

section

variable {v : Verifier} {s s' : State} {op : Op}

def AllMove (v : Verifier) (s : State) (op : Op) (s' : State) : Prop :=
  ∀ before ∈ s.payments, ∃ after ∈ s'.payments, Moves v s op before after

theorem allMove_of_kept (h : s'.payments = s.payments) :
    AllMove v s op s' :=
  fun before hbefore => ⟨before, h ▸ hbefore, .refl v s op before⟩

theorem allMove_of_insert {row : Payment} (hnew : s.payments.get? (key row) = none)
    (h : s'.payments = s.payments.insert row hnew) :
    AllMove v s op s' :=
  fun before hbefore =>
    ⟨before, h ▸ (mem_insert hnew).mpr (.inl hbefore), .refl v s op before⟩

theorem allMove_of_put {old row : Payment} (hold : old ∈ s.payments) (hmoves : Moves v s op old row)
    (h : s'.payments = s.payments.put row) :
    AllMove v s op s' := by
  intro before hbefore
  by_cases hid : before.id = old.id
  · obtain rfl : before = old := eq_of_key_eq hbefore hold hid
    refine ⟨row, h ▸ mem_put.mpr (.inr ⟨rfl, before, hold, ?_⟩), hmoves⟩
    exact hmoves.same_row.symm
  · refine ⟨before, h ▸ mem_put.mpr (.inl ⟨hbefore, ?_⟩), .refl v s op before⟩
    simpa [hmoves.same_row] using hid

theorem savePayment_ok {row : Payment} (h : savePayment s row = .ok s') :
    s' = { s with payments := s.payments.put row } := by
  simp [savePayment] at h
  obtain ⟨-, -, -, -, -, -, rfl⟩ := h
  rfl

theorem insertPayment_ok {row : Payment} (h : insertPayment s row = .ok s') :
    ∃ hnew : s.payments.get? (key row) = none,
      s' = { s with payments := s.payments.insert row hnew } := by
  simp only [insertPayment, bind_ok, insertNew_ok, pure_ok] at h
  obtain ⟨-, -, -, -, _, ⟨hnew, rfl⟩, rfl⟩ := h
  exact ⟨hnew, rfl⟩

@[simp] theorem record_payments (s : State) (action : String) (target : Nat) (eventId : String) :
    (record s action target eventId).payments = s.payments := rfl

@[simp] theorem recordPaidAfterTerminal_payments (s : State) (payment : Payment)
    (eventId : String) :
    (recordPaidAfterTerminal s payment eventId).payments = s.payments := by
  unfold recordPaidAfterTerminal
  split <;> rfl

@[simp] theorem recordPaidAfterTerminal_processed (s : State) (payment : Payment)
    (eventId : String) :
    (recordPaidAfterTerminal s payment eventId).processed = s.processed := by
  unfold recordPaidAfterTerminal
  split <;> rfl

@[simp] theorem saveMerchant_payments (s : State) (merchant : Option MerchantSettings) :
    (saveMerchant s merchant).payments = s.payments := by
  cases merchant <;> rfl

@[simp] theorem saveMerchant_processed (s : State) (merchant : Option MerchantSettings) :
    (saveMerchant s merchant).processed = s.processed := by
  cases merchant <;> rfl

theorem mem_newestFirst {payment : Payment} :
    payment ∈ newestFirst s ↔ payment ∈ s.payments := by
  rw [newestFirst, mem_insertionSort]
  rfl

variable {payment : Payment} {eventId intentId : String} {paid : Prop}

/-- Nothing, a rewriting of the same charge and status, or paid online. -/
inductive Outcome (paid : Prop) (s : State) (payment : Payment) (s' : State) : Prop
  | kept (h : s'.payments = s.payments)
  | rewritten (row : Payment) (hput : s'.payments = s.payments.put row) (hid : row.id = payment.id)
      (hcharge : row.toCharge = payment.toCharge)
      (hstatus : row.status = payment.status ∨
        (paid ∧ row.status = .paidOnline ∧ (payment.status = .pending ∨ payment.status = .waived)))

theorem handlePaidAfterTerminal_cases
    (h : handlePaidAfterTerminal s payment eventId intentId = .ok s') :
    (payment.status = .waived ∧ s' = recordPaidAfterTerminal
      { s with payments := s.payments.put { payment with
          status := .paidOnline
          stripePaymentIntentId :=
            if intentId = "" then payment.stripePaymentIntentId else some intentId } }
      payment eventId) ∨
    (payment.status ≠ .waived ∧ s' = recordPaidAfterTerminal s payment eventId) := by
  simp [handlePaidAfterTerminal] at h
  obtain ⟨_, hcorrected, rfl⟩ := h
  unfold correctWaived at hcorrected
  split at hcorrected
  case isTrue hwaived =>
    simp [promoteWaivedToPaidOnline] at hcorrected
    obtain ⟨-, -, rfl⟩ := hcorrected
    exact .inl ⟨hwaived, rfl⟩
  case isFalse hwaived =>
    obtain rfl := pure_ok.mp hcorrected
    exact .inr ⟨hwaived, rfl⟩

theorem handlePaidAfterTerminal_outcome (hpaid : paid)
    (h : handlePaidAfterTerminal s payment eventId intentId = .ok s') :
    Outcome paid s payment s' ∧ s'.processed = s.processed := by
  rcases handlePaidAfterTerminal_cases h with ⟨hwaived, rfl⟩ | ⟨-, rfl⟩
  · exact ⟨.rewritten _ (recordPaidAfterTerminal_payments ..) rfl rfl
      (.inr ⟨hpaid, rfl, .inr hwaived⟩), recordPaidAfterTerminal_processed ..⟩
  · exact ⟨.kept (recordPaidAfterTerminal_payments ..), recordPaidAfterTerminal_processed ..⟩

theorem settleStripe_outcome {event : StripeEvent} {now : Int}
    (h : settleStripe s payment event now = .ok s') :
    Outcome (event.type ≠ "checkout.session.expired") s payment s' ∧
      s'.processed = s.processed := by
  unfold settleStripe at h
  split at h
  case isTrue =>
    simp at h
    obtain ⟨_, hsaved, rfl⟩ := h
    obtain rfl := savePayment_ok hsaved
    exact ⟨.rewritten _ rfl rfl rfl (.inl rfl), rfl⟩
  case isFalse hpaid =>
    split at h
    case isTrue => exact handlePaidAfterTerminal_outcome hpaid h
    case isFalse hpending =>
      simp at h
      obtain ⟨_, hsaved, rfl⟩ := h
      obtain rfl := savePayment_ok hsaved
      refine ⟨.rewritten _ rfl rfl rfl (.inr ⟨hpaid, rfl, .inl ?_⟩), rfl⟩
      exact not_not.mp hpending

theorem settleRazorpay_outcome {event : WebhookEvent}
    (h : settleRazorpay s payment event = .ok s') :
    Outcome True s payment s' ∧ s'.processed = s.processed := by
  unfold settleRazorpay at h
  split at h
  case isTrue => exact handlePaidAfterTerminal_outcome trivial h
  case isFalse hpending =>
    simp at h
    obtain ⟨_, hsaved, rfl⟩ := h
    obtain rfl := savePayment_ok hsaved
    refine ⟨.rewritten _ rfl rfl rfl (.inr ⟨trivial, rfl, .inl ?_⟩), rfl⟩
    exact not_not.mp hpending

theorem Outcome.allMove {v : Verifier} {op : Op} (h : Outcome paid s payment s')
    (hmem : payment ∈ s.payments) (hpaid : paid → PaidEvent v s op payment) :
    AllMove v s op s' := by
  cases h with
  | kept h => exact allMove_of_kept h
  | rewritten _ hput hid hcharge hstatus =>
    refine allMove_of_put hmem ⟨hid, hcharge, ?_, ?_⟩ hput
    · rcases hstatus with hsame | ⟨-, honline, hpending | hwaived⟩
      · exact .inl hsame
      · exact .inr (honline ▸ hpending ▸ .settle)
      · exact .inr (honline ▸ hwaived ▸ .correct)
    · intro hne honline
      rcases hstatus with hsame | ⟨hreceived, -⟩
      · exact absurd (hsame ▸ honline) hne
      · exact hpaid hreceived

theorem recordOnce_eq_some {event : ProcessedEvent} (h : recordOnce s event = some s') :
    ∃ hnew : s.processed.get? event = none,
      s' = { s with processed := s.processed.insert event hnew } := by
  unfold recordOnce at h
  split at h
  case h_1 processed hinsert =>
    obtain ⟨hnew, rfl⟩ := insertNew_ok.mp hinsert
    exact ⟨hnew, by simpa using h.symm⟩
  case h_2 => cases h

variable {makerspaceId : Nat} {event : StripeEvent} {provider : StripeProvider}
variable {account : Option String} {servable : Bool} {now : Int} {refreshed : Option Account}

def connectMakerspace (s : State) (event : StripeEvent) : Option Nat :=
  if event.type = "account.updated" ∨ event.type = "account.application.deauthorized" then
    (s.merchants.rows.find? fun m => m.connectAccountId = some event.accountId).map
      MerchantSettings.makerspaceId
  else (findConnectPayment s event).map (·.makerspaceId)

/-- (makerspace, provider, event id) of a verified delivery. -/
def eventKey (v : Verifier) (s : State) : Op → Option ProcessedEvent
  | .stripeWebhook makerspaceId body signature _ _ =>
    match verifyStripe v s makerspaceId body signature with
    | .ok event => some ⟨makerspaceId, .stripe, event.id⟩
    | .error _ => none
  | .connectWebhook body signature _ _ _ =>
    match constructEvent v body signature s.platformWebhookSecret with
    | .ok event => (connectMakerspace s event).map fun m => ⟨m, .stripe, event.id⟩
    | .error _ => none
  | .razorpayWebhook makerspaceId body signature eventIdHeader _ =>
    match verifyRazorpayDelivery v s makerspaceId body signature eventIdHeader with
    | .ok event => some ⟨makerspaceId, .razorpay, event.eventId⟩
    | .error _ => none
  | _ => none

/-- Nothing, or the free key is claimed and one payment or merchant settled. -/
inductive Applied (v : Verifier) (s : State) (op : Op) (event : ProcessedEvent) :
    State → Prop
  | ignored : Applied v s op event s
  | settled {s' : State} (payment : Payment) (hmem : payment ∈ s.payments)
      (hnew : s.processed.get? event = none)
      (hprocessed : s'.processed = s.processed.insert event hnew)
      (houtcome : Outcome (PaidEvent v s op payment) s payment s') :
      Applied v s op event s'
  | merchant {s' : State} (hnew : s.processed.get? event = none)
      (hprocessed : s'.processed = s.processed.insert event hnew)
      (hpayments : s'.payments = s.payments) :
      Applied v s op event s'

theorem Outcome.ofClaimed {claimed : State} {paid paid' : Prop} {payment : Payment}
    (h : Outcome paid claimed payment s') (hclaimed : claimed.payments = s.payments)
    (hpaid : paid → paid') :
    Outcome paid' s payment s' := by
  cases h with
  | kept h => exact .kept (h.trans hclaimed)
  | rewritten row hput hid hcharge hstatus =>
    refine .rewritten row (hclaimed ▸ hput) hid hcharge ?_
    exact hstatus.imp_right fun ⟨hreceived, hrest⟩ => ⟨hpaid hreceived, hrest⟩

/-- A delivery claims its key and settles its payment, or is ignored. -/
theorem applyWebhookEvent_cases
    (h : applyWebhookEvent s makerspaceId event provider account servable now = .ok s') :
    s' = s ∨ ∃ payment ∈ s.payments, ∃ hnew, event.relevant ∧
      payment.makerspaceId = makerspaceId ∧ payment.stripeProvider = provider ∧
      account.all (fun a => payment.stripeConnectedAccountId = some a) ∧
      namedByStripe event.sessionId event.intentId payment ∧
      settleStripe { s with
          processed := s.processed.insert ⟨makerspaceId, .stripe, event.id⟩ hnew } payment event
        now = .ok s' := by
  unfold applyWebhookEvent at h
  split at h
  case isTrue => exact .inl (pure_ok.mp h).symm
  case isFalse hrelevant =>
    split at h
    case h_1 => exact .inl (pure_ok.mp h).symm
    case h_2 payment hfind =>
      split at h
      case h_1 => exact .inl (pure_ok.mp h).symm
      case h_2 claimed hclaim =>
        obtain ⟨hnew, rfl⟩ := recordOnce_eq_some hclaim
        have hfound := find?_some hfind
        simp at hfound
        obtain ⟨⟨⟨hspace, hrail⟩, haccount⟩, hcharge⟩ := hfound
        exact .inr ⟨payment, mem_newestFirst.mp (mem_of_find?_eq_some hfind), hnew,
          (not_not.mp hrelevant).1, hspace, hrail, haccount, hcharge, h⟩

theorem applyRazorpayWebhookEvent_cases {event : WebhookEvent}
    (h : applyRazorpayWebhookEvent s makerspaceId event servable = .ok s') :
    s' = s ∨ ∃ payment ∈ s.payments, ∃ hnew, event.isPaid ∧
      payment.makerspaceId = makerspaceId ∧ payment.provider = .razorpay ∧
      namedByRazorpay event.orderId event.paymentId payment ∧
      settleRazorpay { s with
          processed := s.processed.insert ⟨makerspaceId, .razorpay, event.eventId⟩ hnew } payment
        event = .ok s' := by
  unfold applyRazorpayWebhookEvent at h
  split at h
  case isTrue => exact .inl (pure_ok.mp h).symm
  case isFalse hrelevant =>
    split at h
    case h_1 => exact .inl (pure_ok.mp h).symm
    case h_2 payment hfind =>
      split at h
      case h_1 => exact .inl (pure_ok.mp h).symm
      case h_2 claimed hclaim =>
        obtain ⟨hnew, rfl⟩ := recordOnce_eq_some hclaim
        have hfound := find?_some hfind
        simp at hfound
        obtain ⟨⟨hspace, hvendor⟩, hcharge⟩ := hfound
        exact .inr ⟨payment, mem_newestFirst.mp (mem_of_find?_eq_some hfind), hnew,
          (not_not.mp hrelevant).2.2, hspace, hvendor, hcharge, h⟩

/-- A connected account's event updates the merchant, or is a delivery for its payment. -/
theorem applyConnectWebhookEvent_cases {servable : Nat → Bool}
    (h : applyConnectWebhookEvent s event servable refreshed now = .ok s') :
    s' = s ∨
    (∃ merchant hnew updated action, connectMakerspace s event = some merchant ∧
      s' = record { s with
          processed := s.processed.insert ⟨merchant, .stripe, event.id⟩ hnew
          merchants := s.merchants.put updated } action merchant event.id) ∨
    ∃ makerspaceId, connectMakerspace s event = some makerspaceId ∧
      applyWebhookEvent s makerspaceId event .connect (some event.accountId)
        (servable makerspaceId) now = .ok s' := by
  unfold applyConnectWebhookEvent at h
  split at h
  case isTrue => exact .inl (pure_ok.mp h).symm
  case isFalse =>
    split at h
    case isTrue haccount =>
      unfold applyAccountEvent at h
      split at h
      case h_1 => exact .inl (pure_ok.mp h).symm
      case h_2 merchant hfind =>
        split at h
        case isTrue => exact .inl (pure_ok.mp h).symm
        case isFalse =>
          split at h
          case h_1 => exact .inl (pure_ok.mp h).symm
          case h_2 claimed hclaim =>
            obtain ⟨hnew, rfl⟩ := recordOnce_eq_some hclaim
            refine .inr (.inl ⟨merchant.makerspaceId, hnew, _, _, ?_, (pure_ok.mp h).symm⟩)
            simp [connectMakerspace, haccount, hfind]
    case isFalse haccount =>
      split at h
      case h_1 => exact .inl (pure_ok.mp h).symm
      case h_2 payment hfind =>
        refine .inr (.inr ⟨payment.makerspaceId, ?_, h⟩)
        simp [connectMakerspace, haccount, hfind]

theorem applyWebhookEvent_applied
    (hpaid : ∀ payment : Payment, event.IsPaid → payment.makerspaceId = makerspaceId →
      payment.stripeProvider = provider →
      (∀ a, account = some a → payment.stripeConnectedAccountId = some a) →
      namedByStripe event.sessionId event.intentId payment → PaidEvent v s op payment)
    (h : applyWebhookEvent s makerspaceId event provider account servable now = .ok s') :
    Applied v s op ⟨makerspaceId, .stripe, event.id⟩ s' := by
  rcases applyWebhookEvent_cases h with
    rfl | ⟨payment, hmem, hnew, hrelevant, hspace, hrail, haccount, hcharge, hsettle⟩
  · exact .ignored
  · obtain ⟨houtcome, hprocessed⟩ := settleStripe_outcome hsettle
    refine .settled payment hmem hnew hprocessed (houtcome.ofClaimed rfl fun hlive => ?_)
    refine hpaid payment (isPaid_of_relevant hrelevant hlive) hspace hrail ?_ hcharge
    rintro _ rfl
    simpa using haccount

theorem applyRazorpayWebhookEvent_applied {event : WebhookEvent}
    (hpaid : ∀ payment : Payment, event.isPaid → payment.makerspaceId = makerspaceId →
      payment.provider = .razorpay →
      namedByRazorpay event.orderId event.paymentId payment → PaidEvent v s op payment)
    (h : applyRazorpayWebhookEvent s makerspaceId event servable = .ok s') :
    Applied v s op ⟨makerspaceId, .razorpay, event.eventId⟩ s' := by
  rcases applyRazorpayWebhookEvent_cases h with
    rfl | ⟨payment, hmem, hnew, hevent, hspace, hvendor, hcharge, hsettle⟩
  · exact .ignored
  · obtain ⟨houtcome, hprocessed⟩ := settleRazorpay_outcome hsettle
    exact .settled payment hmem hnew hprocessed
      (houtcome.ofClaimed rfl fun _ => hpaid payment hevent hspace hvendor hcharge)

theorem applyConnectWebhookEvent_applied {servable : Nat → Bool}
    (hpaid : ∀ payment : Payment, event.IsPaid → payment.stripeProvider = .connect →
      payment.stripeConnectedAccountId = some event.accountId →
      namedByStripe event.sessionId event.intentId payment → PaidEvent v s op payment)
    (h : applyConnectWebhookEvent s event servable refreshed now = .ok s') :
    s' = s ∨ ∃ m, connectMakerspace s event = some m ∧
      Applied v s op ⟨m, .stripe, event.id⟩ s' := by
  rcases applyConnectWebhookEvent_cases h with
    rfl | ⟨merchant, hnew, updated, action, hmerchant, rfl⟩ | ⟨makerspaceId, hspace, happly⟩
  · exact .inl rfl
  · exact .inr ⟨merchant, hmerchant, .merchant hnew rfl rfl⟩
  · refine .inr ⟨makerspaceId, hspace,
      applyWebhookEvent_applied (fun p hp _ hrail hacc hnamed => ?_) happly⟩
    exact hpaid p hp hrail (hacc _ rfl) hnamed

variable {event : ProcessedEvent} {request : ChargeRequest} {charging : Bool}
variable {paymentId makerspaceId : Nat} {gate : Except String Unit} {account : Option Account}
variable {target : Status} {paymentIds : List Nat} {answer : Nat → ClosingAnswer}

theorem Applied.allMove (h : Applied v s op event s') :
    AllMove v s op s' := by
  cases h with
  | ignored => exact allMove_of_kept rfl
  | settled _ hmem _ _ houtcome => exact houtcome.allMove hmem id
  | merchant _ _ hpayments => exact allMove_of_kept hpayments

theorem delivery_applied (h : step v s op = .ok s') (hkey : eventKey v s op = some event) :
    Applied v s op event s' := by
  cases op with
  | stripeWebhook =>
    simp only [step, stripeWebhook, bind_ok] at h
    obtain ⟨-, -, _, hverified, happly⟩ := h
    simp [eventKey, hverified] at hkey
    subst hkey
    refine applyWebhookEvent_applied (fun p hp hspace hrail _ hnamed => ?_) happly
    exact .stripe hverified hp hspace hrail hnamed
  | connectWebhook body signature servable refreshed now =>
    simp [step, connectWebhook] at h
    obtain ⟨received, hverified, happly⟩ := h
    simp only [eventKey, hverified, map_eq_some_iff] at hkey
    obtain ⟨m, hm, rfl⟩ := hkey
    have hpaid : ∀ payment : Payment, received.IsPaid → payment.stripeProvider = .connect →
        payment.stripeConnectedAccountId = some received.accountId →
        namedByStripe received.sessionId received.intentId payment →
        PaidEvent v s (.connectWebhook body signature servable refreshed now) payment :=
      fun p hp hrail hacc hnamed => .connect hverified hp hrail hacc hnamed
    rcases applyConnectWebhookEvent_applied hpaid happly with rfl | ⟨m', hm', happlied⟩
    · exact .ignored
    · obtain rfl : m' = m := by simpa [hm] using hm'.symm
      exact happlied
  | razorpayWebhook =>
    simp only [step, razorpayWebhook, bind_ok] at h
    obtain ⟨-, -, _, hverified, happly⟩ := h
    simp [eventKey, hverified] at hkey
    subst hkey
    refine applyRazorpayWebhookEvent_applied (fun p hp hspace hvendor hnamed => ?_) happly
    exact .razorpay hverified hp hspace hvendor hnamed
  | create | createOffline | createCheckout | createIntent | reconcile | markOffline
    | waive | cancelPending | saveSettings => cases hkey

/-- What other operations do to processed events and payments. -/
structure Staffed (v : Verifier) (s : State) (op : Op) (s' : State) : Prop where
  processed : s'.processed = s.processed
  moves : AllMove v s op s'

theorem staffed_of_kept (hprocessed : s'.processed = s.processed)
    (hpayments : s'.payments = s.payments) :
    Staffed v s op s' :=
  ⟨hprocessed, allMove_of_kept hpayments⟩

theorem createPayment_staffed {source : Option PaymentSource} {fee : Except String Nat}
    (h : createPayment s request charging source fee = .ok s') :
    Staffed v s op s' := by
  simp only [createPayment, bind_ok, pure_ok] at h
  obtain ⟨-, -, _, -, _, -, _, hcreated, rfl⟩ := h
  obtain ⟨hnew, rfl⟩ := insertPayment_ok hcreated
  exact ⟨rfl, allMove_of_insert hnew rfl⟩

theorem createOfflinePayment_staffed (h : createOfflinePayment s request charging = .ok s') :
    Staffed v s op s' := by
  unfold createOfflinePayment at h
  split at h
  case isTrue => exact staffed_of_kept (by rw [pure_ok.mp h]) (by rw [pure_ok.mp h])
  case isFalse =>
    split at h
    case isTrue =>
      exact staffed_of_kept (by rw [pure_ok.mp h]) (by rw [pure_ok.mp h])
    case isFalse =>
      simp at h
      obtain ⟨_, hcreated, rfl⟩ := h
      obtain ⟨hnew, rfl⟩ := insertPayment_ok hcreated
      exact ⟨rfl, allMove_of_insert hnew rfl⟩

theorem withCheckout_moves (payment : Payment) (orderId url : String) :
    Moves v s op payment (payment.withCheckout orderId url) := by
  unfold Payment.withCheckout
  cases payment.provider with
  | stripe | razorpay => exact ⟨rfl, rfl, .inl rfl, fun hne heq => absurd heq hne⟩

theorem createCheckoutUrl_staffed {session : Option (String × String)}
    (h : createCheckoutUrl s paymentId gate account session = .ok s') :
    Staffed v s op s' := by
  simp only [createCheckoutUrl, bind_ok, orRefuse_ok] at h
  obtain ⟨payment, hget, h⟩ := h
  have hmem : payment ∈ s.payments := mem_of_get? hget
  split at h
  case isTrue => exact staffed_of_kept (by rw [pure_ok.mp h]) (by rw [pure_ok.mp h])
  case isFalse =>
    simp only [bind_ok] at h
    obtain ⟨-, -, h⟩ := h
    split at h
    case isTrue =>
      exact staffed_of_kept (by rw [pure_ok.mp h]) (by rw [pure_ok.mp h])
    case isFalse =>
      simp only [raiseCheckout, bind_ok] at h
      obtain ⟨-, -, _, -, h⟩ := h
      split at h
      case h_1 =>
        obtain rfl := pure_ok.mp h
        exact staffed_of_kept (saveMerchant_processed ..) (saveMerchant_payments ..)
      case h_2 =>
        simp only [bind_ok, pure_ok] at h
        obtain ⟨raised, -, _, hsaved, rfl⟩ := h
        obtain rfl := savePayment_ok hsaved
        refine ⟨saveMerchant_processed .., allMove_of_put hmem
          (withCheckout_moves payment raised.1 raised.2) ?_⟩
        rw [record_payments, saveMerchant_payments]

theorem createMobileIntent_staffed {intent : Option String}
    (h : createMobileIntent s paymentId gate account intent = .ok s') :
    Staffed v s op s' := by
  simp only [createMobileIntent, bind_ok, orRefuse_ok] at h
  obtain ⟨payment, hget, -, -, -, -, -, -, -, -, _, -, -, -, intentId, -, h⟩ := h
  have hmem : payment ∈ s.payments := mem_of_get? hget
  split at h
  case h_1 =>
    simp at h
    obtain ⟨-, -, rfl⟩ := h
    exact staffed_of_kept (saveMerchant_processed ..) (saveMerchant_payments ..)
  case h_2 =>
    simp at h
    obtain ⟨_, hsaved, rfl⟩ := h
    obtain rfl := savePayment_ok hsaved
    have hmoves : Moves v s op payment
        { payment with
          onlineRail := some .nativePaymentIntent
          stripePaymentIntentId := some intentId } :=
      ⟨rfl, rfl, .inl rfl, fun hne heq => absurd heq hne⟩
    refine ⟨saveMerchant_processed .., allMove_of_put hmem hmoves ?_⟩
    rw [record_payments, saveMerchant_payments]

theorem expireCheckoutBestEffort_eq (payment : Payment) (answer : ClosingAnswer) (now : Int) :
    ∃ expiredAt : Option Int, expireCheckoutBestEffort payment answer now =
        { payment with stripeCheckoutSessionExpiredAt := expiredAt } := by
  unfold expireCheckoutBestEffort
  dsimp only
  split
  · exact ⟨payment.stripeCheckoutSessionExpiredAt, rfl⟩
  · split
    · exact ⟨payment.stripeCheckoutSessionExpiredAt, rfl⟩
    · split
      · exact ⟨some now, rfl⟩
      · exact ⟨payment.stripeCheckoutSessionExpiredAt, rfl⟩

theorem closed_moves {answer : ClosingAnswer} (hpending : payment.status = .pending)
    (hallowed : Allowed .pending target) (htarget : target ≠ .paidOnline) :
    Moves v s op payment
      { expireCheckoutBestEffort payment answer now with status := target } := by
  obtain ⟨_, heq⟩ := expireCheckoutBestEffort_eq payment answer now
  rw [heq]
  exact ⟨rfl, rfl, .inr (hpending ▸ hallowed), fun _ honline => absurd honline htarget⟩

theorem mem_lockPayments :
    payment ∈ lockPayments s makerspaceId paymentIds ↔
      payment ∈ s.payments ∧ payment.makerspaceId = makerspaceId ∧ payment.id ∈ paymentIds := by
  rw [lockPayments, mem_insertionSort, mem_filter, Bool.and_eq_true, decide_eq_true_eq,
    decide_eq_true_eq]
  exact Iff.rfl

theorem reconcilePayments_staffed
    (h : reconcilePayments s makerspaceId paymentIds target gate answer now = .ok s') :
    Staffed v s op s' := by
  simp only [reconcilePayments, bind_ok, require_ok] at h
  obtain ⟨_, htarget, -, -, -, -, _, hterminal, hloop⟩ := h
  have hallowed : Allowed .pending target ∧ target ≠ .paidOnline := by
    rcases htarget with rfl | rfl
    · exact ⟨.collect, by decide⟩
    · exact ⟨.waive, by decide⟩
  -- each turn rewrites one locked pending row and leaves the others
  have hinv : s'.processed = s.processed ∧ AllMove v s op s' := by
    refine foldlM_preserves (I := fun t => t.processed = s.processed ∧ AllMove v s op t)
      (fun t payment t' hlocked ht hone => ?_) ⟨rfl, allMove_of_kept rfl⟩ hloop
    have hmem : payment ∈ s.payments := (mem_lockPayments.mp hlocked).1
    have hpending : payment.status = .pending := by
      by_contra hdone
      have hin : payment.id ∈ ((lockPayments s makerspaceId paymentIds).filter
          fun p => p.status ≠ .pending).map Payment.id :=
        mem_map_of_mem (mem_filter.mpr ⟨hlocked, by simpa using hdone⟩)
      rw [hterminal] at hin
      exact absurd hin not_mem_nil
    simp [reconcileOne] at hone
    obtain ⟨_, hsaved, rfl⟩ := hone
    obtain rfl := savePayment_ok hsaved
    refine ⟨ht.1, fun before hbefore => ?_⟩
    obtain ⟨after, hafter, hmoves⟩ := ht.2 before hbefore
    have hrow : Moves v s op payment
        { expireCheckoutBestEffort payment (answer payment.id) now with status := target } :=
      closed_moves hpending hallowed.1 hallowed.2
    by_cases hid : before.id = payment.id
    · obtain rfl : before = payment := eq_of_key_eq hbefore hmem hid
      refine ⟨_, mem_put.mpr (.inr ⟨rfl, after, hafter, ?_⟩), hrow⟩
      exact hmoves.same_row.trans hrow.same_row.symm
    · refine ⟨after, mem_put.mpr (.inl ⟨hafter, ?_⟩), hmoves⟩
      intro hsame
      exact hid (hmoves.same_row.symm.trans (hsame.trans hrow.same_row))
  exact ⟨hinv.1, hinv.2⟩

theorem compatReconcile_staffed (h : compatReconcile s paymentId target gate answer now = .ok s') :
    Staffed v s op s' := by
  simp only [compatReconcile, bind_ok] at h
  obtain ⟨_, -, h⟩ := h
  split at h
  case isTrue => exact staffed_of_kept (by rw [pure_ok.mp h]) (by rw [pure_ok.mp h])
  case isFalse => exact reconcilePayments_staffed h

theorem cancelPending_staffed {subjectType : SubjectType} {subjectId : Nat}
    (h : cancelPending s makerspaceId subjectType subjectId answer now = .ok s') :
    Staffed v s op s' := by
  unfold cancelPending at h
  split at h
  case h_1 => exact staffed_of_kept (by rw [pure_ok.mp h]) (by rw [pure_ok.mp h])
  case h_2 payment hfind =>
    have hmem : payment ∈ s.payments := mem_newestFirst.mp (mem_of_find?_eq_some hfind)
    split at h
    case isTrue =>
      exact staffed_of_kept (by rw [pure_ok.mp h]) (by rw [pure_ok.mp h])
    case isFalse hpending =>
      simp at h
      obtain ⟨_, hsaved, rfl⟩ := h
      obtain rfl := savePayment_ok hsaved
      exact ⟨rfl, allMove_of_put hmem (closed_moves (not_not.mp hpending) .cancel (by decide)) rfl⟩

theorem saveSettings_staffed {merchant : MerchantSettings} {secret : String}
    (h : saveSettings s merchant secret gate = .ok s') :
    Staffed v s op s' := by
  simp [saveSettings] at h
  obtain ⟨-, -, -, -, rfl⟩ := h
  exact staffed_of_kept rfl rfl

theorem unkeyed_kept {body signature : String} {servable : Nat → Bool} {refreshed : Option Account}
    (h : connectWebhook v s body signature servable refreshed now = .ok s')
    (hkey : eventKey v s (.connectWebhook body signature servable refreshed now) = none) :
    s' = s := by
  simp [connectWebhook] at h
  obtain ⟨received, hverified, happly⟩ := h
  simp only [eventKey, hverified, map_eq_none_iff] at hkey
  have hpaid : ∀ payment : Payment, received.IsPaid → payment.stripeProvider = .connect →
      payment.stripeConnectedAccountId = some received.accountId →
      namedByStripe received.sessionId received.intentId payment →
      PaidEvent v s (.connectWebhook body signature servable refreshed now) payment :=
    fun p hp hrail hacc hnamed => .connect hverified hp hrail hacc hnamed
  rcases applyConnectWebhookEvent_applied hpaid happly with rfl | ⟨_, hm, -⟩
  · rfl
  · simp [hkey] at hm

/-- An operation applies a delivery under its key, or claims no event. -/
theorem step_cases (h : step v s op = .ok s') :
    (∃ event, eventKey v s op = some event ∧ Applied v s op event s') ∨
      (eventKey v s op = none ∧ Staffed v s op s') := by
  cases hkey : eventKey v s op with
  | some event => exact .inl ⟨event, rfl, delivery_applied h hkey⟩
  | none =>
    refine .inr ⟨rfl, ?_⟩
    cases op with
    | create => exact createPayment_staffed h
    | createOffline => exact createOfflinePayment_staffed h
    | createCheckout => exact createCheckoutUrl_staffed h
    | createIntent => exact createMobileIntent_staffed h
    | stripeWebhook =>
      simp only [step, stripeWebhook, bind_ok] at h
      obtain ⟨-, -, _, hverified, -⟩ := h
      simp [eventKey, hverified] at hkey
    | connectWebhook =>
      obtain rfl := unkeyed_kept h hkey
      exact staffed_of_kept rfl rfl
    | razorpayWebhook =>
      simp only [step, razorpayWebhook, bind_ok] at h
      obtain ⟨-, -, _, hverified, -⟩ := h
      simp [eventKey, hverified] at hkey
    | reconcile =>
      exact reconcilePayments_staffed h
    | markOffline | waive => exact compatReconcile_staffed h
    | cancelPending =>
      exact cancelPending_staffed h
    | saveSettings => exact saveSettings_staffed h

theorem step_moves (h : step v s op = .ok s') :
    AllMove v s op s' := by
  rcases step_cases h with ⟨_, -, happlied⟩ | ⟨-, hstaffed⟩
  · exact happlied.allMove
  · exact hstaffed.moves

theorem moves_of_settle
    (v : Verifier) (op : Op) {before : Payment} (hbefore : before ∈ s.payments) :
    ∃ after ∈ (settle (step v) s op).payments, Moves v s op before after := by
  cases h : step v s op with
  | ok => exact settle_ok h ▸ step_moves h before hbefore
  | error => exact ⟨before, (settle_error h).symm ▸ hbefore, .refl v s op before⟩

variable {s : State}

theorem delivery_known (hkey : eventKey v s op = some event) (hknown : event ∈ s.processed) :
    settle (step v) s op = s := by
  cases h : step v s op with
  | error => exact settle_error h
  | ok =>
    rw [settle_ok h]
    cases delivery_applied h hkey with
    | ignored => rfl
    | settled _ _ hnew | merchant hnew => exact absurd rfl (get?_eq_none.mp hnew event hknown)

theorem delivery_claims (hkey : eventKey v s op = some event)
    (hchanged : settle (step v) s op ≠ s) :
    event ∈ (settle (step v) s op).processed := by
  cases h : step v s op with
  | error => exact absurd (settle_error h) hchanged
  | ok =>
    rw [settle_ok h] at hchanged ⊢
    cases delivery_applied h hkey with
    | ignored => exact absurd rfl hchanged
    | settled _ _ hnew hprocessed | merchant hnew hprocessed =>
      rw [hprocessed]
      exact (mem_insert hnew).mpr (.inr rfl)

theorem claimed_preserved (event : ProcessedEvent) :
    Preserves (step v) fun s => event ∈ s.processed := by
  intro s op s' hknown h
  rcases step_cases h with ⟨_, -, happlied⟩ | ⟨-, hstaffed⟩
  · cases happlied with
    | ignored => exact hknown
    | settled _ _ hnew hprocessed | merchant hnew hprocessed =>
      rw [hprocessed]
      exact (mem_insert hnew).mpr (.inl hknown)
  · rw [hstaffed.processed]
    exact hknown

end

structure Lives (before after : Payment) : Prop where
  same_row : after.id = before.id
  same_charge : after.toCharge = before.toCharge
  status_moves : Relation.ReflTransGen Allowed before.status after.status

theorem Moves.lives {v : Verifier} {s : State} {op : Op} {before after : Payment}
    (h : Moves v s op before after) :
    Lives before after where
  same_row := h.same_row
  same_charge := h.same_charge
  status_moves := by
    rcases h.status_move with hsame | hallowed
    · exact hsame ▸ .refl
    · exact .single hallowed

theorem Lives.trans {p q r : Payment} (hpq : Lives p q) (hqr : Lives q r) :
    Lives p r where
  same_row := hqr.same_row.trans hpq.same_row
  same_charge := hqr.same_charge.trans hpq.same_charge
  status_moves := hpq.status_moves.trans hqr.status_moves

theorem lives_of_run (v : Verifier) (s : State) (ops : List Op) :
    ∀ before ∈ s.payments, ∃ after ∈ (run (step v) s ops).payments, Lives before after := by
  refine run_relates
    (R := fun s t => ∀ before ∈ s.payments, ∃ after ∈ t.payments, Lives before after)
    (fun s before hbefore => ⟨before, hbefore, ⟨rfl, rfl, .refl⟩⟩) ?_ ?_ s ops
  · intro s t u hst htu before hbefore
    obtain ⟨middle, hmiddle, hlives⟩ := hst before hbefore
    obtain ⟨after, hafter, hlives'⟩ := htu middle hmiddle
    exact ⟨after, hafter, hlives.trans hlives'⟩
  · intro s op s' h before hbefore
    obtain ⟨after, hafter, hmoves⟩ := step_moves h before hbefore
    exact ⟨after, hafter, hmoves.lives⟩

/-- **In every run, payments keep their charge, move along allowed moves, become paid online by
verified events alone, and no event is applied twice.** -/
theorem ledger_of_run (v : Verifier) (s : State) (ops : List Op) :
    (∀ (op : Op), ∀ before ∈ (run (step v) s ops).payments,
      ∃ after ∈ (settle (step v) (run (step v) s ops) op).payments,
        Moves v (run (step v) s ops) op before after) ∧
    (∀ (more : List Op), ∀ before ∈ (run (step v) s ops).payments,
      ∃ after ∈ (run (step v) s (ops ++ more)).payments, Lives before after) ∧
    ∀ (op : Op) (more : List Op) (op' : Op) (event : ProcessedEvent),
      eventKey v (run (step v) s ops) op = some event →
      settle (step v) (run (step v) s ops) op ≠ run (step v) s ops →
      eventKey v (run (step v) s (ops ++ op :: more)) op' = some event →
      settle (step v) (run (step v) s (ops ++ op :: more)) op' =
        run (step v) s (ops ++ op :: more) := by
  refine ⟨fun op before hbefore => moves_of_settle v op hbefore, ?_, ?_⟩
  · intro more before hbefore
    rw [run_append]
    exact lives_of_run v (run (step v) s ops) more before hbefore
  · intro op more op' event hkey hchanged hkey'
    refine delivery_known hkey' ?_
    rw [run_append, run_cons]
    exact run_preserves (claimed_preserved event) (delivery_claims hkey hchanged) more

/-- Amount, currency and reference are the payment's, with two decimals. -/
def StripeEvent.Matches (event : StripeEvent) (payment : Payment) : Prop :=
  event.amountTotal = some payment.amount ∧ event.currency = payment.currency
    ∧ event.clientReferenceId = toString payment.id

def debt : Payment where
  id := 1
  makerspaceId := 1
  subjectType := .booking
  subjectId := 1
  amount := 50000
  currency := "inr"
  onlineRail := some .checkout
  stripeCheckoutSessionId := some "cs_1"
  createdAt := 0

def indebted : State where
  payments := ⟨[debt], by decide⟩
  processed := ∅
  merchants :=
    ⟨[{ makerspaceId := 1, stripeSecretKey := "sk", stripeWebhookSecret := "whsec" }],
      by decide⟩

def underpaid : StripeEvent where
  id := "evt_1"
  type := "checkout.session.completed"
  objectId := "cs_1"
  paymentStatus := some "paid"
  amountTotal := some 100
  currency := "usd"
  clientReferenceId := "7"

/-- Signatures are the secret followed by the body. -/
def signedBodies : Verifier where
  constructEvent := fun body signature secret =>
    if signature = secret ++ body then some underpaid else none
  hmacSha256 := fun secret body => secret ++ body
  loads := fun _ => none

/-- An event of another amount and reference makes the charge paid. -/
theorem underpaid_settles_debt :
    verifyStripe signedBodies indebted 1 "{}" "whsec{}" = .ok underpaid ∧ ¬ underpaid.Matches debt ∧
      (settle (step signedBodies) indebted
        (.stripeWebhook 1 "{}" "whsec{}" true 0)).payments.rows.map Payment.status =
          [.paidOnline] :=
  ⟨rfl, fun h => absurd h.1 (by decide), by decide⟩

end Payments
end SpaceWorks
