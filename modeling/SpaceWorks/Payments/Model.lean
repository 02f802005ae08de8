import Mathlib.Data.List.Sort
import SpaceWorks.Library.Checked
import SpaceWorks.Library.Runs
import SpaceWorks.Library.Table

/-!
# Payments

Charges (`services.py`, `offline_payments.py`), hosted checkouts and native intents (`services.py`,
`services_mobile.py`), the webhooks (`views.py`, `views_connect.py`, `services_webhooks.py`,
`terminal_settlement.py`) and staff reconciliation (`reconciliation.py`), each one step.  The
vendors' answers are arguments, their libraries the parameter `Verifier`.  Amounts are hundredths,
times microseconds.
-/

namespace SpaceWorks
namespace Payments

open Checked TransactionalSystem

inductive SubjectType
  | machineServiceRequest
  | booking
  | eventRegistration
  | makerspaceMembership
  deriving DecidableEq

inductive Status
  | pending
  | paidOnline
  | paidOffline
  | waived
  | canceled
  deriving DecidableEq

inductive StripeProvider
  | raw
  | connect
  deriving DecidableEq

inductive Provider
  | stripe
  | razorpay
  deriving DecidableEq

inductive OnlineRail
  | checkout
  | nativePaymentIntent
  deriving DecidableEq

structure Charge where
  makerspaceId : Nat
  subjectType : SubjectType
  subjectId : Nat
  memberId : Option Nat := none
  amount : Int
  currency : String
  provider : Provider := .stripe
  stripeProvider : StripeProvider := .raw
  stripeConnectedAccountId : Option String := none
  stripeApplicationFeeAmount : Nat := 0

structure Payment extends Charge where
  id : Nat
  status : Status := .pending
  externalOrderId : Option String := none
  externalPaymentId : Option String := none
  checkoutUrl : String := ""
  onlineRail : Option OnlineRail := none
  stripeCheckoutSessionId : Option String := none
  stripeCheckoutUrl : String := ""
  stripeCheckoutSessionExpiredAt : Option Int := none
  stripePaymentIntentId : Option String := none
  createdAt : Int

structure ProcessedEvent where
  makerspaceId : Nat
  provider : Provider
  eventId : String
  deriving DecidableEq

inductive ConnectStatus
  | unconnected
  | pending
  | active
  | restricted
  | disconnected
  deriving DecidableEq

structure MerchantSettings where
  makerspaceId : Nat
  provider : Provider := .stripe
  stripeSecretKey : String := ""
  stripeWebhookSecret : String := ""
  connectAccountId : Option String := none
  connectStatus : ConnectStatus := .unconnected
  connectChargesEnabled : Bool := false
  connectPayoutsEnabled : Bool := false
  connectAccountAssignedAt : Option Int := none
  razorpayKeyId : String := ""
  razorpayKeySecret : String := ""
  razorpayWebhookSecret : String := ""

structure AuditRecord where
  action : String
  target : Nat
  eventId : String := ""
  deriving DecidableEq

instance : Keyed Payment Nat := ⟨Payment.id⟩

instance : Keyed ProcessedEvent ProcessedEvent := ⟨id⟩

instance : Keyed MerchantSettings Nat := ⟨MerchantSettings.makerspaceId⟩

@[simp] theorem key_payment (payment : Payment) : key payment = payment.id := rfl

@[simp] theorem key_merchantSettings (merchant : MerchantSettings) :
    key merchant = merchant.makerspaceId := rfl

inductive Error
  | validation (field message : String)
  | conflict (paymentIds : List Nat)
  | notFound (message : String)
  | unavailable (message : String)
  | railConflict (message : String)
  | integrity (constraint : String)
  | rejected (detail : String)
  | gate (message : String)

structure State where
  payments : Table Payment
  processed : Table ProcessedEvent
  merchants : Table MerchantSettings
  /-- The webhook secret of `PlatformStripeConnectSettings`. -/
  platformWebhookSecret : String := ""
  platformSecretKey : String := ""
  audit : List AuditRecord := []

/-- What is read of a Stripe event, and its amount and reference. -/
structure StripeEvent where
  id : String := ""
  type : String := ""
  objectId : String := ""
  paymentStatus : Option String := none
  paymentIntent : String := ""
  account : String := ""
  created : Option Int := none
  amountTotal : Option Int := none
  currency : String := ""
  clientReferenceId : String := ""

structure RazorpayBody where
  event : String := ""
  linkId : String := ""
  paymentId : String := ""
  paymentOrderId : String := ""
  orderId : String := ""
  amount : Option Int := none
  currency : String := ""

/-- The vendors' functions that authenticate and parse. -/
structure Verifier where
  /-- `stripe.Webhook.construct_event` of these. -/
  constructEvent : String → String → String → Option StripeEvent
  hmacSha256 : String → String → String
  loads : String → Option RazorpayBody

structure WebhookEvent where
  eventId : String
  isPaid : Bool
  orderId : String := ""
  paymentId : String := ""

/-- Python's `a or b` on text. -/
def textOr (a b : String) : String :=
  if a = "" then b else a

/-- The event types `apply_webhook_event` acts on. -/
def handledTypes : List String :=
  ["checkout.session.completed", "checkout.session.async_payment_succeeded",
    "checkout.session.expired", "payment_intent.succeeded"]

/-- The handled event types whose object is a hosted session. -/
def sessionTypes : List String :=
  ["checkout.session.completed", "checkout.session.async_payment_succeeded",
    "checkout.session.expired"]

/-- The hosted session an event speaks of, if any. -/
def StripeEvent.sessionId (event : StripeEvent) : String :=
  if event.type ∈ sessionTypes then event.objectId else ""

/-- The payment intent an event speaks of, if any. -/
def StripeEvent.intentId (event : StripeEvent) : String :=
  textOr event.paymentIntent
    (if event.type = "payment_intent.succeeded" then event.objectId else "")

/-- The filters of `apply_webhook_event`. -/
def StripeEvent.relevant (event : StripeEvent) : Bool :=
  event.id ≠ "" && event.type ∈ handledTypes
    && !(event.type = "checkout.session.completed"
      && !(event.paymentStatus = some "paid" || event.paymentStatus = none))
    && (event.sessionId ≠ "" || event.intentId ≠ "")

def paidEvents : List String :=
  ["payment_link.paid", "order.paid", "payment.captured"]

section Ledger

variable (s : State)

def brokenConstraint (row : Payment) : Option String :=
  let others := s.payments.rows.filter fun p => p.id ≠ row.id
  if others.any fun p => p.makerspaceId = row.makerspaceId
      && p.subjectType = row.subjectType && p.subjectId = row.subjectId then
    some "payment_one_per_subject"
  else if others.any fun p => row.stripeCheckoutSessionId.isSome
      && p.stripeCheckoutSessionId = row.stripeCheckoutSessionId then
    some "stripe_checkout_session_id"
  else if others.any fun p => row.stripePaymentIntentId.isSome
      && p.stripePaymentIntentId = row.stripePaymentIntentId then
    some "stripe_payment_intent_id"
  else if others.any fun p => row.externalOrderId.isSome
      && p.provider = row.provider && p.externalOrderId = row.externalOrderId then
    some "payment_external_order_once_per_provider"
  else if others.any fun p => row.externalPaymentId.isSome
      && p.provider = row.provider && p.externalPaymentId = row.externalPaymentId then
    some "payment_external_payment_once_per_provider"
  else none

/-- The unique constraints, by `full_clean` or the database. -/
def checkConstraints (row : Payment) : Except Error Unit :=
  match brokenConstraint s row with
  | none => .ok ()
  | some name => .error (.integrity name)

/-- The columns that `Payment.save` never lets change. -/
def Charge.provenance (charge : Charge) :
    Provider × StripeProvider × Option String × Nat :=
  (charge.provider, charge.stripeProvider, charge.stripeConnectedAccountId,
    charge.stripeApplicationFeeAmount)

/-- The checks of `Payment.save` against the stored row. -/
def checkImmutable (original row : Payment) : Except Error Unit := do
  require (original.status = .pending
      ∨ (original.status = row.status ∧ original.amount = row.amount))
    (.validation "__all__" "Terminal payments are immutable.")
  require (original.provenance = row.provenance)
    (.validation "__all__" "Payment provenance is immutable.")
  require (original.onlineRail = none ∨ original.onlineRail = row.onlineRail)
    (.validation "__all__" "The online payment rail is immutable once claimed.")

/-- `Payment.save` of a stored row. -/
def savePayment (row : Payment) : Except Error State := do
  let original ← orRefuse (s.payments.get? row.id) (.notFound "Payment")
  checkImmutable original row
  checkConstraints s row
  return { s with payments := s.payments.put row }

/-- `Payment.objects.create`. -/
def insertPayment (row : Payment) : Except Error State := do
  require (0 < row.amount) (.integrity "payment_amount_positive")
  checkConstraints s row
  let payments ← s.payments.insertNew row (.integrity "payment_pkey")
  return { s with payments := payments }

def record (action : String) (target : Nat) (eventId : String) : State :=
  { s with audit := s.audit ++ [{ action := action, target := target, eventId := eventId }] }

/-- The default order of payments: `ordering = ["-created_at"]`. -/
def newestFirst : List Payment :=
  s.payments.rows.insertionSort fun p q => q.createdAt ≤ p.createdAt

def forMakerspace (makerspaceId : Nat) : MerchantSettings :=
  (s.merchants.get? makerspaceId).getD { makerspaceId := makerspaceId }

def MerchantSettings.rawCredentialsConfigured (merchant : MerchantSettings) : Bool :=
  match merchant.provider with
  | .razorpay => merchant.razorpayKeyId ≠ "" && merchant.razorpayKeySecret ≠ ""
      && merchant.razorpayWebhookSecret ≠ ""
  | .stripe => merchant.stripeSecretKey ≠ "" && merchant.stripeWebhookSecret ≠ ""

end Ledger

section Creation

variable (s : State)

structure PaymentSource where
  provider : StripeProvider := .raw
  vendor : Provider := .stripe
  connectedAccountId : Option String := none

structure ChargeRequest where
  newId : Nat
  makerspaceId : Nat
  subjectType : SubjectType
  subjectId : Nat
  memberId : Option Nat := none
  amount : Int
  currency : String
  createdAt : Int

/-- `create_payment`; `fee` is by the amount rules, `charging` by the gate. -/
def createPayment (request : ChargeRequest) (charging : Bool)
    (source : Option PaymentSource) (fee : Except String Nat) : Except Error State := do
  require charging (.unavailable "Payments are disabled for this makerspace.")
  let source ← orRefuse source (.unavailable "Payments are not configured for this makerspace.")
  let feeAmount ← fee.mapError Error.gate
  let row : Payment :=
    { id := request.newId
      makerspaceId := request.makerspaceId
      subjectType := request.subjectType
      subjectId := request.subjectId
      memberId := request.memberId
      amount := request.amount
      currency := request.currency
      provider := source.vendor
      stripeProvider := source.provider
      stripeConnectedAccountId := source.connectedAccountId
      stripeApplicationFeeAmount := feeAmount
      createdAt := request.createdAt }
  let created ← insertPayment s row
  return record created "payment.created" row.id ""

/-- The lookup `Payment.objects.filter(**subject).first()`. -/
def paymentOfSubject (makerspaceId : Nat) (subjectType : SubjectType) (subjectId : Nat) :
    Option Payment :=
  (newestFirst s).find? fun p => p.makerspaceId = makerspaceId
    && p.subjectType = subjectType && p.subjectId = subjectId

/-- `create_offline_payment`, which keeps an existing charge. -/
def createOfflinePayment (request : ChargeRequest) (charging : Bool) :
    Except Error State :=
  let row : Payment :=
    { id := request.newId
      makerspaceId := request.makerspaceId
      subjectType := request.subjectType
      subjectId := request.subjectId
      memberId := request.memberId
      amount := request.amount
      currency := request.currency
      createdAt := request.createdAt }
  if request.amount ≤ 0 ∨ ¬ charging then pure s
  else if (paymentOfSubject s request.makerspaceId request.subjectType
      request.subjectId).isSome then pure s
  else do
    let created ← insertPayment s row
    return record created "payment.created" row.id ""

end Creation

section OnlineRails

variable (s : State)

structure Account where
  chargesEnabled : Bool
  payoutsEnabled : Bool
  detailsSubmitted : Bool

def MerchantSettings.updateAccountStatus (merchant : MerchantSettings)
    (account : Account) : MerchantSettings :=
  { merchant with
    connectChargesEnabled := account.chargesEnabled
    connectPayoutsEnabled := account.payoutsEnabled
    connectStatus :=
      if account.chargesEnabled then .active
      else if account.detailsSubmitted then .restricted
      else .pending }

def MerchantSettings.restrictAccountStatus (merchant : MerchantSettings) :
    MerchantSettings :=
  { merchant with
    connectStatus := .restricted
    connectChargesEnabled := false
    connectPayoutsEnabled := false }

def MerchantSettings.canCharge (merchant : MerchantSettings) : Bool :=
  merchant.connectStatus = .active && merchant.connectChargesEnabled

/-- The merchant refreshed for a Connect payment, else `none`. -/
def connectMerchant (payment : Payment) (account : Option Account) :
    Except Error (Option MerchantSettings) :=
  if payment.stripeProvider ≠ .connect then pure none
  else do
    let merchant ← orRefuse (s.merchants.get? payment.makerspaceId)
      (.unavailable "Stripe Connect account is unavailable.")
    require (merchant.connectAccountId = payment.stripeConnectedAccountId)
      (.unavailable "Stripe Connect account is unavailable.")
    let account ← orRefuse account (.unavailable "Stripe Connect account is unavailable.")
    return some (merchant.updateAccountStatus account)

def saveMerchant : Option MerchantSettings → State
  | none => s
  | some merchant => { s with merchants := s.merchants.put merchant }

def Payment.withCheckout (payment : Payment) (orderId url : String) : Payment :=
  match payment.provider with
  | .stripe =>
    { payment with
      onlineRail := payment.onlineRail.or (some .checkout)
      stripeCheckoutSessionId := some orderId
      stripeCheckoutUrl := url
      stripeCheckoutSessionExpiredAt := none
      externalOrderId := some orderId
      checkoutUrl := url }
  | .razorpay =>
    { payment with
      onlineRail := payment.onlineRail.or (some .checkout)
      externalOrderId := some orderId
      checkoutUrl := url }

/-- A checkout is raised; a restricted merchant leaves only its status. -/
def raiseCheckout (payment : Payment) (account : Option Account)
    (session : Option (String × String)) : Except Error State := do
  let merchant ← connectMerchant s payment account
  match merchant.filter fun m => !m.canCharge with
  | some refused =>
    return saveMerchant s ((s.merchants.get? refused.makerspaceId).map
      MerchantSettings.restrictAccountStatus)
  | none =>
    let (orderId, url) ← orRefuse (session.filter fun (orderId, url) => orderId ≠ "" && url ≠ "")
      (.unavailable "The provider did not return a checkout.")
    let saved ← savePayment (saveMerchant s merchant) (payment.withCheckout orderId url)
    return record saved "payment.checkout_created" payment.id ""

/-- `create_checkout_url`, with the checks and the vendor's answers. -/
def createCheckoutUrl (paymentId : Nat) (gate : Except String Unit)
    (account : Option Account) (session : Option (String × String)) :
    Except Error State := do
  let payment ← orRefuse (s.payments.get? paymentId) (.notFound "Payment")
  if payment.status ≠ .pending then return s
  else
    require (payment.onlineRail ≠ some .nativePaymentIntent)
      (.railConflict "The payment already uses the native payment rail.")
    if textOr payment.checkoutUrl payment.stripeCheckoutUrl ≠ "" then return s
    else
      gate.mapError Error.gate
      raiseCheckout s payment account session

/-- `create_mobile_intent`, with the vendor's `intent`. -/
def createMobileIntent (paymentId : Nat) (gate : Except String Unit)
    (account : Option Account) (intent : Option String) : Except Error State := do
  let payment ← orRefuse (s.payments.get? paymentId) (.notFound "Payment")
  require (payment.status = .pending) (.notFound "Payment")
  require (payment.onlineRail ≠ some .checkout)
    (.railConflict "The payment already uses the Checkout payment rail.")
  require (payment.provider = .stripe) (.unavailable "Mobile payments require Stripe.")
  gate.mapError Error.gate
  let merchant ← connectMerchant s payment account
  require (merchant.all MerchantSettings.canCharge)
    (.unavailable "Stripe Connect account cannot accept charges.")
  let intentId ← orRefuse (intent.filter (· ≠ ""))
    (.unavailable "Stripe did not return a usable payment intent.")
  match payment.stripePaymentIntentId with
  | some stored =>
    require (stored = intentId) (.unavailable "Stripe returned an unexpected payment intent.")
    return saveMerchant s merchant
  | none =>
    let saved ← savePayment (saveMerchant s merchant)
      { payment with
        onlineRail := some .nativePaymentIntent
        stripePaymentIntentId := some intentId }
    return record saved "payment.mobile_intent_created" payment.id ""

end OnlineRails

section Settlement

variable (s : State)

/-- `_record_once`; nothing when claimed before. -/
def recordOnce (event : ProcessedEvent) : Option State :=
  match s.processed.insertNew event () with
  | .ok processed => some { s with processed := processed }
  | .error _ => none

def promoteWaivedToPaidOnline (payment : Payment) (intentId : String) :
    Except Error State := do
  let settled : Payment :=
    { payment with
      status := .paidOnline
      stripePaymentIntentId :=
        if intentId = "" then payment.stripePaymentIntentId else some intentId }
  checkConstraints s settled
  return { s with payments := s.payments.put settled }

def correctWaived (payment : Payment) (intentId : String) : Except Error State :=
  if payment.status = .waived then promoteWaivedToPaidOnline s payment intentId
  else pure s

def recordPaidAfterTerminal (payment : Payment) (eventId : String) : State :=
  let recorded := record s "payment.paid_after_terminal" payment.id eventId
  if payment.status = .paidOffline then
    record recorded "payment.double_paid_refund_required" payment.id eventId
  else recorded

/-- The two `handle_…_paid_after_terminal`; Razorpay has no intent. -/
def handlePaidAfterTerminal (payment : Payment) (eventId intentId : String) :
    Except Error State := do
  let corrected ← correctWaived s payment intentId
  return recordPaidAfterTerminal corrected payment eventId

def Payment.expireSession (payment : Payment) (now : Int) : Payment :=
  { payment with
    stripeCheckoutSessionExpiredAt := some now
    stripeCheckoutSessionId := none
    stripeCheckoutUrl := ""
    externalOrderId := none
    checkoutUrl := "" }

/-- The part of `apply_webhook_event` after the event is claimed. -/
def settleStripe (payment : Payment) (event : StripeEvent) (now : Int) :
    Except Error State := do
  if event.type = "checkout.session.expired" then
    let saved ← savePayment s (payment.expireSession now)
    return record saved "payment.checkout_expired" payment.id event.id
  else if payment.status ≠ .pending then
    handlePaidAfterTerminal s payment event.id event.intentId
  else
    let saved ← savePayment s
      { payment with
        status := .paidOnline
        stripePaymentIntentId :=
          if event.intentId = "" then payment.stripePaymentIntentId
          else some event.intentId }
    return record saved "payment.paid_online" payment.id event.id

def namedByStripe (sessionId intentId : String) (payment : Payment) : Bool :=
  (sessionId ≠ "" && payment.stripeCheckoutSessionId = some sessionId)
    || (intentId ≠ "" && payment.stripePaymentIntentId = some intentId)

/-- The payment `apply_webhook_event` locks. -/
def findStripePayment (makerspaceId : Nat) (event : StripeEvent)
    (provider : StripeProvider) (connectedAccountId : Option String) : Option Payment :=
  (newestFirst s).find? fun p =>
    p.makerspaceId = makerspaceId && p.stripeProvider = provider
      && connectedAccountId.all (fun account => p.stripeConnectedAccountId = some account)
      && namedByStripe event.sessionId event.intentId p

def applyWebhookEvent (makerspaceId : Nat) (event : StripeEvent)
    (provider : StripeProvider) (connectedAccountId : Option String)
    (servable : Bool) (now : Int) : Except Error State :=
  if ¬ (event.relevant ∧ servable) then pure s
  else
    match findStripePayment s makerspaceId event provider connectedAccountId with
    | none => pure s
    | some payment =>
      match recordOnce s ⟨makerspaceId, .stripe, event.id⟩ with
      | none => pure s
      | some claimed => settleStripe claimed payment event now

def namedByRazorpay (orderId paymentId : String) (payment : Payment) : Bool :=
  (orderId ≠ "" && payment.externalOrderId = some orderId)
    || (paymentId ≠ "" && payment.externalPaymentId = some paymentId)

/-- The payment `apply_razorpay_webhook_event` locks. -/
def findRazorpayPayment (makerspaceId : Nat) (event : WebhookEvent) : Option Payment :=
  (newestFirst s).find? fun p =>
    p.makerspaceId = makerspaceId && p.provider = .razorpay
      && namedByRazorpay event.orderId event.paymentId p

/-- `apply_razorpay_webhook_event` after the claim. -/
def settleRazorpay (payment : Payment) (event : WebhookEvent) : Except Error State :=
  if payment.status ≠ .pending then
    handlePaidAfterTerminal s payment event.eventId ""
  else do
    let saved ← savePayment s
      { payment with
        status := .paidOnline
        externalPaymentId :=
          if event.paymentId ≠ "" ∧ (payment.externalPaymentId.getD "") = "" then
            some event.paymentId
          else payment.externalPaymentId }
    return record saved "payment.paid_online" payment.id event.eventId

def applyRazorpayWebhookEvent (makerspaceId : Nat) (event : WebhookEvent)
    (servable : Bool) : Except Error State :=
  if ¬ (servable ∧ event.eventId ≠ "" ∧ event.isPaid) then pure s
  else
    match findRazorpayPayment s makerspaceId event with
    | none => pure s
    | some payment =>
      match recordOnce s ⟨makerspaceId, .razorpay, event.eventId⟩ with
      | none => pure s
      | some claimed => settleRazorpay claimed payment event

end Settlement

section Connect

variable (s : State)

/-- `_event_is_stale`; `created` counts seconds. -/
def eventIsStale (created : Option Int) (assignedAt : Option Int) : Bool :=
  match created, assignedAt with
  | none, _ => true
  | some _, none => false
  | some created, some assigned => created < assigned / 1000000

/-- `_apply_account_event`; `refreshed` is Stripe's report, if any. -/
def accountOutcome (merchant : MerchantSettings) (event : StripeEvent)
    (refreshed : Option Account) : MerchantSettings × String :=
  if event.type = "account.application.deauthorized" then
    if eventIsStale event.created merchant.connectAccountAssignedAt then
      (merchant, "payments.connect_deauthorization_ignored")
    else
      ({ merchant with
          connectStatus := .disconnected
          connectChargesEnabled := false
          connectPayoutsEnabled := false },
        "payments.connect_deauthorized")
  else if merchant.connectStatus = .disconnected then
    (merchant, "payments.connect_status_update_ignored")
  else
    (match refreshed with
      | some account => merchant.updateAccountStatus account
      | none => merchant.restrictAccountStatus,
      "payments.connect_status_updated")

def applyAccountEvent (accountId : String) (event : StripeEvent)
    (servable : Nat → Bool) (refreshed : Option Account) : Except Error State :=
  match s.merchants.rows.find? fun m => m.connectAccountId = some accountId with
  | none => pure s
  | some merchant =>
    if ¬ servable merchant.makerspaceId then pure s
    else
      match recordOnce s ⟨merchant.makerspaceId, .stripe, event.id⟩ with
      | none => pure s
      | some claimed =>
        let (updated, action) := accountOutcome merchant event refreshed
        pure (record { claimed with merchants := claimed.merchants.put updated }
          action merchant.makerspaceId event.id)

def StripeEvent.accountId (event : StripeEvent) : String :=
  textOr event.account event.objectId

def StripeEvent.connectSessionId (event : StripeEvent) : String :=
  if "checkout.session.".isPrefixOf event.type then event.objectId else ""

/-- The payment that names the makerspace of `apply_connect_webhook_event`. -/
def findConnectPayment (event : StripeEvent) : Option Payment :=
  (newestFirst s).find? fun p =>
    p.stripeProvider = .connect && p.stripeConnectedAccountId = some event.accountId
      && namedByStripe event.connectSessionId event.intentId p

def applyConnectWebhookEvent (event : StripeEvent) (servable : Nat → Bool)
    (refreshed : Option Account) (now : Int) : Except Error State :=
  if event.id = "" ∨ event.accountId = "" then pure s
  else if event.type = "account.updated" ∨ event.type = "account.application.deauthorized" then
    applyAccountEvent s event.accountId event servable refreshed
  else
    match findConnectPayment s event with
    | none => pure s
    | some payment =>
      applyWebhookEvent s payment.makerspaceId event .connect (some event.accountId)
        (servable payment.makerspaceId) now

end Connect

section Endpoints

variable (v : Verifier) (s : State)

def constructEvent (body signature secret : String) : Except Error StripeEvent := do
  require (secret ≠ "") (.rejected "Invalid Stripe webhook signature.")
  orRefuse (v.constructEvent body signature secret) (.rejected "Invalid Stripe webhook signature.")

def verifyStripe (makerspaceId : Nat) (body signature : String) :
    Except Error StripeEvent := do
  let merchant := forMakerspace s makerspaceId
  require merchant.rawCredentialsConfigured (.rejected "Payments are not configured.")
  constructEvent v body signature merchant.stripeWebhookSecret

def stripeWebhook (makerspaceId : Nat) (body signature : String) (servable : Bool)
    (now : Int) : Except Error State := do
  require servable (.rejected "Makerspace not found.")
  let event ← verifyStripe v s makerspaceId body signature
  applyWebhookEvent s makerspaceId event .raw none servable now

/-- `StripeConnectWebhookView`. -/
def connectWebhook (body signature : String) (servable : Nat → Bool)
    (refreshed : Option Account) (now : Int) : Except Error State := do
  let event ← constructEvent v body signature s.platformWebhookSecret
  applyConnectWebhookEvent s event servable refreshed now

/-- The link's, the order's or the payment's `order_id`. -/
def RazorpayBody.settledOrderId (body : RazorpayBody) : String :=
  textOr body.linkId (textOr body.orderId body.paymentOrderId)

def RazorpayBody.deliveryId (body : RazorpayBody) (eventIdHeader : String) : String :=
  textOr eventIdHeader
    (body.event ++ ":" ++ textOr body.linkId (textOr body.paymentId body.orderId))

/-- `RazorpayProvider.verify_webhook`. -/
def verifyRazorpay (secret body signature eventIdHeader : String) :
    Except Error WebhookEvent := do
  require (secret ≠ "") (.rejected "Invalid Razorpay webhook signature.")
  require (signature ≠ "") (.rejected "Invalid Razorpay webhook signature.")
  require (v.hmacSha256 secret body = signature) (.rejected "Invalid Razorpay webhook signature.")
  let parsed ← orRefuse (v.loads body) (.rejected "Invalid Razorpay webhook signature.")
  return {
    eventId := parsed.deliveryId eventIdHeader
    isPaid := parsed.event ∈ paidEvents
    orderId := parsed.settledOrderId
    paymentId := parsed.paymentId }

def verifyRazorpayDelivery (makerspaceId : Nat) (body signature eventIdHeader : String) :
    Except Error WebhookEvent := do
  let merchant := forMakerspace s makerspaceId
  require (merchant.provider = .razorpay) (.rejected "Razorpay is not configured.")
  require merchant.rawCredentialsConfigured (.rejected "Payments are not configured.")
  verifyRazorpay v merchant.razorpayWebhookSecret body signature eventIdHeader

def razorpayWebhook (makerspaceId : Nat) (body signature eventIdHeader : String)
    (servable : Bool) : Except Error State := do
  require servable (.rejected "Makerspace not found.")
  let event ← verifyRazorpayDelivery v s makerspaceId body signature eventIdHeader
  applyRazorpayWebhookEvent s makerspaceId event servable

end Endpoints

section Reconciliation

variable (s : State)

/-- The credentials still resolve, and the session is closed. -/
structure ClosingAnswer where
  sourceResolves : Bool := true
  sessionClosed : Bool := true

def expireCheckoutBestEffort (payment : Payment) (answer : ClosingAnswer) (now : Int) :
    Payment :=
  let orderId := payment.externalOrderId.or payment.stripeCheckoutSessionId
  if payment.onlineRail = some .nativePaymentIntent
      ∧ payment.stripePaymentIntentId.isSome then payment
  else if orderId.isNone ∨ payment.stripeCheckoutSessionExpiredAt.isSome then payment
  else if answer.sourceResolves ∧ (payment.provider ≠ .stripe ∨ answer.sessionClosed) then
    { payment with stripeCheckoutSessionExpiredAt := some now }
  else payment

def reconcileOne (target : Status) (answer : Nat → ClosingAnswer) (now : Int)
    (s : State) (payment : Payment) : Except Error State := do
  let saved ← savePayment s
    { expireCheckoutBestEffort payment (answer payment.id) now with status := target }
  return record saved (if target = .paidOffline then "payment.paid_offline" else "payment.waived")
    payment.id ""

/-- What `reconcile_payments` locks, by key. -/
def lockPayments (makerspaceId : Nat) (paymentIds : List Nat) : List Payment :=
  (s.payments.rows.filter fun p => p.makerspaceId = makerspaceId && p.id ∈ paymentIds)
    |>.insertionSort fun p q => p.id ≤ q.id

/-- `reconcile_payments`, with the authority checks. -/
def reconcilePayments (makerspaceId : Nat) (paymentIds : List Nat) (target : Status)
    (gate : Except String Unit) (answer : Nat → ClosingAnswer) (now : Int) :
    Except Error State := do
  require (target = .paidOffline ∨ target = .waived) (.gate "Unsupported reconciliation status.")
  let locked := lockPayments s makerspaceId paymentIds
  require (locked.length = paymentIds.length) (.notFound "Payment not found.")
  gate.mapError Error.gate
  let terminal := (locked.filter fun p => p.status ≠ .pending).map Payment.id
  require (terminal = []) (.conflict terminal)
  locked.foldlM (reconcileOne target answer now) s

/-- `_compat_reconcile`, through which `mark_offline` and `waive` go. -/
def compatReconcile (paymentId : Nat) (target : Status) (gate : Except String Unit)
    (answer : Nat → ClosingAnswer) (now : Int) : Except Error State := do
  let current ← orRefuse (s.payments.get? paymentId) (.notFound "Payment")
  if current.status ≠ .pending then return s
  else reconcilePayments s current.makerspaceId [current.id] target gate answer now

def cancelPending (makerspaceId : Nat) (subjectType : SubjectType) (subjectId : Nat)
    (answer : Nat → ClosingAnswer) (now : Int) : Except Error State :=
  match paymentOfSubject s makerspaceId subjectType subjectId with
  | none => pure s
  | some payment =>
    if payment.status ≠ .pending then pure s
    else do
      let saved ← savePayment s
        { expireCheckoutBestEffort payment (answer payment.id) now with status := .canceled }
      return record saved "payment.canceled" payment.id ""

/-- `update_or_create` of a makerspace's settings row. -/
def writeMerchant (merchant : MerchantSettings) : Except Error (Table MerchantSettings) :=
  match s.merchants.get? merchant.makerspaceId with
  | some _ => pure (s.merchants.put merchant)
  | none => s.merchants.insertNew merchant (.integrity "settings_pkey")

def saveSettings (merchant : MerchantSettings) (platformWebhookSecret : String)
    (gate : Except String Unit) : Except Error State := do
  gate.mapError Error.gate
  let merchants ← writeMerchant s merchant
  return { s with merchants := merchants, platformWebhookSecret := platformWebhookSecret }

end Reconciliation

inductive Op
  | create (request : ChargeRequest) (charging : Bool) (source : Option PaymentSource)
      (fee : Except String Nat)
  | createOffline (request : ChargeRequest) (charging : Bool)
  | createCheckout (paymentId : Nat) (gate : Except String Unit)
      (account : Option Account) (session : Option (String × String))
  | createIntent (paymentId : Nat) (gate : Except String Unit)
      (account : Option Account) (intent : Option String)
  | stripeWebhook (makerspaceId : Nat) (body signature : String) (servable : Bool) (now : Int)
  | connectWebhook (body signature : String) (servable : Nat → Bool)
      (refreshed : Option Account) (now : Int)
  | razorpayWebhook (makerspaceId : Nat) (body signature eventIdHeader : String) (servable : Bool)
  | reconcile (makerspaceId : Nat) (paymentIds : List Nat) (target : Status)
      (gate : Except String Unit) (answer : Nat → ClosingAnswer) (now : Int)
  | markOffline (paymentId : Nat) (gate : Except String Unit)
      (answer : Nat → ClosingAnswer) (now : Int)
  | waive (paymentId : Nat) (gate : Except String Unit) (answer : Nat → ClosingAnswer) (now : Int)
  | cancelPending (makerspaceId : Nat) (subjectType : SubjectType) (subjectId : Nat)
      (answer : Nat → ClosingAnswer) (now : Int)
  | saveSettings (merchant : MerchantSettings) (platformWebhookSecret : String)
      (gate : Except String Unit)

def step (v : Verifier) (s : State) : Op → Except Error State
  | .create request charging source fee => createPayment s request charging source fee
  | .createOffline request charging => createOfflinePayment s request charging
  | .createCheckout paymentId gate account session =>
    createCheckoutUrl s paymentId gate account session
  | .createIntent paymentId gate account intent =>
    createMobileIntent s paymentId gate account intent
  | .stripeWebhook makerspaceId body signature servable now =>
    stripeWebhook v s makerspaceId body signature servable now
  | .connectWebhook body signature servable refreshed now =>
    connectWebhook v s body signature servable refreshed now
  | .razorpayWebhook makerspaceId body signature eventIdHeader servable =>
    razorpayWebhook v s makerspaceId body signature eventIdHeader servable
  | .reconcile makerspaceId paymentIds target gate answer now =>
    reconcilePayments s makerspaceId paymentIds target gate answer now
  | .markOffline paymentId gate answer now =>
    compatReconcile s paymentId .paidOffline gate answer now
  | .waive paymentId gate answer now =>
    compatReconcile s paymentId .waived gate answer now
  | .cancelPending makerspaceId subjectType subjectId answer now =>
    cancelPending s makerspaceId subjectType subjectId answer now
  | .saveSettings merchant platformWebhookSecret gate =>
    saveSettings s merchant platformWebhookSecret gate

end Payments
end SpaceWorks
