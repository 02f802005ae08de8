import SpaceWorks.Payments.Lifecycle

/-!
# Changes of payment credentials

The guard of `credential_validation.py`, and the creations of checkouts (`services.py`) and intents
(`services_mobile.py`) as decisions from locked rows and writes.
-/

namespace SpaceWorks
namespace Payments

open Checked TransactionalSystem

section Guard

structure CredentialChange where
  stripeSecretKey : Option String := none
  stripeWebhookSecret : Option String := none

def CredentialChange.changedFields (change : CredentialChange)
    (stripeSecretKey stripeWebhookSecret : String) : List String :=
  (if change.stripeSecretKey.any (· ≠ stripeSecretKey) then ["stripe_secret_key"] else []) ++
    if change.stripeWebhookSecret.any (· ≠ stripeWebhookSecret) then ["stripe_webhook_secret"]
    else []

/-- Whose credentials change: a makerspace's own or the platform's. -/
inductive Scope
  | makerspace (makerspaceId : Nat)
  | platform

def Scope.covers (payment : Payment) : Scope → Bool
  | .makerspace makerspaceId =>
    payment.stripeProvider = .raw && payment.makerspaceId = makerspaceId
  | .platform => payment.stripeProvider = .connect

/-- The two texts `PENDING_…_CREDENTIAL_ERROR`. -/
def Scope.pendingError : Scope → String
  | .makerspace _ =>
    "Cannot change raw Stripe credentials while raw Stripe sessions are pending."
  | .platform =>
    "Cannot change platform Stripe credentials while Connect sessions are pending."

variable (s : State)

def Scope.stored : Scope → Option (String × String)
  | .makerspace makerspaceId =>
    (s.merchants.get? makerspaceId).map fun merchant =>
      (merchant.stripeSecretKey, merchant.stripeWebhookSecret)
  | .platform => some (s.platformSecretKey, s.platformWebhookSecret)

/-- `changed_fields`, none for a row that is not stored. -/
def Scope.changedFields (scope : Scope) (change : CredentialChange) : List String :=
  match scope.stored s with
  | none => []
  | some (stripeSecretKey, stripeWebhookSecret) =>
    change.changedFields stripeSecretKey stripeWebhookSecret

def Scope.looksUp (scope : Scope) (payment : Payment) : Bool :=
  scope.covers payment && payment.stripeCheckoutSessionId.isSome
    && payment.stripeCheckoutSessionExpiredAt.isNone && payment.status ≠ .paidOnline

/-- What `_potentially_live_sessions_exist` looks up. -/
def Scope.sessions (scope : Scope) : List Payment :=
  s.payments.rows.filter scope.looksUp

/-- Credentials resolve, and the session is reported closed. -/
def ClosingAnswer.confirmsClosed (answer : ClosingAnswer) : Bool :=
  answer.sourceResolves && answer.sessionClosed

/-- Both `validate_…_credential_changes` with `persist_closed`: the rows of closed sessions. -/
def validateCredentialChanges (scope : Scope) (change : CredentialChange)
    (answer : Nat → ClosingAnswer) (now : Int) : Except Error (List Payment) :=
  if scope.changedFields s change = [] then pure []
  else do
    require (∀ payment ∈ scope.sessions s, (answer payment.id).confirmsClosed)
      (.validation (", ".intercalate (scope.changedFields s change)) scope.pendingError)
    return (scope.sessions s).map fun payment => payment.expireSession now

def CredentialChange.set (change : CredentialChange) (merchant : MerchantSettings) :
    MerchantSettings :=
  { merchant with
    stripeSecretKey := change.stripeSecretKey.getD merchant.stripeSecretKey
    stripeWebhookSecret := change.stripeWebhookSecret.getD merchant.stripeWebhookSecret }

def saveCredentials (change : CredentialChange) : Scope → Except Error State
  | .makerspace makerspaceId => do
    let merchants ← writeMerchant s (change.set (forMakerspace s makerspaceId))
    return { s with merchants := merchants }
  | .platform =>
    return { s with
      platformSecretKey := change.stripeSecretKey.getD s.platformSecretKey
      platformWebhookSecret := change.stripeWebhookSecret.getD s.platformWebhookSecret }

def commitChange (scope : Scope) (change : CredentialChange) (closed : List Payment) :
    Except Error State := do
  let s ← closed.foldlM savePayment s
  saveCredentials s change scope

def updateCredentials (scope : Scope) (change : CredentialChange)
    (answer : Nat → ClosingAnswer) (now : Int) : Except Error State := do
  let closed ← validateCredentialChanges s scope change answer now
  commitChange s scope change closed

end Guard

/-- The refreshed merchant, and the charged payment if the account can charge. -/
structure RailWrite where
  merchant : Option MerchantSettings
  payment : Option Payment
  action : String

def lockedConnectMerchant (payment : Payment) (merchant : Option MerchantSettings)
    (account : Option Account) : Except Error (Option MerchantSettings) :=
  if payment.stripeProvider ≠ .connect then pure none
  else do
    let merchant ← orRefuse merchant (.unavailable "Stripe Connect account is unavailable.")
    require (merchant.connectAccountId = payment.stripeConnectedAccountId)
      (.unavailable "Stripe Connect account is unavailable.")
    let account ← orRefuse account (.unavailable "Stripe Connect account is unavailable.")
    return some (merchant.updateAccountStatus account)

/-- `raiseCheckout` up to its writes. -/
def decideRaise (payment : Payment) (stored : Option MerchantSettings)
    (account : Option Account) (session : Option (String × String)) : Except Error RailWrite := do
  let merchant ← lockedConnectMerchant payment stored account
  match merchant.filter fun m => !m.canCharge with
  | some _ => return ⟨stored.map MerchantSettings.restrictAccountStatus, none, ""⟩
  | none =>
    let (orderId, url) ← orRefuse (session.filter fun (orderId, url) => orderId ≠ "" && url ≠ "")
      (.unavailable "The provider did not return a checkout.")
    return ⟨merchant, some (payment.withCheckout orderId url), "payment.checkout_created"⟩

/-- `create_checkout_url` up to its writes. -/
def decideCheckout (payment : Payment) (stored : Option MerchantSettings)
    (gate : Except String Unit) (account : Option Account)
    (session : Option (String × String)) : Except Error RailWrite :=
  if payment.status ≠ .pending then return ⟨none, none, ""⟩
  else do
    require (payment.onlineRail ≠ some .nativePaymentIntent)
      (.railConflict "The payment already uses the native payment rail.")
    if textOr payment.checkoutUrl payment.stripeCheckoutUrl ≠ "" then return ⟨none, none, ""⟩
    else
      gate.mapError Error.gate
      decideRaise payment stored account session

/-- `create_mobile_intent` up to its writes. -/
def decideIntent (payment : Payment) (stored : Option MerchantSettings)
    (gate : Except String Unit) (account : Option Account) (intent : Option String) :
    Except Error RailWrite := do
  require (payment.status = .pending) (.notFound "Payment")
  require (payment.onlineRail ≠ some .checkout)
    (.railConflict "The payment already uses the Checkout payment rail.")
  require (payment.provider = .stripe) (.unavailable "Mobile payments require Stripe.")
  gate.mapError Error.gate
  let merchant ← lockedConnectMerchant payment stored account
  require (merchant.all MerchantSettings.canCharge)
    (.unavailable "Stripe Connect account cannot accept charges.")
  let intentId ← orRefuse (intent.filter (· ≠ ""))
    (.unavailable "Stripe did not return a usable payment intent.")
  match payment.stripePaymentIntentId with
  | some stored =>
    require (stored = intentId) (.unavailable "Stripe returned an unexpected payment intent.")
    return ⟨merchant, none, ""⟩
  | none =>
    return ⟨merchant, some { payment with
      onlineRail := some .nativePaymentIntent
      stripePaymentIntentId := some intentId }, "payment.mobile_intent_created"⟩

def RailWrite.commit (s : State) (write : RailWrite) : Except Error State :=
  match write.payment with
  | none => return saveMerchant s write.merchant
  | some payment => do
    let saved ← savePayment (saveMerchant s write.merchant) payment
    return record saved write.action payment.id ""

end Payments
end SpaceWorks
