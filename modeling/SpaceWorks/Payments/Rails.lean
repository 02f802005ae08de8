import SpaceWorks.Payments.Credentials

/-!
# The online rails of a payment

A payment is charged through a hosted session or a native intent; creations, deliveries, staff and
credential changes write the columns of both.  `rewritten_of_step` says what an operation can do,
`OneRail` is the invariant.
-/

namespace SpaceWorks
namespace Payments

open Checked TransactionalSystem Table List Option

inductive RailOp
  | ledger (op : Op)
  | changeCredentials (scope : Scope) (change : CredentialChange)
      (answer : Nat → ClosingAnswer) (now : Int)

def railStep (v : Verifier) (s : State) : RailOp → Except Error State
  | .ledger op => step v s op
  | .changeCredentials scope change answer now => updateCredentials s scope change answer now

inductive Delivers (v : Verifier) (s : State) : RailOp → StripeEvent → Prop
  | stripe {makerspaceId : Nat} {body signature : String} {servable : Bool} {now : Int}
      {event : StripeEvent}
      (hverified : verifyStripe v s makerspaceId body signature = .ok event) :
      Delivers v s (.ledger (.stripeWebhook makerspaceId body signature servable now)) event
  | connect {body signature : String} {servable : Nat → Bool} {refreshed : Option Account}
      {now : Int} {event : StripeEvent}
      (hverified : constructEvent v body signature s.platformWebhookSecret = .ok event) :
      Delivers v s (.ledger (.connectWebhook body signature servable refreshed now)) event

def RequestsCheckout (op : RailOp) (paymentId : Nat) : Prop :=
  ∃ gate account session, op = .ledger (.createCheckout paymentId gate account session)

def Op.charges : Op → Option SubjectType
  | .create request _ _ _ => some request.subjectType
  | .createOffline request _ => some request.subjectType
  | _ => none

def Op.cancels : Op → Option (SubjectType × Nat)
  | .cancelPending _ subjectType subjectId _ _ => some (subjectType, subjectId)
  | _ => none

inductive Rewrites (v : Verifier) (s : State) (op : RailOp) (before : Payment) : Payment → Prop
  | kept : Rewrites v s op before before
  | checkout {orderId url : String} (hop : RequestsCheckout op before.id)
      (hpending : before.status = .pending)
      (hrail : before.onlineRail ≠ some .nativePaymentIntent)
      (hblank : textOr before.checkoutUrl before.stripeCheckoutUrl = "")
      (hurl : url ≠ "") :
      Rewrites v s op before (before.withCheckout orderId url)
  | intent {intentId : String} (hpending : before.status = .pending)
      (hrail : before.onlineRail ≠ some .checkout)
      (hvendor : before.provider = .stripe) :
      Rewrites v s op before { before with
        onlineRail := some .nativePaymentIntent
        stripePaymentIntentId := some intentId }
  | expired {event : StripeEvent} {now : Int} (hdelivers : Delivers v s op event)
      (hexpired : event.type = "checkout.session.expired")
      (hnamed : namedByStripe event.sessionId event.intentId before) :
      Rewrites v s op before (before.expireSession now)
  | closed {scope : Scope} {change : CredentialChange} {answer : Nat → ClosingAnswer} {now : Int}
      (hop : op = .changeCredentials scope change answer now)
      (hlooked : scope.looksUp before)
      (hclosed : (answer before.id).confirmsClosed) :
      Rewrites v s op before (before.expireSession now)
  | paid {event : StripeEvent} (hdelivers : Delivers v s op event)
      (hnamed : namedByStripe event.sessionId event.intentId before) :
      Rewrites v s op before { before with
        status := .paidOnline
        stripePaymentIntentId :=
          if event.intentId = "" then before.stripePaymentIntentId else some event.intentId }
  | paidRazorpay {externalPaymentId : Option String} :
      Rewrites v s op before { before with
        status := .paidOnline
        externalPaymentId := externalPaymentId }
  | settled {target : Status} {expiredAt : Option Int} (htarget : target ≠ .pending)
      (hcancels : target = .canceled → ∃ request, op = .ledger request ∧
          request.cancels = some (before.subjectType, before.subjectId)) :
      Rewrites v s op before { before with
        stripeCheckoutSessionExpiredAt := expiredAt
        status := target }

structure Unclaimed (payment : Payment) : Prop where
  rail : payment.onlineRail = none
  session : payment.stripeCheckoutSessionId = none
  order : payment.externalOrderId = none
  intent : payment.stripePaymentIntentId = none

/-- Rows are rewritten or new, and none is lost. -/
structure Rewritten (v : Verifier) (s : State) (op : RailOp) (t : State) : Prop where
  rows : ∀ after ∈ t.payments,
    (∃ before ∈ s.payments, before.id = after.id ∧ Rewrites v s op before after) ∨
      (Unclaimed after ∧ s.payments.get? after.id = none ∧ after.status = .pending ∧
        ∃ request, op = .ledger request ∧ request.charges = some after.subjectType)
  kept : ∀ before ∈ s.payments, ∃ after ∈ t.payments, after.id = before.id

/-- Every row keeps its stamp, loses it, or is stamped for a reason. -/
def StampedFor (why : Payment → Prop) (s t : State) : Prop :=
  ∀ before ∈ s.payments, ∀ after ∈ t.payments, after.id = before.id →
    after.stripeCheckoutSessionExpiredAt = before.stripeCheckoutSessionExpiredAt ∨
      after.stripeCheckoutSessionExpiredAt = none ∨ why before

structure Served (why : Payment → Prop) (v : Verifier) (s : State) (op : RailOp) (t : State) :
    Prop where
  rewritten : Rewritten v s op t
  stamped : StampedFor why s t

def DeliversExpiry (v : Verifier) (s : State) (op : RailOp) (payment : Payment) : Prop :=
  ∃ event, Delivers v s op event ∧ event.type = "checkout.session.expired" ∧
    namedByStripe event.sessionId event.intentId payment

/-- The vendor reports the session of a looked up payment as closed. -/
def ReportsClosed (scope : Scope) (answer : Nat → ClosingAnswer) (payment : Payment) : Prop :=
  scope.looksUp payment ∧ (answer payment.id).confirmsClosed

section Inversion

variable {v : Verifier} {s t : State} {op : RailOp} {why : Payment → Prop}
  {row before after payment : Payment} {request : Op} {charging servable : Bool}
  {paymentId makerspaceId : Nat} {gate : Except String Unit} {account : Option Account}
  {event : StripeEvent} {now : Int} {body signature : String} {target : Status}
  {answer : Nat → ClosingAnswer} {scope : Scope} {change : CredentialChange}

theorem rewritten_of_kept (h : t.payments = s.payments) : Rewritten v s op t where
  rows after hafter := .inl ⟨after, h ▸ hafter, rfl, .kept⟩
  kept before hbefore := ⟨before, h ▸ hbefore, rfl⟩

theorem rewritten_of_insert (hrow : Unclaimed row) (hpending : row.status = .pending)
    (hcharges : request.charges = some row.subjectType) (hnew : s.payments.get? (key row) = none)
    (h : t.payments = s.payments.insert row hnew) :
    Rewritten v s (.ledger request) t := by
  constructor
  · intro after hafter
    rw [h] at hafter
    rcases (mem_insert hnew).mp hafter with hold | rfl
    · exact .inl ⟨after, hold, rfl, .kept⟩
    · exact .inr ⟨hrow, hnew, hpending, request, rfl, hcharges⟩
  · intro before hbefore
    exact ⟨before, h ▸ (mem_insert hnew).mpr (.inl hbefore), rfl⟩

theorem withCheckout_id (payment : Payment) (orderId url : String) :
    (payment.withCheckout orderId url).id = payment.id := by
  unfold Payment.withCheckout
  cases payment.provider <;> rfl

theorem withCheckout_status (payment : Payment) (orderId url : String) :
    (payment.withCheckout orderId url).status = payment.status := by
  unfold Payment.withCheckout
  cases payment.provider <;> rfl

theorem Rewrites.same_id (h : Rewrites v s op before after) :
    after.id = before.id := by
  cases h with
  | checkout => exact withCheckout_id _ _ _
  | _ => rfl

theorem Rewrites.same_charge (h : Rewrites v s op before after) :
    after.toCharge = before.toCharge := by
  cases h with
  | @checkout =>
    unfold Payment.withCheckout
    cases before.provider <;> rfl
  | _ => rfl

theorem Rewritten.put {t' : State} {old row : Payment} (h : Rewritten v s op t)
    (hold : old ∈ s.payments) (hrow : Rewrites v s op old row)
    (hput : t'.payments = t.payments.put row) :
    Rewritten v s op t' := by
  constructor
  · intro after hafter
    rw [hput] at hafter
    rcases mem_of_mem_put hafter with rfl | ⟨hmem, -⟩
    · exact .inl ⟨old, hold, hrow.same_id.symm, hrow⟩
    · exact h.rows after hmem
  · intro before hbefore
    obtain ⟨after, hafter, hid⟩ := h.kept before hbefore
    rw [hput]
    by_cases hsame : after.id = row.id
    · exact ⟨row, mem_put.mpr (.inr ⟨rfl, after, hafter, hsame⟩), hsame.symm.trans hid⟩
    · exact ⟨after, mem_put.mpr (.inl ⟨hafter, hsame⟩), hid⟩

theorem stampedFor_of_kept (h : t.payments = s.payments) : StampedFor why s t := by
  intro before hbefore after hafter hid
  rw [h] at hafter
  exact .inl (congrArg Payment.stripeCheckoutSessionExpiredAt (eq_of_key_eq hafter hbefore hid))

theorem stampedFor_of_insert (hnew : s.payments.get? (key row) = none)
    (h : t.payments = s.payments.insert row hnew) : StampedFor why s t := by
  intro before hbefore after hafter hid
  rw [h] at hafter
  rcases (mem_insert hnew).mp hafter with hold | rfl
  · exact .inl (congrArg Payment.stripeCheckoutSessionExpiredAt (eq_of_key_eq hold hbefore hid))
  · rw [key_payment, hid, ← key_payment, get?_key hbefore] at hnew
    cases hnew

theorem StampedFor.put
    {t' : State} {old row : Payment} (h : StampedFor why s t) (hold : old ∈ s.payments)
    (hput : t'.payments = t.payments.put row) (hid : row.id = old.id)
    (hrow : row.stripeCheckoutSessionExpiredAt = old.stripeCheckoutSessionExpiredAt ∨
      row.stripeCheckoutSessionExpiredAt = none ∨ why old) : StampedFor why s t' := by
  intro before hbefore after hafter hsame
  rw [hput] at hafter
  rcases mem_of_mem_put hafter with rfl | ⟨hkept, -⟩
  · obtain rfl : before = old := eq_of_key_eq hbefore hold (hsame.symm.trans hid)
    exact hrow
  · exact h before hbefore after hkept hsame

theorem withCheckout_stamp (payment : Payment) (orderId url : String) :
    (payment.withCheckout orderId url).stripeCheckoutSessionExpiredAt =
        payment.stripeCheckoutSessionExpiredAt ∨
      (payment.withCheckout orderId url).stripeCheckoutSessionExpiredAt = none := by
  unfold Payment.withCheckout
  cases payment.provider with
  | stripe => exact .inr rfl
  | razorpay => exact .inl rfl

theorem served_of_kept (h : t.payments = s.payments) : Served why v s op t :=
  ⟨rewritten_of_kept h, stampedFor_of_kept h⟩

theorem served_of_insert (hrow : Unclaimed row) (hpending : row.status = .pending)
    (hcharges : request.charges = some row.subjectType) (hnew : s.payments.get? (key row) = none)
    (h : t.payments = s.payments.insert row hnew) :
    Served why v s (.ledger request) t :=
  ⟨rewritten_of_insert hrow hpending hcharges hnew h, stampedFor_of_insert hnew h⟩

theorem Served.put {t' : State} {old row : Payment} (h : Served why v s op t)
    (hold : old ∈ s.payments) (hrow : Rewrites v s op old row)
    (hstamp : row.stripeCheckoutSessionExpiredAt = old.stripeCheckoutSessionExpiredAt ∨
      row.stripeCheckoutSessionExpiredAt = none ∨ why old)
    (hput : t'.payments = t.payments.put row) :
    Served why v s op t' :=
  ⟨h.rewritten.put hold hrow hput, h.stamped.put hold hput hrow.same_id hstamp⟩

theorem served_of_put {old : Payment} (hold : old ∈ s.payments) (hrow : Rewrites v s op old row)
    (hstamp : row.stripeCheckoutSessionExpiredAt = old.stripeCheckoutSessionExpiredAt ∨
      row.stripeCheckoutSessionExpiredAt = none ∨ why old)
    (hput : t.payments = s.payments.put row) :
    Served why v s op t :=
  (served_of_kept (t := s) rfl).put hold hrow hstamp hput

theorem createPayment_served {request : ChargeRequest} {source : Option PaymentSource}
    {fee : Except String Nat} (h : createPayment s request charging source fee = .ok t) :
    Served why v s (.ledger (.create request charging source fee)) t := by
  simp only [createPayment, bind_ok, pure_ok] at h
  obtain ⟨-, -, _, -, _, -, _, hcreated, rfl⟩ := h
  obtain ⟨hnew, rfl⟩ := insertPayment_ok hcreated
  exact served_of_insert ⟨rfl, rfl, rfl, rfl⟩ rfl rfl hnew rfl

theorem createOfflinePayment_served {request : ChargeRequest}
    (h : createOfflinePayment s request charging = .ok t) :
    Served why v s (.ledger (.createOffline request charging)) t := by
  unfold createOfflinePayment at h
  split at h
  case isTrue => exact served_of_kept (by rw [pure_ok.mp h])
  case isFalse =>
    split at h
    case isTrue => exact served_of_kept (by rw [pure_ok.mp h])
    case isFalse =>
      simp at h
      obtain ⟨_, hcreated, rfl⟩ := h
      obtain ⟨hnew, rfl⟩ := insertPayment_ok hcreated
      exact served_of_insert ⟨rfl, rfl, rfl, rfl⟩ rfl rfl hnew rfl

theorem createCheckoutUrl_served {session : Option (String × String)}
    (hop : RequestsCheckout op paymentId)
    (h : createCheckoutUrl s paymentId gate account session = .ok t) :
    Served why v s op t := by
  simp only [createCheckoutUrl, bind_ok, orRefuse_ok] at h
  obtain ⟨payment, hget, h⟩ := h
  split at h
  case isTrue => exact served_of_kept (by rw [pure_ok.mp h])
  case isFalse hpending =>
    simp only [bind_ok, require_ok] at h
    obtain ⟨-, hrail, h⟩ := h
    split at h
    case isTrue => exact served_of_kept (by rw [pure_ok.mp h])
    case isFalse hblank =>
      simp only [raiseCheckout, bind_ok] at h
      obtain ⟨-, -, _, -, h⟩ := h
      split at h
      case h_1 =>
        obtain rfl := pure_ok.mp h
        exact served_of_kept (saveMerchant_payments ..)
      case h_2 =>
        simp only [bind_ok, orRefuse_ok, pure_ok, filter_eq_some_iff] at h
        obtain ⟨⟨orderId, url⟩, ⟨-, husable⟩, _, hsaved, rfl⟩ := h
        obtain rfl := savePayment_ok hsaved
        simp at husable
        have hrow : Rewrites v s op payment (payment.withCheckout orderId url) := by
          refine .checkout ?_ (not_not.mp hpending) hrail (not_not.mp hblank) husable.2
          rw [show payment.id = paymentId from key_of_get? hget]
          exact hop
        refine served_of_put (mem_of_get? hget) hrow
          ((withCheckout_stamp payment orderId url).imp_right .inl) ?_
        rw [record_payments, saveMerchant_payments]

theorem createMobileIntent_served {intent : Option String}
    (h : createMobileIntent s paymentId gate account intent = .ok t) :
    Served why v s op t := by
  simp only [createMobileIntent, bind_ok, orRefuse_ok, require_ok] at h
  obtain ⟨payment, hget, -, hpending, -, hrail, -, hvendor, -, -, _, -, -, -, intentId,
    -, h⟩ := h
  split at h
  case h_1 =>
    simp at h
    obtain ⟨-, -, rfl⟩ := h
    exact served_of_kept (saveMerchant_payments ..)
  case h_2 =>
    simp at h
    obtain ⟨_, hsaved, rfl⟩ := h
    obtain rfl := savePayment_ok hsaved
    have hrow : Rewrites v s op payment { payment with
        onlineRail := some .nativePaymentIntent
        stripePaymentIntentId := some intentId } := .intent hpending hrail hvendor
    refine served_of_put (mem_of_get? hget) hrow (.inl (by rfl)) ?_
    rw [record_payments, saveMerchant_payments]

theorem settleStripe_served {claimed : State}
    (hclaimed : claimed.payments = s.payments) (hmem : payment ∈ s.payments)
    (hdelivers : Delivers v s op event)
    (hnamed : namedByStripe event.sessionId event.intentId payment)
    (h : settleStripe claimed payment event now = .ok t) :
    Served (DeliversExpiry v s op) v s op t := by
  unfold settleStripe at h
  split at h
  case isTrue hexpired =>
    simp at h
    obtain ⟨_, hsaved, rfl⟩ := h
    obtain rfl := savePayment_ok hsaved
    have hrow : Rewrites v s op payment (payment.expireSession now) :=
      .expired hdelivers hexpired hnamed
    exact served_of_put hmem hrow (.inr (.inr ⟨event, hdelivers, hexpired, hnamed⟩))
      (by rw [record_payments, hclaimed])
  case isFalse =>
    have hrow : Rewrites v s op payment { payment with
        status := .paidOnline
        stripePaymentIntentId :=
          if event.intentId = "" then payment.stripePaymentIntentId
          else some event.intentId } := .paid hdelivers hnamed
    split at h
    case isTrue =>
      rcases handlePaidAfterTerminal_cases h with ⟨-, rfl⟩ | ⟨-, rfl⟩
      · refine served_of_put hmem hrow (.inl (by rfl)) ?_
        rw [recordPaidAfterTerminal_payments, hclaimed]
      · exact served_of_kept (by rw [recordPaidAfterTerminal_payments, hclaimed])
    case isFalse =>
      simp at h
      obtain ⟨_, hsaved, rfl⟩ := h
      obtain rfl := savePayment_ok hsaved
      exact served_of_put hmem hrow (.inl (by rfl)) (by rw [record_payments, hclaimed])

theorem applyWebhookEvent_served {provider : StripeProvider} {account : Option String}
    (hdelivers : Delivers v s op event)
    (h : applyWebhookEvent s makerspaceId event provider account servable now = .ok t) :
    Served (DeliversExpiry v s op) v s op t := by
  rcases applyWebhookEvent_cases h with
    rfl | ⟨payment, hmem, hnew, -, -, -, -, hcharge, hsettle⟩
  · exact served_of_kept rfl
  · exact settleStripe_served (by rfl) hmem hdelivers hcharge hsettle

theorem connectWebhook_served {servable : Nat → Bool} {refreshed : Option Account}
    (h : connectWebhook v s body signature servable refreshed now = .ok t) :
    Served (DeliversExpiry v s (.ledger (.connectWebhook body signature servable refreshed now))) v s
      (.ledger (.connectWebhook body signature servable refreshed now)) t := by
  simp [connectWebhook] at h
  obtain ⟨_, hverified, h⟩ := h
  rcases applyConnectWebhookEvent_cases h with
    rfl | ⟨merchant, hnew, updated, action, -, rfl⟩ | ⟨makerspaceId, -, happly⟩
  · exact served_of_kept rfl
  · exact served_of_kept rfl
  · exact applyWebhookEvent_served (.connect hverified) happly

theorem razorpayWebhook_served {eventIdHeader : String}
    (h : razorpayWebhook v s makerspaceId body signature eventIdHeader servable = .ok t) :
    Served why v s op t := by
  simp only [razorpayWebhook, bind_ok] at h
  obtain ⟨-, -, _, -, h⟩ := h
  rcases applyRazorpayWebhookEvent_cases h with
    rfl | ⟨payment, hmem, hnew, -, -, -, -, hsettle⟩
  · exact served_of_kept rfl
  · have hrow (externalPaymentId : Option String) : Rewrites v s op payment { payment with
        status := .paidOnline
        externalPaymentId := externalPaymentId } := .paidRazorpay
    unfold settleRazorpay at hsettle
    split at hsettle
    case isTrue =>
      rcases handlePaidAfterTerminal_cases hsettle with ⟨-, rfl⟩ | ⟨-, rfl⟩
      · refine served_of_put hmem (hrow payment.externalPaymentId) (.inl (by rfl)) ?_
        simp
      · exact served_of_kept (by rw [recordPaidAfterTerminal_payments])
    case isFalse =>
      simp at hsettle
      obtain ⟨_, hsaved, rfl⟩ := hsettle
      obtain rfl := savePayment_ok hsaved
      exact served_of_put hmem (hrow _) (.inl (by rfl)) (by rw [record_payments])

theorem rewrites_of_closing {answer : ClosingAnswer} (htarget : target ≠ .pending)
    (hcancels : target = .canceled → ∃ request, op = .ledger request ∧
        request.cancels = some (payment.subjectType, payment.subjectId)) :
    Rewrites v s op payment
      { expireCheckoutBestEffort payment answer now with status := target } := by
  obtain ⟨_, heq⟩ := expireCheckoutBestEffort_eq payment answer now
  rw [heq]
  exact .settled htarget hcancels

theorem reconcilePayments_rewritten {paymentIds : List Nat}
    (h : reconcilePayments s makerspaceId paymentIds target gate answer now = .ok t) :
    Rewritten v s op t := by
  simp only [reconcilePayments, bind_ok, require_ok] at h
  obtain ⟨_, htarget, -, -, -, -, _, -, hloop⟩ := h
  have hterminal : target ≠ .pending ∧ target ≠ .canceled := by
    rcases htarget with rfl | rfl
    · decide
    · decide
  refine foldlM_preserves (I := Rewritten v s op) ?_ (rewritten_of_kept rfl) hloop
  intro u payment u' hlocked hu hone
  simp [reconcileOne] at hone
  obtain ⟨_, hsaved, rfl⟩ := hone
  obtain rfl := savePayment_ok hsaved
  exact hu.put (mem_lockPayments.mp hlocked).1
    (rewrites_of_closing hterminal.1 fun hcanceled => absurd hcanceled hterminal.2) rfl

theorem compatReconcile_rewritten (h : compatReconcile s paymentId target gate answer now = .ok t) :
    Rewritten v s op t := by
  simp only [compatReconcile, bind_ok] at h
  obtain ⟨_, -, h⟩ := h
  split at h
  case isTrue => exact rewritten_of_kept (by rw [pure_ok.mp h])
  case isFalse => exact reconcilePayments_rewritten h

theorem cancelPending_rewritten {subjectType : SubjectType} {subjectId : Nat}
    (h : cancelPending s makerspaceId subjectType subjectId answer now = .ok t) :
    Rewritten v s (.ledger (.cancelPending makerspaceId subjectType subjectId answer now)) t := by
  unfold cancelPending at h
  split at h
  case h_1 => exact rewritten_of_kept (by rw [pure_ok.mp h])
  case h_2 payment hfind =>
    split at h
    case isTrue => exact rewritten_of_kept (by rw [pure_ok.mp h])
    case isFalse =>
      simp at h
      obtain ⟨_, hsaved, rfl⟩ := h
      obtain rfl := savePayment_ok hsaved
      have hsubject : (subjectType, subjectId) = (payment.subjectType, payment.subjectId) := by
        have hnamed := find?_some hfind
        simp at hnamed
        rw [hnamed.1.2, hnamed.2]
      exact (rewritten_of_kept (t := s) rfl).put (mem_newestFirst.mp (mem_of_find?_eq_some hfind))
        (rewrites_of_closing (by decide) fun _ => ⟨_, rfl, congrArg some hsubject⟩) rfl

theorem saveCredentials_payments (h : saveCredentials s change scope = .ok t) :
    t.payments = s.payments := by
  cases scope with
  | makerspace =>
    simp [saveCredentials] at h
    obtain ⟨_, -, rfl⟩ := h
    rfl
  | platform =>
    simp [saveCredentials] at h
    exact h ▸ rfl

theorem validateCredentialChanges_ok {closed : List Payment} :
    validateCredentialChanges s scope change answer now = .ok closed ↔
      (scope.changedFields s change = [] ∧ closed = []) ∨
        (scope.changedFields s change ≠ [] ∧
          (∀ payment ∈ scope.sessions s, (answer payment.id).confirmsClosed) ∧
          closed = (scope.sessions s).map fun payment => payment.expireSession now) := by
  unfold validateCredentialChanges
  split
  case isTrue hchanged =>
    rw [pure_ok]
    constructor
    · rintro rfl
      exact .inl ⟨hchanged, rfl⟩
    · rintro (⟨-, rfl⟩ | ⟨hne, -⟩)
      · rfl
      · exact absurd hchanged hne
  case isFalse hchanged =>
    simp only [bind_ok, require_ok, pure_ok]
    constructor
    · rintro ⟨-, hclosed, rfl⟩
      exact .inr ⟨hchanged, hclosed, rfl⟩
    · rintro (⟨heq, -⟩ | ⟨-, hclosed, rfl⟩)
      · exact absurd heq hchanged
      · exact ⟨⟨⟩, hclosed, rfl⟩

theorem updateCredentials_served (h : updateCredentials s scope change answer now = .ok t) :
    Served (ReportsClosed scope answer) v s (.changeCredentials scope change answer now) t := by
  simp [updateCredentials, commitChange] at h
  obtain ⟨_, hvalid, saved, hloop, hsave⟩ := h
  have hsaved : Served (ReportsClosed scope answer) v s
      (.changeCredentials scope change answer now) saved := by
    refine foldlM_preserves (I := Served (ReportsClosed scope answer) v s
      (.changeCredentials scope change answer now)) ?_ (served_of_kept rfl) hloop
    intro u row u' hrow hu hone
    rcases validateCredentialChanges_ok.mp hvalid with ⟨-, rfl⟩ | ⟨-, hclosed, rfl⟩
    · exact absurd hrow not_mem_nil
    · obtain ⟨payment, hpayment, rfl⟩ := mem_map.mp hrow
      obtain rfl := savePayment_ok hone
      obtain ⟨hmem, hlooked⟩ := mem_filter.mp hpayment
      exact hu.put hmem (.closed rfl hlooked (hclosed payment hpayment))
        (.inr (.inr ⟨hlooked, hclosed payment hpayment⟩)) rfl
  have hpayments := saveCredentials_payments hsave
  refine ⟨⟨?_, ?_⟩, ?_⟩
  · rw [hpayments]
    exact hsaved.rewritten.rows
  · rw [hpayments]
    exact hsaved.rewritten.kept
  · rw [StampedFor, hpayments]
    exact hsaved.stamped

theorem rewritten_of_step (h : railStep v s op = .ok t) : Rewritten v s op t := by
  cases op with
  | changeCredentials => exact (updateCredentials_served h).rewritten
  | ledger op =>
    cases op with
    | create =>
      exact (createPayment_served h : Served (fun _ => True) v s _ t).rewritten
    | createOffline =>
      exact (createOfflinePayment_served h : Served (fun _ => True) v s _ t).rewritten
    | createCheckout _ gate account session =>
      exact (createCheckoutUrl_served ⟨gate, account, session, rfl⟩ h :
        Served (fun _ => True) v s _ t).rewritten
    | createIntent =>
      exact (createMobileIntent_served h : Served (fun _ => True) v s _ t).rewritten
    | stripeWebhook =>
      simp only [railStep, step, stripeWebhook, bind_ok] at h
      obtain ⟨-, -, _, hverified, happly⟩ := h
      exact (applyWebhookEvent_served (.stripe hverified) happly).rewritten
    | connectWebhook =>
      exact (connectWebhook_served h).rewritten
    | razorpayWebhook =>
      exact (razorpayWebhook_served h : Served (fun _ => True) v s _ t).rewritten
    | reconcile =>
      exact reconcilePayments_rewritten h
    | markOffline | waive => exact compatReconcile_rewritten h
    | cancelPending =>
      exact cancelPending_rewritten h
    | saveSettings =>
      simp [railStep, step, saveSettings] at h
      obtain ⟨-, -, _, -, rfl⟩ := h
      exact rewritten_of_kept rfl

end Inversion

section

def Payment.hostedSession (payment : Payment) : Option String :=
  payment.stripeCheckoutSessionId.or payment.externalOrderId

def Payment.hasNativeIntent (payment : Payment) : Prop :=
  payment.onlineRail = some .nativePaymentIntent ∧ payment.stripePaymentIntentId ≠ none

/-- Stripe's contract: an intent belongs to one session, its `owner`. -/
def OneSession (v : Verifier) (owner : String → String) : Prop :=
  ∀ (body signature secret : String) (event : StripeEvent),
    v.constructEvent body signature secret = some event → event.type ∈ sessionTypes →
      event.intentId ≠ "" → owner event.intentId = event.objectId

structure Railed (owner : String → String) (payment : Payment) : Prop where
  mirrored : payment.provider = .stripe → payment.externalOrderId = payment.stripeCheckoutSessionId
  razorpay : payment.provider = .razorpay →
    payment.stripeCheckoutSessionId = none ∧ payment.stripePaymentIntentId = none
  hosted : payment.hostedSession ≠ none → payment.onlineRail = some .checkout
  native : payment.status = .pending → payment.stripePaymentIntentId ≠ none →
    payment.onlineRail = some .nativePaymentIntent
  linked : payment.status = .pending → payment.hostedSession ≠ none →
    textOr payment.checkoutUrl payment.stripeCheckoutUrl ≠ ""
  owned : ∀ sessionId intentId, payment.stripeCheckoutSessionId = some sessionId →
    payment.stripePaymentIntentId = some intentId → owner intentId = sessionId

def OneRail (owner : String → String) (s : State) : Prop :=
  ∀ payment ∈ s.payments, Railed owner payment

variable {owner : String → String} {v : Verifier} {s t : State} {op : RailOp}

variable {sessionId : String} {payment : Payment} {event : StripeEvent}

theorem textOr_eq_empty {a b : String} : textOr a b = "" ↔ a = "" ∧ b = "" := by
  unfold textOr
  split
  case isTrue hblank => simp [hblank]
  case isFalse hfilled => simp [hfilled]

theorem namedByStripe_iff {intentId : String} :
    namedByStripe sessionId intentId payment ↔
      (sessionId ≠ "" ∧ payment.stripeCheckoutSessionId = some sessionId) ∨
        (intentId ≠ "" ∧ payment.stripePaymentIntentId = some intentId) := by
  simp [namedByStripe]

theorem Delivers.owned (hvendor : OneSession v owner) (h : Delivers v s op event)
    (htype : event.type ∈ sessionTypes) (hintent : event.intentId ≠ "") :
    owner event.intentId = event.objectId := by
  cases h with
  | stripe hverified =>
    simp only [verifyStripe, constructEvent, bind_ok, orRefuse_ok] at hverified
    obtain ⟨-, -, -, -, hconstruct⟩ := hverified
    exact hvendor _ _ _ event hconstruct htype hintent
  | connect hverified =>
    simp only [constructEvent, bind_ok, orRefuse_ok] at hverified
    obtain ⟨-, -, hconstruct⟩ := hverified
    exact hvendor _ _ _ event hconstruct htype hintent

theorem objectId_of_sessionId (h : event.sessionId ≠ "") :
    event.type ∈ sessionTypes ∧ event.sessionId = event.objectId := by
  by_cases htype : event.type ∈ sessionTypes
  · exact ⟨htype, if_pos htype⟩
  · exact absurd (if_neg htype) h

theorem Railed.session_of_hosted (h : Railed owner payment)
    (hvendor : payment.provider = .stripe) (hhosted : payment.hostedSession = some sessionId) :
    payment.stripeCheckoutSessionId = some sessionId := by
  rw [Payment.hostedSession, h.mirrored hvendor, Option.or_self] at hhosted
  exact hhosted

theorem railed_of_unclaimed (h : Unclaimed payment) :
    Railed owner payment where
  mirrored := by simp [h.session, h.order]
  razorpay := by simp [h.session, h.intent]
  hosted := by simp [Payment.hostedSession, h.session, h.order]
  native := by simp [h.intent]
  linked := by simp [Payment.hostedSession, h.session, h.order]
  owned := by simp [h.session]

theorem Railed.withCheckout {orderId url : String} (h : Railed owner payment)
    (hpending : payment.status = .pending)
    (hrail : payment.onlineRail ≠ some .nativePaymentIntent) (hurl : url ≠ "") :
    Railed owner (payment.withCheckout orderId url) := by
  have hclaimed : payment.onlineRail.or (some .checkout) = some .checkout := by
    cases hold : payment.onlineRail with
    | none => rfl
    | some rail =>
      cases rail with
      | checkout => rfl
      | nativePaymentIntent => exact absurd hold hrail
  have hintent : payment.stripePaymentIntentId = none := by
    by_contra hsome
    exact hrail (h.native hpending hsome)
  have hlinked (other : String) : textOr url other ≠ "" := by
    rw [Ne, textOr_eq_empty]
    exact fun hblank => hurl hblank.1
  unfold Payment.withCheckout
  cases hvendor : payment.provider with
  | stripe =>
    exact ⟨(fun _ => rfl), (fun hother => nomatch hvendor.symm.trans hother),
      (fun _ => hclaimed), (fun _ hsome => absurd hintent hsome), (fun _ _ => hlinked url),
      fun _ _ _ hsome => nomatch hintent.symm.trans hsome⟩
  | razorpay =>
    obtain ⟨hsession, -⟩ := h.razorpay hvendor
    exact ⟨(fun hother => nomatch hvendor.symm.trans hother), (fun _ => ⟨hsession, hintent⟩),
      (fun _ => hclaimed), (fun _ hsome => absurd hintent hsome), (fun _ _ => hlinked _),
      fun _ _ hsome => nomatch hsession.symm.trans hsome⟩

theorem Railed.expireSession {now : Int} (h : Railed owner payment) :
    Railed owner (payment.expireSession now) where
  mirrored _ := rfl
  razorpay hvendor := ⟨rfl, (h.razorpay hvendor).2⟩
  hosted hsome := absurd rfl hsome
  native := h.native
  linked _ hsome := absurd rfl hsome
  owned _ _ hsome := nomatch hsome

theorem Railed.rewrites
    {before after : Payment} (hvendor : OneSession v owner) (h : Railed owner before)
    (hrow : Rewrites v s op before after) :
    Railed owner after := by
  cases hrow with
  | kept => exact h
  | checkout _ hpending hrail _ hurl => exact h.withCheckout hpending hrail hurl
  | intent _ hrail hstripe =>
    have hnone : before.hostedSession = none := by
      by_contra hsome
      exact hrail (h.hosted hsome)
    have hsession : before.stripeCheckoutSessionId = none := (or_eq_none_iff.mp hnone).1
    exact ⟨h.mirrored, (fun hother => nomatch hstripe.symm.trans hother),
      (fun hsome => absurd hnone hsome), (fun _ _ => rfl), (fun _ hsome => absurd hnone hsome),
      fun _ _ hsome => nomatch hsession.symm.trans hsome⟩
  | expired | closed => exact h.expireSession
  | @paid event hdelivers hnamed =>
    have hstripe : before.provider = .stripe := by
      cases hprovider : before.provider with
      | stripe => rfl
      | razorpay =>
        obtain ⟨hsession, hintent⟩ := h.razorpay hprovider
        rcases namedByStripe_iff.mp hnamed with ⟨-, hsome⟩ | ⟨-, hsome⟩
        · exact nomatch hsession.symm.trans hsome
        · exact nomatch hintent.symm.trans hsome
    refine ⟨h.mirrored, (fun hother => nomatch hstripe.symm.trans hother), h.hosted,
      (fun hpending => nomatch hpending), (fun hpending => nomatch hpending), ?_⟩
    intro sessionId intentId hsession hintent
    split at hintent
    case isTrue => exact h.owned sessionId intentId hsession hintent
    case isFalse hfilled =>
      cases hintent
      rcases namedByStripe_iff.mp hnamed with ⟨hnonblank, hsame⟩ | ⟨-, hsame⟩
      · -- the event names the stored session, to which its intent belongs
        obtain ⟨htype, hobject⟩ := objectId_of_sessionId hnonblank
        rw [hdelivers.owned hvendor htype hfilled, ← hobject]
        exact some.inj (hsame.symm.trans hsession)
      · exact h.owned sessionId event.intentId hsession hsame
  | paidRazorpay =>
    exact ⟨h.mirrored, h.razorpay, h.hosted, (fun hpending => nomatch hpending),
      (fun hpending => nomatch hpending), h.owned⟩
  | settled htarget =>
    exact ⟨h.mirrored, h.razorpay, h.hosted, (fun hpending => absurd hpending htarget),
      (fun hpending => absurd hpending htarget), h.owned⟩

theorem oneRail_preserved (hvendor : OneSession v owner) :
    Preserves (railStep v) (OneRail owner) := by
  intro s op t h hstep payment hpayment
  rcases (rewritten_of_step hstep).rows payment hpayment with
    ⟨before, hbefore, -, hrow⟩ | ⟨hnew, -⟩
  · exact (h before hbefore).rewrites hvendor hrow
  · exact railed_of_unclaimed hnew

/-- The stored session of a pending payment is not marked as expired. -/
def Unexpired (s : State) : Prop :=
  ∀ payment ∈ s.payments, payment.status = .pending → payment.stripeCheckoutSessionId ≠ none →
    payment.stripeCheckoutSessionExpiredAt = none

theorem unexpired_preserved : Preserves (railStep v) Unexpired := by
  intro s op t h hstep payment hpayment hpending hsession
  rcases (rewritten_of_step hstep).rows payment hpayment with
    ⟨before, hbefore, -, hrow⟩ | ⟨hnew, -⟩
  · cases hrow with
    | kept => exact h payment hbefore hpending hsession
    | checkout _ hpending' =>
      unfold Payment.withCheckout at hsession ⊢
      cases hvendor : before.provider with
      | stripe => rfl
      | razorpay =>
        rw [hvendor] at hsession
        exact h before hbefore hpending' hsession
    | intent hpending' => exact h before hbefore hpending' hsession
    | expired | closed => exact absurd rfl hsession
    | paid | paidRazorpay => cases hpending
    | settled htarget => exact absurd hpending htarget
  · exact absurd hnew.session hsession

variable {before payment : Payment}

inductive Ends (v : Verifier) (s : State) (op : RailOp) (payment : Payment)
    (sessionId : String) : Prop
  | expired {event : StripeEvent} (hdelivers : Delivers v s op event)
      (hexpired : event.type = "checkout.session.expired")
      (hsession : event.objectId = sessionId)
  | closed {scope : Scope} {change : CredentialChange} {answer : Nat → ClosingAnswer} {now : Int}
      (hop : op = .changeCredentials scope change answer now)
      (hclosed : (answer payment.id).confirmsClosed)

structure RailMove (v : Verifier) (s : State) (op : RailOp) (before after : Payment) : Prop where
  same_row : after.id = before.id
  rail : ∀ rail, before.onlineRail = some rail → after.onlineRail = some rail
  lost : ∀ sessionId, before.hostedSession = some sessionId → after.hostedSession = some sessionId ∨
      (after.hostedSession = none ∧ Ends v s op before sessionId)
  minted : ∀ sessionId, after.hostedSession = some sessionId →
    before.hostedSession = some sessionId ∨
      (before.hostedSession = none ∧ RequestsCheckout op before.id)

theorem railMove_of_same {after : Payment} (hid : after.id = before.id)
    (hrail : ∀ rail, before.onlineRail = some rail → after.onlineRail = some rail)
    (hsession : after.hostedSession = before.hostedSession) :
    RailMove v s op before after where
  same_row := hid
  rail := hrail
  lost _ hsome := .inl (hsession.trans hsome)
  minted _ hsome := .inl (hsession.symm.trans hsome)

theorem railMove_of_expireSession {now : Int}
    (hends : ∀ sessionId, before.hostedSession = some sessionId → Ends v s op before sessionId) :
    RailMove v s op before (before.expireSession now) where
  same_row := rfl
  rail _ hsome := hsome
  lost sessionId hsome := .inr ⟨rfl, hends sessionId hsome⟩
  minted _ hsome := nomatch hsome

theorem Railed.ends_of_expired {event : StripeEvent} {sessionId : String}
    (hvendor : OneSession v owner) (h : Railed owner payment)
    (hdelivers : Delivers v s op event) (hexpired : event.type = "checkout.session.expired")
    (hnamed : namedByStripe event.sessionId event.intentId payment)
    (hhosted : payment.hostedSession = some sessionId) :
    Ends v s op payment sessionId := by
  have htype : event.type ∈ sessionTypes := by
    rw [hexpired]
    decide
  refine .expired hdelivers hexpired ?_
  rcases namedByStripe_iff.mp hnamed with ⟨hfilled, hsession⟩ | ⟨hfilled, hintent⟩
  · have hsame : payment.hostedSession = some event.sessionId := by
      rw [Payment.hostedSession, hsession, some_or]
    rw [← (objectId_of_sessionId hfilled).2]
    exact some.inj (hsame.symm.trans hhosted)
  · cases hprovider : payment.provider with
    | stripe =>
      have hsession := h.session_of_hosted hprovider hhosted
      rw [← hdelivers.owned hvendor htype hfilled]
      exact h.owned sessionId event.intentId hsession hintent
    | razorpay => exact nomatch (h.razorpay hprovider).2.symm.trans hintent

theorem Railed.move
    {before after : Payment} (hvendor : OneSession v owner) (h : Railed owner before)
    (hrow : Rewrites v s op before after) :
    RailMove v s op before after := by
  cases hrow with
  | kept | paid | paidRazorpay | settled => exact railMove_of_same rfl (fun _ hrail => hrail) rfl
  | checkout hop hpending _ hblank =>
    have hnone : before.hostedSession = none := by
      by_contra hsome
      exact h.linked hpending hsome hblank
    refine ⟨withCheckout_id _ _ _, ?_, (fun _ hsome => nomatch hnone.symm.trans hsome),
      fun _ _ => .inr ⟨hnone, hop⟩⟩
    intro rail hsome
    unfold Payment.withCheckout
    cases before.provider with
    | stripe | razorpay => simp [hsome]
  | intent _ hrail =>
    refine railMove_of_same rfl (fun rail hsome => ?_) rfl
    cases rail with
    | checkout => exact absurd hsome hrail
    | nativePaymentIntent => rfl
  | expired hdelivers hexpired hnamed =>
    exact railMove_of_expireSession fun _ hhosted =>
      h.ends_of_expired hvendor hdelivers hexpired hnamed hhosted
  | closed hop _ hclosed =>
    exact railMove_of_expireSession fun _ _ => .closed hop hclosed

theorem moves_of_railStep
    (hvendor : OneSession v owner) (h : OneRail owner s) (hstep : railStep v s op = .ok t)
    (hbefore : before ∈ s.payments) :
    ∃ after ∈ t.payments, RailMove v s op before after := by
  have hrewritten := rewritten_of_step hstep
  obtain ⟨after, hafter, hid⟩ := hrewritten.kept before hbefore
  refine ⟨after, hafter, ?_⟩
  rcases hrewritten.rows after hafter with ⟨old, hold, hsame, hrow⟩ | ⟨-, hnone, -⟩
  · obtain rfl : old = before := eq_of_key_eq hold hbefore (hsame.trans hid)
    exact (h old hold).move hvendor hrow
  · exact absurd hid.symm (get?_eq_none.mp hnone before hbefore)

theorem moves_of_railSettle (hvendor : OneSession v owner) (h : OneRail owner s) (op : RailOp)
    (hbefore : before ∈ s.payments) :
    ∃ after ∈ (settle (railStep v) s op).payments, RailMove v s op before after := by
  cases hstep : railStep v s op with
  | ok =>
    rw [settle_ok hstep]
    exact moves_of_railStep hvendor h hstep hbefore
  | error =>
    rw [settle_error hstep]
    exact ⟨before, hbefore, railMove_of_same rfl (fun _ hrail => hrail) rfl⟩

theorem rail_of_run (hvendor : OneSession v owner) (h : OneRail owner s) (ops : List RailOp)
    (hbefore : before ∈ s.payments) :
    ∃ after ∈ (run (railStep v) s ops).payments, after.id = before.id ∧
      ∀ rail, before.onlineRail = some rail → after.onlineRail = some rail := by
  induction ops generalizing s before with
  | nil => exact ⟨before, hbefore, rfl, fun _ hrail => hrail⟩
  | cons op _ ih =>
    obtain ⟨_, hmiddle, hmove⟩ := moves_of_railSettle hvendor h op hbefore
    obtain ⟨after, hafter, hid, hrail⟩ := ih ((oneRail_preserved hvendor).settle h op) hmiddle
    exact ⟨after, hafter, hid.trans hmove.same_row,
      fun rail hsome => hrail rail (hmove.rail rail hsome)⟩

theorem Railed.checkout_answered (h : Railed owner payment) (hmem : payment ∈ s.payments)
    (hpending : payment.status = .pending) (hhosted : payment.hostedSession ≠ none)
    (gate : Except String Unit) (account : Option Account) (session : Option (String × String)) :
    createCheckoutUrl s payment.id gate account session = .ok s := by
  have hget : s.payments.get? payment.id = some payment := get?_key hmem
  have hrail : payment.onlineRail ≠ some .nativePaymentIntent := by
    rw [h.hosted hhosted]
    decide
  simp only [createCheckoutUrl, bind_ok, orRefuse_ok]
  refine ⟨payment, hget, ?_⟩
  rw [if_neg (not_not.mpr hpending)]
  simp only [bind_ok, require_ok]
  refine ⟨⟨⟩, hrail, ?_⟩
  rw [if_pos (h.linked hpending hhosted)]
  rfl

/-- **One rail.** No payment has both a session and an intent, a stored session is handed out again,
a claimed rail is kept, and sessions go when ended and come where none is. -/
theorem oneRail_of_run (hvendor : OneSession v owner) (h : OneRail owner s) (ops : List RailOp) :
    (∀ payment ∈ (run (railStep v) s ops).payments,
      ¬ (payment.hostedSession ≠ none ∧ payment.hasNativeIntent)) ∧
    (∀ payment ∈ (run (railStep v) s ops).payments,
      payment.status = .pending → payment.hostedSession ≠ none → ∀ gate account session,
          createCheckoutUrl (run (railStep v) s ops) payment.id gate account session =
            .ok (run (railStep v) s ops)) ∧
    (∀ (op : RailOp), ∀ before ∈ (run (railStep v) s ops).payments,
      ∃ after ∈ (settle (railStep v) (run (railStep v) s ops) op).payments,
        RailMove v (run (railStep v) s ops) op before after) ∧
    ∀ (more : List RailOp), ∀ before ∈ (run (railStep v) s ops).payments,
      ∃ after ∈ (run (railStep v) s (ops ++ more)).payments, after.id = before.id ∧
        ∀ rail, before.onlineRail = some rail → after.onlineRail = some rail := by
  have hrun : OneRail owner (run (railStep v) s ops) :=
    run_preserves (oneRail_preserved hvendor) h ops
  refine ⟨?_, ?_, ?_, ?_⟩
  · rintro payment hpayment ⟨hhosted, hnative, -⟩
    have hcheckout := (hrun payment hpayment).hosted hhosted
    exact nomatch hcheckout.symm.trans hnative
  · intro payment hpayment hpending hhosted gate account session
    exact (hrun payment hpayment).checkout_answered hpayment hpending hhosted gate account session
  · intro op before hbefore
    exact moves_of_railSettle hvendor hrun op hbefore
  · intro more before hbefore
    rw [run_append]
    exact rail_of_run hvendor hrun more hbefore

def openDebt : Payment :=
  { debt with onlineRail := none, stripeCheckoutSessionId := none }

def unclaimedDebt : State :=
  { indebted with payments := ⟨[openDebt], by decide⟩ }

def expiringSession : Verifier :=
  { signedBodies with
    constructEvent := fun body signature secret =>
      if signature = secret ++ body then
        some { id := body, type := "checkout.session.expired", objectId := "cs_1" }
      else none }

theorem oneSession_expiringSession : OneSession expiringSession fun _ => "" := by
  intro body signature secret event hconstruct _ hintent
  simp only [expiringSession] at hconstruct
  split at hconstruct
  case isTrue =>
    cases hconstruct
    exact absurd rfl hintent
  case isFalse => cases hconstruct

theorem oneRail_unclaimedDebt (owner : String → String) : OneRail owner unclaimedDebt := by
  intro payment hpayment
  obtain rfl : payment = openDebt := mem_singleton.mp hpayment
  exact railed_of_unclaimed ⟨rfl, rfl, rfl, rfl⟩

/-- The first session's expiry comes again: the second stays, and a retry gets it. -/
def lateExpiry : List RailOp :=
  [.ledger (.createCheckout 1 (.ok ()) none (some ("cs_1", "https://checkout/1"))),
    .ledger (.stripeWebhook 1 "evt_1" "whsecevt_1" true 10),
    .ledger (.createCheckout 1 (.ok ()) none (some ("cs_2", "https://checkout/2"))),
    .ledger (.stripeWebhook 1 "evt_2" "whsecevt_2" true 20)]

theorem oneRail_of_lateExpiry :
    ∃ payment ∈ (run (railStep expiringSession) unclaimedDebt lateExpiry).payments,
      payment.hostedSession = some "cs_2" ∧
        ¬ (payment.hostedSession ≠ none ∧ payment.hasNativeIntent) ∧
        createCheckoutUrl (run (railStep expiringSession) unclaimedDebt lateExpiry) 1 (.ok ())
          none (some ("cs_3", "https://checkout/3")) =
            .ok (run (railStep expiringSession) unclaimedDebt lateExpiry) := by
  obtain ⟨payment, hmem, hid, hpending, hhosted⟩ :
      ∃ payment ∈ (run (railStep expiringSession) unclaimedDebt lateExpiry).payments,
        payment.id = 1 ∧ payment.status = .pending ∧ payment.hostedSession = some "cs_2" := by
    refine ⟨_, mem_cons_self, ?_, ?_, ?_⟩
    · decide
    · decide
    · decide
  obtain ⟨hone, hanswered, -, -⟩ :=
    oneRail_of_run oneSession_expiringSession (oneRail_unclaimedDebt _) lateExpiry
  refine ⟨payment, hmem, hhosted, hone payment hmem, ?_⟩
  rw [← hid]
  refine hanswered payment hmem hpending ?_ _ _ _
  rw [hhosted]
  exact some_ne_none _

end

end Payments
end SpaceWorks
