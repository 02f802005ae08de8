import SpaceWorks.Payments.Rails

/-!
# Stamping a hosted session as expired

`stripe_checkout_session_expired_at` is stamped by an expiry (`services_webhooks.py`), by staff
(`_expire_checkout_best_effort` in `reconciliation.py`) and by credential changes
(`credential_validation.py`).  `stripe_client.py` returns a flag for a session that cannot be
closed; the `expire_checkout` of `providers/razorpay.py` logs it and returns, which is taken for a
closed link.
-/

namespace SpaceWorks
namespace Payments

open Checked TransactionalSystem Table List Option

inductive Reply
  | done
  /-- `PaymentsUnavailable`: the vendor refused, or could not be reached. -/
  | unavailable
  | raised
  deriving DecidableEq

/-- Credentials resolve, how the closing request ends, and the looked up status. -/
structure VendorReplies where
  sourceResolves : Bool := true
  closing : Reply := .done
  sessionStatus : Option String := none

def VendorReplies.checkoutSessionIsClosed (replies : VendorReplies) : Bool :=
  replies.sessionStatus = some "expired"

def VendorReplies.expireCheckoutSession (replies : VendorReplies) : Bool :=
  match replies.closing with
  | .done => true
  | _ => replies.checkoutSessionIsClosed

/-- `RazorpayProvider.expire_checkout`, or the exception let through. -/
def VendorReplies.expireCheckout (replies : VendorReplies) : Except Reply Unit :=
  match replies.closing with
  | .done => .ok ()
  -- caught and logged as razorpay_link_cancel_failed
  | .unavailable => .ok ()
  | .raised => .error .raised

def VendorReplies.closingAnswer (replies : VendorReplies) : Provider → ClosingAnswer
  | .stripe =>
    { sourceResolves := replies.sourceResolves, sessionClosed := replies.expireCheckoutSession }
  | .razorpay =>
    { sourceResolves := replies.sourceResolves && replies.expireCheckout.isOk
      sessionClosed := replies.closing = .done }

/-- An operation with what the vendors reply about each payment. -/
structure Request where
  op : RailOp
  replies : Nat → VendorReplies

def vendorOf (s : State) (paymentId : Nat) : Provider :=
  ((s.payments.get? paymentId).map fun payment => payment.provider).getD .stripe

def Request.closing (s : State) (request : Request) (paymentId : Nat) : ClosingAnswer :=
  (request.replies paymentId).closingAnswer (vendorOf s paymentId)

/-- The answers to a change that looks up a session. -/
def Request.lookup (request : Request) (paymentId : Nat) : ClosingAnswer :=
  { sourceResolves := (request.replies paymentId).sourceResolves
    sessionClosed := (request.replies paymentId).checkoutSessionIsClosed }

def Request.answered (s : State) (request : Request) : RailOp :=
  match request.op with
  | .changeCredentials scope change _ now =>
    .changeCredentials scope change request.lookup now
  | .ledger (.reconcile makerspaceId paymentIds target gate _ now) =>
    .ledger (.reconcile makerspaceId paymentIds target gate (request.closing s) now)
  | .ledger (.markOffline paymentId gate _ now) =>
    .ledger (.markOffline paymentId gate (request.closing s) now)
  | .ledger (.waive paymentId gate _ now) =>
    .ledger (.waive paymentId gate (request.closing s) now)
  | .ledger (.cancelPending makerspaceId subjectType subjectId _ now) =>
    .ledger (.cancelPending makerspaceId subjectType subjectId (request.closing s) now)
  | op => op

def vendorStep (v : Verifier) (s : State) (request : Request) : Except Error State :=
  railStep v s (request.answered s)

def RailOp.closes (s : State) (payment : Payment) : RailOp → Prop
  | .ledger (.reconcile makerspaceId paymentIds _ _ _ _) =>
    payment.makerspaceId = makerspaceId ∧ payment.id ∈ paymentIds
  | .ledger (.markOffline paymentId _ _ _) =>
    payment.id = paymentId ∧ payment.status = .pending
  | .ledger (.waive paymentId _ _ _) => payment.id = paymentId ∧ payment.status = .pending
  | .ledger (.cancelPending makerspaceId subjectType subjectId _ _) =>
    paymentOfSubject s makerspaceId subjectType subjectId = some payment ∧ payment.status = .pending
  | _ => False

def Payment.hasOpenSession (payment : Payment) : Prop :=
  ¬(payment.onlineRail = some .nativePaymentIntent ∧ payment.stripePaymentIntentId.isSome) ∧
    (payment.externalOrderId.or payment.stripeCheckoutSessionId).isSome ∧
    payment.stripeCheckoutSessionExpiredAt = none

/-- The session can no longer be paid, by the vendor. -/
inductive Confirmed (v : Verifier) (s : State) (request : Request) (payment : Payment) : Prop
  | delivered {event : StripeEvent} (hdelivers : Delivers v s (request.answered s) event)
      (hexpired : event.type = "checkout.session.expired")
      (hnamed : namedByStripe event.sessionId event.intentId payment)
  | closed (hcloses : request.op.closes s payment)
      (hdone : (request.replies payment.id).closing = .done)
  | reported (hcloses : request.op.closes s payment) (hstripe : payment.provider = .stripe)
      (hstatus : (request.replies payment.id).sessionStatus = some "expired")
  /-- Stripe reports the session as expired to a change of credentials. -/
  | lookedUp {scope : Scope} {change : CredentialChange} {answer : Nat → ClosingAnswer} {now : Int}
      (hop : request.op = .changeCredentials scope change answer now)
      (hstatus : (request.replies payment.id).sessionStatus = some "expired")

def StampsConfirmed (v : Verifier) (s : State) (request : Request) (t : State) : Prop :=
  ∀ before ∈ s.payments, ∀ after ∈ t.payments, after.id = before.id →
    after.stripeCheckoutSessionExpiredAt ≠ none →
    after.stripeCheckoutSessionExpiredAt ≠ before.stripeCheckoutSessionExpiredAt →
    Confirmed v s request before

/-- Staff close a rail with an open Razorpay link that is not cancelled. -/
def LeavesLinkOpen (s : State) (request : Request) : Prop :=
  ∃ payment ∈ s.payments, request.op.closes s payment ∧ payment.provider = .razorpay ∧
    payment.hasOpenSession ∧ (request.replies payment.id).sourceResolves = true ∧
    (request.replies payment.id).closing = .unavailable

variable {s t : State}
  {payment : Payment} {answer : Nat → ClosingAnswer} {target : Status} {now : Int}
  {makerspaceId : Nat} {gate : Except String Unit}

def StampsOnClosing (answer : ClosingAnswer) (payment : Payment) : Prop :=
  payment.hasOpenSession ∧ answer.sourceResolves = true ∧
    (payment.provider ≠ .stripe ∨ answer.sessionClosed = true)

theorem expireCheckoutBestEffort_stamped
    {answer : ClosingAnswer} (h : StampsOnClosing answer payment) (now : Int) :
    (expireCheckoutBestEffort payment answer now).stripeCheckoutSessionExpiredAt = some now := by
  obtain ⟨⟨hrail, horder, hstamp⟩, hanswer⟩ := h
  unfold expireCheckoutBestEffort
  have hopen : ¬((payment.externalOrderId.or payment.stripeCheckoutSessionId).isNone ∨
      payment.stripeCheckoutSessionExpiredAt.isSome) := by
    rw [isNone_iff_eq_none, hstamp]
    rintro (hnone | ⟨⟨⟩⟩)
    exact isSome_iff_ne_none.mp horder hnone
  rw [if_neg hrail, if_neg hopen, if_pos hanswer]

theorem expireCheckoutBestEffort_kept
    {answer : ClosingAnswer} (h : ¬StampsOnClosing answer payment) (now : Int) :
    expireCheckoutBestEffort payment answer now = payment := by
  unfold expireCheckoutBestEffort
  dsimp only
  split
  · rfl
  next hrail =>
    split
    · rfl
    next hopen =>
      rw [not_or, isNone_iff_eq_none, not_isSome_iff_eq_none] at hopen
      have hsession : payment.hasOpenSession := ⟨hrail, isSome_iff_ne_none.mpr hopen.1, hopen.2⟩
      exact if_neg fun hanswer => h ⟨hsession, hanswer⟩

theorem expireCheckoutBestEffort_stamp (payment : Payment) (answer : ClosingAnswer) (now : Int) :
    (expireCheckoutBestEffort payment answer now).stripeCheckoutSessionExpiredAt =
        payment.stripeCheckoutSessionExpiredAt ∨ StampsOnClosing answer payment := by
  by_cases h : StampsOnClosing answer payment
  · exact .inr h
  · rw [expireCheckoutBestEffort_kept h]
    exact .inl rfl

def closedRow (target : Status) (answer : Nat → ClosingAnswer) (now : Int) (payment : Payment) :
    Payment :=
  { expireCheckoutBestEffort payment (answer payment.id) now with status := target }

theorem closedRow_id
    (target : Status) (answer : Nat → ClosingAnswer) (now : Int) (payment : Payment) :
    (closedRow target answer now payment).id = payment.id := by
  obtain ⟨_, heq⟩ := expireCheckoutBestEffort_eq payment (answer payment.id) now
  rw [closedRow, heq]

theorem savePayment_stored {row : Payment} (h : savePayment s row = .ok t) :
    ∃ original, s.payments.get? (key row) = some original := by
  simp [savePayment] at h
  obtain ⟨original, horiginal, -⟩ := h
  exact ⟨original, horiginal⟩

theorem mem_of_reconcileLoop {rows : List Payment} (hids : (rows.map Payment.id).Nodup)
    (h : rows.foldlM (reconcileOne target answer now) s = .ok t) :
    (∀ payment ∈ rows, closedRow target answer now payment ∈ t.payments) ∧
      ∀ other ∈ s.payments, other.id ∉ rows.map Payment.id → other ∈ t.payments := by
  induction rows generalizing s with
  | nil =>
    obtain rfl : s = t := by simpa [pure, Except.pure] using h
    exact ⟨fun _ hmem => absurd hmem not_mem_nil, fun _ hmem _ => hmem⟩
  | cons payment _ ih =>
    rw [foldlM_cons, bind_ok] at h
    obtain ⟨_, hone, hrest⟩ := h
    simp [reconcileOne] at hone
    obtain ⟨_, hsaved, rfl⟩ := hone
    obtain ⟨_, horiginal⟩ := savePayment_stored hsaved
    obtain rfl := savePayment_ok hsaved
    rw [map_cons, nodup_cons] at hids
    obtain ⟨hrows, hothers⟩ := ih hids.2 hrest
    have hid := closedRow_id target answer now payment
    have hwritten : closedRow target answer now payment ∈ t.payments := by
      refine hothers _ (mem_put_self horiginal) ?_
      rw [hid]
      exact hids.1
    refine ⟨?_, ?_⟩
    · intro row hrow
      rcases mem_cons.mp hrow with rfl | hrow
      · exact hwritten
      · exact hrows row hrow
    · intro other hother hfresh
      rw [map_cons, mem_cons, not_or] at hfresh
      refine hothers other (mem_put.mpr (.inl ⟨hother, ?_⟩)) hfresh.2
      exact fun hsame => hfresh.1 (hsame.trans hid)

theorem nodup_lockPayments (makerspaceId : Nat) (paymentIds : List Nat) :
    ((lockPayments s makerspaceId paymentIds).map Payment.id).Nodup := by
  have hperm := (perm_insertionSort (fun p q : Payment => p.id ≤ q.id)
    (s.payments.rows.filter fun p => p.makerspaceId = makerspaceId && p.id ∈ paymentIds)).map
      Payment.id
  rw [lockPayments, hperm.nodup_iff]
  exact s.payments.nodup.sublist (filter_sublist.map _)

/-- Staff stamp only on closing a rail, each as closing does. -/
structure Staffs (s t : State) (closes : Payment → Prop) (answer : Nat → ClosingAnswer) :
    Prop where
  stamped : StampedFor (fun payment => closes payment ∧ StampsOnClosing (answer payment.id) payment)
    s t
  closed : ∀ payment ∈ s.payments, closes payment → ∃ target now,
    closedRow target answer now payment ∈ t.payments

theorem reconcilePayments_staffs {paymentIds : List Nat}
    (h : reconcilePayments s makerspaceId paymentIds target gate answer now = .ok t) :
    Staffs s t (fun payment => payment.makerspaceId = makerspaceId ∧ payment.id ∈ paymentIds)
      answer := by
  simp only [reconcilePayments, bind_ok] at h
  obtain ⟨-, -, -, -, -, -, -, -, hloop⟩ := h
  constructor
  · refine foldlM_preserves (I := StampedFor _ s) ?_ (stampedFor_of_kept rfl) hloop
    intro u payment u' hlocked hu hone
    simp [reconcileOne] at hone
    obtain ⟨_, hsaved, rfl⟩ := hone
    obtain rfl := savePayment_ok hsaved
    obtain ⟨hmem, hcloses⟩ := mem_lockPayments.mp hlocked
    exact hu.put hmem (by rfl) (closedRow_id target answer now payment)
      ((expireCheckoutBestEffort_stamp payment (answer payment.id) now).imp_right fun hstamps =>
        .inr ⟨hcloses, hstamps⟩)
  · intro payment hmem hcloses
    exact ⟨target, now, (mem_of_reconcileLoop (nodup_lockPayments makerspaceId paymentIds) hloop).1
      payment (mem_lockPayments.mpr ⟨hmem, hcloses⟩)⟩

theorem compatReconcile_staffs {paymentId : Nat}
    (h : compatReconcile s paymentId target gate answer now = .ok t) :
    Staffs s t (fun payment => payment.id = paymentId ∧ payment.status = .pending) answer := by
  simp only [compatReconcile, bind_ok, orRefuse_ok] at h
  obtain ⟨current, hcurrent, h⟩ := h
  have hid : current.id = paymentId := key_of_get? hcurrent
  have hsame : ∀ payment ∈ s.payments, payment.id = paymentId → payment = current := by
    intro payment hmem hpayment
    exact eq_of_key_eq hmem (mem_of_get? hcurrent) (hpayment.trans hid.symm)
  split at h
  case isTrue hterminal =>
    obtain rfl := pure_ok.mp h
    refine ⟨stampedFor_of_kept rfl, ?_⟩
    rintro payment hmem ⟨hpayment, hpending⟩
    exact absurd (hsame payment hmem hpayment ▸ hpending) hterminal
  case isFalse hpending =>
    obtain ⟨hstamped, hclosed⟩ := reconcilePayments_staffs h
    constructor
    · intro before hbefore after hafter hkey
      refine (hstamped before hbefore after hafter hkey).imp_right fun hstamp =>
        hstamp.imp_right ?_
      rintro ⟨⟨-, hlisted⟩, hstamps⟩
      have hbeforeId : before.id = paymentId := (mem_singleton.mp hlisted).trans hid
      rw [hsame before hbefore hbeforeId] at hstamps ⊢
      exact ⟨⟨hid, not_not.mp hpending⟩, hstamps⟩
    · rintro payment hmem ⟨hpayment, -⟩
      obtain rfl := hsame payment hmem hpayment
      exact hclosed payment hmem ⟨rfl, mem_singleton.mpr rfl⟩

theorem cancelPending_staffs {subjectType : SubjectType} {subjectId : Nat}
    (h : cancelPending s makerspaceId subjectType subjectId answer now = .ok t) :
    Staffs s t (fun payment => paymentOfSubject s makerspaceId subjectType subjectId =
      some payment ∧ payment.status = .pending) answer := by
  unfold cancelPending at h
  split at h
  case h_1 hnone =>
    obtain rfl := pure_ok.mp h
    refine ⟨stampedFor_of_kept rfl, ?_⟩
    rintro _ - ⟨hfound, -⟩
    cases hnone.symm.trans hfound
  case h_2 payment hfind =>
    have hmem : payment ∈ s.payments := mem_newestFirst.mp (mem_of_find?_eq_some hfind)
    split at h
    case isTrue hterminal =>
      obtain rfl := pure_ok.mp h
      refine ⟨stampedFor_of_kept rfl, ?_⟩
      rintro _ - ⟨hfound, hpending⟩
      obtain rfl := some.inj (hfind.symm.trans hfound)
      exact absurd hpending hterminal
    case isFalse hpending =>
      simp at h
      obtain ⟨_, hsaved, rfl⟩ := h
      obtain ⟨_, horiginal⟩ := savePayment_stored hsaved
      obtain rfl := savePayment_ok hsaved
      constructor
      · exact (stampedFor_of_kept (t := s) rfl).put hmem (by rfl)
          (closedRow_id .canceled answer now payment)
          ((expireCheckoutBestEffort_stamp payment (answer payment.id) now).imp_right
            fun hstamps => .inr ⟨⟨hfind, not_not.mp hpending⟩, hstamps⟩)
      · rintro _ - ⟨hfound, -⟩
        obtain rfl := some.inj (hfind.symm.trans hfound)
        exact ⟨.canceled, now, mem_put_self horiginal⟩

variable {v : Verifier} {request : Request}

theorem vendorOf_of_mem (h : payment ∈ s.payments) :
    vendorOf s payment.id = payment.provider := by
  rw [vendorOf, ← key_payment, get?_key h]
  rfl

/-- Closing stamps exactly when the session is open, credentials resolve, and the reply says closed.
-/
theorem stampsOnClosing_iff (h : payment ∈ s.payments) :
    StampsOnClosing (request.closing s payment.id) payment ↔
      payment.hasOpenSession ∧ (request.replies payment.id).sourceResolves = true ∧
        match payment.provider with
        | .stripe => (request.replies payment.id).expireCheckoutSession = true
        | .razorpay => (request.replies payment.id).closing ≠ .raised := by
  rw [StampsOnClosing, Request.closing, vendorOf_of_mem h]
  cases hvendor : payment.provider with
  | stripe => simp [VendorReplies.closingAnswer]
  | razorpay =>
    cases hclosing : (request.replies payment.id).closing <;>
      simp [VendorReplies.closingAnswer, VendorReplies.expireCheckout, hclosing, Except.isOk,
        Except.toBool]

theorem confirmed_of_closing (hmem : payment ∈ s.payments) (hcloses : request.op.closes s payment)
    (hstamps : StampsOnClosing (request.closing s payment.id) payment) :
    Confirmed v s request payment ∨ LeavesLinkOpen s request := by
  obtain ⟨hopen, hsource, hvendor⟩ := (stampsOnClosing_iff hmem).mp hstamps
  cases hreply : (request.replies payment.id).closing with
  | done => exact .inl (.closed hcloses hreply)
  | unavailable =>
    cases hprovider : payment.provider with
    | stripe =>
      rw [hprovider] at hvendor
      refine .inl (.reported hcloses hprovider ?_)
      simpa [VendorReplies.expireCheckoutSession, hreply,
        VendorReplies.checkoutSessionIsClosed] using hvendor
    | razorpay => exact .inr ⟨payment, hmem, hcloses, hprovider, hopen, hsource, hreply⟩
  | raised =>
    cases hprovider : payment.provider with
    | stripe =>
      rw [hprovider] at hvendor
      refine .inl (.reported hcloses hprovider ?_)
      simpa [VendorReplies.expireCheckoutSession, hreply,
        VendorReplies.checkoutSessionIsClosed] using hvendor
    | razorpay =>
      rw [hprovider] at hvendor
      exact absurd hreply hvendor

theorem not_delivers_of_closes {event : StripeEvent} (h : request.op.closes s payment) :
    ¬Delivers v s (request.answered s) event := by
  obtain ⟨op, _⟩ := request
  intro hdelivers
  cases op with
  | changeCredentials => exact h
  | ledger op =>
    cases op with
    | reconcile | markOffline | waive | cancelPending => cases hdelivers
    | _ => exact h

theorem Staffs.confirmed_iff (h : Staffs s t (request.op.closes s) (request.closing s)) :
    StampsConfirmed v s request t ↔ ¬LeavesLinkOpen s request := by
  constructor
  · rintro hconfirmed ⟨payment, hmem, hcloses, hvendor, hopen, hsource, hreply⟩
    have hstamps : StampsOnClosing (request.closing s payment.id) payment := by
      rw [stampsOnClosing_iff hmem, hvendor, hreply]
      exact ⟨hopen, hsource, Reply.noConfusion⟩
    obtain ⟨target, now, hafter⟩ := h.closed payment hmem hcloses
    have hstamp := expireCheckoutBestEffort_stamped hstamps now
    have hset : (closedRow target (request.closing s) now payment).stripeCheckoutSessionExpiredAt =
        some now := hstamp
    have hnew := hconfirmed payment hmem _ hafter (closedRow_id ..) (by rw [hset]; simp)
      (by rw [hset, hopen.2.2]; simp)
    cases hnew with
    | delivered hdelivers => exact not_delivers_of_closes hcloses hdelivers
    | closed _ hdone => cases hreply.symm.trans hdone
    | reported _ hstripe => cases hvendor.symm.trans hstripe
    | lookedUp hop =>
      rw [hop] at hcloses
      exact hcloses
  · intro hnone before hbefore after hafter hid hset hchanged
    rcases h.stamped before hbefore after hafter hid with hsame | hblank | ⟨hcloses, hstamps⟩
    · exact absurd hsame hchanged
    · exact absurd hblank hset
    · exact (confirmed_of_closing hbefore hcloses hstamps).resolve_right hnone

theorem confirmed_of_stampedFor {why : Payment → Prop} (h : StampedFor why s t)
    (hcloses : ∀ payment, ¬request.op.closes s payment)
    (hwhy : ∀ payment, why payment → Confirmed v s request payment) :
    StampsConfirmed v s request t ↔ ¬LeavesLinkOpen s request := by
  constructor
  · rintro - ⟨payment, -, hclosed, -⟩
    exact hcloses payment hclosed
  · rintro - before hbefore after hafter hid hset hchanged
    rcases h before hbefore after hafter hid with hsame | hblank | hreason
    · exact absurd hsame hchanged
    · exact absurd hblank hset
    · exact hwhy before hreason

theorem confirmed_of_delivery
    (h : Served (DeliversExpiry v s (request.answered s)) v s (request.answered s) t)
    (hcloses : ∀ payment, ¬request.op.closes s payment) :
    StampsConfirmed v s request t ↔ ¬LeavesLinkOpen s request := by
  refine confirmed_of_stampedFor h.stamped hcloses ?_
  rintro _ ⟨_, hdelivers, hexpired, hnamed⟩
  exact .delivered hdelivers hexpired hnamed

theorem stampsConfirmed_iff (h : vendorStep v s request = .ok t) :
    StampsConfirmed v s request t ↔ ¬LeavesLinkOpen s request := by
  obtain ⟨op, _⟩ := request
  cases op with
  | changeCredentials =>
    refine confirmed_of_stampedFor (updateCredentials_served (v := v) h).stamped (fun _ => id) ?_
    rintro _ ⟨-, hclosed⟩
    refine .lookedUp rfl ?_
    simp [ClosingAnswer.confirmsClosed, Request.lookup] at hclosed
    simpa [VendorReplies.checkoutSessionIsClosed] using hclosed.2
  | ledger op =>
    cases op with
    | create =>
      exact confirmed_of_delivery (createPayment_served h) fun _ => id
    | createOffline =>
      exact confirmed_of_delivery (createOfflinePayment_served h) fun _ => id
    | createCheckout _ gate account session =>
      exact confirmed_of_delivery (createCheckoutUrl_served ⟨gate, account, session, rfl⟩ h)
        fun _ => id
    | createIntent =>
      exact confirmed_of_delivery (createMobileIntent_served h) fun _ => id
    | stripeWebhook =>
      have hstep := h
      simp only [vendorStep, Request.answered, railStep, step, stripeWebhook, bind_ok] at hstep
      obtain ⟨-, -, _, hverified, happly⟩ := hstep
      exact confirmed_of_delivery (applyWebhookEvent_served (.stripe hverified) happly)
        fun _ => id
    | connectWebhook =>
      exact confirmed_of_delivery (connectWebhook_served h) fun _ => id
    | razorpayWebhook =>
      exact confirmed_of_delivery (razorpayWebhook_served h) fun _ => id
    | reconcile =>
      exact (reconcilePayments_staffs h).confirmed_iff
    | markOffline | waive => exact (compatReconcile_staffs h).confirmed_iff
    | cancelPending =>
      exact (cancelPending_staffs h).confirmed_iff
    | saveSettings =>
      have hstep := h
      simp [vendorStep, Request.answered, railStep, step, saveSettings] at hstep
      obtain ⟨-, -, _, -, rfl⟩ := hstep
      exact confirmed_of_delivery (served_of_kept rfl) fun _ => id

/-- Every stamp is confirmed by the vendor exactly when no operation leaves a Razorpay link open. -/
theorem expiry_confirmed_iff (v : Verifier) (s : State) (requests : List Request) :
    Throughout (vendorStep v) (fun s request => ∀ t, vendorStep v s request = .ok t →
        StampsConfirmed v s request t) s requests ↔
      Throughout (vendorStep v) (fun s request => ∀ t, vendorStep v s request = .ok t →
        ¬LeavesLinkOpen s request) s requests := by
  have hsame : (fun s request => ∀ t, vendorStep v s request = .ok t →
      StampsConfirmed v s request t) =
      fun s request => ∀ t, vendorStep v s request = .ok t → ¬LeavesLinkOpen s request := by
    funext s request
    exact propext (forall_congr' fun t => forall_congr' stampsConfirmed_iff)
  rw [hsame]

def linkedDebt : Payment :=
  { openDebt with
    provider := .razorpay
    onlineRail := some .checkout
    externalOrderId := some "plink_1"
    checkoutUrl := "https://rzp.io/i/1" }

def linked : State :=
  { indebted with payments := ⟨[linkedDebt], by decide⟩ }

def unreachedWaiver : Request where
  op := .ledger (.waive 1 (.ok ()) (fun _ => {}) 5)
  replies _ := { closing := .unavailable }

/-- The waiver is committed with a stamp that nobody has confirmed. -/
theorem open_link_is_stamped :
    ∃ t, vendorStep signedBodies linked unreachedWaiver = .ok t ∧
      ¬StampsConfirmed signedBodies linked unreachedWaiver t := by
  have hcommits : (vendorStep signedBodies linked unreachedWaiver).isOk = true := by decide +kernel
  cases h : vendorStep signedBodies linked unreachedWaiver with
  | error =>
    rw [h] at hcommits
    cases hcommits
  | ok t =>
    have hmem : linkedDebt ∈ linked.payments := mem_cons_self
    have hopen : linkedDebt.hasOpenSession := ⟨by decide, by decide, rfl⟩
    have hleaves : LeavesLinkOpen linked unreachedWaiver :=
      ⟨linkedDebt, hmem, ⟨rfl, rfl⟩, rfl, hopen, rfl, rfl⟩
    exact ⟨t, rfl, fun hconfirmed => (stampsConfirmed_iff h).mp hconfirmed hleaves⟩

end Payments
end SpaceWorks
