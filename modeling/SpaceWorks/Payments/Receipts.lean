import SpaceWorks.Payments.Lifecycle

/-!
# Money received

What becomes of a verified paid event that names a recorded charge (`services_webhooks.py`,
`terminal_settlement.py`).
-/

namespace SpaceWorks
namespace Payments

open Checked TransactionalSystem Table

section Audit

variable {v : Verifier} {s s' : State} {op : Op}
  {row payment : Payment} {eventId : String} {event : StripeEvent} {now : Int}
  {makerspaceId paymentId : Nat} {gate : Except String Unit} {account : Option Account}
  {target : Status} {answer : Nat → ClosingAnswer}

@[simp] theorem mem_audit_record
    (s : State) (action : String) (target : Nat) (eventId : String) (entry : AuditRecord) :
    entry ∈ (record s action target eventId).audit ↔
      entry ∈ s.audit ∨ entry = ⟨action, target, eventId⟩ := by
  simp [record]

@[simp] theorem saveMerchant_audit (s : State) (merchant : Option MerchantSettings) :
    (saveMerchant s merchant).audit = s.audit := by
  cases merchant <;> rfl

theorem savePayment_audit (h : savePayment s row = .ok s') :
    s'.audit = s.audit := by
  rw [savePayment_ok h]

theorem insertPayment_audit (h : insertPayment s row = .ok s') :
    s'.audit = s.audit := by
  obtain ⟨_, rfl⟩ := insertPayment_ok h
  rfl

theorem recordPaidAfterTerminal_audit (payment : Payment) (eventId : String) (entry : AuditRecord) :
    entry ∈ (recordPaidAfterTerminal s payment eventId).audit ↔
      entry ∈ s.audit ∨ entry = ⟨"payment.paid_after_terminal", payment.id, eventId⟩ ∨
        (payment.status = .paidOffline ∧
          entry = ⟨"payment.double_paid_refund_required", payment.id, eventId⟩) := by
  unfold recordPaidAfterTerminal
  split
  · next hoffline => simp [hoffline, or_assoc]
  · next hoffline => simp [hoffline]

def AuditKept (s s' : State) : Prop :=
  ∀ entry ∈ s.audit, entry ∈ s'.audit

theorem auditKept_of_eq (h : s'.audit = s.audit) : AuditKept s s' := by
  intro entry hentry
  rwa [h]

theorem auditKept_record {saved : State} {action : String} {target : Nat}
    (h : saved.audit = s.audit) :
    AuditKept s (record saved action target eventId) := by
  intro entry hentry
  rw [mem_audit_record, h]
  exact .inl hentry

theorem handlePaidAfterTerminal_auditKept {intentId : String}
    (h : handlePaidAfterTerminal s payment eventId intentId = .ok s') :
    AuditKept s s' := by
  intro entry hentry
  rcases handlePaidAfterTerminal_cases h with ⟨-, rfl⟩ | ⟨-, rfl⟩
  · exact (recordPaidAfterTerminal_audit payment eventId entry).mpr (.inl hentry)
  · exact (recordPaidAfterTerminal_audit payment eventId entry).mpr (.inl hentry)

theorem settleStripe_auditKept (h : settleStripe s payment event now = .ok s') :
    AuditKept s s' := by
  unfold settleStripe at h
  split at h
  · simp at h
    obtain ⟨_, hsaved, rfl⟩ := h
    exact auditKept_record (savePayment_audit hsaved)
  · split at h
    · exact handlePaidAfterTerminal_auditKept h
    · simp at h
      obtain ⟨_, hsaved, rfl⟩ := h
      exact auditKept_record (savePayment_audit hsaved)

theorem settleRazorpay_auditKept {event : WebhookEvent}
    (h : settleRazorpay s payment event = .ok s') :
    AuditKept s s' := by
  unfold settleRazorpay at h
  split at h
  · exact handlePaidAfterTerminal_auditKept h
  · simp at h
    obtain ⟨_, hsaved, rfl⟩ := h
    exact auditKept_record (savePayment_audit hsaved)

theorem applyWebhookEvent_auditKept {provider : StripeProvider}
    {account : Option String} {servable : Bool}
    (h : applyWebhookEvent s makerspaceId event provider account servable now = .ok s') :
    AuditKept s s' := by
  rcases applyWebhookEvent_cases h with rfl | ⟨_, -, _, -, -, -, -, -, hsettle⟩
  · exact auditKept_of_eq rfl
  · exact fun entry hentry => settleStripe_auditKept hsettle entry hentry

theorem applyRazorpayWebhookEvent_auditKept {event : WebhookEvent} {servable : Bool}
    (h : applyRazorpayWebhookEvent s makerspaceId event servable = .ok s') :
    AuditKept s s' := by
  rcases applyRazorpayWebhookEvent_cases h with rfl | ⟨_, -, _, -, -, -, -, hsettle⟩
  · exact auditKept_of_eq rfl
  · exact fun entry hentry => settleRazorpay_auditKept hsettle entry hentry

theorem applyConnectWebhookEvent_auditKept {servable : Nat → Bool} {refreshed : Option Account}
    (h : applyConnectWebhookEvent s event servable refreshed now = .ok s') :
    AuditKept s s' := by
  rcases applyConnectWebhookEvent_cases h with
    rfl | ⟨merchant, hnew, updated, action, -, rfl⟩ | ⟨makerspaceId, -, happly⟩
  · exact auditKept_of_eq rfl
  · exact auditKept_record rfl
  · exact applyWebhookEvent_auditKept happly

theorem createCheckoutUrl_auditKept {session : Option (String × String)}
    (h : createCheckoutUrl s paymentId gate account session = .ok s') :
    AuditKept s s' := by
  simp only [createCheckoutUrl, bind_ok, orRefuse_ok] at h
  obtain ⟨_, -, h⟩ := h
  split at h
  · exact auditKept_of_eq (by rw [← pure_ok.mp h])
  · simp only [bind_ok] at h
    obtain ⟨-, -, h⟩ := h
    split at h
    · exact auditKept_of_eq (by rw [← pure_ok.mp h])
    · simp only [raiseCheckout, bind_ok] at h
      obtain ⟨-, -, _, -, h⟩ := h
      split at h
      · obtain rfl := pure_ok.mp h
        exact auditKept_of_eq (saveMerchant_audit ..)
      · simp only [bind_ok, pure_ok] at h
        obtain ⟨_, -, _, hsaved, rfl⟩ := h
        exact auditKept_record ((savePayment_audit hsaved).trans (saveMerchant_audit ..))

theorem createMobileIntent_auditKept {intent : Option String}
    (h : createMobileIntent s paymentId gate account intent = .ok s') :
    AuditKept s s' := by
  simp only [createMobileIntent, bind_ok, orRefuse_ok] at h
  obtain ⟨_, -, -, -, -, -, -, -, -, -, _, -, -, -, _, -, h⟩ := h
  split at h
  · simp at h
    obtain ⟨-, -, rfl⟩ := h
    exact auditKept_of_eq (saveMerchant_audit ..)
  · simp at h
    obtain ⟨_, hsaved, rfl⟩ := h
    exact auditKept_record ((savePayment_audit hsaved).trans (saveMerchant_audit ..))

theorem reconcilePayments_auditKept {paymentIds : List Nat}
    (h : reconcilePayments s makerspaceId paymentIds target gate answer now = .ok s') :
    AuditKept s s' := by
  simp only [reconcilePayments, bind_ok, require_ok] at h
  obtain ⟨-, -, -, -, -, -, -, -, hloop⟩ := h
  refine foldlM_preserves (I := AuditKept s) (fun t payment t' _ ht hone => ?_)
    (fun _ hentry => hentry) hloop
  simp [reconcileOne] at hone
  obtain ⟨_, hsaved, rfl⟩ := hone
  exact fun entry hentry =>
    auditKept_record (savePayment_audit hsaved) entry (ht entry hentry)

theorem compatReconcile_auditKept
    (h : compatReconcile s paymentId target gate answer now = .ok s') :
    AuditKept s s' := by
  simp only [compatReconcile, bind_ok] at h
  obtain ⟨_, -, h⟩ := h
  split at h
  · exact auditKept_of_eq (by rw [← pure_ok.mp h])
  · exact reconcilePayments_auditKept h

theorem audit_kept (h : step v s op = .ok s') : AuditKept s s' := by
  cases op with
  | create =>
    simp only [step, createPayment, bind_ok, pure_ok] at h
    obtain ⟨-, -, _, -, _, -, _, hcreated, rfl⟩ := h
    exact auditKept_record (insertPayment_audit hcreated)
  | createOffline =>
    simp only [step, createOfflinePayment] at h
    split at h
    · exact auditKept_of_eq (by rw [← pure_ok.mp h])
    · split at h
      · exact auditKept_of_eq (by rw [← pure_ok.mp h])
      · simp at h
        obtain ⟨_, hcreated, rfl⟩ := h
        exact auditKept_record (insertPayment_audit hcreated)
  | createCheckout => exact createCheckoutUrl_auditKept h
  | createIntent => exact createMobileIntent_auditKept h
  | stripeWebhook =>
    simp only [step, stripeWebhook, bind_ok] at h
    obtain ⟨-, -, _, -, h⟩ := h
    exact applyWebhookEvent_auditKept h
  | connectWebhook =>
    simp [step, connectWebhook] at h
    obtain ⟨_, -, h⟩ := h
    exact applyConnectWebhookEvent_auditKept h
  | razorpayWebhook =>
    simp only [step, razorpayWebhook, bind_ok] at h
    obtain ⟨-, -, _, -, h⟩ := h
    exact applyRazorpayWebhookEvent_auditKept h
  | reconcile =>
    exact reconcilePayments_auditKept h
  | markOffline | waive => exact compatReconcile_auditKept h
  | cancelPending =>
    simp only [step, cancelPending] at h
    split at h
    · exact auditKept_of_eq (by rw [← pure_ok.mp h])
    · split at h
      · exact auditKept_of_eq (by rw [← pure_ok.mp h])
      · simp at h
        obtain ⟨_, hsaved, rfl⟩ := h
        exact auditKept_record (savePayment_audit hsaved)
  | saveSettings =>
    simp [step, saveSettings] at h
    obtain ⟨-, -, -, -, rfl⟩ := h
    exact auditKept_of_eq rfl

theorem audit_kept_of_run (v : Verifier) (s : State) (ops : List Op) :
    AuditKept s (run (step v) s ops) :=
  run_relates (R := AuditKept) (fun _ _ hentry => hentry)
    (fun hst htu entry hentry => htu entry (hst entry hentry)) audit_kept s ops

end Audit

section Settling

variable {s s' : State}
  {payment : Payment} {eventId intentId : String} {named : Payment → Prop}

/-- The first delivery: paid online under the named charge, or a refund-required record when paid
offline, or a late-payment record when canceled. -/
structure Settles (named : Payment → Prop) (eventId : String) (s' : State)
    (payment : Payment) : Prop where
  online : payment.status = .pending ∨ payment.status = .waived ∨ payment.status = .paidOnline →
    ∃ after ∈ s'.payments, after.id = payment.id ∧ after.status = .paidOnline ∧ named after
  offline : payment.status = .paidOffline →
    ⟨"payment.double_paid_refund_required", payment.id, eventId⟩ ∈ s'.audit
  canceled : payment.status = .canceled →
    ⟨"payment.paid_after_terminal", payment.id, eventId⟩ ∈ s'.audit ∧ payment ∈ s'.payments

theorem handlePaidAfterTerminal_settles (hmem : payment ∈ s.payments) (hnamed : named payment)
    (hpromoted : named { payment with
      status := .paidOnline
      stripePaymentIntentId :=
        if intentId = "" then payment.stripePaymentIntentId else some intentId })
    (hterminal : payment.status ≠ .pending)
    (h : handlePaidAfterTerminal s payment eventId intentId = .ok s') :
    Settles named eventId s' payment := by
  rcases handlePaidAfterTerminal_cases h with ⟨hwaived, rfl⟩ | ⟨hwaived, rfl⟩
  · refine ⟨fun _ => ⟨{ payment with
      status := .paidOnline
      stripePaymentIntentId :=
        if intentId = "" then payment.stripePaymentIntentId else some intentId },
      ?_, rfl, rfl, hpromoted⟩, ?_, ?_⟩
    · rw [recordPaidAfterTerminal_payments]
      exact mem_put_self (show s.payments.get? payment.id = some payment from get?_key hmem)
    · intro hoffline
      rw [hwaived] at hoffline
      cases hoffline
    · intro hcanceled
      rw [hwaived] at hcanceled
      cases hcanceled
  · refine ⟨?_, ?_, ?_⟩
    · rintro (hpending | hwas | honline)
      · exact absurd hpending hterminal
      · exact absurd hwas hwaived
      · exact ⟨payment, by rwa [recordPaidAfterTerminal_payments], rfl, honline, hnamed⟩
    · intro hoffline
      exact (recordPaidAfterTerminal_audit ..).mpr (.inr (.inr ⟨hoffline, rfl⟩))
    · intro _
      exact ⟨(recordPaidAfterTerminal_audit ..).mpr (.inr (.inl rfl)),
        by rwa [recordPaidAfterTerminal_payments]⟩

theorem settles_pending {row : Payment} {action : String} (hsaved : savePayment s row = .ok s')
    (hpending : payment.status = .pending) (hmem : payment ∈ s.payments)
    (hid : row.id = payment.id) (honline : row.status = .paidOnline) (hnamed : named row) :
    Settles named eventId (record s' action payment.id eventId) payment := by
  obtain rfl := savePayment_ok hsaved
  refine ⟨fun _ => ⟨row, ?_, hid, honline, hnamed⟩, ?_, ?_⟩
  · have hget : s.payments.get? (key row) = some payment := by
      rw [show key row = key payment from hid]
      exact get?_key hmem
    exact mem_put_self hget
  · intro hoffline
    rw [hpending] at hoffline
    cases hoffline
  · intro hcanceled
    rw [hpending] at hcanceled
    cases hcanceled

theorem namedByStripe_settled {sessionId : String} (h : namedByStripe sessionId intentId payment) :
    namedByStripe sessionId intentId { payment with
      status := .paidOnline
      stripePaymentIntentId :=
        if intentId = "" then payment.stripePaymentIntentId else some intentId } := by
  by_cases hintent : intentId = ""
  · simpa [namedByStripe, hintent] using h
  · simp [namedByStripe, hintent]

theorem settleStripe_settles {event : StripeEvent} {now : Int}
    (hpaid : event.type ≠ "checkout.session.expired") (hmem : payment ∈ s.payments)
    (hnamed : namedByStripe event.sessionId event.intentId payment)
    (h : settleStripe s payment event now = .ok s') :
    Settles (fun p => namedByStripe event.sessionId event.intentId p) event.id s' payment := by
  unfold settleStripe at h
  rw [if_neg hpaid] at h
  split at h
  case isTrue hterminal =>
    exact handlePaidAfterTerminal_settles hmem hnamed (namedByStripe_settled hnamed) hterminal h
  case isFalse hpending =>
    simp at h
    obtain ⟨_, hsaved, rfl⟩ := h
    exact settles_pending hsaved (not_not.mp hpending) hmem rfl rfl (namedByStripe_settled hnamed)

theorem namedByRazorpay_settled {orderId paymentId : String}
    (h : namedByRazorpay orderId paymentId payment) :
    namedByRazorpay orderId paymentId { payment with
      status := .paidOnline
      externalPaymentId :=
        if paymentId ≠ "" ∧ (payment.externalPaymentId.getD "") = "" then some paymentId
        else payment.externalPaymentId } := by
  by_cases hnew : paymentId ≠ "" ∧ (payment.externalPaymentId.getD "") = ""
  · simp [namedByRazorpay, hnew]
  · simpa [namedByRazorpay, hnew] using h

theorem settleRazorpay_settles {event : WebhookEvent} (hmem : payment ∈ s.payments)
    (hnamed : namedByRazorpay event.orderId event.paymentId payment)
    (h : settleRazorpay s payment event = .ok s') :
    Settles (fun p => namedByRazorpay event.orderId event.paymentId p) event.eventId s'
      payment := by
  unfold settleRazorpay at h
  split at h
  case isTrue hterminal =>
    refine handlePaidAfterTerminal_settles hmem hnamed ?_ hterminal h
    simpa [namedByRazorpay] using hnamed
  case isFalse hpending =>
    simp at h
    obtain ⟨_, hsaved, rfl⟩ := h
    exact settles_pending hsaved (not_not.mp hpending) hmem rfl rfl (namedByRazorpay_settled hnamed)

end Settling

section Receipts

variable {v : Verifier} {s s' : State} {op : Op}
  {event : StripeEvent} {payment : Payment} {makerspaceId : Nat} {now : Int}

def Op.servable (makerspaceId : Nat) : Op → Prop
  | .stripeWebhook _ _ _ servable _ => servable
  | .connectWebhook _ _ servable _ _ => servable makerspaceId
  | .razorpayWebhook _ _ _ _ servable => servable
  | _ => False

/-- The event carries the ids its endpoint asks for. -/
def Op.identified (v : Verifier) (s : State) : Op → Prop
  | .stripeWebhook makerspaceId body signature _ _ =>
    ∀ event, verifyStripe v s makerspaceId body signature = .ok event → event.id ≠ ""
  | .connectWebhook body signature _ _ _ =>
    ∀ event, constructEvent v body signature s.platformWebhookSecret = .ok event →
      event.id ≠ "" ∧ event.accountId ≠ ""
  | .razorpayWebhook makerspaceId body signature eventIdHeader _ =>
    ∀ event, verifyRazorpayDelivery v s makerspaceId body signature eventIdHeader =
      .ok event → event.eventId ≠ ""
  | _ => True

/-- The event's identifiers name the payment. -/
def Op.names (v : Verifier) (s : State) (payment : Payment) : Op → Prop
  | .stripeWebhook makerspaceId body signature _ _ =>
    ∃ event, verifyStripe v s makerspaceId body signature = .ok event ∧
      namedByStripe event.sessionId event.intentId payment
  | .connectWebhook body signature _ _ _ =>
    ∃ event, constructEvent v body signature s.platformWebhookSecret = .ok event ∧
      namedByStripe event.sessionId event.intentId payment
  | .razorpayWebhook makerspaceId body signature eventIdHeader _ =>
    ∃ event, verifyRazorpayDelivery v s makerspaceId body signature eventIdHeader = .ok event ∧
      namedByRazorpay event.orderId event.paymentId payment
  | _ => False

theorem recordOnce_fresh {event : ProcessedEvent} (h : event ∉ s.processed) :
    ∃ claimed, recordOnce s event = some claimed ∧ claimed.payments = s.payments := by
  have hnew : s.processed.get? event = none := by
    rw [get?_eq_none]
    rintro _ hknown rfl
    exact h hknown
  refine ⟨{ s with processed := s.processed.insert event hnew }, ?_, rfl⟩
  have hinsert : s.processed.insertNew event () = .ok (s.processed.insert event hnew) :=
    insertNew_ok.mpr ⟨hnew, rfl⟩
  rw [recordOnce, hinsert]

theorem relevant_of_paid (hid : event.id ≠ "") (hpaid : event.IsPaid)
    (hnamed : namedByStripe event.sessionId event.intentId payment) :
    event.relevant ∧ event.type ≠ "checkout.session.expired" := by
  have hidentified : event.sessionId ≠ "" ∨ event.intentId ≠ "" := by
    simp [namedByStripe] at hnamed
    exact hnamed.imp And.left And.left
  simp only [StripeEvent.relevant, Bool.and_eq_true, decide_eq_true_eq, Bool.or_eq_true]
  rcases hpaid with ⟨htype, hstatus⟩ | htype | htype
  · refine ⟨⟨⟨⟨hid, ?_⟩, ?_⟩, hidentified⟩, ?_⟩
    · rw [htype]
      decide
    · rcases hstatus with hstatus | hstatus <;> simp [htype, hstatus]
    · rw [htype]
      decide
  · refine ⟨⟨⟨⟨hid, ?_⟩, ?_⟩, hidentified⟩, ?_⟩ <;> simp [htype, handledTypes]
  · refine ⟨⟨⟨⟨hid, ?_⟩, ?_⟩, hidentified⟩, ?_⟩ <;> simp [htype, handledTypes]

theorem applyWebhookEvent_settles {provider : StripeProvider} {account : Option String}
    (hmem : payment ∈ s.payments) (hid : event.id ≠ "") (hpaid : event.IsPaid)
    (hfresh : (⟨makerspaceId, .stripe, event.id⟩ : ProcessedEvent) ∉ s.processed)
    (hspace : payment.makerspaceId = makerspaceId) (hrail : payment.stripeProvider = provider)
    (haccount : ∀ a, account = some a → payment.stripeConnectedAccountId = some a)
    (hnamed : namedByStripe event.sessionId event.intentId payment)
    (h : applyWebhookEvent s makerspaceId event provider account true now = .ok s') :
    ∃ found ∈ s.payments, found.makerspaceId = makerspaceId ∧ found.stripeProvider = provider ∧
      (∀ a, account = some a → found.stripeConnectedAccountId = some a) ∧
      namedByStripe event.sessionId event.intentId found ∧
      Settles (fun p => namedByStripe event.sessionId event.intentId p) event.id s' found := by
  obtain ⟨hrelevant, hlive⟩ := relevant_of_paid hid hpaid hnamed
  unfold applyWebhookEvent at h
  rw [if_neg (not_not.mpr ⟨hrelevant, rfl⟩)] at h
  split at h
  case h_1 hnone =>
    have hskipped := List.find?_eq_none.mp hnone payment (mem_newestFirst.mpr hmem)
    refine absurd ?_ hskipped
    simp only [hspace, hrail, hnamed, decide_true, Bool.and_true, Bool.true_and]
    cases account with
    | none => rfl
    | some a => simpa using haccount a rfl
  case h_2 found hfind =>
    obtain ⟨_, hclaim, hpayments⟩ := recordOnce_fresh hfresh
    rw [hclaim] at h
    have hfoundMem : found ∈ s.payments := mem_newestFirst.mp (List.mem_of_find?_eq_some hfind)
    have hfound := List.find?_some hfind
    simp at hfound
    obtain ⟨⟨⟨hspace', hrail'⟩, haccount'⟩, hnamed'⟩ := hfound
    refine ⟨found, hfoundMem, hspace', hrail', ?_, hnamed', ?_⟩
    · rintro _ rfl
      simpa using haccount'
    · exact settleStripe_settles hlive (hpayments ▸ hfoundMem) hnamed' h

theorem applyRazorpayWebhookEvent_settles {event : WebhookEvent} (hmem : payment ∈ s.payments)
    (hid : event.eventId ≠ "") (hpaid : event.isPaid)
    (hfresh : (⟨makerspaceId, .razorpay, event.eventId⟩ : ProcessedEvent) ∉ s.processed)
    (hspace : payment.makerspaceId = makerspaceId) (hvendor : payment.provider = .razorpay)
    (hnamed : namedByRazorpay event.orderId event.paymentId payment)
    (h : applyRazorpayWebhookEvent s makerspaceId event true = .ok s') :
    ∃ found ∈ s.payments, found.makerspaceId = makerspaceId ∧ found.provider = .razorpay ∧
      namedByRazorpay event.orderId event.paymentId found ∧
      Settles (fun p => namedByRazorpay event.orderId event.paymentId p) event.eventId s'
        found := by
  unfold applyRazorpayWebhookEvent at h
  rw [if_neg (not_not.mpr ⟨rfl, hid, hpaid⟩)] at h
  split at h
  case h_1 hnone =>
    have hskipped := List.find?_eq_none.mp hnone payment (mem_newestFirst.mpr hmem)
    refine absurd ?_ hskipped
    simp [hspace, hvendor, hnamed]
  case h_2 found hfind =>
    obtain ⟨_, hclaim, hpayments⟩ := recordOnce_fresh hfresh
    rw [hclaim] at h
    have hfoundMem : found ∈ s.payments := mem_newestFirst.mp (List.mem_of_find?_eq_some hfind)
    have hfound := List.find?_some hfind
    simp at hfound
    obtain ⟨⟨hspace', hvendor'⟩, hnamed'⟩ := hfound
    exact ⟨found, hfoundMem, hspace', hvendor', hnamed',
      settleRazorpay_settles (hpayments ▸ hfoundMem) hnamed' h⟩

theorem Settles.weaken {named named' : Payment → Prop} {eventId : String}
    (h : Settles named eventId s' payment) (himp : ∀ p, named p → named' p) :
    Settles named' eventId s' payment where
  online := by
    intro hstatus
    obtain ⟨after, hafter, hid, honline, hnamed⟩ := h.online hstatus
    exact ⟨after, hafter, hid, honline, himp after hnamed⟩
  offline := h.offline
  canceled := h.canceled

theorem connectSessionId_of_paid (hpaid : event.IsPaid) :
    event.connectSessionId = event.sessionId := by
  unfold StripeEvent.connectSessionId StripeEvent.sessionId
  rcases hpaid with ⟨htype, -⟩ | htype | htype
  · rw [htype, if_pos (by decide +kernel), if_pos (by decide)]
  · rw [htype, if_pos (by decide +kernel), if_pos (by decide)]
  · rw [htype, if_neg (by decide +kernel), if_neg (by decide)]

theorem not_account_of_paid (hpaid : event.IsPaid) :
    ¬ (event.type = "account.updated" ∨ event.type = "account.application.deauthorized") := by
  rcases hpaid with ⟨htype, -⟩ | htype | htype <;> rw [htype] <;> decide

theorem applyConnectWebhookEvent_settles {servable : Nat → Bool} {refreshed : Option Account}
    (hid : event.id ≠ "") (hpaid : event.IsPaid)
    (hkey : connectMakerspace s event = some makerspaceId)
    (hfresh : (⟨makerspaceId, .stripe, event.id⟩ : ProcessedEvent) ∉ s.processed)
    (hservable : servable makerspaceId) (haccountId : event.accountId ≠ "")
    (h : applyConnectWebhookEvent s event servable refreshed now = .ok s') :
    ∃ found ∈ s.payments, found.stripeProvider = .connect ∧
      found.stripeConnectedAccountId = some event.accountId ∧
      namedByStripe event.sessionId event.intentId found ∧
      Settles (fun p => namedByStripe event.sessionId event.intentId p) event.id s' found := by
  have haccount := not_account_of_paid hpaid
  rw [connectMakerspace, if_neg haccount, Option.map_eq_some_iff] at hkey
  obtain ⟨first, hfirst, rfl⟩ := hkey
  have hfirstMem : first ∈ s.payments := mem_newestFirst.mp (List.mem_of_find?_eq_some hfirst)
  have hnamed := List.find?_some hfirst
  simp [connectSessionId_of_paid hpaid] at hnamed
  obtain ⟨⟨hrail, hsame⟩, hnamed⟩ := hnamed
  unfold applyConnectWebhookEvent at h
  rw [if_neg (not_or.mpr ⟨hid, haccountId⟩), if_neg haccount, hfirst] at h
  simp only [hservable] at h
  obtain ⟨found, hfound, -, hrail', hsame', hnamed', hsettles⟩ :=
    applyWebhookEvent_settles hfirstMem hid hpaid hfresh rfl hrail
      (fun a ha => Option.some.inj ha ▸ hsame) hnamed h
  exact ⟨found, hfound, hrail', hsame' _ rfl, hnamed', hsettles⟩

/-- An identified event under a fresh key, to a servable makerspace. -/
structure FirstDelivery (v : Verifier) (s : State) (op : Op) (event : ProcessedEvent) : Prop where
  key : eventKey v s op = some event
  fresh : event ∉ s.processed
  identified : op.identified v s
  servable : op.servable event.makerspaceId

theorem receipt_settles {event : ProcessedEvent} (h : step v s op = .ok s')
    (hmem : payment ∈ s.payments) (hpaid : PaidEvent v s op payment)
    (hfirst : FirstDelivery v s op event) :
    ∃ found ∈ s.payments, PaidEvent v s op found ∧
      Settles (op.names v s) event.eventId s' found := by
  obtain ⟨hkey, hfresh, hid, hservable⟩ := hfirst
  cases hpaid with
  | @stripe makerspaceId body signature servable now received _ hverified hispaid hspace hrail
      hcharge =>
    simp [eventKey, hverified] at hkey
    subst hkey
    obtain rfl : servable = true := hservable
    simp only [step, stripeWebhook, hverified, bind_ok] at h
    obtain ⟨-, -, _, hreceived, h⟩ := h
    cases hreceived
    obtain ⟨found, hfound, hspace', hrail', -, hnamed, hsettles⟩ :=
      applyWebhookEvent_settles hmem (hid received hverified) hispaid hfresh hspace hrail
        (by simp) hcharge h
    refine ⟨found, hfound, .stripe hverified hispaid hspace' hrail' hnamed, ?_⟩
    exact hsettles.weaken fun p hp => ⟨received, hverified, hp⟩
  | @connect body signature servable refreshed now received _ hverified hispaid hrail haccount
      hcharge =>
    simp only [eventKey, hverified, Option.map_eq_some_iff] at hkey
    obtain ⟨_, hmakerspace, rfl⟩ := hkey
    obtain ⟨heventId, haccountId⟩ := hid received hverified
    simp only [step, connectWebhook, hverified, bind_ok] at h
    obtain ⟨_, hreceived, h⟩ := h
    cases hreceived
    obtain ⟨found, hfound, hrail', haccount', hnamed, hsettles⟩ :=
      applyConnectWebhookEvent_settles heventId hispaid hmakerspace hfresh hservable haccountId h
    refine ⟨found, hfound, .connect hverified hispaid hrail' haccount' hnamed, ?_⟩
    exact hsettles.weaken fun p hp => ⟨received, hverified, hp⟩
  | @razorpay makerspaceId body signature eventIdHeader servable received _ hverified hispaid
      hspace hvendor hcharge =>
    simp [eventKey, hverified] at hkey
    subst hkey
    obtain rfl : servable = true := hservable
    simp only [step, razorpayWebhook, hverified, bind_ok] at h
    obtain ⟨-, -, _, hreceived, h⟩ := h
    cases hreceived
    obtain ⟨found, hfound, hspace', hvendor', hnamed, hsettles⟩ :=
      applyRazorpayWebhookEvent_settles hmem (hid received hverified) hispaid hfresh hspace
        hvendor hcharge h
    refine ⟨found, hfound, .razorpay hverified hispaid hspace' hvendor' hnamed, ?_⟩
    exact hsettles.weaken fun p hp => ⟨received, hverified, hp⟩

end Receipts

section Runs

variable {v : Verifier} {s s' : State} {op : Op}

theorem online_of_run
    {payment : Payment} (hmem : payment ∈ s.payments) (honline : payment.status = .paidOnline)
    (ops : List Op) :
    ∃ after ∈ (run (step v) s ops).payments, after.id = payment.id ∧
      after.status = .paidOnline := by
  obtain ⟨after, hafter, hlives⟩ := lives_of_run v s ops payment hmem
  refine ⟨after, hafter, hlives.same_row, ?_⟩
  have hmoves := hlives.status_moves
  rw [honline] at hmoves
  rcases Relation.ReflTransGen.cases_head hmoves with hsame | ⟨_, hnext, -⟩
  · exact hsame.symm
  · cases hnext

/-- The payment is paid online, or recorded for a refund. -/
def AccountedFor (t : State) (payment : Payment) (eventId : String) : Prop :=
  (∃ after ∈ t.payments, after.id = payment.id ∧ after.status = .paidOnline) ∨
    ⟨"payment.double_paid_refund_required", payment.id, eventId⟩ ∈ t.audit

instance (t : State) (payment : Payment) (eventId : String) :
    Decidable (AccountedFor t payment eventId) :=
  inferInstanceAs (Decidable ((∃ after ∈ t.payments.rows, _) ∨ _))

/-- **Money received.** The first delivery has settled its payment, paid online or with a record,
whatever follows. -/
theorem received_of_run {payment : Payment} {event : ProcessedEvent} (h : step v s op = .ok s')
    (hmem : payment ∈ s.payments) (hpaid : PaidEvent v s op payment)
    (hfirst : FirstDelivery v s op event) (ops : List Op) :
    ∃ found ∈ s.payments, PaidEvent v s op found ∧
      ((∀ other ∈ s.payments, PaidEvent v s op other → other = payment) → found = payment) ∧
      Settles (op.names v s) event.eventId s' found ∧
      (found.status ≠ .canceled → AccountedFor (run (step v) s' ops) found event.eventId) ∧
      (found.status = .canceled → ⟨"payment.paid_after_terminal", found.id, event.eventId⟩ ∈
          (run (step v) s' ops).audit) := by
  obtain ⟨found, hfound, hfoundPaid, hsettles⟩ := receipt_settles h hmem hpaid hfirst
  refine ⟨found, hfound, hfoundPaid, fun honly => honly found hfound hfoundPaid, hsettles, ?_, ?_⟩
  · intro hlive
    have honline : found.status = .pending ∨ found.status = .waived ∨
        found.status = .paidOnline → AccountedFor (run (step v) s' ops) found event.eventId := by
      intro hstatus
      obtain ⟨_, hafter, hid, hdone, -⟩ := hsettles.online hstatus
      obtain ⟨last, hlast, hlastId, hlastDone⟩ := online_of_run hafter hdone ops
      exact .inl ⟨last, hlast, hlastId.trans hid, hlastDone⟩
    cases hstatus : found.status with
    | pending => exact honline (.inl hstatus)
    | waived => exact honline (.inr (.inl hstatus))
    | paidOnline => exact honline (.inr (.inr hstatus))
    | paidOffline => exact .inr (audit_kept_of_run v s' ops _ (hsettles.offline hstatus))
    | canceled => exact absurd hstatus hlive
  · intro hcanceled
    exact audit_kept_of_run v s' ops _ (hsettles.canceled hcanceled).1

/-- The first charge's session is completed while open. -/
theorem received_of_run_debt :
    ∃ found ∈ indebted.payments,
      AccountedFor (run (step signedBodies)
        (settle (step signedBodies) indebted (.stripeWebhook 1 "{}" "whsec{}" true 0))
        [.waive 1 (.ok ()) (fun _ => {}) 1]) found "evt_1" := by
  have hmem : debt ∈ indebted.payments := List.mem_cons_self
  have hpaid : PaidEvent signedBodies indebted (.stripeWebhook 1 "{}" "whsec{}" true 0) debt :=
    .stripe (by rfl) (show underpaid.IsPaid from .inl ⟨rfl, .inl rfl⟩) rfl rfl (by decide)
  have hfirst : FirstDelivery signedBodies indebted (.stripeWebhook 1 "{}" "whsec{}" true 0)
      ⟨1, .stripe, "evt_1"⟩ := by
    refine ⟨rfl, List.not_mem_nil, ?_, rfl⟩
    intro event hverified
    obtain rfl : underpaid = event := Except.ok.inj hverified
    decide
  obtain ⟨found, hfound, -, -, -, haccounted, -⟩ :=
    received_of_run (show step signedBodies indebted _ = .ok (settle (step signedBodies)
      indebted (.stripeWebhook 1 "{}" "whsec{}" true 0)) from rfl) hmem hpaid hfirst
      [.waive 1 (.ok ()) (fun _ => {}) 1]
  refine ⟨found, hfound, haccounted ?_⟩
  obtain rfl : found = debt := List.mem_singleton.mp hfound
  decide

def canceledDebt : Payment :=
  { debt with status := .canceled }

def connectDebt : Payment :=
  { debt with stripeProvider := .connect, stripeConnectedAccountId := some "acct_1" }

def ledgerOf (payment : Payment) : State where
  payments := ⟨[payment], by simp⟩
  processed := ∅
  merchants := indebted.merchants
  platformWebhookSecret := "whsec"

def connectBodies : Verifier :=
  { signedBodies with constructEvent := fun _ _ _ => some { underpaid with account := "acct_1" } }

/-- Money for a canceled charge is neither settled nor to be refunded, and that of an unservable
makerspace changes nothing. -/
theorem late_money_not_accounted :
    (PaidEvent signedBodies (ledgerOf canceledDebt)
        (.stripeWebhook 1 "{}" "whsec{}" true 0) canceledDebt ∧
      ∃ t, step signedBodies (ledgerOf canceledDebt)
          (.stripeWebhook 1 "{}" "whsec{}" true 0) = .ok t ∧
        ¬ AccountedFor t canceledDebt "evt_1") ∧
    PaidEvent connectBodies (ledgerOf connectDebt)
        (.connectWebhook "{}" "sig" (fun _ => false) none 0) connectDebt ∧
      (step connectBodies (ledgerOf connectDebt)
          (.connectWebhook "{}" "sig" (fun _ => false) none 0)).toBool ∧
      ¬ AccountedFor (settle (step connectBodies) (ledgerOf connectDebt)
          (.connectWebhook "{}" "sig" (fun _ => false) none 0)) connectDebt "evt_1" := by
  refine ⟨⟨?_, _, rfl, by decide⟩, ?_, by decide +kernel, by decide +kernel⟩
  · exact .stripe (by rfl) (show underpaid.IsPaid from .inl ⟨rfl, .inl rfl⟩) rfl rfl (by decide)
  · exact .connect (by rfl) (show StripeEvent.IsPaid { underpaid with account := "acct_1" } from
        .inl ⟨rfl, .inl rfl⟩)
      rfl rfl (by decide)

end Runs

end Payments
end SpaceWorks
