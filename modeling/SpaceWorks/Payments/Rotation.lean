import SpaceWorks.Library.RowLocks
import SpaceWorks.Payments.Rails

/-!
# Rotation of payment credentials

A creation locks the platform settings (for Connect), the settings of the makerspace and the payment
while it waits for the vendor; a change of credentials locks the settings it rewrites and the
payments whose sessions it looks up.
-/

namespace SpaceWorks
namespace Payments

open Checked TransactionalSystem RowLocks Table List

section Locks

inductive RailKey
  | platform
  | settings (makerspaceId : Nat)
  | payment (paymentId : Nat)

inductive RailRequest
  | checkout (paymentId : Nat) (gate : Except String Unit) (account : Option Account)
      (session : Option (String × String))
  | intent (paymentId : Nat) (gate : Except String Unit) (account : Option Account)
      (intent : Option String)
  | change (scope : Scope) (edit : CredentialChange) (answer : Nat → ClosingAnswer) (now : Int)

inductive RailCommit
  | charge (write : RailWrite)
  | credentials (scope : Scope) (change : CredentialChange) (closed : List Payment)

/-- The settings row that holds the credentials. -/
def Scope.key : Scope → RailKey
  | .makerspace makerspaceId => .settings makerspaceId
  | .platform => .platform

def Payment.rowKeys (payment : Payment) : List RailKey :=
  (if payment.stripeProvider = .connect then [.platform] else [])
    ++ [.settings payment.makerspaceId, .payment payment.id]

variable (s : State)

def RailRequest.locked : RailRequest → List RailKey
  | .checkout paymentId _ _ _ => (s.payments.get? paymentId).elim [] Payment.rowKeys
  | .intent paymentId _ _ _ => (s.payments.get? paymentId).elim [] Payment.rowKeys
  | .change scope edit _ _ =>
    scope.key :: if scope.changedFields s edit = [] then []
      else (scope.sessions s).map fun payment => .payment payment.id

def RailRequest.decides : RailRequest → Except Error RailCommit
  | .checkout paymentId gate account session => do
    let payment ← orRefuse (s.payments.get? paymentId) (.notFound "Payment")
    let write ← decideCheckout payment (s.merchants.get? payment.makerspaceId) gate account session
    return .charge write
  | .intent paymentId gate account answer => do
    let payment ← orRefuse (s.payments.get? paymentId) (.notFound "Payment")
    let write ← decideIntent payment (s.merchants.get? payment.makerspaceId) gate account answer
    return .charge write
  | .change scope edit answer now => do
    let closed ← validateCredentialChanges s scope edit answer now
    return .credentials scope edit closed

def RailCommit.make : RailCommit → Except Error State
  | .charge write => write.commit s
  | .credentials scope change closed => commitChange s scope change closed

end Locks

/-- Charges and credential changes under row locks. -/
def onlineRails : LockSystem State RailRequest RailKey RailCommit Error where
  needs := RailRequest.locked
  decide := RailRequest.decides
  write := RailCommit.make

section

variable {s t : State}

theorem lockedConnectMerchant_eq (payment : Payment) (account : Option Account) :
    lockedConnectMerchant payment (s.merchants.get? payment.makerspaceId) account =
      connectMerchant s payment account := rfl

theorem makerspace_of_lockedConnectMerchant
    {payment : Payment} {stored merchant : Option MerchantSettings} {account : Option Account}
    (hstored : ∀ row ∈ stored, row.makerspaceId = payment.makerspaceId)
    (h : lockedConnectMerchant payment stored account = .ok merchant) :
    ∀ row ∈ merchant, row.makerspaceId = payment.makerspaceId := by
  unfold lockedConnectMerchant at h
  split at h
  case isTrue =>
    obtain rfl := pure_ok.mp h
    simp
  case isFalse =>
    simp at h
    obtain ⟨old, hold, -, -, _, -, rfl⟩ := h
    rintro _ ⟨⟩
    exact hstored old hold

theorem stored_makerspace (payment : Payment) :
    ∀ row ∈ s.merchants.get? payment.makerspaceId, row.makerspaceId = payment.makerspaceId :=
  fun _ hrow => key_of_get? hrow

theorem raiseCheckout_eq
    (payment : Payment) (account : Option Account) (session : Option (String × String)) :
    raiseCheckout s payment account session = (do
      let write ← decideRaise payment (s.merchants.get? payment.makerspaceId) account session
      write.commit s) := by
  unfold raiseCheckout decideRaise
  rw [lockedConnectMerchant_eq]
  cases hmerchant : connectMerchant s payment account with
  | error => rfl
  | ok merchant =>
    cases hrefused : merchant.filter fun m => !m.canCharge with
    | some refused =>
      have hrow : refused.makerspaceId = payment.makerspaceId :=
        makerspace_of_lockedConnectMerchant (stored_makerspace payment) hmerchant refused
          (Option.filter_eq_some_iff.mp hrefused).1
      simp [bind, Except.bind, pure, Except.pure, hrefused, hrow, RailWrite.commit]
    | none =>
      generalize hsession : orRefuse _
        (Error.unavailable "The provider did not return a checkout.") = checkout
      cases checkout with
      | error => simp [bind, Except.bind, hrefused]
      | ok =>
        simp [bind, Except.bind, pure, Except.pure, hrefused, RailWrite.commit, withCheckout_id]

theorem createCheckoutUrl_eq
    (payment : Payment) (gate : Except String Unit) (account : Option Account)
    (session : Option (String × String)) :
    (do
      let write ← decideCheckout payment (s.merchants.get? payment.makerspaceId) gate account
        session
      write.commit s) =
    (if payment.status ≠ .pending then pure s
    else do
      require (payment.onlineRail ≠ some .nativePaymentIntent)
        (.railConflict "The payment already uses the native payment rail.")
      if textOr payment.checkoutUrl payment.stripeCheckoutUrl ≠ "" then return s
      else
        gate.mapError Error.gate
        raiseCheckout s payment account session) := by
  unfold decideCheckout
  split
  case isTrue => rfl
  case isFalse =>
    rw [bind_assoc]
    refine bind_congr fun _ => ?_
    split
    case isTrue => rfl
    case isFalse =>
      rw [bind_assoc]
      refine bind_congr fun _ => ?_
      exact (raiseCheckout_eq payment account session).symm

theorem serial_checkout (paymentId : Nat) (gate : Except String Unit) (account : Option Account)
    (session : Option (String × String)) :
    onlineRails.serial s (.checkout paymentId gate account session) =
      createCheckoutUrl s paymentId gate account session := by
  simp only [LockSystem.serial, onlineRails, RailRequest.decides, createCheckoutUrl, bind_assoc]
  refine bind_congr fun payment => ?_
  exact createCheckoutUrl_eq payment gate account session

theorem serial_intent (paymentId : Nat) (gate : Except String Unit) (account : Option Account)
    (intent : Option String) :
    onlineRails.serial s (.intent paymentId gate account intent) =
      createMobileIntent s paymentId gate account intent := by
  simp only [LockSystem.serial, onlineRails, RailRequest.decides, decideIntent,
    createMobileIntent, bind_assoc]
  refine bind_congr fun payment => ?_
  refine bind_congr fun _ => ?_
  refine bind_congr fun _ => ?_
  refine bind_congr fun _ => ?_
  refine bind_congr fun _ => ?_
  refine bind_congr fun merchant => ?_
  refine bind_congr fun _ => ?_
  refine bind_congr fun intentId => ?_
  cases payment.stripePaymentIntentId with
  | none => rfl
  | some =>
    rw [bind_assoc]
    rfl

theorem serial_change
    (scope : Scope) (edit : CredentialChange) (answer : Nat → ClosingAnswer) (now : Int) :
    onlineRails.serial s (.change scope edit answer now) =
      updateCredentials s scope edit answer now := by
  simp only [LockSystem.serial, onlineRails, RailRequest.decides, updateCredentials, bind_assoc]
  rfl

variable {payment : Payment} {stored : Option MerchantSettings} {gate : Except String Unit}
variable {account : Option Account} {write : RailWrite} {scope other : Scope}
variable {edit : CredentialChange} {now : Int}

structure Charges (payment : Payment) (write : RailWrite) : Prop where
  merchant : ∀ row ∈ write.merchant, row.makerspaceId = payment.makerspaceId
  payment : ∀ row ∈ write.payment, row.id = payment.id ∧ row.toCharge = payment.toCharge

theorem charges_nothing (payment : Payment) : Charges payment ⟨none, none, ""⟩ :=
  ⟨by simp, by simp⟩

theorem withCheckout_charge (payment : Payment) (orderId url : String) :
    (payment.withCheckout orderId url).toCharge = payment.toCharge := by
  unfold Payment.withCheckout
  cases payment.provider <;> rfl

theorem charges_of_decideCheckout {session : Option (String × String)}
    (hstored : ∀ row ∈ stored, row.makerspaceId = payment.makerspaceId)
    (h : decideCheckout payment stored gate account session = .ok write) :
    Charges payment write := by
  unfold decideCheckout at h
  split at h
  case isTrue => exact pure_ok.mp h ▸ charges_nothing payment
  case isFalse =>
    simp only [bind_ok] at h
    obtain ⟨-, -, h⟩ := h
    split at h
    case isTrue => exact pure_ok.mp h ▸ charges_nothing payment
    case isFalse =>
      simp only [decideRaise, bind_ok] at h
      obtain ⟨-, -, _, hmerchant, h⟩ := h
      split at h
      case h_1 =>
        obtain rfl := pure_ok.mp h
        refine ⟨?_, by simp⟩
        intro row hrow
        obtain ⟨old, hold, rfl⟩ := Option.mem_map.mp hrow
        exact hstored old hold
      case h_2 =>
        simp only [bind_ok, pure_ok] at h
        obtain ⟨⟨orderId, url⟩, -, rfl⟩ := h
        refine ⟨makerspace_of_lockedConnectMerchant hstored hmerchant, ?_⟩
        rintro _ ⟨⟩
        exact ⟨withCheckout_id payment orderId url, withCheckout_charge payment orderId url⟩

theorem charges_of_decideIntent {intent : Option String}
    (hstored : ∀ row ∈ stored, row.makerspaceId = payment.makerspaceId)
    (h : decideIntent payment stored gate account intent = .ok write) :
    Charges payment write := by
  simp only [decideIntent, bind_ok] at h
  obtain ⟨-, -, -, -, -, -, -, -, _, hmerchant, -, -, _, -, h⟩ := h
  have hrows := makerspace_of_lockedConnectMerchant hstored hmerchant
  split at h
  case h_1 =>
    simp at h
    obtain ⟨-, -, rfl⟩ := h
    exact ⟨hrows, by simp⟩
  case h_2 =>
    obtain rfl := pure_ok.mp h
    refine ⟨hrows, ?_⟩
    rintro _ ⟨⟩
    exact ⟨rfl, rfl⟩

/-- A write under some locks leaves the other rows alone. -/
structure Apart (keys : List RailKey) (s t : State) : Prop where
  merchants : ∀ makerspaceId, RailKey.settings makerspaceId ∉ keys →
    t.merchants.get? makerspaceId = s.merchants.get? makerspaceId
  platform : RailKey.platform ∉ keys →
    t.platformSecretKey = s.platformSecretKey ∧ t.platformWebhookSecret = s.platformWebhookSecret
  payments : ∀ paymentId, RailKey.payment paymentId ∉ keys →
    t.payments.get? paymentId = s.payments.get? paymentId
  sessions : ∀ scope : Scope, scope.key ∉ keys → scope.sessions t = scope.sessions s

theorem covers_congr {p q : Payment} (h : p.toCharge = q.toCharge) (scope : Scope) :
    scope.covers p = scope.covers q := by
  cases scope with
  | makerspace | platform => simp [Scope.covers, h]

theorem looksUp_of_not_covers (h : scope.covers payment = false) :
    scope.looksUp payment = false := by
  simp [Scope.looksUp, h]

theorem key_mem_rowKeys (h : scope.covers payment = true) :
    scope.key ∈ payment.rowKeys := by
  cases scope with
  | makerspace =>
    simp [Scope.covers] at h
    simp [Scope.key, Payment.rowKeys, h.2]
  | platform =>
    simp [Scope.covers] at h
    simp [Scope.key, Payment.rowKeys, h]

theorem scope_unique (h : scope.covers payment = true) (hother : other.covers payment = true) :
    scope = other := by
  cases scope with
  | makerspace =>
    simp [Scope.covers] at h
    cases other with
    | makerspace =>
      simp [Scope.covers] at hother
      rw [← h.2, ← hother.2]
    | platform =>
      simp [Scope.covers] at hother
      exact nomatch h.1.symm.trans hother
  | platform =>
    simp [Scope.covers] at h
    cases other with
    | makerspace =>
      simp [Scope.covers] at hother
      exact nomatch h.symm.trans hother.1
    | platform => rfl

theorem apart_of_charge (hmem : payment ∈ s.payments) (hcharges : Charges payment write)
    (h : write.commit s = .ok t) :
    Apart payment.rowKeys s t := by
  have hmerchants : ∀ makerspaceId, RailKey.settings makerspaceId ∉ payment.rowKeys →
      (saveMerchant s write.merchant).merchants.get? makerspaceId =
        s.merchants.get? makerspaceId := by
    intro makerspaceId hfree
    cases hmerchant : write.merchant with
    | none => rfl
    | some row =>
      refine get?_put_of_ne s.merchants ?_
      rintro rfl
      refine hfree ?_
      rw [key_merchantSettings, hcharges.merchant row hmerchant]
      simp [Payment.rowKeys]
  have hplatform : (saveMerchant s write.merchant).platformSecretKey = s.platformSecretKey ∧
      (saveMerchant s write.merchant).platformWebhookSecret = s.platformWebhookSecret := by
    cases write.merchant with
    | none | some => exact ⟨rfl, rfl⟩
  unfold RailWrite.commit at h
  split at h
  case h_1 =>
    obtain rfl := pure_ok.mp h
    refine ⟨hmerchants, fun _ => hplatform, ?_, ?_⟩
    · intro paymentId _
      rw [saveMerchant_payments]
    · intro scope _
      simp [Scope.sessions]
  case h_2 row hrow =>
    simp at h
    obtain ⟨_, hsaved, rfl⟩ := h
    obtain rfl := savePayment_ok hsaved
    obtain ⟨hid, hcharge⟩ := hcharges.payment row hrow
    refine ⟨hmerchants, fun _ => hplatform, ?_, ?_⟩
    · intro paymentId hfree
      rw [record_payments, saveMerchant_payments]
      refine get?_put_of_ne s.payments ?_
      rintro rfl
      refine hfree ?_
      rw [key_payment, hid]
      simp [Payment.rowKeys]
    · intro scope hfree
      have huncovered : scope.covers payment = false := by
        by_contra hcovers
        exact hfree (key_mem_rowKeys (Bool.eq_true_of_not_eq_false hcovers))
      simp only [Scope.sessions, record_payments, saveMerchant_payments]
      refine filter_put ?_ ?_
      · refine looksUp_of_not_covers ?_
        rw [covers_congr hcharge]
        exact huncovered
      · intro other hother hsame
        obtain rfl : other = payment := eq_of_key_eq hother hmem (hsame.trans hid)
        exact looksUp_of_not_covers huncovered

theorem saveAll_ok {rows : List Payment} (h : rows.foldlM savePayment s = .ok t) :
    t = { s with payments := s.payments.putAll rows } := by
  induction rows generalizing s with
  | nil => exact (pure_ok.mp h).symm
  | cons _ _ ih =>
    rw [foldlM_cons, bind_ok] at h
    obtain ⟨_, hsaved, hrest⟩ := h
    obtain rfl := savePayment_ok hsaved
    exact ih hrest

theorem writeMerchant_get?
    {merchant : MerchantSettings} {merchants : Table MerchantSettings} {makerspaceId : Nat}
    (h : writeMerchant s merchant = .ok merchants) (hne : makerspaceId ≠ merchant.makerspaceId) :
    merchants.get? makerspaceId = s.merchants.get? makerspaceId := by
  unfold writeMerchant at h
  split at h
  case h_1 =>
    obtain rfl := pure_ok.mp h
    exact get?_put_of_ne s.merchants hne
  case h_2 =>
    obtain ⟨hnew, rfl⟩ := insertNew_ok.mp h
    exact (get?_insert hnew makerspaceId).trans (if_neg hne)

theorem forMakerspace_makerspaceId (s : State) (makerspaceId : Nat) :
    (forMakerspace s makerspaceId).makerspaceId = makerspaceId := by
  unfold forMakerspace
  cases hget : s.merchants.get? makerspaceId with
  | none => rfl
  | some => exact key_of_get? hget

theorem apart_of_saveCredentials (h : saveCredentials s edit scope = .ok t) :
    Apart [scope.key] s t := by
  cases scope with
  | makerspace makerspaceId =>
    simp [saveCredentials] at h
    obtain ⟨_, hmerchants, rfl⟩ := h
    refine ⟨?_, fun _ => ⟨rfl, rfl⟩, fun _ _ => rfl, fun _ _ => rfl⟩
    intro otherId hfree
    refine writeMerchant_get? hmerchants ?_
    rintro rfl
    refine hfree (mem_singleton.mpr ?_)
    rw [Scope.key, show (edit.set (forMakerspace s makerspaceId)).makerspaceId = makerspaceId
      from forMakerspace_makerspaceId s makerspaceId]
  | platform =>
    simp [saveCredentials] at h
    subst h
    exact ⟨fun _ _ => rfl, fun hfree => absurd (mem_singleton.mpr rfl) hfree,
      fun _ _ => rfl, fun _ _ => rfl⟩

theorem mem_sessions :
    payment ∈ scope.sessions s ↔ payment ∈ s.payments ∧ scope.looksUp payment = true :=
  mem_filter

theorem covers_of_looksUp (h : scope.looksUp payment) :
    scope.covers payment = true := by
  simp [Scope.looksUp] at h
  exact h.1.1.1

theorem sessions_putAll (hne : other ≠ scope) (l : List Payment)
    (hl : ∀ payment ∈ l, payment ∈ scope.sessions s) :
    (s.payments.putAll (l.map fun payment => payment.expireSession now)).rows.filter
      other.looksUp = s.payments.rows.filter other.looksUp := by
  induction l using List.reverseRecOn with
  | nil => rfl
  | append_singleton _ payment ih =>
    rw [map_append, putAll_append]
    obtain ⟨hmem, hlooked⟩ := mem_sessions.mp (hl payment (by simp))
    have hother : other.looksUp payment = false := by
      refine looksUp_of_not_covers ?_
      by_contra hcovers
      exact hne (scope_unique (Bool.eq_true_of_not_eq_false hcovers) (covers_of_looksUp hlooked))
    refine (filter_put ?_ ?_).trans (ih fun p hp => hl p (by simp [hp]))
    · simp [Scope.looksUp, Payment.expireSession]
    · intro row hrow hsame
      rcases mem_of_mem_putAll hrow with hexpired | ⟨hold, -⟩
      · obtain ⟨_, -, rfl⟩ := mem_map.mp hexpired
        simp [Scope.looksUp, Payment.expireSession]
      · obtain rfl : row = payment := eq_of_key_eq hold hmem hsame
        exact hother

theorem apart_of_change {answer : Nat → ClosingAnswer} {closed : List Payment}
    (hvalid : validateCredentialChanges s scope edit answer now = .ok closed)
    (h : commitChange s scope edit closed = .ok t) :
    Apart ((RailRequest.change scope edit answer now).locked s) s t := by
  simp [commitChange] at h
  obtain ⟨_, hloop, hsave⟩ := h
  obtain rfl := saveAll_ok hloop
  have hrows := saveCredentials_payments hsave
  have hsettings := apart_of_saveCredentials hsave
  have hscope (k : RailKey) (hfree : k ∉ (RailRequest.change scope edit answer now).locked s) :
      k ∉ [scope.key] := by
    rintro hk
    obtain rfl := mem_singleton.mp hk
    exact hfree mem_cons_self
  have hclosed : closed = [] ∨ (scope.changedFields s edit ≠ [] ∧
      closed = (scope.sessions s).map fun payment => payment.expireSession now) := by
    rcases validateCredentialChanges_ok.mp hvalid with ⟨-, rfl⟩ | ⟨hchanged, -, rfl⟩
    · exact .inl rfl
    · exact .inr ⟨hchanged, rfl⟩
  refine ⟨?_, ?_, ?_, ?_⟩
  · exact fun makerspaceId hfree => hsettings.merchants makerspaceId (hscope _ hfree)
  · exact fun hfree => hsettings.platform (hscope _ hfree)
  · intro paymentId hfree
    rw [hrows]
    refine get?_putAll_of_notMem ?_
    rcases hclosed with rfl | ⟨hchanged, rfl⟩
    · exact not_mem_nil
    · intro hmem
      refine hfree (mem_cons_of_mem _ ?_)
      rw [if_neg hchanged]
      simp at hmem
      obtain ⟨payment, hpayment, rfl⟩ := hmem
      exact mem_map.mpr ⟨payment, hpayment, rfl⟩
  · intro other hfree
    have hne : other ≠ scope := by
      rintro rfl
      exact hfree mem_cons_self
    simp only [Scope.sessions, hrows]
    rcases hclosed with rfl | ⟨-, rfl⟩
    · rfl
    · exact sessions_putAll hne _ fun _ hpayment => hpayment

theorem apart_of_write {request : RailRequest} {w : RailCommit}
    (hdecide : request.decides s = .ok w) (hwrite : w.make s = .ok t) :
    Apart (request.locked s) s t := by
  cases request with
  | checkout =>
    simp [RailRequest.decides] at hdecide
    obtain ⟨payment, hget, _, hcheckout, rfl⟩ := hdecide
    simp only [RailRequest.locked, hget, Option.elim_some]
    exact apart_of_charge (mem_of_get? hget)
      (charges_of_decideCheckout (stored_makerspace payment) hcheckout) hwrite
  | intent =>
    simp [RailRequest.decides] at hdecide
    obtain ⟨payment, hget, _, hintent, rfl⟩ := hdecide
    simp only [RailRequest.locked, hget, Option.elim_some]
    exact apart_of_charge (mem_of_get? hget)
      (charges_of_decideIntent (stored_makerspace payment) hintent) hwrite
  | change =>
    simp [RailRequest.decides] at hdecide
    obtain ⟨_, hvalid, rfl⟩ := hdecide
    exact apart_of_change hvalid hwrite

end

section Interleavings

variable {s t : State} {keys : List RailKey} {payment : Payment} {scope : Scope} {now : Int}

theorem Apart.rows {request : RailRequest} {paymentId : Nat}
    (hapart : Apart keys s t) (hget : s.payments.get? paymentId = some payment)
    (hlocked : request.locked s = payment.rowKeys) (hdisjoint : ∀ k ∈ request.locked s, k ∉ keys) :
    t.payments.get? paymentId = some payment ∧
      t.merchants.get? payment.makerspaceId = s.merchants.get? payment.makerspaceId := by
  have hid : payment.id = paymentId := key_of_get? hget
  constructor
  · rw [hapart.payments paymentId (hdisjoint _ ?_), hget]
    simp [hlocked, Payment.rowKeys, hid]
  · refine hapart.merchants payment.makerspaceId (hdisjoint _ ?_)
    simp [hlocked, Payment.rowKeys]

theorem Apart.changedFields
    (hapart : Apart keys s t) (hfree : scope.key ∉ keys) (edit : CredentialChange) :
    scope.changedFields t edit = scope.changedFields s edit := by
  cases scope with
  | makerspace makerspaceId =>
    simp [Scope.changedFields, Scope.stored, hapart.merchants makerspaceId hfree]
  | platform =>
    obtain ⟨hsecret, hwebhook⟩ := hapart.platform hfree
    simp [Scope.changedFields, Scope.stored, hsecret, hwebhook]

/-- What a request has decided under its locks stands until it commits. -/
theorem onlineRails_independent : onlineRails.Independent fun _ => True := by
  intro s t request other v w _ hlocks hdecide hother hwrite
  have hapart : Apart (other.locked s) s t := apart_of_write hother hwrite
  cases request with
  | checkout paymentId gate account session =>
    obtain ⟨payment, hget⟩ : ∃ payment, s.payments.get? paymentId = some payment := by
      simp [onlineRails, RailRequest.decides] at hdecide
      obtain ⟨payment, hget, -⟩ := hdecide
      exact ⟨payment, hget⟩
    have hlocked : (RailRequest.checkout paymentId gate account session).locked s =
        payment.rowKeys := by
      simp [RailRequest.locked, hget]
    obtain ⟨hpayment, hmerchant⟩ := hapart.rows hget hlocked hlocks
    constructor
    · rw [← hdecide]
      simp only [onlineRails, RailRequest.decides, hpayment, hget, orRefuse_some]
      change (do
        let write ← decideCheckout payment (t.merchants.get? payment.makerspaceId) gate account
          session
        return RailCommit.charge write) = _
      rw [hmerchant]
      rfl
    · simp [onlineRails, RailRequest.locked, hpayment, hget]
  | intent paymentId gate account answer =>
    obtain ⟨payment, hget⟩ : ∃ payment, s.payments.get? paymentId = some payment := by
      simp [onlineRails, RailRequest.decides] at hdecide
      obtain ⟨payment, hget, -⟩ := hdecide
      exact ⟨payment, hget⟩
    have hlocked : (RailRequest.intent paymentId gate account answer).locked s = payment.rowKeys := by
      simp [RailRequest.locked, hget]
    obtain ⟨hpayment, hmerchant⟩ := hapart.rows hget hlocked hlocks
    constructor
    · rw [← hdecide]
      simp only [onlineRails, RailRequest.decides, hpayment, hget, orRefuse_some]
      change (do
        let write ← decideIntent payment (t.merchants.get? payment.makerspaceId) gate account answer
        return RailCommit.charge write) = _
      rw [hmerchant]
      rfl
    · simp [onlineRails, RailRequest.locked, hpayment, hget]
  | change scope edit =>
    have hfree : scope.key ∉ other.locked s := hlocks _ mem_cons_self
    have hchanged := hapart.changedFields hfree edit
    have hsessions := hapart.sessions scope hfree
    constructor
    · rw [← hdecide]
      simp [onlineRails, RailRequest.decides, validateCredentialChanges, hchanged, hsessions]
    · simp [onlineRails, RailRequest.locked, hchanged, hsessions]

theorem unexpired_serial : Preserves onlineRails.serial Unexpired := by
  intro s request t h hstep
  cases request with
  | checkout paymentId gate account session =>
    rw [serial_checkout] at hstep
    exact unexpired_preserved (v := signedBodies)
      (a := .ledger (.createCheckout paymentId gate account session)) h hstep
  | intent paymentId gate account answer =>
    rw [serial_intent] at hstep
    exact unexpired_preserved (v := signedBodies)
      (a := .ledger (.createIntent paymentId gate account answer)) h hstep
  | change scope edit answer now =>
    rw [serial_change] at hstep
    exact unexpired_preserved (v := signedBodies)
      (a := .changeCredentials scope edit answer now) h hstep

/-- The payment can still be paid through Stripe. -/
def Payment.open (payment : Payment) : Prop :=
  payment.status = .pending ∧
    (payment.stripeCheckoutSessionId ≠ none ∨ payment.stripePaymentIntentId ≠ none)

/-- A committed change ends the sessions it looked up, no more. -/
theorem change_commits {edit : CredentialChange} {answer : Nat → ClosingAnswer}
    (hchanged : scope.changedFields s edit ≠ [])
    (h : updateCredentials s scope edit answer now = .ok t) (paymentId : Nat) :
    t.payments.get? paymentId = (s.payments.get? paymentId).map fun payment =>
      if scope.looksUp payment then payment.expireSession now else payment := by
  simp [updateCredentials, commitChange] at h
  obtain ⟨_, hvalid, _, hloop, hsave⟩ := h
  obtain rfl := saveAll_ok hloop
  rw [saveCredentials_payments hsave]
  rcases validateCredentialChanges_ok.mp hvalid with ⟨hnone, -⟩ | ⟨-, -, rfl⟩
  · exact absurd hnone hchanged
  have hkeys : ((scope.sessions s).map fun payment => payment.expireSession now).map key =
      (scope.sessions s).map key := by
    rw [map_map]
    rfl
  cases hget : s.payments.get? paymentId with
  | none =>
    have hsome : ((s.payments.putAll ((scope.sessions s).map fun payment =>
        payment.expireSession now)).get? paymentId).isSome =
          (s.payments.get? paymentId).isSome := get?_putAll_isSome
    rw [hget] at hsome
    exact Option.not_isSome_iff_eq_none.mp (by rw [hsome]; exact Bool.false_ne_true)
  | some payment =>
    obtain ⟨hmem, rfl⟩ := get?_eq_some.mp hget
    rw [Option.map_some]
    by_cases hlooked : scope.looksUp payment = true
    · rw [if_pos hlooked]
      have hsession : payment ∈ scope.sessions s := mem_sessions.mpr ⟨hmem, hlooked⟩
      have hnodup : ((scope.sessions s).map key).Nodup :=
        s.payments.nodup.sublist (filter_sublist.map key)
      have hsame : key (payment.expireSession now) = key payment := rfl
      refine get?_putAll_of_mem (hkeys ▸ hnodup) (mem_map_of_mem hsession) ?_
      rw [hsame, hget]
      rfl
    · rw [if_neg hlooked, get?_putAll_of_notMem, hget]
      rw [hkeys]
      intro hin
      obtain ⟨other, hother, hsame⟩ := mem_map.mp hin
      obtain ⟨hotherMem, hotherLooked⟩ := mem_sessions.mp hother
      obtain rfl : other = payment := eq_of_key_eq hotherMem hmem hsame
      exact hlooked hotherLooked

theorem open_after_change (hcovers : scope.covers payment = true)
    (hlive : payment.status = .pending → payment.stripeCheckoutSessionId ≠ none →
      payment.stripeCheckoutSessionExpiredAt = none) :
    (if scope.looksUp payment then payment.expireSession now else payment).open ↔
      payment.status = .pending ∧ payment.stripePaymentIntentId ≠ none := by
  by_cases hlooked : scope.looksUp payment = true
  · rw [if_pos hlooked]
    constructor
    · rintro ⟨hpending, hsession | hintent⟩
      · exact absurd rfl hsession
      · exact ⟨hpending, hintent⟩
    · rintro ⟨hpending, hintent⟩
      exact ⟨hpending, .inr hintent⟩
  · rw [if_neg hlooked]
    constructor
    · rintro ⟨hpending, hsession | hintent⟩
      · refine absurd ?_ hlooked
        simp [Scope.looksUp, hcovers, hlive hpending hsession, hpending,
          Option.isSome_iff_ne_none.mpr hsession]
      · exact ⟨hpending, hintent⟩
    · rintro ⟨hpending, hintent⟩
      exact ⟨hpending, .inr hintent⟩

theorem covers_after_change (payment : Payment) :
    scope.covers (if scope.looksUp payment then payment.expireSession now else payment) =
      scope.covers payment := by
  split
  · exact covers_congr rfl scope
  · rfl

/-- **Rotation.** A committed change leaves no open charge exactly when no payment charged under the
old credentials has an intent. -/
theorem rotation_of_path
    {ι : Type} [DecidableEq ι] {c : Shared State ι RailRequest RailKey RailCommit}
    {i : ι} {scope : Scope} {edit : CredentialChange} {answer : Nat → ClosingAnswer} {now : Int}
    {held : List RailKey} {w : RailCommit} (h : Unexpired s) (hpath : Path onlineRails (atRest s) c)
    (hdecided : c.session i = .decided (.change scope edit answer now) held w)
    (hchanged : scope.changedFields c.state edit ≠ []) (hwrite : w.make c.state = .ok t) :
    (∀ payment ∈ t.payments, scope.covers payment → ¬ payment.open) ↔
      ∀ payment ∈ c.state.payments, scope.covers payment → payment.status = .pending →
        payment.stripePaymentIntentId = none := by
  obtain ⟨-, -, hisolated⟩ := serializable onlineRails_independent
    (fun _ _ _ _ _ => trivial) trivial hpath
  have hunexpired : Unexpired c.state :=
    invariant_of_path (I := Unexpired) (fun _ _ _ _ _ _ _ hlocks hdecide hother hput =>
      onlineRails_independent trivial hlocks hdecide hother hput) unexpired_serial h hpath
  have hserial : onlineRails.serial c.state (.change scope edit answer now) = .ok t :=
    serial_ok.mpr ⟨w, (hisolated.stands i _ held w hdecided).1, hwrite⟩
  rw [serial_change] at hserial
  have hrows := change_commits hchanged hserial
  constructor
  · intro hclosed payment hpayment hcovers hpending
    by_contra hintent
    have hget : t.payments.get? payment.id = _ := hrows payment.id
    rw [show c.state.payments.get? payment.id = some payment from get?_key hpayment,
      Option.map_some] at hget
    refine hclosed _ (mem_of_get? hget) ?_ ?_
    · rw [covers_after_change]
      exact hcovers
    · exact (open_after_change hcovers (hunexpired payment hpayment)).mpr ⟨hpending, hintent⟩
  · intro hnone after hafter hcovers hopen
    have hget := hrows after.id
    rw [show t.payments.get? after.id = some after from get?_key hafter] at hget
    obtain ⟨payment, hpayment, rfl⟩ := Option.map_eq_some_iff.mp hget.symm
    have hmem : payment ∈ c.state.payments := mem_of_get? hpayment
    rw [covers_after_change] at hcovers
    obtain ⟨hpending, hintent⟩ := (open_after_change hcovers (hunexpired payment hmem)).mp hopen
    exact hintent (hnone payment hmem hcovers hpending)

def newWebhookSecret : CredentialChange where
  stripeWebhookSecret := some "whsec-new"

/-- The session is closed and the secret changes: nothing stays open. -/
theorem rotation_of_path_indebted :
    ∃ t, updateCredentials indebted (.makerspace 1) newWebhookSecret (fun _ => {}) 5 = .ok t ∧
      ∀ payment ∈ t.payments, (Scope.makerspace 1).covers payment → ¬ payment.open := by
  obtain ⟨w, t, hdecide, hwrite⟩ : ∃ w t,
      onlineRails.decide indebted (.change (.makerspace 1) newWebhookSecret (fun _ => {}) 5) =
        .ok w ∧ w.make indebted = .ok t := ⟨_, _, rfl, rfl⟩
  have hunexpired : Unexpired indebted := by
    intro payment hpayment
    obtain rfl : payment = debt := mem_singleton.mp hpayment
    exact fun _ _ => rfl
  have hchanged : (Scope.makerspace 1).changedFields indebted newWebhookSecret ≠ [] := by decide
  have hclosed := rotation_of_path hunexpired (path_of_decide true hdecide)
    (Shared.session_set _ true _) hchanged hwrite
  refine ⟨t, ?_, hclosed.mpr ?_⟩
  · rw [← serial_change]
    exact serial_ok.mpr ⟨w, hdecide, hwrite⟩
  · intro payment hpayment _ _
    obtain rfl : payment = debt := mem_singleton.mp hpayment
    rfl

def intentPaid : Verifier :=
  { signedBodies with
    constructEvent := fun body signature secret =>
      if signature = secret ++ body then
        some { id := body, type := "payment_intent.succeeded", objectId := "pi_1" }
      else none }

/-- The secret changes with an intent open, whose payment is refused. -/
theorem rotation_strands_intent :
    ∃ (c : Shared State Bool RailRequest RailKey RailCommit) (held : List RailKey)
      (w : RailCommit) (t : State),
      Path onlineRails (atRest unclaimedDebt) c ∧ c.session true =
          .decided (.change (.makerspace 1) newWebhookSecret (fun _ => {}) 5) held w ∧
        w.make c.state = .ok t ∧
        (∃ payment ∈ t.payments, (Scope.makerspace 1).covers payment ∧ payment.open) ∧
        (stripeWebhook intentPaid c.state 1 "evt_1" "whsecevt_1" true 6).toBool = true ∧
        (stripeWebhook intentPaid t 1 "evt_1" "whsecevt_1" true 6).toBool = false := by
  obtain ⟨u, hserial, w, t, hdecide, hwrite, hopen, hverified, hrefused⟩ :
      ∃ u, onlineRails.serial unclaimedDebt (.intent 1 (.ok ()) none (some "pi_1")) = .ok u ∧
        ∃ w t, onlineRails.decide u (.change (.makerspace 1) newWebhookSecret (fun _ => {}) 5) =
            .ok w ∧ w.make u = .ok t ∧
          (∃ payment ∈ t.payments, (Scope.makerspace 1).covers payment ∧ payment.open) ∧
          (stripeWebhook intentPaid u 1 "evt_1" "whsecevt_1" true 6).toBool = true ∧
          (stripeWebhook intentPaid t 1 "evt_1" "whsecevt_1" true 6).toBool = false := by
    refine ⟨_, rfl, _, _, rfl, rfl, ⟨_, mem_cons_self, ?_, rfl, .inr ?_⟩, ?_, ?_⟩
    · decide
    · decide
    · decide +kernel
    · decide +kernel
  exact ⟨_, _, w, t, (path_of_serial true hserial).trans (path_of_decide true hdecide),
    Shared.session_set _ true _, hwrite, hopen, hverified, hrefused⟩

end Interleavings

end Payments
end SpaceWorks
