import SpaceWorks.Lending.Stock

/-!
# What becomes of handed-out units on record

Requests that left review keep their products and issued units in every operation, loans all but
their status.  Stock keeping touches neither (`SameBooks`).
-/

namespace SpaceWorks
namespace Lending

open Checked Availability TransactionalSystem Table Option

variable {s t u : State}

/-- The request is neither pending nor accepted. -/
def RequestStatus.leftReview (status : RequestStatus) : Prop :=
  status ≠ .pendingApproval ∧ status ≠ .accepted

def HardwareRequest.handed (request : HardwareRequest) : List (Nat × Int) :=
  request.items.rows.map fun item => (item.productId, item.issued)

/-- Handed-over requests keep issued units, loans all but their status. -/
structure KeepsHandouts (s t : State) : Prop where
  requests : ∀ {id request}, s.requests.get? id = some request → request.status.leftReview →
    ∃ new, t.requests.get? id = some new ∧ new.status.leftReview ∧ new.handed = request.handed
  loans : ∀ {id loan}, s.loans.get? id = some loan →
    ∃ status, t.loans.get? id = some { loan with status := status }

structure SameBooks (s t : State) : Prop where
  requests : t.requests = s.requests
  loans : t.loans = s.loans

theorem SameBooks.refl (s : State) : SameBooks s s := ⟨rfl, rfl⟩

theorem SameBooks.trans (h : SameBooks s t) (h' : SameBooks t u) : SameBooks s u :=
  ⟨h'.requests.trans h.requests, h'.loans.trans h.loans⟩

theorem KeepsHandouts.refl (s : State) : KeepsHandouts s s where
  requests hget hleft := ⟨_, hget, hleft, rfl⟩
  loans {_ loan} hget := ⟨loan.status, hget⟩

theorem KeepsHandouts.trans (h : KeepsHandouts s t) (h' : KeepsHandouts t u) :
    KeepsHandouts s u where
  requests hget hleft := by
    obtain ⟨_, hmiddle, hleft', hhanded⟩ := h.requests hget hleft
    obtain ⟨new, hnew, hleft'', hhanded'⟩ := h'.requests hmiddle hleft'
    exact ⟨new, hnew, hleft'', hhanded'.trans hhanded⟩
  loans hget := by
    obtain ⟨_, hmiddle⟩ := h.loans hget
    obtain ⟨status', hnew⟩ := h'.loans hmiddle
    exact ⟨status', hnew⟩

theorem SameBooks.keeps (h : SameBooks s t) : KeepsHandouts s t where
  requests hget hleft := ⟨_, h.requests ▸ hget, hleft, rfl⟩
  loans {_ loan} hget := ⟨loan.status, h.loans ▸ hget⟩

theorem keepsHandouts_put {new : HardwareRequest}
    (hnew : ∀ old, s.requests.get? new.id = some old → old.status.leftReview →
      new.status.leftReview ∧ new.handed = old.handed) (hrequests : t.requests = s.requests.put new)
    (hloans : t.loans = s.loans) :
    KeepsHandouts s t where
  requests {id request} hget hleft := by
    rw [hrequests, get?_put]
    by_cases hid : id = new.id
    · subst hid
      obtain ⟨hleft', hhanded⟩ := hnew request hget hleft
      exact ⟨new, by simp [hget], hleft', hhanded⟩
    · exact ⟨request, by simp [hid, hget], hleft, rfl⟩
  loans {_ loan} hget := ⟨loan.status, hloans ▸ hget⟩

theorem keepsHandouts_saveLoan {loan new : PublicToolLoan} (hget : s.loans.get? new.id = some loan)
    (hsame : { new with status := loan.status } = loan) :
    KeepsHandouts s (s.saveLoan new) where
  requests hrequest hleft := ⟨_, hrequest, hleft, rfl⟩
  loans {id other} hother := by
    rw [State.saveLoan, get?_put]
    by_cases hid : id = new.id
    · subst hid
      obtain rfl : loan = other := some.inj (hget.symm.trans hother)
      refine ⟨new.status, ?_⟩
      rw [← hsame]
      simp [hget]
    · exact ⟨other.status, by simp [hid, hother]⟩

theorem KeepsHandouts.closeLoan (h : KeepsHandouts s t) {loanId : Nat} {loan : PublicToolLoan}
    (hget : s.loans.get? loanId = some loan) (status : LoanStatus) :
    KeepsHandouts s (t.saveLoan { loan with status := status }) := by
  obtain ⟨_, hkept⟩ := h.loans (get?_key (mem_of_get? hget))
  exact h.trans (keepsHandouts_saveLoan hkept rfl)

theorem keepsHandouts_insertRequest {request : HardwareRequest}
    (hfresh : s.requests.get? (key request) = none)
    (hrequests : t.requests = s.requests.insert request hfresh) (hloans : t.loans = s.loans) :
    KeepsHandouts s t where
  requests {id old} hget hleft := by
    have hne : id ≠ key request := by
      rintro rfl
      exact absurd (hfresh.symm.trans hget) (by simp)
    refine ⟨old, ?_, hleft, rfl⟩
    rw [hrequests, get?_insert hfresh, if_neg hne]
    exact hget
  loans {_ loan} hget := ⟨loan.status, hloans ▸ hget⟩

theorem keepsHandouts_insertLoan {loan : PublicToolLoan} (hfresh : s.loans.get? (key loan) = none)
    (hrequests : t.requests = s.requests) (hloans : t.loans = s.loans.insert loan hfresh) :
    KeepsHandouts s t where
  requests hget hleft := ⟨_, hrequests ▸ hget, hleft, rfl⟩
  loans {id old} hget := by
    have hne : id ≠ key loan := by
      rintro rfl
      exact absurd (hfresh.symm.trans hget) (by simp)
    refine ⟨old.status, ?_⟩
    rw [hloans, get?_insert hfresh, if_neg hne]
    exact hget

section

variable {productId : Nat} {deltaAvailable deltaDamaged deltaLost : Int}
  {product : InventoryProduct} {asset : InventoryAsset} {q : State × HardwareRequest}
  {requesterId : Nat} {items : List (Nat × Int)} {boxCode : String}

theorem sameBooks_foldlM {γ : Type} {f : State → γ → Except Refusal State} {xs : List γ}
    (hstep : ∀ s x s', f s x = .ok s' → SameBooks s s') (h : xs.foldlM f s = .ok t) :
    SameBooks s t :=
  foldlM_preserves (fun m x m' _ hm hturn => hm.trans (hstep m x m' hturn)) (SameBooks.refl s) h

theorem sameBooks_post {postings : List StockPosting} (h : s.post postings = .ok t) :
    SameBooks s t := by
  simp [State.post] at h
  obtain ⟨_, -, rfl⟩ := h
  exact ⟨rfl, rfl⟩

theorem sameBooks_applyDeltas {refusal : String}
    (h : applyDeltas refusal s productId deltaAvailable deltaDamaged deltaLost = .ok t) :
    SameBooks s t := by
  simp [applyDeltas] at h
  obtain ⟨_, -, -, -, rfl⟩ := h
  exact ⟨rfl, rfl⟩

theorem sameBooks_adjust
    (h : adjustManualQuantities s productId deltaAvailable deltaDamaged deltaLost = .ok t) :
    SameBooks s t := by
  simp only [adjustManualQuantities, bind_ok] at h
  obtain ⟨_, -, -, -, h⟩ := h
  exact sameBooks_applyDeltas h

theorem sameBooks_reconcile {p : State × InventoryProduct}
    (h : reconcileIndividualProductFromAssets s product = .ok p) :
    SameBooks s p.1 := by
  simp only [reconcileIndividualProductFromAssets] at h
  split at h
  · rw [pure_ok] at h
    subst h
    exact SameBooks.refl s
  · simp at h
    obtain ⟨-, -, rfl⟩ := h
    exact ⟨rfl, rfl⟩

theorem sameBooks_moveAssetStatus {newStatus : AssetStatus}
    (h : moveAssetStatus s asset newStatus = .ok t) :
    SameBooks s t := by
  simp only [moveAssetStatus] at h
  split at h
  · rw [pure_ok] at h
    exact h ▸ SameBooks.refl s
  · simp only [bind_ok, pure_ok] at h
    obtain ⟨_, -, _, -, _, -, _, hreconcile, -, -, rfl⟩ := h
    exact (sameBooks_reconcile hreconcile).trans ⟨rfl, rfl⟩

theorem sameBooks_changeTrackingMode {trackingMode : TrackingMode}
    (h : Availability.changeTrackingMode s productId trackingMode = .ok t) :
    SameBooks s t := by
  simp [Availability.changeTrackingMode] at h
  obtain ⟨_, -, h⟩ := h
  split at h
  · rw [pure_ok] at h
    exact h ▸ SameBooks.refl s
  · simp at h
    obtain ⟨-, -, rfl⟩ := h
    exact ⟨rfl, rfl⟩

theorem sameBooks_assetFix
    {assetId : Nat} {action : AssetFixAction} (h : assetFixAction s assetId action = .ok t) :
    SameBooks s t := by
  simp only [assetFixAction, bind_ok] at h
  obtain ⟨_, -, -, -, h⟩ := h
  exact sameBooks_moveAssetStatus h

variable {p : State × Nat} {qrId makerspaceId newProductId : Nat}
variable {destinationProductId : Option Nat}

theorem sameBooks_createAssetQr
    {qr : Nat × String} (h : createAssetQr s asset qr = .ok t) :
    SameBooks s t := by
  simp only [createAssetQr] at h
  split at h
  · rw [pure_ok] at h
    exact h ▸ SameBooks.refl s
  · simp at h
    obtain ⟨-, -, _, -, rfl⟩ := h
    exact ⟨rfl, rfl⟩

theorem sameBooks_createUnit {q : State × Nat} {unit : NewUnit}
    (h : createUnit product p unit = .ok q) :
    SameBooks p.1 q.1 := by
  simp only [createUnit, bind_ok, pure_ok] at h
  obtain ⟨-, -, _, -, _, hqr, rfl⟩ := h
  have hcoded := sameBooks_createAssetQr hqr
  exact ⟨hcoded.requests, hcoded.loans⟩

theorem sameBooks_generateAssets
    {productId count : Nat} {relabelled : List (Nat × String)} {units : List NewUnit}
    (h : generateAssetsWithQr s productId count relabelled units = .ok t) :
    SameBooks s t := by
  simp only [generateAssetsWithQr, bind_ok, pure_ok] at h
  obtain ⟨-, -, m, hmode, _, -, -, -, labelled, hlabelled, p, hunits, _, hreconcile, rfl⟩ := h
  have hcreated : SameBooks labelled p.1 :=
    foldlM_preserves (I := fun p : State × Nat => SameBooks labelled p.1)
      (fun _ _ _ _ hp hturn => hp.trans (sameBooks_createUnit hturn)) (SameBooks.refl labelled)
      hunits
  have hcoded : SameBooks m labelled :=
    sameBooks_foldlM (fun _ _ _ hturn => sameBooks_createAssetQr hturn) hlabelled
  exact (((sameBooks_changeTrackingMode hmode).trans hcoded).trans hcreated).trans
    (sameBooks_reconcile hreconcile)

theorem sameBooks_rebindQr {targetType : TargetType} {targetId : Nat}
    (h : rebindQrTarget s qrId targetType targetId = .ok t) :
    SameBooks s t := by
  simp [rebindQrTarget] at h
  obtain ⟨_, -, -, -, -, -, _, -, -, -, -, -, rfl⟩ := h
  exact ⟨rfl, rfl⟩

theorem sameBooks_resolveDestinationProduct {source : InventoryProduct}
    (h : resolveDestinationProduct s makerspaceId source destinationProductId newProductId =
      .ok p) :
    SameBooks s p.1 := by
  cases destinationProductId with
  | some =>
    simp [resolveDestinationProduct] at h
    obtain ⟨_, -, -, -, rfl⟩ := h
    exact SameBooks.refl s
  | none =>
    simp only [resolveDestinationProduct, resolveByName, bind_ok] at h
    obtain ⟨-, -, h⟩ := h
    split at h
    · rw [pure_ok] at h
      exact h ▸ SameBooks.refl s
    · simp at h
      obtain ⟨_, -, rfl⟩ := h
      exact ⟨rfl, rfl⟩

theorem sameBooks_rebindAsset {newName : String}
    (h : moveAssetAcrossMakerspaces s qrId makerspaceId destinationProductId newName
      newProductId = .ok t) :
    SameBooks s t := by
  simp only [moveAssetAcrossMakerspaces, bind_ok, mapError_eq_ok] at h
  obtain ⟨_, -, -, -, _, -, -, -, -, -, -, -, _, -, -, -, _, hresolve, -, -, -, -,
    _, hout, hin⟩ := h
  have hresolved := sameBooks_resolveDestinationProduct hresolve
  have hadjusted := (sameBooks_applyDeltas hout).trans (sameBooks_applyDeltas hin)
  exact ⟨hadjusted.requests.trans hresolved.requests, hadjusted.loans.trans hresolved.loans⟩

variable {quantity : Int} {source destination : Option Nat}
variable {makerspaceId assetId newProductId productId destinationMakerspaceId : Nat}
variable {session : StocktakeSession} {line : StocktakeLine}

theorem sameBooks_transferQuantity {sourceId destinationId : Nat}
    (h : transferAvailableQuantity s sourceId destinationId quantity = .ok t) :
    SameBooks s t := by
  simp only [transferAvailableQuantity, bind_ok] at h
  obtain ⟨-, -, h⟩ := h
  split at h
  · rw [pure_ok] at h
    exact h ▸ SameBooks.refl s
  · exact sameBooks_post h

theorem sameBooks_transferToNew {source : InventoryProduct}
    (h : transferToNew s source product quantity = .ok t) :
    SameBooks s t := by
  simp [transferToNew] at h
  obtain ⟨_, -, h⟩ := h
  have hmoved := sameBooks_transferQuantity h
  exact ⟨hmoved.requests, hmoved.loans⟩

theorem sameBooks_transferAsset {fromStatus toStatus : Option AssetStatus}
    (h : transferAsset s makerspaceId source destination assetId fromStatus toStatus = .ok t) :
    SameBooks s t := by
  simp only [transferAsset, bind_ok, pure_ok] at h
  obtain ⟨_, -, -, -, -, -, -, -, -, -, _, hmove, rfl⟩ := h
  have hmoved := sameBooks_moveAssetStatus hmove
  exact ⟨hmoved.requests, hmoved.loans⟩

theorem sameBooks_splitQuantityStock {source : InventoryProduct}
    (h : splitQuantityStock s source destination quantity newProductId = .ok t) :
    SameBooks s t := by
  simp only [splitQuantityStock] at h
  split at h
  · exact sameBooks_transferQuantity h
  · split at h
    · rw [pure_ok] at h
      exact h ▸ ⟨rfl, rfl⟩
    · exact sameBooks_transferToNew h

theorem sameBooks_transferProduct
    (h : transferProduct s makerspaceId source destination productId quantity newProductId =
      .ok t) :
    SameBooks s t := by
  simp only [transferProduct, bind_ok] at h
  obtain ⟨_, -, -, -, -, -, -, -, -, -, h⟩ := h
  exact sameBooks_splitQuantityStock h

theorem sameBooks_transferAcross
    (h : transferAcross s makerspaceId destinationMakerspaceId destination productId quantity
      newProductId = .ok t) :
    SameBooks s t := by
  simp only [transferAcross, bind_ok] at h
  obtain ⟨_, -, -, -, -, -, -, -, h⟩ := h
  split at h
  · simp only [bind_ok] at h
    obtain ⟨-, -, h⟩ := h
    exact sameBooks_transferQuantity h
  · exact sameBooks_transferToNew h

theorem sameBooks_transferLine {line : TransferLine}
    (h : transferLine makerspaceId destinationMakerspaceId source destination s line = .ok t) :
    SameBooks s t := by
  cases line with
  | asset =>
    simp only [transferLine] at h
    split at h
    · exact sameBooks_transferAsset h
    · simp only [throw_eq_ok] at h
  | product =>
    simp only [transferLine] at h
    split at h
    · exact sameBooks_transferProduct h
    · exact sameBooks_transferAcross h

theorem sameBooks_transfer
    {sourceContainerId destinationContainerId : Option Nat} {lines : List TransferLine}
    (h : applyStockTransfer s makerspaceId destinationMakerspaceId sourceContainerId
      destinationContainerId lines = .ok t) :
    SameBooks s t := by
  simp [applyStockTransfer] at h
  obtain ⟨_, -, _, -, h⟩ := h
  exact sameBooks_foldlM (fun _ _ _ hturn => sameBooks_transferLine hturn) h

theorem sameBooks_applyLedgerEntry {bucket : Condition} {delta : Int}
    (h : applyLedgerEntry s productId bucket delta = .ok t) :
    SameBooks s t := by
  simp only [applyLedgerEntry, mapError_eq_ok] at h
  exact sameBooks_applyDeltas h

theorem sameBooks_applyAssetLine (h : applyAssetLine session s line assetId = .ok t) :
    SameBooks s t := by
  simp only [applyAssetLine, bind_ok] at h
  obtain ⟨_, -, -, -, -, -, -, -, _, -, -, -, -, -, -, -, _, -, h⟩ := h
  split at h
  · rw [pure_ok] at h
    exact h ▸ ⟨rfl, rfl⟩
  · simp at h
    obtain ⟨_, hout, hin⟩ := h
    have hadjusted := (sameBooks_applyLedgerEntry hout).trans (sameBooks_applyLedgerEntry hin)
    exact ⟨hadjusted.requests, hadjusted.loans⟩

theorem sameBooks_applyProductLine (h : applyProductLine session s line productId = .ok t) :
    SameBooks s t := by
  simp only [applyProductLine, bind_ok] at h
  obtain ⟨_, -, -, -, -, -, -, -, -, -, -, -, h⟩ := h
  split at h
  · rw [pure_ok] at h
    exact h ▸ SameBooks.refl s
  · exact sameBooks_applyLedgerEntry h

theorem sameBooks_stocktake (h : applyStocktakeAdjustments s session = .ok t) :
    SameBooks s t := by
  refine sameBooks_foldlM (fun m line m' hturn => ?_) h
  simp only [applyStocktakeLine] at hturn
  split at hturn
  · exact sameBooks_applyAssetLine hturn
  · exact sameBooks_applyProductLine hturn
  · simp only [throw_eq_ok] at hturn

variable {outcome : ReportOutcome}

theorem sameBooks_moveToTriageBucket {productId : Nat} {quantity : Int}
    (h : moveAvailableToTriageBucket s productId quantity outcome = .ok t) :
    SameBooks s t := by
  cases outcome with
  | damaged | missing =>
    simp only [moveAvailableToTriageBucket, bind_ok] at h
    exact sameBooks_applyDeltas h.choose_spec.2
  | needsFix =>
    simp [moveAvailableToTriageBucket, moveAvailableToFixShelf] at h
    obtain ⟨-, -, _, -, -, -, rfl⟩ := h
    exact ⟨rfl, rfl⟩
  | noIssue =>
    simp [moveAvailableToTriageBucket] at h

theorem sameBooks_triageItem {report : PublicProblemReport} {loan : PublicToolLoan}
    {resolution : RequestItem × Int} (h : triageItem report loan outcome s resolution = .ok t) :
    SameBooks s t := by
  simp [triageItem] at h
  obtain ⟨_, -, _, -, m, hmove, rfl⟩ := h
  have hmoved : SameBooks s m := by
    simp only [moveStock] at hmove
    split at hmove
    · simp only [moveIndividualAssets, bind_ok] at hmove
      obtain ⟨-, -, hmove⟩ := hmove
      exact sameBooks_foldlM (fun _ _ _ hturn => sameBooks_moveAssetStatus hturn) hmove
    · exact sameBooks_moveToTriageBucket hmove
  exact ⟨hmoved.requests, hmoved.loans⟩

theorem sameBooks_triage {reportId : Nat} {entries : List (Nat × Int)}
    (h : triageProblemReport s reportId outcome entries = .ok t) :
    SameBooks s t := by
  simp only [triageProblemReport, bind_ok, pure_ok] at h
  obtain ⟨_, -, -, -, m, hstock, rfl⟩ := h
  have htriaged : SameBooks s m := by
    simp only [triageStock] at hstock
    split at hstock
    · rw [pure_ok] at hstock
      exact hstock ▸ SameBooks.refl s
    · simp at hstock
      obtain ⟨_, -, _, -, _, -, hloop⟩ := hstock
      exact sameBooks_foldlM (fun _ _ _ hturn => sameBooks_triageItem hturn) hloop
  exact ⟨htriaged.requests, htriaged.loans⟩

variable {requestId : Nat} {request : HardwareRequest} {p : State × HardwareRequest}
variable {payloads : List String} {rejects : List Reject} {reason : String}

def Stored (s : State) (request : HardwareRequest) : Prop :=
  s.requests.get? request.id = some request

theorem stored_of_get? {locked : HardwareRequest}
    (hget : s.requests.get? requestId = some locked) : Stored s locked :=
  get?_key (mem_of_get? hget)

theorem Stored.of_books (h : Stored s request) (hbooks : SameBooks s t) : Stored t request := by
  unfold Stored
  rw [hbooks.requests]
  exact h

structure HandsOn (s : State) (request : HardwareRequest) (p : State × HardwareRequest) :
    Prop where
  keeps : KeepsHandouts s p.1
  stored : Stored p.1 p.2
  status : p.2.status = request.status

theorem HandsOn.trans
    (h : HandsOn s request p) (h' : HandsOn p.1 p.2 q) : HandsOn s request q where
  keeps := h.keeps.trans h'.keeps
  stored := h'.stored
  status := h'.status.trans h.status

theorem HandsOn.after (h : HandsOn t request p) (hbooks : SameBooks s t) : HandsOn s request p where
  keeps := hbooks.keeps.trans h.keeps
  stored := h.stored
  status := h.status

theorem keepsHandouts_save (new : HardwareRequest) (h : Stored s request)
    (hid : new.id = request.id)
    (hnew : request.status.leftReview → new.status.leftReview ∧ new.handed = request.handed) :
    KeepsHandouts s (s.saveRequest new) := by
  refine keepsHandouts_put ?_ rfl rfl
  intro old hold hleft
  obtain rfl : request = old := some.inj (h.symm.trans (hid ▸ hold))
  exact hnew hleft

theorem keepsHandouts_review {new : HardwareRequest} (h : Stored s request)
    (hid : new.id = request.id) (hreview : ¬ request.status.leftReview) :
    KeepsHandouts s (s.saveRequest new) :=
  keepsHandouts_save new h hid fun hleft => absurd hleft hreview

theorem handsOn_save (h : Stored s request) (hid : p.2.id = request.id)
    (hstatus : p.2.status = request.status)
    (hhanded : request.status.leftReview → p.2.handed = request.handed)
    (hrequests : p.1.requests = s.requests.put p.2) (hloans : p.1.loans = s.loans) :
    HandsOn s request p where
  keeps := (keepsHandouts_save p.2 h hid fun hleft => ⟨hstatus ▸ hleft, hhanded hleft⟩).trans
      (SameBooks.keeps ⟨hrequests, hloans⟩)
  stored := by
    have hold : s.requests.get? (key p.2) = some request := by
      rw [key_request, hid]
      exact h
    unfold Stored
    rw [hrequests]
    exact get?_put_self hold
  status := hstatus

theorem accepted_inReview {status : RequestStatus} (h : status = .accepted) :
    ¬ status.leftReview := fun hleft => hleft.2 h

theorem handsOn_clearUnissuedAssignment (h : Stored s request)
    (hstep : clearUnissuedAssignment s request = .ok p) :
    HandsOn s request p := by
  simp only [clearUnissuedAssignment, bind_ok, require_ok] at hstep
  obtain ⟨-, -, hstep⟩ := hstep
  split at hstep
  · rw [pure_ok] at hstep
    subst hstep
    exact ⟨KeepsHandouts.refl s, h, rfl⟩
  · simp at hstep
    obtain ⟨_, -, -, -, rfl⟩ := hstep
    exact handsOn_save h rfl rfl (fun _ => rfl) rfl rfl

theorem handsOn_issueIndividualAssets (h : Stored s request)
    (haccepted : request.status = .accepted)
    (hstep : issueIndividualAssets s request payloads = .ok p) :
    HandsOn s request p := by
  simp only [issueIndividualAssets] at hstep
  split at hstep
  · rw [pure_ok] at hstep
    subst hstep
    exact ⟨KeepsHandouts.refl s, h, rfl⟩
  · simp at hstep
    obtain ⟨-, -, _, -, -, -, _, -, _, -, rfl⟩ := hstep
    exact handsOn_save h rfl rfl (fun hleft => absurd hleft (accepted_inReview haccepted)) rfl rfl

theorem handsOn_issueItems (h : Stored s request) (haccepted : request.status = .accepted)
    (hstep : issueItems s request rejects = .ok p) :
    HandsOn s request p := by
  simp [issueItems] at hstep
  obtain ⟨_, hpost, rfl⟩ := hstep
  have hbooks := sameBooks_post hpost
  refine (handsOn_save (h.of_books hbooks) rfl rfl ?_ rfl rfl).after hbooks
  intro hleft
  exact absurd hleft (accepted_inReview haccepted)

theorem keepsHandouts_accept {accepted : Option (List (Nat × Int))}
    (hstep : acceptRequest s requestId accepted = .ok t) :
    KeepsHandouts s t := by
  simp only [acceptRequest, State.lockedRequest, reserveForRequest, bind_ok, orRefuse_ok,
    require_ok, pure_ok] at hstep
  obtain ⟨_, hget, -, hpending, -, -, -, -, -, -, _, hpost, rfl⟩ := hstep
  have hbooks := sameBooks_post hpost
  have hstored := (stored_of_get? hget).of_books hbooks
  exact hbooks.keeps.trans (keepsHandouts_review hstored rfl fun hleft => hleft.1 hpending)

theorem keepsHandouts_submit {id makerspaceId : Nat}
    (hstep : submitRequest s id makerspaceId requesterId items = .ok t) :
    KeepsHandouts s t := by
  simp only [submitRequest, createRequest, bind_ok, pure_ok, insertNew_ok] at hstep
  obtain ⟨-, -, -, -, _, ⟨hfresh, rfl⟩, rfl⟩ := hstep
  exact keepsHandouts_insertRequest hfresh rfl rfl

theorem keepsHandouts_reject (hstep : rejectRequest s requestId reason = .ok t) :
    KeepsHandouts s t := by
  simp only [rejectRequest, State.lockedRequest, bind_ok, orRefuse_ok, require_ok, pure_ok] at hstep
  obtain ⟨-, -, _, hget, -, hpending, rfl⟩ := hstep
  exact keepsHandouts_review (stored_of_get? hget) rfl fun hleft => hleft.1 hpending

theorem keepsHandouts_assignBox
    (hstep : Lending.assignBox s requestId boxCode = .ok t) :
    KeepsHandouts s t := by
  simp only [Lending.assignBox, State.lockedRequest, bind_ok, orRefuse_ok, require_ok,
    pure_ok] at hstep
  obtain ⟨locked, hget, -, haccepted, box, -, -, -, rfl⟩ := hstep
  have hsaved : KeepsHandouts s (s.saveRequest { locked with assignedBoxId := some box.id }) :=
    keepsHandouts_review (stored_of_get? hget) rfl (accepted_inReview haccepted)
  exact hsaved.trans (SameBooks.keeps ⟨rfl, rfl⟩)

theorem keepsHandouts_cancel (hstep : cancelRequest s requestId reason = .ok t) :
    KeepsHandouts s t := by
  simp only [cancelRequest, releaseRequestReservation, State.lockedRequest, bind_ok,
    orRefuse_ok, require_ok, pure_ok] at hstep
  obtain ⟨_, hget, -, haccepted, -, -, -, -, _, hclear, _, ⟨-, -, -, -, -, -, -, -, -, -,
    hpost⟩, rfl⟩ := hstep
  have hcleared := handsOn_clearUnissuedAssignment (stored_of_get? hget) hclear
  have hbooks := sameBooks_post hpost
  refine hcleared.keeps.trans (hbooks.keeps.trans ?_)
  exact keepsHandouts_review (hcleared.stored.of_books hbooks) rfl
    (accepted_inReview (hcleared.status.trans haccepted))

theorem keepsHandouts_issue {actorId : Nat} {now : Int}
    (hstep : issueRequest s requestId actorId now payloads rejects = .ok t) :
    KeepsHandouts s t := by
  simp only [issueRequest, State.lockedRequest, bind_ok, orRefuse_ok, require_ok, pure_ok] at hstep
  obtain ⟨_, hget, -, haccepted, -, -, -, -, _, hassets, _, hitems, -, -, rfl⟩ := hstep
  have hassigned := handsOn_issueIndividualAssets (stored_of_get? hget) haccepted hassets
  have hmoved := hassigned.trans
    (handsOn_issueItems hassigned.stored (hassigned.status.trans haccepted) hitems)
  exact hmoved.keeps.trans
    (keepsHandouts_review hmoved.stored rfl (accepted_inReview (hmoved.status.trans haccepted)))

variable {entries : List ResolutionEntry} {resolutions : List Resolution} {resolution : Resolution}
variable {loan : PublicToolLoan} {payload : String} {reportId : Option Nat}

theorem mem_of_buildResolutions (h : buildResolutions s request entries = .ok resolutions) :
    ∀ resolution ∈ resolutions, resolution.item ∈ request.items := by
  simp only [buildResolutions, bind_ok, pure_ok, mapM_eq_ok] at h
  obtain ⟨_, hvalidated, -, -, rfl⟩ := h
  induction hvalidated with
  | nil => simp
  | cons hfirst _ ih =>
    simp only [buildResolution, bind_ok, orRefuse_ok, pure_ok] at hfirst
    obtain ⟨_, hget, -, -, ⟨_, _, _⟩, -, -, -, rfl⟩ := hfirst
    exact List.forall_mem_cons.mpr ⟨mem_of_get? hget, ih⟩

theorem handed_resolve (hmem : ∀ resolution ∈ resolutions, resolution.item ∈ request.items) :
    { request with items := request.items.putAll (resolutions.map resolveItem) }.handed =
      request.handed := by
  refine map_putAll ?_
  intro item hitem old hold
  obtain ⟨resolution, hresolution, rfl⟩ := List.mem_map.mp hitem
  have hget := get?_key (hmem resolution hresolution)
  obtain rfl : resolution.item = old := some.inj (hget.symm.trans hold)
  rfl

theorem handsOn_returnItems (h : Stored s request)
    (hmem : ∀ resolution ∈ resolutions, resolution.item ∈ request.items)
    (hstep : returnItems s request resolutions = .ok p) :
    HandsOn s request p := by
  simp [returnItems] at hstep
  obtain ⟨_, hpost, rfl⟩ := hstep
  have hbooks := sameBooks_post hpost
  refine (handsOn_save (h.of_books hbooks) rfl rfl (fun _ => ?_) rfl rfl).after hbooks
  exact handed_resolve fun resolution hresolution =>
    hmem resolution (List.mem_filter.mp hresolution).1

theorem handsOn_flipReturn (h : Stored p.1 p.2)
    (hstep : flipReturn p resolution = .ok q) :
    HandsOn p.1 p.2 q := by
  simp only [flipReturn] at hstep
  split at hstep
  · simp at hstep
    obtain ⟨_, -, _, -, item, hget, rfl⟩ := hstep
    refine handsOn_save h rfl rfl (fun _ => ?_) rfl rfl
    refine map_put ?_
    intro old hold
    have hkey := get?_key (mem_of_get? hget)
    obtain rfl : item = old := some.inj (hkey.symm.trans hold)
    rfl
  · rw [pure_ok] at hstep
    subst hstep
    exact ⟨KeepsHandouts.refl p.1, h, rfl⟩

theorem finalizeReturnStatus_handed (request : HardwareRequest) :
    (finalizeReturnStatus request).id = request.id ∧
      (finalizeReturnStatus request).status.leftReview ∧
      (finalizeReturnStatus request).handed = request.handed := by
  unfold finalizeReturnStatus
  split
  · split <;> exact ⟨rfl, by simp [RequestStatus.leftReview], rfl⟩
  · exact ⟨rfl, by simp [RequestStatus.leftReview], rfl⟩

theorem keepsHandouts_finalize (h : Stored s request) :
    KeepsHandouts s (s.saveRequest (finalizeReturnStatus request)) := by
  obtain ⟨hid, hleft, hhanded⟩ := finalizeReturnStatus_handed request
  exact keepsHandouts_save _ h hid fun _ => ⟨hleft, hhanded⟩

theorem keepsHandouts_return {requestId : Nat}
    (hstep : returnRequest s requestId boxCode entries = .ok t) :
    KeepsHandouts s t := by
  simp only [returnRequest, flipIndividualAssetReturns, State.lockedRequest, bind_ok,
    orRefuse_ok, pure_ok] at hstep
  obtain ⟨-, -, locked, hget, -, -, _, -, _, hbuild, _, hitems, q, hflips, rfl⟩ := hstep
  have hreturned := handsOn_returnItems (stored_of_get? hget) (mem_of_buildResolutions hbuild)
    hitems
  have hflipped : HandsOn s locked q :=
    foldlM_preserves (fun _ _ _ _ hp hflip => hp.trans (handsOn_flipReturn hp.stored hflip))
      hreturned hflips
  refine hflipped.keeps.trans ((keepsHandouts_finalize hflipped.stored).trans ?_)
  exact SameBooks.keeps ⟨rfl, rfl⟩

theorem sameBooks_flipDirectLoanAssets (h : flipDirectLoanAssets loan s resolution = .ok t) :
    SameBooks s t := by
  simp only [flipDirectLoanAssets] at h
  split at h
  · simp at h
    obtain ⟨_, -, rfl⟩ := h
    exact ⟨rfl, rfl⟩
  · rw [pure_ok] at h
    exact h ▸ SameBooks.refl s

theorem handsOn_resolveDirectLoan (h : Stored s request)
    (hstep : resolveDirectLoan s loan request entries = .ok p) :
    HandsOn s request p := by
  simp only [resolveDirectLoan] at hstep
  split at hstep
  · simp only [bind_ok, pure_ok] at hstep
    obtain ⟨resolutions, hbuild, -, -, q, hitems, m, hflips, rfl⟩ := hstep
    have hreturned := handsOn_returnItems h (mem_of_buildResolutions hbuild) hitems
    have hbooks : SameBooks q.1 m :=
      sameBooks_foldlM (fun _ _ _ hturn => sameBooks_flipDirectLoanAssets hturn) hflips
    have hwritten : SameBooks q.1 (writeAccountability m q.2.id resolutions) :=
      ⟨hbooks.requests, hbooks.loans⟩
    exact ⟨hreturned.keeps.trans hwritten.keeps, hreturned.stored.of_books hwritten,
      hreturned.status⟩
  · simp at hstep
    obtain ⟨-, -, rfl⟩ := hstep
    exact ⟨KeepsHandouts.refl s, h, rfl⟩

theorem keepsHandouts_returnDirectLoan {loanId : Nat}
    (hstep : returnDirectLoan s loanId payload entries = .ok t) :
    KeepsHandouts s t := by
  simp only [returnDirectLoan, State.lockedRequest, bind_ok, orRefuse_ok, pure_ok]
    at hstep
  obtain ⟨-, -, loan, hloan, -, -, -, -, -, -, _, hget, p, hresolve, rfl⟩ := hstep
  have hresolved := handsOn_resolveDirectLoan (stored_of_get? hget) hresolve
  have hlogged : SameBooks p.1 { p.1 with
      returnEvents := p.1.returnEvents ++ [ReturnEvent.mk p.2.id loan.containerId] } := ⟨rfl, rfl⟩
  have hfinal := keepsHandouts_finalize (hresolved.stored.of_books hlogged)
  exact ((hresolved.keeps.trans hlogged.keeps).trans hfinal).closeLoan hloan .returned

theorem handsOn_returnRequestItems (h : Stored s request)
    (hstep : returnRequestItems s request = .ok p) :
    HandsOn s request p := by
  simp [returnRequestItems] at hstep
  obtain ⟨_, hpost, rfl⟩ := hstep
  have hbooks := sameBooks_post hpost
  refine (handsOn_save (h.of_books hbooks) rfl rfl (fun _ => ?_) rfl rfl).after hbooks
  refine map_putAll ?_
  intro item hitem old hold
  obtain ⟨row, hrow, rfl⟩ := List.mem_map.mp hitem
  have hget := get?_key (t := request.items) (List.mem_filter.mp hrow).1
  obtain rfl : row = old := some.inj (hget.symm.trans hold)
  rfl

theorem sameBooks_reportProblem (h : reportProblem s loan reportId = .ok t) :
    SameBooks s t := by
  cases reportId with
  | none =>
    simp [reportProblem] at h
    exact h ▸ SameBooks.refl s
  | some =>
    simp [reportProblem] at h
    obtain ⟨_, -, rfl⟩ := h
    exact ⟨rfl, rfl⟩

theorem keepsHandouts_returnTool {makerspaceId : Nat}
    (hstep : returnTool s makerspaceId requesterId payload reportId = .ok t) :
    KeepsHandouts s t := by
  simp only [returnTool, State.lockedRequest, bind_ok, orRefuse_ok] at hstep
  obtain ⟨_, -, loan, hfind, -, -, _, hget, -, -, assets, -, p, hitems, hreport⟩ := hstep
  have hloan : s.loans.get? loan.id = some loan := get?_key (List.mem_of_find?_eq_some hfind)
  have hreturned := handsOn_returnRequestItems (stored_of_get? hget) hitems
  have hflipped : SameBooks p.1
      (p.1.saveStatuses (assets.map fun asset => (asset, .available))) := ⟨rfl, rfl⟩
  have hclosed := (hreturned.keeps.trans hflipped.keeps).closeLoan hloan .returned
  have hstored : Stored
      ((p.1.saveStatuses (assets.map fun asset => (asset, .available))).saveLoan
        { loan with status := .returned }) p.2 := hreturned.stored
  have hfinal := keepsHandouts_save { p.2 with status := .returned } hstored rfl
    fun _ => ⟨⟨by simp, by simp⟩, rfl⟩
  exact (hclosed.trans hfinal).trans (sameBooks_reportProblem hreport).keeps

variable {handout handout' : Handout} {ids : CheckoutIds}

theorem sameBooks_handoutIssue {productId : Nat} {quantity : Int}
    (h : handout.issue productId quantity = .ok handout') :
    SameBooks handout.state handout'.state := by
  simp [Handout.issue, issueProduct] at h
  obtain ⟨_, hpost, rfl⟩ := h
  exact sameBooks_post hpost

theorem sameBooks_checkoutTarget {requirePublic : Bool} {qr : QrCode}
    (h : checkoutTarget requirePublic handout qr = .ok handout') :
    SameBooks handout.state handout'.state := by
  simp only [checkoutTarget] at h
  split at h
  · simp only [checkoutProduct, bind_ok] at h
    obtain ⟨_, -, -, -, hissue⟩ := h
    exact sameBooks_handoutIssue hissue
  · simp [checkoutAsset] at h
    obtain ⟨_, -, _, hissue, rfl⟩ := h
    have hissued := sameBooks_handoutIssue hissue
    exact ⟨hissued.requests, hissued.loans⟩
  · simp only [checkoutBox, bind_ok, pure_ok] at h
    obtain ⟨_, -, -, -, -, -, -, -, -, -, -, -, issued, hissue, _, -, rfl⟩ := h
    have hissued : SameBooks handout.state issued.state :=
      foldlM_preserves (I := fun next : Handout => SameBooks handout.state next.state)
        (fun _ _ _ _ hm hturn => hm.trans (sameBooks_handoutIssue hturn)) (SameBooks.refl _) hissue
    exact hissued

theorem keepsHandouts_recordHandout {qrs : List QrCode} {source : LoanSource}
    {conflict : String → Refusal} (h : recordHandout handout ids qrs source conflict = .ok t) :
    KeepsHandouts handout.state t := by
  simp only [recordHandout, createLoan, bind_ok, pure_ok, insertNew_ok] at h
  obtain ⟨requests, ⟨hrequest, rfl⟩, -, -, -, -, -, -, _, ⟨hloan, rfl⟩, rfl⟩ := h
  have hadded : KeepsHandouts handout.state { handout.state with
      requests := handout.state.requests.insert _ hrequest } :=
    keepsHandouts_insertRequest hrequest rfl rfl
  exact hadded.trans (keepsHandouts_insertLoan hloan rfl rfl)

theorem keepsHandouts_checkoutTool (hstep : checkoutTool s ids payloads = .ok t) :
    KeepsHandouts s t := by
  simp only [checkoutTool, bind_ok] at hstep
  obtain ⟨-, -, _, -, -, -, -, -, -, -, handout, hloop, hrecord⟩ := hstep
  have hgathered : SameBooks s handout.state :=
    foldlM_preserves (I := fun next : Handout => SameBooks s next.state)
      (fun _ _ _ _ hm hturn => hm.trans (sameBooks_checkoutTarget hturn)) (SameBooks.refl s) hloop
  exact hgathered.keeps.trans (keepsHandouts_recordHandout hrecord)

theorem keepsHandouts_issueDirectLoan {containerId : Option Nat}
    (hstep : issueDirectLoan s ids payloads items containerId = .ok t) :
    KeepsHandouts s t := by
  simp only [issueDirectLoan, bind_ok] at hstep
  obtain ⟨-, -, -, -, _, -, _, -, -, -, -, -, scanned, hscans, handout, hitems,
    hrecord⟩ := hstep
  have hscanned : SameBooks s scanned.state := by
    refine foldlM_preserves (I := fun next : Handout => SameBooks s next.state) ?_
      (SameBooks.refl s) hscans
    intro m qr m' _ hm hturn
    simp only [directTarget, bind_ok] at hturn
    obtain ⟨-, -, -, -, hturn⟩ := hturn
    exact hm.trans (sameBooks_checkoutTarget hturn)
  have hgathered : SameBooks s handout.state := by
    refine foldlM_preserves (I := fun next : Handout => SameBooks s next.state) ?_ hscanned hitems
    intro m item m' _ hm hturn
    simp [directItem] at hturn
    obtain ⟨_, -, hturn⟩ := hturn
    exact hm.trans (sameBooks_handoutIssue hturn)
  exact hgathered.keeps.trans (keepsHandouts_recordHandout hrecord)

end

theorem keepsHandouts_step {op : Operation} (hstep : step s op = .ok t) : KeepsHandouts s t := by
  cases op with
  | submit => exact keepsHandouts_submit hstep
  | accept => exact keepsHandouts_accept hstep
  | reject => exact keepsHandouts_reject hstep
  | assignBox => exact keepsHandouts_assignBox hstep
  | cancel => exact keepsHandouts_cancel hstep
  | issue => exact keepsHandouts_issue hstep
  | returnItems => exact keepsHandouts_return hstep
  | checkoutTool => exact keepsHandouts_checkoutTool hstep
  | returnTool => exact keepsHandouts_returnTool hstep
  | issueDirectLoan => exact keepsHandouts_issueDirectLoan hstep
  | returnDirectLoan => exact keepsHandouts_returnDirectLoan hstep
  | triage => exact (sameBooks_triage hstep).keeps
  | adjust => exact (sameBooks_adjust hstep).keeps
  | repairFromNeedsFix | moveToNeedsFix | scrapFromNeedsFix => exact (sameBooks_post hstep).keeps
  | assetFix => exact (sameBooks_assetFix hstep).keeps
  | changeTrackingMode => exact (sameBooks_changeTrackingMode hstep).keeps
  | generateAssets => exact (sameBooks_generateAssets hstep).keeps
  | transfer =>
    exact (sameBooks_transfer hstep).keeps
  | stocktake => exact (sameBooks_stocktake hstep).keeps
  | rebindQr => exact (sameBooks_rebindQr hstep).keeps
  | rebindAsset =>
    exact (sameBooks_rebindAsset hstep).keeps

theorem keepsHandouts_run (s : State) (ops : List Operation) :
    KeepsHandouts s (run step s ops) :=
  run_relates KeepsHandouts.refl KeepsHandouts.trans keepsHandouts_step s ops

end Lending
end SpaceWorks
