import SpaceWorks.Lending.DirectReturn
import SpaceWorks.Lending.Generation
import SpaceWorks.Lending.SelfCheckout

/-!
# Units in circulation

The reserved and issued units of a quantity-tracked product stand on the items of open requests:
`Squared` says so, and every operation keeps it.
-/

namespace SpaceWorks
namespace Lending

open Checked Quantities Availability TransactionalSystem Table List

variable {s t : State} {productId : Nat}

/-- Columns are sound, items name products, and reserved and issued units are those of accepted
requests and of requests that are out. -/
structure Squared (s : State) : Prop where
  sound : ∀ product ∈ s.products, product.quantities.Sound
  reserved : ∀ product ∈ s.products, product.trackingMode = .quantity →
    product.quantities .reserved = demand s product.id
  issued : ∀ product ∈ s.products, product.trackingMode = .quantity →
    product.quantities .issued = outstanding s product.id
  stocked : ∀ request ∈ s.requests, ∀ item ∈ request.items,
    (s.products.get? item.productId).isSome

section Rules

theorem demand_congr (h : t.requests = s.requests) (productId : Nat) :
    demand t productId = demand s productId ∧ outstanding t productId = outstanding s productId := by
  simp only [demand_eq_sum, outstanding, h, and_self]

/-- A product row agrees with the requests. -/
def Agrees (s : State) (product : InventoryProduct) : Prop :=
  product.quantities.Sound ∧ (product.trackingMode = .quantity →
    product.quantities .reserved = demand s product.id ∧
      product.quantities .issued = outstanding s product.id)

theorem squared_products (h : Squared s)
    (hrows : ∀ product ∈ t.products, product ∈ s.products ∨ Agrees s product)
    (hkept : ∀ productId, (s.products.get? productId).isSome →
      (t.products.get? productId).isSome) (hrequests : t.requests = s.requests) :
    Squared t := by
  have hall : ∀ product ∈ t.products, Agrees t product := by
    intro product hproduct
    unfold Agrees
    rw [(demand_congr hrequests _).1, (demand_congr hrequests _).2]
    rcases hrows product hproduct with hold | hnew
    · exact ⟨h.sound product hold, fun hmode =>
        ⟨h.reserved product hold hmode, h.issued product hold hmode⟩⟩
    · exact hnew
  refine ⟨fun product hproduct => (hall product hproduct).1,
    fun product hproduct hmode => ((hall product hproduct).2 hmode).1,
    fun product hproduct hmode => ((hall product hproduct).2 hmode).2, ?_⟩
  rw [hrequests]
  intro request hrequest item hitem
  exact hkept _ (h.stocked request hrequest item hitem)

theorem Squared.of_eq (h : Squared s) (hproducts : t.products = s.products)
    (hrequests : t.requests = s.requests) :
    Squared t :=
  squared_products h (fun _ hproduct => .inl (hproducts ▸ hproduct))
    (fun _ hsome => hproducts ▸ hsome) hrequests

theorem squared_put (new : InventoryProduct) (h : Squared s) (hnew : Agrees s new)
    (hproducts : t.products = s.products.put new) (hrequests : t.requests = s.requests) :
    Squared t := by
  refine squared_products h (fun product hproduct => ?_) (fun productId hsome => ?_) hrequests
  · rw [hproducts] at hproduct
    rcases mem_of_mem_put hproduct with rfl | ⟨hproduct, -⟩
    · exact .inr hnew
    · exact .inl hproduct
  · rw [hproducts, get?_put]
    split
    · simpa using hsome
    · exact hsome

theorem squared_refill {old : InventoryProduct} {q : Quantities} (h : Squared s)
    (hold : s.products.get? productId = some old) (hsound : q.Sound)
    (hsame : old.trackingMode = .quantity →
      q .reserved = old.quantities .reserved ∧ q .issued = old.quantities .issued)
    (hproducts : t.products = s.products.put { old with quantities := q })
    (hrequests : t.requests = s.requests) :
    Squared t := by
  refine squared_put _ h ⟨hsound, fun hmode => ?_⟩ hproducts hrequests
  obtain ⟨hreserved, hissued⟩ := hsame hmode
  have hmem := mem_of_get? hold
  exact ⟨hreserved.trans (h.reserved old hmem hmode), hissued.trans (h.issued old hmem hmode)⟩

theorem not_demanded (h : ∀ request ∈ s.requests, ∀ item ∈ request.items,
    item.productId ≠ productId) :
    demand s productId = 0 ∧ outstanding s productId = 0 := by
  rw [demand_eq_sum]
  constructor
  all_goals
    refine Table.sum_eq_zero fun request hrequest => ?_
    refine ite_eq_right_iff.mpr fun _ => Table.sum_eq_zero fun item hitem => ?_
    exact if_neg (h request hrequest item hitem).symm

theorem squared_insert {new : InventoryProduct} (h : Squared s)
    (hfresh : s.products.get? (key new) = none) (hempty : new.quantities = 0)
    (hproducts : t.products = s.products.insert new hfresh) (hrequests : t.requests = s.requests) :
    Squared t := by
  obtain ⟨hdemand, houtstanding⟩ : demand s new.id = 0 ∧ outstanding s new.id = 0 := by
    refine not_demanded fun request hrequest item hitem hid => ?_
    have hsome := h.stocked request hrequest item hitem
    rw [hid, show s.products.get? new.id = none from hfresh] at hsome
    cases hsome
  refine squared_products h (fun product hproduct => ?_) (fun productId hsome => ?_) hrequests
  · rw [hproducts] at hproduct
    rcases (mem_insert hfresh).mp hproduct with hproduct | rfl
    · exact .inl hproduct
    · refine .inr ⟨hempty ▸ sound_zero, fun _ => ?_⟩
      rw [hempty, hdemand, houtstanding]
      exact ⟨rfl, rfl⟩
  · rw [hproducts, get?_insert hfresh]
    split
    · rfl
    · exact hsome

variable {d : Nat → Quantities}

theorem squared_credit (h : Squared s) (hproducts : t.products = s.products.credit d)
    (hsound : ∀ product ∈ t.products, product.quantities.Sound)
    (hreserved : ∀ productId, demand t productId = demand s productId + d productId .reserved)
    (hissued : ∀ productId, outstanding t productId =
      outstanding s productId + d productId .issued)
    (hstocked : ∀ request ∈ t.requests, ∀ item ∈ request.items,
      (s.products.get? item.productId).isSome) :
    Squared t := by
  refine ⟨hsound, fun product hproduct hmode => ?_, fun product hproduct hmode => ?_, ?_⟩
  · rw [hproducts] at hproduct
    obtain ⟨old, hold, rfl⟩ := mem_credit.mp hproduct
    have hbefore := h.reserved old hold hmode
    change (old.quantities + d old.id) .reserved = demand t old.id
    rw [Pi.add_apply, hbefore, hreserved]
  · rw [hproducts] at hproduct
    obtain ⟨old, hold, rfl⟩ := mem_credit.mp hproduct
    have hbefore := h.issued old hold hmode
    change (old.quantities + d old.id) .issued = outstanding t old.id
    rw [Pi.add_apply, hbefore, hissued]
  · rw [hproducts]
    intro request hrequest item hitem
    rw [get?_credit, Option.isSome_map]
    exact hstocked request hrequest item hitem

theorem total_apply (postings : List StockPosting) (productId : Nat) (column : Column) :
    Posting.total postings productId column = (postings.map fun posting =>
      if productId = posting.account then posting.entry column else 0).sum := by
  induction postings with
  | nil => rfl
  | cons posting _ ih =>
    rw [Posting.total_cons, Pi.add_apply, ih, map_cons, sum_cons]
    congr 1
    split <;> rfl

theorem squared_post {postings : List StockPosting} (h : Squared s)
    (hkeeps : ∀ posting ∈ postings, Keeps posting)
    (hfree : ∀ posting ∈ postings, posting.entry .reserved = 0 ∧ posting.entry .issued = 0)
    (hstep : s.post postings = .ok t) :
    Squared t := by
  have hposted := post_spec hkeeps hstep
  have hzero : ∀ column, (∀ posting ∈ postings, posting.entry column = 0) →
      ∀ productId, Posting.total postings productId column = 0 := by
    intro column hnone productId
    rw [total_apply]
    refine List.sum_eq_zero fun n hn => ?_
    obtain ⟨posting, hposting, rfl⟩ := List.mem_map.mp hn
    rw [hnone posting hposting, ite_self]
  refine squared_credit h hposted.products (hposted.sound h.sound) (fun productId => ?_)
    (fun productId => ?_) (hposted.requests ▸ h.stocked)
  · rw [(demand_congr hposted.requests _).1,
      hzero .reserved (fun posting hposting => (hfree posting hposting).1), add_zero]
  · rw [(demand_congr hposted.requests _).2,
      hzero .issued (fun posting hposting => (hfree posting hposting).2), add_zero]

variable {m : State} {old new : HardwareRequest}

/-- A request is written over, and the products are credited with the change. -/
theorem squared_save (h : Squared s) (hstored : Stored s old) (hid : new.id = old.id)
    (hrequests : m.requests = s.requests) (hproducts : m.products = s.products.credit d)
    (hsound : ∀ product ∈ m.products, product.quantities.Sound)
    (hreserved : ∀ productId, new.demand productId = old.demand productId + d productId .reserved)
    (hissued : ∀ productId, new.outstanding productId =
      old.outstanding productId + d productId .issued)
    (hitems : new.items.rows.map RequestItem.productId = old.items.rows.map RequestItem.productId) :
    Squared (m.saveRequest new) := by
  have hget : s.requests.get? (key new) = some old := by
    rw [key_request, hid]
    exact hstored
  have hput : (m.saveRequest new).requests = s.requests.put new := by
    rw [State.saveRequest, hrequests]
  refine squared_credit h hproducts hsound (fun productId => ?_) (fun productId => ?_) ?_
  · have hsum := sum_put hget fun request : HardwareRequest => request.demand productId
    have hnew := hreserved productId
    rw [demand_eq_sum, demand_eq_sum, hput]
    omega
  · have hsum := sum_put hget fun request : HardwareRequest => request.outstanding productId
    have hnew := hissued productId
    unfold outstanding
    rw [hput]
    omega
  · rw [hput]
    intro request hrequest item hitem
    rcases mem_of_mem_put hrequest with rfl | ⟨hrequest, -⟩
    · have hnamed : item.productId ∈ old.items.rows.map RequestItem.productId :=
        hitems ▸ mem_map_of_mem hitem
      obtain ⟨before, hbefore, heq⟩ := List.mem_map.mp hnamed
      exact heq ▸ h.stocked old (mem_of_get? hstored) before hbefore
    · exact h.stocked request hrequest item hitem

theorem squared_rewrite (h : Squared s) (hstored : Stored s old) (hid : new.id = old.id)
    (hreserved : ∀ productId, new.demand productId = old.demand productId)
    (hissued : ∀ productId, new.outstanding productId = old.outstanding productId)
    (hitems : new.items.rows.map RequestItem.productId = old.items.rows.map RequestItem.productId) :
    Squared (s.saveRequest new) :=
  squared_save (d := fun _ => 0) h hstored hid rfl (credit_zero _).symm h.sound
    (fun productId => by simp [hreserved]) (fun productId => by simp [hissued]) hitems

theorem squared_enter (h : Squared s) (hfresh : s.requests.get? (key new) = none)
    (hproducts : t.products = s.products.credit d)
    (hsound : ∀ product ∈ t.products, product.quantities.Sound)
    (hreserved : ∀ productId, d productId .reserved = new.demand productId)
    (hissued : ∀ productId, d productId .issued = new.outstanding productId)
    (hitems : ∀ item ∈ new.items, (s.products.get? item.productId).isSome)
    (hrequests : t.requests = s.requests.insert new hfresh) :
    Squared t := by
  refine squared_credit h hproducts hsound (fun productId => ?_) (fun productId => ?_) ?_
  · rw [demand_eq_sum, demand_eq_sum, hrequests, sum_insert, hreserved]
  · unfold outstanding
    rw [hrequests, sum_insert, hissued]
  · rw [hrequests]
    intro request hrequest item hitem
    rcases (mem_insert hfresh).mp hrequest with hrequest | rfl
    · exact h.stocked request hrequest item hitem
    · exact hitems item hitem

end Rules

section Upkeep

variable {quantity : Int} {product : InventoryProduct} {p : State × InventoryProduct}
variable {asset : InventoryAsset} {newStatus : AssetStatus} {makerspaceId newProductId : Nat}
variable {source destination : Option Nat}

theorem sound_withTotal {q : Quantities} (h : ∀ column, column ≠ .total → 0 ≤ q column) :
    (withTotal q).Sound where
  nonneg column := by
    by_cases hcolumn : column = .total
    · subst hcolumn
      rw [withTotal_total, held]
      have havailable := h .available (by simp)
      have hreserved := h .reserved (by simp)
      have hissued := h .issued (by simp)
      have hdamaged := h .damaged (by simp)
      have hlost := h .lost (by simp)
      have hneedsFix := h .needsFix (by simp)
      omega
    · rw [withTotal_of_ne q hcolumn]
      exact h column hcolumn
  within := le_refl _

theorem squared_applyDeltas {refusal : String} {deltaAvailable deltaDamaged deltaLost : Int}
    (h : Squared s)
    (hstep : applyDeltas refusal s productId deltaAvailable deltaDamaged deltaLost = .ok t) :
    Squared t := by
  obtain ⟨old, hget, havailable, hdamaged, hlost, rfl⟩ := applyDeltas_spec hstep
  refine squared_refill h hget (sound_withTotal fun column hcolumn => ?_) (fun _ => ?_) rfl rfl
  · have hnonneg := (h.sound old (mem_of_get? hget)).nonneg column
    cases column <;> simp [gain_apply] at hcolumn ⊢ <;> omega
  · simp [withTotal, gain_apply]

theorem squared_moveToTriageBucket {outcome : ReportOutcome} (h : Squared s)
    (hstep : moveAvailableToTriageBucket s productId quantity outcome = .ok t) :
    Squared t := by
  simp only [moveAvailableToTriageBucket, bind_ok, require_ok, exists_const] at hstep
  obtain ⟨hpositive, hstep⟩ := hstep
  cases outcome with
  | damaged | missing => exact squared_applyDeltas h hstep
  | needsFix =>
    simp only [moveAvailableToFixShelf, bind_ok, orRefuse_ok, require_ok, pure_ok,
      exists_const] at hstep
    obtain ⟨old, hget, hheld, rfl⟩ := hstep
    have hsound : (old.quantities + move .available .needsFix quantity).Sound :=
      (h.sound old (mem_of_get? hget)).move (by simp) (by simp) hpositive.le hheld
    refine squared_refill h hget (sound_withTotal fun column _ => hsound.nonneg column)
      (fun _ => ?_) rfl rfl
    simp [withTotal, move_apply]
  | noIssue => simp at hstep

theorem sound_assetCounts (s : State) (productId : Nat) : (assetCounts s productId).Sound := by
  unfold assetCounts
  induction s.assetsOf productId with
  | nil => exact sound_zero
  | cons asset _ ih =>
    rw [map_cons, sum_cons]
    cases hbucket : assetQuantityBucket asset.status with
    | none => simpa [assetUnit, hbucket] using ih
    | some bucket =>
      have hadded := ih.add (assetQuantityBucket_ne_total hbucket) Int.one_nonneg
      rwa [show assetUnit asset.status = gain bucket 1 + gain .total 1 by
        simp [assetUnit, hbucket], add_comm, ← add_assoc]

theorem squared_reconcile (h : Squared s) (hget : s.products.get? productId = some product)
    (hstep : reconcileIndividualProductFromAssets s product = .ok p) :
    Squared p.1 ∧ p.1.products.get? productId = some p.2 := by
  unfold reconcileIndividualProductFromAssets at hstep
  split at hstep
  · rw [pure_ok] at hstep
    subst hstep
    exact ⟨h, hget⟩
  · next hmode =>
      simp only [bind_ok, require_ok, pure_ok, exists_const] at hstep
      obtain ⟨hle, rfl⟩ := hstep
      have hsound : (assetCounts s product.id + move .available .reserved
          (max (product.quantities .reserved - assetCounts s product.id .reserved) 0)).Sound :=
        (sound_assetCounts s product.id).move (by simp) (by simp) (le_max_right _ _) hle
      refine ⟨squared_refill h hget hsound (fun hquantity => ?_) rfl rfl, ?_⟩
      · rw [hquantity] at hmode
        exact absurd (by simp) hmode
      · obtain rfl : product.id = productId := key_of_get? hget
        exact get?_put_self hget

def AssetStatus.free (status : AssetStatus) : Prop :=
  status ≠ .reserved ∧ status ≠ .issued

theorem bucket_of_free {status : AssetStatus} {bucket : Column} (h : status.free)
    (hbucket : assetQuantityBucket status = some bucket) :
    bucket ≠ .reserved ∧ bucket ≠ .issued := by
  obtain ⟨hreserved, hissued⟩ := h
  cases status <;> simp [assetQuantityBucket] at hbucket hreserved hissued <;> subst hbucket <;> simp

theorem squared_moveAssetStatus (h : Squared s) (hold : asset.status.free) (hnew : newStatus.free)
    (hstep : moveAssetStatus s asset newStatus = .ok t) :
    Squared t := by
  unfold moveAssetStatus at hstep
  split at hstep
  · rw [pure_ok] at hstep
    exact hstep ▸ h
  · simp only [bind_ok, orRefuse_ok, require_ok, pure_ok, exists_const] at hstep
    obtain ⟨oldBucket, holdBucket, newBucket, hnewBucket, product, hget, ⟨m, moved⟩, hreconcile,
      hheld, rfl⟩ := hstep
    obtain ⟨hm, hmoved⟩ := squared_reconcile h hget hreconcile
    obtain ⟨hreserved, hissued⟩ := bucket_of_free hold holdBucket
    obtain ⟨hreserved', hissued'⟩ := bucket_of_free hnew hnewBucket
    have hsound := (hm.sound moved (mem_of_get? hmoved)).move
      (assetQuantityBucket_ne_total holdBucket) (assetQuantityBucket_ne_total hnewBucket)
      Int.one_nonneg hheld
    refine squared_refill hm hmoved hsound (fun _ => ?_) rfl rfl
    simp [move_apply, hreserved.symm, hissued.symm, hreserved'.symm, hissued'.symm]

theorem squared_assetFix {assetId : Nat} {action : AssetFixAction} (h : Squared s)
    (hstep : assetFixAction s assetId action = .ok t) :
    Squared t := by
  simp only [assetFixAction, validateAssetFixAction, bind_ok, orRefuse_ok, require_ok] at hstep
  obtain ⟨asset, -, _, ⟨_, -, haction⟩, hmove⟩ := hstep
  cases action with
  | shelve =>
    have hstatus : asset.status = .available ∨ asset.status = .damaged := by simpa using haction
    refine squared_moveAssetStatus h ?_ (by simp [AssetStatus.free]) hmove
    rcases hstatus with hstatus | hstatus <;> simp [AssetStatus.free, hstatus]
  | repair =>
    have hstatus : asset.status = .maintenance := by simpa using haction
    exact squared_moveAssetStatus h (by simp [AssetStatus.free, hstatus])
      (by simp [AssetStatus.free]) hmove

theorem squared_fixAction {entry : Int → Quantities} {column : Column}
    {refusal : Int → Int → String} (h : Squared s)
    (hkeeps : ∀ q : Quantities, q.Sound → ∀ n, 0 < n → n ≤ q column → (q + entry n).Sound)
    (hfree : ∀ n, entry n .reserved = 0 ∧ entry n .issued = 0)
    (hstep : fixAction entry column refusal s productId quantity = .ok t) :
    Squared t := by
  refine squared_post h ?_ (forall_mem_singleton.mpr (hfree quantity)) hstep
  refine forall_mem_singleton.mpr fun product hsound hcheck => ?_
  simp only [bind_ok, require_ok] at hcheck
  obtain ⟨_, -, hpositive, hheld⟩ := hcheck
  exact hkeeps product.quantities hsound quantity hpositive hheld

theorem squared_changeTrackingMode {trackingMode : TrackingMode} (h : Squared s)
    (hstep : Availability.changeTrackingMode s productId trackingMode = .ok t) :
    Squared t := by
  simp only [Availability.changeTrackingMode, bind_ok, orRefuse_ok] at hstep
  obtain ⟨locked, hget, hstep⟩ := hstep
  split at hstep
  · rw [pure_ok] at hstep
    exact hstep ▸ h
  · simp only [bind_ok, require_ok, pure_ok, exists_const] at hstep
    obtain ⟨hblocker, rfl⟩ := hstep
    obtain ⟨hempty, hunused⟩ := unused_of_changeBlocker hblocker
    refine squared_put { locked with trackingMode := trackingMode } h
      ⟨h.sound locked (mem_of_get? hget), fun _ => ?_⟩ rfl rfl
    rw [hunused.demand, hunused.outstanding, hempty]
    exact ⟨rfl, rfl⟩

theorem squared_generateAssets {count : Nat} {relabelled : List (Nat × String)}
    {units : List NewUnit} (h : Squared s)
    (hstep : generateAssetsWithQr s productId count relabelled units = .ok t) :
    Squared t := by
  simp only [generateAssetsWithQr, bind_ok, orRefuse_ok, pure_ok] at hstep
  obtain ⟨-, -, m, hmode, product, hget, -, -, labelled, hlabelled, made, hunits, _,
    hreconcile, rfl⟩ := hstep
  have hm := squared_changeTrackingMode h hmode
  obtain ⟨hframe, -, -⟩ := relabel_spec hlabelled
  obtain ⟨_, -, hcreated⟩ := createUnits_spec (.start labelled product) hunits
  have hproducts : made.1.products = m.products := by rw [hcreated.frame, hframe]
  have hmade : Squared made.1 := hm.of_eq hproducts (by rw [hcreated.frame, hframe])
  exact (squared_reconcile hmade (hproducts ▸ hget) hreconcile).1

theorem squared_transferQuantity {sourceId destinationId : Nat} (h : Squared s)
    (hstep : transferAvailableQuantity s sourceId destinationId quantity = .ok t) :
    Squared t := by
  simp only [transferAvailableQuantity, bind_ok, require_ok, exists_const] at hstep
  obtain ⟨hpositive, hstep⟩ := hstep
  split at hstep
  · rw [pure_ok] at hstep
    exact hstep ▸ h
  · refine squared_post h (forall_mem_cons.mpr ⟨?_, forall_mem_singleton.mpr ?_⟩)
      (by simp [gain_apply]) hstep
    · intro product hsound hcheck
      simp only [require_ok] at hcheck
      change (product.quantities + (-gain .available quantity - gain .total quantity)).Sound
      rw [← add_sub_assoc, ← sub_eq_add_neg]
      exact hsound.remove (by simp) hcheck.1
    · intro product hsound _
      change (product.quantities + (gain .available quantity + gain .total quantity)).Sound
      rw [← add_assoc]
      exact hsound.add (by simp) hpositive.le

theorem squared_transferToNew {source new : InventoryProduct} (h : Squared s)
    (hempty : new.quantities = 0) (hstep : transferToNew s source new quantity = .ok t) :
    Squared t := by
  simp only [transferToNew, bind_ok, insertNew_ok] at hstep
  obtain ⟨_, ⟨hfresh, rfl⟩, hmove⟩ := hstep
  have hadded : Squared { s with products := s.products.insert new hfresh } :=
    squared_insert h hfresh hempty rfl rfl
  exact squared_transferQuantity hadded hmove

theorem squared_transferProduct (h : Squared s)
    (hstep : transferProduct s makerspaceId source destination productId quantity newProductId =
      .ok t) :
    Squared t := by
  simp only [transferProduct, bind_ok, orRefuse_ok] at hstep
  obtain ⟨product, hget, -, -, -, -, -, -, -, -, hstep⟩ := hstep
  unfold splitQuantityStock at hstep
  split at hstep
  · exact squared_transferQuantity h hstep
  · split at hstep
    · rw [pure_ok] at hstep
      subst hstep
      have hmem := mem_of_get? hget
      exact squared_put { product with boxId := destination } h ⟨h.sound product hmem,
        fun hmode => ⟨h.reserved product hmem hmode, h.issued product hmem hmode⟩⟩ rfl rfl
    · exact squared_transferToNew h rfl hstep

theorem squared_transferLine {destinationMakerspaceId : Nat} {line : TransferLine} (h : Squared s)
    (hstep : transferLine makerspaceId destinationMakerspaceId source destination s line =
      .ok t) :
    Squared t := by
  cases line with
  | asset =>
    simp only [transferLine] at hstep
    split at hstep
    · simp only [transferAsset, assertAssetTransferable, bind_ok, require_ok, pure_ok,
        exists_const] at hstep
      obtain ⟨asset, -, -, -, -, ⟨hto, ⟨hissued, hreserved⟩, -⟩, m, hmove, rfl⟩ := hstep
      refine (squared_moveAssetStatus h ⟨hreserved, hissued⟩ ?_ hmove).of_eq rfl rfl
      simp only [mem_cons, not_mem_nil, or_false] at hto
      rcases hto with hto | hto | hto | hto <;> simp [AssetStatus.free, hto, hreserved, hissued]
    · simp only [throw_eq_ok] at hstep
  | product =>
    simp only [transferLine] at hstep
    split at hstep
    · exact squared_transferProduct h hstep
    · simp only [transferAcross, bind_ok, orRefuse_ok] at hstep
      obtain ⟨_, -, -, -, -, -, -, -, hstep⟩ := hstep
      split at hstep
      · simp only [bind_ok] at hstep
        obtain ⟨-, -, hstep⟩ := hstep
        exact squared_transferQuantity h hstep
      · exact squared_transferToNew h rfl hstep

theorem squared_transfer {destinationMakerspaceId : Nat} {lines : List TransferLine}
    (h : Squared s) (hstep : applyStockTransfer s makerspaceId destinationMakerspaceId source
      destination lines = .ok t) :
    Squared t := by
  simp only [applyStockTransfer, bind_ok] at hstep
  obtain ⟨_, -, _, -, hloop⟩ := hstep
  exact foldlM_preserves (fun _ _ _ _ hm hturn => squared_transferLine hm hturn) h hloop

theorem squared_stocktake {session : StocktakeSession} (h : Squared s)
    (hstep : applyStocktakeAdjustments s session = .ok t) :
    Squared t := by
  have hledger : ∀ {m m' : State} {productId bucket delta}, Squared m →
      applyLedgerEntry m productId bucket delta = .ok m' → Squared m' := by
    intro m m' productId bucket delta hm hentry
    rw [applyLedgerEntry, mapError_eq_ok] at hentry
    exact squared_applyDeltas hm hentry
  refine foldlM_preserves (fun m line m' _ hm hturn => ?_) h hstep
  unfold applyStocktakeLine at hturn
  split at hturn
  · simp only [applyAssetLine, bind_ok] at hturn
    obtain ⟨asset, -, -, -, -, -, -, -, _, -, -, -, -, -, -, -, _, -, hturn⟩ := hturn
    have hsaved : Squared (m.saveStatuses [(asset, assetNewStatus line)]) := hm.of_eq rfl rfl
    split at hturn
    · rw [pure_ok] at hturn
      exact hturn ▸ hsaved
    · simp only [bind_ok] at hturn
      obtain ⟨_, hout, hin⟩ := hturn
      exact hledger (hledger hsaved hout) hin
  · simp only [applyProductLine, bind_ok] at hturn
    obtain ⟨_, -, -, -, -, -, -, -, -, -, -, -, hturn⟩ := hturn
    split at hturn
    · rw [pure_ok] at hturn
      exact hturn ▸ hm
    · exact hledger hm hturn
  · simp only [throw_eq_ok] at hturn

theorem squared_rebindAsset {qrId : Nat} {newName : String} (h : Squared s)
    (hstep : moveAssetAcrossMakerspaces s qrId makerspaceId destination newName newProductId =
      .ok t) :
    Squared t := by
  simp only [moveAssetAcrossMakerspaces, bind_ok, mapError_eq_ok] at hstep
  obtain ⟨_, -, -, -, _, -, -, -, -, -, -, -, _, -, -, -, p, hresolve, -, -, -, -,
    _, hout, hin⟩ := hstep
  have hresolved : Squared p.1 := by
    cases destination with
    | some =>
      simp only [resolveDestinationProduct, bind_ok, pure_ok] at hresolve
      obtain ⟨_, -, -, -, rfl⟩ := hresolve
      exact h
    | none =>
      simp only [resolveDestinationProduct, resolveByName, bind_ok] at hresolve
      obtain ⟨-, -, hresolve⟩ := hresolve
      split at hresolve
      · rw [pure_ok] at hresolve
        exact hresolve ▸ h
      · simp only [bind_ok, insertNew_ok, pure_ok] at hresolve
        obtain ⟨_, ⟨hfresh, rfl⟩, rfl⟩ := hresolve
        exact squared_insert h hfresh rfl rfl rfl
  refine squared_applyDeltas (squared_applyDeltas ?_ hout) hin
  exact hresolved.of_eq rfl rfl

theorem squared_triage {reportId : Nat} {outcome : ReportOutcome} {entries : List (Nat × Int)}
    (h : Squared s) (hstep : triageProblemReport s reportId outcome entries = .ok t) :
    Squared t := by
  simp only [triageProblemReport, bind_ok, pure_ok] at hstep
  obtain ⟨_, -, -, -, m, hstock, rfl⟩ := hstep
  have hm : Squared m := by
    unfold triageStock at hstock
    split at hstock
    · rw [pure_ok] at hstock
      exact hstock ▸ h
    · simp only [bind_ok] at hstock
      obtain ⟨_, -, _, -, _, -, hloop⟩ := hstock
      refine foldlM_preserves (fun before resolution after _ hbefore hturn => ?_) h hloop
      simp only [triageItem, moveStock, moveIndividualAssets, bind_ok, orRefuse_ok,
        pure_ok] at hturn
      obtain ⟨target, htarget, _, -, moved, hmove, rfl⟩ := hturn
      have hfree : target.free := by
        cases outcome <;> simp [ReportOutcome.assetStatus] at htarget <;> subst htarget <;>
          simp [AssetStatus.free]
      have hmoved : Squared moved := by
        split at hmove
        · simp only [bind_ok] at hmove
          obtain ⟨-, -, hmove⟩ := hmove
          refine foldlM_preserves (fun _ asset _ hasset hm hturn => ?_) hbefore hmove
          have hlisted := (mem_insertionSort _).mp (List.mem_of_mem_take hasset)
          have hstatus := (mem_filter.mp hlisted).2
          simp only [decide_eq_true_iff] at hstatus
          exact squared_moveAssetStatus hm (by simp [AssetStatus.free, hstatus]) hfree hturn
        · exact squared_moveToTriageBucket hbefore hmove
      exact hmoved.of_eq rfl rfl
  exact hm.of_eq rfl rfl

end Upkeep

section Review

variable {requestId makerspaceId requesterId : Nat} {request : HardwareRequest}
variable {items others : List RequestItem} {reason boxCode : String}

theorem map_of_unlinked {γ : Type} (g : RequestItem → γ) (hg : ∀ item, g item.unlinked = g item)
    (h : items.map RequestItem.unlinked = others.map RequestItem.unlinked) :
    items.map g = others.map g := by
  have hread : ∀ rows : List RequestItem,
      rows.map g = (rows.map RequestItem.unlinked).map g := by
    intro rows
    rw [map_map]
    exact map_congr_left fun item _ => (hg item).symm
  rw [hread items, h, ← hread others]

theorem HardwareRequest.demand_eq (h : request.status = .accepted) :
    request.demand productId = acceptedFor request.items.rows productId :=
  if_pos h

theorem HardwareRequest.demand_eq_zero (h : request.status ≠ .accepted) :
    request.demand productId = 0 :=
  if_neg h

theorem HardwareRequest.outstanding_eq (h : request.status.out) :
    request.outstanding productId = request.items.sum (·.outstandingOf productId) :=
  if_pos h

theorem HardwareRequest.outstanding_eq_zero (h : ¬ request.status.out) :
    request.outstanding productId = 0 :=
  if_neg h

theorem squared_submit {id : Nat} {entries : List (Nat × Int)} (h : Squared s)
    (hstep : submitRequest s id makerspaceId requesterId entries = .ok t) :
    Squared t := by
  simp only [submitRequest, createRequest, bind_ok, forM_eq_ok, orRefuse_ok, require_ok,
    pure_ok, insertNew_ok] at hstep
  obtain ⟨-, hentries, -, -, _, ⟨hfresh, rfl⟩, rfl⟩ := hstep
  refine squared_enter (d := fun _ => 0) h hfresh (credit_zero _).symm h.sound (fun _ => rfl)
    (fun _ => rfl) ?_ rfl
  intro item hitem
  obtain ⟨entry, hentry, _, rfl⟩ := mem_enumerate hitem
  obtain ⟨product, hget, -⟩ := hentries entry hentry
  exact Option.isSome_iff_exists.mpr ⟨product, hget⟩

theorem total_each {ids : List Nat} (hnodup : ids.Nodup) {f : Nat → StockPosting}
    (hf : ∀ id, (f id).account = id) (productId : Nat) :
    Posting.total (ids.map f) productId = if productId ∈ ids then (f productId).entry else 0 := by
  induction ids with
  | nil => rfl
  | cons id _ ih =>
    obtain ⟨hid, hrest⟩ := nodup_cons.mp hnodup
    rw [map_cons, Posting.total_cons, ih hrest, hf]
    by_cases heq : productId = id
    · subst heq
      simp [hid]
    · simp [heq]

theorem acceptedFor_eq_zero
    (h : ∀ item ∈ items, item.productId = productId → item.accepted = 0) :
    acceptedFor items productId = 0 := by
  refine List.sum_eq_zero fun n hn => ?_
  obtain ⟨item, hitem, rfl⟩ := List.mem_map.mp hn
  exact ite_eq_right_iff.mpr fun hid => h item hitem hid.symm

theorem requiredByProduct_eq (h : ∀ item ∈ items, 0 ≤ item.accepted) (productId : Nat) :
    requiredByProduct items productId = acceptedFor items productId := by
  refine congrArg List.sum (map_congr_left fun item hitem => ?_)
  have hnonneg := h item hitem
  by_cases hid : productId = item.productId
  · by_cases hpositive : 0 < item.accepted
    · rw [if_pos ⟨hid, hpositive⟩, if_pos hid]
    · rw [if_neg fun hboth => hpositive hboth.2, if_pos hid]
      omega
  · rw [if_neg fun hboth => hid hboth.1, if_neg hid]

theorem acceptedFor_nonneg (h : ∀ item ∈ items, 0 ≤ item.accepted) (productId : Nat) :
    0 ≤ acceptedFor items productId := by
  refine List.sum_nonneg fun n hn => ?_
  obtain ⟨item, hitem, rfl⟩ := List.mem_map.mp hn
  have hnonneg := h item hitem
  split <;> omega

theorem reserveForRequest_spec (hnonneg : ∀ item ∈ request.items.rows, 0 ≤ item.accepted)
    (hstep : reserveForRequest s request = .ok t) :
    Posted s t fun productId =>
      move .available .reserved (acceptedFor request.items.rows productId) := by
  have hposted := post_spec (fun posting hposting => ?_) hstep
  · convert hposted using 1
    funext productId
    rw [total_each ((perm_insertionSort _ _).nodup_iff.mpr (nodup_dedup _)) fun _ => rfl]
    split
    · simp only [reserve, requiredByProduct_eq hnonneg]
    · next hnot =>
        rw [acceptedFor_eq_zero fun item hitem hid => ?_, move_zero]
        by_contra hne
        refine hnot ((mem_insertionSort _).mpr (mem_dedup.mpr ?_))
        have hpositive : 0 < item.accepted := lt_of_le_of_ne (hnonneg item hitem) (Ne.symm hne)
        exact List.mem_map.mpr ⟨item, mem_filter.mpr ⟨hitem, by simpa using hpositive⟩, hid⟩
  · obtain ⟨productId, -, rfl⟩ := List.mem_map.mp hposting
    intro product hsound hcheck
    simp only [reserve, bind_ok, require_ok] at hcheck
    obtain ⟨_, -, hheld⟩ := hcheck
    refine hsound.move (by simp) (by simp) ?_ hheld
    rw [requiredByProduct_eq hnonneg]
    exact acceptedFor_nonneg hnonneg productId

theorem squared_accept {accepted : Option (List (Nat × Int))} (h : Squared s)
    (hstep : acceptRequest s requestId accepted = .ok t) :
    Squared t := by
  simp only [acceptRequest, State.lockedRequest, bind_ok, orRefuse_ok, require_ok, pure_ok,
    exists_const] at hstep
  obtain ⟨locked, hget, hpending, -, hrange, -, m, hreserve, rfl⟩ := hstep
  have hposted := reserveForRequest_spec (fun item hitem => by
    obtain ⟨old, hold, rfl⟩ := List.mem_map.mp hitem
    exact (hrange old hold).1) hreserve
  refine squared_save h (stored_of_get? hget) rfl hposted.requests hposted.products
    (hposted.sound h.sound) (fun productId => ?_) (fun productId => ?_) ?_
  · rw [HardwareRequest.demand_eq rfl, HardwareRequest.demand_eq_zero (by simp [hpending]), move_apply]
    simp
  · rw [HardwareRequest.outstanding_eq_zero (by simp [RequestStatus.out]),
      HardwareRequest.outstanding_eq_zero (by simp [RequestStatus.out, hpending]), move_apply]
    simp
  · exact map_map

theorem squared_reject (h : Squared s) (hstep : rejectRequest s requestId reason = .ok t) :
    Squared t := by
  simp only [rejectRequest, State.lockedRequest, bind_ok, orRefuse_ok, require_ok, pure_ok] at hstep
  obtain ⟨-, -, locked, hget, -, hpending, rfl⟩ := hstep
  refine squared_rewrite h (stored_of_get? hget) rfl (fun productId => ?_) (fun productId => ?_) rfl
  · rw [HardwareRequest.demand_eq_zero (by simp), HardwareRequest.demand_eq_zero (by simp [hpending])]
  · rw [HardwareRequest.outstanding_eq_zero (by simp [RequestStatus.out]),
      HardwareRequest.outstanding_eq_zero (by simp [RequestStatus.out, hpending])]

theorem squared_assignBox (h : Squared s) (hstep : Lending.assignBox s requestId boxCode = .ok t) :
    Squared t := by
  simp only [Lending.assignBox, State.lockedRequest, bind_ok, orRefuse_ok, require_ok,
    pure_ok] at hstep
  obtain ⟨locked, hget, -, -, box, -, -, -, rfl⟩ := hstep
  have hsaved : Squared (s.saveRequest { locked with assignedBoxId := some box.id }) :=
    squared_rewrite h (stored_of_get? hget) rfl (fun _ => rfl) (fun _ => rfl) rfl
  exact hsaved.of_eq rfl rfl

theorem acceptedFor_le_reserved {product : InventoryProduct}
    (h : checkRelease s request product = .ok ⟨⟩) :
    acceptedFor request.items.rows product.id ≤ product.quantities .reserved := by
  simp only [checkRelease, bind_ok] at h
  obtain ⟨_, -, h⟩ := h
  split at h
  all_goals
    simp only [bind_ok, require_ok] at h
    obtain ⟨_, -, hreserved, hle⟩ := h
    omega

theorem releaseRequestReservation_spec (hnonneg : ∀ item ∈ request.items.rows, 0 ≤ item.accepted)
    (hstep : releaseRequestReservation s request = .ok t) :
    Posted s t fun productId =>
      move .reserved .available (acceptedFor request.items.rows productId) := by
  simp only [releaseRequestReservation, State.post, bind_ok, require_ok, forM_eq_ok, orRefuse_ok,
    pure_ok, exists_const] at hstep
  obtain ⟨-, -, -, -, hchecks, products, hbook, rfl⟩ := hstep
  -- a product that the request does not name has nothing to release
  have hunnamed : ∀ productId, productId ∉ ((request.items.rows.map
      RequestItem.productId).dedup).insertionSort (· ≤ ·) →
        acceptedFor request.items.rows productId = 0 := by
    intro productId hnot
    refine acceptedFor_eq_zero fun item hitem hid => absurd ?_ hnot
    exact (mem_insertionSort _).mpr (mem_dedup.mpr (List.mem_map.mpr ⟨item, hitem, hid⟩))
  have hcredit : products = s.products.credit fun productId =>
      move .reserved .available (acceptedFor request.items.rows productId) := by
    rw [bookAll_eq_credit hbook]
    congr 1
    funext productId
    have hnodup := (perm_insertionSort (· ≤ ·) _).nodup_iff.mpr
      (nodup_dedup (request.items.rows.map RequestItem.productId))
    rw [total_each (hnodup.filter _) fun _ => rfl]
    split
    · rfl
    · next hnot =>
        have hzero : acceptedFor request.items.rows productId = 0 := by
          by_contra hne
          exact hne (hunnamed productId fun hmem => hnot (mem_filter.mpr ⟨hmem, by simpa using hne⟩))
        rw [hzero, move_zero]
  refine ⟨by rw [hcredit], fun hsound product hproduct => ?_⟩
  rw [hcredit] at hproduct
  obtain ⟨old, hold, rfl⟩ := mem_credit.mp hproduct
  refine (hsound old hold).move (by simp) (by simp) (acceptedFor_nonneg hnonneg old.id) ?_
  by_cases hnamed : old.id ∈ ((request.items.rows.map
      RequestItem.productId).dedup).insertionSort (· ≤ ·)
  · obtain ⟨found, hfound, hcheck⟩ := hchecks old.id hnamed
    obtain rfl : old = found := Option.some.inj ((get?_key hold).symm.trans hfound)
    exact acceptedFor_le_reserved hcheck
  · exact (hunnamed old.id hnamed).trans_le ((hsound old hold).nonneg .reserved)

theorem BooksInOrder.accepted_nonneg (hbooks : BooksInOrder s) (hstored : Stored s request) :
    ∀ item ∈ request.items.rows, 0 ≤ item.accepted :=
  fun item hitem => ((hbooks.requests request (mem_of_get? hstored)).tallied item hitem).nonneg

theorem clearUnissuedAssignment_spec {p : State × HardwareRequest}
    (hstep : clearUnissuedAssignment s request = .ok p) :
    p.2.items = request.items ∧ p.1.products = s.products := by
  simp only [clearUnissuedAssignment, bind_ok, require_ok, exists_const] at hstep
  obtain ⟨-, hstep⟩ := hstep
  split at hstep
  · rw [pure_ok] at hstep
    exact hstep ▸ ⟨rfl, rfl⟩
  · simp only [bind_ok, pure_ok] at hstep
    obtain ⟨_, -, -, -, rfl⟩ := hstep
    exact ⟨rfl, rfl⟩

theorem squared_cancel (hbooks : BooksInOrder s) (h : Squared s)
    (hstep : cancelRequest s requestId reason = .ok t) :
    Squared t := by
  simp only [cancelRequest, State.lockedRequest, bind_ok, orRefuse_ok, require_ok, pure_ok,
    exists_const] at hstep
  obtain ⟨locked, hget, haccepted, -, _, -, p, hclear, m, hrelease, rfl⟩ := hstep
  have hstored := stored_of_get? hget
  have hcleared : Squared p.1 ∧ Stored p.1 p.2 ∧ p.2.status = .accepted ∧
      p.2.items = locked.items := by
    refine ⟨?_, (handsOn_clearUnissuedAssignment hstored hclear).stored,
      (handsOn_clearUnissuedAssignment hstored hclear).status.trans haccepted,
      (clearUnissuedAssignment_spec hclear).1⟩
    simp only [clearUnissuedAssignment, bind_ok, require_ok, exists_const] at hclear
    obtain ⟨-, hclear⟩ := hclear
    split at hclear
    · rw [pure_ok] at hclear
      exact hclear ▸ h
    · simp only [bind_ok, pure_ok] at hclear
      obtain ⟨_, -, -, -, rfl⟩ := hclear
      exact squared_rewrite h hstored rfl (fun _ => rfl) (fun _ => rfl) rfl
  obtain ⟨hp, hstoredP, hstatus, hitems⟩ := hcleared
  have hposted := releaseRequestReservation_spec
    (hitems ▸ hbooks.accepted_nonneg hstored) hrelease
  refine squared_save hp hstoredP rfl hposted.requests hposted.products (hposted.sound hp.sound)
    (fun productId => ?_) (fun productId => ?_) rfl
  · rw [HardwareRequest.demand_eq_zero (by simp), HardwareRequest.demand_eq hstatus, move_apply]
    simp
  · rw [HardwareRequest.outstanding_eq_zero (by simp [RequestStatus.out]),
      HardwareRequest.outstanding_eq_zero (by simp [RequestStatus.out, hstatus]), move_apply]
    simp

/-- **Cancelled in full.** While its items stand as they were accepted, a cancelled request gives
back exactly the units that its acceptance took. -/
theorem cancel_undoes_accept {u v : State} {accepted : Option (List (Nat × Int))}
    (haccept : acceptRequest s requestId accepted = .ok t)
    (hitems : (u.requests.get? requestId).map HardwareRequest.items =
      (t.requests.get? requestId).map HardwareRequest.items)
    (hcancel : cancelRequest u requestId reason = .ok v) :
    ∃ taken : Nat → Int, (∀ productId, 0 ≤ taken productId) ∧
      t.products = s.products.credit (fun id => move .available .reserved (taken id)) ∧
      v.products = u.products.credit fun id => move .reserved .available (taken id) := by
  simp only [acceptRequest, State.lockedRequest, bind_ok, orRefuse_ok, require_ok, pure_ok,
    exists_const] at haccept
  obtain ⟨locked, hget, -, -, hrange, -, m, hreserve, rfl⟩ := haccept
  have hnonneg : ∀ item ∈ locked.items.rows.map fun item =>
      { item with accepted := acceptedQuantity accepted item }, 0 ≤ item.accepted := by
    intro item hitem
    obtain ⟨old, hold, rfl⟩ := List.mem_map.mp hitem
    exact (hrange old hold).1
  have hreserved := reserveForRequest_spec hnonneg hreserve
  simp only [cancelRequest, State.lockedRequest, bind_ok, orRefuse_ok, require_ok, pure_ok,
    exists_const] at hcancel
  obtain ⟨request, hfound, -, -, _, -, p, hclear, _, hrelease, rfl⟩ := hcancel
  obtain ⟨hsame, hproducts⟩ := clearUnissuedAssignment_spec hclear
  have hid : locked.id = requestId := key_of_get? hget
  simp only [hfound, State.saveRequest, hreserved.requests, get?_put, key_request, hid, hget,
    Option.map_some, if_true, Option.some.injEq] at hitems
  rw [hitems] at hsame
  have hreleased := releaseRequestReservation_spec (hsame ▸ hnonneg) hrelease
  rw [hsame] at hreleased
  exact ⟨_, acceptedFor_nonneg hnonneg, hreserved.products, hproducts ▸ hreleased.products⟩

def drillCancelled : List Operation :=
  [.submit 5 1 9 [(7, 2)], .accept 5 none, .adjust 7 3 0 0, .cancel 5 "late"]

theorem cancel_undoes_accept_drill :
    (run step drillStore drillCancelled).bucket 7 .available = 5 ∧
      ∃ taken : Nat → Int, (run step drillStore drillCancelled).products =
        (run step drillStore (drillCancelled.take 3)).products.credit
          fun id => move .reserved .available (taken id) := by
  have haccept : acceptRequest (run step drillStore (drillCancelled.take 1)) 5 none =
      .ok (run step drillStore (drillCancelled.take 2)) := rfl
  have hcancel : cancelRequest (run step drillStore (drillCancelled.take 3)) 5 "late" =
      .ok (run step drillStore drillCancelled) := rfl
  obtain ⟨taken, -, -, hback⟩ := cancel_undoes_accept haccept (by rfl) hcancel
  exact ⟨rfl, taken, hback⟩

end Review

section Handover

variable {requestId : Nat} {request : HardwareRequest} {p : State × HardwareRequest}
variable {rejects : List Reject} {payloads : List String} {rows : List RequestItem}

theorem keeps_issue (rejects : List Reject) (item : RequestItem) : Keeps (issue rejects item) := by
  intro product hsound hcheck
  simp only [issue, bind_ok, require_ok] at hcheck
  obtain ⟨_, hbroken, hheld⟩ := hcheck
  have hnonneg := rejectOf_nonneg rejects item.id
  have hmoved : (product.quantities +
      move .reserved .issued (item.accepted - (rejectOf rejects item.id).1)).Sound :=
    hsound.move (by simp) (by simp) (by omega) (by omega)
  have hleft : (rejectOf rejects item.id).1 ≤ (product.quantities +
      move .reserved .issued (item.accepted - (rejectOf rejects item.id).1)) .reserved := by
    simp [move_apply]
    omega
  simp only [issue, issueEntry]
  split
  · rw [← add_assoc]
    exact hmoved.move (by simp) (by simp) hnonneg hleft
  · rw [← add_sub_assoc, ← add_sub_assoc]
    exact hmoved.remove (by simp) hleft

theorem issueEntry_columns (accepted broken : Int) (disposition : Disposition) :
    issueEntry accepted broken disposition .reserved = -accepted ∧
      issueEntry accepted broken disposition .issued = accepted - broken := by
  cases disposition with
  | needsFix =>
    simp [issueEntry, move_apply]
    omega
  | remove => simp [issueEntry, move_apply, gain_apply]

theorem total_select {items : List RequestItem} {select : RequestItem → Bool}
    (hperm : items.Perm (rows.filter select)) (f : RequestItem → StockPosting) (productId : Nat)
    (column : Column) :
    Posting.total (items.map f) productId column = (rows.map fun item =>
      if select item ∧ productId = (f item).account then (f item).entry column else 0).sum := by
  rw [total_apply, map_map, (hperm.map _).sum_eq]
  clear hperm
  induction rows with
  | nil => rfl
  | cons item _ ih =>
    rw [filter_cons, map_cons, sum_cons, ← ih]
    by_cases hselect : select item
    · simp [hselect]
    · simp [hselect]

theorem squared_issueIndividualAssets (h : Squared s) (hstored : Stored s request)
    (hlinked : Relinks request p) (hstep : issueIndividualAssets s request payloads = .ok p) :
    Squared p.1 := by
  simp only [issueIndividualAssets] at hstep
  split at hstep
  · rw [pure_ok] at hstep
    exact hstep ▸ h
  · simp only [bind_ok, pure_ok] at hstep
    obtain ⟨-, -, _, -, -, -, _, -, picks, -, rfl⟩ := hstep
    refine squared_rewrite (h.of_eq rfl rfl) hstored hlinked.id (fun productId => ?_)
      (fun productId => ?_) (map_of_unlinked _ (fun _ => rfl) hlinked.items)
    · have hsame := map_of_unlinked (RequestItem.acceptedOf · productId) (fun _ => rfl) hlinked.items
      simp only [HardwareRequest.demand, Table.sum, hsame]
    · have hsame := map_of_unlinked (RequestItem.outstandingOf · productId) (fun _ => rfl)
        hlinked.items
      simp only [HardwareRequest.outstanding, Table.sum, hsame]

theorem squared_issue {actorId : Nat} {now : Int} (hbooks : BooksInOrder s) (h : Squared s)
    (hstep : issueRequest s requestId actorId now payloads rejects = .ok t) :
    Squared t := by
  simp only [issueRequest, issueItems, State.lockedRequest, bind_ok, orRefuse_ok, require_ok,
    pure_ok, exists_const] at hstep
  obtain ⟨locked, hget, haccepted, -, -, -, -, p, hassets, _, ⟨m, hpost, rfl⟩, -, -, rfl⟩ := hstep
  have hstored := stored_of_get? hget
  have hlinked := relinks_issueIndividualAssets hbooks hstored
    (hbooks.unlent hstored (by rw [haccepted]; decide)) hassets
  have hp := squared_issueIndividualAssets h hstored hlinked hassets
  have hstatus := hlinked.status.trans haccepted
  have horder := hlinked.books.requests p.2 (mem_of_get? hlinked.stored)
  have hnonneg := hlinked.books.accepted_nonneg hlinked.stored
  have hposted := post_spec (fun posting hposting => by
    obtain ⟨item, -, rfl⟩ := List.mem_map.mp hposting
    exact keeps_issue rejects item) hpost
  have htotal := total_select (perm_insertionSort
    (fun a b : RequestItem => a.productId ≤ b.productId)
    (p.2.items.rows.filter fun item => 0 < item.accepted)) (issue rejects)
  rw [saveRequest_saveRequest _ (by rfl)]
  refine squared_save hp hlinked.stored rfl hposted.requests hposted.products
    (hposted.sound hp.sound) (fun productId => ?_) (fun productId => ?_) ?_
  · rw [HardwareRequest.demand_eq_zero (by simp), HardwareRequest.demand_eq hstatus, htotal,
      acceptedFor, ← List.sum_map_add]
    refine (List.sum_eq_zero fun n hn => ?_).symm
    obtain ⟨item, hitem, rfl⟩ := List.mem_map.mp hn
    have hitemNonneg := hnonneg item hitem
    by_cases hid : productId = item.productId
    · by_cases hpositive : 0 < item.accepted
      · simp [hid, hpositive, issue, issueEntry_columns]
      · simp [hid, hpositive]
        omega
    · simp [hid, issue]
  · rw [HardwareRequest.outstanding_eq (.inl rfl),
      HardwareRequest.outstanding_eq_zero (by simp [RequestStatus.out, hstatus]), htotal, zero_add,
      sum_mapRows]
    refine congrArg List.sum (map_congr_left fun item hitem => ?_)
    have hkept := horder.kept (not_handedOver_accepted hstatus) item hitem
    obtain ⟨hreturned, hdamaged, hmissing⟩ := (horder.tallied item hitem).zero hkept
    have hproduct : (issueItem rejects item).productId = item.productId := by
      unfold issueItem
      split <;> rfl
    unfold RequestItem.outstandingOf
    rw [hproduct]
    by_cases hid : productId = item.productId
    · unfold remainingQuantity issueItem
      by_cases hpositive : 0 < item.accepted
      · simp [hid, hpositive, issue, issueEntry_columns, hreturned, hdamaged, hmissing]
      · simp [hid, hpositive]
        omega
    · simp [hid, issue]
  · rw [mapRows, map_map]
    refine map_congr_left fun item _ => ?_
    simp only [Function.comp_apply, issueItem]
    split <;> rfl

end Handover

section Returns

variable {requestId makerspaceId : Nat} {request : HardwareRequest} {p q : State × HardwareRequest}
variable {resolutions : List Resolution} {entries : List ResolutionEntry} {loan : PublicToolLoan}
variable {boxCode payload : String}

theorem totalMoves_reserved (resolutions : List Resolution) (productId : Nat) :
    totalMoves resolutions productId .reserved = 0 := by
  unfold totalMoves
  induction resolutions with
  | nil => rfl
  | cons resolution _ ih =>
    rw [map_cons, sum_cons, Pi.add_apply, ih, add_zero]
    split
    · simp [returnEntry, move_apply]
    · rfl

theorem finalizeReturnStatus_shares (request : HardwareRequest) (productId : Nat) :
    (finalizeReturnStatus request).demand productId = 0 ∧
      (finalizeReturnStatus request).outstanding productId =
        request.items.sum (·.outstandingOf productId) ∧
      (finalizeReturnStatus request).items = request.items := by
  unfold finalizeReturnStatus
  split
  · next hall =>
      have hnone : request.items.sum (·.outstandingOf productId) = 0 := by
        refine Table.sum_eq_zero fun item hitem => ?_
        have hresolved := hall item hitem
        unfold RequestItem.outstandingOf remainingQuantity
        split <;> omega
      split
      · exact ⟨if_neg (by simp), (if_neg (by simp [RequestStatus.out])).trans hnone.symm, rfl⟩
      · exact ⟨if_neg (by simp), (if_neg (by simp [RequestStatus.out])).trans hnone.symm, rfl⟩
  · exact ⟨if_neg (by simp), if_pos (.inr rfl), rfl⟩

theorem returnItems_credit (hresolves : ∀ resolution ∈ resolutions, Resolves request resolution)
    (hstep : returnItems s request resolutions = .ok p) :
    Rewritten s request p ∧ p.1.products = s.products.credit (totalMoves resolutions) ∧
      ((∀ product ∈ s.products, product.quantities.Sound) →
        ∀ product ∈ p.1.products, product.quantities.Sound) ∧
      p.2 = { request with
        items := request.items.putAll ((counted resolutions).map resolveItem) } := by
  simp only [returnItems, bind_ok, pure_ok] at hstep
  obtain ⟨m, hpost, rfl⟩ := hstep
  have hposted := post_spec (fun posting hposting => by
    obtain ⟨resolution, hresolution, rfl⟩ := List.mem_map.mp hposting
    have hone := hresolves resolution (mem_filter.mp hresolution).1
    exact keeps_resolve hone.returned hone.damaged hone.missing) hpost
  refine ⟨rewritten_save rfl ?_ hposted.loans, hposted.products.trans ?_, hposted.sound, rfl⟩
  · rw [← hposted.requests]
    rfl
  · congr 1
    funext productId
    rw [Posting.total_map, ← totalMoves_counted hresolves]
    rfl

/-- A request that is out is settled after its resolutions are booked. -/
theorem squared_resolved (h : Squared s) (hstored : Stored s request) (hout : request.status.out)
    (hbuild : buildResolutions s request entries = .ok resolutions)
    (hnodup : (entries.map ResolutionEntry.itemId).Nodup)
    (hstep : returnItems s request resolutions = .ok p) (hlater : Rewritten p.1 p.2 q)
    (hsame : q.2.items.rows.map RequestItem.unlinked = p.2.items.rows.map RequestItem.unlinked)
    (hproducts : q.1.products = p.1.products) :
    Squared (q.1.saveRequest (finalizeReturnStatus q.2)) := by
  obtain ⟨hresolves, hids, -⟩ := resolves_of_buildResolutions hbuild
  obtain ⟨hreturned, hcredit, hsound, hwritten⟩ := returnItems_credit hresolves hstep
  have hid : (finalizeReturnStatus q.2).id = request.id :=
    (finalizeReturnStatus_id q.2).trans (hreturned.trans hlater).id
  have hsaved : Squared ({ s with products := p.1.products }.saveRequest
      (finalizeReturnStatus q.2)) := by
    refine squared_save h hstored hid rfl hcredit (hsound h.sound) (fun productId => ?_)
      (fun productId => ?_) ?_
    · have hstatus : request.status ≠ .accepted := by
        rcases hout with hstatus | hstatus <;> simp [hstatus]
      rw [(finalizeReturnStatus_shares q.2 productId).1,
        HardwareRequest.demand_eq_zero hstatus, totalMoves_reserved, add_zero]
    · have hitems := map_of_unlinked (RequestItem.outstandingOf · productId) (fun _ => rfl) hsame
      rw [(finalizeReturnStatus_shares q.2 productId).2.1, HardwareRequest.outstanding_eq hout,
        ← totalMoves_outstanding hresolves (hids ▸ hnodup), Table.sum, hitems, hwritten]
      rfl
    · rw [(finalizeReturnStatus_shares q.2 0).2.2,
        map_of_unlinked RequestItem.productId (fun _ => rfl) hsame, hwritten]
      refine map_putAll fun item hitem old hold => ?_
      obtain ⟨resolution, hresolution, rfl⟩ := List.mem_map.mp hitem
      have hmem := (hresolves resolution (mem_filter.mp hresolution).1).item
      obtain rfl : resolution.item = old := Option.some.inj ((get?_key hmem).symm.trans hold)
      rfl
  exact hsaved.of_eq hproducts ((hreturned.trans hlater).books _ hid).requests

theorem squared_return (h : Squared s)
    (hstep : returnRequest s requestId boxCode entries = .ok t) :
    Squared t := by
  simp only [returnRequest, checkReturnEntries, requireReturnable, flipIndividualAssetReturns,
    State.lockedRequest, bind_ok, orRefuse_ok, require_ok, pure_ok, exists_const] at hstep
  obtain ⟨⟨hnodup, -, -⟩, locked, hget, ⟨-, hout⟩, _, -, _, hbuild, p, hitems, q, hflips,
    rfl⟩ := hstep
  obtain ⟨hflipped, hsame⟩ := flipReturns_spec hflips
  have hproducts : q.1.products = p.1.products := by
    refine foldlM_preserves (I := fun q : State × HardwareRequest => q.1.products = p.1.products)
      (fun before _ after _ hbefore hturn => ?_) rfl hflips
    unfold flipReturn at hturn
    split at hturn
    · simp only [bind_ok, pure_ok] at hturn
      obtain ⟨_, -, _, -, _, -, rfl⟩ := hturn
      exact hbefore
    · rw [pure_ok] at hturn
      exact hturn ▸ hbefore
  have hresolved := squared_resolved h (stored_of_get? hget) hout hbuild hnodup hitems hflipped
    hsame hproducts
  exact hresolved.of_eq rfl rfl

theorem squared_returnDirectLoan {loanId : Nat} (hbooks : BooksInOrder s) (h : Squared s)
    (hstep : returnDirectLoan s loanId payload entries = .ok t) :
    Squared t := by
  simp only [returnDirectLoan, State.lockedRequest, bind_ok, orRefuse_ok, require_ok, pure_ok,
    exists_const] at hstep
  obtain ⟨hnodup, loan, hloan, -, hopen, _, -, request, hget, p, hresolve, rfl⟩ := hstep
  obtain ⟨_, hbacking, -, hstatus⟩ := hbooks.loans loan (mem_of_get? hloan) hopen
  obtain rfl := Option.some.inj (hget.symm.trans hbacking)
  have hstored := stored_of_get? hget
  have hfinal : Squared (p.1.saveRequest (finalizeReturnStatus p.2)) := by
    unfold resolveDirectLoan at hresolve
    split at hresolve
    · simp only [bind_ok, pure_ok] at hresolve
      obtain ⟨_, hbuild, -, -, q, hitems, m, hflips, rfl⟩ := hresolve
      have hflipped : SameBooks q.1 m ∧ m.products = q.1.products := by
        refine foldlM_preserves (I := fun m : State => SameBooks q.1 m ∧ m.products = q.1.products)
          (fun before _ after _ hbefore hturn =>
            ⟨hbefore.1.trans (sameBooks_flipDirectLoanAssets hturn), ?_⟩)
          ⟨SameBooks.refl _, rfl⟩ hflips
        unfold flipDirectLoanAssets at hturn
        split at hturn
        · simp only [bind_ok, pure_ok] at hturn
          obtain ⟨_, -, rfl⟩ := hturn
          exact hbefore.2
        · rw [pure_ok] at hturn
          exact hturn ▸ hbefore.2
      refine squared_resolved h hstored (.inl hstatus) hbuild hnodup hitems ⟨rfl, fun new _ => ?_⟩
        rfl hflipped.2
      exact ⟨congrArg (·.put new) hflipped.1.requests, hflipped.1.loans⟩
    · simp only [bind_ok, pure_ok] at hresolve
      obtain ⟨_, -, rfl⟩ := hresolve
      refine squared_rewrite h hstored (finalizeReturnStatus_id request) (fun productId => ?_)
        (fun productId => ?_) (by rw [(finalizeReturnStatus_shares request 0).2.2])
      · rw [(finalizeReturnStatus_shares request productId).1,
          HardwareRequest.demand_eq_zero (by simp [hstatus])]
      · rw [(finalizeReturnStatus_shares request productId).2.1,
          HardwareRequest.outstanding_eq (.inl hstatus)]
  exact hfinal.of_eq rfl rfl

theorem squared_returnTool {requesterId : Nat} {reportId : Option Nat} (hbooks : BooksInOrder s)
    (h : Squared s) (hstep : returnTool s makerspaceId requesterId payload reportId = .ok t) :
    Squared t := by
  simp only [returnTool, requirePublicReturnLedger, State.lockedRequest, bind_ok, orRefuse_ok,
    require_ok, exists_const] at hstep
  obtain ⟨_, -, loan, -, -, request, hget, ⟨-, -, hstatus, -, hledger⟩, _, -, p, hitems,
    hreport⟩ := hstep
  have hwhole : ∀ item ∈ request.items.rows, 0 < item.issued ∧ item.returned = 0 ∧
      item.damaged = 0 ∧ item.missing = 0 := by
    intro item hitem
    obtain ⟨hissued, -, -, hreturned, hdamaged, hmissing, -⟩ := hledger item hitem
    exact ⟨hissued, hreturned, hdamaged, hmissing⟩
  have hwritten := (returnedItems_spec (hbooks.requests request (mem_of_get? hget)).tallied
    hwhole hitems).1
  have hcredit := (returnRequestItems_spec (fun item hitem =>
    ⟨(hwhole item hitem).1, (hwhole item hitem).2.1⟩) hitems).1
  have hshare : ∀ productId, request.outstanding productId = unitsOf request.handed productId := by
    intro productId
    rw [HardwareRequest.outstanding_eq (.inl hstatus), unitsOf, HardwareRequest.handed, map_map]
    refine congrArg List.sum (map_congr_left fun item hitem => ?_)
    obtain ⟨-, hreturned, hdamaged, hmissing⟩ := hwhole item hitem
    simp [RequestItem.outstandingOf, remainingQuantity, hreturned, hdamaged, hmissing]
  have hfinal : (∀ product ∈ p.1.products, product.quantities.Sound) ∧
      p.2.items.rows.map RequestItem.productId = request.items.rows.map RequestItem.productId := by
    simp only [returnRequestItems, bind_ok, pure_ok] at hitems
    obtain ⟨m, hpost, rfl⟩ := hitems
    have hposted := post_spec (fun posting hposting => by
      obtain ⟨item, hitem, rfl⟩ := List.mem_map.mp hposting
      have hpositive : 0 < item.issued - item.returned := by simpa using (mem_filter.mp hitem).2
      intro product hsound hcheck
      simp only [returnToAvailable, require_ok] at hcheck
      exact hsound.move (by simp) (by simp) hpositive.le hcheck) hpost
    refine ⟨hposted.sound h.sound, map_putAll fun item hitem old hold => ?_⟩
    obtain ⟨row, hrow, rfl⟩ := List.mem_map.mp hitem
    have hrow := get?_key (t := request.items) (mem_filter.mp hrow).1
    obtain rfl : row = old := Option.some.inj (hrow.symm.trans hold)
    rfl
  have hclosed : Squared ({ s with products := p.1.products }.saveRequest
      { p.2 with status := .returned }) := by
    refine squared_save h (stored_of_get? hget) hwritten.id rfl hcredit hfinal.1
      (fun productId => ?_) (fun productId => ?_) hfinal.2
    · rw [HardwareRequest.demand_eq_zero (by simp),
        HardwareRequest.demand_eq_zero (by simp [hstatus]), move_apply]
      simp
    · rw [HardwareRequest.outstanding_eq_zero (by simp [RequestStatus.out]), hshare, move_apply]
      simp
  have hreported := sameBooks_reportProblem hreport
  refine hclosed.of_eq ?_ (hreported.requests.trans
    (hwritten.books { p.2 with status := .returned } hwritten.id).requests)
  rw [reportProblem_eq hreport]
  rfl

end Returns

section Checkouts

variable {handout handout' : Handout} {ids : CheckoutIds} {payloads : List String}

/-- The counted units have left the available bucket since `s`. -/
structure Outgoing (s : State) (handout : Handout) : Prop where
  products : handout.state.products = s.products.credit fun productId =>
    move .available .issued (unitsOf handout.quantities productId)
  requests : handout.state.requests = s.requests
  sound : ∀ product ∈ handout.state.products, product.quantities.Sound
  stocked : ∀ entry ∈ handout.quantities, (s.products.get? entry.1).isSome

theorem outgoing_issue {quantity : Int} (h : Outgoing s handout) (hquantity : 0 ≤ quantity)
    (hstep : handout.issue productId quantity = .ok handout') :
    Outgoing s handout' := by
  have hsound : ∀ product ∈ handout'.state.products, product.quantities.Sound := by
    simp only [Handout.issue, issueProduct, bind_ok, pure_ok] at hstep
    obtain ⟨m, hpost, rfl⟩ := hstep
    refine (post_spec (forall_mem_singleton.mpr fun product hsound hcheck => ?_) hpost).sound h.sound
    simp only [require_ok] at hcheck
    exact hsound.move (by simp) (by simp) hquantity hcheck
  obtain ⟨product, hget, rfl⟩ := issue_spec hstep
  refine ⟨?_, h.requests, hsound, fun entry hentry => ?_⟩
  · simp only [h.products, credit_credit, unitsOf_addCount, move_add]
    congr 1
    funext other
    split <;> simp
  · rcases mem_addCount hentry with hid | ⟨old, hold, hid⟩
    · rw [h.products, get?_credit] at hget
      rw [hid, ← Option.isSome_map (f := fun row => Account.post _ row), hget]
      rfl
    · exact hid ▸ h.stocked old hold

theorem outgoing_checkoutTarget {requirePublic : Bool} {qr : QrCode} (h : Outgoing s handout)
    (hstep : checkoutTarget requirePublic handout qr = .ok handout') :
    Outgoing s handout' := by
  simp only [checkoutTarget] at hstep
  split at hstep
  · simp only [checkoutProduct, bind_ok] at hstep
    obtain ⟨_, -, -, -, hissue⟩ := hstep
    exact outgoing_issue h Int.one_nonneg hissue
  · simp only [checkoutAsset, bind_ok, pure_ok] at hstep
    obtain ⟨_, -, _, hissue, rfl⟩ := hstep
    obtain ⟨hproducts, hrequests, hsound, hstocked⟩ := outgoing_issue h Int.one_nonneg hissue
    exact ⟨hproducts, hrequests, hsound, hstocked⟩
  · simp only [checkoutBox, bind_ok, pure_ok] at hstep
    obtain ⟨_, -, -, -, -, -, -, -, -, -, -, -, issued, hissue, _, -, rfl⟩ := hstep
    obtain ⟨hproducts, hrequests, hsound, hstocked⟩ : Outgoing s issued :=
      foldlM_preserves (fun _ _ _ _ hm hturn => outgoing_issue hm Int.one_nonneg hturn) h hissue
    exact ⟨hproducts, hrequests, hsound, hstocked⟩

theorem issuedRequest_outstanding (id makerspaceId requesterId issuedBy : Nat) (now : Int)
    (quantities : List (Nat × Int)) (productId : Nat) :
    (issuedRequest id makerspaceId requesterId issuedBy now quantities).outstanding productId =
      unitsOf quantities productId := by
  rw [HardwareRequest.outstanding_eq (.inl rfl)]
  refine congrArg List.sum (map_enumerate fun entry _ n => ?_)
  simp [RequestItem.outstandingOf, remainingQuantity]

theorem squared_recordHandout {qrs : List QrCode} {source : LoanSource}
    {conflict : String → Refusal} (h : Squared s) (hout : Outgoing s handout)
    (hstep : recordHandout handout ids qrs source conflict = .ok t) :
    Squared t := by
  simp only [recordHandout, createLoan, bind_ok, pure_ok, insertNew_ok] at hstep
  obtain ⟨_, ⟨hfresh, rfl⟩, -, -, -, -, -, -, _, ⟨-, -⟩, rfl⟩ := hstep
  have hfresh' := hfresh
  rw [hout.requests] at hfresh'
  refine squared_enter h hfresh' hout.products hout.sound (fun productId => ?_)
    (fun productId => ?_) (fun item hitem => ?_) ?_
  · rw [HardwareRequest.demand_eq_zero (by simp [issuedRequest]), move_apply]
    simp
  · rw [issuedRequest_outstanding, move_apply]
    simp
  · obtain ⟨entry, hentry, _, rfl⟩ := mem_enumerate hitem
    exact hout.stocked entry hentry
  · apply Table.ext
    change handout.state.requests.rows ++ _ = s.requests.rows ++ _
    rw [hout.requests]

theorem outgoing_start (h : Squared s) (containerId : Option Nat) :
    Outgoing s { state := s, containerId := containerId } where
  products := by simp
  requests := rfl
  sound := h.sound
  stocked := by simp

theorem squared_checkoutTool (h : Squared s) (hstep : checkoutTool s ids payloads = .ok t) :
    Squared t := by
  simp only [checkoutTool, bind_ok] at hstep
  obtain ⟨-, -, _, -, -, -, -, -, -, -, handout, hloop, hrecord⟩ := hstep
  refine squared_recordHandout h ?_ hrecord
  exact foldlM_preserves (fun _ _ _ _ hm hturn => outgoing_checkoutTarget hm hturn)
    (outgoing_start h none) hloop

theorem squared_issueDirectLoan {items : List (Nat × Int)} {containerId : Option Nat}
    (h : Squared s) (hstep : issueDirectLoan s ids payloads items containerId = .ok t) :
    Squared t := by
  simp only [issueDirectLoan, bind_ok, require_ok, exists_const] at hstep
  obtain ⟨hquantities, -, _, -, _, -, -, -, -, scanned, hscans, handout, hitems,
    hrecord⟩ := hstep
  have hscanned : Outgoing s scanned := by
    refine foldlM_preserves (fun before qr after _ hbefore hturn => ?_) (outgoing_start h _) hscans
    simp only [directTarget, bind_ok] at hturn
    obtain ⟨-, -, -, -, hturn⟩ := hturn
    exact outgoing_checkoutTarget hbefore hturn
  refine squared_recordHandout h ?_ hrecord
  refine foldlM_preserves (fun before item after hitem hbefore hturn => ?_) hscanned hitems
  simp only [directItem, bind_ok] at hturn
  obtain ⟨_, -, hturn⟩ := hturn
  exact outgoing_issue hbefore (Int.le_of_lt (hquantities item hitem)) hturn

end Checkouts

theorem squared_step {op : Operation} (hbooks : BooksInOrder s) (h : Squared s)
    (hstep : step s op = .ok t) :
    Squared t := by
  cases op with
  | submit => exact squared_submit h hstep
  | accept => exact squared_accept h hstep
  | reject => exact squared_reject h hstep
  | assignBox => exact squared_assignBox h hstep
  | cancel => exact squared_cancel hbooks h hstep
  | issue => exact squared_issue hbooks h hstep
  | returnItems => exact squared_return h hstep
  | checkoutTool => exact squared_checkoutTool h hstep
  | returnTool => exact squared_returnTool hbooks h hstep
  | issueDirectLoan => exact squared_issueDirectLoan h hstep
  | returnDirectLoan => exact squared_returnDirectLoan hbooks h hstep
  | triage => exact squared_triage h hstep
  | adjust =>
    simp only [step, adjustManualQuantities, bind_ok] at hstep
    obtain ⟨_, -, -, -, hstep⟩ := hstep
    exact squared_applyDeltas h hstep
  | repairFromNeedsFix | moveToNeedsFix =>
    simp only [step, repairFromNeedsFix, moveAvailableToNeedsFix] at hstep
    refine squared_fixAction h (fun q hsound n hpositive hheld => ?_) (by simp [move_apply]) hstep
    exact hsound.move (by simp) (by simp) hpositive.le hheld
  | scrapFromNeedsFix =>
    simp only [step, scrapFromNeedsFix] at hstep
    refine squared_fixAction h (fun q hsound n _ hheld => ?_) (by simp [gain_apply]) hstep
    rw [← add_sub_assoc, ← sub_eq_add_neg]
    exact hsound.remove (by simp) hheld
  | assetFix => exact squared_assetFix h hstep
  | changeTrackingMode => exact squared_changeTrackingMode h hstep
  | generateAssets => exact squared_generateAssets h hstep
  | transfer => exact squared_transfer h hstep
  | stocktake => exact squared_stocktake h hstep
  | rebindQr =>
    simp only [step, rebindQrTarget, bind_ok, pure_ok] at hstep
    obtain ⟨_, -, -, -, -, -, _, -, -, -, -, -, rfl⟩ := hstep
    exact h.of_eq rfl rfl
  | rebindAsset => exact squared_rebindAsset h hstep

/-- **The ledger of the stock.** Whatever operations run: no column is negative, the buckets stay
within the total, and a quantity-tracked product has reserved what accepted requests hold and issued
what is out on requests and loans. -/
theorem units_in_circulation (hbooks : BooksInOrder s) (h : Squared s) (ops : List Operation) :
    ∀ product ∈ (run step s ops).products, (∀ column, 0 ≤ product.quantities column) ∧
      held product.quantities ≤ product.quantities .total ∧
      (product.trackingMode = .quantity →
        product.quantities .reserved = demand (run step s ops) product.id ∧
        product.quantities .issued = outstanding (run step s ops) product.id) := by
  have hrun : BooksInOrder (run step s ops) ∧ Squared (run step s ops) :=
    run_preserves (I := fun s => BooksInOrder s ∧ Squared s)
      (fun _ _ _ hs hstep => ⟨booksInOrder_step hs.1 hstep, squared_step hs.1 hs.2 hstep⟩)
      ⟨hbooks, h⟩ ops
  intro product hproduct
  obtain ⟨hnonneg, hwithin⟩ := hrun.2.sound product hproduct
  exact ⟨hnonneg, hwithin, fun hmode =>
    ⟨hrun.2.reserved product hproduct hmode, hrun.2.issued product hproduct hmode⟩⟩

theorem booksInOrder_drillStore : BooksInOrder drillStore :=
  ⟨by simp [drillStore], by simp [drillStore], by simp [drillStore]⟩

theorem squared_drillStore : Squared drillStore := by
  refine ⟨forall_mem_singleton.mpr ⟨fun column => by cases column <;> decide, by decide⟩,
    forall_mem_singleton.mpr fun _ => rfl, forall_mem_singleton.mpr fun _ => rfl,
    by simp [drillStore]⟩

/-- One drill of the two is still out. -/
theorem units_in_circulation_drill :
    outstanding (run step drillStore drillLoan) 7 = 1 ∧
      ∀ product ∈ (run step drillStore drillLoan).products, product.trackingMode = .quantity →
        product.quantities .issued = outstanding (run step drillStore drillLoan) product.id :=
  ⟨rfl, fun product hproduct hmode => ((units_in_circulation booksInOrder_drillStore
    squared_drillStore drillLoan product hproduct).2.2 hmode).2⟩

end Lending
end SpaceWorks
