import SpaceWorks.Lending.Records

/-!
# How operations move the books

An operation credits every product with a vector, and the books stay balanced when that is what the
other tables changed by.
-/

namespace SpaceWorks
namespace Lending

open Checked Quantities Availability

variable {s t : State}

theorem held_gain (column : Column) (n : Int) :
    held (gain column n) = if column = .total then 0 else n := by
  cases column <;> simp [held, gain]

theorem held_sub (q r : Quantities) : held (q - r) = held q - held r := by
  simp only [held, Pi.sub_apply]
  omega

theorem held_move
    {source destination : Column} (hsource : source ≠ .total) (hdestination : destination ≠ .total)
    (n : Int) : held (move source destination n) = 0 := by
  rw [move, held_sub, held_gain, held_gain, if_neg hsource, if_neg hdestination, sub_self]

theorem Quantities.Sound.move {q : Quantities} (h : q.Sound) {source destination : Column}
    (hsource : source ≠ .total) (hdestination : destination ≠ .total)
    {n : Int} (hn : 0 ≤ n) (hheld : n ≤ q source) :
    (q + Quantities.move source destination n).Sound where
  nonneg column := by
    have hcolumn := h.nonneg column
    rw [Pi.add_apply, move_apply]
    by_cases hs : column = source
    · subst hs
      split <;> simp <;> omega
    · rw [if_neg hs]
      split <;> omega
  within := by
    have hwithin := h.within
    rw [held_add, held_move hsource hdestination, Pi.add_apply, move_apply,
      if_neg hdestination.symm, if_neg hsource.symm]
    omega

theorem Quantities.Sound.remove {q : Quantities} (h : q.Sound)
    {source : Column} (hsource : source ≠ .total) {n : Int} (hheld : n ≤ q source) :
    (q - gain source n - gain .total n).Sound where
  nonneg column := by
    have hcolumn := h.nonneg column
    have hwithin := h.within
    have hle : q source ≤ held q := by
      have hnonneg := h.nonneg
      have h1 := hnonneg .available
      have h2 := hnonneg .reserved
      have h3 := hnonneg .issued
      have h4 := hnonneg .damaged
      have h5 := hnonneg .lost
      have h6 := hnonneg .needsFix
      unfold held
      cases source <;> first | exact absurd rfl hsource | omega
    simp only [Pi.sub_apply, gain_apply]
    by_cases hs : column = source
    · subst hs
      simp [hsource]
      omega
    · by_cases ht : column = .total
      · subst ht
        simp [hs]
        omega
      · simpa [hs, ht] using hcolumn
  within := by
    have hwithin := h.within
    simp only [held_sub, held_gain, Pi.sub_apply, gain_apply]
    simp [hsource, Ne.symm hsource]
    omega

theorem Quantities.Sound.add {q : Quantities} (h : q.Sound)
    {destination : Column} (hdestination : destination ≠ .total) {n : Int} (hn : 0 ≤ n) :
    (q + gain destination n + gain .total n).Sound where
  nonneg column := by
    have hcolumn := h.nonneg column
    simp only [Pi.add_apply, gain_apply]
    split <;> split <;> omega
  within := by
    have hwithin := h.within
    simp only [held_add, held_gain, Pi.add_apply, gain_apply]
    simp [hdestination, Ne.symm hdestination]
    omega

@[simp] theorem held_withTotal (q : Quantities) : held (withTotal q) = held q := rfl

@[simp] theorem withTotal_total (q : Quantities) : withTotal q .total = held q := rfl

theorem withTotal_of_ne (q : Quantities) {column : Column} (h : column ≠ .total) :
    withTotal q column = q column := by
  simp [withTotal, h]

theorem sound_zero : Quantities.Sound 0 := ⟨fun _ => le_refl _, le_refl _⟩

section Postings

def Keeps (posting : StockPosting) : Prop :=
  ∀ product : InventoryProduct, product.quantities.Sound →
    posting.check product = .ok ⟨⟩ → (product.quantities + posting.entry).Sound

theorem rejectOf_nonneg (rejects : List Reject) (itemId : Nat) :
    0 ≤ (rejectOf rejects itemId).1 := by
  unfold rejectOf
  split
  · next reject hfind =>
      have hmem := List.mem_of_find?_eq_some hfind
      simp at hmem
      exact le_of_lt hmem.2
  · exact le_refl 0

theorem keeps_resolve {resolution : Resolution} (hreturned : 0 ≤ resolution.returned)
    (hdamaged : 0 ≤ resolution.damaged) (hmissing : 0 ≤ resolution.missing) :
    Keeps (resolve resolution) := by
  intro product hsound hcheck
  simp [resolve] at hcheck
  unfold Resolution.quantity at hcheck
  simp only [resolve, returnEntry, ← add_assoc]
  have hfirst : (product.quantities + move .issued .available resolution.returned).Sound :=
    hsound.move (by simp) (by simp) hreturned (by omega)
  have hsecond : (product.quantities + move .issued .available resolution.returned
      + move .issued .damaged resolution.damaged).Sound :=
    hfirst.move (by simp) (by simp) hdamaged (by simp [move_apply]; omega)
  exact hsecond.move (by simp) (by simp) hmissing (by simp [move_apply]; omega)

/-- What a list of postings leaves behind. -/
structure Posted (s t : State) (d : Nat → Quantities) : Prop where
  eq : t = { s with products := s.products.credit d }
  sound : (∀ product ∈ s.products, product.quantities.Sound) →
    ∀ product ∈ t.products, product.quantities.Sound

theorem post_spec {postings : List StockPosting} (hkeeps : ∀ posting ∈ postings, Keeps posting)
    (h : s.post postings = .ok t) : Posted s t (Posting.total postings) := by
  simp [State.post] at h
  obtain ⟨_, hbook, rfl⟩ := h
  refine ⟨by rw [bookAll_eq_credit hbook], ?_⟩
  exact bookAll_rows (I := fun product => product.quantities.Sound)
    (fun posting hposting product _ hsound hcheck =>
      hkeeps posting hposting product hsound hcheck) hbook

namespace Posted

variable {d : Nat → Quantities}

theorem products (h : Posted s t d) : t.products = s.products.credit d := by rw [h.eq]

theorem requests (h : Posted s t d) : t.requests = s.requests := by rw [h.eq]

theorem assets (h : Posted s t d) : t.assets = s.assets := by rw [h.eq]

theorem loans (h : Posted s t d) : t.loans = s.loans := by rw [h.eq]

theorem qrCodes (h : Posted s t d) : t.qrCodes = s.qrCodes := by rw [h.eq]

end Posted

end Postings

theorem Consistent.sound (h : Consistent s) : ∀ product ∈ s.products, product.quantities.Sound :=
  fun product hproduct => (h.balanced product hproduct).sound

/-- The rule of the books: products are credited with what their ledgers change by. -/
theorem balanced_credit {d : Nat → Quantities} (h : Consistent s)
    (hproducts : t.products = s.products.credit d)
    (hsound : ∀ product ∈ t.products, product.quantities.Sound)
    (hquantity : ∀ product ∈ s.products, product.trackingMode = .quantity →
      d product.id .reserved = demand t product.id - demand s product.id ∧
        d product.id .issued = outstanding t product.id - outstanding s product.id)
    (hindividual : ∀ product ∈ s.products, product.trackingMode = .individual →
      d product.id = assetCounts t product.id - assetCounts s product.id
        + move .available .reserved (demand t product.id - demand s product.id)) :
    ∀ product ∈ t.products, Balanced t product := by
  intro new hnew
  have hsoundNew := hsound new hnew
  rw [hproducts] at hnew
  obtain ⟨old, hold, rfl⟩ := Table.mem_credit.mp hnew
  have hbalanced := h.balanced old hold
  refine ⟨hsoundNew, fun hmode => ?_, fun hmode => ?_, fun hmode => ?_⟩
  · have hd := (hquantity old hold hmode).1
    have hold := hbalanced.reserved hmode
    change (old.quantities + d old.id) .reserved = demand t old.id
    rw [Pi.add_apply]
    omega
  · have hd := (hquantity old hold hmode).2
    have hold := hbalanced.issued hmode
    change (old.quantities + d old.id) .issued = outstanding t old.id
    rw [Pi.add_apply]
    omega
  · have hd := hindividual old hold hmode
    have hold := hbalanced.mirrored hmode
    change old.quantities + d old.id = _
    have hsplit : move .available .reserved (demand t old.id) =
        move .available .reserved (demand s old.id)
          + move .available .reserved (demand t old.id - demand s old.id) := by
      rw [← move_add]
      congr 1
      omega
    rw [hold, hd, show (Account.post (d (key old)) old).id = old.id from rfl, hsplit]
    abel

theorem assetCounts_congr (h : t.assets = s.assets) (productId : Nat) :
    assetCounts t productId = assetCounts s productId := by
  rw [assetCounts_eq_sum, assetCounts_eq_sum, h]

theorem balanced_frame {product : InventoryProduct} (h : Balanced s product)
    (hrequests : t.requests = s.requests) (hassets : t.assets = s.assets) :
    Balanced t product := by
  have hdemand : demand t product.id = demand s product.id := by
    rw [demand_eq_sum, demand_eq_sum, hrequests]
  have houtstanding : outstanding t product.id = outstanding s product.id := by
    unfold outstanding
    rw [hrequests]
  refine ⟨h.sound, ?_, ?_, ?_⟩
  · rw [hdemand]
    exact h.reserved
  · rw [houtstanding]
    exact h.issued
  · rw [assetCounts_congr hassets, hdemand]
    exact h.mirrored

theorem demand_request_nonneg {request : HardwareRequest} (h : Filed request) (productId : Nat) :
    0 ≤ request.demand productId := by
  unfold HardwareRequest.demand
  split
  · refine Table.sum_nonneg fun item hitem => ?_
    have haccepted := h.accepted item hitem
    unfold RequestItem.acceptedOf
    split <;> omega
  · exact le_refl 0

theorem demand_nonneg (h : Recorded s) (productId : Nat) : 0 ≤ demand s productId := by
  exact Table.sum_nonneg fun r hr => demand_request_nonneg (h.filed r hr) productId

end Lending
end SpaceWorks
