import SpaceWorks.Lending.Lifecycle
import SpaceWorks.Lending.Upkeep

/-!
# The return of a direct loan

What a payload has to report for `return_direct_loan` to take it, and what the return then leaves.
-/

namespace SpaceWorks
namespace Lending

open Checked Quantities Availability TransactionalSystem Table List

variable {s t : State}

section

variable {α β : Type} {R : α → β → Prop} {xs : List α} {ys : List β}

theorem exists_of_mem_left (h : List.Forall₂ R xs ys) {x : α} (hx : x ∈ xs) :
    ∃ y ∈ ys, R x y := by
  induction h with
  | nil => simp at hx
  | @cons _ b _ _ hone _ ih =>
    rcases mem_cons.mp hx with rfl | hx
    · exact ⟨b, mem_cons_self, hone⟩
    · obtain ⟨y, hy, hpair⟩ := ih hx
      exact ⟨y, mem_cons_of_mem _ hy, hpair⟩

theorem exists_of_mem_right (h : List.Forall₂ R xs ys) {y : β} (hy : y ∈ ys) :
    ∃ x ∈ xs, R x y :=
  exists_of_mem_left (R := fun y x => R x y) h.flip hy

variable {request : HardwareRequest} {resolution : Resolution}

def ResolutionEntry.provided (entry : ResolutionEntry) : ReturnOutcome → Int
  | .returned => entry.returned
  | .damaged => entry.damaged
  | .missing => entry.missing

/-- The units an entry reports: by named assets of an individual-tracked product, else by its
counts. -/
def ResolutionEntry.reported (individual : Bool) (entry : ResolutionEntry)
    (outcome : ReturnOutcome) : Int :=
  if individual ∧ entry.assets ≠ [] then countOutcome entry.assets outcome
  else entry.provided outcome

def ResolutionEntry.units (individual : Bool) (entry : ResolutionEntry) : Int :=
  entry.reported individual .returned + entry.reported individual .damaged
    + entry.reported individual .missing

def ResolutionEntry.entry (individual : Bool) (entry : ResolutionEntry) : Quantities :=
  move .issued .available (entry.reported individual .returned)
    + move .issued .damaged (entry.reported individual .damaged)
    + move .issued .lost (entry.reported individual .missing)

structure Reports (s : State) (request : HardwareRequest) (entry : ResolutionEntry)
    (resolution : Resolution) : Prop where
  item : request.items.get? entry.itemId = some resolution.item
  returned : resolution.returned = entry.reported (s.individual resolution.item.productId) .returned
  damaged : resolution.damaged = entry.reported (s.individual resolution.item.productId) .damaged
  missing : resolution.missing = entry.reported (s.individual resolution.item.productId) .missing
  assets : resolution.assetOutcomes = entry.assets
  plain : s.individual resolution.item.productId = true → entry.assets = [] →
    resolution.damaged = 0 ∧ resolution.missing = 0

theorem Reports.quantity {entry : ResolutionEntry} (h : Reports s request entry resolution) :
    resolution.quantity = entry.units (s.individual resolution.item.productId) := by
  rw [Resolution.quantity, h.returned, h.damaged, h.missing, ResolutionEntry.units]

theorem Reports.entry {entry : ResolutionEntry} (h : Reports s request entry resolution) :
    returnEntry resolution = entry.entry (s.individual resolution.item.productId) := by
  rw [returnEntry, h.returned, h.damaged, h.missing, ResolutionEntry.entry]

theorem reports_of_buildResolution {entry : ResolutionEntry}
    (h : buildResolution s request entry = .ok resolution) :
    Reports s request entry resolution := by
  simp only [buildResolution, bind_ok, orRefuse_ok, require_ok, pure_ok, exists_const] at h
  obtain ⟨_, hget, -, ⟨_, _, _⟩, hcounts, -, rfl⟩ := h
  unfold resolvedCounts at hcounts
  split at hcounts
  · next hindividual =>
      unfold individualCounts at hcounts
      split at hcounts
      · next hassets =>
          simp only [bind_ok, pure_ok, Prod.mk.injEq] at hcounts
          obtain ⟨-, -, rfl, rfl, rfl⟩ := hcounts
          refine ⟨hget, ?_, ?_, ?_, rfl, fun _ hnone => absurd hnone hassets⟩ <;>
            exact (if_pos ⟨hindividual, hassets⟩).symm
      · next hassets =>
          simp at hcounts
          obtain ⟨⟨hdamaged, hmissing, -⟩, rfl, rfl, rfl⟩ := hcounts
          refine ⟨hget, ?_, ?_, ?_, rfl, fun _ _ => ⟨hdamaged, hmissing⟩⟩ <;>
            exact (if_neg fun hboth => hassets hboth.2).symm
  · next hquantity =>
      obtain ⟨rfl, rfl, rfl⟩ := hcounts
      refine ⟨hget, ?_, ?_, ?_, rfl, fun hindividual => absurd hindividual hquantity⟩ <;>
        exact (if_neg fun hboth => hquantity hboth.1).symm

theorem reports_of_buildResolutions {entries : List ResolutionEntry} {resolutions : List Resolution}
    (h : buildResolutions s request entries = .ok resolutions) :
    List.Forall₂ (Reports s request) entries resolutions := by
  simp only [buildResolutions, bind_ok, pure_ok, mapM_eq_ok] at h
  obtain ⟨_, hvalidated, -, -, rfl⟩ := h
  exact hvalidated.imp fun _ _ hone => reports_of_buildResolution hone

variable {changes : List (InventoryAsset × AssetStatus)} {loan : PublicToolLoan}
variable {asset : InventoryAsset} {flips : List (InventoryAsset × ReturnOutcome)}

/-- What an asset with an outcome moves. -/
def ReturnOutcome.entry (outcome : ReturnOutcome) : Quantities :=
  assetUnit outcome.status - assetUnit .issued

theorem ReturnOutcome.status_ne_issued (outcome : ReturnOutcome) : outcome.status ≠ .issued := by
  cases outcome <;> simp [ReturnOutcome.status]

theorem ReturnOutcome.entry_eq (outcome : ReturnOutcome) :
    outcome.entry = move .issued .available (if outcome = .returned then 1 else 0)
        + move .issued .damaged (if outcome = .damaged then 1 else 0)
        + move .issued .lost (if outcome = .missing then 1 else 0) := by
  cases outcome <;> funext column <;> cases column <;> rfl

theorem sum_outcomes (outcomes : List (Nat × ReturnOutcome)) :
    (outcomes.map fun outcome => outcome.2.entry).sum =
      move .issued .available (countOutcome outcomes .returned)
        + move .issued .damaged (countOutcome outcomes .damaged)
        + move .issued .lost (countOutcome outcomes .missing) := by
  induction outcomes with
  | nil => simp [countOutcome]
  | cons outcome rest ih =>
    have hcount : ∀ kind, countOutcome (outcome :: rest) kind =
        (if outcome.2 = kind then 1 else 0) + countOutcome rest kind := by
      intro kind
      unfold countOutcome
      by_cases hkind : outcome.2 = kind <;> simp [hkind, add_comm]
    rw [map_cons, sum_cons, ih, ReturnOutcome.entry_eq, hcount, hcount, hcount]
    simp only [move_add]
    abel

theorem sum_returned (assets : List InventoryAsset) :
    (assets.map fun _ => ReturnOutcome.entry .returned).sum =
      move .issued .available (assets.length : Int) := by
  induction assets with
  | nil => simp
  | cons _ _ ih =>
    have hone : ReturnOutcome.entry .returned = move .issued .available 1 := by
      simp [ReturnOutcome.entry_eq]
    rw [map_cons, sum_cons, ih, hone, ← move_add, length_cons]
    congr 1
    omega

def saved (flip : InventoryAsset × ReturnOutcome) : InventoryAsset × AssetStatus :=
  (flip.1, flip.2.status)

def flipOf (flip : InventoryAsset × ReturnOutcome) : Nat × ReturnOutcome :=
  (flip.1.id, flip.2)

structure Held (s : State) (loan : PublicToolLoan) (asset : InventoryAsset) : Prop where
  mem : asset ∈ s.assets
  loaned : asset.id ∈ loan.assetIds
  issued : asset.status = .issued

structure Flips (s : State) (loan : PublicToolLoan) (resolution : Resolution)
    (flips : List (InventoryAsset × ReturnOutcome)) : Prop where
  nodup : (flips.map fun flip => flip.1.id).Nodup
  held : ∀ flip ∈ flips, Held s loan flip.1
  product : ∀ flip ∈ flips, flip.1.productId = resolution.item.productId
  named : ∀ outcome ∈ resolution.assetOutcomes, outcome ∈ flips.map flipOf
  distinct : (resolution.assetOutcomes.map Prod.fst).Nodup
  others : ∀ flip ∈ flips, flipOf flip ∈ resolution.assetOutcomes ∨ flip.2 = .returned
  counts : (flips.map fun flip => flip.2.entry).sum = returnEntry resolution

theorem flips_of_mapM {assets : List InventoryAsset} {outcomes : List (Nat × ReturnOutcome)}
    (h : List.Forall₂ (fun outcome change => ∃ asset,
      assets.find? (fun asset => asset.id = outcome.1) = some asset ∧
        (asset, outcome.2.status) = change) outcomes changes) :
    ∃ flips : List (InventoryAsset × ReturnOutcome),
      changes = flips.map saved ∧ flips.map flipOf = outcomes ∧
      ∀ flip ∈ flips, flip.1 ∈ assets := by
  induction h with
  | nil => exact ⟨[], rfl, rfl, by simp⟩
  | @cons outcome _ _ _ hone _ ih =>
    obtain ⟨asset, hfind, rfl⟩ := hone
    obtain ⟨flips, rfl, rfl, hmem⟩ := ih
    have hid : asset.id = outcome.1 := by simpa using find?_some hfind
    refine ⟨(asset, outcome.2) :: flips, rfl, ?_, ?_⟩
    · rw [map_cons, flipOf, hid]
    · exact forall_mem_cons.mpr ⟨mem_of_find?_eq_some hfind, hmem⟩

/-- The assets that `_flip_direct_loan_assets` selects. -/
def issuedFor (s : State) (loan : PublicToolLoan) (productId : Nat) : List InventoryAsset :=
  (s.assets.rows.filter fun asset =>
    asset.id ∈ loan.assetIds ∧ asset.productId = productId ∧
      asset.makerspaceId = loan.makerspaceId ∧ asset.status = .issued).insertionSort
    fun a b => a.id ≤ b.id

theorem held_of_mem_issuedFor {productId : Nat} (h : asset ∈ issuedFor s loan productId) :
    Held s loan asset ∧ asset.productId = productId := by
  rw [issuedFor, mem_insertionSort, mem_filter, decide_eq_true_eq] at h
  obtain ⟨hmem, hloaned, hproduct, -, hissued⟩ := h
  exact ⟨⟨hmem, hloaned, hissued⟩, hproduct⟩

theorem flips_of_take (hnone : resolution.assetOutcomes = []) (hnonneg : 0 ≤ resolution.returned)
    (hplain : resolution.damaged = 0 ∧ resolution.missing = 0)
    (hlength : resolution.returned ≤ (issuedFor s loan resolution.item.productId).length) :
    Flips s loan resolution
      (((issuedFor s loan resolution.item.productId).take resolution.returned.toNat).map
        fun asset => (asset, .returned)) where
  nodup := by
    rw [map_map]
    exact nodup_take_sorted s _ _
  held := by
    intro flip hflip
    obtain ⟨_, hasset, rfl⟩ := mem_map.mp hflip
    exact (held_of_mem_issuedFor (mem_of_mem_take hasset)).1
  product := by
    intro flip hflip
    obtain ⟨_, hasset, rfl⟩ := mem_map.mp hflip
    exact (held_of_mem_issuedFor (mem_of_mem_take hasset)).2
  named := by simp [hnone]
  distinct := by simp [hnone]
  others := by
    intro flip hflip
    obtain ⟨_, -, rfl⟩ := mem_map.mp hflip
    exact .inr rfl
  counts := by
    have hcount : ((((issuedFor s loan resolution.item.productId).take
        resolution.returned.toNat).length : Nat) : Int) = resolution.returned := by
      rw [length_take]
      omega
    have hsum := sum_returned ((issuedFor s loan resolution.item.productId).take
      resolution.returned.toNat)
    rw [hcount] at hsum
    rw [map_map, returnEntry, hplain.1, hplain.2, move_zero, move_zero, add_zero, add_zero]
    exact hsum

/-- The counts are those of the assets, or nothing is wrong. -/
structure Exact (resolution : Resolution) : Prop where
  named : resolution.assetOutcomes ≠ [] →
    resolution.returned = countOutcome resolution.assetOutcomes .returned ∧
      resolution.damaged = countOutcome resolution.assetOutcomes .damaged ∧
        resolution.missing = countOutcome resolution.assetOutcomes .missing
  plain : resolution.assetOutcomes = [] → resolution.damaged = 0 ∧ resolution.missing = 0
  nonneg : 0 ≤ resolution.returned

theorem flips_of_flippedLoanAssets (hexact : Exact resolution)
    (h : flippedLoanAssets s loan resolution = .ok changes) :
    ∃ flips, changes = flips.map saved ∧ Flips s loan resolution flips := by
  unfold flippedLoanAssets at h
  split at h
  · next hnamed =>
      simp only [bind_ok, require_ok, mapM_eq_ok, orRefuse_ok, pure_ok, exists_const] at h
      obtain ⟨hnodup, hturns⟩ := h
      obtain ⟨flips, rfl, houtcomes, hmem⟩ := flips_of_mapM hturns
      have hids : flips.map (fun flip => flip.1.id) = resolution.assetOutcomes.map Prod.fst := by
        rw [← houtcomes, map_map]
        rfl
      have hentries : flips.map (fun flip => flip.2.entry) =
          resolution.assetOutcomes.map fun outcome => outcome.2.entry := by
        rw [← houtcomes, map_map]
        rfl
      refine ⟨flips, rfl, hids ▸ hnodup, fun flip hflip => (held_of_mem_issuedFor (hmem flip hflip)).1,
        fun flip hflip => (held_of_mem_issuedFor (hmem flip hflip)).2, ?_, hnodup, ?_, ?_⟩
      · intro outcome houtcome
        rwa [houtcomes]
      · intro flip hflip
        exact .inl (houtcomes ▸ mem_map_of_mem hflip)
      · obtain ⟨hreturned, hdamaged, hmissing⟩ := hexact.named hnamed
        rw [hentries, sum_outcomes, returnEntry, hreturned, hdamaged, hmissing]
  · next hnamed =>
      have hnone : resolution.assetOutcomes = [] := not_not.mp hnamed
      have hnonneg := hexact.nonneg
      obtain ⟨hdamaged, hmissing⟩ := hexact.plain hnone
      split at h
      · next hzero =>
          rw [pure_ok] at h
          subst h
          have hreturned : resolution.returned = 0 := by omega
          refine ⟨[], rfl, nodup_nil, by simp, by simp, by simp [hnone], by simp [hnone],
            by simp, ?_⟩
          simp [returnEntry, hreturned, hdamaged, hmissing]
      · next hpositive =>
          simp only [bind_ok, require_ok, pure_ok, exists_const] at h
          obtain ⟨hlength, rfl⟩ := h
          refine ⟨_, ?_, flips_of_take hnone hnonneg ⟨hdamaged, hmissing⟩ hlength⟩
          rw [map_map]
          rfl

structure FlippedBy (s t : State) (loan : PublicToolLoan) (resolutions : List Resolution)
    (flips : List (InventoryAsset × ReturnOutcome)) : Prop where
  state : t = s.saveStatuses (flips.map saved)
  nodup : (flips.map fun flip => flip.1.id).Nodup
  held : ∀ flip ∈ flips, Held s loan flip.1
  named : ∀ resolution ∈ resolutions, s.individual resolution.item.productId = true →
    ∀ outcome ∈ resolution.assetOutcomes, outcome ∈ flips.map flipOf
  distinct : ((resolutions.filter fun resolution =>
    s.individual resolution.item.productId).flatMap fun resolution =>
      resolution.assetOutcomes.map Prod.fst).Nodup
  others : ∀ flip ∈ flips,
    (∃ resolution ∈ resolutions, s.individual resolution.item.productId = true ∧
      flipOf flip ∈ resolution.assetOutcomes) ∨ flip.2 = .returned
  counts : ∀ productId, s.individual productId = true →
    (flips.map fun flip => if flip.1.productId = productId then flip.2.entry else 0).sum =
      (resolutions.map fun resolution =>
        if productId = resolution.item.productId then returnEntry resolution else 0).sum

theorem saveStatuses_append (s : State) (before after : List (InventoryAsset × AssetStatus)) :
    (s.saveStatuses before).saveStatuses after = s.saveStatuses (before ++ after) := by
  simp [State.saveStatuses, putAll_append]

theorem held_before (h : Held (s.saveStatuses (flips.map saved)) loan asset) :
    Held s loan asset ∧ asset.id ∉ flips.map fun flip => flip.1.id := by
  have hmem : asset ∈ s.assets.putAll ((flips.map saved).map fun change =>
      { change.1 with status := change.2 }) := h.mem
  rcases mem_of_mem_putAll hmem with hwritten | ⟨hold, hnot⟩
  · obtain ⟨_, hchange, rfl⟩ := mem_map.mp hwritten
    obtain ⟨flip, -, rfl⟩ := mem_map.mp hchange
    exact absurd h.issued flip.2.status_ne_issued
  · refine ⟨⟨hold, h.loaned, h.issued⟩, ?_⟩
    rw [map_map, map_map] at hnot
    exact hnot

theorem flippedBy_nil (s : State) (loan : PublicToolLoan) : FlippedBy s s loan [] [] where
  state := rfl
  nodup := nodup_nil
  held := by simp
  named := by simp
  distinct := nodup_nil
  others := by simp
  counts := by simp

theorem FlippedBy.skip {rest : List Resolution} (h : FlippedBy s t loan rest flips)
    (hquantity : ¬ s.individual resolution.item.productId = true) :
    FlippedBy s t loan (resolution :: rest) flips where
  state := h.state
  nodup := h.nodup
  held := h.held
  named := forall_mem_cons.mpr ⟨fun hindividual => absurd hindividual hquantity, h.named⟩
  distinct := by
    rw [filter_cons, if_neg hquantity]
    exact h.distinct
  others := by
    intro flip hflip
    refine (h.others flip hflip).imp_left ?_
    rintro ⟨other, hother, hfound⟩
    exact ⟨other, mem_cons_of_mem _ hother, hfound⟩
  counts := by
    intro productId hindividual
    have hne : productId ≠ resolution.item.productId := by
      rintro rfl
      exact hquantity hindividual
    rw [map_cons, sum_cons, if_neg hne, zero_add]
    exact h.counts productId hindividual

theorem FlippedBy.cons {loan : PublicToolLoan} {resolution : Resolution} {rest : List Resolution}
    {first flips : List (InventoryAsset × ReturnOutcome)} (hfirst : Flips s loan resolution first)
    (hindividual : s.individual resolution.item.productId = true)
    (h : FlippedBy (s.saveStatuses (first.map saved)) t loan rest flips) :
    FlippedBy s t loan (resolution :: rest) (first ++ flips) where
  state := by rw [h.state, saveStatuses_append, map_append]
  nodup := by
    rw [map_append, nodup_append']
    refine ⟨hfirst.nodup, h.nodup, fun assetId hleft hright => ?_⟩
    obtain ⟨flip, hflip, rfl⟩ := mem_map.mp hright
    exact (held_before (h.held flip hflip)).2 hleft
  held := by
    intro flip hflip
    rcases mem_append.mp hflip with hflip | hflip
    · exact hfirst.held flip hflip
    · exact (held_before (h.held flip hflip)).1
  named := by
    rw [map_append]
    refine forall_mem_cons.mpr ⟨fun _ outcome houtcome => ?_, fun other hother hmode => ?_⟩
    · exact mem_append_left _ (hfirst.named outcome houtcome)
    · exact fun outcome houtcome => mem_append_right _ (h.named other hother hmode outcome houtcome)
  distinct := by
    rw [filter_cons, if_pos hindividual, flatMap_cons, nodup_append']
    refine ⟨hfirst.distinct, h.distinct, fun assetId hleft hright => ?_⟩
    obtain ⟨outcome, houtcome, rfl⟩ := mem_map.mp hleft
    obtain ⟨flip, hflip, rfl⟩ := mem_map.mp (hfirst.named outcome houtcome)
    obtain ⟨other, hother, hright⟩ := mem_flatMap.mp hright
    obtain ⟨hother, hmode⟩ := mem_filter.mp hother
    obtain ⟨named, hnamed, hid⟩ := mem_map.mp hright
    obtain ⟨later, hlater, rfl⟩ := mem_map.mp (h.named other hother hmode named hnamed)
    refine (held_before (h.held later hlater)).2 ?_
    rw [show later.1.id = flip.1.id from hid]
    exact mem_map_of_mem hflip
  others := by
    intro flip hflip
    rcases mem_append.mp hflip with hflip | hflip
    · exact (hfirst.others flip hflip).imp_left fun hnamed =>
        ⟨resolution, mem_cons_self, hindividual, hnamed⟩
    · refine (h.others flip hflip).imp_left ?_
      rintro ⟨other, hother, hfound⟩
      exact ⟨other, mem_cons_of_mem _ hother, hfound⟩
  counts := by
    intro productId hmode
    rw [map_append, sum_append, map_cons, sum_cons, h.counts productId hmode]
    congr 1
    by_cases hproduct : productId = resolution.item.productId
    · rw [if_pos hproduct, ← hfirst.counts]
      refine congrArg List.sum (map_congr_left fun flip hflip => ?_)
      rw [if_pos ((hfirst.product flip hflip).trans hproduct.symm)]
    · rw [if_neg hproduct]
      refine List.sum_eq_zero fun entry hentry => ?_
      obtain ⟨flip, hflip, rfl⟩ := mem_map.mp hentry
      exact if_neg fun heq => hproduct (heq.symm.trans (hfirst.product flip hflip))

theorem flippedBy_of_flips {resolutions : List Resolution}
    (hexact : ∀ resolution ∈ resolutions, s.individual resolution.item.productId = true →
      Exact resolution) (h : resolutions.foldlM (flipDirectLoanAssets loan) s = .ok t) :
    ∃ flips, FlippedBy s t loan resolutions flips := by
  induction resolutions generalizing s with
  | nil =>
    rw [foldlM_nil, pure_ok] at h
    subst h
    exact ⟨[], flippedBy_nil s loan⟩
  | cons _ _ ih =>
    obtain ⟨hone, hrest⟩ := forall_mem_cons.mp hexact
    rw [foldlM_cons, bind_ok] at h
    obtain ⟨_, hturn, htail⟩ := h
    simp only [flipDirectLoanAssets] at hturn
    split at hturn
    · next hindividual =>
        simp at hturn
        obtain ⟨_, hchanges, rfl⟩ := hturn
        obtain ⟨first, rfl, hfirst⟩ := flips_of_flippedLoanAssets (hone hindividual) hchanges
        obtain ⟨flips, hflips⟩ := ih (s := s.saveStatuses (first.map saved)) hrest htail
        exact ⟨first ++ flips, hflips.cons hfirst hindividual⟩
    · next hquantity =>
        rw [pure_ok] at hturn
        subst hturn
        obtain ⟨flips, hflips⟩ := ih hrest htail
        exact ⟨flips, hflips.skip hquantity⟩

variable {resolutions : List Resolution}

def counted (resolutions : List Resolution) : List Resolution :=
  resolutions.filter fun resolution => 0 < resolution.quantity

def totalMoves (resolutions : List Resolution) (productId : Nat) : Quantities :=
  (resolutions.map fun resolution =>
    if productId = resolution.item.productId then returnEntry resolution else 0).sum

theorem returnEntry_issued (resolution : Resolution) :
    returnEntry resolution .issued = -resolution.quantity := by
  simp only [returnEntry, Pi.add_apply, move_apply, Resolution.quantity]
  simp
  omega

theorem returnEntry_eq_zero {resolution : Resolution}
    (h : Resolves request resolution) (hzero : ¬ 0 < resolution.quantity) :
    returnEntry resolution = 0 := by
  obtain ⟨-, _, _, _, -⟩ := h
  unfold Resolution.quantity at hzero
  have hparts : resolution.returned = 0 ∧ resolution.damaged = 0 ∧ resolution.missing = 0 := by
    omega
  simp [returnEntry, hparts]

theorem totalMoves_counted
    (h : ∀ resolution ∈ resolutions, Resolves request resolution) (productId : Nat) :
    totalMoves (counted resolutions) productId = totalMoves resolutions productId := by
  induction resolutions with
  | nil => rfl
  | cons resolution _ ih =>
    obtain ⟨hone, hrest⟩ := forall_mem_cons.mp h
    unfold totalMoves counted at ih ⊢
    rw [filter_cons, map_cons, sum_cons, ← ih hrest]
    by_cases hpositive : 0 < resolution.quantity
    · rw [if_pos (by simpa using hpositive), map_cons, sum_cons]
    · rw [if_neg (by simpa using hpositive), returnEntry_eq_zero hone hpositive, ite_self, zero_add]

theorem remaining_eq_zero {item : RequestItem}
    (hnonneg : ∀ item ∈ request.items, 0 ≤ remainingQuantity item)
    (hexact : ∀ resolution ∈ resolutions, resolution.quantity = remainingQuantity resolution.item)
    (hcomplete : ∀ item ∈ request.items, 0 < remainingQuantity item →
      ∃ resolution ∈ resolutions, resolution.item = item)
    (hitem : item ∈ request.items.putAll ((counted resolutions).map resolveItem)) :
    remainingQuantity item = 0 := by
  rcases mem_of_mem_putAll hitem with hwritten | ⟨hold, hnot⟩
  · obtain ⟨resolution, hresolution, rfl⟩ := mem_map.mp hwritten
    have hquantity := hexact resolution (mem_filter.mp hresolution).1
    simp only [remainingQuantity, resolveItem, Resolution.quantity] at hquantity ⊢
    omega
  · by_contra hremaining
    have hpositive : 0 < remainingQuantity item := by
      have hitemNonneg := hnonneg item hold
      omega
    obtain ⟨resolution, hresolution, rfl⟩ := hcomplete item hold hpositive
    refine hnot (mem_map.mpr ⟨resolveItem resolution, mem_map_of_mem ?_, rfl⟩)
    refine mem_filter.mpr ⟨hresolution, ?_⟩
    rw [hexact resolution hresolution]
    simpa using hpositive

/-- The outstanding units change by what the products are credited with. -/
theorem totalMoves_outstanding
    (hresolves : ∀ resolution ∈ resolutions, Resolves request resolution)
    (hnodup : (resolutions.map fun resolution => resolution.item.id).Nodup) (productId : Nat) :
    (request.items.putAll ((counted resolutions).map resolveItem)).sum (·.outstandingOf productId) =
      request.items.sum (·.outstandingOf productId) + totalMoves resolutions productId .issued := by
  have hpairs := sum_putAll (t := request.items)
    (l := (counted resolutions).map fun resolution => (resolution.item, resolveItem resolution))
    (g := fun item => item.outstandingOf productId)
    (by
      intro pair hpair
      obtain ⟨_, -, rfl⟩ := mem_map.mp hpair
      rfl)
    (by
      rw [map_map]
      exact hnodup.sublist (filter_sublist.map _))
    (by
      intro pair hpair
      obtain ⟨resolution, hresolution, rfl⟩ := mem_map.mp hpair
      exact (hresolves resolution (mem_filter.mp hresolution).1).item)
  rw [map_map, map_map] at hpairs
  have hentries : ∀ list : List Resolution,
      totalMoves list productId .issued = (list.map fun resolution =>
        (resolveItem resolution).outstandingOf productId
          - resolution.item.outstandingOf productId).sum := by
    intro list
    unfold totalMoves
    induction list with
    | nil => rfl
    | cons resolution _ ih =>
      rw [map_cons, map_cons, sum_cons, sum_cons, Pi.add_apply, ih]
      congr 1
      have hsame : (resolveItem resolution).productId = resolution.item.productId := rfl
      unfold RequestItem.outstandingOf
      rw [hsame]
      by_cases hproduct : productId = resolution.item.productId
      · rw [if_pos hproduct, if_pos hproduct, if_pos hproduct, returnEntry_issued]
        simp only [remainingQuantity, resolveItem, Resolution.quantity]
        omega
      · rw [if_neg hproduct, if_neg hproduct, if_neg hproduct]
        rfl
  rw [← totalMoves_counted hresolves, hentries]
  exact hpairs

theorem totalMoves_issued (hresolves : ∀ resolution ∈ resolutions, Resolves request resolution)
    (hnodup : (resolutions.map fun resolution => resolution.item.id).Nodup)
    (hall : ∀ item ∈ request.items.putAll ((counted resolutions).map resolveItem),
      remainingQuantity item = 0) (productId : Nat) :
    totalMoves resolutions productId .issued = -request.items.sum (·.outstandingOf productId) := by
  have hmoved := totalMoves_outstanding hresolves hnodup productId
  have hafter : (request.items.putAll ((counted resolutions).map resolveItem)).sum
      (fun item => item.outstandingOf productId) = 0 := by
    refine Table.sum_eq_zero fun item hitem => ?_
    unfold RequestItem.outstandingOf
    rw [hall item hitem, ite_self]
  omega

variable {entries : List ResolutionEntry}

/-- Entries report all units of their items, and outstanding items have one. -/
structure ResolvesEach (s : State) (request : HardwareRequest)
    (entries : List ResolutionEntry) : Prop where
  once : (entries.map ResolutionEntry.itemId).Nodup
  nonneg : ∀ entry ∈ entries, ∀ individual outcome, 0 ≤ entry.reported individual outcome
  exact : ∀ entry ∈ entries, ∃ item ∈ request.items, item.id = entry.itemId ∧
    entry.units (s.individual item.productId) = remainingQuantity item
  complete : ∀ item ∈ request.items, 0 < remainingQuantity item →
    ∃ entry ∈ entries, entry.itemId = item.id

theorem reported_nonneg {entry : ResolutionEntry}
    (h : buildResolution s request entry = .ok resolution)
    (individual : Bool) (outcome : ReturnOutcome) :
    0 ≤ entry.reported individual outcome := by
  simp [buildResolution] at h
  obtain ⟨_, -, ⟨hreturned, hdamaged, hmissing⟩, -⟩ := h
  unfold ResolutionEntry.reported
  split
  · exact Int.natCast_nonneg _
  · cases outcome
    · exact hreturned
    · exact hdamaged
    · exact hmissing

theorem full_of_requireFullResolution (hnonneg : ∀ item ∈ request.items, 0 ≤ remainingQuantity item)
    (hresolves : ∀ resolution ∈ resolutions, Resolves request resolution)
    (hnodup : (resolutions.map fun resolution => resolution.item.id).Nodup)
    (h : requireFullResolution request resolutions = .ok ⟨⟩) :
    (∀ resolution ∈ resolutions, resolution.quantity = remainingQuantity resolution.item) ∧
      ∀ item ∈ request.items, 0 < remainingQuantity item →
        ∃ resolution ∈ resolutions, resolution.item = item := by
  rw [requireFullResolution, require_ok] at h
  have hfound : ∀ item ∈ request.items, 0 < remainingQuantity item →
      ∃ resolution ∈ resolutions, resolution.item.id = item.id ∧
        resolution.quantity = remainingQuantity item := by
    intro item hitem hpositive
    obtain ⟨resolution, hfind, hquantity⟩ := Option.map_eq_some_iff.mp (h item hitem hpositive)
    exact ⟨resolution, mem_of_find?_eq_some hfind, by simpa using find?_some hfind, hquantity⟩
  refine ⟨fun resolution hresolution => ?_, fun item hitem hpositive => ?_⟩
  · obtain ⟨hitem, _, _, _, hquantity⟩ := hresolves resolution hresolution
    by_cases hpositive : 0 < remainingQuantity resolution.item
    · obtain ⟨other, hother, hid, hsame⟩ := hfound resolution.item hitem hpositive
      obtain rfl : other = resolution := inj_on_of_nodup_map hnodup hother hresolution hid
      exact hsame
    · have hzero := hnonneg resolution.item hitem
      unfold Resolution.quantity at hquantity ⊢
      omega
  · obtain ⟨resolution, hresolution, hid, -⟩ := hfound item hitem hpositive
    exact ⟨resolution, hresolution, eq_of_key_eq (hresolves resolution hresolution).item hitem hid⟩

theorem resolvesEach_of_build (hnodup : (entries.map ResolutionEntry.itemId).Nodup)
    (hbuild : buildResolutions s request entries = .ok resolutions)
    (hexact : ∀ resolution ∈ resolutions, resolution.quantity = remainingQuantity resolution.item)
    (hcomplete : ∀ item ∈ request.items, 0 < remainingQuantity item →
      ∃ resolution ∈ resolutions, resolution.item = item) :
    ResolvesEach s request entries := by
  have hreports := reports_of_buildResolutions hbuild
  simp only [buildResolutions, bind_ok, pure_ok, mapM_eq_ok] at hbuild
  obtain ⟨_, hvalidated, -, -, rfl⟩ := hbuild
  refine ⟨hnodup, fun entry hentry individual outcome => ?_, fun entry hentry => ?_,
    fun item hitem hpositive => ?_⟩
  · obtain ⟨_, -, hone⟩ := exists_of_mem_left hvalidated hentry
    exact reported_nonneg hone individual outcome
  · obtain ⟨resolution, hresolution, hone⟩ := exists_of_mem_left hreports hentry
    refine ⟨resolution.item, mem_of_get? hone.item, key_of_get? hone.item, ?_⟩
    rw [← hone.quantity, hexact resolution hresolution]
  · obtain ⟨_, hresolution, rfl⟩ := hcomplete item hitem hpositive
    obtain ⟨entry, hentry, hone⟩ := exists_of_mem_right hreports hresolution
    exact ⟨entry, hentry, (key_of_get? hone.item).symm⟩

theorem Reports.exact {entry : ResolutionEntry}
    (h : Reports s request entry resolution) (hresolves : Resolves request resolution)
    (hindividual : s.individual resolution.item.productId = true) :
    Exact resolution where
  named := by
    intro hassets
    have hboth : s.individual resolution.item.productId = true ∧ entry.assets ≠ [] :=
      ⟨hindividual, h.assets ▸ hassets⟩
    refine ⟨?_, ?_, ?_⟩
    · rw [h.returned, ResolutionEntry.reported, if_pos hboth, h.assets]
    · rw [h.damaged, ResolutionEntry.reported, if_pos hboth, h.assets]
    · rw [h.missing, ResolutionEntry.reported, if_pos hboth, h.assets]
  plain := by
    intro hassets
    exact h.plain hindividual (h.assets ▸ hassets)
  nonneg := hresolves.returned

/-- What the stock steps of a direct return leave. -/
structure Settlement (s : State) (loan : PublicToolLoan) (request : HardwareRequest)
    (entries : List ResolutionEntry) (resolutions : List Resolution)
    (flips : List (InventoryAsset × ReturnOutcome)) (p : State × HardwareRequest) : Prop where
  payload : ResolvesEach s request entries
  reports : List.Forall₂ (Reports s request) entries resolutions
  resolves : ∀ resolution ∈ resolutions, Resolves request resolution
  written : p.2 = { request with
    items := request.items.putAll ((counted resolutions).map resolveItem) }
  resolved : ∀ item ∈ request.items.putAll ((counted resolutions).map resolveItem),
    remainingQuantity item = 0
  turned : FlippedBy s (s.saveStatuses (flips.map saved)) loan resolutions flips
  sound : (∀ product ∈ s.products, product.quantities.Sound) →
    ∀ product ∈ p.1.products, product.quantities.Sound
  products : p.1.products = s.products.credit (totalMoves resolutions)
  assets : p.1.assets = (s.saveStatuses (flips.map saved)).assets
  requests : ∀ new : HardwareRequest, new.id = request.id →
    p.1.requests.put new = s.requests.put new
  loans : p.1.loans = s.loans
  qrCodes : p.1.qrCodes = s.qrCodes

theorem FlippedBy.congr {m : State} {flips : List (InventoryAsset × ReturnOutcome)}
    (h : FlippedBy m t loan resolutions flips) (hassets : m.assets = s.assets)
    (hmodes : ∀ productId, m.individual productId = s.individual productId) :
    FlippedBy s (s.saveStatuses (flips.map saved)) loan resolutions flips where
  state := rfl
  nodup := h.nodup
  held := by
    intro flip hflip
    obtain ⟨hmem, hloaned, hissued⟩ := h.held flip hflip
    exact ⟨hassets ▸ hmem, hloaned, hissued⟩
  named := by
    intro resolution hresolution hindividual
    exact h.named resolution hresolution ((hmodes _).trans hindividual)
  distinct := by
    have hdistinct := h.distinct
    simp only [hmodes] at hdistinct
    exact hdistinct
  others := by
    intro flip hflip
    refine (h.others flip hflip).imp_left ?_
    rintro ⟨resolution, hresolution, hindividual, hnamed⟩
    exact ⟨resolution, hresolution, (hmodes _).symm.trans hindividual, hnamed⟩
  counts := by
    intro productId hindividual
    exact h.counts productId ((hmodes _).trans hindividual)

theorem settlement_of_resolveDirectLoan {p : State × HardwareRequest}
    (hnonneg : ∀ item ∈ request.items, 0 ≤ remainingQuantity item)
    (hnodup : (entries.map ResolutionEntry.itemId).Nodup)
    (hstep : resolveDirectLoan s loan request entries = .ok p) :
    ∃ resolutions flips, Settlement s loan request entries resolutions flips p := by
  simp only [resolveDirectLoan] at hstep
  split at hstep
  · simp only [bind_ok, pure_ok, returnItems] at hstep
    obtain ⟨resolutions, hbuild, _, hfull, _, ⟨m, hpost, rfl⟩, _, hturns, rfl⟩ := hstep
    obtain ⟨hresolves, hids, -⟩ := resolves_of_buildResolutions hbuild
    have hreports := reports_of_buildResolutions hbuild
    have hnodupIds : (resolutions.map fun resolution => resolution.item.id).Nodup := hids ▸ hnodup
    obtain ⟨hexact, hcomplete⟩ := full_of_requireFullResolution hnonneg hresolves hnodupIds hfull
    have hkeeps : ∀ posting ∈ (counted resolutions).map resolve, Keeps posting := by
      intro posting hposting
      obtain ⟨resolution, hresolution, rfl⟩ := mem_map.mp hposting
      have hone := hresolves resolution (mem_filter.mp hresolution).1
      exact keeps_resolve hone.returned hone.damaged hone.missing
    have hposted := post_spec hkeeps hpost
    have hcredit : Posting.total ((counted resolutions).map resolve) = totalMoves resolutions := by
      funext productId
      rw [Posting.total_map, ← totalMoves_counted hresolves]
      rfl
    have hmodes : ∀ productId, m.individual productId = s.individual productId :=
      individual_congr (kindOf_credit hposted.products)
    have hexacts : ∀ resolution ∈ resolutions,
        m.individual resolution.item.productId = true → Exact resolution := by
      intro resolution hresolution hindividual
      obtain ⟨_, -, hone⟩ := exists_of_mem_right hreports hresolution
      exact hone.exact (hresolves resolution hresolution) ((hmodes _).symm.trans hindividual)
    obtain ⟨flips, hflips⟩ := flippedBy_of_flips (s := m.saveRequest _) hexacts hturns
    have hturned := hflips.congr (s := s) hposted.assets hmodes
    refine ⟨resolutions, flips, resolvesEach_of_build hnodup hbuild hexact hcomplete, hreports,
      hresolves, rfl, fun item => remaining_eq_zero hnonneg hexact hcomplete, hturned, ?_, ?_, ?_,
      ?_, ?_, ?_⟩
    · rw [hflips.state]
      exact hposted.sound
    · rw [hflips.state, ← hcredit]
      exact hposted.products
    · rw [hflips.state]
      simp [State.saveStatuses, State.saveRequest, writeAccountability, hposted.assets]
    · intro new hnew
      rw [hflips.state]
      simp only [State.saveStatuses, State.saveRequest, writeAccountability, hposted.requests]
      exact put_put s.requests hnew.symm
    · rw [hflips.state]
      exact hposted.loans
    · rw [hflips.state]
      exact hposted.qrCodes
  · next hnone =>
      simp at hstep
      obtain ⟨rfl, rfl⟩ := hstep
      refine ⟨[], [], ⟨nodup_nil, by simp, by simp, ?_⟩, List.Forall₂.nil, by simp, rfl, ?_,
        flippedBy_nil s loan, fun hsound => hsound, ?_, rfl, fun new _ => rfl, rfl, rfl⟩
      · exact fun item hitem hpositive => absurd ⟨item, hitem, hpositive⟩ hnone
      · intro item hitem
        have hzero := hnonneg item hitem
        have hle : ¬ 0 < remainingQuantity item := fun hpositive => hnone ⟨item, hitem, hpositive⟩
        omega
      · exact (Table.credit_zero s.products).symm

variable {p : State × HardwareRequest}

theorem Backs.remaining (h : Recorded s) (hbacks : Backs s loan request) :
    ∀ item ∈ request.items, 0 ≤ remainingQuantity item := by
  intro item hitem
  obtain ⟨_, _, _, _, -⟩ := hbacks.items item hitem
  have haccepted := (h.filed request (mem_of_get? hbacks.found)).accepted item hitem
  unfold remainingQuantity
  omega

def heldOf (s : State) (loan : PublicToolLoan) (productId : Nat) : Int :=
  s.assets.sum fun asset =>
    if asset.id ∈ loan.assetIds ∧ asset.productId = productId ∧ asset.status = .issued then 1
    else 0

theorem heldOf_eq (h : Recorded s) (hloan : loan ∈ s.loans) (hstatus : loan.status = .checkedOut)
    (productId : Nat) :
    heldOf s loan productId = loanedAssets s loan productId := by
  refine sum_congr fun asset hasset => ?_
  by_cases hmem : asset.id ∈ loan.assetIds
  · obtain ⟨other, hother, hissued⟩ := issued_of_loan h hloan hstatus hmem
    obtain rfl : asset = other := Option.some.inj ((get?_key hasset).symm.trans hother)
    simp [hmem, hissued]
  · simp [hmem]

theorem heldOf_flips (h : FlippedBy s t loan resolutions flips) {productId : Nat}
    (hindividual : s.individual productId = true) :
    heldOf t loan productId = heldOf s loan productId + totalMoves resolutions productId .issued := by
  have hpairs := sum_putAll (t := s.assets)
    (l := flips.map fun flip => (flip.1, { flip.1 with status := flip.2.status }))
    (g := fun asset => if asset.id ∈ loan.assetIds ∧ asset.productId = productId ∧
      asset.status = .issued then (1 : Int) else 0)
    (by
      intro pair hpair
      obtain ⟨_, -, rfl⟩ := mem_map.mp hpair
      rfl)
    (by
      rw [map_map]
      exact h.nodup)
    (by
      intro pair hpair
      obtain ⟨flip, hflip, rfl⟩ := mem_map.mp hpair
      exact (h.held flip hflip).mem)
  have hentries : ∀ list : List (InventoryAsset × ReturnOutcome),
      (list.map fun flip => if flip.1.productId = productId then flip.2.entry else 0).sum .issued =
        (list.map fun flip => if flip.1.productId = productId then (-1 : Int) else 0).sum := by
    intro list
    induction list with
    | nil => rfl
    | cons flip _ ih =>
      rw [map_cons, map_cons, sum_cons, sum_cons, Pi.add_apply, ih]
      congr 1
      by_cases hproduct : flip.1.productId = productId
      · rw [if_pos hproduct, if_pos hproduct]
        cases flip.2 <;> rfl
      · rw [if_neg hproduct, if_neg hproduct]
        rfl
  have hcounts := congrFun (h.counts productId hindividual) .issued
  rw [hentries] at hcounts
  rw [map_map, map_map] at hpairs
  rw [h.state, State.saveStatuses, map_map]
  refine hpairs.trans (congrArg _ (Eq.trans (congrArg List.sum ?_) hcounts))
  refine map_congr_left fun flip hflip => ?_
  obtain ⟨-, hloaned, hissued⟩ := h.held flip hflip
  by_cases hproduct : flip.1.productId = productId
  · simp [hloaned, hissued, hproduct, flip.2.status_ne_issued]
  · simp [hproduct]

theorem individual_of_mem {product : InventoryProduct} (hproduct : product ∈ s.products)
    (hmode : product.trackingMode = .individual) : s.individual product.id = true := by
  rw [individual_eq, kindOf_of_mem hproduct]
  simp [InventoryProduct.kind, hmode]

theorem heldOf_settled
    (h : Recorded s) (hloan : loan ∈ s.loans) (hstatus : loan.status = .checkedOut)
    (hbacks : Backs s loan request)
    (hsettled : Settlement s loan request entries resolutions flips p)
    {product : InventoryProduct} (hproduct : product ∈ s.products)
    (hmode : product.trackingMode = .individual) :
    heldOf (s.saveStatuses (flips.map saved)) loan product.id = 0 := by
  have hout : request.status.out := .inl hbacks.status
  have hcounted := hbacks.counted product hproduct hmode
  rw [HardwareRequest.outstanding, if_pos hout] at hcounted
  have hnodup : (resolutions.map fun resolution => resolution.item.id).Nodup := by
    have hids : resolutions.map (fun resolution => resolution.item.id) =
        entries.map ResolutionEntry.itemId := by
      have hreports := hsettled.reports
      clear hsettled
      induction hreports with
      | nil => rfl
      | cons hone _ ih => rw [map_cons, map_cons, ih, ← key_of_get? hone.item]; rfl
    exact hids ▸ hsettled.payload.once
  have hmoved := totalMoves_issued hsettled.resolves hnodup hsettled.resolved product.id
  rw [heldOf_flips hsettled.turned (individual_of_mem hproduct hmode),
    heldOf_eq h hloan hstatus, ← hcounted, hmoved]
  omega

theorem not_issued_of_settled
    (h : Recorded s) (hloan : loan ∈ s.loans) (hstatus : loan.status = .checkedOut)
    (hbacks : Backs s loan request)
    (hsettled : Settlement s loan request entries resolutions flips p) :
    ∀ asset ∈ (s.saveStatuses (flips.map saved)).assets,
      asset.id ∈ loan.assetIds → asset.status ≠ .issued := by
  intro asset hasset hloaned hissued
  obtain ⟨hheld, -⟩ := held_before ⟨hasset, hloaned, hissued⟩
  obtain ⟨product, hget, -, hmode⟩ := h.assets asset hheld.mem
  have hzero := heldOf_settled h hloan hstatus hbacks hsettled (mem_of_get? hget) hmode
  have hle := le_sum (t := (s.saveStatuses (flips.map saved)).assets)
    (f := fun asset => if asset.id ∈ loan.assetIds ∧ asset.productId = product.id ∧
      asset.status = .issued then (1 : Int) else 0)
    (fun row _ => by split <;> omega) hasset
  rw [if_pos ⟨hloaned, (show product.id = asset.productId from key_of_get? hget).symm,
    hissued⟩] at hle
  unfold heldOf at hzero
  omega

theorem mem_flips (h : Recorded s) (hloan : loan ∈ s.loans) (hstatus : loan.status = .checkedOut)
    (hbacks : Backs s loan request)
    (hsettled : Settlement s loan request entries resolutions flips p)
    {assetId : Nat} (hloaned : assetId ∈ loan.assetIds) :
    assetId ∈ flips.map fun flip => flip.1.id := by
  by_contra hnot
  obtain ⟨asset, hget, hissued⟩ := issued_of_loan h hloan hstatus hloaned
  have hkept : (s.saveStatuses (flips.map saved)).assets.get? assetId = some asset := by
    rw [State.saveStatuses, get?_putAll_of_notMem, hget]
    rw [map_map, map_map]
    exact hnot
  refine not_issued_of_settled h hloan hstatus hbacks hsettled asset (mem_of_get? hkept) ?_ hissued
  rwa [show asset.id = assetId from key_of_get? hget]

/-- What the entries move between a product's buckets. -/
def reportedMoves (s : State) (request : HardwareRequest) (entries : List ResolutionEntry)
    (productId : Nat) : Quantities :=
  (entries.map fun entry =>
    match request.items.get? entry.itemId with
    | some item =>
      if productId = item.productId then entry.entry (s.individual item.productId) else 0
    | none => 0).sum

theorem totalMoves_eq_reported (h : List.Forall₂ (Reports s request) entries resolutions) :
    totalMoves resolutions = reportedMoves s request entries := by
  funext productId
  unfold totalMoves reportedMoves
  induction h with
  | nil => rfl
  | cons hone _ ih =>
    rw [map_cons, map_cons, sum_cons, sum_cons, ih, hone.item, hone.entry]

/-- The outcomes of assets that count in an entry. -/
def namedAssets (s : State) (request : HardwareRequest) (entry : ResolutionEntry) :
    List (Nat × ReturnOutcome) :=
  match request.items.get? entry.itemId with
  | some item => if s.individual item.productId then entry.assets else []
  | none => []

theorem flatMap_namedAssets (h : List.Forall₂ (Reports s request) entries resolutions) :
    entries.flatMap (namedAssets s request) =
      (resolutions.filter fun resolution => s.individual resolution.item.productId).flatMap
        Resolution.assetOutcomes := by
  induction h with
  | nil => rfl
  | @cons _ resolution _ _ hone _ ih =>
    rw [flatMap_cons, filter_cons, ih, namedAssets, hone.item]
    by_cases hindividual : s.individual resolution.item.productId = true
    · simp [if_pos hindividual, hone.assets]
    · simp [if_neg hindividual]

/-- Each asset of the loan has one outcome, named once. -/
structure ResolvesAssets (s : State) (loan : PublicToolLoan) (request : HardwareRequest)
    (entries : List ResolutionEntry) (outcomes : List (Nat × ReturnOutcome)) : Prop where
  once : (outcomes.map Prod.fst).Nodup
  covers : ∀ assetId, assetId ∈ outcomes.map Prod.fst ↔ assetId ∈ loan.assetIds
  named : ∀ outcome ∈ entries.flatMap (namedAssets s request), outcome ∈ outcomes
  distinct : ((entries.flatMap (namedAssets s request)).map Prod.fst).Nodup
  others : ∀ outcome ∈ outcomes,
    outcome ∈ entries.flatMap (namedAssets s request) ∨ outcome.2 = .returned

theorem resolvesAssets_of_settled
    (h : Recorded s) (hloan : loan ∈ s.loans) (hstatus : loan.status = .checkedOut)
    (hbacks : Backs s loan request)
    (hsettled : Settlement s loan request entries resolutions flips p) :
    ResolvesAssets s loan request entries (flips.map flipOf) := by
  have hturned := hsettled.turned
  have hnamed := flatMap_namedAssets hsettled.reports
  refine ⟨?_, fun assetId => ⟨fun hmem => ?_, fun hmem => ?_⟩, ?_, ?_, ?_⟩
  · rw [map_map]
    exact hturned.nodup
  · rw [map_map] at hmem
    obtain ⟨flip, hflip, rfl⟩ := mem_map.mp hmem
    exact (hturned.held flip hflip).loaned
  · rw [map_map]
    exact mem_flips h hloan hstatus hbacks hsettled hmem
  · intro outcome houtcome
    rw [hnamed] at houtcome
    obtain ⟨resolution, hresolution, houtcome⟩ := mem_flatMap.mp houtcome
    obtain ⟨hresolution, hindividual⟩ := mem_filter.mp hresolution
    exact hturned.named resolution hresolution hindividual outcome houtcome
  · rw [hnamed, map_flatMap]
    exact hturned.distinct
  · intro outcome houtcome
    obtain ⟨flip, hflip, rfl⟩ := mem_map.mp houtcome
    refine (hturned.others flip hflip).imp_left ?_
    rintro ⟨resolution, hresolution, hindividual, hmem⟩
    rw [hnamed]
    exact mem_flatMap.mpr ⟨resolution, mem_filter.mpr ⟨hresolution, hindividual⟩, hmem⟩

structure Returned (s t : State) (loan : PublicToolLoan) (request : HardwareRequest)
    (entries : List ResolutionEntry) : Prop where
  payload : ResolvesEach s request entries
  released : ∀ asset ∈ t.assets, asset.id ∈ loan.assetIds → asset.status ≠ .issued
  assets : ∃ outcomes, ResolvesAssets s loan request entries outcomes ∧
    (∀ outcome ∈ outcomes, ∃ asset, s.assets.get? outcome.1 = some asset ∧ asset.status = .issued ∧
      t.assets.get? outcome.1 = some { asset with status := outcome.2.status }) ∧
    ∀ assetId, assetId ∉ loan.assetIds → t.assets.get? assetId = s.assets.get? assetId
  loan : t.loans = s.loans.put { loan with status := .returned }
  closed : ∃ closed : HardwareRequest, t.requests = s.requests.put closed ∧
    closed.id = request.id ∧ (closed.status = .returned ∨ closed.status = .closedWithIssue) ∧
    ∀ item ∈ closed.items, remainingQuantity item = 0
  products : t.products = s.products.credit (reportedMoves s request entries)

theorem assets_of_settled (hsettled : Settlement s loan request entries resolutions flips p)
    (hassets : t.assets = p.1.assets) :
    (∀ outcome ∈ flips.map flipOf, ∃ asset, s.assets.get? outcome.1 = some asset ∧
      asset.status = .issued ∧
      t.assets.get? outcome.1 = some { asset with status := outcome.2.status }) ∧
    ∀ assetId, assetId ∉ loan.assetIds → t.assets.get? assetId = s.assets.get? assetId := by
  have hturned := hsettled.turned
  have hkeys : ((flips.map saved).map fun change =>
      ({ change.1 with status := change.2 } : InventoryAsset)).map key =
      flips.map fun flip => flip.1.id := by
    rw [map_map, map_map]
    rfl
  rw [hassets, hsettled.assets]
  refine ⟨fun outcome houtcome => ?_, fun assetId hnot => ?_⟩
  · obtain ⟨flip, hflip, rfl⟩ := mem_map.mp houtcome
    obtain ⟨hmem, -, hissued⟩ := hturned.held flip hflip
    have hget : s.assets.get? flip.1.id = some flip.1 := get?_key hmem
    refine ⟨flip.1, hget, hissued, ?_⟩
    refine get?_putAll_of_mem (r := { flip.1 with status := flip.2.status }) ?_ ?_ ?_
    · rw [hkeys]
      exact hturned.nodup
    · rw [map_map]
      exact mem_map_of_mem hflip
    · exact Option.isSome_iff_exists.mpr ⟨_, hget⟩
  · refine get?_putAll_of_notMem fun hmem => ?_
    rw [hkeys] at hmem
    obtain ⟨flip, hflip, rfl⟩ := mem_map.mp hmem
    exact hnot (hturned.held flip hflip).loaned

theorem closed_of_resolved (h : ∀ item ∈ request.items, remainingQuantity item = 0) :
    ((finalizeReturnStatus request).status = .returned ∨
        (finalizeReturnStatus request).status = .closedWithIssue) ∧
      (finalizeReturnStatus request).items = request.items := by
  have hall : ∀ item ∈ request.items.rows,
      item.returned + item.damaged + item.missing = item.issued := by
    intro item hitem
    have hzero := h item hitem
    unfold remainingQuantity at hzero
    omega
  unfold finalizeReturnStatus
  rw [if_pos hall]
  split
  · exact ⟨.inr rfl, rfl⟩
  · exact ⟨.inl rfl, rfl⟩

theorem returned_of_returnDirectLoan {loanId : Nat} {payload : String}
    (h : Recorded s) (hstep : returnDirectLoan s loanId payload entries = .ok t) :
    ∃ loan request, s.loans.get? loanId = some loan ∧ loan.source = .adminDirect ∧
      loan.status = .checkedOut ∧ s.requests.get? loan.requestId = some request ∧
        Returned s t loan request entries := by
  simp only [returnDirectLoan, State.lockedRequest, bind_ok, orRefuse_ok, require_ok,
    pure_ok, exists_const] at hstep
  obtain ⟨hnodup, loan, hget, hsource, hstatus, _, -, request, hrequest, p, hresolve, rfl⟩ := hstep
  have hloan := mem_of_get? hget
  obtain ⟨backing, hbacks⟩ := h.lent.backed loan hloan hstatus
  obtain rfl : request = backing := Option.some.inj (hrequest.symm.trans hbacks.found)
  obtain ⟨_, flips, hsettled⟩ :=
    settlement_of_resolveDirectLoan (hbacks.remaining h) hnodup hresolve
  have hitems : ∀ item ∈ p.2.items, remainingQuantity item = 0 := by
    rw [hsettled.written]
    exact hsettled.resolved
  obtain ⟨hclosed, hsame⟩ := closed_of_resolved hitems
  have hid : (finalizeReturnStatus p.2).id = request.id := by
    rw [finalizeReturnStatus_id, hsettled.written]
  refine ⟨loan, request, hget, hsource, hstatus, hrequest, hsettled.payload, ?_, ?_, ?_, ?_, ?_⟩
  · have hreleased := not_issued_of_settled h hloan hstatus hbacks hsettled
    rw [← hsettled.assets] at hreleased
    exact hreleased
  · exact ⟨flips.map flipOf, resolvesAssets_of_settled h hloan hstatus hbacks hsettled,
      assets_of_settled hsettled rfl⟩
  · simp [State.saveLoan, State.saveRequest, hsettled.loans]
  · exact ⟨finalizeReturnStatus p.2, hsettled.requests _ hid, hid, hclosed, hsame ▸ hitems⟩
  · rw [← totalMoves_eq_reported hsettled.reports]
    exact hsettled.products

end

/-- A committed return resolves every outstanding unit once, closes the loan and moves what was
reported. -/
theorem direct_loan_returned
    (h : Recorded s) (loanId : Nat) (payload : String) (entries : List ResolutionEntry) :
    (∀ t, step s (.returnDirectLoan loanId payload entries) = .ok t →
      ∃ loan request, s.loans.get? loanId = some loan ∧ loan.source = .adminDirect ∧
        loan.status = .checkedOut ∧ s.requests.get? loan.requestId = some request ∧
          Returned s t loan request entries) ∧
    ∀ refusal, step s (.returnDirectLoan loanId payload entries) = .error refusal →
      settle step s (.returnDirectLoan loanId payload entries) = s :=
  ⟨fun _ hstep => returned_of_returnDirectLoan h hstep, fun _ hrefused => settle_error hrefused⟩

def lentDrill : State where
  products := ⟨[{ id := 7
                  makerspaceId := 1
                  name := "drill"
                  trackingMode := .individual
                  quantities := gain .issued 1 + gain .total 1 },
                { id := 8
                  makerspaceId := 1
                  name := "bolt"
                  quantities := gain .issued 3 + gain .total 3 }], by decide⟩
  assets := ⟨[{ id := 3
                makerspaceId := 1
                productId := 7
                assetTag := "7-0001"
                status := .issued }], nodup_singleton _⟩
  requests := ⟨[{ id := 5
                  makerspaceId := 1
                  requesterId := 9
                  status := .issued
                  items := ⟨[{ id := 0
                               productId := 7
                               requested := 1
                               accepted := 1
                               issued := 1 },
                             { id := 1
                               productId := 8
                               requested := 3
                               accepted := 3
                               issued := 3 }], by decide⟩ }], nodup_singleton _⟩
  loans := ⟨[{ id := 2
               makerspaceId := 1
               requestId := 5
               requesterId := 9
               assetIds := [3]
               source := .adminDirect }], nodup_singleton _⟩

theorem lentDrill_recorded : Recorded lentDrill where
  items := by
    intro request hrequest item hitem
    obtain rfl := mem_singleton.mp hrequest
    rcases mem_pair.mp hitem with rfl | rfl
    · exact ⟨_, rfl, rfl⟩
    · exact ⟨_, rfl, rfl⟩
  assets := by
    intro asset hasset
    obtain rfl := mem_singleton.mp hasset
    exact ⟨_, rfl, rfl, rfl⟩
  filed := by
    intro request hrequest
    obtain rfl := mem_singleton.mp hrequest
    refine ⟨fun item hitem => ?_, by simp, by simp⟩
    rcases mem_pair.mp hitem with rfl | rfl <;> decide
  linked := by
    intro request hrequest _ item hitem
    obtain rfl := mem_singleton.mp hrequest
    rcases mem_pair.mp hitem with rfl | rfl <;> exact ⟨.inl rfl, fun _ hlink => by cases hlink⟩
  custody := by
    intro asset hasset
    obtain rfl := mem_singleton.mp hasset
    decide
  lent := by
    refine ⟨fun loan hloan _ => ?_, fun loan hloan hstatus => ?_, fun loan hloan other hother _ => ?_⟩
    · obtain rfl := mem_singleton.mp hloan
      refine ⟨_, rfl, rfl, rfl, fun item hitem => ?_, fun assetId hmem => ?_,
        fun product hproduct hmode => ?_⟩
      · rcases mem_pair.mp hitem with rfl | rfl <;> decide
      · obtain rfl := mem_singleton.mp hmem
        exact ⟨_, rfl, rfl, _, mem_cons_self, rfl⟩
      · rcases mem_pair.mp hproduct with rfl | rfl
        · decide
        · cases hmode
    · obtain rfl := mem_singleton.mp hloan
      cases hstatus
    · rw [mem_singleton.mp hloan, mem_singleton.mp hother]
  coded _ hqr := absurd hqr not_mem_nil

def drillAndBolts : List ResolutionEntry :=
  [{ itemId := 0, assets := [(3, .damaged)] }, { itemId := 1, returned := 2, missing := 1 }]

theorem lentDrill_returned :
    (step lentDrill (.returnDirectLoan 2 "" drillAndBolts)).isOk = true ∧
      ∀ t, step lentDrill (.returnDirectLoan 2 "" drillAndBolts) = .ok t →
        ∃ loan request, lentDrill.loans.get? 2 = some loan ∧ loan.source = .adminDirect ∧
          loan.status = .checkedOut ∧ lentDrill.requests.get? loan.requestId = some request ∧
            Returned lentDrill t loan request drillAndBolts :=
  ⟨by decide +kernel, (direct_loan_returned lentDrill_recorded 2 "" drillAndBolts).1⟩

end Lending
end SpaceWorks
