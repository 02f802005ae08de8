import SpaceWorks.Lending.Upkeep

/-!
# Counting the stock

The lines that `add_stocktake_line` of `services_stocktake_workflow.py` accepts, and what applying
them does: `State.after` is the stock after a set of lines in any order.
-/

namespace SpaceWorks
namespace Lending

open Checked Quantities Availability Table List Option

structure StocktakeCount where
  productId : Option Nat := none
  assetId : Option Nat := none
  containerId : Option Nat := none
  counted : Nat
  condition : Condition := .available

def addStocktakeLine (s : State) (session : StocktakeSession) (data : StocktakeCount) :
    Except Refusal StocktakeSession := do
  require (data.productId.isSome ≠ data.assetId.isSome)
    (.validation "" "Provide exactly one of product_id or asset_id.")
  let containerId ← container s data.containerId session.makerspaceId
  let line : StocktakeLine :=
    { productId := data.productId
      assetId := data.assetId
      containerId := containerId
      expected := 0
      counted := data.counted
      condition := data.condition }
  match data.assetId with
  | some assetId => do
    let asset ← orRefuse (s.assets.get? assetId) (.doesNotExist "InventoryAsset")
    require (asset.makerspaceId = session.makerspaceId) (.doesNotExist "InventoryAsset")
    require (data.counted = 0 ∨ data.counted = 1)
      (.validation "counted_quantity" "Asset stocktake counts must be 0 or 1.")
    require ((assetBucket asset.status).isSome)
      (.validation "asset_id" "Only available, damaged, or lost assets can be stocktaken.")
    validateContainers session line "asset_id" asset.boxId
    require (∀ other ∈ session.lines, other.assetId ≠ some assetId)
      (.validation "" "Asset has already been counted in this stocktake.")
    pure { session with
      lines := session.lines ++ [{ line with
        expected := if assetBucket asset.status = some data.condition then 1 else 0 }] }
  | none => do
    let product ← orRefuse (data.productId.bind s.products.get?) (.doesNotExist "InventoryProduct")
    require (product.makerspaceId = session.makerspaceId) (.doesNotExist "InventoryProduct")
    require (product.trackingMode ≠ .individual)
      (.validation "product_id"
        "Individual-tracked products must be counted by asset unit; scan or select an asset.")
    validateContainers session line "product_id" product.boxId
    require (∀ other ∈ session.lines, ¬ (other.productId = data.productId ∧
        other.condition = data.condition ∧ other.containerId = containerId))
      (.validation "" "Product bucket has already been counted in this stocktake.")
    pure { session with
      lines := session.lines ++ [{ line with expected := productExpected product data.condition }] }

/-- Sessions of lines accepted one by one. -/
inductive Counted : StocktakeSession → Prop
  | start (makerspaceId : Nat) (containerId : Option Nat) :
      Counted { makerspaceId := makerspaceId, containerId := containerId, lines := [] }
  | add {session session' : StocktakeSession} {s : State} {data : StocktakeCount} :
      Counted session → addStocktakeLine s session data = .ok session' → Counted session'

structure Accepted (lines : List StocktakeLine) : Prop where
  target : ∀ line ∈ lines, line.productId.isSome ≠ line.assetId.isSome
  nonneg : ∀ line ∈ lines, 0 ≤ line.counted
  assets : lines.Pairwise fun a b => ∀ assetId, a.assetId = some assetId → b.assetId ≠ some assetId

theorem Accepted.snoc {lines : List StocktakeLine} {line : StocktakeLine} (h : Accepted lines)
    (htarget : line.productId.isSome ≠ line.assetId.isSome) (hnonneg : 0 ≤ line.counted)
    (hfresh : ∀ other ∈ lines, ∀ assetId, other.assetId = some assetId →
      line.assetId ≠ some assetId) :
    Accepted (lines ++ [line]) where
  target := by
    intro other hother
    rcases mem_append.mp hother with hother | hother
    · exact h.target other hother
    · exact mem_singleton.mp hother ▸ htarget
  nonneg := by
    intro other hother
    rcases mem_append.mp hother with hother | hother
    · exact h.nonneg other hother
    · exact mem_singleton.mp hother ▸ hnonneg
  assets := by
    refine pairwise_append.mpr ⟨h.assets, pairwise_singleton _ _, ?_⟩
    intro other hother line' hline'
    exact mem_singleton.mp hline' ▸ hfresh other hother

theorem Counted.accepted {session : StocktakeSession} (h : Counted session) :
    Accepted session.lines := by
  induction h with
  | start => exact ⟨by simp, by simp, List.Pairwise.nil⟩
  | @add _ _ _ _ _ hadd ih =>
    simp [addStocktakeLine] at hadd
    obtain ⟨htarget, _, hadd⟩ := hadd
    split at hadd
    · next assetId hasset =>
        simp at hadd
        obtain ⟨_, -, -, -, -, -, -, hfresh, rfl⟩ := hadd
        refine ih.snoc htarget (Int.natCast_nonneg _) fun other hother id hid heq => ?_
        have hsame : some id = some assetId := heq.symm.trans hasset
        exact hfresh other hother (hid.trans hsame)
    · next hasset =>
        simp at hadd
        obtain ⟨_, -, -, -, -, -, -, rfl⟩ := hadd
        refine ih.snoc htarget (Int.natCast_nonneg _) fun other hother id hid heq => ?_
        rw [hasset] at heq
        cases heq

section Effect

variable (s : State)

/-- What a line moves in the product's columns. -/
def lineMove (line : StocktakeLine) (productId : Nat) : Option Quantities :=
  match line.assetId with
  | some assetId => do
    let asset ← s.assets.get? assetId
    let source ← assetQuantityBucket asset.status
    let destination ← assetQuantityBucket (assetNewStatus line)
    if asset.productId = productId ∧ source ≠ destination then some (move source destination 1)
    else none
  | none => do
    let column ← line.condition.column
    if line.productId = some productId ∧ line.counted - line.expected ≠ 0 then
      some (gain column (line.counted - line.expected))
    else none

def lineMoves (lines : List StocktakeLine) (productId : Nat) : List Quantities :=
  lines.filterMap fun line => lineMove s line productId

/-- Columns with moves made; each move recomputes the total. -/
def moved (q : Quantities) (moves : List Quantities) : Quantities :=
  if moves = [] then q else withTotal (q + moves.sum)

def recounted (lines : List StocktakeLine) (asset : InventoryAsset) : InventoryAsset :=
  match lines.find? (·.assetId = some asset.id) with
  | some line => { asset with status := assetNewStatus line }
  | none => asset

theorem key_recounted (lines : List StocktakeLine) (asset : InventoryAsset) :
    key (recounted lines asset) = key asset := by
  unfold recounted
  split <;> rfl

def State.after (lines : List StocktakeLine) : State :=
  { s with
    products := s.products.mapRows
      (fun product => { product with
        quantities := moved product.quantities (lineMoves s lines product.id) }) fun _ => rfl
    assets := s.assets.mapRows (recounted lines) (key_recounted lines) }

variable {s}

theorem withTotal_withTotal_add (q entry : Quantities) :
    withTotal (withTotal q + entry) = withTotal (q + entry) := by
  funext column
  by_cases hcolumn : column = .total
  · subst hcolumn
    simp [held_add]
  · simp [withTotal_of_ne _ hcolumn]

theorem moved_append (q : Quantities) (moves : List Quantities) (last : Quantities) :
    withTotal (moved q moves + last) = moved q (moves ++ [last]) := by
  have hne : moves ++ [last] ≠ [] := by simp
  unfold moved
  rw [if_neg hne, sum_append, sum_singleton, ← add_assoc]
  split
  · next hnil => simp [hnil]
  · exact withTotal_withTotal_add _ _

theorem moved_apply (q : Quantities) (moves : List Quantities) {column : Column}
    (hcolumn : column ≠ .total) : moved q moves column = q column + moves.sum column := by
  unfold moved
  split
  · next hnil => simp [hnil]
  · rw [withTotal_of_ne _ hcolumn, Pi.add_apply]

theorem moved_perm (q : Quantities) {moves moves' : List Quantities} (h : moves.Perm moves') :
    moved q moves = moved q moves' := by
  have hnil : moves = [] ↔ moves' = [] :=
    ⟨fun heq => nil_perm.mp (heq ▸ h), fun heq => perm_nil.mp (heq ▸ h)⟩
  unfold moved
  simp [hnil, h.sum_eq]

theorem find?_perm {lines lines' : List StocktakeLine}
    (h : Accepted lines) (hperm : lines.Perm lines') (assetId : Nat) :
    lines.find? (·.assetId = some assetId) = lines'.find? (·.assetId = some assetId) := by
  have hfilter := hperm.filter fun line => decide (line.assetId = some assetId)
  have hpair := h.assets.filter fun line => decide (line.assetId = some assetId)
  have hcounts : ∀ line ∈ lines.filter fun line => decide (line.assetId = some assetId),
      line.assetId = some assetId := fun line hline => by simpa using (mem_filter.mp hline).2
  rw [← List.head?_filter, ← List.head?_filter]
  generalize lines.filter (fun line => decide (line.assetId = some assetId)) = counting at *
  cases counting with
  | nil => rw [nil_perm.mp hfilter]
  | cons line rest =>
    cases rest with
    | nil => rw [singleton_perm.mp hfilter]
    | cons other =>
      exact absurd (hcounts other (by simp))
        (rel_of_pairwise_cons hpair (by simp) assetId (hcounts line (by simp)))

theorem State.after_perm {lines lines' : List StocktakeLine}
    (h : Accepted lines) (hperm : lines.Perm lines') :
    s.after lines = s.after lines' := by
  have hmoves : ∀ (q : Quantities) (productId : Nat),
      moved q (lineMoves s lines productId) = moved q (lineMoves s lines' productId) :=
    fun q productId => moved_perm q (hperm.filterMap fun line => lineMove s line productId)
  have hassets : recounted lines = recounted lines' := by
    funext asset
    unfold recounted
    rw [find?_perm h hperm]
  unfold State.after
  simp [hmoves, hassets]

end Effect

section Steps

variable {s : State}
  {productId assetId : Nat} {product : InventoryProduct} {lines : List StocktakeLine}
  {asset : InventoryAsset} {line : StocktakeLine}

theorem get?_after_products (lines : List StocktakeLine)
    (h : s.products.get? productId = some product) :
    (s.after lines).products.get? productId =
      some { product with quantities := moved product.quantities (lineMoves s lines productId) } := by
  have hid : product.id = productId := key_of_get? h
  simp [State.after, get?_mapRows, h, hid]

theorem of_get?_after_products {product' : InventoryProduct}
    (h : (s.after lines).products.get? productId = some product') :
    ∃ product, s.products.get? productId = some product ∧ product' =
      { product with quantities := moved product.quantities (lineMoves s lines productId) } := by
  simp only [State.after, get?_mapRows, map_eq_some_iff] at h
  obtain ⟨product, hget, rfl⟩ := h
  have hid : product.id = productId := key_of_get? hget
  exact ⟨product, hget, by rw [hid]⟩

theorem recounted_of_fresh
    (h : ∀ line ∈ lines, line.assetId ≠ some asset.id) : recounted lines asset = asset := by
  have hfind : lines.find? (·.assetId = some asset.id) = none :=
    List.find?_eq_none.mpr fun line hline => by simpa using h line hline
  unfold recounted
  rw [hfind]

theorem get?_after_assets (h : ∀ line ∈ lines, line.assetId ≠ some assetId) :
    (s.after lines).assets.get? assetId = s.assets.get? assetId := by
  rw [State.after, get?_mapRows]
  cases hget : s.assets.get? assetId with
  | none => rfl
  | some asset =>
    have hid : asset.id = assetId := key_of_get? hget
    rw [map_some, recounted_of_fresh (hid ▸ h)]

theorem recounted_snoc_product (h : line.assetId = none) :
    recounted (lines ++ [line]) = recounted lines := by
  funext asset
  have hfind : (lines ++ [line]).find? (·.assetId = some asset.id) =
      lines.find? (·.assetId = some asset.id) := by
    simp [h]
  unfold recounted
  rw [hfind]

theorem recounted_snoc_asset
    (h : line.assetId = some assetId) (hfresh : ∀ other ∈ lines, other.assetId ≠ some assetId)
    (asset : InventoryAsset) :
    recounted (lines ++ [line]) asset =
      if asset.id = assetId then { asset with status := assetNewStatus line }
      else recounted lines asset := by
  by_cases hid : asset.id = assetId
  · have hfind : (lines ++ [line]).find? (·.assetId = some asset.id) = some line := by
      have hnone : lines.find? (·.assetId = some asset.id) = none :=
        List.find?_eq_none.mpr fun other hother => by simpa [hid] using hfresh other hother
      rw [List.find?_append, hnone]
      simp [h, hid]
    rw [if_pos hid, recounted, hfind]
  · have hfind : (lines ++ [line]).find? (·.assetId = some asset.id) =
        lines.find? (·.assetId = some asset.id) := by
      simp [h, Ne.symm hid]
    rw [if_neg hid, recounted, hfind]
    rfl

theorem products_snoc_move (lines : List StocktakeLine) {entry : Quantities}
    (hproduct : s.products.get? product.id = some product)
    (hmove : lineMove s line product.id = some entry)
    (hothers : ∀ productId, productId ≠ product.id → lineMove s line productId = none) :
    (s.after lines).products.put { product with
        quantities := withTotal (moved product.quantities (lineMoves s lines product.id) + entry) } =
      (s.after (lines ++ [line])).products := by
  apply Table.ext
  simp only [State.after, Table.put, Table.mapRows, List.map_map]
  refine map_congr_left fun other hother => ?_
  simp only [Function.comp_apply, key_product]
  by_cases hid : other.id = product.id
  · have hsame : other = product := eq_of_key_eq hother (mem_of_get? hproduct) hid
    subst hsame
    rw [if_pos rfl, moved_append]
    simp [lineMoves, hmove]
  · rw [if_neg hid]
    simp [lineMoves, hothers other.id hid]

theorem products_snoc_none (lines : List StocktakeLine)
    (h : ∀ productId, lineMove s line productId = none) :
    (s.after (lines ++ [line])).products = (s.after lines).products := by
  apply Table.ext
  simp [State.after, Table.mapRows, lineMoves, h]

theorem assets_snoc
    (hline : line.assetId = some asset.id) (hasset : s.assets.get? asset.id = some asset)
    (hfresh : ∀ other ∈ lines, other.assetId ≠ some asset.id) :
    ((s.after lines).saveStatuses [(asset, assetNewStatus line)]).assets =
      (s.after (lines ++ [line])).assets := by
  apply Table.ext
  simp only [State.saveStatuses, State.after, map_cons, map_nil, putAll_cons,
    putAll_nil, Table.put, Table.mapRows, List.map_map]
  refine map_congr_left fun other hother => ?_
  simp only [Function.comp_apply, key_asset, recounted_snoc_asset hline hfresh]
  have hkey : (recounted lines other).id = other.id := key_recounted lines other
  by_cases hid : other.id = asset.id
  · have hsame : other = asset := eq_of_key_eq hother (mem_of_get? hasset) hid
    rw [if_pos (hkey.trans hid), if_pos hid, hsame]
  · rw [if_neg fun heq => hid (hkey.symm.trans heq), if_neg hid]

theorem applyLedgerEntry_ok {old : InventoryProduct} {condition : Condition} {column : Column}
    {delta : Int} (hcolumn : condition.column = some column)
    (hget : s.products.get? productId = some old)
    (hnonneg : ∀ c, c ≠ Column.total → 0 ≤ old.quantities c)
    (hdelta : 0 ≤ old.quantities column + delta) :
    applyLedgerEntry s productId condition delta = .ok { s with
      products := s.products.put ({ old with
        quantities := withTotal (old.quantities + gain column delta) } : InventoryProduct) } := by
  have havailable := hnonneg .available (by simp)
  have hdamaged := hnonneg .damaged (by simp)
  have hlost := hnonneg .lost (by simp)
  cases condition <;> simp [Condition.column] at hcolumn <;>
    subst hcolumn <;>
    simp [applyLedgerEntry, applyStocktakeDelta, applyDeltas, hget, require, gain_apply,
      Except.mapError, bind, Except.bind, pure, Except.pure, havailable, hdamaged, hlost, hdelta]

end Steps

section Application

variable {s : State} {session : StocktakeSession}
  {line : StocktakeLine} {column : Column} {asset : InventoryAsset} {condition : Condition}
  {lines : List StocktakeLine} {t : State}

theorem lineMove_product {productId : Nat}
    (hasset : line.assetId = none) (hproduct : line.productId = some productId)
    (hcolumn : line.condition.column = some column) (other : Nat) :
    lineMove s line other =
      if other = productId ∧ line.counted - line.expected ≠ 0 then
        some (gain column (line.counted - line.expected))
      else none := by
  simp [lineMove, hasset, hproduct, hcolumn, eq_comm (a := productId)]

theorem lineMove_asset {source destination : Column}
    (hline : line.assetId = some asset.id) (hasset : s.assets.get? asset.id = some asset)
    (hsource : assetQuantityBucket asset.status = some source)
    (hdestination : assetQuantityBucket (assetNewStatus line) = some destination) (other : Nat) :
    lineMove s line other =
      if asset.productId = other ∧ source ≠ destination then some (move source destination 1)
      else none := by
  simp [lineMove, hline, hasset, hsource, hdestination]

structure AssetLine (s : State) (session : StocktakeSession) (line : StocktakeLine)
    (asset : InventoryAsset) (oldBucket newBucket : Condition) : Prop where
  counts : line.assetId = some asset.id
  found : s.assets.get? asset.id = some asset
  makerspace : asset.makerspaceId = session.makerspaceId
  product : line.productId = none ∨ line.productId = some asset.productId
  counted : line.counted = 0 ∨ line.counted = 1
  old : assetBucket asset.status = some oldBucket
  containers : validateContainers session line "asset_id" asset.boxId = .ok ()
  known : line.condition ≠ .unknown
  fresh : (if oldBucket = line.condition then 1 else 0) = line.expected
  new : assetBucket (assetNewStatus line) = some newBucket

structure ProductLine (s : State) (session : StocktakeSession) (line : StocktakeLine)
    (product : InventoryProduct) (column : Column) : Prop where
  asset : line.assetId = none
  counts : line.productId = some product.id
  found : s.products.get? product.id = some product
  makerspace : product.makerspaceId = session.makerspaceId
  mode : product.trackingMode ≠ .individual
  containers : validateContainers session line "product_id" product.boxId = .ok ()
  column : line.condition.column = some column

theorem productExpected_eq (h : condition.column = some column) (product : InventoryProduct) :
    productExpected product condition = product.quantities column := by
  cases condition <;> simp [Condition.column] at h <;>
    subst h <;> rfl

theorem column_inj {a b : Condition}
    (ha : a.column = some column) (hb : b.column = some column) : a = b := by
  have hsame := ha.trans hb.symm
  cases a <;> cases b <;> simp [Condition.column] at hsame ha ⊢

theorem column_of_known (h : condition ≠ .unknown) :
    ∃ column, condition.column = some column := by
  cases condition
  · exact ⟨_, rfl⟩
  · exact ⟨_, rfl⟩
  · exact ⟨_, rfl⟩
  · exact absurd rfl h

theorem productLine_after {product : InventoryProduct}
    (hline : ProductLine s session line product column)
    (happly : applyProductLine session (s.after lines) line product.id = .ok t) :
    moved product.quantities (lineMoves s lines product.id) column = line.expected ∧
      t = s.after (lines ++ [line]) := by
  simp only [applyProductLine, bind_ok, orRefuse_ok, require_ok, exists_const] at happly
  obtain ⟨_, hget, -, -, -, -, -, hfresh, happly⟩ := happly
  obtain ⟨product₀, hproduct₀, rfl⟩ := of_get?_after_products hget
  obtain rfl : product = product₀ := some.inj (hline.found.symm.trans hproduct₀)
  rw [productExpected_eq hline.column] at hfresh
  refine ⟨hfresh, ?_⟩
  have hmoves := lineMove_product (s := s) hline.asset hline.counts hline.column
  split at happly
  · next hzero =>
      rw [pure_ok] at happly
      have hnone : ∀ productId, lineMove s line productId = none := by simp [hmoves, hzero]
      have hassets : (s.after (lines ++ [line])).assets = (s.after lines).assets := by
        simp [State.after, recounted_snoc_product hline.asset]
      rw [← happly]
      unfold State.after at hassets ⊢
      simp only [State.mk.injEq, true_and, and_true]
      exact ⟨(products_snoc_none lines hnone).symm, hassets.symm⟩
  · next hnonzero =>
      obtain ⟨_, hold, -, rfl⟩ := applyLedgerEntry_spec hline.column happly
      obtain rfl := some.inj ((get?_after_products lines hline.found).symm.trans hold)
      have hproducts := products_snoc_move lines hline.found
        (by rw [hmoves, if_pos ⟨rfl, hnonzero⟩]) (fun other hother => by
          rw [hmoves, if_neg fun h => hother h.1])
      have hassets : (s.after (lines ++ [line])).assets = (s.after lines).assets := by
        simp [State.after, recounted_snoc_product hline.asset]
      unfold State.after at hassets hproducts ⊢
      simp only [State.mk.injEq, true_and, and_true]
      exact ⟨hproducts, hassets.symm⟩

theorem ledgerEntries_after {oldBucket newBucket : Condition} {m : State}
    (hline : AssetLine s session line asset oldBucket newBucket)
    (hfresh : ∀ other ∈ lines, other.assetId ≠ some asset.id) (hne : oldBucket ≠ newBucket)
    (hfirst : applyLedgerEntry ((s.after lines).saveStatuses [(asset, assetNewStatus line)])
      asset.productId oldBucket (-1) = .ok m)
    (hsecond : applyLedgerEntry m asset.productId newBucket 1 = .ok t) :
    t = s.after (lines ++ [line]) := by
  obtain ⟨source, hsource, hsourceUnit⟩ := assetBucket_column hline.old
  obtain ⟨destination, hdestination, hdestinationUnit⟩ := assetBucket_column hline.new
  have hcolumns : source ≠ destination := by
    rintro rfl
    exact hne (column_inj hsource hdestination)
  obtain ⟨_, hget, -, rfl⟩ := applyLedgerEntry_spec hsource hfirst
  obtain ⟨product, hproduct, rfl⟩ := of_get?_after_products hget
  have hid : product.id = asset.productId := key_of_get? hproduct
  have hmoves := lineMove_asset hline.counts hline.found hsourceUnit hdestinationUnit
  have hfound : s.products.get? product.id = some product := by
    rw [hid]
    exact hproduct
  have hmove : lineMove s line product.id = some (move source destination 1) := by
    rw [hmoves, if_pos ⟨hid.symm, hcolumns⟩]
  have hproducts := products_snoc_move lines hfound hmove fun other hother => by
    rw [hmoves, if_neg fun h => hother (h.1.symm.trans hid.symm)]
  have hassets := assets_snoc hline.counts hline.found hfresh
  obtain ⟨_, hdrawn, -, rfl⟩ := applyLedgerEntry_spec hdestination hsecond
  simp [get?_put, hid, hget] at hdrawn
  subst hdrawn
  rw [hid] at hproducts
  unfold State.after at hassets hproducts ⊢
  simp only [State.saveStatuses, State.mk.injEq, true_and, and_true] at hassets ⊢
  refine ⟨?_, hassets⟩
  rw [put_put _ hid, withTotal_withTotal_add, add_assoc]
  have hentry : gain source (-1) + gain destination 1 = move source destination 1 := by
    funext column
    simp only [Pi.add_apply, gain_apply, move_apply]
    split <;> split <;> omega
  rw [hentry]
  exact hproducts

theorem assetLine_after {assetId : Nat} (hcounts : line.assetId = some assetId)
    (hfresh : ∀ other ∈ lines, other.assetId ≠ some assetId)
    (happly : applyAssetLine session (s.after lines) line assetId = .ok t) :
    (∃ asset oldBucket newBucket, asset.id = assetId ∧
      AssetLine s session line asset oldBucket newBucket) ∧ t = s.after (lines ++ [line]) := by
  simp only [applyAssetLine, bind_ok, orRefuse_ok, require_ok, exists_const] at happly
  obtain ⟨asset, hget, hspace, hproduct, hcounted, oldBucket, hold, _, hcontainers, hknown, hline,
    newBucket, hnew, happly⟩ := happly
  rw [get?_after_assets hfresh] at hget
  obtain rfl : asset.id = assetId := key_of_get? hget
  have hchecked : AssetLine s session line asset oldBucket newBucket :=
    ⟨hcounts, hget, hspace, hproduct, hcounted, hold, hcontainers, hknown, hline, hnew⟩
  refine ⟨⟨asset, oldBucket, newBucket, rfl, hchecked⟩, ?_⟩
  split at happly
  · next hsame =>
      rw [pure_ok] at happly
      obtain ⟨source, hsource, hsourceUnit⟩ := assetBucket_column hold
      obtain ⟨destination, hdestination, hdestinationUnit⟩ := assetBucket_column hnew
      have hcolumns : source = destination := by
        rw [hsame, hdestination] at hsource
        exact (some.inj hsource).symm
      have hmoves := lineMove_asset hcounts hget hsourceUnit hdestinationUnit
      have hnone : ∀ productId, lineMove s line productId = none := fun productId => by
        rw [hmoves, if_neg fun h => h.2 hcolumns]
      have hproducts := products_snoc_none lines hnone
      have hassets := assets_snoc hcounts hget hfresh
      rw [← happly]
      unfold State.after at hassets hproducts ⊢
      simp only [State.saveStatuses, State.mk.injEq, true_and, and_true] at hassets ⊢
      exact ⟨hproducts.symm, hassets⟩
  · next hne =>
      simp at happly
      obtain ⟨_, hfirst, hsecond⟩ := happly
      exact ledgerEntries_after hchecked hfresh hne hfirst hsecond

end Application

section Runs

variable {s : State} {session : StocktakeSession}
  {t : State} {line : StocktakeLine} {lines : List StocktakeLine}

def Nonneg (s : State) : Prop :=
  ∀ product ∈ s.products, ∀ column, column ≠ Column.total → 0 ≤ product.quantities column

theorem nonneg_ledgerEntry {productId : Nat} {bucket : Condition} {delta : Int}
    (h : Nonneg s) (happly : applyLedgerEntry s productId bucket delta = .ok t) : Nonneg t := by
  simp only [applyLedgerEntry, mapError_eq_ok] at happly
  obtain ⟨old, hget, _, _, _, rfl⟩ := applyDeltas_spec happly
  intro product hproduct column hcolumn
  rcases mem_of_mem_put hproduct with rfl | ⟨hold, -⟩
  · have hbefore := h old (mem_of_get? hget) column hcolumn
    simp only [withTotal_of_ne _ hcolumn, Pi.add_apply, gain_apply]
    cases column <;> simp <;> first | exact hbefore | omega
  · exact h product hold column hcolumn

theorem nonneg_line
    (h : Nonneg s) (happly : applyStocktakeLine session s line = .ok t) : Nonneg t := by
  unfold applyStocktakeLine at happly
  split at happly
  · simp only [applyAssetLine, bind_ok] at happly
    obtain ⟨asset, -, -, -, -, -, -, -, _, -, -, -, -, -, -, -, _, -, happly⟩ := happly
    split at happly
    · rw [pure_ok] at happly
      exact happly ▸ h
    · simp at happly
      obtain ⟨_, hfirst, hsecond⟩ := happly
      exact nonneg_ledgerEntry (nonneg_ledgerEntry
        (show Nonneg (s.saveStatuses [(asset, assetNewStatus line)]) from h) hfirst) hsecond
  · simp only [applyProductLine, bind_ok] at happly
    obtain ⟨_, -, -, -, -, -, -, -, -, -, -, -, happly⟩ := happly
    split at happly
    · rw [pure_ok] at happly
      exact happly ▸ h
    · exact nonneg_ledgerEntry h happly
  · simp at happly

/-- What a line has checked when it is applied after others. -/
def Applied (s : State) (session : StocktakeSession) (before : List StocktakeLine)
    (line : StocktakeLine) : Prop :=
  (∃ asset oldBucket newBucket, AssetLine s session line asset oldBucket newBucket) ∨
    ∃ product column, ProductLine s session line product column ∧
      moved product.quantities (lineMoves s before product.id) column = line.expected

theorem applyStocktakeLine_after
    (hfresh : ∀ other ∈ lines, ∀ assetId, other.assetId = some assetId →
      line.assetId ≠ some assetId)
    (happly : applyStocktakeLine session (s.after lines) line = .ok t) :
    Applied s session lines line ∧ t = s.after (lines ++ [line]) := by
  unfold applyStocktakeLine at happly
  split at happly
  · next assetId hasset =>
      obtain ⟨⟨asset, oldBucket, newBucket, -, hline⟩, ht⟩ := assetLine_after hasset
        (fun other hother heq => hfresh other hother assetId heq hasset) happly
      exact ⟨.inl ⟨asset, oldBucket, newBucket, hline⟩, ht⟩
  · next productId hasset hproduct =>
      have hchecks := happly
      simp only [applyProductLine, bind_ok, orRefuse_ok, require_ok, exists_const]
        at hchecks
      obtain ⟨_, hget, hspace, hmode, _, hcontainers, hknown, -, -⟩ := hchecks
      obtain ⟨product, hfound, rfl⟩ := of_get?_after_products hget
      obtain rfl : product.id = productId := key_of_get? hfound
      obtain ⟨column, hcolumn⟩ := column_of_known hknown
      have hline : ProductLine s session line product column :=
        ⟨hasset, hproduct, hfound, hspace, hmode, hcontainers, hcolumn⟩
      obtain ⟨hexpected, ht⟩ := productLine_after hline happly
      exact ⟨.inr ⟨product, column, hline, hexpected⟩, ht⟩
  · simp at happly

theorem after_nil : s.after [] = s := by
  have hproducts : (s.after []).products = s.products := by
    apply Table.ext
    simp [State.after, Table.mapRows, lineMoves, moved]
  have hassets : (s.after []).assets = s.assets := by
    have hrecounted : recounted [] = id := funext fun _ => rfl
    apply Table.ext
    simp [State.after, Table.mapRows, hrecounted]
  calc s.after [] = { s with products := (s.after []).products, assets := (s.after []).assets } := rfl
    _ = s := by rw [hproducts, hassets]

theorem run_after {rest : List StocktakeLine} (haccepted : Accepted (lines ++ rest))
    (hnonneg : Nonneg (s.after lines))
    (hrun : rest.foldlM (applyStocktakeLine session) (s.after lines) = .ok t) :
    t = s.after (lines ++ rest) ∧ Nonneg t ∧ ∀ before line later, rest = before ++ line :: later →
        Applied s session (lines ++ before) line := by
  induction rest generalizing lines with
  | nil =>
    rw [foldlM_nil, pure_ok] at hrun
    refine ⟨by rw [append_nil]; exact hrun.symm, hrun ▸ hnonneg, ?_⟩
    intro before line later heq
    simp at heq
  | cons line rest ih =>
    simp at hrun
    obtain ⟨_, hline, hrun⟩ := hrun
    have hfresh := fun other hother => (pairwise_append.mp haccepted.assets).2.2 other hother
      line mem_cons_self
    obtain ⟨happlied, rfl⟩ := applyStocktakeLine_after hfresh hline
    have hsplit : lines ++ line :: rest = (lines ++ [line]) ++ rest := by simp
    obtain ⟨ht, hnonneg, hrest⟩ := ih (hsplit ▸ haccepted) (nonneg_line hnonneg hline) hrun
    refine ⟨hsplit ▸ ht, hnonneg, ?_⟩
    intro before line' later heq
    cases before with
    | nil =>
      obtain ⟨rfl, rfl⟩ := cons.inj heq
      simpa using happlied
    | cons _ before =>
      obtain ⟨rfl, hlater⟩ := cons.inj heq
      simpa using hrest before line' later hlater

theorem nonneg_after_nil (h : Nonneg s) : Nonneg (s.after []) := by
  rw [after_nil]
  exact h

theorem run_from_start (haccepted : Accepted lines) (hnonneg : Nonneg s)
    (hrun : lines.foldlM (applyStocktakeLine session) s = .ok t) :
    t = s.after lines ∧ Nonneg t ∧
      ∀ before line later, lines = before ++ line :: later → Applied s session before line := by
  have hrun' : lines.foldlM (applyStocktakeLine session) (s.after []) = .ok t := by
    rw [after_nil]
    exact hrun
  have hstart : Accepted ([] ++ lines) := haccepted
  have hspec := run_after hstart (nonneg_after_nil hnonneg) hrun'
  simpa only [nil_append] using hspec

end Runs

section Success

variable {s : State} {session : StocktakeSession}
  {column : Column} {lines : List StocktakeLine} {line : StocktakeLine}
  {product : InventoryProduct}

theorem known_of_column {condition : Condition}
    (h : condition.column = some column) : condition ≠ .unknown := by
  rintro rfl
  cases h

theorem productLine_ok (hline : ProductLine s session line product column)
    (hcounted : 0 ≤ line.counted) (hnonneg : Nonneg (s.after lines))
    (hfresh : moved product.quantities (lineMoves s lines product.id) column = line.expected) :
    ∃ t, applyStocktakeLine session (s.after lines) line = .ok t := by
  have hget := get?_after_products lines hline.found
  have hknown := known_of_column hline.column
  simp only [applyStocktakeLine, hline.asset, hline.counts, applyProductLine, hget,
    orRefuse_some, require, hline.makerspace, hline.mode, hline.containers, hknown,
    productExpected_eq hline.column, hfresh, ne_eq, not_false_eq_true, if_true, bind, Except.bind]
  split
  · exact ⟨_, rfl⟩
  · exact ⟨_, applyLedgerEntry_ok hline.column hget
      (hnonneg _ (mem_of_get? hget)) (by simp only [hfresh]; omega)⟩

theorem assetLine_ok {asset : InventoryAsset} {oldBucket newBucket : Condition} {source : Column}
    (hline : AssetLine s session line asset oldBucket newBucket)
    (hfresh : ∀ other ∈ lines, other.assetId ≠ some asset.id)
    (hproduct : s.products.get? asset.productId = some product) (hnonneg : Nonneg (s.after lines))
    (hsource : oldBucket.column = some source) (hcovered : oldBucket ≠ newBucket →
      1 ≤ moved product.quantities (lineMoves s lines asset.productId) source) :
    ∃ t, applyStocktakeLine session (s.after lines) line = .ok t := by
  have hget : (s.after lines).assets.get? asset.id = some asset := by
    rw [get?_after_assets hfresh]
    exact hline.found
  have hgetProduct := get?_after_products lines hproduct
  obtain ⟨destination, hdestination, -⟩ := assetBucket_column hline.new
  simp only [applyStocktakeLine, hline.counts, applyAssetLine, hget, orRefuse_some, require,
    hline.makerspace, hline.product, hline.counted, hline.old, hline.containers, hline.known,
    hline.fresh, hline.new, ne_eq, not_false_eq_true, if_true, bind, Except.bind]
  split
  · exact ⟨_, rfl⟩
  · next hne =>
      have hheld := hnonneg _ (mem_of_get? hgetProduct)
      rw [applyLedgerEntry_ok (s := (s.after lines).saveStatuses [(asset, assetNewStatus line)])
        hsource hgetProduct hheld (by have := hcovered hne; simp only; omega)]
      have hid : product.id = asset.productId := key_of_get? hproduct
      have hsourceTotal := column_ne_total hsource
      let drawn : InventoryProduct := { product with
        quantities := withTotal
          (moved product.quantities (lineMoves s lines asset.productId) + gain source (-1)) }
      have hdrawn : (((s.after lines).saveStatuses [(asset, assetNewStatus line)]).products.put
          drawn).get? asset.productId = some drawn := by
        have hkey : asset.productId = key drawn := hid.symm
        have hproducts : ((s.after lines).saveStatuses [(asset, assetNewStatus line)]).products =
          (s.after lines).products := rfl
        rw [get?_put, if_pos hkey, hproducts, hgetProduct, map_some]
      refine ⟨_, applyLedgerEntry_ok hdestination hdrawn ?_ ?_⟩
      · intro column hcolumn
        have hcolumnHeld := hheld column hcolumn
        have hunit := hcovered hne
        simp only [drawn, withTotal_of_ne _ hcolumn, Pi.add_apply, gain_apply] at hcolumnHeld ⊢
        split
        · next heq =>
            subst heq
            omega
        · omega
      · have hdestinationTotal := column_ne_total hdestination
        have hcolumnHeld := hheld destination hdestinationTotal
        simp only [drawn, withTotal_of_ne _ hdestinationTotal, Pi.add_apply, gain_apply] at hcolumnHeld ⊢
        split <;> omega

end Success

section Exactness

variable {s : State} {session : StocktakeSession}
  {lines before : List StocktakeLine} {productId : Nat} {column : Column}
  {line other : StocktakeLine} {product : InventoryProduct}

def takes (s : State) (line : StocktakeLine) (productId : Nat) (column : Column) : Bool :=
  match line.assetId.bind s.assets.get? with
  | some asset =>
    decide (asset.productId = productId ∧ assetQuantityBucket asset.status = some column ∧
      assetQuantityBucket (assetNewStatus line) ≠ some column)
  | none => false

def countedBucket (s : State) (line : StocktakeLine) : Int :=
  match line.assetId, line.productId with
  | some assetId, _ =>
    if (s.assets.get? assetId).bind (fun asset => assetBucket asset.status) = some line.condition
    then 1 else 0
  | none, some productId =>
    ((s.products.get? productId).map fun product => productExpected product line.condition).getD 0
  | none, none => 0

/-- Two lines count one bucket, and one changes it. -/
def Clashes (a b : StocktakeLine) : Prop :=
  a.productId ≠ none ∧ a.productId = b.productId ∧ a.condition = b.condition ∧
    (a.counted ≠ a.expected ∨ b.counted ≠ b.expected)

theorem Clashes.symm {a b : StocktakeLine} (h : Clashes a b) : Clashes b a :=
  ⟨h.2.1 ▸ h.1, h.2.1.symm, h.2.2.1.symm, h.2.2.2.symm⟩

/-- Each bucket is counted once or unchanged, no lost asset as missing, and no bucket gives more
than it holds. -/
structure Plain (s : State) (lines : List StocktakeLine) : Prop where
  once : lines.Pairwise fun a b => ¬ Clashes a b
  present : ∀ line ∈ lines, line.assetId ≠ none → ¬ (line.counted = 0 ∧ line.condition = .lost)
  covered : ∀ product ∈ s.products, ∀ column, ∀ line ∈ lines,
    takes s line product.id column = true →
      (lines.countP (takes s · product.id column) : Int) ≤ product.quantities column

/-- Assets belong to individual-tracked products. -/
def UnitsTracked (s : State) : Prop :=
  ∀ asset ∈ s.assets, ∃ product, s.products.get? asset.productId = some product ∧
    product.trackingMode = .individual

theorem sum_lineMoves_cons (line : StocktakeLine) (lines : List StocktakeLine) (productId : Nat)
    (column : Column) :
    (lineMoves s (line :: lines) productId).sum column =
      ((lineMove s line productId).getD 0) column + (lineMoves s lines productId).sum column := by
  simp only [lineMoves, filterMap_cons]
  cases lineMove s line productId with
  | none => simp
  | some => rw [sum_cons, Pi.add_apply, getD_some]

theorem sum_lineMoves_append (lines lines' : List StocktakeLine) (productId : Nat)
    (column : Column) :
    (lineMoves s (lines ++ lines') productId).sum column =
      (lineMoves s lines productId).sum column + (lineMoves s lines' productId).sum column := by
  rw [lineMoves, filterMap_append, sum_append, Pi.add_apply]
  rfl

theorem sum_lineMoves_eq_zero
    (h : ∀ line ∈ lines, ∀ entry, lineMove s line productId = some entry → entry column = 0) :
    (lineMoves s lines productId).sum column = 0 := by
  induction lines with
  | nil => rfl
  | cons line _ ih =>
    have hfirst : ((lineMove s line productId).getD 0) column = 0 := by
      cases hmove : lineMove s line productId with
      | none => rfl
      | some entry => exact h line mem_cons_self entry hmove
    rw [sum_lineMoves_cons, hfirst,
      ih fun other hother => h other (mem_cons_of_mem _ hother), add_zero]

theorem entry_eq_zero {entry : Quantities} (hunits : UnitsTracked s)
    (hline : ProductLine s session line product column) (hother : Applied s session before other)
    (hclash : ¬ Clashes other line)
    (hentry : lineMove s other product.id = some entry) : entry column = 0 := by
  rcases hother with ⟨asset, _, _, hasset⟩ | ⟨product', _, hproduct, -⟩
  · -- The units of an asset are units of another product.
    obtain ⟨_, -, hsource⟩ := assetBucket_column hasset.old
    obtain ⟨_, -, hdestination⟩ := assetBucket_column hasset.new
    rw [lineMove_asset hasset.counts hasset.found hsource hdestination] at hentry
    split at hentry
    · next h =>
        obtain ⟨_, hget, hmode⟩ := hunits asset (mem_of_get? hasset.found)
        rw [h.1, hline.found] at hget
        cases hget
        exact absurd hmode hline.mode
    · cases hentry
  · rw [lineMove_product hproduct.asset hproduct.counts hproduct.column] at hentry
    split at hentry
    · next h =>
        cases hentry
        rw [gain_apply, if_neg]
        rintro rfl
        have hcondition := column_inj hproduct.column hline.column
        refine hclash ⟨by simp [hproduct.counts], ?_, hcondition, .inl fun heq => h.2 (by omega)⟩
        rw [hproduct.counts, hline.counts, h.1]
    · cases hentry

theorem neg_takes_le_entry (hproduct : s.products.get? product.id = some product)
    (hmode : product.trackingMode = .individual) (hother : Applied s session before other) :
    (if takes s other product.id column then -1 else 0) ≤
      ((lineMove s other product.id).getD 0) column := by
  rcases hother with ⟨asset, _, _, hasset⟩ | ⟨_, _, hline, -⟩
  · obtain ⟨source, -, hsource⟩ := assetBucket_column hasset.old
    obtain ⟨destination, -, hdestination⟩ := assetBucket_column hasset.new
    rw [lineMove_asset hasset.counts hasset.found hsource hdestination]
    simp only [takes, hasset.counts, bind_some, hasset.found, hsource, hdestination,
      some.injEq, decide_eq_true_eq]
    by_cases hid : asset.productId = product.id
    · by_cases hne : source = destination
      · subst hne
        simp [hid]
      · simp only [hid, hne, ne_eq, not_false_eq_true, and_self, if_true, getD_some,
          move_apply, true_and]
        by_cases hs : source = column
        · subst hs
          simp [hne, Ne.symm hne]
        · simp only [hs, false_and, if_false, Ne.symm hs, sub_zero, eq_comm (a := column)]
          split <;> simp
    · simp [hid]
  · have hne : lineMove s other product.id = none := by
      rw [lineMove_product hline.asset hline.counts hline.column, if_neg]
      rintro ⟨hid, -⟩
      rw [hid, hline.found] at hproduct
      cases hproduct
      exact hline.mode hmode
    have htakes : takes s other product.id column = false := by
      simp [takes, hline.asset]
    simp [hne, htakes]

theorem neg_countP_le_sum (h : ∀ line ∈ lines, (if takes s line productId column then -1 else 0) ≤
      ((lineMove s line productId).getD 0) column) :
    -(lines.countP (takes s · productId column) : Int) ≤ (lineMoves s lines productId).sum column := by
  induction lines with
  | nil => simp [lineMoves]
  | cons line _ ih =>
    have hrest := ih fun other hother => h other (mem_cons_of_mem _ hother)
    have hfirst := h line mem_cons_self
    rw [countP_cons, sum_lineMoves_cons]
    split at hfirst
    · next htakes =>
        rw [if_pos htakes]
        push_cast
        omega
    · next htakes =>
        rw [if_neg htakes]
        push_cast
        omega

theorem Accepted.perm {lines' : List StocktakeLine} (h : Accepted lines)
    (hperm : lines.Perm lines') : Accepted lines' where
  target line hline := h.target line (hperm.mem_iff.mpr hline)
  nonneg line hline := h.nonneg line (hperm.mem_iff.mpr hline)
  assets := (hperm.pairwise_iff fun hab assetId hb ha => hab assetId ha hb).mp h.assets

theorem assetNewStatus_bucket (line : StocktakeLine) :
    ∃ column, assetQuantityBucket (assetNewStatus line) = some column := by
  unfold assetNewStatus
  split
  · exact ⟨_, rfl⟩
  · split
    · exact ⟨_, rfl⟩
    · exact ⟨_, rfl⟩
    · exact ⟨_, rfl⟩

theorem entry_of_takes (h : takes s line productId column = true) :
    ((lineMove s line productId).getD 0) column = -1 := by
  unfold takes at h
  split at h
  · next asset hasset =>
      obtain ⟨hid, hsource, hne⟩ := of_decide_eq_true h
      obtain ⟨assetId, hline, hfound⟩ := bind_eq_some_iff.mp hasset
      obtain rfl : asset.id = assetId := key_of_get? hfound
      obtain ⟨destination, hdestination⟩ := assetNewStatus_bucket line
      have hcolumns : column ≠ destination := by
        rintro rfl
        exact hne hdestination
      rw [lineMove_asset hline hfound hsource hdestination, if_pos ⟨hid, hcolumns⟩]
      simp [move_apply, hcolumns]
  · cases h

theorem moved_of_plain (hunits : UnitsTracked s) (hline : ProductLine s session line product column)
    (happlied : ∀ other ∈ lines, ∃ before, Applied s session before other)
    (hclash : ∀ other ∈ lines, ¬ Clashes other line) :
    (lineMoves s lines product.id).sum column = 0 := by
  refine sum_lineMoves_eq_zero fun other hother entry hentry => ?_
  obtain ⟨_, hbefore⟩ := happlied other hother
  exact entry_eq_zero hunits hline hbefore (hclash other hother) hentry

theorem applies_of_plain {rest : List StocktakeLine} (hunits : UnitsTracked s)
    (haccepted : Accepted (lines ++ rest))
    (happlied : ∀ line ∈ lines ++ rest, ∃ before, Applied s session before line ∧
      ∀ other ∈ before, ¬ Clashes other line ∧ ∃ before, Applied s session before other)
    (hplain : Plain s (lines ++ rest)) (hnonneg : Nonneg (s.after lines)) :
    rest.foldlM (applyStocktakeLine session) (s.after lines) = .ok (s.after (lines ++ rest)) := by
  induction rest generalizing lines with
  | nil => simp [pure, Except.pure]
  | cons line rest ih =>
    have hsplit : lines ++ line :: rest = (lines ++ [line]) ++ rest := by simp
    have hmem : line ∈ lines ++ line :: rest := by simp
    have hfresh := fun other hother => (pairwise_append.mp haccepted.assets).2.2 other hother
      line mem_cons_self
    have hclash := fun other hother => (pairwise_append.mp hplain.once).2.2 other hother
      line mem_cons_self
    have hbefore : ∀ other ∈ lines, ∃ before, Applied s session before other := fun other hother =>
      (happlied other (mem_append_left _ hother)).imp fun _ h => h.1
    have hok : ∃ t, applyStocktakeLine session (s.after lines) line = .ok t := by
      obtain ⟨_, happly, hothers⟩ := happlied line hmem
      rcases happly with ⟨asset, _, _, hline⟩ | ⟨product, _, hline, hexpected⟩
      · obtain ⟨product, hproduct, hmode⟩ := hunits asset (mem_of_get? hline.found)
        have hid : product.id = asset.productId := key_of_get? hproduct
        obtain ⟨source, hsource, hsourceUnit⟩ := assetBucket_column hline.old
        obtain ⟨destination, hdestination, hdestinationUnit⟩ := assetBucket_column hline.new
        refine assetLine_ok hline (fun other hother heq => hfresh other hother _ heq hline.counts)
          hproduct hnonneg hsource fun hne => ?_
        -- The bucket covers every line that takes a unit out of it, and this one is still to come.
        have htakes : takes s line product.id source = true := by
          have hcolumns : destination ≠ source := by
            rintro rfl
            exact hne (column_inj hsource hdestination)
          simp [takes, hline.counts, hline.found, hid, hsourceUnit, hdestinationUnit, hcolumns]
        have hcovered := hplain.covered product (mem_of_get? hproduct) source line hmem htakes
        have hfound : s.products.get? product.id = some product := by
          rw [hid]
          exact hproduct
        have hentries : ∀ other ∈ lines, (if takes s other product.id source then -1 else 0) ≤
            ((lineMove s other product.id).getD 0) source := fun other hother =>
          neg_takes_le_entry hfound hmode (hbefore other hother).choose_spec
        have htaken := neg_countP_le_sum hentries
        rw [countP_append, countP_cons, if_pos htakes] at hcovered
        rw [moved_apply _ _ (column_ne_total hsource), ← hid]
        push_cast at hcovered
        omega
      · refine productLine_ok hline (haccepted.nonneg line hmem) hnonneg ?_
        have htotal := column_ne_total hline.column
        rw [← hexpected, moved_apply _ _ htotal, moved_apply _ _ htotal,
          moved_of_plain hunits hline hbefore hclash,
          moved_of_plain hunits hline (fun other hother => (hothers other hother).2)
            fun other hother => (hothers other hother).1]
    obtain ⟨_, hline⟩ := hok
    obtain ⟨-, rfl⟩ := applyStocktakeLine_after hfresh hline
    rw [foldlM_cons, hline, hsplit]
    exact ih (hsplit ▸ haccepted) (hsplit ▸ happlied) (hsplit ▸ hplain) (nonneg_line hnonneg hline)

end Exactness

section Result

variable {s t : State} {session : StocktakeSession}
  {lines : List StocktakeLine} {line : StocktakeLine} {product : InventoryProduct}
  {column : Column}

theorem countedBucket_asset {asset : InventoryAsset} {oldBucket newBucket : Condition}
    (haccepted : Accepted lines) (hmem : line ∈ lines)
    (hline : AssetLine s session line asset oldBucket newBucket) :
    countedBucket (s.after lines) line =
      if assetBucket (assetNewStatus line) = some line.condition then 1 else 0 := by
  obtain ⟨before, later, rfl⟩ := append_of_mem hmem
  have hperm : (before ++ line :: later).Perm ((before ++ later) ++ [line]) := by
    rw [append_assoc]
    exact (perm_append_singleton line later).symm.append_left before
  have hlast := haccepted.perm hperm
  have hfresh : ∀ other ∈ before ++ later, other.assetId ≠ some asset.id := fun other hother heq =>
    (pairwise_append.mp hlast.assets).2.2 other hother line (mem_singleton_self _)
      asset.id heq hline.counts
  have hget : (s.after (before ++ line :: later)).assets.get? asset.id =
      some { asset with status := assetNewStatus line } := by
    rw [State.after_perm haccepted hperm, State.after, get?_mapRows, hline.found,
      map_some, recounted_snoc_asset hline.counts hfresh, if_pos rfl]
  simp [countedBucket, hline.counts, hget]

theorem countedBucket_product (hline : ProductLine s session line product column) :
    countedBucket (s.after lines) line =
      moved product.quantities (lineMoves s lines product.id) column := by
  simp [countedBucket, hline.asset, hline.counts, get?_after_products lines hline.found, productExpected_eq hline.column]

theorem entry_productLine (hline : ProductLine s session line product column) :
    ((lineMove s line product.id).getD 0) column = line.counted - line.expected := by
  rw [lineMove_product hline.asset hline.counts hline.column]
  by_cases hzero : line.counted - line.expected = 0
  · rw [if_neg fun h => h.2 hzero, hzero]
    rfl
  · rw [if_pos ⟨rfl, hzero⟩, getD_some, gain_apply, if_pos rfl]

theorem not_clashes_of_perm {a b : StocktakeLine} {rest : List StocktakeLine}
    (haccepted : Accepted (a :: b :: rest)) (hnonneg : Nonneg s)
    (hfirst : (a :: b :: rest).foldlM (applyStocktakeLine session) s = .ok t)
    (hsecond : (b :: a :: rest).foldlM (applyStocktakeLine session) s = .ok t) :
    ¬ Clashes a b := by
  rintro ⟨hproduct, hsame, hcondition, _⟩
  have hswap : (a :: b :: rest).Perm (b :: a :: rest) := List.Perm.swap b a rest
  obtain ⟨-, -, hab⟩ := run_from_start haccepted hnonneg hfirst
  obtain ⟨-, -, hba⟩ := run_from_start (haccepted.perm hswap) hnonneg hsecond
  have hline : ∀ x : StocktakeLine, x.productId ≠ none → x ∈ a :: b :: rest → ∀ before,
      Applied s session before x → ∃ product column, ProductLine s session x product column ∧
        moved product.quantities (lineMoves s before product.id) column = x.expected := by
    intro x hx hmem before happlied
    rcases happlied with ⟨_, _, _, hasset⟩ | hproduct
    · have htarget := haccepted.target x hmem
      rw [hasset.counts] at htarget
      exact absurd (isSome_iff_ne_none.mpr hx) (by simpa using htarget)
    · exact hproduct
  have hproduct' : b.productId ≠ none := hsame ▸ hproduct
  obtain ⟨_, _, ha, ha0⟩ := hline a hproduct (by simp) [] (hab [] a (b :: rest) rfl)
  obtain ⟨_, _, hb, hb1⟩ := hline b hproduct' (by simp) [a] (hab [a] b rest rfl)
  obtain ⟨_, _, hb', hb0⟩ := hline b hproduct' (by simp) [] (hba [] b (a :: rest) rfl)
  obtain ⟨_, _, ha', ha1⟩ := hline a hproduct (by simp) [b] (hba [b] a rest rfl)
  have hid : ∀ {x y : StocktakeLine} {p q : InventoryProduct} {c d : Column},
      x.productId = y.productId → ProductLine s session x p c → ProductLine s session y q d →
        p = q := by
    intro x y p q c d hxy hx hy
    have hpq : p.id = q.id := by
      have := hx.counts.symm.trans (hxy.trans hy.counts)
      exact some.inj this
    exact some.inj (hx.found.symm.trans (hpq ▸ hy.found))
  have hcolumn : ∀ {x y : StocktakeLine} {p q : InventoryProduct} {c d : Column},
      x.condition = y.condition → ProductLine s session x p c → ProductLine s session y q d →
        c = d := by
    intro x y p q c d hxy hx hy
    exact some.inj (hx.column.symm.trans (hxy ▸ hy.column))
  obtain rfl := hid hsame ha hb
  obtain rfl := hid hsame ha hb'
  obtain rfl := hid rfl ha ha'
  obtain rfl := hcolumn hcondition ha hb
  obtain rfl := hcolumn hcondition ha hb'
  obtain rfl := hcolumn rfl ha ha'
  have htotal := column_ne_total ha.column
  have hea := entry_productLine ha
  have heb := entry_productLine hb
  rw [moved_apply _ _ htotal] at ha0 hb1 hb0 ha1
  rw [sum_lineMoves_cons, hea] at hb1
  rw [sum_lineMoves_cons, heb] at ha1
  simp only [lineMoves, filterMap_nil, sum_nil, Pi.zero_apply] at ha0 hb1 hb0 ha1
  omega

theorem covered_of_perm (haccepted : Accepted lines) (hnonneg : Nonneg s)
    (hany : ∀ lines', lines.Perm lines' →
      lines'.foldlM (applyStocktakeLine session) s = .ok t) (hproduct : product ∈ s.products)
    (htakes : takes s line product.id column = true) :
    (lines.countP (takes s · product.id column) : Int) ≤ product.quantities column := by
  have htotal : column ≠ .total := by
    unfold takes at htakes
    split at htakes
    · exact assetQuantityBucket_ne_total (of_decide_eq_true htakes).2.1
    · cases htakes
  -- In the order that first takes every unit, the bucket covers all of them.
  have hperm := (filter_append_perm (takes s · product.id column) lines).symm
  have hrun := hany _ hperm
  rw [foldlM_append, bind_ok] at hrun
  obtain ⟨_, hrun, -⟩ := hrun
  have htaking : Accepted (lines.filter (takes s · product.id column)) :=
    ⟨fun x hx => haccepted.target x (mem_of_mem_filter hx),
      fun x hx => haccepted.nonneg x (mem_of_mem_filter hx), haccepted.assets.filter _⟩
  obtain ⟨rfl, hafter, -⟩ := run_from_start htaking hnonneg hrun
  have hget := get?_after_products (lines.filter (takes s · product.id column)) (get?_key hproduct)
  have hheld : 0 ≤ moved product.quantities (lineMoves s
      (lines.filter (takes s · product.id column)) product.id) column :=
    hafter _ (mem_of_get? hget) column htotal
  have hsum : ∀ taking : List StocktakeLine, (∀ x ∈ taking, takes s x product.id column = true) →
        (lineMoves s taking product.id).sum column = -(taking.length : Int) := by
    intro taking htaking
    induction taking with
    | nil => rfl
    | cons x _ ih =>
      rw [sum_lineMoves_cons, entry_of_takes (htaking x mem_cons_self),
        ih fun y hy => htaking y (mem_cons_of_mem _ hy), length_cons]
      push_cast
      omega
  rw [moved_apply _ _ htotal, hsum _ fun x hx => (mem_filter.mp hx).2,
    ← countP_eq_length_filter] at hheld
  omega

/-- Exactly the plain sessions leave every bucket as counted, and apply in every order alike. -/
theorem stocktake_exact (hcounted : Counted session) (hnonneg : Nonneg s) (hunits : UnitsTracked s)
    (happly : applyStocktakeAdjustments s session = .ok t) :
    ((∀ line ∈ session.lines, countedBucket t line = line.counted) ∧
      ∀ lines, session.lines.Perm lines →
        applyStocktakeAdjustments s { session with lines := lines } = .ok t) ↔
      Plain s session.lines := by
  have haccepted := hcounted.accepted
  obtain ⟨rfl, -, happlied⟩ := run_from_start haccepted hnonneg happly
  have hevery : ∀ line ∈ session.lines, ∃ before later, session.lines = before ++ line :: later ∧
      Applied s session before line := by
    intro line hline
    obtain ⟨before, later, heq⟩ := append_of_mem hline
    exact ⟨before, later, heq, happlied before line later heq⟩
  constructor
  · rintro ⟨hcounts, hany⟩
    refine ⟨?_, ?_, ?_⟩
    · refine pairwise_iff_forall_sublist.mpr fun {a b} hsub => ?_
      obtain ⟨rest, hperm⟩ := hsub.exists_perm_append
      exact not_clashes_of_perm (haccepted.perm hperm) hnonneg (hany _ hperm)
        (hany _ (hperm.trans (List.Perm.swap b a rest)))
    · rintro line hline hasset ⟨hzero, hlost⟩
      obtain ⟨_, _, -, ⟨_, _, _, hchecked⟩ | ⟨_, _, hchecked, -⟩⟩ :=
        hevery line hline
      · have hcount := hcounts line hline
        rw [countedBucket_asset haccepted hline hchecked, hzero, hlost] at hcount
        simp [assetNewStatus, hzero, assetBucket] at hcount
      · exact hasset hchecked.asset
    · intro product hproduct column line hline htakes
      exact covered_of_perm haccepted hnonneg hany hproduct htakes
  · intro hplain
    refine ⟨fun line hline => ?_, fun lines hperm => ?_⟩
    · obtain ⟨before, later, hsplit, ⟨_, _, _, hchecked⟩ | ⟨product, column, hchecked, hexpected⟩⟩ :=
        hevery line hline
      · rw [countedBucket_asset haccepted hline hchecked]
        have hpresent := hplain.present line hline (by simp [hchecked.counts])
        have hknown := hchecked.known
        rcases hchecked.counted with hzero | _
        · have hne : line.condition ≠ .lost := fun heq => hpresent ⟨hzero, heq⟩
          simp [assetNewStatus, hzero, assetBucket, Ne.symm hne]
        · cases hcondition : line.condition <;>
            simp_all [assetNewStatus, assetBucket]
      · have htotal := column_ne_total hchecked.column
        have hothers : ∀ lines, (∀ other ∈ lines, other ∈ session.lines) →
            (∀ other ∈ lines, ¬ Clashes other line) →
              (lineMoves s lines product.id).sum column = 0 := fun lines hmem hclash =>
          moved_of_plain hunits hchecked
            (fun other hother => (hevery other (hmem other hother)).imp fun _ h => h.choose_spec.2)
            hclash
        have honce := hsplit ▸ hplain.once
        have hbefore := hothers before (fun other hother => by rw [hsplit]; simp [hother])
          fun other hother => (pairwise_append.mp honce).2.2 other hother line mem_cons_self
        have hlater := hothers later (fun other hother => by rw [hsplit]; simp [hother])
          fun other hother hclash => rel_of_pairwise_cons
            (pairwise_append.mp honce).2.1 hother hclash.symm
        rw [moved_apply _ _ htotal, hbefore] at hexpected
        have hsum : (lineMoves s session.lines product.id).sum column =
            line.counted - line.expected := by
          rw [hsplit, sum_lineMoves_append, sum_lineMoves_cons, hbefore, hlater,
            entry_productLine hchecked]
          omega
        rw [countedBucket_product hchecked, moved_apply _ _ htotal, hsum]
        omega
    · have happlied' : ∀ line ∈ lines, ∃ before, Applied s session before line ∧
          ∀ other ∈ before, ¬ Clashes other line ∧ ∃ before, Applied s session before other := by
        intro line hline
        obtain ⟨before, _, hsplit, hbefore⟩ := hevery line (hperm.mem_iff.mpr hline)
        have honce := hsplit ▸ hplain.once
        exact ⟨before, hbefore, fun other hother =>
          ⟨(pairwise_append.mp honce).2.2 other hother line mem_cons_self,
            (hevery other (by rw [hsplit]; simp [hother])).imp fun _ h => h.choose_spec.2⟩⟩
      have hplain' : Plain s lines :=
        ⟨(hperm.pairwise_iff fun hab hba => hab hba.symm).mp hplain.once,
          fun line hline => hplain.present line (hperm.mem_iff.mpr hline),
          fun product hproduct column line hline htakes => by
            rw [← hperm.countP_eq]
            exact hplain.covered product hproduct column line (hperm.mem_iff.mpr hline) htakes⟩
      have hstart : Accepted ([] ++ lines) := haccepted.perm hperm
      have hrest := applies_of_plain hunits hstart happlied' hplain' (nonneg_after_nil hnonneg)
      rw [after_nil, nil_append, ← State.after_perm haccepted hperm] at hrest
      exact hrest

def bolts : State where
  boxes := ⟨[{ id := 4, makerspaceId := 1, code := "B4" }], nodup_singleton _⟩
  products := ⟨[{ id := 7
                  makerspaceId := 1
                  name := "bolt"
                  boxId := some 4
                  quantities := gain .available 3 + gain .total 3 }], nodup_singleton _⟩

def boltCount (containerId : Option Nat) (counted : Nat) : StocktakeCount where
  productId := some 7
  containerId := containerId
  counted := counted

def boltLine (containerId : Option Nat) (counted : Int) : StocktakeLine where
  productId := some 7
  containerId := containerId
  expected := 3
  counted := counted

def boltSession (lines : List StocktakeLine) : StocktakeSession where
  makerspaceId := 1
  lines := lines

theorem boltSession_counted (counted : Nat) :
    Counted (boltSession [boltLine none counted]) := by
  have hadd : addStocktakeLine bolts (boltSession []) (boltCount none counted) =
      .ok (boltSession [boltLine none counted]) := rfl
  exact .add (.start 1 none) hadd

theorem bolts_nonneg : Nonneg bolts := by
  intro product hproduct column _
  obtain rfl := mem_singleton.mp hproduct
  cases column <;> decide

theorem bolts_counted :
    ∃ t, applyStocktakeAdjustments bolts (boltSession [boltLine none 5]) = .ok t ∧
      (((∀ line ∈ (boltSession [boltLine none 5]).lines, countedBucket t line = line.counted) ∧
        ∀ lines, (boltSession [boltLine none 5]).lines.Perm lines →
          applyStocktakeAdjustments bolts { boltSession [boltLine none 5] with lines := lines } =
            .ok t) ↔ Plain bolts (boltSession [boltLine none 5]).lines) :=
  ⟨_, rfl, stocktake_exact (boltSession_counted 5) bolts_nonneg
    (fun _ hasset => absurd hasset not_mem_nil) rfl⟩

/-- The bolts counted once with and once without their box. -/
theorem bolts_counted_twice :
    ∃ session t, Counted session ∧ applyStocktakeAdjustments bolts session = .ok t ∧
      boltLine none 3 ∈ session.lines ∧ countedBucket t (boltLine none 3) = 5 := by
  have hadd : addStocktakeLine bolts (boltSession [boltLine none 3]) (boltCount (some 4) 5) =
      .ok (boltSession [boltLine none 3, boltLine (some 4) 5]) := rfl
  exact ⟨_, _, .add (boltSession_counted 3) hadd, rfl, mem_cons_self, rfl⟩

end Result

end Lending
end SpaceWorks
