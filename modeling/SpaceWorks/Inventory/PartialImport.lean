import Mathlib.Data.List.Dedup
import SpaceWorks.Inventory.BulkImport
import SpaceWorks.Lending.Stock

/-!
# What a partial import leaves

Rows without an error are applied as if the others were absent, unless an uncaught exception ends
the import.
-/

namespace SpaceWorks
namespace BulkImport

open Checked Lending TransactionalSystem Table List

variable {p : Platform} {s t : State} {makerspace : Makerspace} {mapping : Mapping}
  {size : Nat} {data : RowData} {start : State} {row : Row} {acc done : Progress}
  {rows : List Row} {items : List Item}

section

universe u

variable {α β : Type u}

/-- The computation ends with an exception that is not caught. -/
def Raises (x : Except RowFailure α) : Prop :=
  ∃ exception, x = .error (.raised exception)

@[simp] theorem raises_ok (a : α) : Raises (.ok a : Except RowFailure α) ↔ False := by
  simp [Raises]

@[simp] theorem raises_pure (a : α) : Raises (pure a : Except RowFailure α) ↔ False := by
  simp [Raises]

@[simp] theorem raises_raised (exception : Abort) :
    Raises (throw (.raised exception) : Except RowFailure α) ↔ True := by
  simp [Raises, throw, throwThe, MonadExceptOf.throw]

theorem raises_bind {x : Except RowFailure α} {f : α → Except RowFailure β} :
    Raises (x >>= f) ↔ Raises x ∨ ∃ a, x = .ok a ∧ Raises (f a) := by
  simp only [Raises, bind_eq_error]
  constructor
  · rintro ⟨e, h | ⟨a, hx, hf⟩⟩
    · exact .inl ⟨e, h⟩
    · exact .inr ⟨a, hx, e, hf⟩
  · rintro (⟨e, h⟩ | ⟨a, hx, e, hf⟩)
    · exact ⟨e, .inl h⟩
    · exact ⟨e, .inr ⟨a, hx, hf⟩⟩

theorem raises_require_recorded {P : Prop} [Decidable P] {message : String} :
    Raises (require P (.recorded message)) ↔ False := by
  by_cases h : P <;> simp [Raises, require, h]

theorem raises_require_raised {P : Prop} [Decidable P] {exception : Abort} :
    Raises (require P (.raised exception)) ↔ ¬ P := by
  by_cases h : P <;> simp [Raises, require, h]

theorem raises_insertNew
    {ρ κ : Type} [Keyed ρ κ] [DecidableEq κ] {table : Table ρ} {row : ρ} {message : String} :
    Raises (table.insertNew row (.recorded message)) ↔ False := by
  unfold Table.insertNew
  split <;> simp [Raises]

variable {column value : String} {maxLength : Nat} {u : Unit} {data : RowData}

def TextsFit (data : RowData) : Prop :=
  ((data.storageLocation.bind Cell.stored).getD "").length ≤ 200

def TextsGiven (data : RowData) : Prop :=
  (∀ cell, data.description = some cell → cell.stored.isSome) ∧
    ∀ cell, data.storageLocation = some cell → cell.stored.isSome

theorem raises_storeText :
    Raises (storeText column maxLength value) ↔ ¬ value.length ≤ maxLength :=
  raises_require_raised

theorem storeText_ok : storeText column maxLength value = .ok u ↔ value.length ≤ maxLength :=
  require_ok

theorem raises_storeTexts : Raises (storeTexts data) ↔ ¬ TextsFit data := by
  simp only [storeTexts, storeCell, raises_bind, raises_storeText, raises_require_recorded,
    and_false, exists_false, or_false]
  rfl

theorem storeTexts_ok : storeTexts data = .ok u ↔ TextsFit data ∧ TextsGiven data := by
  simp only [storeTexts, storeCell, storeText, bind_ok, require_ok, exists_const]
  rfl

end

/-- The category of a row exists, or its texts fit in their columns. -/
def CategoryFits (p : Platform) (s : State) (makerspace : Makerspace) (name : String) : Prop :=
  name = "" ∨ (findCategory p s makerspace name).isSome ∨
    (name.length ≤ 100 ∧ (newSlug p s makerspace name).length ≤ 120)

structure SameProducts (s t : State) : Prop where
  products : t.stock.products = s.stock.products
  assets : t.stock.assets = s.stock.assets
  requests : t.stock.requests = s.stock.requests
  details : t.details = s.details
  otherImageKeys : t.otherImageKeys = s.otherImageKeys
  storageBytesUsed : t.storageBytesUsed = s.storageBytesUsed

theorem SameProducts.refl (s : State) : SameProducts s s := ⟨rfl, rfl, rfl, rfl, rfl, rfl⟩

theorem get?_nextKey {σ : Type} [Keyed σ Nat] (table : Table σ) :
    table.get? table.nextKey = none := by
  refine get?_eq_none.mpr fun row hrow => ?_
  exact (key_lt_nextKey hrow).ne

theorem rowCategory_spec (p : Platform) (s : State) (makerspace : Makerspace) (name : String) :
    (Raises (rowCategory p s makerspace name) ↔ ¬ CategoryFits p s makerspace name) ∧
      (CategoryFits p s makerspace name → ∃ t id, rowCategory p s makerspace name = .ok (t, id) ∧
        SameProducts s t) := by
  unfold rowCategory CategoryFits
  split
  · next hblank => simp [hblank, pure, Except.pure, SameProducts.refl]
  next hname =>
  unfold categoryForName
  cases hfind : findCategory p s makerspace name with
  | some =>
    simp [bind, Except.bind, pure, Except.pure, SameProducts.refl]
  | none =>
    simp only [hname, Option.isSome_none, Bool.false_eq_true, false_or]
    constructor
    · simp only [raises_bind, raises_storeText, storeText_ok, raises_insertNew, raises_pure,
        and_false, exists_false, or_false, exists_const]
      tauto
    · rintro ⟨hlabel, hslug⟩
      simp only [bind_ok, storeText_ok, insertNew_ok, pure_ok, exists_const]
      refine ⟨_, _, ⟨(_, _), ⟨hlabel, hslug, _, ⟨get?_nextKey _, rfl⟩, rfl⟩, rfl⟩, ?_⟩
      exact ⟨rfl, rfl, rfl, rfl, rfl, rfl⟩

def ImageFits (s : State) (makerspace : Makerspace) (productId : Nat) (current key : String)
    (size : Nat) : Prop :=
  key = "" ∨ key = current ∨ imageKeyInUse s key (some productId) ∨
    ((∀ limit, makerspace.storageLimit = some limit → size ≠ 0 →
      s.storageBytesUsed + size ≤ limit) ∧ key.length ≤ 300)

theorem raises_attachImage {productId : Nat} {key : String} :
    Raises (attachImage s makerspace productId key size) ↔
      ¬ ImageFits s makerspace productId (s.details productId).imageKey key size := by
  unfold attachImage ImageFits
  split
  · next hkept => simp [hkept, or_assoc.symm]
  · next hnew =>
      simp only [raises_bind, raises_require_recorded, raises_require_raised, require_ok,
        raises_storeText, raises_pure, hnew, false_or, and_false, exists_false, or_false]
      by_cases hused : imageKeyInUse s key (some productId)
      · simp [hused]
      · simp only [hused, not_false_eq_true, true_and, exists_const, false_or]
        tauto

section Products

variable {productId size : Nat} {current key : String} {product : InventoryProduct}

structure KeepsImages (s t : State) (productId : Nat) (current : String) : Prop where
  used : ∀ key, imageKeyInUse t key (some productId) ↔ imageKeyInUse s key (some productId)
  current : (t.details productId).imageKey = current
  storage : t.storageBytesUsed = s.storageBytesUsed

theorem keepsImages_of_ids (details : ProductDetails) (hids : ∀ id, id ≠ productId →
      (id ∈ t.stock.products.rows.map InventoryProduct.id ↔
        id ∈ s.stock.products.rows.map InventoryProduct.id))
    (hdetails : t.details = Function.update s.details productId details)
    (hother : t.otherImageKeys = s.otherImageKeys)
    (hstorage : t.storageBytesUsed = s.storageBytesUsed) :
    KeepsImages s t productId details.imageKey := by
  have hread : ∀ (u : State) (key : String), imageKeyInUse u key (some productId) ↔
      key ∈ u.otherImageKeys ∨ ∃ id, id ≠ productId ∧
        id ∈ u.stock.products.rows.map InventoryProduct.id ∧ (u.details id).imageKey = key := by
    intro u key
    refine or_congr Iff.rfl ⟨?_, ?_⟩
    · rintro ⟨product, hproduct, hne, hkey⟩
      exact ⟨product.id, fun heq => hne (congrArg some heq), mem_map_of_mem hproduct, hkey⟩
    · rintro ⟨_, hne, hid, hkey⟩
      obtain ⟨product, hproduct, rfl⟩ := mem_map.mp hid
      exact ⟨product, hproduct, fun heq => hne (Option.some.inj heq), hkey⟩
  refine ⟨fun key => ?_, by rw [hdetails, Function.update_self], hstorage⟩
  rw [hread, hread, hother]
  refine or_congr Iff.rfl (exists_congr fun id => and_congr_right fun hne => ?_)
  rw [hids id hne, hdetails, Function.update_of_ne hne]

theorem KeepsImages.fits (h : KeepsImages s t productId current) :
    ImageFits t makerspace productId (t.details productId).imageKey key size ↔
      ImageFits s makerspace productId current key size := by
  unfold ImageFits
  rw [h.used, h.current, h.storage]

theorem SameProducts.fits (h : SameProducts s t) :
    ImageFits t makerspace productId current key size ↔
      ImageFits s makerspace productId current key size := by
  unfold ImageFits imageKeyInUse
  rw [h.products, h.details, h.otherImageKeys, h.storageBytesUsed]

/-- The buckets of a row are not negative, and within its total. -/
def BucketsHold (data : RowData) : Prop :=
  data.quantities.held ≤ data.quantities .total ∧
    ∀ entry ∈ quantityFields, 0 ≤ data.quantities entry.2

def NewFits (data : RowData) : Prop :=
  data.name.printed.length ≤ 200 ∧ TextsFit data

theorem createProduct_spec (s : State) (makerspace : Makerspace) (data : RowData)
    (categoryId : Option Nat) :
    (Raises (createProduct s makerspace data categoryId) ↔ ¬ NewFits data) ∧
      (∀ t id, createProduct s makerspace data categoryId = .ok (t, id) →
        id = s.stock.products.nextKey ∧ NewFits data ∧ TextsGiven data ∧ BucketsHold data ∧
          KeepsImages s t id "") ∧
      (NewFits data → TextsGiven data → BucketsHold data →
        ∃ t id, createProduct s makerspace data categoryId = .ok (t, id)) := by
  unfold createProduct
  refine ⟨?_, ?_, ?_⟩
  · simp only [raises_bind, raises_storeText, storeText_ok, raises_storeTexts,
      raises_require_recorded, raises_insertNew, raises_pure, and_false, exists_false, or_false,
      exists_const, NewFits]
    tauto
  · intro t id h
    simp only [bind_ok, storeText_ok, storeTexts_ok, require_ok, pure_ok,
      insertNew_ok, exists_const, Prod.mk.injEq] at h
    obtain ⟨hname, ⟨hfit, hgiven⟩, hbuckets, _, ⟨_, rfl⟩, rfl, rfl⟩ := h
    refine ⟨rfl, ⟨hname, hfit⟩, hgiven, hbuckets, ?_⟩
    refine keepsImages_of_ids (ProductDetails.write {} data) ?_ rfl rfl rfl
    intro id hne
    simp [Table.insert, hne]
  · rintro ⟨hname, hfit⟩ hgiven hbuckets
    simp only [bind_ok, storeText_ok, storeTexts_ok, require_ok, pure_ok,
      insertNew_ok, exists_const]
    exact ⟨_, _, hname, ⟨hfit, hgiven⟩, hbuckets, _, ⟨get?_nextKey _, rfl⟩, rfl⟩

def ModeRefused (s : State) (product : InventoryProduct) (data : RowData) (mapped : Bool) : Prop :=
  mapped ∧ product.trackingMode ≠ data.trackingMode ∧
    Availability.changeBlocker s.stock product ≠ none

theorem changeMode_spec (data : RowData) (mapped : Bool)
    (hproduct : s.stock.products.get? product.id = some product) :
    (ModeRefused s product data mapped →
        ∃ message, changeMode s product data mapped = .error (.recorded message)) ∧
      (¬ ModeRefused s product data mapped → ∃ t, changeMode s product data mapped = .ok t ∧
        t.stock.products.rows.map InventoryProduct.id =
          s.stock.products.rows.map InventoryProduct.id ∧
        (t.stock.products.get? product.id).isSome ∧ t.details = s.details ∧
        t.otherImageKeys = s.otherImageKeys ∧ t.storageBytesUsed = s.storageBytesUsed) := by
  unfold changeMode ModeRefused
  cases mapped with
  | false => simp [pure, Except.pure, hproduct]
  | true =>
    by_cases hmode : product.trackingMode = data.trackingMode
    · have hsame : Availability.changeTrackingMode s.stock product.id data.trackingMode =
          .ok s.stock := by
        simp [Availability.changeTrackingMode, hproduct, orRefuse, bind, Except.bind, hmode,
          pure, Except.pure]
      simp [hsame, hmode, pure, Except.pure, hproduct]
    · by_cases hblocker : Availability.changeBlocker s.stock product = none
      · have hchanged : Availability.changeTrackingMode s.stock product.id data.trackingMode =
            .ok { s.stock with
              products := s.stock.products.put
                { product with trackingMode := data.trackingMode } } := by
          simp [Availability.changeTrackingMode, hproduct, orRefuse, bind, Except.bind, hmode,
            pure, Except.pure, require, hblocker]
        refine ⟨fun hrefused => absurd hblocker hrefused.2.2, fun _ => ?_⟩
        rw [if_pos rfl, hchanged]
        refine ⟨_, rfl, map_put ?_, ?_, rfl, rfl, rfl⟩
        · intro old hold
          exact (key_of_get? hold).symm
        · have hput := get?_put_self
            (r := { product with trackingMode := data.trackingMode }) hproduct
          exact Option.isSome_iff_exists.mpr ⟨_, hput⟩
      · obtain ⟨message, hrefused⟩ : ∃ message, Availability.changeTrackingMode s.stock
            product.id data.trackingMode = .error (.trackingModeChangeRefused message) := by
          simp [Availability.changeTrackingMode, hproduct, orRefuse, bind, Except.bind, hmode,
            require, hblocker]
        refine ⟨fun _ => ⟨message, ?_⟩, fun hnot => absurd ⟨rfl, hmode, hblocker⟩ hnot⟩
        rw [if_pos rfl, hrefused]
        rfl

theorem updateProduct_spec (data : RowData) (mapped : Bool) (categoryId : Option Nat)
    (hproduct : s.stock.products.get? product.id = some product) :
    (Raises (updateProduct s product data categoryId mapped) ↔
      ¬ (ModeRefused s product data mapped ∨ TextsFit data)) ∧
    (∀ t, updateProduct s product data categoryId mapped = .ok t →
      ¬ ModeRefused s product data mapped ∧ TextsFit data ∧ TextsGiven data ∧
        KeepsImages s t product.id (s.details product.id).imageKey) ∧
    (¬ ModeRefused s product data mapped → TextsFit data → TextsGiven data →
      ∃ t, updateProduct s product data categoryId mapped = .ok t) := by
  obtain ⟨hrefused, hchanged⟩ := changeMode_spec data mapped hproduct
  by_cases hmode : ModeRefused s product data mapped
  · obtain ⟨_, hrefused⟩ := hrefused hmode
    simp [updateProduct, hrefused, bind, Except.bind, hmode, Raises]
  · obtain ⟨_, hm, hids, hlocked, hdetails, hother, hstorage⟩ := hchanged hmode
    obtain ⟨_, hlocked⟩ := Option.isSome_iff_exists.mp hlocked
    unfold updateProduct
    refine ⟨?_, ?_, ?_⟩
    · simp [raises_bind, hm, raises_storeTexts, hlocked, orRefuse, hmode]
    · intro t h
      simp [hm, storeTexts_ok, hlocked] at h
      obtain ⟨⟨hfit, hgiven⟩, rfl⟩ := h
      refine ⟨hmode, hfit, hgiven, ?_⟩
      refine keepsImages_of_ids ((s.details product.id).write data) ?_ ?_ hother hstorage
      · intro id _
        rw [← hids]
        refine iff_of_eq (congrArg (id ∈ ·) (map_put fun old hold => ?_))
        exact (key_of_get? hold).symm
      · simp [hdetails]
    · intro _ hfit hgiven
      simp only [bind_ok, hm, Except.ok.injEq, exists_eq_left', storeTexts_ok, hlocked,
        orRefuse_ok, Option.some.injEq, pure_ok, exists_const]
      exact ⟨_, ⟨hfit, hgiven⟩, rfl⟩

end Products

/-- No exception of the row goes uncaught. -/
def Admissible (p : Platform) (s : State) (makerspace : Makerspace) (mapping : Mapping)
    (data : RowData) (size : Nat) : Prop :=
  CategoryFits p s makerspace data.categoryName ∧
    match productsNamed s makerspace data.name.printed with
    | [] => NewFits data ∧ (TextsGiven data → BucketsHold data →
        ImageFits s makerspace s.stock.products.nextKey "" data.imageKey size)
    | [product] => ModeRefused s product data (mapping.column .trackingMode).isSome ∨
        (TextsFit data ∧ (TextsGiven data →
          ImageFits s makerspace product.id (s.details product.id).imageKey data.imageKey size))
    | _ => False

theorem SameProducts.modeRefused
    (h : SameProducts s t) {product : InventoryProduct} {mapped : Bool} :
    ModeRefused t product data mapped ↔ ModeRefused s product data mapped := by
  unfold ModeRefused Availability.changeBlocker Lending.State.assetsOf
  rw [h.assets, h.requests]

theorem SameProducts.productsNamed (h : SameProducts s t) (name : String) :
    productsNamed t makerspace name = productsNamed s makerspace name := by
  unfold BulkImport.productsNamed
  rw [h.products]

theorem raises_applyImportRow :
    Raises (applyImportRow p s makerspace mapping data size) ↔
      ¬ Admissible p s makerspace mapping data size := by
  obtain ⟨hraises, hfound⟩ := rowCategory_spec p s makerspace data.categoryName
  by_cases hcategory : CategoryFits p s makerspace data.categoryName
  swap
  · refine iff_of_true ?_ fun hadmissible => hcategory hadmissible.1
    exact raises_bind.mpr (.inl (hraises.mpr hcategory))
  obtain ⟨m, categoryId, hm, hsame⟩ := hfound hcategory
  unfold applyImportRow Admissible
  simp only [raises_bind, hm, raises_ok, false_or, Except.ok.injEq, exists_eq_left',
    hsame.productsNamed, hcategory, true_and]
  split
  · next hnone =>
      obtain ⟨hcreate, hcreated, hexists⟩ := createProduct_spec m makerspace data categoryId
      simp only [raises_bind, hcreate, raises_attachImage, raises_pure, and_false, exists_false,
        or_false, hnone]
      -- The image is attached in the state that the creation leaves, which only adds the product.
      have hattach : ∀ t id, createProduct m makerspace data categoryId = .ok (t, id) →
          (ImageFits t makerspace id (t.details id).imageKey data.imageKey size ↔
            ImageFits s makerspace s.stock.products.nextKey "" data.imageKey size) := by
        intro t id ht
        obtain ⟨rfl, -, -, -, hkeeps⟩ := hcreated t id ht
        rw [hkeeps.fits, hsame.fits, hsame.products]
      constructor
      · rintro (hfits | ⟨⟨t, id⟩, ht, himage⟩)
        · exact fun hadmissible => hfits hadmissible.1
        · obtain ⟨-, -, hgiven, hbuckets, -⟩ := hcreated t id ht
          exact fun hadmissible => himage ((hattach t id ht).mpr (hadmissible.2 hgiven hbuckets))
      · intro hnot
        by_contra hneither
        rw [not_or, not_not] at hneither
        obtain ⟨hfits, hattached⟩ := hneither
        refine hnot ⟨hfits, fun hgiven hbuckets => ?_⟩
        obtain ⟨t, id, ht⟩ := hexists hfits hgiven hbuckets
        rw [← hattach t id ht]
        by_contra himage
        exact hattached ⟨(t, id), ht, himage⟩
  · next product hone =>
      have hmem : product ∈ BulkImport.productsNamed s makerspace data.name.printed := by
        rw [hone]
        exact mem_cons_self
      have hget : m.stock.products.get? product.id = some product := by
        rw [hsame.products]
        exact get?_key (mem_filter.mp hmem).1
      obtain ⟨hupdate, hupdated, hexists⟩ := updateProduct_spec data
        (mapping.column .trackingMode).isSome categoryId hget
      simp only [raises_bind, hupdate, raises_attachImage, raises_pure, and_false, exists_false,
        or_false, hone]
      rw [← hsame.modeRefused]
      have hattach : ∀ t, updateProduct m product data categoryId
            (mapping.column .trackingMode).isSome = .ok t →
          (ImageFits t makerspace product.id (t.details product.id).imageKey data.imageKey size ↔
            ImageFits s makerspace product.id (s.details product.id).imageKey data.imageKey
              size) := by
        intro t ht
        obtain ⟨-, -, -, hkeeps⟩ := hupdated t ht
        rw [hkeeps.fits, hsame.fits, hsame.details]
      constructor
      · rintro (hfits | ⟨t, ht, himage⟩)
        · exact fun hadmissible => hfits (hadmissible.imp_right And.left)
        · obtain ⟨hmode, -, hgiven, -⟩ := hupdated t ht
          rintro (hrefused | ⟨-, hadmissible⟩)
          · exact hmode hrefused
          · exact himage ((hattach t ht).mpr (hadmissible hgiven))
      · intro hnot
        rw [not_or] at hnot
        obtain ⟨hmode, hnot⟩ := hnot
        by_contra hneither
        rw [not_or, not_not] at hneither
        obtain ⟨hfits, hattached⟩ := hneither
        have hfits := hfits.resolve_left hmode
        refine hnot ⟨hfits, fun hgiven => ?_⟩
        obtain ⟨t, ht⟩ := hexists hmode hfits hgiven
        rw [← hattach t ht]
        by_contra himage
        exact hattached ⟨t, ht, himage⟩
  · simp

theorem RowErrors.set_ne_nil (errors : RowErrors) (field message : String) :
    errors.set field message ≠ [] := by
  unfold RowErrors.set
  split
  · next hmem =>
      intro hnil
      rw [map_eq_nil_iff.mp hnil] at hmem
      exact absurd hmem not_mem_nil
  · simp

def Named (s : State) (makerspace : Makerspace) (mapping : Mapping) (row : Row) : Prop :=
  (normalizedData s makerspace row mapping).name.truthy ∨
    normalizeErrors s makerspace row mapping ≠ []

/-- The item and image size of a row, but for its number. -/
def entryOf (p : Platform) (s : State) (makerspace : Makerspace) (mapping : Mapping) (row : Row) :
    Item × Nat :=
  prepareItem p s makerspace (previewRow s makerspace mapping 0 row)

def numbered (n : Nat) (entry : Item × Nat) : Item × Nat :=
  ({ entry.1 with row := n }, entry.2)

theorem prepareItem_numbered (n : Nat) (item : Item) :
    prepareItem p s makerspace { item with row := n } =
      numbered n (prepareItem p s makerspace item) := by
  unfold prepareItem
  by_cases hkept : item.action = .error ∨ item.data.imageKey = ""
  · rw [if_pos hkept, if_pos hkept]
    rfl
  · rw [if_neg hkept, if_neg hkept]
    dsimp only
    split <;> rfl

theorem prepareItem_previewRow (n : Nat) (row : Row) :
    prepareItem p s makerspace (previewRow s makerspace mapping n row) =
      numbered n (entryOf p s makerspace mapping row) :=
  prepareItem_numbered n (previewRow s makerspace mapping 0 row)

theorem rowAction_eq_error {name : Cell} :
    rowAction s makerspace name = .error ↔ ¬ name.truthy := by
  unfold rowAction
  split
  · next htruthy =>
      refine iff_of_false ?_ (not_not.mpr htruthy)
      split
      · split <;> simp
      · simp
  · next htruthy => exact iff_of_true rfl htruthy

theorem previewRow_spec (s : State) (makerspace : Makerspace) (mapping : Mapping) (n : Nat)
    (row : Row) :
    ((previewRow s makerspace mapping n row).action ≠ .error →
      (previewRow s makerspace mapping n row).errors = [] ∧ Named s makerspace mapping row) ∧
    ((previewRow s makerspace mapping n row).action = .error →
      ((previewRow s makerspace mapping n row).errors = [] ↔
        ¬ Named s makerspace mapping row)) := by
  simp only [previewRow, Named, not_or, not_not]
  by_cases htruthy : (normalizedData s makerspace row mapping).name.truthy
  · have haction : rowAction s makerspace (normalizedData s makerspace row mapping).name ≠
        .error := fun herror => rowAction_eq_error.mp herror htruthy
    generalize (if rowAction s makerspace (normalizedData s makerspace row mapping).name = .create
      then createBucketErrors (normalizedData s makerspace row mapping)
        (normalizeErrors s makerspace row mapping)
      else normalizeErrors s makerspace row mapping) = errors
    by_cases hnil : errors = []
    · rw [if_pos hnil]
      exact ⟨fun _ => ⟨hnil, .inl htruthy⟩, fun herror => absurd herror haction⟩
    · rw [if_neg hnil]
      exact ⟨fun hne => absurd rfl hne, fun _ => by simp [hnil, htruthy]⟩
  · have haction : rowAction s makerspace (normalizedData s makerspace row mapping).name = .error :=
      rowAction_eq_error.mpr htruthy
    simp [haction, htruthy]

theorem entryOf_spec (p : Platform) (s : State) (makerspace : Makerspace) (mapping : Mapping)
    (row : Row) :
    ((entryOf p s makerspace mapping row).1.action ≠ .error →
      (entryOf p s makerspace mapping row).1.errors = []) ∧
    ((entryOf p s makerspace mapping row).1.action = .error →
      ((entryOf p s makerspace mapping row).1.errors = [] ↔ ¬ Named s makerspace mapping row)) ∧
    ((entryOf p s makerspace mapping row).1.action ≠ .error → Named s makerspace mapping row) := by
  obtain ⟨hclean, hskipped⟩ := previewRow_spec s makerspace mapping 0 row
  unfold entryOf prepareItem
  split
  · exact ⟨fun h => (hclean h).1, hskipped, fun h => (hclean h).2⟩
  · next hprepared =>
      have haction : (previewRow s makerspace mapping 0 row).action ≠ .error := fun herror =>
        hprepared (.inl herror)
      dsimp only
      split
      · exact ⟨fun h => (hclean h).1, hskipped, fun h => (hclean h).2⟩
      · refine ⟨fun h => absurd rfl h, fun _ => ?_, fun h => absurd rfl h⟩
        exact iff_of_false (RowErrors.set_ne_nil _ _ _) (not_not.mpr (hclean haction).2)

def rowStep (p : Platform) (start : State) (makerspace : Makerspace) (mapping : Mapping) (s : State)
    (row : Row) : Except RowFailure State :=
  let entry := entryOf p start makerspace mapping row
  if entry.1.action = .error then return s
  else do
    let (t, _) ← applyImportRow p s makerspace mapping entry.1.data entry.2
    return t

/-- The row is not to be applied, or is admissible. -/
def Passes (p : Platform) (start : State) (makerspace : Makerspace) (mapping : Mapping) (s : State)
    (row : Row) : Prop :=
  (entryOf p start makerspace mapping row).1.action = .error ∨
    Admissible p s makerspace mapping (entryOf p start makerspace mapping row).1.data
      (entryOf p start makerspace mapping row).2

/-- One turn: the state and errors, and what it adds to the counts and unnamed rows. -/
structure Turn (p : Platform) (start : State) (makerspace : Makerspace) (mapping : Mapping)
    (s : State) (row : Row) (t : State) (errors : RowErrors) (created updated unnamed : Nat) :
    Prop where
  settled : settle (rowStep p start makerspace mapping) s row = t
  turns : ∀ n acc, acc.state = s → ∃ item, item.errors = errors ∧
    applyItem p makerspace mapping acc (numbered n (entryOf p start makerspace mapping row)) =
      .ok ⟨t, acc.items ++ [item], acc.created + created, acc.updated + updated⟩
  counts : created + updated + unnamed = if errors = [] then 1 else 0
  kept : errors ≠ [] → t = s
  named : unnamed = 0 ↔ Named start makerspace mapping row

theorem turn_exists (h : Passes p start makerspace mapping s row) :
    ∃ t errors created updated unnamed,
      Turn p start makerspace mapping s row t errors created updated unnamed := by
  obtain ⟨hclean, hskipped, hnamed⟩ := entryOf_spec p start makerspace mapping row
  by_cases haction : (entryOf p start makerspace mapping row).1.action = .error
  · have hsettled : settle (rowStep p start makerspace mapping) s row = s := by
      refine settle_ok ?_
      simp only [rowStep, haction, if_true]
      rfl
    have hturns : ∀ n acc, acc.state = s → ∃ item,
        item.errors = (entryOf p start makerspace mapping row).1.errors ∧
        applyItem p makerspace mapping acc (numbered n (entryOf p start makerspace mapping row)) =
          .ok ⟨s, acc.items ++ [item], acc.created + 0, acc.updated + 0⟩ := by
      rintro n _ rfl
      refine ⟨(numbered n (entryOf p start makerspace mapping row)).1, rfl, ?_⟩
      exact if_pos haction
    by_cases herrors : (entryOf p start makerspace mapping row).1.errors = []
    · refine ⟨s, _, 0, 0, 1, hsettled, hturns, by simp [herrors], fun h => absurd herrors h, ?_⟩
      exact iff_of_false (by decide) ((hskipped haction).mp herrors)
    · refine ⟨s, _, 0, 0, 0, hsettled, hturns, by simp [herrors], fun _ => rfl, ?_⟩
      exact iff_of_true rfl (not_not.mp fun hnot => herrors ((hskipped haction).mpr hnot))
  · have hnone := hclean haction
    have hitem : ∀ n, (numbered n (entryOf p start makerspace mapping row)).1.action ≠ .error :=
      fun _ => haction
    have happly : ∀ n (acc : Progress) result, applyImportRow p acc.state makerspace mapping
          (entryOf p start makerspace mapping row).1.data
          (entryOf p start makerspace mapping row).2 = result →
        applyImportRow p acc.state makerspace mapping
          (numbered n (entryOf p start makerspace mapping row)).1.data
          (numbered n (entryOf p start makerspace mapping row)).2 = result :=
      fun _ _ _ hresult => hresult
    cases hrow : applyImportRow p s makerspace mapping
        (entryOf p start makerspace mapping row).1.data
        (entryOf p start makerspace mapping row).2 with
    | ok result =>
      obtain ⟨t, wasCreated⟩ := result
      have hsettled : settle (rowStep p start makerspace mapping) s row = t := by
        refine settle_ok ?_
        simp only [rowStep, haction, if_false, hrow]
        rfl
      cases wasCreated with
      | true =>
        refine ⟨t, [], 1, 0, 0, hsettled, ?_, rfl, fun h => absurd rfl h,
          iff_of_true rfl (hnamed haction)⟩
        rintro n acc rfl
        refine ⟨(numbered n (entryOf p start makerspace mapping row)).1, hnone, ?_⟩
        rw [applyItem, if_neg (hitem n), happly n acc _ hrow]
        rfl
      | false =>
        refine ⟨t, [], 0, 1, 0, hsettled, ?_, rfl, fun h => absurd rfl h,
          iff_of_true rfl (hnamed haction)⟩
        rintro n acc rfl
        refine ⟨(numbered n (entryOf p start makerspace mapping row)).1, hnone, ?_⟩
        rw [applyItem, if_neg (hitem n), happly n acc _ hrow]
        rfl
    | error failure =>
      cases failure with
      | recorded message =>
        have hsettled : settle (rowStep p start makerspace mapping) s row = s := by
          refine settle_error (e := .recorded message) ?_
          simp only [rowStep, haction, if_false, hrow]
          rfl
        refine ⟨s, RowErrors.set (entryOf p start makerspace mapping row).1.errors "__all__"
          message, 0, 0, 0, hsettled, ?_, ?_, fun _ => rfl, iff_of_true rfl (hnamed haction)⟩
        · rintro n acc rfl
          refine ⟨(numbered n (entryOf p start makerspace mapping row)).1.fail message, rfl, ?_⟩
          rw [applyItem, if_neg (hitem n), happly n acc _ hrow]
          rfl
        · rw [if_neg (RowErrors.set_ne_nil _ _ _)]
      | raised exception =>
        have hadmissible := h.resolve_left haction
        exact absurd hadmissible (raises_applyImportRow.mp ⟨exception, hrow⟩)

theorem passes_of_turn {next : Progress} {n : Nat}
    (h : applyItem p makerspace mapping acc
      (numbered n (entryOf p start makerspace mapping row)) = .ok next) :
    Passes p start makerspace mapping acc.state row := by
  by_cases haction : (entryOf p start makerspace mapping row).1.action = .error
  · exact .inl haction
  · refine .inr ?_
    by_contra hadmissible
    obtain ⟨exception, hrow⟩ := raises_applyImportRow.mpr hadmissible
    have hturn : applyItem p makerspace mapping acc
        (numbered n (entryOf p start makerspace mapping row)) = .error exception := by
      unfold applyItem
      rw [if_neg (show ¬ (numbered n (entryOf p start makerspace mapping row)).1.action = .error
        from haction)]
      simp only [numbered, hrow]
      rfl
    rw [hturn] at h
    cases h

/-- The entries of the loop, numbered from a line of the sheet on. -/
def entriesFrom (p : Platform) (start : State) (makerspace : Makerspace) (mapping : Mapping)
    (rows : List Row) (k : Nat) : List (Item × Nat) :=
  (rows.zipIdx k).map fun entry =>
    numbered (entry.2 + 2) (entryOf p start makerspace mapping entry.1)

theorem prepared_eq (p : Platform) (s : State) (makerspace : Makerspace) (mapping : Mapping)
    (rows : List Row) :
    (previewRows s makerspace mapping rows).map (prepareItem p s makerspace) =
      entriesFrom p s makerspace mapping rows 0 := by
  simp only [previewRows, entriesFrom, map_map]
  exact map_congr_left fun entry _ => prepareItem_previewRow _ _

theorem entriesFrom_cons (start : State) (row : Row) (rows : List Row) (k : Nat) :
    entriesFrom p start makerspace mapping (row :: rows) k =
      numbered (k + 2) (entryOf p start makerspace mapping row) ::
        entriesFrom p start makerspace mapping rows (k + 1) := by
  simp [entriesFrom]

def survivors (rows : List Row) (items : List Item) : List Row :=
  ((rows.zip items).filter fun entry => entry.2.errors = []).map Prod.fst

/-- The loop completes when every row passes, as the loop over rows without errors does. -/
theorem loop_spec {s : State}
    (h : Throughout (rowStep p start makerspace mapping) (Passes p start makerspace mapping) s
      rows) :
    ∃ created updated unnamed, (unnamed = 0 ↔ ∀ row ∈ rows, Named start makerspace mapping row) ∧
      ∀ k acc, acc.state = s → ∃ items,
        (entriesFrom p start makerspace mapping rows k).foldlM (applyItem p makerspace mapping)
          acc = .ok ⟨run (rowStep p start makerspace mapping) s rows, acc.items ++ items,
            acc.created + created, acc.updated + updated⟩ ∧
        created + updated + unnamed = (items.filter fun item => item.errors = []).length ∧
        ∀ k' acc', acc'.state = s → ∃ items',
          (entriesFrom p start makerspace mapping (survivors rows items) k').foldlM
            (applyItem p makerspace mapping) acc' =
              .ok ⟨run (rowStep p start makerspace mapping) s rows, acc'.items ++ items',
                acc'.created + created, acc'.updated + updated⟩ ∧
          ∀ item ∈ items', item.errors = [] := by
  induction rows generalizing s with
  | nil =>
    refine ⟨0, 0, 0, by simp, fun k acc hacc => ⟨[], ?_, rfl, fun k' acc' hacc' => ⟨[], ?_, ?_⟩⟩⟩
    · subst hacc
      simp [entriesFrom, pure, Except.pure]
    · subst hacc'
      simp [entriesFrom, survivors, pure, Except.pure]
    · simp
  | cons row rows ih =>
    obtain ⟨hfirst, hrest⟩ := h
    obtain ⟨t, errors, created, updated, unnamed, hturn⟩ := turn_exists hfirst
    rw [hturn.settled] at hrest
    obtain ⟨created', updated', unnamed', hnamed, hloop⟩ := ih hrest
    refine ⟨created + created', updated + updated', unnamed + unnamed', ?_, ?_⟩
    · rw [forall_mem_cons, ← hturn.named, ← hnamed]
      omega
    intro k acc hacc
    obtain ⟨item, hitem, happly⟩ := hturn.turns (k + 2) acc hacc
    obtain ⟨items, hfold, _, halone⟩ := hloop (k + 1)
      ⟨t, acc.items ++ [item], acc.created + created, acc.updated + updated⟩ rfl
    refine ⟨item :: items, ?_, ?_, ?_⟩
    · rw [entriesFrom_cons, foldlM_cons, happly]
      refine Eq.trans hfold ?_
      rw [run_cons, hturn.settled]
      simp [Nat.add_assoc]
    · have hcounts := hturn.counts
      by_cases hnil : errors = []
      · rw [if_pos hnil] at hcounts
        rw [filter_cons_of_pos (by simpa [hitem] using hnil), length_cons]
        omega
      · rw [if_neg hnil] at hcounts
        rw [filter_cons_of_neg (by simpa [hitem] using hnil)]
        omega
    · intro k' acc' hacc'
      by_cases hnil : errors = []
      · have hsurvivors : survivors (row :: rows) (item :: items) =
            row :: survivors rows items := by
          simp [survivors, hitem, hnil]
        obtain ⟨item', hitem', happly'⟩ := hturn.turns (k' + 2) acc' hacc'
        obtain ⟨items', hfold', hclean'⟩ := halone (k' + 1)
          ⟨t, acc'.items ++ [item'], acc'.created + created, acc'.updated + updated⟩ rfl
        refine ⟨item' :: items', ?_, forall_mem_cons.mpr ⟨hitem'.trans hnil, hclean'⟩⟩
        rw [hsurvivors, entriesFrom_cons, foldlM_cons, happly']
        refine Eq.trans hfold' ?_
        rw [run_cons, hturn.settled]
        simp [Nat.add_assoc]
      · have hsurvivors : survivors (row :: rows) (item :: items) = survivors rows items := by
          simp [survivors, hitem, hnil]
        have hcounts := hturn.counts
        rw [if_neg hnil] at hcounts
        obtain ⟨items', hfold', hclean'⟩ := halone k' acc' (hacc'.trans (hturn.kept hnil).symm)
        refine ⟨items', ?_, hclean'⟩
        rw [hsurvivors, hfold', run_cons, hturn.settled]
        obtain rfl : created = 0 := by omega
        obtain rfl : updated = 0 := by omega
        simp

theorem throughout_of_loop {k : Nat}
    (h : (entriesFrom p start makerspace mapping rows k).foldlM (applyItem p makerspace mapping)
      acc = .ok done) :
    Throughout (rowStep p start makerspace mapping) (Passes p start makerspace mapping) acc.state
      rows := by
  induction rows generalizing k acc with
  | nil => trivial
  | cons _ _ ih =>
    rw [entriesFrom_cons, foldlM_cons, bind_ok] at h
    obtain ⟨_, hfirst, hrest⟩ := h
    have hpasses := passes_of_turn hfirst
    refine ⟨hpasses, ?_⟩
    obtain ⟨_, _, _, _, _, hturn⟩ := turn_exists hpasses
    obtain ⟨_, -, happly⟩ := hturn.turns (k + 2) acc rfl
    rw [hturn.settled]
    obtain rfl := Except.ok.inj (happly.symm.trans hfirst)
    exact ih hrest

/-- The limit of products admits the names that the items would add. -/
def Admits (s : State) (makerspace : Makerspace) (items : List Item) : Prop :=
  ∀ limit, makerspace.productLimit = some limit →
    (s.stock.products.rows.filter fun product =>
      product.makerspaceId = makerspace.id ∧ ¬ product.isArchived).length +
        (newNames s makerspace items).length ≤ limit

def rowItems (p : Platform) (s : State) (makerspace : Makerspace) (mapping : Mapping)
    (rows : List Row) : List Item :=
  rows.map fun row => (entryOf p s makerspace mapping row).1

theorem newNames_entriesFrom (s : State) (rows : List Row) (k : Nat) :
    newNames s makerspace ((entriesFrom p s makerspace mapping rows k).map Prod.fst) =
      newNames s makerspace (rowItems p s makerspace mapping rows) := by
  have hnames : ∀ k, (((entriesFrom p s makerspace mapping rows k).map Prod.fst).filter
      fun item => item.action ≠ .error).map (fun item => item.data.name) =
        ((rowItems p s makerspace mapping rows).filter fun item => item.action ≠ .error).map
          fun item => item.data.name := by
    induction rows with
    | nil => exact fun _ => rfl
    | cons row _ ih =>
      intro k
      rw [entriesFrom_cons, rowItems, map_cons, map_cons, filter_cons, filter_cons]
      by_cases haction : (entryOf p s makerspace mapping row).1.action = .error
      · simp only [numbered, haction, ne_eq, not_true_eq_false, decide_false,
          Bool.false_eq_true, if_false]
        exact ih (k + 1)
      · simp only [numbered, haction, ne_eq, not_false_eq_true, decide_true, if_true, map_cons]
        rw [ih (k + 1)]
        rfl
  unfold newNames
  rw [hnames k]

theorem checkQuota_ok {u : Unit} :
    checkQuota s makerspace items = .ok u ↔ Admits s makerspace items :=
  require_ok

theorem Admits.subset {others : List Row}
    (h : Admits s makerspace (rowItems p s makerspace mapping rows))
    (hsub : ∀ row ∈ others, row ∈ rows) :
    Admits s makerspace (rowItems p s makerspace mapping others) := by
  intro limit hlimit
  refine le_trans (Nat.add_le_add_left ?_ _) (h limit hlimit)
  unfold newNames
  refine (subperm_of_subset ((nodup_dedup _).filter _) ?_).length_le
  intro name hname
  simp only [mem_filter, mem_dedup, mem_map, rowItems] at hname ⊢
  obtain ⟨⟨item, ⟨⟨row, hrow, hentry⟩, haction⟩, heq⟩, hnew⟩ := hname
  exact ⟨⟨item, ⟨⟨row, hsub row hrow, hentry⟩, haction⟩, heq⟩, hnew⟩

theorem mem_of_mem_survivors
    (h : row ∈ survivors rows items) : row ∈ rows := by
  obtain ⟨_, hentry, rfl⟩ := mem_map.mp h
  exact (of_mem_zip (mem_filter.mp hentry).1).1

/-- The import completes like that of its rows without errors, and counts them. -/
def AppliedPartially (p : Platform) (s : State) (makerspace : Makerspace) (mapping : Mapping)
    (rows : List Row) : Prop :=
  ∃ done, applyImport p s makerspace mapping rows = .ok done ∧
    done.created + done.updated = (done.items.filter fun item => item.errors = []).length ∧
    ∃ alone, importMapped p s makerspace (resolveMapping mapping rows)
        (survivors rows done.items) = .ok alone ∧
      alone.state = done.state ∧ alone.created = done.created ∧ alone.updated = done.updated ∧
      ∀ item ∈ alone.items, item.errors = []

theorem importMapped_ok :
    importMapped p s makerspace mapping rows = .ok done ↔
      Admits s makerspace (rowItems p s makerspace mapping rows) ∧
        ∃ last, (entriesFrom p s makerspace mapping rows 0).foldlM (applyItem p makerspace mapping)
            { state := s } = .ok last ∧
          done = { last with
            state := { last.state with
              events := last.state.events ++ [.bulkImported last.created last.updated] } } := by
  simp only [importMapped, prepared_eq, bind_ok, checkQuota_ok, pure_ok, exists_const]
  rw [Admits, newNames_entriesFrom]
  refine and_congr Iff.rfl (exists_congr fun last => and_congr_right fun _ => eq_comm)

/-- A sheet is applied row by row exactly when the limit admits it, no row without errors has a
nameless name, and none raises an uncaught exception. -/
theorem import_partial
    (p : Platform) (s : State) (makerspace : Makerspace) (mapping : Mapping) (rows : List Row) :
    AppliedPartially p s makerspace mapping rows ↔
      Admits s makerspace (rowItems p s makerspace (resolveMapping mapping rows) rows) ∧
      (∀ row ∈ rows, Named s makerspace (resolveMapping mapping rows) row) ∧
      Throughout (rowStep p s makerspace (resolveMapping mapping rows))
        (Passes p s makerspace (resolveMapping mapping rows)) s rows := by
  constructor
  · rintro ⟨_, hdone, hcount, -⟩
    obtain ⟨hadmits, _, hlast, rfl⟩ := importMapped_ok.mp hdone
    have hpasses := throughout_of_loop hlast
    refine ⟨hadmits, ?_, hpasses⟩
    obtain ⟨_, _, _, hnamed, hloop⟩ := loop_spec hpasses
    obtain ⟨_, hfold, _, -⟩ := hloop 0 { state := s } rfl
    obtain rfl := Except.ok.inj (hfold.symm.trans hlast)
    refine hnamed.mp ?_
    simp at hcount
    omega
  · rintro ⟨hadmits, hnamed, hpasses⟩
    obtain ⟨_, _, _, hiff, hloop⟩ := loop_spec hpasses
    obtain ⟨_, hfold, _, halone⟩ := hloop 0 { state := s } rfl
    obtain ⟨_, hfold', hclean⟩ := halone 0 { state := s } rfl
    have hzero := hiff.mpr hnamed
    refine ⟨_, importMapped_ok.mpr ⟨hadmits, _, hfold, rfl⟩, ?_, _,
      importMapped_ok.mpr ⟨hadmits.subset fun row hrow => mem_of_mem_survivors hrow, _,
        hfold', rfl⟩, rfl, rfl, rfl, ?_⟩
    · simp only [Nat.zero_add, nil_append]
      omega
    · exact hclean

/-- Texts are compared and slugged as they are, without stored objects. -/
def plainPlatform : Platform where
  iexact a b := a = b
  upper := id
  slugify := id
  finalizeUpload _ := .error "The uploaded object does not exist."

def plainMapping : Mapping :=
  [(.name, "name"), (.totalQuantity, "total"), (.availableQuantity, "available")]

def plainRow (name printed : String) (quantity : Int) : Row :=
  [("name", .text name), ("total", .number printed quantity false),
    ("available", .number printed quantity false)]

def emptyShelf : State where
  stock := { boxes := ⟨[{ id := 4, makerspaceId := 1, code := "C4" }], nodup_singleton _⟩ }

def boltShelf : State :=
  ((applyImport plainPlatform emptyShelf { id := 1 } plainMapping
    [plainRow "bolt" "5" 5]).toOption.map Progress.state).getD emptyShelf

def splitShelf : State :=
  { boltShelf with
    stock := ((Lending.step boltShelf.stock
      (.transfer 1 1 none (some 4) [.product 1 2 8])).toOption).getD boltShelf.stock }

def abortOf : Except Abort Progress → Option Abort
  | .error exception => some exception
  | .ok _ => none

theorem eq_error_of_abortOf {x : Except Abort Progress} {exception : Abort}
    (h : abortOf x = some exception) : x = .error exception := by
  cases x with
  | error => exact congrArg _ (Option.some.inj h)
  | ok => nomatch h

theorem eq_ok_getD {ε α : Type} {x : Except ε α} (default : α) (h : x.toOption.isSome) :
    x = .ok (x.toOption.getD default) := by
  cases x with
  | error => nomatch h
  | ok => rfl

/-- One row names two products, and the other is not applied either. -/
theorem bolts_import_aborted :
    (∃ done, applyImport plainPlatform emptyShelf { id := 1 } plainMapping
        [plainRow "bolt" "5" 5] = .ok done ∧ done.state = boltShelf) ∧
      Lending.step boltShelf.stock (.transfer 1 1 none (some 4) [.product 1 2 8]) =
        .ok splitShelf.stock ∧
      applyImport plainPlatform splitShelf { id := 1 } plainMapping
        [plainRow "bolt" "5" 5, plainRow "nut" "9" 9] = .error .multipleObjectsReturned ∧
      ((applyImport plainPlatform splitShelf { id := 1 } plainMapping
        [plainRow "nut" "9" 9]).toOption.map Progress.created = some 1) ∧
      ¬ AppliedPartially plainPlatform splitShelf { id := 1 } plainMapping
        [plainRow "bolt" "5" 5, plainRow "nut" "9" 9] := by
  have habort : applyImport plainPlatform splitShelf { id := 1 } plainMapping
      [plainRow "bolt" "5" 5, plainRow "nut" "9" 9] = .error .multipleObjectsReturned :=
    eq_error_of_abortOf (by decide +kernel)
  refine ⟨⟨_, rfl, rfl⟩, eq_ok_getD boltShelf.stock ?_, habort, ?_, ?_⟩
  · decide +kernel
  · decide +kernel
  · rintro ⟨_, hdone, -⟩
    exact nomatch habort.symm.trans hdone

end BulkImport
end SpaceWorks
