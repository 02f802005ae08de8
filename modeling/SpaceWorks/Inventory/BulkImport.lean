import SpaceWorks.Lending.Availability
import SpaceWorks.Library.Numbering
import SpaceWorks.Library.Numerals

/-!
# Bulk import of products

`_normalize_row` (`apps/admin_api/bulk_import_rows.py`), `preview_import` (`bulk_import_preview.py`)
and `apply_import` (`bulk_import_apply.py`), with the image checks of
`apps/inventory/public_image_attach.py`.  The tables are those of lending and the import's own
columns.  A row runs in a savepoint; an exception not caught there ends the import.
-/

namespace SpaceWorks
namespace BulkImport

open Checked Lending

inductive Field
  | name
  | totalQuantity
  | availableQuantity
  | reservedQuantity
  | issuedQuantity
  | damagedQuantity
  | lostQuantity
  | description
  | imageKey
  | trackingMode
  | isPublic
  | publicSelfCheckoutEnabled
  | showPublicCount
  | publicAvailabilityMode
  | storageLocation
  | category
  | boxCode
  deriving DecidableEq

def Field.key : Field → String
  | .name => "name"
  | .totalQuantity => "total_quantity"
  | .availableQuantity => "available_quantity"
  | .reservedQuantity => "reserved_quantity"
  | .issuedQuantity => "issued_quantity"
  | .damagedQuantity => "damaged_quantity"
  | .lostQuantity => "lost_quantity"
  | .description => "description"
  | .imageKey => "image_key"
  | .trackingMode => "tracking_mode"
  | .isPublic => "is_public"
  | .publicSelfCheckoutEnabled => "public_self_checkout_enabled"
  | .showPublicCount => "show_public_count"
  | .publicAvailabilityMode => "public_availability_mode"
  | .storageLocation => "storage_location"
  | .category => "category"
  | .boxCode => "box_code"

def validFields : List Field :=
  [.name, .totalQuantity, .availableQuantity, .reservedQuantity, .issuedQuantity,
    .damagedQuantity, .lostQuantity, .description, .imageKey, .trackingMode, .isPublic,
    .publicSelfCheckoutEnabled, .showPublicCount, .publicAvailabilityMode, .storageLocation,
    .category, .boxCode]

def requiredFields : List Field := [.name, .totalQuantity, .availableQuantity]

def detailWarningFields : List Field := [.description, .storageLocation, .category, .imageKey]

def quantityFields : List (Field × Column) :=
  [(.totalQuantity, .total), (.availableQuantity, .available), (.reservedQuantity, .reserved),
    (.issuedQuantity, .issued), (.damagedQuantity, .damaged), (.lostQuantity, .lost)]

def createProtectedBucketFields : List (Field × Column) :=
  [(.reservedQuantity, .reserved), (.issuedQuantity, .issued), (.damagedQuantity, .damaged),
    (.lostQuantity, .lost)]

def maxImportQuantity : Int := 1000000

/-- A cell: blank, text, number, truth value or other. -/
inductive Cell
  | null
  | text (value : String)
  | number (printed : String) (whole : Int) (zero : Bool)
  | flag (value : Bool)
  | other (printed : String)
  deriving DecidableEq

namespace Cell

/-- `value in {None, ""}`. -/
def blank : Cell → Bool
  | .null => true
  | .text value => value = ""
  | _ => false

def truthy : Cell → Bool
  | .null => false
  | .text value => value ≠ ""
  | .number _ _ zero => !zero
  | .flag value => value
  | .other _ => true

/-- `str()` of a value. -/
def printed : Cell → String
  | .null => "None"
  | .text value => value
  | .number printed _ _ => printed
  | .flag value => if value then "True" else "False"
  | .other printed => printed

def int? : Cell → Option Int
  | .null => none
  | .text value => Python.int? value.toList
  | .number _ whole _ => some whole
  | .flag value => some (if value then 1 else 0)
  | .other _ => none

def boolValue : Cell → Bool
  | .flag value => value
  | cell => Python.lower (Python.strip cell.printed) ∈ ["1", "true", "yes", "y"]

/-- `str(value or "").strip()`. -/
def stripped (cell : Cell) : String :=
  if cell.truthy then Python.strip cell.printed else ""

def stored : Cell → Option String
  | .null => none
  | cell => some cell.printed

end Cell

abbrev Row := List (String × Cell)

def Row.get (row : Row) (column : String) : Cell :=
  (row.lookup column).getD .null

abbrev Mapping := List (Field × String)

/-- `mapping.get(field)`, where a blank column counts as none. -/
def Mapping.column (mapping : Mapping) (field : Field) : Option String :=
  (mapping.lookup field).filter fun column => column ≠ ""

def Mapping.cell (mapping : Mapping) (row : Row) (field : Field) : Option Cell :=
  (mapping.column field).map row.get

def defaultMapping : List Row → Mapping
  | [] => []
  | row :: _ => validFields.filterMap fun field =>
    ((row.map Prod.fst).reverse.find? fun column =>
      Python.lower (Python.strip column) = field.key).map fun column => (field, column)

/-- `mapping or _default_mapping(rows)`. -/
def resolveMapping (mapping : Mapping) (rows : List Row) : Mapping :=
  if mapping = [] then defaultMapping rows else mapping

inductive AvailabilityMode
  | exactCount
  | statusOnly
  | hidden

/-- The columns of a product that lending does not read. -/
structure ProductDetails where
  description : String := ""
  storageLocation : String := ""
  showPublicCount : Bool := false
  publicAvailabilityMode : AvailabilityMode := .statusOnly
  imageKey : String := ""

structure CategoryLabel where
  name : String := ""
  code : String := ""

inductive AuditEvent
  | categoryCreated (categoryId : Nat)
  | bulkImported (created updated : Nat)

structure State where
  stock : Lending.State
  details : Nat → ProductDetails := fun _ => {}
  labels : Nat → CategoryLabel := fun _ => {}
  otherImageKeys : List String := []
  storageBytesUsed : Nat := 0
  events : List AuditEvent := []

structure Makerspace where
  id : Nat
  productLimit : Option Nat := none
  storageLimit : Option Nat := none

/-- What the import asks of the database, `slugify` and the object storage. -/
structure Platform where
  iexact : String → String → Bool
  upper : String → String
  slugify : String → String
  finalizeUpload : String → Except String Nat

def productsNamed (s : State) (makerspace : Makerspace) (name : String) :
    List InventoryProduct :=
  s.stock.products.rows.filter fun product =>
    product.makerspaceId = makerspace.id ∧ product.name = name

def findCategory (p : Platform) (s : State) (makerspace : Makerspace) (value : String) :
    Option Category :=
  ((s.stock.categories.rows.filter fun category =>
      category.makerspaceId = makerspace.id ∧
        (p.iexact (s.labels category.id).name value ∨
          (s.labels category.id).code = p.upper value)).insertionSort
    fun a b => (s.labels b.id).code ≤ (s.labels a.id).code).head?

def imageKeyInUse (s : State) (key : String) (productId : Option Nat) : Prop :=
  key ∈ s.otherImageKeys ∨ ∃ product ∈ s.stock.products.rows,
    some product.id ≠ productId ∧ (s.details product.id).imageKey = key

instance (s : State) (key : String) (productId : Option Nat) :
    Decidable (imageKeyInUse s key productId) :=
  inferInstanceAs (Decidable (_ ∨ ∃ _ ∈ _, _))

structure RowData where
  name : Cell
  quantities : Quantities
  description : Option Cell
  storageLocation : Option Cell
  isPublic : Bool
  publicSelfCheckoutEnabled : Bool
  showPublicCount : Bool
  trackingMode : TrackingMode
  publicAvailabilityMode : AvailabilityMode
  boxId : Option Nat
  imageKey : String
  categoryName : String

/-- The errors of a row: a dictionary from field names to messages. -/
abbrev RowErrors := List (String × String)

def RowErrors.set (errors : RowErrors) (field message : String) : RowErrors :=
  if field ∈ errors.map Prod.fst then
    errors.map fun entry => if entry.1 = field then (field, message) else entry
  else errors ++ [(field, message)]

def intValue (cell : Cell) : Int × Option String :=
  match cell.int? with
  | none => (0, some "Must be an integer.")
  | some parsed =>
    if parsed < 0 then (parsed, some "Must be non-negative.")
    else if maxImportQuantity < parsed then
      (parsed, some s!"Must be at most {maxImportQuantity}.")
    else (parsed, none)

def trackingMode? (value : String) : Option TrackingMode :=
  if value = "quantity" then some .quantity
  else if value = "individual" then some .individual
  else none

def availabilityMode? (value : String) : Option AvailabilityMode :=
  if value = "exact_count" then some .exactCount
  else if value = "status_only" then some .statusOnly
  else if value = "hidden" then some .hidden
  else none

def choice {α : Type} (parse : String → Option α) : Option Cell → Option α → Option α
  | none, default => default
  | some (.text value), _ => parse value
  | some _, _ => none

def quantityOf (cell : Field → Option Cell) (column : Column) : Int :=
  match quantityFields.find? fun entry => entry.2 = column with
  | none => 0
  | some entry => ((cell entry.1).map fun value => (intValue value).1).getD 0

def boxOf (s : State) (makerspace : Makerspace) (cell : Option Cell) : Option Box :=
  (cell.filter Cell.truthy).bind fun code => s.stock.boxes.rows.find? fun box =>
    box.makerspaceId = makerspace.id ∧ box.code = code.printed

def normalizedData (s : State) (makerspace : Makerspace) (row : Row) (mapping : Mapping) :
    RowData :=
  let cell := mapping.cell row
  let flag (field : Field) (default : Bool) : Bool := ((cell field).map Cell.boolValue).getD default
  { name := (cell .name).getD .null
    quantities := quantityOf cell
    description := cell .description
    storageLocation := cell .storageLocation
    isPublic := flag .isPublic true
    publicSelfCheckoutEnabled := flag .publicSelfCheckoutEnabled false
    showPublicCount := flag .showPublicCount false
    trackingMode := (choice trackingMode? (cell .trackingMode) (some .quantity)).getD .quantity
    publicAvailabilityMode :=
      (choice availabilityMode? (cell .publicAvailabilityMode) (some .statusOnly)).getD .statusOnly
    boxId := (boxOf s makerspace (cell .boxCode)).map Box.id
    imageKey := ((cell .imageKey).map Cell.stripped).getD ""
    categoryName := ((cell .category).map Cell.stripped).getD "" }

def normalizeErrors (s : State) (makerspace : Makerspace) (row : Row) (mapping : Mapping) :
    RowErrors :=
  let cell := mapping.cell row
  let data := normalizedData s makerspace row mapping
  let required := requiredFields.foldl (fun (errors : RowErrors) field =>
    if (cell field).any fun value => !value.blank then errors
    else errors.set field.key "This field is required.") []
  let counted := quantityFields.foldl (fun (errors : RowErrors) entry =>
    match (cell entry.1).bind fun value => (intValue value).2 with
    | none => errors
    | some message => errors.set entry.1.key message) required
  let tracked :=
    if (choice trackingMode? (cell .trackingMode) (some .quantity)).isSome then counted
    else counted.set "tracking_mode" "Invalid tracking mode."
  let shown :=
    if (choice availabilityMode? (cell .publicAvailabilityMode) (some .statusOnly)).isSome then
      tracked
    else tracked.set "public_availability_mode" "Invalid public availability mode."
  let summed :=
    if (cell .totalQuantity).isSome ∧ data.quantities .total < data.quantities.held then
      shown.set "total_quantity" "Quantity buckets cannot exceed total quantity."
    else shown
  let boxed :=
    if (cell .boxCode).any Cell.truthy ∧ data.boxId = none then
      summed.set "box_code" "Box code does not exist in this makerspace."
    else summed
  if data.imageKey ≠ "" ∧ ¬ data.imageKey.startsWith s!"items/{makerspace.id}/" then
    boxed.set "image_key" "Image key must belong to this makerspace."
  else boxed

/-- The fields whose optional detail is blank. -/
def rowWarnings (row : Row) (mapping : Mapping) : List Field :=
  detailWarningFields.filter fun field => (mapping.cell row field).any Cell.blank

def createBucketErrors (data : RowData) (errors : RowErrors) : RowErrors :=
  let protectedErrors := (createProtectedBucketFields.filter fun entry =>
    data.quantities entry.2 ≠ 0).foldl (fun (errors : RowErrors) entry => errors.set entry.1.key
      "A new product cannot be imported with this stock; record it through the workflows.") errors
  if data.trackingMode = .individual then
    ([(Field.totalQuantity, Column.total), (.availableQuantity, .available)].filter fun entry =>
      data.quantities entry.2 ≠ 0).foldl (fun (errors : RowErrors) entry => errors.set entry.1.key
        "Individual-tracked items are imported with 0 here; generate their units with QR codes after the import.")
      protectedErrors
  else protectedErrors

inductive Action
  | create
  | update
  | error
  deriving DecidableEq

/-- `_row_action`: only texts equal names. -/
def rowAction (s : State) (makerspace : Makerspace) (name : Cell) : Action :=
  if name.truthy then
    match name with
    | .text value => if productsNamed s makerspace value = [] then .create else .update
    | _ => .create
  else .error

structure Item where
  row : Nat
  action : Action
  data : RowData
  errors : RowErrors
  warnings : List Field

/-- One turn of `preview_import`. -/
def previewRow (s : State) (makerspace : Makerspace) (mapping : Mapping) (index : Nat)
    (row : Row) : Item :=
  let data := normalizedData s makerspace row mapping
  let action := rowAction s makerspace data.name
  let found := normalizeErrors s makerspace row mapping
  let errors := if action = .create then createBucketErrors data found else found
  { row := index
    action := if errors = [] then action else .error
    data := data
    errors := errors
    warnings := rowWarnings row mapping }

/-- The rows of `preview_import`, numbered as the lines of the sheet. -/
def previewRows (s : State) (makerspace : Makerspace) (mapping : Mapping) (rows : List Row) :
    List Item :=
  rows.zipIdx.map fun entry => previewRow s makerspace mapping (entry.2 + 2) entry.1

inductive Abort
  | multipleObjectsReturned
  | dataError (column : String)
  | limitReached (resource : String)
  | doesNotExist
  deriving DecidableEq

/-- A message recorded on the row, or an exception let through. -/
inductive RowFailure
  | recorded (message : String)
  | raised (exception : Abort)

def storeText (column : String) (maxLength : Nat) (value : String) : Except RowFailure Unit :=
  require (value.length ≤ maxLength) (.raised (.dataError column))

/-- A value for a text column without NULL. -/
def storeCell (column : String) (value : Option Cell) : Except RowFailure Unit :=
  require (∀ cell, value = some cell → cell.stored.isSome)
    (.recorded s!"null value in column {column} violates not-null constraint")

/-- The texts of a row; lengths are checked before NULL. -/
def storeTexts (data : RowData) : Except RowFailure Unit := do
  storeText "storage_location" 200 ((data.storageLocation.bind Cell.stored).getD "")
  storeCell "description" data.description
  storeCell "storage_location" data.storageLocation

/-- The slugs that `_category_for_name` tries. -/
def slugCandidate (base : String) (n : Nat) : String :=
  if n = 1 then base else s!"{base}-{n}"

def newSlug (p : Platform) (s : State) (makerspace : Makerspace) (name : String) : String :=
  let base := if p.slugify name = "" then "category" else p.slugify name
  let used := (s.stock.categories.rows.filter fun category =>
    category.makerspaceId = makerspace.id).map Category.slug
  slugCandidate base ((Numbering.firstUnused (slugCandidate base) used (used.length + 1) 1).getD 1)

/-- `_category_for_name`, creating at the first attempt. -/
def categoryForName (p : Platform) (s : State) (makerspace : Makerspace) (name : String) :
    Except RowFailure (State × Nat) :=
  match findCategory p s makerspace name with
  | some category => return (s, category.id)
  | none => do
    let slug := newSlug p s makerspace name
    storeText "name" 100 name
    storeText "slug" 120 slug
    let id := s.stock.categories.nextKey
    let categories ← s.stock.categories.insertNew
      { id := id, makerspaceId := makerspace.id, slug := slug }
      (.recorded "inventory_category_pkey")
    let s := { s with
      stock := { s.stock with categories := categories }
      labels := Function.update s.labels id { name := name }
      events := s.events ++ [.categoryCreated id] }
    return (s, id)

def rowCategory (p : Platform) (s : State) (makerspace : Makerspace) (name : String) :
    Except RowFailure (State × Option Nat) :=
  if name = "" then return (s, none)
  else do
    let (s, id) ← categoryForName p s makerspace name
    return (s, some id)

def attachImage (s : State) (makerspace : Makerspace) (productId : Nat) (key : String)
    (size : Nat) : Except RowFailure State :=
  if key = "" ∨ key = (s.details productId).imageKey then return s
  else do
    require (¬ imageKeyInUse s key (some productId)) (.recorded "This image is already in use.")
    require (∀ limit, makerspace.storageLimit = some limit → size ≠ 0 →
        s.storageBytesUsed + size ≤ limit)
      (.raised (.limitReached "storage"))
    storeText "image_key" 300 key
    return { s with
      storageBytesUsed := if makerspace.storageLimit = none then s.storageBytesUsed
        else s.storageBytesUsed + size
      details := Function.update s.details productId { s.details productId with imageKey := key } }

def ProductDetails.write (details : ProductDetails) (data : RowData) : ProductDetails :=
  { details with
    description := ((data.description.bind Cell.stored).getD details.description)
    storageLocation := ((data.storageLocation.bind Cell.stored).getD details.storageLocation)
    showPublicCount := data.showPublicCount
    publicAvailabilityMode := data.publicAvailabilityMode }

def createProduct (s : State) (makerspace : Makerspace) (data : RowData)
    (categoryId : Option Nat) : Except RowFailure (State × Nat) := do
  storeText "name" 200 data.name.printed
  storeTexts data
  require (data.quantities.held ≤ data.quantities .total ∧
      ∀ entry ∈ quantityFields, 0 ≤ data.quantities entry.2)
    (.recorded "new row violates check constraint")
  let id := s.stock.products.nextKey
  let products ← s.stock.products.insertNew
    { id := id
      makerspaceId := makerspace.id
      name := data.name.printed
      categoryId := categoryId
      boxId := data.boxId
      trackingMode := data.trackingMode
      quantities := data.quantities
      isPublic := data.isPublic
      publicSelfCheckoutEnabled := data.publicSelfCheckoutEnabled }
    (.recorded "inventory_product_pkey")
  let s := { s with
    stock := { s.stock with products := products }
    details := Function.update s.details id (ProductDetails.write {} data) }
  return (s, id)

/-- The guarded mode change, for a mapped column. -/
def changeMode (s : State) (product : InventoryProduct) (data : RowData) (mapped : Bool) :
    Except RowFailure State :=
  if mapped then
    match Availability.changeTrackingMode s.stock product.id data.trackingMode with
    | .ok stock => return { s with stock := stock }
    | .error (.trackingModeChangeRefused message) => throw (.recorded message)
    | .error _ => throw (.raised .doesNotExist)
  else return s

/-- The columns that an update writes; quantities are kept. -/
def updateProduct (s : State) (product : InventoryProduct) (data : RowData)
    (categoryId : Option Nat) (mapped : Bool) : Except RowFailure State := do
  let s ← changeMode s product data mapped
  storeTexts data
  let locked ← orRefuse (s.stock.products.get? product.id) (.raised .doesNotExist)
  let products := s.stock.products.put { locked with
    categoryId := categoryId.orElse fun _ => locked.categoryId
    boxId := data.boxId
    isPublic := data.isPublic
    publicSelfCheckoutEnabled := data.publicSelfCheckoutEnabled }
  return { s with
    stock := { s.stock with products := products }
    details := Function.update s.details product.id ((s.details product.id).write data) }

/-- `_apply_import_row`, and whether it created a product. -/
def applyImportRow (p : Platform) (s : State) (makerspace : Makerspace) (mapping : Mapping)
    (data : RowData) (size : Nat) : Except RowFailure (State × Bool) := do
  let (s, categoryId) ← rowCategory p s makerspace data.categoryName
  match productsNamed s makerspace data.name.printed with
  | [] => do
    let (s, id) ← createProduct s makerspace data categoryId
    let s ← attachImage s makerspace id data.imageKey size
    return (s, true)
  | [product] => do
    let s ← updateProduct s product data categoryId (mapping.column .trackingMode).isSome
    let s ← attachImage s makerspace product.id data.imageKey size
    return (s, false)
  | _ => throw (.raised .multipleObjectsReturned)

/-- `_record_row_error`. -/
def Item.fail (item : Item) (message : String) : Item :=
  { item with action := .error, errors := item.errors.set "__all__" message }

def finalizeProductImage (p : Platform) (s : State) (makerspace : Makerspace) (key : String)
    (productId : Option Nat) : Except String Nat := do
  require (key.startsWith s!"items/{makerspace.id}/") "Image object key is outside this makerspace."
  require (¬ imageKeyInUse s key productId) "This image is already in use."
  p.finalizeUpload key

/-- The image is finalized before the transaction. -/
def prepareItem (p : Platform) (s : State) (makerspace : Makerspace) (item : Item) : Item × Nat :=
  if item.action = .error ∨ item.data.imageKey = "" then (item, 0)
  else
    let product := ((productsNamed s makerspace item.data.name.printed).insertionSort
      fun a b => a.id ≤ b.id).head?
    match finalizeProductImage p s makerspace item.data.imageKey (product.map InventoryProduct.id) with
    | .ok size => (item, size)
    | .error message => (item.fail message, 0)

def newNames (s : State) (makerspace : Makerspace) (items : List Item) : List Cell :=
  (((items.filter fun item => item.action ≠ .error).map fun item => item.data.name).dedup).filter
    fun name => rowAction s makerspace name ≠ .update

def checkQuota (s : State) (makerspace : Makerspace) (items : List Item) : Except Abort Unit :=
  require (∀ limit, makerspace.productLimit = some limit →
      (s.stock.products.rows.filter fun product =>
        product.makerspaceId = makerspace.id ∧ ¬ product.isArchived).length +
          (newNames s makerspace items).length ≤ limit)
    (.limitReached "products")

structure Progress where
  state : State
  items : List Item := []
  created : Nat := 0
  updated : Nat := 0

/-- One turn of the loop of `apply_import`. -/
def applyItem (p : Platform) (makerspace : Makerspace) (mapping : Mapping) (acc : Progress)
    (entry : Item × Nat) : Except Abort Progress :=
  if entry.1.action = .error then return { acc with items := acc.items ++ [entry.1] }
  else
    match applyImportRow p acc.state makerspace mapping entry.1.data entry.2 with
    | .ok (s, true) => return { acc with
        state := s
        items := acc.items ++ [entry.1]
        created := acc.created + 1 }
    | .ok (s, false) => return { acc with
        state := s
        items := acc.items ++ [entry.1]
        updated := acc.updated + 1 }
    | .error (.recorded message) => return { acc with items := acc.items ++ [entry.1.fail message] }
    | .error (.raised exception) => throw exception

/-- `apply_import` of an asynchronous job, with found columns. -/
def importMapped (p : Platform) (s : State) (makerspace : Makerspace) (mapping : Mapping)
    (rows : List Row) : Except Abort Progress := do
  let prepared := (previewRows s makerspace mapping rows).map (prepareItem p s makerspace)
  checkQuota s makerspace (prepared.map Prod.fst)
  let done ← prepared.foldlM (applyItem p makerspace mapping) { state := s }
  return { done with
    state := { done.state with
      events := done.state.events ++ [.bulkImported done.created done.updated] } }

/-- `apply_import` of an asynchronous job. -/
def applyImport (p : Platform) (s : State) (makerspace : Makerspace) (mapping : Mapping)
    (rows : List Row) : Except Abort Progress :=
  importMapped p s makerspace (resolveMapping mapping rows) rows

end BulkImport
end SpaceWorks
