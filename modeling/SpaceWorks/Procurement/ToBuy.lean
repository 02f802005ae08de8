import SpaceWorks.Lending.Circulation

/-!
# The to-buy list

`apps/procurement` (`models.py`, `services.py`, `views_items.py`) beside the lending system: what is
received becomes stock once, while requests and loans go on.
-/

namespace SpaceWorks
namespace Procurement

open Checked Table TransactionalSystem Lending

inductive Kind
  | hardware
  | printing
  deriving DecidableEq

def Kind.value : Kind → String
  | .hardware => "hardware"
  | .printing => "printing"

inductive Status
  | requested
  | approved
  | ordered
  | received
  | cancelled
  deriving DecidableEq

structure ToBuyItem where
  id : Nat
  makerspaceId : Nat
  kind : Kind
  status : Status
  purchaser : Option Nat := none
  orderedAt : Option Int := none
  receivedAt : Option Int := none
  movedToInventoryAt : Option Int := none
  resultingProduct : Option Nat := none

instance : Keyed ToBuyItem Nat := ⟨ToBuyItem.id⟩

/-- An audit row `procurement.moved_to_inventory`. -/
structure Moved where
  itemId : Nat
  productId : Nat
  quantity : Int

structure State where
  stock : Lending.State := {}
  items : Table ToBuyItem := ∅
  nextId : Nat := 1
  moves : List Moved := []

def stampStatusChange (item : ToBuyItem) (actor : Nat) (now : Int)
    (previousStatus : Option Status) : ToBuyItem :=
  if previousStatus = some item.status then item
  else if item.status = .ordered ∧ item.orderedAt = none then
    { item with orderedAt := some now, purchaser := some actor }
  else if item.status = .received ∧ item.receivedAt = none then
    { item with receivedAt := some now, purchaser := item.purchaser <|> some actor }
  else item

def assertMoveAllowed (item : ToBuyItem) (expectedKind : Kind) : Except Refusal Unit := do
  require (item.kind = expectedKind) (.validation "kind" s!"Item must be {expectedKind.value}.")
  require (item.status = .received)
    (.validation "status" "Item must be received before it can be moved.")
  require (item.movedToInventoryAt = none) (.validation "detail" "Already moved to inventory.")

/-- The payload's columns are those of the request, its id is the new row's. -/
inductive MoveMode
  | create (payload : InventoryProduct) (checkQuota : Except Refusal Unit)
  | topup (productId : Option Nat)

def createInventoryProduct (stock : Lending.State) (item : ToBuyItem)
    (payload : InventoryProduct) (checkQuota : Except Refusal Unit) :
    Except Refusal (Lending.State × Nat) := do
  require (payload.trackingMode ≠ .individual) (.validation "tracking_mode"
    "Procurement supports quantity stock only. Create an individual item with zero stock in Inventory, then generate verified units in QR Tools.")
  let name := Python.strip payload.name
  require (name ≠ "") (.validation "name" "This field may not be blank.")
  require (name.length ≤ 200)
    (.validation "name" "Ensure this field has no more than 200 characters.")
  require (∀ id ∈ payload.boxId, (stock.boxes.get? id).isSome) (.validation "box"
    s!"Invalid pk \"{payload.boxId.getD 0}\" - object does not exist.")
  require (∀ id ∈ payload.categoryId, (stock.categories.get? id).isSome) (.validation "category"
    s!"Invalid pk \"{payload.categoryId.getD 0}\" - object does not exist.")
  require (∀ box ∈ payload.boxId.bind stock.boxes.get?, box.makerspaceId = item.makerspaceId)
    (.validation "box" "Box belongs to a different makerspace.")
  require (∀ category ∈ payload.categoryId.bind stock.categories.get?,
      category.makerspaceId = item.makerspaceId)
    (.validation "category" "Category belongs to a different makerspace.")
  checkQuota
  let product := { payload with
    makerspaceId := item.makerspaceId, name := name, quantities := 0, isArchived := false }
  let products ← stock.products.insertNew product (.integrity "inventory_product_pkey")
  return ({ stock with products := products }, product.id)

def topupProduct (stock : Lending.State) (item : ToBuyItem) (productId : Option Nat) :
    Except Refusal (Lending.State × Nat) := do
  let id ← orRefuse (productId.filter (· ≠ 0))
    (.validation "product_id" "This field is required for topup.")
  let product ← orRefuse (stock.products.get? id) (.doesNotExist "InventoryProduct")
  require (product.makerspaceId = item.makerspaceId) (.doesNotExist "InventoryProduct")
  return (stock, product.id)

def moveTarget (stock : Lending.State) (item : ToBuyItem) :
    MoveMode → Except Refusal (Lending.State × Nat)
  | .create payload checkQuota => createInventoryProduct stock item payload checkQuota
  | .topup productId => topupProduct stock item productId

def moveToInventory (s : State) (itemId : Nat) (mode : MoveMode) (quantity now : Int) :
    Except Refusal State := do
  let locked ← orRefuse (s.items.get? itemId) (.doesNotExist "ToBuyItem")
  assertMoveAllowed locked .hardware
  require (1 ≤ quantity) (.validation "quantity" "Quantity must be at least 1.")
  let (stock, productId) ← moveTarget s.stock locked mode
  let product ← orRefuse (stock.products.get? productId) (.doesNotExist "InventoryProduct")
  require (product.trackingMode ≠ .individual) (.validation "product_id"
    "Individual items cannot be topped up here. Verify physical units and generate them in QR Tools.")
  let stock ← (Availability.adjustQuantities stock productId quantity 0 0).mapError fun
    | .insufficientStock message => .validation "quantity" message
    | refusal => refusal
  let moved := { locked with
    movedToInventoryAt := some now, resultingProduct := some productId }
  let row := { itemId := locked.id, productId := productId, quantity := quantity }
  return { s with stock := stock, items := s.items.put moved, moves := s.moves ++ [row] }

/-- The machine side answers whether it made the spool or the printer. -/
def moveToPrinting (s : State) (itemId : Nat) (made : Except Refusal Unit) (now : Int) :
    Except Refusal State := do
  let locked ← orRefuse (s.items.get? itemId) (.doesNotExist "ToBuyItem")
  assertMoveAllowed locked .printing
  made
  return { s with items := s.items.put { locked with movedToInventoryAt := some now } }

inductive Operation
  | lending (op : Lending.Operation)
  | add (makerspaceId : Nat) (kind : Kind) (status : Status) (actor : Nat) (now : Int)
  | update (itemId : Nat) (status : Option Status) (actor : Nat) (now : Int)
  | remove (itemId : Nat)
  | moveToInventory (itemId : Nat) (mode : MoveMode) (quantity now : Int)
  | moveToPrinting (itemId : Nat) (made : Except Refusal Unit) (now : Int)

def step (s : State) : Operation → Except Refusal State
  | .lending op => do
    let stock ← Lending.step s.stock op
    return { s with stock := stock }
  | .add makerspaceId kind status actor now => do
    let item := { id := s.nextId, makerspaceId := makerspaceId, kind := kind, status := status }
    let items ← s.items.insertNew (stampStatusChange item actor now none)
      (.integrity "procurement_tobuyitem_pkey")
    return { s with items := items, nextId := s.nextId + 1 }
  | .update itemId status actor now => do
    let item ← orRefuse (s.items.get? itemId) (.doesNotExist "ToBuyItem")
    let saved := { item with status := status.getD item.status }
    return { s with items := s.items.put (stampStatusChange saved actor now item.status) }
  | .remove itemId => do
    let _ ← orRefuse (s.items.get? itemId) (.doesNotExist "ToBuyItem")
    return { s with items := s.items.erase itemId }
  | .moveToInventory itemId mode quantity now => moveToInventory s itemId mode quantity now
  | .moveToPrinting itemId made now => moveToPrinting s itemId made now

variable {s t : State} {item old new : ToBuyItem} {actor itemId : Nat} {now : Int}

/-- What status and move have left on the row of an item. -/
structure Stamped (item : ToBuyItem) : Prop where
  ordered : item.status = .ordered → item.orderedAt.isSome
  received : item.status = .received → item.receivedAt.isSome
  purchased : item.orderedAt.isSome ∨ item.receivedAt.isSome → item.purchaser.isSome
  moved : item.movedToInventoryAt.isSome → item.receivedAt.isSome
  stocked : item.resultingProduct.isSome ↔
    item.kind = .hardware ∧ item.movedToInventoryAt.isSome

theorem stampStatusChange_frame (item : ToBuyItem) (actor : Nat) (now : Int)
    (previousStatus : Option Status) :
    (stampStatusChange item actor now previousStatus).id = item.id ∧
      (stampStatusChange item actor now previousStatus).resultingProduct =
        item.resultingProduct := by
  unfold stampStatusChange
  split_ifs <;> exact ⟨rfl, rfl⟩

theorem stamped_stampStatusChange {status : Status} {previousStatus : Option Status}
    (h : Stamped item) (hprevious : previousStatus = some status → status = item.status) :
    Stamped (stampStatusChange { item with status := status } actor now previousStatus) := by
  obtain ⟨hordered, hreceived, hpurchased, hmoved, hstocked⟩ := h
  unfold stampStatusChange
  split
  · next hsame =>
      obtain rfl := hprevious hsame
      exact ⟨hordered, hreceived, hpurchased, hmoved, hstocked⟩
  · split
    · next hnew =>
        exact ⟨fun _ => rfl, fun hstatus => (nomatch hnew.1.symm.trans hstatus), fun _ => rfl,
          hmoved, hstocked⟩
    · split
      · next hnew =>
          refine ⟨fun hstatus => (nomatch hnew.1.symm.trans hstatus), fun _ => rfl, fun _ => ?_,
            fun _ => rfl, hstocked⟩
          cases item.purchaser <;> rfl
      · next hold hold' =>
          refine ⟨fun hstatus => ?_, fun hstatus => ?_, hpurchased, hmoved, hstocked⟩
          · exact Option.isSome_iff_ne_none.mpr fun hnone => hold ⟨hstatus, hnone⟩
          · exact Option.isSome_iff_ne_none.mpr fun hnone => hold' ⟨hstatus, hnone⟩

/-- The product of the first move of an item. -/
def productOf (moves : List Moved) (itemId : Nat) : Option Nat :=
  (moves.find? fun row => row.itemId = itemId).map Moved.productId

structure InOrder (s : State) : Prop where
  books : BooksInOrder s.stock
  squared : Squared s.stock
  fresh : ∀ item ∈ s.items, item.id < s.nextId
  past : ∀ row ∈ s.moves, row.itemId < s.nextId
  once : (s.moves.map Moved.itemId).Nodup
  stamped : ∀ item ∈ s.items, Stamped item
  recorded : ∀ item ∈ s.items, item.resultingProduct = productOf s.moves item.id

theorem inOrder_put {rows : List Moved} (h : InOrder s) (hget : s.items.get? itemId = some old)
    (hid : new.id = old.id) (hnew : Stamped new) (hrows : ∀ row ∈ rows, row.itemId = old.id)
    (honce : ((s.moves ++ rows).map Moved.itemId).Nodup)
    (hrecorded : new.resultingProduct = productOf (s.moves ++ rows) old.id) :
    InOrder { s with items := s.items.put new, moves := s.moves ++ rows } := by
  have hold := h.fresh old (mem_of_get? hget)
  refine { h with
    fresh := fun item hitem => ?_
    past := fun row hrow => ?_
    once := honce
    stamped := fun item hitem => ?_
    recorded := fun item hitem => ?_ }
  · rcases mem_of_mem_put hitem with rfl | ⟨hitem, -⟩
    · exact hid ▸ hold
    · exact h.fresh item hitem
  · rcases List.mem_append.mp hrow with hrow | hrow
    · exact h.past row hrow
    · exact hrows row hrow ▸ hold
  · rcases mem_of_mem_put hitem with rfl | ⟨hitem, -⟩
    · exact hnew
    · exact h.stamped item hitem
  · rcases mem_of_mem_put hitem with rfl | ⟨hitem, hne⟩
    · exact hid ▸ hrecorded
    · have hnone : rows.find? (fun row => row.itemId = item.id) = none := by
        refine List.find?_eq_none.mpr fun row hrow => ?_
        rw [hrows row hrow, ← hid]
        exact fun heq => hne (of_decide_eq_true heq).symm
      rw [h.recorded item hitem, productOf, productOf, List.find?_append, hnone, Option.or_none]

theorem inOrder_save (h : InOrder s) (hget : s.items.get? itemId = some old)
    (hid : new.id = old.id) (hnew : Stamped new)
    (hproduct : new.resultingProduct = old.resultingProduct) :
    InOrder { s with items := s.items.put new } := by
  have hput : InOrder { s with items := s.items.put new, moves := s.moves ++ [] } :=
    inOrder_put h hget hid hnew nofun (by simpa using h.once)
      (by simpa [hproduct] using h.recorded old (mem_of_get? hget))
  simpa using hput

theorem inOrder_moveToInventory {mode : MoveMode} {quantity : Int} (h : InOrder s)
    (hstep : moveToInventory s itemId mode quantity now = .ok t) :
    InOrder t := by
  simp only [moveToInventory, assertMoveAllowed, bind_ok, orRefuse_ok, require_ok,
    mapError_eq_ok, pure_ok, exists_const] at hstep
  obtain ⟨old, hget, ⟨hkind, hstatus, hunmoved⟩, -, ⟨stock, productId⟩, hmode, -, -, -, adjusted,
    hadjust, rfl⟩ := hstep
  have hstock : BooksInOrder stock ∧ Squared stock := by
    cases mode with
    | create payload checkQuota =>
      simp only [moveTarget, createInventoryProduct, bind_ok, insertNew_ok, pure_ok,
        Prod.mk.injEq] at hmode
      obtain ⟨-, -, -, -, -, -, -, -, -, -, -, -, -, -, -, -, _, ⟨hfresh, rfl⟩, rfl, -⟩ := hmode
      exact ⟨h.books.of_books ⟨rfl, rfl⟩, squared_insert h.squared hfresh rfl rfl rfl⟩
    | topup productId =>
      simp only [moveTarget, topupProduct, bind_ok, pure_ok, Prod.mk.injEq] at hmode
      obtain ⟨_, -, _, -, -, -, rfl, -⟩ := hmode
      exact ⟨h.books, h.squared⟩
  have hadjusted : BooksInOrder adjusted := by
    obtain ⟨_, -, -, -, -, rfl⟩ := applyDeltas_spec hadjust
    exact hstock.1.of_books ⟨rfl, rfl⟩
  have hmem := mem_of_get? hget
  obtain ⟨hordered, hreceived, hpurchased, -, hstocked⟩ := h.stamped old hmem
  -- what is not stocked yet has no row in the audit log
  have hnorow : s.moves.find? (fun row => row.itemId = old.id) = none := by
    rw [← Option.map_eq_none_iff, ← productOf, ← h.recorded old hmem,
      ← Option.not_isSome_iff_eq_none, hstocked, hunmoved]
    simp
  have hinOrder : InOrder { s with stock := adjusted } :=
    { h with books := hadjusted, squared := squared_applyDeltas hstock.2 hadjust }
  refine inOrder_put hinOrder hget rfl ?_ (List.forall_mem_singleton.mpr rfl) ?_ ?_
  · exact ⟨hordered, hreceived, hpurchased, fun _ => hreceived hstatus, by simp [hkind]⟩
  · rw [List.map_append, List.nodup_append]
    refine ⟨h.once, List.nodup_singleton _, fun id hid other hother => ?_⟩
    obtain ⟨row, hrow, rfl⟩ := List.mem_map.mp hid
    simpa [List.mem_singleton.mp hother] using List.find?_eq_none.mp hnorow row hrow
  · simp [productOf, List.find?_append, hnorow]

theorem inOrder_step : Preserves step InOrder := by
  intro s op t h hstep
  cases op with
  | lending op =>
    simp only [step, bind_ok, pure_ok] at hstep
    obtain ⟨stock, hstock, rfl⟩ := hstep
    exact { h with
      books := booksInOrder_step h.books hstock, squared := squared_step h.books h.squared hstock }
  | add makerspaceId kind status actor now =>
    simp only [step, bind_ok, insertNew_ok, pure_ok] at hstep
    obtain ⟨_, ⟨hfresh, rfl⟩, rfl⟩ := hstep
    obtain ⟨hid, hproduct⟩ := stampStatusChange_frame
      { id := s.nextId, makerspaceId := makerspaceId, kind := kind, status := status } actor now none
    have hblank : Stamped { id := s.nextId, makerspaceId, kind, status := .requested } := by
      constructor <;> simp
    refine { h with
      fresh := fun item hitem => ?_
      past := fun row hrow => (h.past row hrow).trans (Nat.lt_succ_self _)
      stamped := fun item hitem => ?_
      recorded := fun item hitem => ?_ }
    all_goals rcases (mem_insert hfresh).mp hitem with hitem | rfl
    · exact (h.fresh item hitem).trans (Nat.lt_succ_self _)
    · exact hid ▸ Nat.lt_succ_self _
    · exact h.stamped item hitem
    · exact stamped_stampStatusChange hblank (by simp)
    · exact h.recorded item hitem
    · have hnorow : s.moves.find? (fun row => row.itemId = s.nextId) = none :=
        List.find?_eq_none.mpr fun row hrow => by simpa using (h.past row hrow).ne
      rw [hproduct, hid, productOf, hnorow]
      rfl
  | update itemId status actor now =>
    simp only [step, bind_ok, orRefuse_ok, pure_ok] at hstep
    obtain ⟨old, hget, rfl⟩ := hstep
    obtain ⟨hid, hproduct⟩ := stampStatusChange_frame
      { old with status := status.getD old.status } actor now (some old.status)
    exact inOrder_save h hget hid (stamped_stampStatusChange (h.stamped old (mem_of_get? hget))
      fun hsame => (Option.some.inj hsame).symm) hproduct
  | remove itemId =>
    simp only [step, bind_ok, pure_ok] at hstep
    obtain ⟨_, -, rfl⟩ := hstep
    have hkept : ∀ item ∈ s.items.erase itemId, item ∈ s.items :=
      fun item hitem => (List.mem_filter.mp hitem).1
    exact { h with
      fresh := fun item hitem => h.fresh item (hkept item hitem)
      stamped := fun item hitem => h.stamped item (hkept item hitem)
      recorded := fun item hitem => h.recorded item (hkept item hitem) }
  | moveToInventory itemId mode quantity now => exact inOrder_moveToInventory h hstep
  | moveToPrinting itemId made now =>
    simp only [step, moveToPrinting, assertMoveAllowed, bind_ok, orRefuse_ok, require_ok, pure_ok,
      exists_const] at hstep
    obtain ⟨old, hget, ⟨hkind, hstatus, -⟩, -, -, rfl⟩ := hstep
    obtain ⟨hordered, hreceived, hpurchased, -, hstocked⟩ := h.stamped old (mem_of_get? hget)
    exact inOrder_save h hget rfl ⟨hordered, hreceived, hpurchased, fun _ => hreceived hstatus,
      by simpa [hkind] using hstocked⟩ rfl

/-- **Stocked once.** However orders, moves and lending interleave, an item becomes stock at most
once and after it was received, its product is that of its row in the audit log, and the ledger of
the stock stays square. -/
theorem to_buy_stocked_once {stock : Lending.State} (hbooks : BooksInOrder stock)
    (hsquared : Squared stock) (ops : List Operation) :
    ((run step { stock := stock } ops).moves.map Moved.itemId).Nodup ∧
      (∀ item ∈ (run step { stock := stock } ops).items, Stamped item ∧
        item.resultingProduct = productOf (run step { stock := stock } ops).moves item.id) ∧
      Squared (run step { stock := stock } ops).stock := by
  have hstart : InOrder { stock := stock } :=
    ⟨hbooks, hsquared, by simp, by simp, by simp, by simp, by simp⟩
  have hrun := run_preserves inOrder_step hstart ops
  exact ⟨hrun.once, fun item hitem => ⟨hrun.stamped item hitem, hrun.recorded item hitem⟩,
    hrun.squared⟩

/-- Three drills are ordered and received; a second move is refused. -/
theorem to_buy_drills :
    let ops : List Operation :=
      [.add 1 .hardware .ordered 4 50, .update 1 (some .received) 4 60,
        .moveToInventory 1 (.topup (some 7)) 3 70, .lending (.submit 5 1 9 [(7, 5)]),
        .moveToInventory 1 (.topup (some 7)) 3 80]
    (run step { stock := drillStore } ops).moves = [⟨1, 7, 3⟩] ∧
      Squared (run step { stock := drillStore } ops).stock :=
  ⟨rfl, (to_buy_stocked_once booksInOrder_drillStore squared_drillStore _).2.2⟩

end Procurement
end SpaceWorks
