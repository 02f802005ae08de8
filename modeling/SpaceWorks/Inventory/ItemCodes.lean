import Mathlib.Tactic.IntervalCases
import SpaceWorks.Library.Checked
import SpaceWorks.Library.Numbering
import SpaceWorks.Library.Runs
import SpaceWorks.Library.Table

/-!
# Item codes

The letters of products in their categories (`apps/inventory/item_codes.py` and the `save` of
`InventoryProduct`).  A product that comes into a category gets the next one, unless a new row
brings its own.
-/

namespace SpaceWorks
namespace ItemCodes

open Checked TransactionalSystem Numbering Table List Option Prod

/-- The loop of `letter_for_index`, bounded by the index. -/
def letterLoop : Nat → Nat → List Char → List Char
  | 0, _, letters => letters
  | turns + 1, index, letters =>
    if index = 0 then letters
    else letterLoop turns ((index - 1) / 26) (Char.ofNat (65 + (index - 1) % 26) :: letters)

def letterForIndex (index : Nat) : String :=
  String.ofList (letterLoop (index + 1) (index + 1) [])

def readLetter (n : Nat) (c : Char) : Nat :=
  26 * n + (c.toNat - 64)

theorem toNat_letter {n : Nat} (h : n < 26) : (Char.ofNat (65 + n)).toNat = 65 + n := by
  interval_cases n <;> rfl

theorem read_letterLoop {turns index : Nat} (h : index ≤ turns) (letters : List Char) :
    (letterLoop turns index letters).foldl readLetter 0 = letters.foldl readLetter index := by
  induction turns generalizing index letters with
  | zero =>
    obtain rfl : index = 0 := by omega
    rfl
  | succ turns ih =>
    rw [letterLoop]
    split
    · next hzero => rw [hzero]
    · have hsmaller : (index - 1) / 26 ≤ turns := by omega
      rw [ih hsmaller, foldl_cons, readLetter, toNat_letter (Nat.mod_lt _ (by omega))]
      congr 1
      omega

theorem letterForIndex_injective : Function.Injective letterForIndex := by
  intro i j h
  have hread : ∀ index, (letterForIndex index).toList.foldl readLetter 0 = index + 1 := by
    intro index
    rw [letterForIndex, String.toList_ofList, read_letterLoop (Nat.le_refl _)]
    rfl
  have hi := hread i
  rw [h, hread j] at hi
  omega

example : letterForIndex 0 = "A" ∧ letterForIndex 25 = "Z" ∧ letterForIndex 26 = "AA" ∧
    letterForIndex 27 = "AB" := by decide +kernel

structure Category where
  id : Nat
  makerspaceId : Nat
  /-- How many item letters the category has issued. -/
  codeSequence : Nat := 0
  deriving DecidableEq

structure InventoryProduct where
  id : Nat
  makerspaceId : Nat
  categoryId : Option Nat := none
  codeLetter : String := ""

instance : Keyed Category Nat := ⟨Category.id⟩

instance : Keyed InventoryProduct Nat := ⟨InventoryProduct.id⟩

@[simp] theorem key_category (category : Category) : key category = category.id := rfl

structure State where
  categories : Table Category := ∅
  products : Table InventoryProduct := ∅

inductive Refusal
  | doesNotExist (model : String)
  | integrity (constraint : String)
  | dataError (column : String)

/-- A product in memory: was it loaded, and with which category. -/
structure Instance where
  row : InventoryProduct
  adding : Bool
  loadedCategoryId : Option (Option Nat) := none

def usedLetters (s : State) (categoryId : Nat) : List String :=
  (s.products.rows.filter fun product =>
    product.categoryId = some categoryId ∧ product.codeLetter ≠ "").map InventoryProduct.codeLetter

/-- `issue_letter`; every turn but the last meets a used letter. -/
def issueLetter (s : State) (categoryId : Nat) : Except Refusal (State × String) := do
  let category ← orRefuse (s.categories.get? categoryId) (.doesNotExist "Category")
  let used := usedLetters s categoryId
  let index ← orRefuse (firstUnused letterForIndex used (used.length + 1) category.codeSequence)
    (.doesNotExist "letter")
  return ({ s with categories := s.categories.put { category with codeSequence := index + 1 } },
    letterForIndex index)

/-- `_loaded_category_id`, or the stored row's. -/
def loadedCategoryId (s : State) (product : Instance) : Option Nat :=
  match product.loadedCategoryId with
  | some loaded => loaded
  | none => (s.products.get? product.row.id).bind InventoryProduct.categoryId

def writesCategory (updateFields : Option (List String)) : Bool :=
  updateFields.all fun fields => "category" ∈ fields ∨ "category_id" ∈ fields

def syncCodeLetter (s : State) (product : Instance) (updateFields : Option (List String)) :
    Except Refusal (State × Option String) :=
  if writesCategory updateFields = false then return (s, none)
  else match product.row.categoryId with
    | none => return (s, if product.row.codeLetter ≠ "" then some "" else none)
    | some categoryId =>
      if product.row.codeLetter ≠ "" ∧
          (product.adding ∨ some categoryId = loadedCategoryId s product) then
        return (s, none)
      else do
        let (s, letter) ← issueLetter s categoryId
        return (s, some letter)

/-- The database's constraints on a product row. -/
def checkRow (s : State) (row : InventoryProduct) : Except Refusal Unit := do
  require (∀ categoryId, row.categoryId = some categoryId →
      (s.categories.get? categoryId).isSome) (.integrity "inventory_product_category_fk")
  require (row.codeLetter.length ≤ 4) (.dataError "code_letter")
  require (∀ other ∈ s.products.rows, other.id ≠ row.id → row.categoryId ≠ none →
      row.codeLetter ≠ "" → ¬ (other.makerspaceId = row.makerspaceId ∧
        other.categoryId = row.categoryId ∧ other.codeLetter = row.codeLetter))
    (.integrity "uniq_product_code_letter_per_category")

def writtenRow (stored row : InventoryProduct) (updateFields : Option (List String))
    (letter : Option String) : InventoryProduct :=
  { stored with
    categoryId := if writesCategory updateFields then row.categoryId else stored.categoryId
    codeLetter := letter.getD
      (if updateFields = none ∨ updateFields.any fun fields => "code_letter" ∈ fields then
        row.codeLetter
      else stored.codeLetter) }

def save (s : State) (product : Instance) (updateFields : Option (List String)) :
    Except Refusal State := do
  let (s, letter) ← syncCodeLetter s product updateFields
  if product.adding then do
    let row := { product.row with codeLetter := letter.getD product.row.codeLetter }
    checkRow s row
    let products ← s.products.insertNew row (.integrity "inventory_product_pkey")
    return { s with products := products }
  else do
    let stored ← orRefuse (s.products.get? product.row.id) (.doesNotExist "InventoryProduct")
    let row := writtenRow stored product.row updateFields letter
    checkRow s row
    return { s with products := s.products.put row }

/-- `save` loads, assigns and saves; `add` brings its own letter; `issue` is a refused save after
its letter. -/
inductive Operation
  | addCategory (id makerspaceId : Nat)
  | add (row : InventoryProduct)
  | save (id : Nat) (categoryId : Option Nat) (updateFields : Option (List String))
  | delete (id : Nat)
  | issue (categoryId : Nat)

def step (s : State) : Operation → Except Refusal State
  | .addCategory id makerspaceId => do
    let categories ← s.categories.insertNew { id := id, makerspaceId := makerspaceId }
      (.integrity "inventory_category_pkey")
    return { s with categories := categories }
  | .add row => ItemCodes.save s { row := row, adding := true } none
  | .save id categoryId updateFields => do
    let stored ← orRefuse (s.products.get? id) (.doesNotExist "InventoryProduct")
    ItemCodes.save s
      { row := { stored with categoryId := categoryId }
        adding := false
        loadedCategoryId := some stored.categoryId }
      updateFields
  | .delete id => return { s with products := s.products.erase id }
  | .issue categoryId => do
    let (s, _) ← issueLetter s categoryId
    return s

def InventoryProduct.label (product : InventoryProduct) : Option (Nat × String) :=
  match product.categoryId with
  | none => none
  | some categoryId =>
    if product.codeLetter = "" then none else some (categoryId, product.codeLetter)

def held (s : State) (productId : Nat) : Option (Nat × String) :=
  (s.products.get? productId).bind InventoryProduct.label

def newlyHeld (s t : State) (productId : Nat) : Option (Nat × String) :=
  if held t productId = held s productId then none else held t productId

/-- The letter that an operation from `s` to `t` has given. -/
def given (s t : State) : Operation → Option (Nat × String)
  | .addCategory _ _ => none
  | .add row => newlyHeld s t row.id
  | .save id _ _ => newlyHeld s t id
  | .delete _ => none
  | .issue categoryId =>
    match issueLetter s categoryId with
    | .ok (_, letter) => some (categoryId, letter)
    | .error _ => none

structure History where
  state : State := {}
  letters : List (Nat × String) := []

def record (h : History) (op : Operation) : Except Refusal History := do
  let t ← step h.state op
  return { state := t, letters := h.letters ++ (given h.state t op).toList }

section

variable {s t : State} {categoryId : Nat} {letter : String}

theorem label_eq_some {product : InventoryProduct} :
    product.label = some (categoryId, letter) ↔
      product.categoryId = some categoryId ∧ product.codeLetter = letter ∧ letter ≠ "" := by
  unfold InventoryProduct.label
  cases product.categoryId with
  | none => simp
  | some =>
    by_cases hblank : product.codeLetter = ""
    · simp only [hblank, if_true, reduceCtorEq, false_iff, not_and]
      rintro - rfl
      exact fun hne => hne rfl
    · simp only [if_neg hblank, some.injEq, mk.injEq]
      constructor
      · rintro ⟨rfl, rfl⟩
        exact ⟨rfl, rfl, hblank⟩
      · rintro ⟨rfl, rfl, -⟩
        exact ⟨rfl, rfl⟩

theorem mem_usedLetters :
    letter ∈ usedLetters s categoryId ↔ ∃ id, held s id = some (categoryId, letter) := by
  simp only [usedLetters, List.mem_map, mem_filter, decide_eq_true_eq]
  constructor
  · rintro ⟨product, ⟨hmem, hcategory, hblank⟩, rfl⟩
    have hget : s.products.get? product.id = some product := get?_key hmem
    refine ⟨product.id, ?_⟩
    rw [held, hget, bind_some]
    exact label_eq_some.mpr ⟨hcategory, rfl, hblank⟩
  · rintro ⟨_, hheld⟩
    obtain ⟨product, hget, hlabel⟩ := bind_eq_some_iff.mp hheld
    obtain ⟨hcategory, rfl, hblank⟩ := label_eq_some.mp hlabel
    exact ⟨product, ⟨mem_of_get? hget, hcategory, hblank⟩, rfl⟩

/-- The counter of a category has passed a letter, if it is one. -/
def Passed (s : State) (entry : Nat × String) : Prop :=
  ∃ category, s.categories.get? entry.1 = some category ∧
    ∀ index, letterForIndex index = entry.2 → index < category.codeSequence

/-- A free letter is taken and counted past, no more. -/
theorem issueLetter_spec (h : issueLetter s categoryId = .ok (t, letter)) :
    t.products = s.products ∧ letter ∉ usedLetters s categoryId ∧
      ¬ Passed s (categoryId, letter) ∧ Passed t (categoryId, letter) ∧
      ∀ entry, Passed s entry → Passed t entry := by
  simp [issueLetter] at h
  obtain ⟨category, hget, index, hsearch, rfl, rfl⟩ := h
  obtain ⟨_, hunused⟩ := firstUnused_eq_some hsearch
  have hid : category.id = categoryId := key_of_get? hget
  have hold : s.categories.get? (key { category with codeSequence := index + 1 }) =
      some category := by
    rw [key_category, hid]
    exact hget
  have hput : (s.categories.put { category with codeSequence := index + 1 }).get? categoryId =
      some { category with codeSequence := index + 1 } := by
    rw [← hid]
    exact get?_put_self hold
  refine ⟨rfl, hunused, ?_, ⟨_, hput, ?_⟩, ?_⟩
  · rintro ⟨other, hother, hpassed⟩
    obtain rfl : category = other := some.inj (hget.symm.trans hother)
    have hlt := hpassed index rfl
    omega
  · intro other hother
    have heq := letterForIndex_injective hother
    change other < index + 1
    omega
  · rintro ⟨otherId, _⟩ ⟨found, hfound, hpassed⟩
    by_cases hsame : otherId = categoryId
    · subst hsame
      obtain rfl : category = found := some.inj (hget.symm.trans hfound)
      refine ⟨_, hput, fun k hk => ?_⟩
      have hlt := hpassed k hk
      change k < index + 1
      omega
    · refine ⟨found, ?_, hpassed⟩
      rw [get?_put_of_ne _ (by rw [key_category, hid]; exact hsame)]
      exact hfound

theorem issueLetter_succeeds
    {category : Category} (h : s.categories.get? categoryId = some category) :
    ∃ t letter, issueLetter s categoryId = .ok (t, letter) ∧
      letter ∉ usedLetters s categoryId := by
  obtain ⟨index, hsearch⟩ := firstUnused_succeeds letterForIndex_injective
    (Nat.lt_succ_self (usedLetters s categoryId).length) category.codeSequence
  have hissue : issueLetter s categoryId = .ok
      ({ s with categories := s.categories.put { category with codeSequence := index + 1 } },
        letterForIndex index) := by
    simp only [issueLetter, bind_ok, orRefuse_ok, pure_ok]
    exact ⟨category, h, index, hsearch, rfl⟩
  exact ⟨_, _, hissue, (issueLetter_spec hissue).2.1⟩

variable {h : History} {product : Instance} {updateFields : Option (List String)}
variable {letter : Option String} {stored : InventoryProduct} {categoryId : Option Nat}

/-- No letter is given twice, each is counted past or on a product, and those on products were
given. -/
structure Lettered (h : History) : Prop where
  nodup : h.letters.Nodup
  kept : ∀ entry ∈ h.letters, Passed h.state entry ∨ ∃ id, held h.state id = some entry
  recorded : ∀ id entry, held h.state id = some entry → entry ∈ h.letters

theorem lettered_empty : Lettered {} := by
  constructor
  · exact nodup_nil
  · intro entry hmem
    cases hmem
  · intro id entry hheld
    cases hheld

/-- No way back to a letter: brought ones are new, left ones are counted past. -/
def Continues (h : History) : Operation → Prop
  | .add row => ∀ entry, row.label = some entry → entry ∉ h.letters
  | .save id categoryId updateFields =>
    writesCategory updateFields = true →
      ∀ stored, h.state.products.get? id = some stored → categoryId ≠ stored.categoryId →
        ∀ entry, stored.label = some entry → Passed h.state entry
  | .delete id => ∀ entry, held h.state id = some entry → Passed h.state entry
  | .addCategory _ _ | .issue _ => True

theorem held_congr (hproducts : t.products = s.products) (id : Nat) : held t id = held s id := by
  rw [held, held, hproducts]

theorem Lettered.issued_fresh (hinv : Lettered h) {categoryId : Nat} {letter : String}
    (hissue : issueLetter h.state categoryId = .ok (t, letter)) :
    (categoryId, letter) ∉ h.letters := by
  obtain ⟨-, hunused, hahead, -, -⟩ := issueLetter_spec hissue
  intro hmem
  rcases hinv.kept _ hmem with hpassed | hheld
  · exact hahead hpassed
  · exact hunused (mem_usedLetters.mpr hheld)

/-- A change of one label keeps the invariant, with the old one counted past and the new one fresh.
-/
theorem Lettered.change (hinv : Lettered h) (productId : Nat)
    (hpassed : ∀ entry, Passed h.state entry → Passed t entry)
    (hothers : ∀ id, id ≠ productId → held t id = held h.state id)
    (hleft : ∀ entry, held h.state productId = some entry →
      held t productId ≠ some entry → Passed h.state entry)
    (hfresh : ∀ entry, newlyHeld h.state t productId = some entry → entry ∉ h.letters) :
    Lettered { state := t, letters := h.letters ++ (newlyHeld h.state t productId).toList } := by
  constructor
  · cases hnew : newlyHeld h.state t productId with
    | none => simpa using hinv.nodup
    | some entry =>
      have hnotMem := hfresh entry hnew
      simp only [toList_some, nodup_append, hinv.nodup, nodup_singleton, mem_singleton, true_and]
      rintro _ ha _ rfl rfl
      exact hnotMem ha
  · intro entry hmem
    rcases mem_append.mp hmem with hold | hnew
    · rcases hinv.kept entry hold with hp | ⟨id, hheld⟩
      · exact .inl (hpassed entry hp)
      · by_cases hid : id = productId
        · subst hid
          by_cases hstill : held t id = some entry
          · exact .inr ⟨id, hstill⟩
          · exact .inl (hpassed entry (hleft entry hheld hstill))
        · exact .inr ⟨id, (hothers id hid).trans hheld⟩
    · right
      rw [mem_toList, newlyHeld] at hnew
      split at hnew
      · cases hnew
      · exact ⟨productId, hnew⟩
  · intro id entry hheld
    by_cases hid : id = productId
    · subst hid
      by_cases hsame : held t id = held h.state id
      · exact mem_append_left _ (hinv.recorded id entry (hsame ▸ hheld))
      · refine mem_append_right _ ?_
        rw [mem_toList, newlyHeld, if_neg hsame]
        exact hheld
    · rw [hothers id hid] at hheld
      exact mem_append_left _ (hinv.recorded id entry hheld)

/-- The letter stays, is brought, cleared or issued. -/
theorem syncCodeLetter_cases (h : syncCodeLetter s product updateFields = .ok (t, letter)) :
    (t = s ∧ letter = none ∧
      (writesCategory updateFields = false ∨
        product.row.categoryId = none ∧ product.row.codeLetter = "" ∨
        product.row.codeLetter ≠ "" ∧
          (product.adding = true ∨ product.row.categoryId = loadedCategoryId s product))) ∨
    (t = s ∧ letter = some "" ∧ writesCategory updateFields = true ∧
      product.row.categoryId = none) ∨
    ∃ categoryId issued, letter = some issued ∧ writesCategory updateFields = true ∧
      product.row.categoryId = some categoryId ∧
      issueLetter s categoryId = .ok (t, issued) ∧
      (product.row.codeLetter = "" ∨
        product.adding = false ∧ product.row.categoryId ≠ loadedCategoryId s product) := by
  unfold syncCodeLetter at h
  split at h
  · next hwrites =>
      simp at h
      exact .inl ⟨h.1.symm, h.2.symm, .inl hwrites⟩
  · next hwrites =>
      rw [Bool.not_eq_false] at hwrites
      split at h
      · next hnone =>
          obtain ⟨rfl, rfl⟩ := h
          by_cases hblank : product.row.codeLetter = ""
          · exact .inl ⟨rfl, by simp [hblank], .inr (.inl ⟨hnone, hblank⟩)⟩
          · exact .inr (.inl ⟨rfl, by simp [hblank], hwrites, hnone⟩)
      · next categoryId hsome =>
          split at h
          · next hkeeps =>
              simp at h
              exact .inl ⟨h.1.symm, h.2.symm, .inr (.inr ⟨hkeeps.1, hsome ▸ hkeeps.2⟩)⟩
          · next hissues =>
              simp only [bind_ok, pure_ok, Prod.exists, mk.injEq] at h
              obtain ⟨_, issued, hissue, rfl, rfl⟩ := h
              refine .inr (.inr ⟨categoryId, issued, rfl, hwrites, hsome, hissue, ?_⟩)
              by_cases hblank : product.row.codeLetter = ""
              · exact .inl hblank
              · right
                rw [not_and, not_or] at hissues
                obtain ⟨hadding, hother⟩ := hissues hblank
                exact ⟨Bool.not_eq_true _ ▸ hadding, hsome ▸ hother⟩

theorem syncCodeLetter_frame (h : syncCodeLetter s product updateFields = .ok (t, letter)) :
    t.products = s.products ∧ ∀ entry, Passed s entry → Passed t entry := by
  rcases syncCodeLetter_cases h with ⟨rfl, -⟩ | ⟨rfl, -⟩ | ⟨_, _, -, -, -, hissue, -⟩
  · exact ⟨rfl, fun _ hp => hp⟩
  · exact ⟨rfl, fun _ hp => hp⟩
  · obtain ⟨hproducts, -, -, -, hmono⟩ := issueLetter_spec hissue
    exact ⟨hproducts, hmono⟩

theorem label_none {product : InventoryProduct} (h : product.categoryId = none) :
    product.label = none := by
  rw [InventoryProduct.label, h]

theorem label_blank {product : InventoryProduct} (h : product.codeLetter = "") :
    product.label = none := by
  rw [InventoryProduct.label, h]
  cases product.categoryId with
  | none | some => rfl

theorem Lettered.add (hinv : Lettered h) {row : InventoryProduct}
    (hcontinues : ∀ entry, row.label = some entry → entry ∉ h.letters)
    (hsave : ItemCodes.save h.state { row := row, adding := true } none = .ok t) :
    Lettered { state := t, letters := h.letters ++ (newlyHeld h.state t row.id).toList } := by
  simp only [ItemCodes.save, if_true, bind_ok, pure_ok, Prod.exists] at hsave
  obtain ⟨s', _, hsync, _, _, _, hinsert, rfl⟩ := hsave
  obtain ⟨hproducts, hmono⟩ := syncCodeLetter_frame hsync
  obtain ⟨habsent, rfl⟩ := insertNew_ok.mp hinsert
  have hnone : held h.state row.id = none := by
    rw [held, ← hproducts]
    exact congrArg (Option.bind · InventoryProduct.label) habsent
  refine hinv.change row.id (fun entry hp => hmono entry hp) ?_ ?_ ?_
  · intro id hid
    rw [held, held, ← hproducts]
    rw [get?_insert, if_neg (show id ≠ key _ from hid)]
  · intro entry hheld
    rw [hnone] at hheld
    cases hheld
  · intro entry hnew
    rw [newlyHeld, hnone] at hnew
    split at hnew
    · cases hnew
    · change (Option.bind ((s'.products.insert _ habsent).get? row.id) _) = _ at hnew
      rw [get?_insert, if_pos (show row.id = key _ from rfl), bind_some] at hnew
      rcases syncCodeLetter_cases hsync with ⟨-, rfl, -⟩ | ⟨-, rfl, -, hcategory⟩ |
        ⟨categoryId, issued, rfl, -, hcategory, hissue, -⟩
      · exact hcontinues entry hnew
      · have hnoCategory : row.categoryId = none := hcategory
        simp [InventoryProduct.label, hnoCategory] at hnew
      · obtain ⟨entryCategory, entryLetter⟩ := entry
        obtain ⟨hsome, hletter, -⟩ := label_eq_some.mp hnew
        obtain rfl : categoryId = entryCategory := some.inj (hcategory.symm.trans hsome)
        obtain rfl : issued = entryLetter := hletter
        exact hinv.issued_fresh hissue

theorem label_writtenRow_none
    (h : writesCategory updateFields = false ∨ categoryId = none ∧ stored.codeLetter = "" ∨
      categoryId = stored.categoryId) :
    (writtenRow stored { stored with categoryId := categoryId } updateFields none).label =
      stored.label := by
  have hletter : (writtenRow stored { stored with categoryId := categoryId } updateFields
      none).codeLetter = stored.codeLetter := by
    simp [writtenRow]
  have hcategory : (writtenRow stored { stored with categoryId := categoryId } updateFields
      none).categoryId = if writesCategory updateFields then categoryId else stored.categoryId :=
    rfl
  rcases h with hskips | ⟨-, hblank⟩ | hsame
  · rw [hskips, if_neg (by simp)] at hcategory
    rw [InventoryProduct.label, InventoryProduct.label, hletter, hcategory]
  · rw [label_blank (hletter.trans hblank), label_blank hblank]
  · have hstays := hcategory
    rw [hsame, ite_self, ← hsame] at hstays
    rw [InventoryProduct.label, InventoryProduct.label, hletter, hstays, hsame]

theorem Lettered.save (hinv : Lettered h) (hstored : h.state.products.get? stored.id = some stored)
    (hcontinues : writesCategory updateFields = true → categoryId ≠ stored.categoryId →
      ∀ entry, stored.label = some entry → Passed h.state entry) (hsave : ItemCodes.save h.state
      { row := { stored with categoryId := categoryId }
        adding := false
        loadedCategoryId := some stored.categoryId } updateFields = .ok t) :
    Lettered { state := t, letters := h.letters ++ (newlyHeld h.state t stored.id).toList } := by
  simp [ItemCodes.save] at hsave
  obtain ⟨s', letter, hsync, found, hfound, _, _, rfl⟩ := hsave
  obtain ⟨hproducts, hmono⟩ := syncCodeLetter_frame hsync
  obtain rfl : found = stored := by
    rw [hproducts] at hfound
    exact some.inj (hfound.symm.trans hstored)
  generalize hrow :
    writtenRow found { found with categoryId := categoryId } updateFields letter = row
  have hid : key row = found.id := by
    rw [← hrow]
    rfl
  have hbefore : held h.state found.id = found.label := by
    rw [held, hstored, bind_some]
  have hafter : held { s' with products := s'.products.put row } found.id = row.label := by
    rw [held, ← hid, get?_put_self (t := s'.products) (r := row) (hid ▸ hfound), bind_some]
  have hcases : row.label = found.label ∨
      (∀ entry, found.label = some entry → Passed h.state entry) ∧
        ∀ entry, row.label = some entry → entry ∉ h.letters := by
    rcases syncCodeLetter_cases hsync with ⟨-, rfl, hcase⟩ | ⟨-, rfl, hwrites, hcategory⟩ |
      ⟨other, issued, rfl, hwrites, hcategory, hissue, hmoved⟩
    · left
      rw [← hrow]
      refine label_writtenRow_none ?_
      rcases hcase with hskips | hblank | ⟨-, hadding | hsame⟩
      · exact .inl hskips
      · exact .inr (.inl hblank)
      · cases hadding
      · exact .inr (.inr hsame)
    · obtain rfl : categoryId = none := hcategory
      right
      constructor
      · intro entry hlabel
        refine hcontinues hwrites ?_ entry hlabel
        intro hnone
        rw [label_none hnone.symm] at hlabel
        cases hlabel
      · intro entry hlabel
        rw [← hrow, label_none (by simp [writtenRow, hwrites])] at hlabel
        cases hlabel
    · right
      constructor
      · intro entry hlabel
        rcases hmoved with hblank | ⟨-, hother⟩
        · have hfoundBlank : found.codeLetter = "" := hblank
          rw [label_blank hfoundBlank] at hlabel
          cases hlabel
        · exact hcontinues hwrites hother entry hlabel
      · rintro ⟨entryCategory, entryLetter⟩ hlabel
        obtain ⟨hsome, hletter, -⟩ := label_eq_some.mp hlabel
        obtain rfl : other = entryCategory := by
          rw [← hrow] at hsome
          simp [writtenRow, hwrites] at hsome
          exact some.inj (hcategory.symm.trans hsome)
        obtain rfl : issued = entryLetter := by
          rw [← hrow] at hletter
          exact hletter
        exact hinv.issued_fresh hissue
  refine hinv.change found.id (fun entry hp => hmono entry hp) ?_ ?_ ?_
  · intro id hne
    rw [held, held, ← hproducts]
    exact congrArg (Option.bind · InventoryProduct.label)
      (get?_put_of_ne _ (by rw [hid]; exact hne))
  · intro entry hheld hgone
    rw [hbefore] at hheld
    rcases hcases with hsame | ⟨hleft, -⟩
    · rw [hafter, hsame] at hgone
      exact absurd hheld hgone
    · exact hleft entry hheld
  · intro entry hnew
    rw [newlyHeld, hbefore, hafter] at hnew
    split at hnew
    · cases hnew
    · next hchanged =>
        rcases hcases with hsame | ⟨-, hfresh⟩
        · exact absurd hsame hchanged
        · exact hfresh entry hnew

theorem record_lettered {h' : History} {op : Operation}
    (hinv : Lettered h) (hcontinues : Continues h op) (hrecord : record h op = .ok h') :
    Lettered h' := by
  simp [record] at hrecord
  obtain ⟨t, hstep, rfl⟩ := hrecord
  cases op with
  | addCategory =>
    simp [step] at hstep
    obtain ⟨_, hinsert, rfl⟩ := hstep
    obtain ⟨habsent, rfl⟩ := insertNew_ok.mp hinsert
    rw [given, toList_none, append_nil]
    constructor
    · exact hinv.nodup
    · intro entry hmem
      rcases hinv.kept entry hmem with ⟨category, hget, hpassed⟩ | hheld
      · refine .inl ⟨category, ?_, hpassed⟩
        rw [get?_insert, if_neg, hget]
        intro hsame
        rw [hsame, habsent] at hget
        cases hget
      · exact .inr hheld
    · exact hinv.recorded
  | add => exact hinv.add hcontinues hstep
  | save id =>
    simp [step] at hstep
    obtain ⟨stored, hget, hsave⟩ := hstep
    obtain rfl : stored.id = id := key_of_get? hget
    exact hinv.save hget (fun hwrites => hcontinues hwrites stored hget) hsave
  | delete id =>
    simp [step] at hstep
    subst hstep
    have hgone : held { h.state with products := h.state.products.erase id } id = none := by
      rw [held, get?_erase, if_pos rfl, bind_none]
    have hnew : newlyHeld h.state { h.state with products := h.state.products.erase id } id =
        none := by
      rw [newlyHeld, hgone, ite_self]
    have hchange := hinv.change (t := { h.state with products := h.state.products.erase id })
      id (fun entry hp => hp)
      (by
        intro other hne
        rw [held, get?_erase, if_neg hne, held])
      (fun entry hheld _ => hcontinues entry hheld)
      (by
        intro entry hentry
        rw [hnew] at hentry
        cases hentry)
    rw [hnew] at hchange
    exact hchange
  | issue categoryId =>
    simp only [step, bind_ok, pure_ok, Prod.exists] at hstep
    obtain ⟨s', letter, hissue, rfl⟩ := hstep
    have hgiven : given h.state s' (.issue categoryId) = some (categoryId, letter) := by
      rw [given, hissue]
    obtain ⟨hproducts, -, -, hpassed, hmono⟩ := issueLetter_spec hissue
    rw [hgiven, toList_some]
    constructor
    · simp only [nodup_append, hinv.nodup, nodup_singleton, mem_singleton, true_and]
      rintro _ ha _ rfl rfl
      exact hinv.issued_fresh hissue ha
    · intro entry hmem
      rcases mem_append.mp hmem with hold | hnew
      · rcases hinv.kept entry hold with hp | ⟨id, hheld⟩
        · exact .inl (hmono entry hp)
        · exact .inr ⟨id, (held_congr hproducts id).trans hheld⟩
      · obtain rfl := mem_singleton.mp hnew
        exact .inl hpassed
    · intro id entry hheld
      rw [held_congr hproducts] at hheld
      exact mem_append_left _ (hinv.recorded id entry hheld)

end

/-- Every index has its own letter, a free one is found, and none is given twice in runs without a
way back. -/
theorem letters_given_once
    (ops : List Operation) (hcontinues : Throughout record Continues {} ops) :
    Function.Injective letterForIndex ∧
      (∀ (s : State) categoryId, (s.categories.get? categoryId).isSome →
        ∃ t letter, issueLetter s categoryId = .ok (t, letter) ∧
          letter ∉ usedLetters s categoryId) ∧
      (run record {} ops).letters.Nodup := by
  refine ⟨letterForIndex_injective, ?_, ?_⟩
  · intro s categoryId hsome
    obtain ⟨_, hget⟩ := isSome_iff_exists.mp hsome
    exact issueLetter_succeeds hget
  · exact (run_preserves_throughout record_lettered lettered_empty hcontinues).nodup

def stocked : List Operation :=
  [.addCategory 1 1, .add { id := 1, makerspaceId := 1, categoryId := some 1 },
    .add { id := 2, makerspaceId := 1, categoryId := some 1, codeLetter := "D" }]

/-- A letter counted past is not given again. -/
theorem stocked_letters_given_once :
    (run record {} (stocked ++ [.delete 1,
      .add { id := 3, makerspaceId := 1, categoryId := some 1 }])).letters.Nodup := by
  have hcontinues : Throughout record Continues {} (stocked ++ [.delete 1,
      .add { id := 3, makerspaceId := 1, categoryId := some 1 }]) := by
    refine ⟨trivial, ?_, ?_, ?_, ?_, trivial⟩
    · intro entry hlabel
      simp [InventoryProduct.label] at hlabel
    · intro entry hlabel
      obtain rfl : (1, "D") = entry := some.inj hlabel
      decide +kernel
    · intro entry hheld
      obtain rfl : (1, "A") = entry := by
        refine some.inj (Eq.trans ?_ hheld)
        decide +kernel
      refine ⟨{ id := 1, makerspaceId := 1, codeSequence := 1 }, by decide +kernel, ?_⟩
      intro index hindex
      have hzero : index = 0 := letterForIndex_injective (hindex.trans (by decide +kernel))
      change index < 1
      omega
    · intro entry hlabel
      simp [InventoryProduct.label] at hlabel
  exact (letters_given_once _ hcontinues).2.2

/-- Imported with the letter A and deleted, and A is issued next. -/
theorem imported_letter_given_twice :
    ¬ (run record {} [.addCategory 1 1,
      .add { id := 1, makerspaceId := 1, categoryId := some 1, codeLetter := "A" }, .delete 1,
      .add { id := 2, makerspaceId := 1, categoryId := some 1 }]).letters.Nodup := by
  decide +kernel

end ItemCodes
end SpaceWorks
