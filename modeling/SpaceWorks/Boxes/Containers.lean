import SpaceWorks.Library.Forest
import SpaceWorks.Library.RowLocks
import SpaceWorks.Lending.Loans

/-!
# The tree of containers

The parent of a box is written by the creation of a container (`operations/views_containers.py`,
`boxes/services.py`), its patch, its move and the admin form (`views_containers.py`,
`boxes/admin_forms.py`), under the lock of the makerspace.  The traversal is that of
`boxes/contents.py`.
-/

namespace SpaceWorks
namespace Boxes

open Checked TransactionalSystem Lending Forest RowLocks Table List Option

def parentOf (boxes : Table Box) (boxId : Nat) : Option Nat :=
  (boxes.get? boxId).bind Box.parentId

def clean (boxes : Table Box) (box : Box) : Except Refusal Unit :=
  match box.parentId with
  | none => return ()
  | some parentId => do
    let parent ← orRefuse (boxes.get? parentId) (.doesNotExist "Box")
    require (parent.makerspaceId = box.makerspaceId)
      (.validation "parent" "Parent box must be in the same makerspace.")
    require (climb (parentOf boxes) box.id (boxes.rows.length + 1) parent.id [])
      (.validation "parent" "A box cannot be its own ancestor.")

/-- The checks of the text columns of a box. -/
def cleanFields (box : Box) : Except Refusal Unit := do
  require (box.label ≠ "") (.validation "label" "This field cannot be blank.")
  require (box.label.length ≤ 200)
    (.validation "label" "Ensure this value has at most 200 characters.")
  require (box.location.length ≤ 200)
    (.validation "location" "Ensure this value has at most 200 characters.")

/-- `uniq_box_label_per_makerspace`. -/
def labelTaken (boxes : Table Box) (box : Box) : Prop :=
  ∃ other ∈ boxes.rows, other.id ≠ box.id ∧ other.makerspaceId = box.makerspaceId ∧
    other.label = box.label

instance (boxes : Table Box) (box : Box) : Decidable (labelTaken boxes box) :=
  inferInstanceAs (Decidable (∃ _ ∈ _, _))

def fullClean (boxes : Table Box) (box : Box) : Except Refusal Unit := do
  cleanFields box
  clean boxes box
  require (¬ labelTaken boxes box)
    (.validation "__all__" "Box with this Makerspace and Label already exists.")

/-- The refusal of a taken label where the views look for one. -/
def duplicateLabel : Refusal :=
  .validation "label" "A container with this label already exists in this makerspace."

def hasParent (boxes : Table Box) (makerspaceId : Nat) (parentId : Option Nat) : Prop :=
  ∀ id ∈ parentId, ∃ parent ∈ boxes.rows, parent.id = id ∧ parent.makerspaceId = makerspaceId

instance (boxes : Table Box) (makerspaceId : Nat) (parentId : Option Nat) :
    Decidable (hasParent boxes makerspaceId parentId) :=
  inferInstanceAs (Decidable (∀ _ ∈ _, _))

/-- `ContainerListCreateView.perform_create` of a checked box. -/
def createContainer (boxes : Table Box) (new : Box) : Except Refusal Box := do
  cleanFields new
  require (hasParent boxes new.makerspaceId new.parentId)
    (.validation "parent" "Select an existing parent in this makerspace.")
  require (¬ labelTaken boxes new) duplicateLabel
  return new

def createBoxWithQr (boxes : Table Box) (new : Box) : Except Refusal Box := do
  require (hasParent boxes new.makerspaceId new.parentId) (.doesNotExist "Box")
  require (¬ labelTaken boxes new) duplicateLabel
  fullClean boxes new
  return new

structure BoxChange where
  parentId : Option (Option Nat) := none
  label : Option String := none
  location : Option String := none
  description : Option String := none
  isActive : Option Bool := none

def BoxChange.set (change : BoxChange) (box : Box) : Box :=
  { box with
    parentId := change.parentId.getD box.parentId
    label := change.label.getD box.label
    location := change.location.getD box.location
    description := change.description.getD box.description
    isActive := change.isActive.getD box.isActive }

/-- A change under the lock; `missing` refuses a foreign parent. -/
def changeBox (missing : Refusal) (sought : BoxChange → Box → Option Nat)
    (boxes : Table Box) (boxId : Nat) (change : BoxChange) : Except Refusal Box := do
  let box ← orRefuse (boxes.get? boxId) (.doesNotExist "Box")
  require (hasParent boxes box.makerspaceId (sought change box)) missing
  fullClean boxes (change.set box)
  return change.set box

/-- `ContainerDetailView.perform_update`. -/
def patchContainer : Table Box → Nat → BoxChange → Except Refusal Box :=
  changeBox (.validation "parent" "Select an existing parent in this makerspace.")
    fun change _ => change.parentId.getD none

/-- `ContainerMoveView.post`. -/
def moveContainer : Table Box → Nat → BoxChange → Except Refusal Box :=
  changeBox (.doesNotExist "Box") fun change _ => change.parentId.getD none

/-- `BoxAdminForm.clean` and save; no parent means the present one. -/
def changeInAdmin : Table Box → Nat → BoxChange → Except Refusal Box :=
  changeBox (.validation "parent" "Select an existing parent in this makerspace.")
    fun change box => (change.set box).parentId

inductive ContainerOp
  | create (new : Box)
  | createWithQr (new : Box)
  | patch (boxId : Nat) (change : BoxChange)
  | move (boxId : Nat) (change : BoxChange)
  | changeInAdmin (boxId : Nat) (change : BoxChange)

/-- What an operation writes: a new row or a new version of one. -/
inductive BoxWrite
  | insert (box : Box)
  | update (box : Box)

def lockedMakerspace (s : State) : ContainerOp → List Nat
  | .create new => [new.makerspaceId]
  | .createWithQr new => [new.makerspaceId]
  | .patch boxId _ => ((s.boxes.get? boxId).map Box.makerspaceId).toList
  | .move boxId _ => ((s.boxes.get? boxId).map Box.makerspaceId).toList
  | .changeInAdmin boxId _ => ((s.boxes.get? boxId).map Box.makerspaceId).toList

def decide (s : State) : ContainerOp → Except Refusal BoxWrite
  | .create new => BoxWrite.insert <$> createContainer s.boxes new
  | .createWithQr new => BoxWrite.insert <$> createBoxWithQr s.boxes new
  | .patch boxId change => BoxWrite.update <$> patchContainer s.boxes boxId change
  | .move boxId change => BoxWrite.update <$> moveContainer s.boxes boxId change
  | .changeInAdmin boxId change =>
    BoxWrite.update <$> Boxes.changeInAdmin s.boxes boxId change

def write (s : State) : BoxWrite → Except Refusal State
  | .insert box => do
    let boxes ← s.boxes.insertNew box (.integrity "box_pkey")
    return { s with boxes := boxes }
  | .update box => return { s with boxes := s.boxes.put box }

def containers : LockSystem State ContainerOp Nat BoxWrite Refusal where
  needs := lockedMakerspace
  decide := decide
  write := write

variable {s t : State} {boxes : Table Box} {boxId : Nat} {missing : Refusal}
  {sought : BoxChange → Box → Option Nat} {change : BoxChange} {new : Box}
  {parentId : Option Nat} {u : Unit} {op : ContainerOp} {w : BoxWrite}

structure Rooted (s : State) : Prop where
  homed : ∀ box ∈ s.boxes, ∀ parentId ∈ box.parentId,
    ∃ parent, s.boxes.get? parentId = some parent ∧ parent.makerspaceId = box.makerspaceId
  acyclic : Acyclic (parentOf s.boxes)

theorem parentOf_eq_some {parentId : Nat} :
    parentOf boxes boxId = some parentId ↔
      ∃ box, boxes.get? boxId = some box ∧ box.parentId = some parentId := by
  simp [parentOf, bind_eq_some_iff]

theorem Rooted.write (new : Box) (h : Rooted s)
    (hother : ∀ id, id ≠ new.id → t.boxes.get? id = s.boxes.get? id)
    (hnew : t.boxes.get? new.id = some new) (hmakerspace : ∀ old, s.boxes.get? new.id = some old →
      old.makerspaceId = new.makerspaceId) (hparent : ∀ parentId ∈ new.parentId,
      (∃ parent, s.boxes.get? parentId = some parent ∧ parent.makerspaceId = new.makerspaceId) ∧
      ¬ Inside (parentOf s.boxes) parentId new.id) :
    Rooted t := by
  have hlinks : ∀ id, id ≠ new.id → parentOf t.boxes id = parentOf s.boxes id := by
    intro id hne
    rw [parentOf, parentOf, hother id hne]
  have hlink : parentOf t.boxes new.id = new.parentId := by
    rw [parentOf, hnew, bind_some]
  constructor
  · intro box hbox parentId hmem
    have hget : t.boxes.get? box.id = some box := get?_key hbox
    by_cases hid : box.id = new.id
    · obtain rfl : box = new := some.inj (by rw [← hget, hid, hnew])
      obtain ⟨⟨parent, hfound, hsame⟩, houtside⟩ := hparent parentId hmem
      refine ⟨parent, ?_, hsame⟩
      rw [hother parentId fun heq => houtside (heq ▸ .refl), hfound]
    · have hold : box ∈ s.boxes := mem_of_get? ((hother box.id hid).symm.trans hget)
      obtain ⟨parent, hfound, hsame⟩ := h.homed box hold parentId hmem
      by_cases hp : parentId = new.id
      · subst hp
        exact ⟨new, hnew, (hmakerspace parent hfound).symm.trans hsame⟩
      · exact ⟨parent, (hother parentId hp).trans hfound, hsame⟩
  · cases hparentId : new.parentId with
    | none =>
      refine h.acyclic.mono fun x y hxy => ?_
      by_cases hx : x = new.id
      · subst hx
        rw [hlink, hparentId] at hxy
        cases hxy
      · rwa [hlinks x hx] at hxy
    | some parentId =>
      exact h.acyclic.rehang hlinks (hlink.trans hparentId) (hparent parentId hparentId).2

theorem not_inside_of_absent
    (h : Rooted s) {other : Nat} (hget : s.boxes.get? boxId = none) (hne : other ≠ boxId) :
    ¬ Inside (parentOf s.boxes) other boxId := by
  intro hinside
  rcases Relation.ReflTransGen.cases_tail hinside with heq | ⟨_, -, hchild⟩
  · exact hne heq.symm
  · obtain ⟨box, hbox, hparent⟩ := parentOf_eq_some.mp hchild
    obtain ⟨_, hfound, -⟩ := h.homed box (mem_of_get? hbox) boxId hparent
    rw [hget] at hfound
    cases hfound

theorem hasParent_iff {makerspaceId : Nat} :
    hasParent boxes makerspaceId parentId ↔ ∀ id ∈ parentId, ∃ parent, boxes.get? id = some parent ∧
        parent.makerspaceId = makerspaceId := by
  refine forall₂_congr fun id _ => exists_congr fun parent => ?_
  rw [get?_eq_some, and_assoc]
  exact Iff.rfl

theorem clean_spec {box : Box} (h : clean boxes box = .ok u) :
    ∀ parentId ∈ box.parentId,
      (∃ parent, boxes.get? parentId = some parent ∧ parent.makerspaceId = box.makerspaceId) ∧
        ¬ Inside (parentOf boxes) parentId box.id := by
  intro parentId hmem
  unfold clean at h
  rw [show box.parentId = some parentId from hmem] at h
  simp at h
  obtain ⟨parent, hget, hmakerspace, hclimb⟩ := h
  refine ⟨⟨parent, hget, hmakerspace⟩, ?_⟩
  rw [show parentId = parent.id from (key_of_get? hget).symm]
  exact climb_sound hclimb

theorem changeBox_spec :
    changeBox missing sought boxes boxId change = .ok new ↔
    ∃ old, boxes.get? boxId = some old ∧ new = change.set old ∧
      hasParent boxes old.makerspaceId (sought change old) ∧
      cleanFields new = .ok ⟨⟩ ∧ clean boxes new = .ok ⟨⟩ ∧ ¬ labelTaken boxes new := by
  simp only [changeBox, fullClean, bind_ok, orRefuse_ok, require_ok, pure_ok]
  constructor
  · rintro ⟨old, hget, -, hparent, -, ⟨_, hfields, _, hclean, hlabel⟩, rfl⟩
    exact ⟨old, hget, rfl, hparent, hfields, hclean, hlabel⟩
  · rintro ⟨old, hget, rfl, hparent, hfields, hclean, hlabel⟩
    exact ⟨old, hget, ⟨⟩, hparent, ⟨⟩, ⟨⟨⟩, hfields, ⟨⟩, hclean, hlabel⟩, rfl⟩

/-- The row written: a new one, or a checked version. -/
inductive Admitted (s : State) : BoxWrite → Prop
  | insert {new : Box}
      (hparent : hasParent s.boxes new.makerspaceId new.parentId) :
      Admitted s (.insert new)
  | update {new old : Box} (hold : s.boxes.get? new.id = some old)
      (hmakerspace : old.makerspaceId = new.makerspaceId)
      (hclean : clean s.boxes new = .ok ⟨⟩) :
      Admitted s (.update new)

theorem admitted_of_change (h : changeBox missing sought s.boxes boxId change = .ok new) :
    Admitted s (.update new) := by
  obtain ⟨old, hget, rfl, -, -, hclean, -⟩ := changeBox_spec.mp h
  have hold : s.boxes.get? (change.set old).id = some old := by
    rw [show (change.set old).id = boxId from key_of_get? hget]
    exact hget
  exact .update hold rfl hclean

theorem admitted_of_decide (h : decide s op = .ok w) :
    Admitted s w := by
  cases op with
  | create =>
    simp only [decide, createContainer, map_eq_ok, bind_ok, require_ok, pure_ok] at h
    obtain ⟨_, ⟨_, -, -, hparent, -, -, rfl⟩, rfl⟩ := h
    exact .insert hparent
  | createWithQr =>
    simp only [decide, createBoxWithQr, map_eq_ok, bind_ok, require_ok, pure_ok] at h
    obtain ⟨_, ⟨-, hparent, -, -, -, -, rfl⟩, rfl⟩ := h
    exact .insert hparent
  | patch | move | changeInAdmin =>
    simp [decide] at h
    obtain ⟨_, hnew, rfl⟩ := h
    exact admitted_of_change hnew

theorem rooted_preserved : Preserves containers.serial Rooted := by
  intro s op t h hstep
  obtain ⟨_, hdecide, hwrite⟩ := serial_ok.mp hstep
  cases admitted_of_decide hdecide with
  | @insert new hparent =>
    simp only [containers, Boxes.write, bind_ok, insertNew_ok, pure_ok] at hwrite
    obtain ⟨_, ⟨hnew, rfl⟩, rfl⟩ := hwrite
    have hnone : s.boxes.get? new.id = none := hnew
    refine h.write new (fun id hne => ?_) ?_ (fun old hold => ?_) fun parentId hmem => ?_
    · exact (get?_insert hnew id).trans (if_neg hne)
    · exact (get?_insert hnew new.id).trans (if_pos rfl)
    · rw [hnone] at hold
      cases hold
    · obtain ⟨parent, hget, hsame⟩ := hasParent_iff.mp hparent parentId hmem
      refine ⟨⟨parent, hget, hsame⟩, not_inside_of_absent h hnone ?_⟩
      rintro rfl
      rw [hnone] at hget
      cases hget
  | @update new _ hold hmakerspace hclean =>
    simp [containers, Boxes.write] at hwrite
    subst hwrite
    refine h.write new (fun id hne => get?_put_of_ne _ hne)
      (get?_put_self hold) (fun other hother => ?_) (clean_spec hclean)
    rw [← hmakerspace, some.inj (hold.symm.trans hother)]

variable {boxId makerspaceId : Nat} {new box : Box}

/-- The boxes of one makerspace stay while others are written. -/
structure Apart (makerspaceId : Nat) (s t : State) : Prop where
  kept : ∀ id box, s.boxes.get? id = some box → box.makerspaceId = makerspaceId →
    t.boxes.get? id = some box
  gained : ∀ box ∈ t.boxes, box.makerspaceId = makerspaceId → box ∈ s.boxes
  grows : s.boxes.rows.length ≤ t.boxes.rows.length

theorem locked_of_change (h : changeBox missing sought s.boxes boxId change = .ok new)
    (hother : makerspaceId ∉ ((s.boxes.get? boxId).map Box.makerspaceId).toList) :
    ∃ old, s.boxes.get? new.id = some old ∧ old.makerspaceId ≠ makerspaceId ∧
      new.makerspaceId ≠ makerspaceId := by
  obtain ⟨old, hget, rfl, -, -, -, -⟩ := changeBox_spec.mp h
  have hne : old.makerspaceId ≠ makerspaceId := by
    rintro rfl
    simp [hget] at hother
  refine ⟨old, ?_, hne, hne⟩
  rw [show (change.set old).id = boxId from key_of_get? hget]
  exact hget

theorem apart_put {old : Box} (hold : s.boxes.get? new.id = some old)
    (hne : old.makerspaceId ≠ makerspaceId) (hnew : new.makerspaceId ≠ makerspaceId) :
    Apart makerspaceId s { s with boxes := s.boxes.put new } where
  kept := by
    intro id box hget hbox
    have hid : id ≠ new.id := by
      rintro rfl
      exact hne (some.inj (hold.symm.trans hget) ▸ hbox)
    exact (get?_put_of_ne _ hid).trans hget
  gained := by
    intro box hbox hmakerspace
    rcases mem_of_mem_put hbox with rfl | ⟨hmem, -⟩
    · exact absurd hmakerspace hnew
    · exact hmem
  grows := by simp [Table.put, Table.mapRows]

theorem apart_insert (habsent : s.boxes.get? new.id = none)
    (hnew : new.makerspaceId ≠ makerspaceId) :
    Apart makerspaceId s { s with boxes := s.boxes.insert new habsent } where
  kept := by
    intro id box hget _
    have hid : id ≠ new.id := by
      rintro rfl
      rw [habsent] at hget
      cases hget
    have hkept := (get?_insert (r := new) habsent id).trans (if_neg hid)
    exact hkept.trans hget
  gained := by
    intro box hbox hmakerspace
    rcases (mem_insert (r := new) habsent).mp hbox with hmem | rfl
    · exact hmem
    · exact absurd hmakerspace hnew
  grows := by simp [Table.insert]

theorem apart_of_write
    (hdecide : decide s op = .ok w) (hwrite : Boxes.write s w = .ok t)
    (hother : makerspaceId ∉ lockedMakerspace s op) :
    Apart makerspaceId s t := by
  have hinsert : ∀ new : Box, Boxes.write s (.insert new) = .ok t →
      makerspaceId ∉ [new.makerspaceId] → Apart makerspaceId s t := by
    intro new hnew hne
    simp only [Boxes.write, bind_ok, insertNew_ok, pure_ok] at hnew
    obtain ⟨_, ⟨habsent, rfl⟩, rfl⟩ := hnew
    exact apart_insert habsent (by simpa [eq_comm] using hne)
  have hupdate : ∀ new : Box, Boxes.write s (.update new) = .ok t →
      (∃ old, s.boxes.get? new.id = some old ∧ old.makerspaceId ≠ makerspaceId ∧
        new.makerspaceId ≠ makerspaceId) → Apart makerspaceId s t := by
    rintro _ hnew ⟨_, hold, hne, hne'⟩
    simp [Boxes.write] at hnew
    subst hnew
    exact apart_put hold hne hne'
  cases op with
  | create new =>
    simp only [decide, createContainer, map_eq_ok, bind_ok, require_ok, pure_ok]
      at hdecide
    obtain ⟨_, ⟨_, -, -, -, -, -, rfl⟩, rfl⟩ := hdecide
    exact hinsert new hwrite hother
  | createWithQr new =>
    simp only [decide, createBoxWithQr, map_eq_ok, bind_ok, require_ok, pure_ok]
      at hdecide
    obtain ⟨_, ⟨-, -, -, -, -, -, rfl⟩, rfl⟩ := hdecide
    exact hinsert new hwrite hother
  | patch | move | changeInAdmin =>
    simp [decide] at hdecide
    obtain ⟨new, hnew, rfl⟩ := hdecide
    exact hupdate new hwrite (locked_of_change hnew hother)

/-! What an operation looks at lies in the makerspace that it locks. -/

theorem hasParent_of_apart
    (hapart : Apart makerspaceId s t) (h : hasParent s.boxes makerspaceId parentId) :
    hasParent t.boxes makerspaceId parentId := by
  rw [hasParent_iff] at h ⊢
  intro id hid
  obtain ⟨parent, hget, hsame⟩ := h id hid
  exact ⟨parent, hapart.kept id parent hget hsame, hsame⟩

theorem labelTaken_of_apart (hapart : Apart box.makerspaceId s t) (h : ¬ labelTaken s.boxes box) :
    ¬ labelTaken t.boxes box := by
  rintro ⟨other, hmem, hid, hmakerspace, hlabel⟩
  exact h ⟨other, hapart.gained other hmem hmakerspace, hid, hmakerspace, hlabel⟩

theorem clean_of_apart (hrooted : Rooted s) (hapart : Apart box.makerspaceId s t)
    (h : clean s.boxes box = .ok u) :
    clean t.boxes box = .ok u := by
  unfold clean at h ⊢
  cases hparentId : box.parentId with
  | none => rfl
  | some parentId =>
    rw [hparentId] at h
    simp only [bind_ok, orRefuse_ok, require_ok] at h ⊢
    obtain ⟨parent, hget, _, hmakerspace, hclimb⟩ := h
    refine ⟨parent, hapart.kept parentId parent hget hmakerspace, ⟨⟩, hmakerspace, ?_⟩
    -- the walk stays in the makerspace, and more boxes leave it more turns
    have hlen : s.boxes.rows.length + 1 ≤ t.boxes.rows.length + 1 := Nat.succ_le_succ hapart.grows
    have hsame : climb (parentOf t.boxes) box.id (t.boxes.rows.length + 1) parent.id [] =
        climb (parentOf s.boxes) box.id (t.boxes.rows.length + 1) parent.id [] := by
      refine climb_congr (P := fun id => ∃ row, s.boxes.get? id = some row ∧
          row.makerspaceId = box.makerspaceId) ?_ ?_ ?_
      · rintro id ⟨row, hrow, hsame⟩
        rw [parentOf, parentOf, hapart.kept id row hrow hsame, hrow]
      · rintro _ up ⟨row, hrow, hsame⟩ hup
        obtain ⟨row', hrow', hrowUp⟩ := parentOf_eq_some.mp hup
        obtain rfl : row = row' := some.inj (hrow.symm.trans hrow')
        obtain ⟨above, habove, hsame'⟩ := hrooted.homed row (mem_of_get? hrow) up hrowUp
        exact ⟨above, habove, hsame'.trans hsame⟩
      · have hid : parent.id = parentId := key_of_get? hget
        exact ⟨parent, by rw [hid]; exact hget, hmakerspace⟩
    rw [hsame]
    exact climb_mono hlen hclimb

theorem changeBox_of_apart (hrooted : Rooted s)
    (hapart : ∀ makerspaceId ∈ ((s.boxes.get? boxId).map Box.makerspaceId).toList,
      Apart makerspaceId s t) (h : changeBox missing sought s.boxes boxId change = .ok new) :
    changeBox missing sought t.boxes boxId change = .ok new ∧
      ((t.boxes.get? boxId).map Box.makerspaceId).toList =
        ((s.boxes.get? boxId).map Box.makerspaceId).toList := by
  obtain ⟨old, hget, rfl, hparent, hfields, hclean, hlabel⟩ := changeBox_spec.mp h
  have hsame : Apart old.makerspaceId s t := hapart _ (by simp [hget])
  have hget' : t.boxes.get? boxId = some old := hsame.kept boxId old hget rfl
  refine ⟨changeBox_spec.mpr ⟨old, hget', rfl, hasParent_of_apart hsame hparent, hfields,
    clean_of_apart hrooted hsame hclean, labelTaken_of_apart hsame hlabel⟩, ?_⟩
  rw [hget, hget']

theorem independent : containers.Independent Rooted := by
  intro s t op other v w hrooted hlocks hop hother hwrite
  have hapart : ∀ makerspaceId ∈ lockedMakerspace s op, Apart makerspaceId s t :=
    fun makerspaceId hmem => apart_of_write hother hwrite (hlocks makerspaceId hmem)
  cases op with
  | create new =>
    have hsame : Apart new.makerspaceId s t := hapart _ mem_cons_self
    simp only [containers, decide, createContainer, map_eq_ok, bind_ok, require_ok,
      pure_ok] at hop ⊢
    obtain ⟨_, ⟨u, hfields, u', hparent, u'', hlabel, rfl⟩, rfl⟩ := hop
    exact ⟨⟨_, ⟨u, hfields, u', hasParent_of_apart hsame hparent, u'',
      labelTaken_of_apart hsame hlabel, rfl⟩, rfl⟩, rfl⟩
  | createWithQr new =>
    have hsame : Apart new.makerspaceId s t := hapart _ mem_cons_self
    simp only [containers, decide, createBoxWithQr, fullClean, map_eq_ok, bind_ok,
      require_ok, pure_ok] at hop ⊢
    obtain ⟨_, ⟨u, hparent, u', hlabel, u'', ⟨x, hfields, y, hclean, hlabel'⟩, rfl⟩,
      rfl⟩ := hop
    exact ⟨⟨_, ⟨u, hasParent_of_apart hsame hparent, u', labelTaken_of_apart hsame hlabel,
      u'', ⟨x, hfields, y, clean_of_apart hrooted hsame hclean,
        labelTaken_of_apart hsame hlabel'⟩, rfl⟩, rfl⟩, rfl⟩
  | patch | move | changeInAdmin =>
    simp only [containers, decide, map_eq_ok] at hop ⊢
    obtain ⟨new, hnew, rfl⟩ := hop
    obtain ⟨hnew', hneeds⟩ := changeBox_of_apart hrooted hapart hnew
    exact ⟨⟨new, hnew', rfl⟩, hneeds⟩

variable {s : State} {root : Box} {ids frontier : List Nat}

/-- A turn of the traversal: boxes met lie in the root, and their children are met or in the last
turn. -/
structure Walking (s : State) (root : Box) (ids frontier : List Nat) : Prop where
  nodup : ids.Nodup
  met : root.id ∈ ids
  inside : ∀ id ∈ ids, ∃ box, s.boxes.get? id = some box ∧
    box.makerspaceId = root.makerspaceId ∧ Inside (parentOf s.boxes) id root.id
  within : frontier ⊆ ids
  closed : ∀ id up, parentOf s.boxes id = some up → up ∈ ids → up ∉ frontier → id ∈ ids

theorem walking_root (h : s.boxes.get? root.id = some root) :
    Walking s root [root.id] [root.id] where
  nodup := nodup_singleton _
  met := mem_singleton_self _
  inside := by
    intro id hid
    obtain rfl := mem_singleton.mp hid
    exact ⟨root, h, rfl, .refl⟩
  within := List.Subset.refl _
  closed := fun _ _ _ hup hnot => absurd hup hnot

def childIds (boxes : List Box) (makerspaceId : Nat) (ids frontier : List Nat) : List Nat :=
  (boxes.filter fun box =>
    box.parentId.any (fun parentId => parentId ∈ frontier) ∧
      box.makerspaceId = makerspaceId ∧ box.id ∉ ids).map Box.id

theorem mem_childIds {makerspaceId : Nat} {id : Nat} :
    id ∈ childIds s.boxes.rows makerspaceId ids frontier ↔
      ∃ box, s.boxes.get? id = some box ∧ box.makerspaceId = makerspaceId ∧ id ∉ ids ∧
        ∃ up ∈ frontier, box.parentId = some up := by
  simp only [childIds, List.mem_map, mem_filter, decide_eq_true_eq, Option.any_eq_true]
  constructor
  · rintro ⟨box, ⟨hmem, ⟨up, hup, hfrontier⟩, hmakerspace, hfresh⟩, rfl⟩
    exact ⟨box, get?_key hmem, hmakerspace, hfresh, up, hfrontier, hup⟩
  · rintro ⟨box, hget, hmakerspace, hfresh, up, hfrontier, hup⟩
    obtain ⟨hmem, rfl⟩ := get?_eq_some.mp hget
    exact ⟨box, ⟨hmem, ⟨up, hup, hfrontier⟩, hmakerspace, hfresh⟩, rfl⟩

theorem Walking.turn (hrooted : Rooted s) (h : Walking s root ids frontier) :
    Walking s root (ids ++ childIds s.boxes.rows root.makerspaceId ids frontier)
      (childIds s.boxes.rows root.makerspaceId ids frontier) where
  nodup := by
    refine nodup_append.mpr ⟨h.nodup, ?_, ?_⟩
    · exact s.boxes.nodup.sublist (filter_sublist.map Box.id)
    · rintro _ hid _ hchild rfl
      obtain ⟨-, -, -, hfresh, -⟩ := mem_childIds.mp hchild
      exact hfresh hid
  met := mem_append_left _ h.met
  inside := by
    intro id hid
    rcases mem_append.mp hid with hold | hchild
    · exact h.inside id hold
    · obtain ⟨box, hget, hmakerspace, -, up, hfrontier, hup⟩ := mem_childIds.mp hchild
      obtain ⟨-, -, -, hinside⟩ := h.inside up (h.within hfrontier)
      refine ⟨box, hget, hmakerspace, .head ?_ hinside⟩
      exact parentOf_eq_some.mpr ⟨box, hget, hup⟩
  within := subset_append_right _ _
  closed := by
    intro id up hlink hup hnot
    have hold : up ∈ ids := (mem_append.mp hup).resolve_right hnot
    by_cases hfrontier : up ∈ frontier
    · obtain ⟨box, hget, hboxUp⟩ := parentOf_eq_some.mp hlink
      obtain ⟨parent, hparent, hmakerspace, -⟩ := h.inside up hold
      obtain ⟨parent', hparent', hsame⟩ := hrooted.homed box (mem_of_get? hget) up hboxUp
      obtain rfl : parent = parent' := some.inj (hparent.symm.trans hparent')
      by_cases hid : id ∈ ids
      · exact mem_append_left _ hid
      · exact mem_append_right _
          (mem_childIds.mpr ⟨box, hget, hsame.symm.trans hmakerspace, hid, up, hfrontier, hboxUp⟩)
    · exact mem_append_left _ (h.closed id up hlink hold hfrontier)

theorem Walking.mem_iff (hrooted : Rooted s) (h : Walking s root ids frontier)
    (hdone : childIds s.boxes.rows root.makerspaceId ids frontier = []) (id : Nat) :
    id ∈ ids ↔ Inside (parentOf s.boxes) id root.id := by
  constructor
  · intro hid
    obtain ⟨-, -, -, hinside⟩ := h.inside id hid
    exact hinside
  · intro hinside
    have hturn := h.turn hrooted
    rw [hdone, append_nil] at hturn
    induction hinside using Relation.ReflTransGen.head_induction_on with
    | refl => exact h.met
    | head hlink _ ih => exact hturn.closed _ _ hlink ih not_mem_nil

theorem Walking.length_le (h : Walking s root ids frontier) :
    ids.length ≤ s.boxes.rows.length := by
  have hsub : ids ⊆ s.boxes.rows.map Box.id := by
    intro id hid
    obtain ⟨_, hget, -⟩ := h.inside id hid
    obtain ⟨hmem, rfl⟩ := get?_eq_some.mp hget
    exact mem_map_of_mem hmem
  have hle := (subperm_of_subset h.nodup hsub).length_le
  rwa [length_map] at hle

theorem subtreeFrom_spec {turns : Nat} (hrooted : Rooted s) (h : Walking s root ids frontier)
    (hturns : s.boxes.rows.length < turns + ids.length) :
    (subtreeFrom s.boxes.rows root.makerspaceId turns ids frontier).Nodup ∧
      (∀ id, id ∈ subtreeFrom s.boxes.rows root.makerspaceId turns ids frontier ↔
        Inside (parentOf s.boxes) id root.id) ∧
      ∀ more, turns ≤ more → subtreeFrom s.boxes.rows root.makerspaceId more ids frontier =
          subtreeFrom s.boxes.rows root.makerspaceId turns ids frontier := by
  induction turns generalizing ids frontier with
  | zero =>
    have hle := h.length_le
    omega
  | succ turns ih =>
    have hstep : ∀ n, subtreeFrom s.boxes.rows root.makerspaceId (n + 1) ids frontier =
        if childIds s.boxes.rows root.makerspaceId ids frontier = [] then ids
        else subtreeFrom s.boxes.rows root.makerspaceId n
          (ids ++ childIds s.boxes.rows root.makerspaceId ids frontier)
          (childIds s.boxes.rows root.makerspaceId ids frontier) := fun _ => rfl
    by_cases hdone : childIds s.boxes.rows root.makerspaceId ids frontier = []
    · have hstop : ∀ n,
          subtreeFrom s.boxes.rows root.makerspaceId (n + 1) ids frontier = ids := by
        intro n
        rw [hstep, if_pos hdone]
      rw [hstop]
      refine ⟨h.nodup, h.mem_iff hrooted hdone, fun more hmore => ?_⟩
      obtain ⟨n, rfl⟩ : ∃ n, more = n + 1 := ⟨more - 1, by omega⟩
      exact hstop n
    · have hgo : ∀ n, subtreeFrom s.boxes.rows root.makerspaceId (n + 1) ids frontier =
          subtreeFrom s.boxes.rows root.makerspaceId n
            (ids ++ childIds s.boxes.rows root.makerspaceId ids frontier)
            (childIds s.boxes.rows root.makerspaceId ids frontier) := by
        intro n
        rw [hstep, if_neg hdone]
      have hgrows := length_pos_of_ne_nil hdone
      have hlonger : s.boxes.rows.length < turns +
          (ids ++ childIds s.boxes.rows root.makerspaceId ids frontier).length := by
        rw [length_append]
        omega
      obtain ⟨hnodup, hmem, hmore⟩ := ih (h.turn hrooted) hlonger
      rw [hgo]
      refine ⟨hnodup, hmem, fun more hle => ?_⟩
      obtain ⟨n, rfl⟩ : ∃ n, more = n + 1 := ⟨more - 1, by omega⟩
      rw [hgo]
      exact hmore n (by omega)

/-- The traversal ends, with each descendant once. -/
structure Traversed (s : State) (box : Box) : Prop where
  nodup : (containerSubtreeIds s box.makerspaceId box.id).Nodup
  mem_iff : ∀ id, id ∈ containerSubtreeIds s box.makerspaceId box.id ↔
    Inside (parentOf s.boxes) id box.id
  ends : ∀ turns, s.boxes.rows.length ≤ turns →
    subtreeFrom s.boxes.rows box.makerspaceId turns [box.id] [box.id] =
      containerSubtreeIds s box.makerspaceId box.id

theorem Rooted.traversed (h : Rooted s) {box : Box} (hbox : box ∈ s.boxes) :
    Traversed s box := by
  have hturns : s.boxes.rows.length < s.boxes.rows.length + [box.id].length := Nat.lt_succ_self _
  obtain ⟨hnodup, hmem, hends⟩ := subtreeFrom_spec h (walking_root (get?_key hbox)) hturns
  exact ⟨hnodup, hmem, hends⟩

/-- **The tree of containers.** Every interleaving keeps parents in the makerspace and acyclic, and
traversals end with the descendants. -/
theorem rooted_of_path {ι : Type} [DecidableEq ι] {c : Shared State ι ContainerOp Nat BoxWrite}
    (h : Rooted s) (hpath : Path containers (atRest s) c) :
    Rooted c.state ∧ ∀ box ∈ c.state.boxes, Traversed c.state box := by
  have hrooted : Rooted c.state := invariant_of_path independent rooted_preserved h hpath
  exact ⟨hrooted, fun box hbox => hrooted.traversed hbox⟩

def sideBySide : State where
  boxes :=
    ⟨[{ id := 1, makerspaceId := 1, code := "B-1", label := "left" },
      { id := 2, makerspaceId := 1, code := "B-2", label := "right" }], by decide⟩

theorem rooted_sideBySide : Rooted sideBySide where
  homed := by
    intro box hbox parentId hparent
    obtain rfl | rfl | _ := by simpa using mem_cons.mp hbox
    · cases hparent
    · cases hparent
  acyclic := by
    have hroots : ∀ id up, parentOf sideBySide.boxes id ≠ some up := by
      intro id up hlink
      obtain ⟨_, hget, hparent⟩ := parentOf_eq_some.mp hlink
      obtain rfl | rfl | _ := by simpa using mem_cons.mp (mem_of_get? hget)
      · cases hparent
      · cases hparent
    intro id hcycle
    obtain ⟨up, hlink, -⟩ := Relation.TransGen.head'_iff.mp hcycle
    exact hroots id up hlink

/-- A box is moved into the other, which then cannot be moved into it. -/
theorem rooted_of_path_crossing :
    ∃ c : Shared State Bool ContainerOp Nat BoxWrite, parentOf c.state.boxes 1 = some 2 ∧
        decide c.state (.move 2 { parentId := some (some 1) }) =
          .error (.validation "parent" "A box cannot be its own ancestor.") ∧
        Rooted c.state ∧ ∀ box ∈ c.state.boxes, Traversed c.state box := by
  have hmoved : ∃ t, containers.serial sideBySide (.move 1 { parentId := some (some 2) }) =
      .ok t ∧ parentOf t.boxes 1 = some 2 ∧
        decide t (.move 2 { parentId := some (some 1) }) =
          .error (.validation "parent" "A box cannot be its own ancestor.") :=
    ⟨_, rfl, rfl, rfl⟩
  obtain ⟨t, hserial, hparent, hrefused⟩ := hmoved
  exact ⟨atRest t, hparent, hrefused,
    rooted_of_path rooted_sideBySide (path_of_serial true hserial)⟩

end Boxes
end SpaceWorks
