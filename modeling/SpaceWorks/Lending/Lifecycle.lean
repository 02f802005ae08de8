import SpaceWorks.Lending.Balance
import SpaceWorks.Lending.Handouts

/-!
# The life of a request

`Tallied` orders the counters of one item, `InOrder` says what a status means for the items.
-/

namespace SpaceWorks
namespace Lending

open Checked Availability TransactionalSystem Table List Option

variable {s t : State}

variable {item : RequestItem} {P : RequestItem → Prop} {items others : List RequestItem}
  {status : RequestStatus} {makerspaceId requesterId : Nat} {boxCode : String}

def RequestItem.resolved (item : RequestItem) : Int :=
  item.returned + item.damaged + item.missing

structure Tallied (item : RequestItem) : Prop where
  returned : 0 ≤ item.returned
  damaged : 0 ≤ item.damaged
  missing : 0 ≤ item.missing
  resolved : item.resolved ≤ item.issued
  issued : item.issued ≤ item.accepted
  accepted : item.accepted ≤ item.requested

theorem Tallied.nonneg (h : Tallied item) : 0 ≤ item.accepted := by
  obtain ⟨_, _, _, hresolved, _, -⟩ := h
  unfold RequestItem.resolved at hresolved
  omega

def RequestStatus.handedOver (status : RequestStatus) : Prop :=
  status.out ∨ status = .returned ∨ status = .closedWithIssue

structure InOrder (status : RequestStatus) (items : List RequestItem) : Prop where
  tallied : ∀ item ∈ items, Tallied item
  kept : ¬ status.handedOver → ∀ item ∈ items, item.issued = 0
  granted : status = .accepted → ∃ item ∈ items, 0 < item.accepted
  handed : status.handedOver → items ≠ [] → ∃ item ∈ items, 0 < item.issued
  untouched : status = .issued → ∀ item ∈ items, item.resolved = 0
  partly : status = .partiallyReturned →
    (∃ item ∈ items, 0 < item.resolved) ∧ ∃ item ∈ items, item.resolved ≠ item.issued
  closed : status = .returned ∨ status = .closedWithIssue →
    ∀ item ∈ items, item.resolved = item.issued
  sound : status = .returned → ∀ item ∈ items, item.damaged = 0 ∧ item.missing = 0
  issue : status = .closedWithIssue → ∃ item ∈ items, 0 < item.damaged ∨ 0 < item.missing

/-- The item without its asset links: its counters. -/
def RequestItem.unlinked (item : RequestItem) : RequestItem :=
  { item with assetLinks := [] }

theorem forall_of_unlinked (hP : ∀ item, P item.unlinked ↔ P item)
    (h : items.map RequestItem.unlinked = others.map RequestItem.unlinked) :
    (∀ item ∈ items, P item) ↔ ∀ other ∈ others, P other := by
  have hread : ∀ rows : List RequestItem,
      (∀ item ∈ rows, P item) ↔ ∀ row ∈ rows.map RequestItem.unlinked, P row := by
    intro rows
    simp [hP]
  rw [hread items, h, ← hread others]

theorem exists_of_unlinked (hP : ∀ item, P item.unlinked ↔ P item)
    (h : items.map RequestItem.unlinked = others.map RequestItem.unlinked) :
    (∃ item ∈ items, P item) ↔ ∃ other ∈ others, P other := by
  have hread : ∀ rows : List RequestItem,
      (∃ item ∈ rows, P item) ↔ ∃ row ∈ rows.map RequestItem.unlinked, P row := by
    intro rows
    simp [hP]
  rw [hread items, h, ← hread others]

theorem tallied_unlinked : Tallied item.unlinked ↔ Tallied item :=
  ⟨fun ⟨h₁, h₂, h₃, h₄, h₅, h₆⟩ => ⟨h₁, h₂, h₃, h₄, h₅, h₆⟩,
    fun ⟨h₁, h₂, h₃, h₄, h₅, h₆⟩ => ⟨h₁, h₂, h₃, h₄, h₅, h₆⟩⟩

theorem InOrder.relink (h : InOrder status others)
    (hsame : items.map RequestItem.unlinked = others.map RequestItem.unlinked) :
    InOrder status items where
  tallied := (forall_of_unlinked (fun _ => tallied_unlinked) hsame).mpr h.tallied
  kept hstatus := (forall_of_unlinked (fun _ => Iff.rfl) hsame).mpr (h.kept hstatus)
  granted hstatus := (exists_of_unlinked (fun _ => Iff.rfl) hsame).mpr (h.granted hstatus)
  handed hstatus hne := by
    refine (exists_of_unlinked (fun _ => Iff.rfl) hsame).mpr (h.handed hstatus ?_)
    rintro rfl
    exact hne (map_eq_nil_iff.mp hsame)
  untouched hstatus := (forall_of_unlinked (fun _ => Iff.rfl) hsame).mpr (h.untouched hstatus)
  partly hstatus :=
    ⟨(exists_of_unlinked (fun _ => Iff.rfl) hsame).mpr (h.partly hstatus).1,
      (exists_of_unlinked (fun _ => Iff.rfl) hsame).mpr (h.partly hstatus).2⟩
  closed hstatus := (forall_of_unlinked (fun _ => Iff.rfl) hsame).mpr (h.closed hstatus)
  sound hstatus := (forall_of_unlinked (fun _ => Iff.rfl) hsame).mpr (h.sound hstatus)
  issue hstatus := (exists_of_unlinked (fun _ => Iff.rfl) hsame).mpr (h.issue hstatus)

theorem Tallied.zero (h : Tallied item) (hissued : item.issued = 0) :
    item.returned = 0 ∧ item.damaged = 0 ∧ item.missing = 0 := by
  obtain ⟨_, _, _, hresolved, -, -⟩ := h
  unfold RequestItem.resolved at hresolved
  omega

theorem inOrder_review (hstatus : ¬ status.handedOver)
    (hitems : ∀ item ∈ items, Tallied item ∧ item.issued = 0)
    (hgranted : status = .accepted → ∃ item ∈ items, 0 < item.accepted) :
    InOrder status items := by
  have hnever {other : RequestStatus} (hother : other.handedOver) : status ≠ other := by
    rintro rfl
    exact hstatus hother
  exact {
    tallied := fun item hitem => (hitems item hitem).1
    kept := fun _ item hitem => (hitems item hitem).2
    granted := hgranted
    handed := fun hover => absurd hover hstatus
    untouched := fun heq => absurd heq (hnever (.inl (.inl rfl)))
    partly := fun heq => absurd heq (hnever (.inl (.inr rfl)))
    closed := fun heq => absurd (.inr heq) hstatus
    sound := fun heq => absurd heq (hnever (.inr (.inl rfl)))
    issue := fun heq => absurd heq (hnever (.inr (.inr rfl))) }

theorem inOrder_issued (hitems : ∀ item ∈ items, Tallied item ∧ item.resolved = 0)
    (hhanded : items ≠ [] → ∃ item ∈ items, 0 < item.issued) :
    InOrder .issued items where
  tallied item hitem := (hitems item hitem).1
  kept hover := absurd (.inl (.inl rfl)) hover
  granted heq := by cases heq
  handed _ := hhanded
  untouched _ item hitem := (hitems item hitem).2
  partly heq := by cases heq
  closed heq := by rcases heq with heq | heq <;> cases heq
  sound heq := by cases heq
  issue heq := by cases heq

theorem inOrder_finalize {request : HardwareRequest}
    (htallied : ∀ item ∈ request.items, Tallied item)
    (hhanded : request.items.rows ≠ [] → ∃ item ∈ request.items, 0 < item.issued)
    (hresolved : (∃ item ∈ request.items, 0 < item.resolved) ∨
      ∀ item ∈ request.items, item.resolved = item.issued) :
    InOrder (finalizeReturnStatus request).status (finalizeReturnStatus request).items.rows := by
  unfold finalizeReturnStatus
  split
  · next hall =>
      split
      · next hissue =>
          exact {
            tallied := htallied
            kept := fun hover => absurd (.inr (.inr rfl)) hover
            granted := nofun
            handed := fun _ => hhanded
            untouched := nofun
            partly := nofun
            closed := fun _ => hall
            sound := nofun
            issue := fun _ => hissue }
      · next hissue =>
          refine {
            tallied := htallied
            kept := fun hover => absurd (.inr (.inl rfl)) hover
            granted := nofun
            handed := fun _ => hhanded
            untouched := nofun
            partly := nofun
            closed := fun _ => hall
            sound := fun _ item hitem => ?_
            issue := nofun }
          obtain ⟨-, _, _, -, -, -⟩ := htallied item hitem
          have hnone : ¬ (0 < item.damaged ∨ 0 < item.missing) := fun hsome =>
            hissue ⟨item, hitem, hsome⟩
          omega
  · next hsome =>
      have hopen : ∃ item ∈ request.items, item.resolved ≠ item.issued := by
        by_contra hnone
        push Not at hnone
        exact hsome hnone
      have hpart : ∃ item ∈ request.items, 0 < item.resolved := by
        rcases hresolved with hresolved | hresolved
        · exact hresolved
        · exact absurd hresolved hsome
      exact {
        tallied := htallied
        kept := fun hover => absurd (.inl (.inr rfl)) hover
        granted := nofun
        handed := fun _ => hhanded
        untouched := nofun
        partly := fun _ => ⟨hpart, hopen⟩
        closed := by rintro (heq | heq) <;> cases heq
        sound := nofun
        issue := nofun }

theorem inOrder_returned
    (hitems : ∀ item ∈ items, Tallied item ∧ 0 < item.issued ∧ item.returned = item.issued ∧
      item.damaged = 0 ∧ item.missing = 0) :
    InOrder .returned items where
  tallied item hitem := (hitems item hitem).1
  kept hover := absurd (.inr (.inl rfl)) hover
  granted heq := by cases heq
  handed _ hne := by
    obtain ⟨item, hitem⟩ := exists_mem_of_ne_nil items hne
    exact ⟨item, hitem, (hitems item hitem).2.1⟩
  untouched heq := by cases heq
  partly heq := by cases heq
  closed _ item hitem := by
    obtain ⟨-, -, _, _, _⟩ := hitems item hitem
    unfold RequestItem.resolved
    omega
  sound _ item hitem := (hitems item hitem).2.2.2
  issue heq := by cases heq

variable {request new : HardwareRequest} {loan : PublicToolLoan}

/-- Requests are in order, checked-out loans have an issued request each. -/
structure BooksInOrder (s : State) : Prop where
  requests : ∀ request ∈ s.requests, InOrder request.status request.items.rows
  loans : ∀ loan ∈ s.loans, loan.status = .checkedOut → ∃ request,
    s.requests.get? loan.requestId = some request ∧
      request.makerspaceId = loan.makerspaceId ∧ request.status = .issued
  alone : ∀ loan ∈ s.loans, ∀ other ∈ s.loans, loan.requestId = other.requestId → loan = other

/-- No checked-out loan has the request. -/
def Unlent (s : State) (requestId : Nat) : Prop :=
  ∀ loan ∈ s.loans, loan.status = .checkedOut → loan.requestId ≠ requestId

theorem BooksInOrder.of_books (h : BooksInOrder s) (hbooks : SameBooks s t) : BooksInOrder t where
  requests := by
    rw [hbooks.requests]
    exact h.requests
  loans := by
    rw [hbooks.requests, hbooks.loans]
    exact h.loans
  alone := by
    rw [hbooks.loans]
    exact h.alone

theorem BooksInOrder.unlent (h : BooksInOrder s) (hstored : Stored s request)
    (hstatus : request.status ≠ .issued) : Unlent s request.id := by
  intro loan hloan hout heq
  obtain ⟨_, hget, -, hissued⟩ := h.loans loan hloan hout
  rw [heq] at hget
  obtain rfl := some.inj (hstored.symm.trans hget)
  exact hstatus hissued

theorem BooksInOrder.unlent_of_makerspace (h : BooksInOrder s) (hstored : Stored s request)
    (hnone : ∀ loan ∈ s.loans.rows,
      ¬ (loan.requestId = request.id ∧ loan.makerspaceId = request.makerspaceId)) :
    Unlent s request.id := by
  intro loan hloan hout heq
  obtain ⟨_, hget, hspace, -⟩ := h.loans loan hloan hout
  rw [heq] at hget
  obtain rfl := some.inj (hstored.symm.trans hget)
  exact hnone loan hloan ⟨heq, hspace.symm⟩

theorem BooksInOrder.requests_put (h : BooksInOrder s) (hnew : InOrder new.status new.items.rows) :
    ∀ request ∈ s.requests.put new, InOrder request.status request.items.rows := by
  intro request hrequest
  rcases mem_of_mem_put hrequest with rfl | ⟨hrequest, -⟩
  · exact hnew
  · exact h.requests request hrequest

theorem BooksInOrder.save (h : BooksInOrder s) (hunlent : Unlent s request.id)
    (hid : new.id = request.id) (hnew : InOrder new.status new.items.rows) :
    BooksInOrder (s.saveRequest new) where
  requests := h.requests_put hnew
  loans := by
    intro loan hloan hout
    obtain ⟨backing, hget, hspace, hissued⟩ := h.loans loan hloan hout
    have hne : loan.requestId ≠ key new := by
      rw [key_request, hid]
      exact hunlent loan hloan hout
    exact ⟨backing, (get?_put_of_ne _ hne).trans hget, hspace, hissued⟩
  alone := h.alone

theorem BooksInOrder.close (h : BooksInOrder s) (new : HardwareRequest) (hloan : loan ∈ s.loans)
    (hid : new.id = loan.requestId) (hnew : InOrder new.status new.items.rows)
    (hrequests : t.requests = s.requests.put new)
    (hloans : t.loans = s.loans.put { loan with status := .returned }) :
    BooksInOrder t where
  requests := hrequests ▸ h.requests_put hnew
  loans := by
    rw [hloans, hrequests]
    intro other hother hout
    rcases mem_of_mem_put hother with rfl | ⟨hother, hne⟩
    · cases hout
    · obtain ⟨backing, hget, hspace, hissued⟩ := h.loans other hother hout
      have hrequest : other.requestId ≠ key new := by
        intro heq
        obtain rfl := h.alone other hother loan hloan (heq.trans hid)
        exact hne rfl
      exact ⟨backing, (get?_put_of_ne _ hrequest).trans hget, hspace, hissued⟩
  alone := by
    rw [hloans]
    intro one hone other hother heq
    rcases mem_of_mem_put hone with rfl | ⟨hone, hne⟩
    · rcases mem_of_mem_put hother with rfl | ⟨hother, hne⟩
      · rfl
      · obtain rfl := h.alone other hother loan hloan heq.symm
        exact absurd rfl hne
    · rcases mem_of_mem_put hother with rfl | ⟨hother, -⟩
      · obtain rfl := h.alone one hone loan hloan heq
        exact absurd rfl hne
      · exact h.alone one hone other hother heq

theorem BooksInOrder.insert (h : BooksInOrder s) {request : HardwareRequest}
    (hfresh : s.requests.get? (key request) = none)
    (hnew : InOrder request.status request.items.rows)
    (hrequests : t.requests = s.requests.insert request hfresh) (hloans : t.loans = s.loans) :
    BooksInOrder t where
  requests := by
    rw [hrequests]
    intro other hother
    rcases (mem_insert hfresh).mp hother with hother | rfl
    · exact h.requests other hother
    · exact hnew
  loans := by
    rw [hloans, hrequests]
    intro loan hloan hout
    obtain ⟨backing, hget, hspace, hissued⟩ := h.loans loan hloan hout
    have hne : loan.requestId ≠ key request := by
      rintro heq
      rw [heq, hfresh] at hget
      cases hget
    refine ⟨backing, ?_, hspace, hissued⟩
    rw [get?_insert hfresh, if_neg hne]
    exact hget
  alone := hloans ▸ h.alone

theorem BooksInOrder.lend (h : BooksInOrder s) (hfresh : s.loans.get? (key loan) = none)
    (hrequest : s.requests.get? loan.requestId = some request)
    (hspace : request.makerspaceId = loan.makerspaceId) (hstatus : request.status = .issued)
    (hunique : ∀ other ∈ s.loans.rows, other.requestId ≠ loan.requestId)
    (hrequests : t.requests = s.requests) (hloans : t.loans = s.loans.insert loan hfresh) :
    BooksInOrder t where
  requests := hrequests ▸ h.requests
  loans := by
    rw [hloans, hrequests]
    intro other hother hout
    rcases (mem_insert hfresh).mp hother with hother | rfl
    · exact h.loans other hother hout
    · exact ⟨request, hrequest, hspace, hstatus⟩
  alone := by
    rw [hloans]
    intro one hone other hother heq
    rcases (mem_insert hfresh).mp hone with hold | rfl
    · rcases (mem_insert hfresh).mp hother with hother | rfl
      · exact h.alone one hold other hother heq
      · exact absurd heq (hunique one hold)
    · rcases (mem_insert hfresh).mp hother with hother | rfl
      · exact absurd heq.symm (hunique other hother)
      · rfl

variable {id requestId : Nat} {reason : String}

theorem tallied_submitted {productId : Nat} {requested : Int} (h : 1 ≤ requested) :
    Tallied { id := id, productId := productId, requested := requested } := by
  constructor <;> simp [RequestItem.resolved]
  omega

theorem booksInOrder_submit {items : List (Nat × Int)}
    (h : BooksInOrder s) (hstep : submitRequest s id makerspaceId requesterId items = .ok t) :
    BooksInOrder t := by
  simp only [submitRequest, createRequest, bind_ok, forM_eq_ok, orRefuse_ok, require_ok,
    pure_ok, insertNew_ok] at hstep
  obtain ⟨-, hitems, -, -, _, ⟨hfresh, rfl⟩, rfl⟩ := hstep
  refine h.insert hfresh (inOrder_review ?_ ?_ fun heq => by cases heq) rfl rfl
  · rintro ((heq | heq) | heq | heq) <;> cases heq
  · intro item hitem
    obtain ⟨entry, hentry, _, rfl⟩ := mem_enumerate hitem
    obtain ⟨_, -, -, -, hpositive⟩ := hitems entry hentry
    exact ⟨tallied_submitted hpositive, rfl⟩

theorem booksInOrder_accept {accepted : Option (List (Nat × Int))} (h : BooksInOrder s)
    (hstep : acceptRequest s requestId accepted = .ok t) :
    BooksInOrder t := by
  simp only [acceptRequest, State.lockedRequest, reserveForRequest, bind_ok, orRefuse_ok,
    require_ok, pure_ok] at hstep
  obtain ⟨locked, hget, -, hpending, -, -, -, hrange, -, htotal, _, hpost, rfl⟩ := hstep
  have hstored := stored_of_get? hget
  have horder := h.requests locked (mem_of_get? hget)
  have hbooks := sameBooks_post hpost
  have hstatus : ¬ locked.status.handedOver := by
    rw [hpending]
    rintro ((heq | heq) | heq | heq) <;> cases heq
  have hunlent := (h.of_books hbooks).unlent (hstored.of_books hbooks) (by rw [hpending]; decide)
  refine (h.of_books hbooks).save hunlent rfl (inOrder_review ?_ ?_ ?_)
  · rintro ((heq | heq) | heq | heq) <;> cases heq
  · intro item hitem
    obtain ⟨old, hold, rfl⟩ := List.mem_map.mp hitem
    obtain ⟨hreturned, hdamaged, hmissing, hresolved, -, -⟩ := horder.tallied old hold
    have hkept := horder.kept hstatus old hold
    obtain ⟨hlow, hhigh⟩ := hrange old hold
    exact ⟨⟨hreturned, hdamaged, hmissing, hresolved, by simpa [hkept] using hlow, hhigh⟩, hkept⟩
  · intro _
    by_contra hnone
    push Not at hnone
    apply htotal
    refine List.sum_eq_zero fun quantity hquantity => ?_
    obtain ⟨item, hitem, rfl⟩ := List.mem_map.mp hquantity
    have hzero : acceptedQuantity accepted item ≤ 0 := hnone _ (mem_map_of_mem hitem)
    exact le_antisymm hzero (hrange item hitem).1

theorem not_handedOver_accepted {status : RequestStatus} (h : status = .accepted) :
    ¬ status.handedOver := by
  subst h
  rintro ((heq | heq) | heq | heq) <;> cases heq

theorem booksInOrder_reject (h : BooksInOrder s)
    (hstep : rejectRequest s requestId reason = .ok t) :
    BooksInOrder t := by
  simp only [rejectRequest, State.lockedRequest, bind_ok, orRefuse_ok, require_ok, pure_ok] at hstep
  obtain ⟨-, -, locked, hget, -, hpending, rfl⟩ := hstep
  have horder := h.requests locked (mem_of_get? hget)
  have hstatus : ¬ locked.status.handedOver := by
    rw [hpending]
    rintro ((heq | heq) | heq | heq) <;> cases heq
  have hunlent := h.unlent (stored_of_get? hget) (by rw [hpending]; decide)
  refine h.save hunlent rfl (inOrder_review ?_ ?_ fun heq => by cases heq)
  · rintro ((heq | heq) | heq | heq) <;> cases heq
  · exact fun item hitem => ⟨horder.tallied item hitem, horder.kept hstatus item hitem⟩

theorem booksInOrder_assignBox (h : BooksInOrder s)
    (hstep : Lending.assignBox s requestId boxCode = .ok t) :
    BooksInOrder t := by
  simp only [Lending.assignBox, State.lockedRequest, bind_ok, orRefuse_ok, require_ok,
    pure_ok] at hstep
  obtain ⟨locked, hget, -, haccepted, box, -, -, -, rfl⟩ := hstep
  have horder := h.requests locked (mem_of_get? hget)
  have hunlent := h.unlent (stored_of_get? hget) (by rw [haccepted]; decide)
  have hsaved : BooksInOrder (s.saveRequest { locked with assignedBoxId := some box.id }) :=
    h.save hunlent rfl horder
  exact hsaved.of_books ⟨rfl, rfl⟩

/-- A part that writes one request over, but for links, and hands it on. -/
structure Relinks (request : HardwareRequest) (p : State × HardwareRequest) : Prop where
  books : BooksInOrder p.1
  stored : Stored p.1 p.2
  unlent : Unlent p.1 p.2.id
  id : p.2.id = request.id
  status : p.2.status = request.status
  items : p.2.items.rows.map RequestItem.unlinked = request.items.rows.map RequestItem.unlinked

theorem relinks_save {request new : HardwareRequest}
    (h : BooksInOrder s) (hstored : Stored s request) (hunlent : Unlent s request.id)
    (hid : new.id = request.id) (hstatus : new.status = request.status)
    (hitems : new.items.rows.map RequestItem.unlinked =
      request.items.rows.map RequestItem.unlinked) :
    Relinks request (s.saveRequest new, new) where
  books := by
    refine h.save hunlent hid ?_
    rw [hstatus]
    exact (h.requests request (mem_of_get? hstored)).relink hitems
  stored := by
    have hold : s.requests.get? (key new) = some request := by
      rw [key_request, hid]
      exact hstored
    exact get?_put_self hold
  unlent := hid ▸ hunlent
  id := hid
  status := hstatus
  items := hitems

theorem booksInOrder_cancel (h : BooksInOrder s)
    (hstep : cancelRequest s requestId reason = .ok t) :
    BooksInOrder t := by
  simp only [cancelRequest, releaseRequestReservation, State.lockedRequest, bind_ok,
    orRefuse_ok, require_ok, pure_ok] at hstep
  obtain ⟨locked, hget, -, haccepted, -, -, -, -, p, hclear, m, ⟨-, -, -, -, -, -, -, -, -, -,
    hpost⟩, rfl⟩ := hstep
  have hstored := stored_of_get? hget
  have hunlent := h.unlent hstored (by rw [haccepted]; decide)
  have hcleared : Relinks locked p := by
    simp only [clearUnissuedAssignment, bind_ok, require_ok] at hclear
    obtain ⟨-, -, hclear⟩ := hclear
    split at hclear
    · rw [pure_ok] at hclear
      subst hclear
      exact ⟨h, hstored, hunlent, rfl, rfl, rfl⟩
    · simp at hclear
      obtain ⟨_, -, -, -, rfl⟩ := hclear
      exact relinks_save h hstored hunlent rfl rfl rfl
  have hbooks := sameBooks_post hpost
  have horder := hcleared.books.requests p.2 (mem_of_get? hcleared.stored)
  have hkept := not_handedOver_accepted (hcleared.status.trans haccepted)
  have hfree : Unlent m p.2.id := by
    unfold Unlent
    rw [hbooks.loans]
    exact hcleared.unlent
  refine (hcleared.books.of_books hbooks).save hfree rfl (inOrder_review ?_ ?_ nofun)
  · rintro ((heq | heq) | heq | heq) <;> cases heq
  · exact fun item hitem => ⟨horder.tallied item hitem, horder.kept hkept item hitem⟩

variable {request : HardwareRequest} {payloads : List String} {rejects : List Reject}

theorem takeAssets_items {pool : List InventoryAsset} {items : List RequestItem}
    {picks : List (RequestItem × List InventoryAsset)} (h : takeAssets pool items = .ok picks) :
    picks.map Prod.fst = items := by
  induction items generalizing pool picks with
  | nil =>
    simp [takeAssets] at h
    obtain ⟨-, -, rfl⟩ := h
    rfl
  | cons _ _ ih =>
    simp only [takeAssets, bind_ok, pure_ok] at h
    obtain ⟨-, -, _, hrest, rfl⟩ := h
    rw [map_cons, ih hrest]

theorem relinks_issueIndividualAssets {p : State × HardwareRequest}
    (h : BooksInOrder s) (hstored : Stored s request) (hunlent : Unlent s request.id)
    (hstep : issueIndividualAssets s request payloads = .ok p) :
    Relinks request p := by
  simp only [issueIndividualAssets] at hstep
  split at hstep
  · rw [pure_ok] at hstep
    subst hstep
    exact ⟨h, hstored, hunlent, rfl, rfl, rfl⟩
  · simp only [bind_ok, pure_ok] at hstep
    obtain ⟨-, -, _, -, -, -, _, -, picks, htake, rfl⟩ := hstep
    have hpicked : ∀ pick ∈ picks, pick.1 ∈ request.items := by
      intro pick hpick
      have hmem := takeAssets_items htake ▸ mem_map_of_mem hpick
      rw [mem_insertionSort] at hmem
      exact (mem_filter.mp hmem).1
    refine relinks_save (h.of_books ⟨rfl, rfl⟩) hstored hunlent rfl rfl (map_putAll ?_)
    intro item hitem old hold
    obtain ⟨pick, hpick, rfl⟩ := List.mem_map.mp hitem
    have hget := get?_key (hpicked pick hpick)
    obtain rfl : pick.1 = old := some.inj (hget.symm.trans hold)
    rfl

theorem checkRejects_spec {locked : HardwareRequest}
    (hnonneg : ∀ item ∈ locked.items, 0 ≤ item.accepted)
    (hgranted : ∃ item ∈ locked.items, 0 < item.accepted)
    (h : checkRejects s locked rejects = .ok ()) :
    (∀ item ∈ locked.items.rows, (rejectOf rejects item.id).1 ≤ item.accepted) ∧
      ∃ item ∈ locked.items.rows, 0 < item.accepted - (rejectOf rejects item.id).1 := by
  unfold checkRejects at h
  split at h
  · next hnone =>
      have hzero : ∀ itemId, (rejectOf rejects itemId).1 = 0 := by
        intro itemId
        simp [rejectOf, hnone]
      obtain ⟨item, hitem, _⟩ := hgranted
      refine ⟨fun item hitem => (hzero item.id).le.trans (hnonneg item hitem), item, hitem, ?_⟩
      rw [hzero]
      omega
  · simp only [validateBrokenRejects, bind_ok, forM_eq_ok, orRefuse_ok, require_ok,
      exists_const] at h
    obtain ⟨hrejects, htotal⟩ := h
    constructor
    · intro item hitem
      by_contra hover
      push Not at hover
      -- A reject of the item is in the list, and the loop has looked at the item.
      have hbroken : ∃ reject ∈ rejects.filter fun reject => 0 < reject.broken,
          reject.itemId = item.id := by
        unfold rejectOf at hover
        split at hover
        · next reject hfind =>
            exact ⟨reject, mem_reverse.mp (List.mem_of_find?_eq_some hfind),
              by simpa using List.find?_some hfind⟩
        · exact absurd hover (not_lt.mpr (hnonneg item hitem))
      obtain ⟨reject, hreject, hid⟩ := hbroken
      obtain ⟨found, hfound, hle, -⟩ := hrejects reject hreject
      rw [hid] at hfound
      obtain rfl : item = found := some.inj ((get?_key hitem).symm.trans hfound)
      exact absurd hle (not_le.mpr hover)
    · refine exists_lt_of_sum_lt (fun _ => (0 : Int))
        (fun item : RequestItem => item.accepted - (rejectOf rejects item.id).1) ?_
      simpa using htotal

theorem issueItem_spec {item : RequestItem} (htallied : Tallied item) (hkept : item.issued = 0)
    (hle : (rejectOf rejects item.id).1 ≤ item.accepted) :
    Tallied (issueItem rejects item) ∧ (issueItem rejects item).resolved = 0 ∧
      (issueItem rejects item).issued + (rejectOf rejects (issueItem rejects item).id).1 =
        (issueItem rejects item).accepted ∧
      (issueItem rejects item).issued = item.accepted - (rejectOf rejects item.id).1 := by
  have hnonneg := rejectOf_nonneg rejects item.id
  obtain ⟨_, _, _⟩ := htallied.zero hkept
  have haccepted := htallied.accepted
  have hresolved : item.resolved = 0 := by
    unfold RequestItem.resolved
    omega
  unfold issueItem
  split
  · have hissued : 0 ≤ item.accepted - (rejectOf rejects item.id).1 := by omega
    refine ⟨⟨htallied.returned, htallied.damaged, htallied.missing, ?_, ?_, haccepted⟩,
      hresolved, sub_add_cancel _ _, rfl⟩
    · exact hresolved.le.trans hissued
    · exact Int.sub_le_self _ hnonneg
  · refine ⟨htallied, hresolved, ?_, ?_⟩ <;> omega

theorem saveRequest_saveRequest (s : State) {new : HardwareRequest} (hid : request.id = new.id) :
    (s.saveRequest request).saveRequest new = s.saveRequest new := by
  simp [State.saveRequest, put_put s.requests (show key request = key new from hid)]

theorem issueRequest_spec {requestId actorId : Nat} {now : Int} (h : BooksInOrder s)
    (hstep : issueRequest s requestId actorId now payloads rejects = .ok t) :
    BooksInOrder t ∧ ∃ issued, t.requests.get? requestId = some issued ∧ issued.status = .issued ∧
      (∀ item ∈ issued.items, item.resolved = 0 ∧
        item.issued + (rejectOf rejects item.id).1 = item.accepted) ∧
      ∃ item ∈ issued.items, 0 < item.issued := by
  simp only [issueRequest, State.lockedRequest, bind_ok, orRefuse_ok, require_ok, pure_ok] at hstep
  obtain ⟨locked, hget, -, haccepted, -, -, _, hchecked, p, hassets, _, hitems, -, -, rfl⟩ := hstep
  have hstored := stored_of_get? hget
  have horder := h.requests locked (mem_of_get? hget)
  have hkept := horder.kept (not_handedOver_accepted haccepted)
  have hlinked := relinks_issueIndividualAssets h hstored
    (h.unlent hstored (by rw [haccepted]; decide)) hassets
  obtain ⟨hrejects, hhanded⟩ := checkRejects_spec
    (fun item hitem => (horder.tallied item hitem).nonneg) (horder.granted haccepted) hchecked
  simp [issueItems] at hitems
  obtain ⟨m, hpost, rfl⟩ := hitems
  have hbooks := sameBooks_post hpost
  -- What the checks say of the items holds of the items with their links.
  have hready : ∀ item ∈ p.2.items.rows, Tallied item ∧ item.issued = 0 ∧
      (rejectOf rejects item.id).1 ≤ item.accepted := by
    have htallied := (forall_of_unlinked (fun _ => tallied_unlinked) hlinked.items).mpr
      horder.tallied
    have hissued := (forall_of_unlinked (fun _ => Iff.rfl) hlinked.items).mpr hkept
    have hbroken := (forall_of_unlinked (fun _ => Iff.rfl) hlinked.items).mpr hrejects
    exact fun item hitem => ⟨htallied item hitem, hissued item hitem, hbroken item hitem⟩
  have hout := (exists_of_unlinked (fun _ => Iff.rfl) hlinked.items).mpr hhanded
  have hissued : ∀ item ∈ p.2.items.rows.map (issueItem rejects), Tallied item ∧ item.resolved = 0 ∧
        item.issued + (rejectOf rejects item.id).1 = item.accepted := by
    intro item hitem
    obtain ⟨old, hold, rfl⟩ := List.mem_map.mp hitem
    obtain ⟨htallied, hzero, hle⟩ := hready old hold
    obtain ⟨htallied, hresolved, hsum, -⟩ := issueItem_spec htallied hzero hle
    exact ⟨htallied, hresolved, hsum⟩
  have hsome : ∃ item ∈ p.2.items.rows.map (issueItem rejects), 0 < item.issued := by
    obtain ⟨old, hold, hpositive⟩ := hout
    obtain ⟨htallied, hzero, hle⟩ := hready old hold
    obtain ⟨-, -, -, hunits⟩ := issueItem_spec htallied hzero hle
    exact ⟨_, mem_map_of_mem hold, hunits ▸ hpositive⟩
  have hm := hlinked.books.of_books hbooks
  have hfree : Unlent m p.2.id := by
    unfold Unlent
    rw [hbooks.loans]
    exact hlinked.unlent
  have hstoredM : m.requests.get? p.2.id = some p.2 := hlinked.stored.of_books hbooks
  have hid : p.2.id = requestId := hlinked.id.trans (key_of_get? hget)
  rw [saveRequest_saveRequest _ (by rfl)]
  refine ⟨hm.save hfree rfl (inOrder_issued ?_ fun _ => hsome), ?_⟩
  · exact fun item hitem => ⟨(hissued item hitem).1, (hissued item hitem).2.1⟩
  · rw [← hid]
    refine ⟨_, get?_put_self hstoredM, ?_⟩
    exact ⟨rfl, fun item hitem => (hissued item hitem).2, hsome⟩

variable {p q : State × HardwareRequest} {entry : ResolutionEntry} {resolution : Resolution}
variable {entries : List ResolutionEntry} {resolutions : List Resolution} {payload : String}

/-- A part that touches requests and loans in one row only, which it hands on. -/
structure Rewritten (s : State) (request : HardwareRequest) (p : State × HardwareRequest) :
    Prop where
  id : p.2.id = request.id
  books : ∀ new : HardwareRequest, new.id = request.id →
    SameBooks (s.saveRequest new) (p.1.saveRequest new)

theorem Rewritten.refl (s : State) (request : HardwareRequest) :
    Rewritten s request (s, request) :=
  ⟨rfl, fun _ _ => SameBooks.refl _⟩

theorem Rewritten.trans
    (h : Rewritten s request p) (h' : Rewritten p.1 p.2 q) : Rewritten s request q where
  id := h'.id.trans h.id
  books new hid := (h.books new hid).trans (h'.books new (hid.trans h.id.symm))

theorem rewritten_save (hid : p.2.id = request.id) (hrequests : p.1.requests = s.requests.put p.2)
    (hloans : p.1.loans = s.loans) :
    Rewritten s request p where
  id := hid
  books new hnew := by
    refine ⟨?_, hloans⟩
    simp only [State.saveRequest, hrequests]
    exact put_put s.requests (show key p.2 = key new from hid.trans hnew.symm)

theorem resolvedCounts_nonneg {item : RequestItem} {returned damaged missing : Int}
    (hentry : 0 ≤ entry.returned ∧ 0 ≤ entry.damaged ∧ 0 ≤ entry.missing)
    (h : resolvedCounts s item entry = .ok (returned, damaged, missing)) :
    0 ≤ returned ∧ 0 ≤ damaged ∧ 0 ≤ missing := by
  unfold resolvedCounts at h
  split at h
  · unfold individualCounts at h
    split at h
    · simp only [bind_ok, pure_ok, Prod.mk.injEq] at h
      obtain ⟨-, -, rfl, rfl, rfl⟩ := h
      exact ⟨Int.natCast_nonneg _, Int.natCast_nonneg _, Int.natCast_nonneg _⟩
    · simp only [bind_ok, pure_ok, Prod.mk.injEq] at h
      obtain ⟨-, -, rfl, rfl, rfl⟩ := h
      exact hentry
  · simp at h
    obtain ⟨rfl, rfl, rfl⟩ := h
    exact hentry

structure Resolves (request : HardwareRequest) (resolution : Resolution) : Prop where
  item : resolution.item ∈ request.items
  returned : 0 ≤ resolution.returned
  damaged : 0 ≤ resolution.damaged
  missing : 0 ≤ resolution.missing
  quantity : resolution.quantity ≤ remainingQuantity resolution.item

theorem resolves_of_buildResolution (h : buildResolution s request entry = .ok resolution) :
    Resolves request resolution ∧ resolution.item.id = entry.itemId := by
  simp only [buildResolution, bind_ok, orRefuse_ok, require_ok, pure_ok, exists_const] at h
  obtain ⟨_, hget, hentry, ⟨_, _, _⟩, hcounts, hquantity, rfl⟩ := h
  obtain ⟨hreturned, hdamaged, hmissing⟩ := resolvedCounts_nonneg hentry hcounts
  exact ⟨⟨mem_of_get? hget, hreturned, hdamaged, hmissing, hquantity⟩, key_of_get? hget⟩

theorem resolves_of_buildResolutions (h : buildResolutions s request entries = .ok resolutions) :
    (∀ resolution ∈ resolutions, Resolves request resolution) ∧
      resolutions.map (fun resolution => resolution.item.id) = entries.map ResolutionEntry.itemId ∧
      ∃ resolution ∈ resolutions, 0 < resolution.quantity := by
  simp only [buildResolutions, bind_ok, require_ok, pure_ok, mapM_eq_ok, exists_const] at h
  obtain ⟨_, hvalidated, htotal, rfl⟩ := h
  refine ⟨?_, ?_, ?_⟩
  · clear htotal
    induction hvalidated with
    | nil => simp
    | cons hfirst _ ih =>
      exact forall_mem_cons.mpr ⟨(resolves_of_buildResolution hfirst).1, ih⟩
  · clear htotal
    induction hvalidated with
    | nil => rfl
    | cons hfirst _ ih =>
      rw [map_cons, map_cons, ih, (resolves_of_buildResolution hfirst).2]
  · refine exists_lt_of_sum_lt (fun _ => (0 : Int)) Resolution.quantity ?_
    simpa using Int.lt_of_lt_of_le Int.one_pos htotal

theorem tallied_resolveItem (h : Resolves request resolution) (htallied : Tallied resolution.item) :
    Tallied (resolveItem resolution) ∧
      (resolveItem resolution).resolved = resolution.item.resolved + resolution.quantity := by
  obtain ⟨-, hreturned, hdamaged, hmissing, hquantity⟩ := h
  obtain ⟨hr, hd, hm, _, hissued, haccepted⟩ := htallied
  have hsum : (resolveItem resolution).resolved =
      resolution.item.resolved + resolution.quantity := by
    simp only [RequestItem.resolved, resolveItem, Resolution.quantity]
    omega
  refine ⟨⟨Int.add_nonneg hr hreturned, Int.add_nonneg hd hdamaged, Int.add_nonneg hm hmissing,
    ?_, hissued, haccepted⟩, hsum⟩
  rw [hsum]
  simp only [remainingQuantity, RequestItem.resolved, resolveItem] at hquantity ⊢
  omega

theorem returnItems_spec (htallied : ∀ item ∈ request.items, Tallied item)
    (hresolves : ∀ resolution ∈ resolutions, Resolves request resolution)
    (hnodup : (resolutions.map fun resolution => resolution.item.id).Nodup)
    (hsome : ∃ resolution ∈ resolutions, 0 < resolution.quantity)
    (hstep : returnItems s request resolutions = .ok p) :
    Rewritten s request p ∧ (∀ item ∈ p.2.items, Tallied item) ∧
      ∃ item ∈ p.2.items, 0 < item.resolved := by
  simp [returnItems] at hstep
  obtain ⟨_, hpost, rfl⟩ := hstep
  have hbooks := sameBooks_post hpost
  refine ⟨rewritten_save rfl ?_ hbooks.loans, ?_, ?_⟩
  · rw [← hbooks.requests]
    rfl
  · intro item hitem
    rcases mem_of_mem_putAll hitem with hitem | ⟨hitem, -⟩
    · obtain ⟨resolution, hresolution, rfl⟩ := List.mem_map.mp hitem
      have hone := hresolves resolution (mem_filter.mp hresolution).1
      exact (tallied_resolveItem hone (htallied _ hone.item)).1
    · exact htallied item hitem
  · obtain ⟨resolution, hresolution, hpositive⟩ := hsome
    have hone := hresolves resolution hresolution
    have hitem := htallied _ hone.item
    have hwritten : resolveItem resolution ∈
        (resolutions.filter fun resolution => 0 < resolution.quantity).map resolveItem :=
      mem_map_of_mem (mem_filter.mpr ⟨hresolution, by simpa using hpositive⟩)
    have hkeys : (((resolutions.filter fun resolution => 0 < resolution.quantity).map
        resolveItem).map key).Nodup := by
      rw [List.map_map]
      exact hnodup.sublist (List.Sublist.map _ filter_sublist)
    have hold : (request.items.get? (key (resolveItem resolution))).isSome := by
      have hget := get?_key hone.item
      exact isSome_iff_exists.mpr ⟨_, hget⟩
    refine ⟨resolveItem resolution, ?_, ?_⟩
    · exact mem_of_get? (get?_putAll_of_mem hkeys hwritten hold)
    · rw [(tallied_resolveItem hone hitem).2]
      have hnonneg : 0 ≤ resolution.item.resolved :=
        Int.add_nonneg (Int.add_nonneg hitem.returned hitem.damaged) hitem.missing
      omega

theorem flipReturn_spec (hstep : flipReturn p resolution = .ok q) :
    Rewritten p.1 p.2 q ∧ q.2.makerspaceId = p.2.makerspaceId ∧
      q.2.items.rows.map RequestItem.unlinked = p.2.items.rows.map RequestItem.unlinked := by
  simp only [flipReturn] at hstep
  split at hstep
  · simp at hstep
    obtain ⟨_, -, _, -, item, hget, rfl⟩ := hstep
    refine ⟨rewritten_save rfl rfl rfl, rfl, map_put ?_⟩
    intro old hold
    have hkey := get?_key (mem_of_get? hget)
    obtain rfl : item = old := some.inj (hkey.symm.trans hold)
    rfl
  · rw [pure_ok] at hstep
    subst hstep
    exact ⟨Rewritten.refl _ _, rfl, rfl⟩

theorem flipReturns_spec (hstep : resolutions.foldlM flipReturn p = .ok q) :
    Rewritten p.1 p.2 q ∧
      q.2.items.rows.map RequestItem.unlinked = p.2.items.rows.map RequestItem.unlinked := by
  refine foldlM_preserves (I := fun q => Rewritten p.1 p.2 q ∧
    q.2.items.rows.map RequestItem.unlinked = p.2.items.rows.map RequestItem.unlinked)
    ?_ ⟨Rewritten.refl _ _, rfl⟩ hstep
  rintro _ _ _ - ⟨hm, hitems⟩ hturn
  obtain ⟨hflip, -, hsame⟩ := flipReturn_spec hturn
  exact ⟨hm.trans hflip, hsame.trans hitems⟩

theorem inOrder_resolved (htallied : ∀ item ∈ request.items, Tallied item)
    (hresolved : ∃ item ∈ request.items, 0 < item.resolved) :
    InOrder (finalizeReturnStatus request).status (finalizeReturnStatus request).items.rows := by
  refine inOrder_finalize htallied (fun _ => ?_) (.inl hresolved)
  obtain ⟨item, hitem, hpositive⟩ := hresolved
  exact ⟨item, hitem, hpositive.trans_le (htallied item hitem).resolved⟩

theorem finalizeReturnStatus_id (request : HardwareRequest) :
    (finalizeReturnStatus request).id = request.id :=
  (finalizeReturnStatus_handed request).1

theorem booksInOrder_return {requestId : Nat} (h : BooksInOrder s)
    (hstep : returnRequest s requestId boxCode entries = .ok t) :
    BooksInOrder t := by
  simp only [returnRequest, checkReturnEntries, requireReturnable, flipIndividualAssetReturns,
    State.lockedRequest, bind_ok, orRefuse_ok, require_ok, pure_ok,
    exists_const] at hstep
  obtain ⟨⟨hnodup, -, -⟩, locked, hget, ⟨hnone, _⟩, _, -, _, hbuild, _, hitems, q,
    hflips, rfl⟩ := hstep
  have hstored := stored_of_get? hget
  have horder := h.requests locked (mem_of_get? hget)
  obtain ⟨hresolves, hids, hsome⟩ := resolves_of_buildResolutions hbuild
  obtain ⟨hreturned, htallied, hresolved⟩ := returnItems_spec horder.tallied hresolves
    (hids ▸ hnodup) hsome hitems
  obtain ⟨hflipped, hsame⟩ := flipReturns_spec hflips
  have hwritten := hreturned.trans hflipped
  have hid : (finalizeReturnStatus q.2).id = locked.id :=
    (finalizeReturnStatus_id q.2).trans hwritten.id
  have hfinal : InOrder (finalizeReturnStatus q.2).status (finalizeReturnStatus q.2).items.rows :=
    inOrder_resolved ((forall_of_unlinked (fun _ => tallied_unlinked) hsame).mpr htallied)
      ((exists_of_unlinked (fun _ => Iff.rfl) hsame).mpr hresolved)
  have hsaved := h.save (h.unlent_of_makerspace hstored hnone) hid hfinal
  have hbooks := hwritten.books _ hid
  exact hsaved.of_books ⟨hbooks.requests, hbooks.loans⟩

theorem resolveDirectLoan_spec {loan : PublicToolLoan}
    (horder : InOrder request.status request.items.rows) (hstatus : request.status = .issued)
    (hnodup : (entries.map ResolutionEntry.itemId).Nodup)
    (hstep : resolveDirectLoan s loan request entries = .ok p) :
    Rewritten s request p ∧
      InOrder (finalizeReturnStatus p.2).status (finalizeReturnStatus p.2).items.rows := by
  simp only [resolveDirectLoan] at hstep
  split at hstep
  · simp only [bind_ok, pure_ok] at hstep
    obtain ⟨_, hbuild, -, -, q, hitems, m, hflips, rfl⟩ := hstep
    obtain ⟨hresolves, hids, hsome⟩ := resolves_of_buildResolutions hbuild
    obtain ⟨hreturned, htallied, hresolved⟩ := returnItems_spec horder.tallied hresolves
      (hids ▸ hnodup) hsome hitems
    have hbooks : SameBooks q.1 m :=
      sameBooks_foldlM (fun _ _ _ hturn => sameBooks_flipDirectLoanAssets hturn) hflips
    refine ⟨⟨hreturned.id, fun new hid => (hreturned.books new hid).trans ?_⟩,
      inOrder_resolved htallied hresolved⟩
    refine ⟨?_, hbooks.loans⟩
    simp [State.saveRequest, writeAccountability, hbooks.requests]
  · next hnone =>
      simp at hstep
      obtain ⟨-, -, rfl⟩ := hstep
      refine ⟨Rewritten.refl s request, inOrder_finalize horder.tallied
        (horder.handed (hstatus ▸ .inl (.inl rfl))) (.inr ?_)⟩
      intro item hitem
      have hremaining : ¬ 0 < remainingQuantity item := fun hpositive =>
        hnone ⟨item, hitem, hpositive⟩
      have htallied := (horder.tallied item hitem).resolved
      simp only [remainingQuantity, RequestItem.resolved] at hremaining htallied ⊢
      omega

theorem booksInOrder_returnDirectLoan {loanId : Nat} (h : BooksInOrder s)
    (hstep : returnDirectLoan s loanId payload entries = .ok t) :
    BooksInOrder t := by
  simp only [returnDirectLoan, State.lockedRequest, bind_ok, orRefuse_ok, require_ok,
    pure_ok, exists_const] at hstep
  obtain ⟨hnodup, loan, hloan, -, hout, _, -, request, hget, p, hresolve, rfl⟩ := hstep
  have hmem := mem_of_get? hloan
  obtain ⟨_, hbacking, -, hstatus⟩ := h.loans loan hmem hout
  obtain rfl := some.inj (hget.symm.trans hbacking)
  have horder := h.requests request (mem_of_get? hget)
  obtain ⟨hwritten, hfinal⟩ := resolveDirectLoan_spec horder hstatus hnodup hresolve
  have hid : (finalizeReturnStatus p.2).id = request.id :=
    (finalizeReturnStatus_id p.2).trans hwritten.id
  have hbooks := hwritten.books _ hid
  refine h.close _ hmem (hid.trans (key_of_get? hget)) hfinal hbooks.requests ?_
  have hloans : p.1.loans = s.loans := hbooks.loans
  simp [State.saveLoan, State.saveRequest, hloans]

theorem returnedItems_spec (htallied : ∀ item ∈ request.items, Tallied item)
    (hledger : ∀ item ∈ request.items.rows, 0 < item.issued ∧ item.returned = 0 ∧
      item.damaged = 0 ∧ item.missing = 0) (hstep : returnRequestItems s request = .ok p) :
    Rewritten s request p ∧ InOrder .returned p.2.items.rows := by
  simp only [returnRequestItems, bind_ok, pure_ok] at hstep
  obtain ⟨_, hpost, rfl⟩ := hstep
  have hbooks := sameBooks_post hpost
  refine ⟨rewritten_save rfl ?_ hbooks.loans, inOrder_returned ?_⟩
  · rw [← hbooks.requests]
    rfl
  intro item hitem
  rcases mem_of_mem_putAll hitem with hitem | ⟨hitem, hkey⟩
  · obtain ⟨old, hold, rfl⟩ := List.mem_map.mp hitem
    have hmem := (mem_filter.mp hold).1
    obtain ⟨hissued, _, hdamaged, hmissing⟩ := hledger old hmem
    obtain ⟨-, -, -, -, hle, hrequested⟩ := htallied old hmem
    have hall : old.returned + (old.issued - old.returned) = old.issued := by omega
    refine ⟨⟨?_, hdamaged.ge, hmissing.ge, ?_, hle, hrequested⟩, hissued, hall, hdamaged, hmissing⟩
    · exact hissued.le.trans_eq hall.symm
    · simp only [RequestItem.resolved]
      omega
  · obtain ⟨_, _, -, -⟩ := hledger item hitem
    refine absurd ?_ hkey
    rw [List.map_map]
    refine List.mem_map.mpr ⟨item, mem_filter.mpr ⟨hitem, ?_⟩, rfl⟩
    simp only [decide_eq_true_eq]
    omega

theorem booksInOrder_returnTool {reportId : Option Nat}
    (h : BooksInOrder s) (hstep : returnTool s makerspaceId requesterId payload reportId = .ok t) :
    BooksInOrder t := by
  simp only [returnTool, requirePublicReturnLedger, State.lockedRequest, bind_ok,
    orRefuse_ok, require_ok, exists_const] at hstep
  obtain ⟨_, -, _, hfind, -, request, hget, ⟨-, -, -, -, hledger⟩, _, -, p, hitems,
    hreport⟩ := hstep
  have horder := h.requests request (mem_of_get? hget)
  obtain ⟨hwritten, hreturned⟩ := returnedItems_spec horder.tallied (fun item hitem => by
    obtain ⟨hissued, -, -, hnone, hdamaged, hmissing, -⟩ := hledger item hitem
    exact ⟨hissued, hnone, hdamaged, hmissing⟩) hitems
  have hbooks := hwritten.books { p.2 with status := .returned } hwritten.id
  have hreported := sameBooks_reportProblem hreport
  have hloans : p.1.loans = s.loans := hbooks.loans
  refine h.close { p.2 with status := .returned } (List.mem_of_find?_eq_some hfind)
    (hwritten.id.trans (key_of_get? hget)) hreturned
    (hreported.requests.trans hbooks.requests) (hreported.loans.trans ?_)
  simp [State.saveRequest, State.saveLoan, State.saveStatuses, hloans]

variable {productId : Nat} {quantity : Int} {handout handout' : Handout} {ids : CheckoutIds}

/-- Every product of a handout is taken at least once. -/
def Handout.positive (handout : Handout) : Prop :=
  ∀ entry ∈ handout.quantities, 0 < entry.2

theorem positive_addCount {quantities : List (Nat × Int)}
    (h : ∀ entry ∈ quantities, 0 < entry.2) (hquantity : 0 < quantity) :
    ∀ entry ∈ addCount quantities productId quantity, 0 < entry.2 := by
  induction quantities with
  | nil =>
    intro entry hentry
    obtain rfl := mem_singleton.mp hentry
    exact hquantity
  | cons _ _ ih =>
    obtain ⟨hfirst, hrest⟩ := forall_mem_cons.mp h
    rw [addCount]
    split
    · exact forall_mem_cons.mpr ⟨Int.add_pos hfirst hquantity, hrest⟩
    · exact forall_mem_cons.mpr ⟨hfirst, ih hrest⟩

theorem positive_issue (h : handout.positive) (hquantity : 0 < quantity)
    (hstep : handout.issue productId quantity = .ok handout') :
    handout'.positive := by
  simp [Handout.issue] at hstep
  obtain ⟨_, -, rfl⟩ := hstep
  exact positive_addCount h hquantity

theorem positive_checkoutTarget {requirePublic : Bool} {qr : QrCode} (h : handout.positive)
    (hstep : checkoutTarget requirePublic handout qr = .ok handout') :
    handout'.positive := by
  simp only [checkoutTarget] at hstep
  split at hstep
  · simp only [checkoutProduct, bind_ok] at hstep
    obtain ⟨_, -, -, -, hissue⟩ := hstep
    exact positive_issue h Int.one_pos hissue
  · simp [checkoutAsset] at hstep
    obtain ⟨_, -, _, hissue, rfl⟩ := hstep
    have hissued := positive_issue h Int.one_pos hissue
    exact hissued
  · simp only [checkoutBox, bind_ok, pure_ok] at hstep
    obtain ⟨_, -, -, -, -, -, -, -, -, -, -, -, issued, hissue, _, -, rfl⟩ := hstep
    have hissued : issued.positive :=
      foldlM_preserves (fun _ _ _ _ hm hturn => positive_issue hm Int.one_pos hturn) h hissue
    exact hissued

theorem booksInOrder_recordHandout {qrs : List QrCode} {source : LoanSource}
    {conflict : String → Refusal}
    (h : BooksInOrder s) (hbooks : SameBooks s handout.state) (hpositive : handout.positive)
    (hstep : recordHandout handout ids qrs source conflict = .ok t) :
    BooksInOrder t := by
  simp only [recordHandout, createLoan, bind_ok, require_ok, pure_ok,
    insertNew_ok, exists_const] at hstep
  obtain ⟨requests, ⟨hrequest, rfl⟩, hunique, -, -, _, ⟨hloan, rfl⟩, rfl⟩ := hstep
  have hitems : InOrder .issued (issuedRequest ids.requestId ids.makerspaceId ids.requesterId
      ids.issuedBy ids.now handout.quantities).items.rows := by
    have htallied : ∀ item ∈ (issuedRequest ids.requestId ids.makerspaceId ids.requesterId
        ids.issuedBy ids.now handout.quantities).items.rows,
        (Tallied item ∧ item.resolved = 0) ∧ 0 < item.issued := by
      intro item hitem
      obtain ⟨entry, hentry, _, rfl⟩ := mem_enumerate hitem
      have hissued := hpositive entry hentry
      exact ⟨⟨⟨le_refl _, le_refl _, le_refl _, hissued.le, le_refl _, le_refl _⟩, rfl⟩, hissued⟩
    refine inOrder_issued (fun item hitem => (htallied item hitem).1) fun hne => ?_
    obtain ⟨item, hitem⟩ := exists_mem_of_ne_nil _ hne
    exact ⟨item, hitem, (htallied item hitem).2⟩
  have hadded : BooksInOrder { handout.state with
      requests := handout.state.requests.insert _ hrequest } :=
    (h.of_books hbooks).insert hrequest hitems rfl rfl
  have hget := (get?_insert hrequest ids.requestId).trans (if_pos rfl)
  exact hadded.lend hloan hget rfl rfl hunique rfl rfl

theorem booksInOrder_checkoutTool (h : BooksInOrder s)
    (hstep : checkoutTool s ids payloads = .ok t) :
    BooksInOrder t := by
  simp only [checkoutTool, bind_ok] at hstep
  obtain ⟨-, -, _, -, -, -, -, -, -, -, handout, hloop, hrecord⟩ := hstep
  have hgathered : SameBooks s handout.state ∧ handout.positive := by
    refine foldlM_preserves (I := fun next : Handout => SameBooks s next.state ∧ next.positive)
      ?_ ⟨SameBooks.refl s, fun _ hentry => absurd hentry not_mem_nil⟩ hloop
    rintro _ _ _ - ⟨hm, hpositive⟩ hturn
    exact ⟨hm.trans (sameBooks_checkoutTarget hturn), positive_checkoutTarget hpositive hturn⟩
  exact booksInOrder_recordHandout h hgathered.1 hgathered.2 hrecord

theorem booksInOrder_issueDirectLoan {items : List (Nat × Int)} {containerId : Option Nat}
    (h : BooksInOrder s) (hstep : issueDirectLoan s ids payloads items containerId = .ok t) :
    BooksInOrder t := by
  simp only [issueDirectLoan, bind_ok, require_ok, exists_const] at hstep
  obtain ⟨hquantities, -, _, -, _, -, -, _, -, scanned, hscans, handout, hitems,
    hrecord⟩ := hstep
  have hscanned : SameBooks s scanned.state ∧ scanned.positive := by
    refine foldlM_preserves (I := fun next : Handout => SameBooks s next.state ∧ next.positive)
      ?_ ⟨SameBooks.refl s, fun _ hentry => absurd hentry not_mem_nil⟩ hscans
    rintro _ _ _ - ⟨hm, hpositive⟩ hturn
    simp only [directTarget, bind_ok] at hturn
    obtain ⟨-, -, -, -, hturn⟩ := hturn
    exact ⟨hm.trans (sameBooks_checkoutTarget hturn), positive_checkoutTarget hpositive hturn⟩
  have hgathered : SameBooks s handout.state ∧ handout.positive := by
    refine foldlM_preserves (I := fun next : Handout => SameBooks s next.state ∧ next.positive)
      ?_ hscanned hitems
    rintro _ item _ hitem ⟨hm, hpositive⟩ hturn
    simp [directItem] at hturn
    obtain ⟨_, -, hturn⟩ := hturn
    exact ⟨hm.trans (sameBooks_handoutIssue hturn),
      positive_issue hpositive (hquantities item hitem) hturn⟩
  exact booksInOrder_recordHandout h hgathered.1 hgathered.2 hrecord

theorem booksInOrder_step : Preserves step BooksInOrder := by
  intro s op t h hstep
  cases op with
  | submit => exact booksInOrder_submit h hstep
  | accept => exact booksInOrder_accept h hstep
  | reject => exact booksInOrder_reject h hstep
  | assignBox => exact booksInOrder_assignBox h hstep
  | cancel => exact booksInOrder_cancel h hstep
  | issue => exact (issueRequest_spec h hstep).1
  | returnItems => exact booksInOrder_return h hstep
  | checkoutTool => exact booksInOrder_checkoutTool h hstep
  | returnTool => exact booksInOrder_returnTool h hstep
  | issueDirectLoan => exact booksInOrder_issueDirectLoan h hstep
  | returnDirectLoan => exact booksInOrder_returnDirectLoan h hstep
  | triage => exact h.of_books (sameBooks_triage hstep)
  | adjust =>
    exact h.of_books (sameBooks_adjust hstep)
  | repairFromNeedsFix | moveToNeedsFix | scrapFromNeedsFix =>
    exact h.of_books (sameBooks_post hstep)
  | assetFix => exact h.of_books (sameBooks_assetFix hstep)
  | changeTrackingMode =>
    exact h.of_books (sameBooks_changeTrackingMode hstep)
  | generateAssets =>
    exact h.of_books (sameBooks_generateAssets hstep)
  | transfer =>
    exact h.of_books (sameBooks_transfer hstep)
  | stocktake => exact h.of_books (sameBooks_stocktake hstep)
  | rebindQr => exact h.of_books (sameBooks_rebindQr hstep)
  | rebindAsset =>
    exact h.of_books (sameBooks_rebindAsset hstep)

def Unopened (s : State) : Prop :=
  s.requests = ∅ ∧ s.loans = ∅

theorem booksInOrder_reach (h : Reach step Unopened s) : BooksInOrder s := by
  refine Reach.induct ?_ booksInOrder_step h
  rintro _ ⟨hrequests, hloans⟩
  refine ⟨?_, ?_, ?_⟩
  · rw [hrequests]
    exact fun _ hrequest => absurd hrequest (notMem_empty _)
  · rw [hloans]
    exact fun _ hloan => absurd hloan (notMem_empty _)
  · rw [hloans]
    exact fun _ hloan => absurd hloan (notMem_empty _)

/-- Some units were issued, and all are accounted for. -/
def HardwareRequest.settled (request : HardwareRequest) : Prop :=
  (∃ item ∈ request.items, 0 < item.issued) ∧ ∀ item ∈ request.items, item.resolved = item.issued

theorem InOrder.settled_iff
    (h : InOrder request.status request.items.rows) (hne : request.items.rows ≠ []) :
    request.status = .returned ∨ request.status = .closedWithIssue ↔ request.settled := by
  constructor
  · intro hclosed
    exact ⟨h.handed (.inr hclosed) hne, h.closed hclosed⟩
  · rintro ⟨⟨item, hitem, hissued⟩, hall⟩
    by_contra hopen
    by_cases hover : request.status.handedOver
    · obtain (hstatus | hstatus) | hclosed := hover
      · have hzero := h.untouched hstatus item hitem
        have hresolved := hall item hitem
        omega
      · obtain ⟨-, other, hother, hne⟩ := h.partly hstatus
        exact hne (hall other hother)
      · exact hopen hclosed
    · exact absurd (h.kept hover item hitem) hissued.ne'

theorem InOrder.closedWithIssue_iff
    (h : InOrder request.status request.items.rows) (hne : request.items.rows ≠ []) :
    request.status = .closedWithIssue ↔ request.settled ∧
      ∃ item ∈ request.items, 0 < item.damaged ∨ 0 < item.missing := by
  constructor
  · intro hstatus
    exact ⟨(h.settled_iff hne).mp (.inr hstatus), h.issue hstatus⟩
  · rintro ⟨hsettled, item, hitem, _⟩
    rcases (h.settled_iff hne).mpr hsettled with hstatus | hstatus
    · obtain ⟨_, _⟩ := h.sound hstatus item hitem
      omega
    · exact hstatus

theorem InOrder.partiallyReturned_iff (h : InOrder request.status request.items.rows) :
    request.status = .partiallyReturned ↔ (∃ item ∈ request.items, 0 < item.resolved) ∧
      ∃ item ∈ request.items, item.resolved < item.issued := by
  constructor
  · intro hstatus
    obtain ⟨hsome, item, hitem, hne⟩ := h.partly hstatus
    exact ⟨hsome, item, hitem, lt_of_le_of_ne (h.tallied item hitem).resolved hne⟩
  · rintro ⟨⟨item, hitem, hresolved⟩, other, hother, hopen⟩
    have hle := (h.tallied item hitem).resolved
    by_contra hstatus
    by_cases hover : request.status.handedOver
    · obtain (hissued | hpart) | hclosed := hover
      · exact absurd (h.untouched hissued item hitem) hresolved.ne'
      · exact hstatus hpart
      · exact absurd (h.closed hclosed other hother) hopen.ne
    · have hzero := h.kept hover item hitem
      omega

/-- Counters of items are ordered, the status is what they say, and an issue hands out the accepted
units that are not broken, at least one. -/
theorem request_lifecycle {s : State} {request : HardwareRequest} (hreach : Reach step Unopened s)
    (hrequest : request ∈ s.requests) :
    (∀ item ∈ request.items, 0 ≤ item.returned ∧ 0 ≤ item.damaged ∧ 0 ≤ item.missing ∧
      item.returned + item.damaged + item.missing ≤ item.issued ∧
      item.issued ≤ item.accepted ∧ item.accepted ≤ item.requested) ∧
    (request.items.rows ≠ [] →
      (request.status = .returned ∨ request.status = .closedWithIssue ↔ request.settled) ∧
      (request.status = .closedWithIssue ↔ request.settled ∧
        ∃ item ∈ request.items, 0 < item.damaged ∨ 0 < item.missing)) ∧
    (request.status = .partiallyReturned ↔ (∃ item ∈ request.items, 0 < item.resolved) ∧
      ∃ item ∈ request.items, item.resolved < item.issued) ∧
    ∀ (actorId : Nat) (now : Int) (payloads : List String) (rejects : List Reject) (t : State),
      issueRequest s request.id actorId now payloads rejects = .ok t →
      ∃ issued, t.requests.get? request.id = some issued ∧
        (∀ item ∈ issued.items, item.issued + (rejectOf rejects item.id).1 = item.accepted) ∧
        ∃ item ∈ issued.items, 0 < item.issued - item.resolved := by
  have hbooks := booksInOrder_reach hreach
  have horder := hbooks.requests request hrequest
  refine ⟨fun item hitem => ?_, fun hne => ⟨horder.settled_iff hne,
    horder.closedWithIssue_iff hne⟩, horder.partiallyReturned_iff, ?_⟩
  · obtain ⟨hreturned, hdamaged, hmissing, hresolved, hissued, haccepted⟩ :=
      horder.tallied item hitem
    exact ⟨hreturned, hdamaged, hmissing, hresolved, hissued, haccepted⟩
  · intro actorId now payloads rejects t hissue
    obtain ⟨-, issued, hget, -, hitems, item, hitem, _⟩ := issueRequest_spec hbooks hissue
    refine ⟨issued, hget, fun item hitem => (hitems item hitem).2, item, hitem, ?_⟩
    rw [(hitems item hitem).1]
    omega

def drillStore : State where
  products := ⟨[{ id := 7
                  makerspaceId := 1
                  name := "drill"
                  quantities := Quantities.gain .available 2 + Quantities.gain .total 2 }],
    nodup_singleton _⟩

/-- Both drills are requested and handed over, and one comes back. -/
def drillLoan : List Operation :=
  [.submit 5 1 9 [(7, 2)], .accept 5 none, .issue 5 3 100 [] [],
    .returnItems 5 "" [{ itemId := 0, returned := 1 }]]

def drillRequest : HardwareRequest where
  id := 5
  makerspaceId := 1
  requesterId := 9
  status := .partiallyReturned
  items := ⟨[{ id := 0
               productId := 7
               requested := 2
               accepted := 2
               issued := 2
               returned := 1 }], nodup_singleton _⟩
  issuedBy := some 3
  issuedAt := some 100

theorem drillRequest_lifecycle :
    drillRequest ∈ (run step drillStore drillLoan).requests ∧
      (drillRequest.status = .partiallyReturned ↔ (∃ item ∈ drillRequest.items, 0 < item.resolved) ∧
          ∃ item ∈ drillRequest.items, item.resolved < item.issued) := by
  have hmem : drillRequest ∈ (run step drillStore drillLoan).requests :=
    mem_of_get? (show (run step drillStore drillLoan).requests.get? 5 = some drillRequest from rfl)
  exact ⟨hmem, (request_lifecycle ⟨drillStore, drillLoan, ⟨rfl, rfl⟩, rfl⟩ hmem).2.2.1⟩

end Lending
end SpaceWorks
