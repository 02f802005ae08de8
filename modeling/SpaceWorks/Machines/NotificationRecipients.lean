import SpaceWorks.Machines.Access

/-!
# Who an alert of a makerspace is sent to

`apps/integrations/recipients_resolution.py`: covering rows are kept, one is responsible for each
membership, and the machine reach of a role narrows what a role row brings in.  A role row can so
take a person away from the row that names that person.
-/

namespace SpaceWorks
namespace NotificationRecipients

open Accounts Table MachineAccess List

inductive NotificationRecipientKind
  | role (roleId : Nat)
  | requester
  | members
  | user (userId : Nat)
  deriving DecidableEq

/-- A row of one makerspace, feature and event, with its scope links. -/
structure NotificationRecipient where
  kind : NotificationRecipientKind
  machineIds : List Nat := []
  typeIds : List Nat := []
  categoryIds : List Nat := []

structure NotificationScope where
  machineId : Option Nat := none
  machineTypeId : Option Nat := none
  categoryId : Option Nat := none

/-- A membership with its user and its opt-out. -/
structure Member extends MakerspaceMembership where
  id : Nat
  account : Actor
  receivesNotifications : Bool := true

instance : Keyed Member Nat := ⟨Member.id⟩

variable (g : Graph) (members : Table Member) (makerspaceId : Nat)

variable {p : NotificationRecipient → Bool} {row : NotificationRecipient}

variable (rows : List NotificationRecipient) (scope : Option NotificationScope)
variable (membership : Member)

def ruleCovers (row : NotificationRecipient) : Bool :=
  if row.machineIds = [] ∧ row.typeIds = [] ∧ row.categoryIds = [] then true
  else
    match scope with
    | none => false
    | some scope =>
      scope.machineId.any (· ∈ row.machineIds) ∨ scope.machineTypeId.any (· ∈ row.typeIds) ∨
          scope.categoryId.any (· ∈ row.categoryIds)

def eligibleMemberships : List Member :=
  members.rows.filter fun membership =>
    membership.makerspaceId = makerspaceId ∧ membership.status = .active ∧
      membership.receivesNotifications ∧ membership.account.isActive ∧
        membership.account.accessStatus = .active ∧ membership.account.user.isSuperuser = false ∧
            membership.account.user.role ≠ .superadmin

/-- Whether a resolved machine reach admits the subject. -/
def reachAdmits (resolved : ManageScope) : Bool :=
  match scope.bind NotificationScope.machineId with
  | none => true
  | some machineId =>
    match resolved with
    | .exempt => true
    | .links typeIds machineIds =>
      machineId ∈ machineIds ∨ (scope.bind NotificationScope.machineTypeId).any (· ∈ typeIds)

def roleScopeAdmits (membershipScopes : List (Nat × ManageScope)) : Bool :=
  reachAdmits scope ((membershipScopes.lookup membership.id).getD .nothing)

def manageScopesForMemberships (memberships : List Member) : List (Nat × ManageScope) :=
  memberships.map fun membership =>
    (membership.id, scopeForMembership g membership.toMakerspaceMembership)

/-- The first row for all, else the last of `role_rows` or `user_rows`. -/
def responsibleRow : Option NotificationRecipient :=
  let roleRow := membership.assignedRoleId.bind fun roleId =>
    rows.reverse.find? (·.kind = .role roleId)
  let userRow := rows.reverse.find? (·.kind = .user membership.userId)
  (rows.find? (·.kind = .members)).or (roleRow.or userRow)

/-- The comparison `row.kind == NotificationRecipientKind.ROLE`. -/
def NotificationRecipient.isRole (row : NotificationRecipient) : Bool :=
  match row.kind with
  | .role _ => true
  | _ => false

def selectedMemberships : List Member :=
  let rows := rows.filter (ruleCovers scope)
  let candidates := (eligibleMemberships members makerspaceId).filterMap fun membership =>
    (responsibleRow rows membership).map (membership, ·)
  let roleSelected := (candidates.filter (·.2.isRole)).map Prod.fst
  let membershipScopes := manageScopesForMemberships g roleSelected
  (candidates.filter fun (membership, row) =>
    row.isRole = false ∨ roleScopeAdmits scope membership membershipScopes).map Prod.fst

variable {g : Graph} {members : Table Member} {makerspaceId : Nat}
variable {rows : List NotificationRecipient} {scope : Option NotificationScope}
variable {membership : Member}

/-- The machine reach of the role of a membership admits the subject. -/
def reaches (g : Graph) (scope : Option NotificationScope) (membership : Member) : Bool :=
  reachAdmits scope (scopeForMembership g membership.toMakerspaceMembership)

def forAll (rows : List NotificationRecipient) : Bool :=
  rows.any (·.kind = .members)

def forRole (rows : List NotificationRecipient) (membership : Member) : Bool :=
  membership.assignedRoleId.any fun roleId => rows.any (·.kind = .role roleId)

/-- A row that names the person of a membership. -/
def forUser (rows : List NotificationRecipient) (membership : Member) : Bool :=
  rows.any (·.kind = .user membership.userId)

def admits (g : Graph) (scope : Option NotificationScope) (membership : Member)
    (row : NotificationRecipient) : Bool :=
  match row.kind with
  | .members => true
  | .user userId => membership.userId = userId
  | .role roleId => membership.assignedRoleId = some roleId ∧ reaches g scope membership
  | .requester => false

theorem any_of_find_reverse
    (h : rows.reverse.find? p = none) : rows.any p = false := by
  rw [any_eq_false]
  exact fun row hrow => find?_eq_none.mp h row (mem_reverse.mpr hrow)

theorem any_of_find_reverse_some
    (h : rows.reverse.find? p = some row) : rows.any p = true :=
  any_eq_true.mpr ⟨row, mem_reverse.mp (mem_of_find?_eq_some h), find?_some h⟩

/-- A row for the role comes before one that names the person. -/
theorem responsibleRow_iff :
    (∃ row, responsibleRow rows membership = some row ∧
        (row.isRole = false ∨ reaches g scope membership)) ↔
      forAll rows ∨ (if forRole rows membership then reaches g scope membership
        else forUser rows membership) := by
  unfold responsibleRow forAll forRole forUser NotificationRecipient.isRole
  cases hall : rows.find? (·.kind = .members) with
  | some row =>
    have hkind : row.kind = .members := by simpa using find?_some hall
    have hany : rows.any (·.kind = .members) = true :=
      any_eq_true.mpr ⟨row, mem_of_find?_eq_some hall, by simpa using hkind⟩
    simp [hany, hkind]
  | none =>
    have hany : rows.any (·.kind = .members) = false := by
      rw [any_eq_false]
      exact find?_eq_none.mp hall
    simp only [hany, Option.none_or, Bool.false_eq_true, false_or]
    cases hrole : membership.assignedRoleId.bind fun roleId =>
        rows.reverse.find? (·.kind = .role roleId) with
    | some row =>
      obtain ⟨roleId, hid, hfind⟩ := Option.bind_eq_some_iff.mp hrole
      have hkind : row.kind = .role roleId := by simpa using find?_some hfind
      simp [hid, any_of_find_reverse_some hfind, hkind]
    | none =>
      have hno : (membership.assignedRoleId.any fun roleId =>
          rows.any (·.kind = .role roleId)) = false := by
        cases hid : membership.assignedRoleId with
        | none => rfl
        | some =>
          rw [hid] at hrole
          exact any_of_find_reverse hrole
      simp only [hno, Option.none_or, Bool.false_eq_true, if_false]
      cases huser : rows.reverse.find? (·.kind = .user membership.userId) with
      | some row =>
        have hkind : row.kind = .user membership.userId := by simpa using find?_some huser
        simp [any_of_find_reverse_some huser, hkind]
      | none => simp [any_of_find_reverse huser]

theorem admits_iff :
    (∃ row ∈ rows, admits g scope membership row) ↔
      forAll rows ∨ (forRole rows membership ∧ reaches g scope membership) ∨
        forUser rows membership := by
  constructor
  · rintro ⟨row, hrow, hadmits⟩
    unfold admits at hadmits
    split at hadmits
    · next hkind => exact .inl (any_eq_true.mpr ⟨row, hrow, by simpa using hkind⟩)
    · next userId hkind =>
        have huser : membership.userId = userId := by simpa using hadmits
        exact .inr (.inr (any_eq_true.mpr ⟨row, hrow, by simpa [huser] using hkind⟩))
    · next roleId hkind =>
        obtain ⟨hid, hreach⟩ := of_decide_eq_true hadmits
        refine .inr (.inl ⟨?_, hreach⟩)
        rw [forRole, hid]
        exact any_eq_true.mpr ⟨row, hrow, by simpa using hkind⟩
    · cases hadmits
  · rintro (h | ⟨h, hreach⟩ | h)
    · obtain ⟨row, hrow, hkind⟩ := any_eq_true.mp h
      exact ⟨row, hrow, by simp [admits, of_decide_eq_true hkind]⟩
    · obtain ⟨_, hid, h⟩ := (Option.any_eq_true _ _).mp h
      obtain ⟨row, hrow, hkind⟩ := any_eq_true.mp h
      exact ⟨row, hrow, by simp [admits, of_decide_eq_true hkind, hid, hreach]⟩
    · obtain ⟨row, hrow, hkind⟩ := any_eq_true.mp h
      exact ⟨row, hrow, by simp [admits, of_decide_eq_true hkind]⟩

/-- A membership is resolved to its own role's machines. -/
theorem lookup_manageScopesForMemberships {memberships : List Member}
    (hsub : ∀ other ∈ memberships, other ∈ members) (hmem : membership ∈ memberships) :
    (manageScopesForMemberships g memberships).lookup membership.id =
      some (scopeForMembership g membership.toMakerspaceMembership) := by
  refine lookup_eq_some_of_forall
    (mem_map.mpr ⟨_, mem_map.mpr ⟨membership, hmem, rfl⟩, rfl⟩) fun entry hentry hid => ?_
  obtain ⟨other, hother, rfl⟩ := mem_map.mp hentry
  rw [eq_of_key_eq (hsub other hother) (hsub membership hmem) hid]

/-- Resolving all roles' machines at once changes nothing. -/
theorem roleScopeAdmits_iff {candidates : List (Member × NotificationRecipient)}
    (hsub : ∀ pair ∈ candidates, pair.1 ∈ members)
    (hmem : (membership, row) ∈ candidates) :
    (row.isRole = false ∨ roleScopeAdmits scope membership (manageScopesForMemberships g
        ((candidates.filter (·.2.isRole)).map Prod.fst))) ↔
      (row.isRole = false ∨ reaches g scope membership) := by
  refine or_congr_right' fun hrole => ?_
  have hin : membership ∈ (candidates.filter (·.2.isRole)).map Prod.fst :=
    mem_map.mpr ⟨_, mem_filter.mpr ⟨hmem, by simpa using hrole⟩, rfl⟩
  have hmembers : ∀ other ∈ (candidates.filter (·.2.isRole)).map Prod.fst, other ∈ members := by
    intro other hother
    obtain ⟨pair, hpair, rfl⟩ := mem_map.mp hother
    exact hsub pair (mem_filter.mp hpair).1
  rw [roleScopeAdmits, lookup_manageScopesForMemberships hmembers hin]
  rfl

theorem mem_selectedMemberships :
    membership ∈ selectedMemberships g members makerspaceId rows scope ↔
      membership ∈ eligibleMemberships members makerspaceId ∧
        ∃ row, responsibleRow (rows.filter (ruleCovers scope)) membership = some row ∧
          (row.isRole = false ∨ reaches g scope membership) := by
  have hcandidate : ∀ pair, pair ∈ (eligibleMemberships members makerspaceId).filterMap
      (fun membership => (responsibleRow (rows.filter (ruleCovers scope)) membership).map
        (membership, ·)) ↔ pair.1 ∈ eligibleMemberships members makerspaceId ∧
          responsibleRow (rows.filter (ruleCovers scope)) pair.1 = some pair.2 := by
    rintro ⟨other, _⟩
    rw [mem_filterMap]
    constructor
    · rintro ⟨_, hother, hrow⟩
      obtain ⟨_, hrow, heq⟩ := Option.map_eq_some_iff.mp hrow
      cases heq
      exact ⟨hother, hrow⟩
    · rintro ⟨hother, hrow⟩
      exact ⟨other, hother, congrArg _ hrow⟩
  have hsub := fun pair hpair => (mem_filter.mp ((hcandidate pair).mp hpair).1).1
  constructor
  · intro h
    obtain ⟨⟨_, row⟩, hpair, rfl⟩ := mem_map.mp h
    obtain ⟨hmem, hadmits⟩ := mem_filter.mp hpair
    obtain ⟨heligible, hrow⟩ := (hcandidate _).mp hmem
    exact ⟨heligible, row, hrow, (roleScopeAdmits_iff hsub hmem).mp (of_decide_eq_true hadmits)⟩
  · rintro ⟨heligible, row, hrow, hadmits⟩
    have hmem := (hcandidate (membership, row)).mpr ⟨heligible, hrow⟩
    exact mem_map.mpr ⟨_, mem_filter.mpr
      ⟨hmem, decide_eq_true ((roleScopeAdmits_iff hsub hmem).mpr hadmits)⟩, rfl⟩

variable (g : Graph) (members : Table Member) (makerspaceId : Nat)
variable (rows : List NotificationRecipient) (scope : Option NotificationScope)

/-- The selected are the eligible that a covering row names and admits. -/
def NeverSuppresses : Prop :=
  ∀ membership, membership ∈ selectedMemberships g members makerspaceId rows scope ↔
    membership ∈ eligibleMemberships members makerspaceId ∧
      ∃ row ∈ rows, ruleCovers scope row ∧ admits g scope membership row

/-- A role's row that does not reach the subject stands before the person's, and none is for all. -/
def Shadowed (membership : Member) : Prop :=
  let covering := rows.filter (ruleCovers scope)
  forAll covering = false ∧ forRole covering membership ∧ reaches g scope membership = false ∧
    forUser covering membership

theorem neverSuppresses_iff :
    NeverSuppresses g members makerspaceId rows scope ↔
      ∀ membership ∈ eligibleMemberships members makerspaceId,
        ¬ Shadowed g rows scope membership := by
  refine forall_congr' fun membership => ?_
  have hspec : (∃ row ∈ rows, ruleCovers scope row ∧ admits g scope membership row) ↔
      ∃ row ∈ rows.filter (ruleCovers scope), admits g scope membership row := by
    simp [and_assoc]
  rw [mem_selectedMemberships, hspec, responsibleRow_iff, admits_iff, Shadowed]
  cases forAll (rows.filter (ruleCovers scope)) <;>
    cases forRole (rows.filter (ruleCovers scope)) membership <;>
      cases reaches g scope membership <;>
        cases forUser (rows.filter (ruleCovers scope)) membership <;> simp

def lab : Graph where
  roles := ⟨[{ id := 2, makerspaceId := 1, name := "Makers", slug := "makers" }], by decide⟩

/-- Ticking the member's role as well drops the member. -/
theorem named_member_suppressed :
    let member : Member :=
      { id := 9, makerspaceId := 1, userId := 7, role := .custom, assignedRoleId := some 2,
        account := { user := { id := 7 } } }
    let members : Table Member := ⟨[member], by decide⟩
    let scope : NotificationScope := { machineId := some 4, machineTypeId := some 3 }
    (selectedMemberships lab members 1 [{ kind := .user 7 }] (some scope)).map Member.id = [9] ∧
      selectedMemberships lab members 1 [{ kind := .user 7 }, { kind := .role 2 }]
        (some scope) = [] ∧
      ¬ NeverSuppresses lab members 1 [{ kind := .user 7 }, { kind := .role 2 }]
        (some scope) := by
  intro member members scope
  have hnone : selectedMemberships lab members 1 [{ kind := .user 7 }, { kind := .role 2 }]
      (some scope) = [] := by
    decide +kernel
  refine ⟨by decide +kernel, hnone, fun h => ?_⟩
  have hmem := (h member).mpr ⟨.head _, { kind := .user 7 }, .head _, rfl, rfl⟩
  cases hmem

end NotificationRecipients
end SpaceWorks
