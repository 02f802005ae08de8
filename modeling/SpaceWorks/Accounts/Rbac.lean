import SpaceWorks.Accounts.Actions

/-!
# The authority of an actor in a makerspace

The readings of one authority in `apps/accounts/rbac.py` and its modules: the check of an action,
the set of actions, and the makerspaces for an action.
-/

namespace SpaceWorks
namespace Accounts

open Table List Option

inductive LifecycleState
  | active
  | importing
  | aborted
  deriving DecidableEq

structure Makerspace where
  id : Nat
  superadminAccessEnabled : Bool := true
  archivedAt : Option Nat := none
  purgeStartedAt : Option Nat := none
  lifecycleState : LifecycleState := .active

structure MakerspaceRole where
  id : Nat
  makerspaceId : Nat
  name : String
  slug : String
  grantedActions : Json := .array []
  legacyRole : Option MembershipRole := none
  isProtected : Bool := false

inductive MembershipStatus
  | active
  | revoked
  deriving DecidableEq

structure MakerspaceMembership where
  makerspaceId : Nat
  userId : Nat
  role : MembershipRole := .spaceManager
  assignedRoleId : Option Nat := none
  status : MembershipStatus := .active

structure Organization where
  id : Nat
  isActive : Bool := true

structure OrganizationMakerspace where
  organizationId : Nat
  makerspaceId : Nat

inductive OrganizationStatus
  | active
  | suspended
  deriving DecidableEq

structure OrganizationMembership where
  organizationId : Nat
  userId : Nat
  grantedActions : Json := .array []
  status : OrganizationStatus := .active

inductive ComponentState
  | pending
  | dependencyWait
  | merging
  | restored
  | failed
  deriving DecidableEq

structure B1RestoreComponentState where
  makerspaceIdSnapshot : Nat
  state : ComponentState

inductive UserRole
  | superadmin
  | spaceManager
  | requester
  deriving DecidableEq

structure User where
  id : Nat
  isSuperuser : Bool := false
  role : UserRole := .requester
  isTenantDumpStub : Bool := false

instance : Keyed Makerspace Nat := ⟨Makerspace.id⟩

instance : Keyed MakerspaceRole Nat := ⟨MakerspaceRole.id⟩

instance : Keyed MakerspaceMembership (Nat × Nat) :=
  ⟨fun membership => (membership.makerspaceId, membership.userId)⟩

instance : Keyed Organization Nat := ⟨Organization.id⟩

@[simp] theorem key_role (role : MakerspaceRole) : key role = role.id := rfl

/-- The graph of users and makerspaces; assigned roles exist. -/
structure State where
  makerspaces : Table Makerspace := ∅
  roles : Table MakerspaceRole := ∅
  memberships : Table MakerspaceMembership := ∅
  organizations : Table Organization := ∅
  makerspaceLinks : List OrganizationMakerspace := []
  organizationMemberships : List OrganizationMembership := []
  componentStates : List B1RestoreComponentState := []
  assigned : ∀ membership ∈ memberships, ∀ id, membership.assignedRoleId = some id →
    (roles.get? id).isSome := by simp

section

variable (s : State)

/-- The makerspace ids of `active_component_states`. -/
def activeMakerspaceIds : List Nat :=
  (s.componentStates.filter (·.state ≠ .restored)).map B1RestoreComponentState.makerspaceIdSnapshot

/-- The filter of `archived_or_inactive_makerspace_ids` excludes these. -/
def Makerspace.ordinary (makerspace : Makerspace) : Bool :=
  makerspace.archivedAt = none ∧ makerspace.purgeStartedAt = none ∧
    makerspace.lifecycleState = .active

def servable (makerspace : Makerspace) : Bool :=
  makerspace.ordinary ∧ makerspace.id ∉ activeMakerspaceIds s

/-- `archived_makerspace_ids`, or `unservable_makerspace_ids`. -/
def archivedMakerspaceIds : List Nat :=
  (s.makerspaces.rows.filter fun makerspace => makerspace.ordinary = false).map Makerspace.id ++
    activeMakerspaceIds s

def superadminHiddenMakerspaceIds : List Nat :=
  (s.makerspaces.rows.filter fun makerspace =>
    makerspace.superadminAccessEnabled = false).map Makerspace.id

def membershipFor (user : User) (makerspaceId : Nat) : Option MakerspaceMembership :=
  (s.memberships.get? (makerspaceId, user.id)).filter (·.status = .active)

def actionsForMembership : Option MakerspaceMembership → List Action
  | none => []
  | some membership =>
    if membership.status ≠ .active then []
    else match membership.assignedRoleId with
      | some roleId =>
        match s.roles.get? roleId with
        | none => []
        | some role =>
          if role.makerspaceId ≠ membership.makerspaceId then []
          else if role.grantedActions.isList = false then []
          else expandImpliedActions (role.grantedActions.actionsIn roleGrantableActions)
      | none => expandImpliedActions (legacyActions membership.role)

/-- The assigned-role half of a scope query. -/
def matchesAssigned (action : Action) (membership : MakerspaceMembership) : Bool :=
  (membership.assignedRoleId.bind s.roles.get?).any fun role =>
    role.makerspaceId = membership.makerspaceId ∧
      (actionsSatisfying action).any fun granted =>
        role.grantedActions.containsValue granted.value

def matchesLegacy (action : Action) (membership : MakerspaceMembership) : Bool :=
  membership.assignedRoleId = none ∧ membership.role ∈ legacyRoles action

def activeMemberships (user : User) : List MakerspaceMembership :=
  s.memberships.rows.filter fun membership =>
    membership.userId = user.id ∧ membership.status = .active

def organizationAuthorityMemberships (user : User) :
    List (OrganizationMembership × OrganizationMakerspace) :=
  (s.organizationMemberships.product s.makerspaceLinks).filter fun (membership, link) =>
    membership.userId = user.id ∧ membership.status = .active ∧
      link.organizationId = membership.organizationId ∧
      (s.organizations.get? membership.organizationId).any Organization.isActive ∧
      (s.makerspaces.get? link.makerspaceId).any fun makerspace =>
        makerspace.superadminAccessEnabled ∧ servable s makerspace

def actionsForOrganizationMembership (membership : OrganizationMembership) : List Action :=
  if membership.status ≠ .active ∨
      (s.organizations.get? membership.organizationId).any Organization.isActive = false then []
  else if membership.grantedActions.isList = false then []
  else expandImpliedActions (membership.grantedActions.actionsIn organizationGrantableActions)

def orgActionsFor (user : User) (makerspaceId : Nat) : List Action :=
  ((organizationAuthorityMemberships s user).filter fun row =>
    row.2.makerspaceId = makerspaceId).flatMap fun row =>
      actionsForOrganizationMembership s row.1

def orgScopeForAction (user : User) (action : Action) : List Nat :=
  let satisfying := (actionsSatisfying action).filter (· ∈ organizationGrantableActions)
  if satisfying = [] then []
  else
    let rows := (organizationAuthorityMemberships s user).filter fun row =>
      satisfying.any fun granted => row.1.grantedActions.containsValue granted.value
    (rows.filter fun row =>
      row.1.grantedActions.isList ∧ action ∈ expandImpliedActions
          (row.1.grantedActions.actionsIn organizationGrantableActions)).map
            fun row => row.2.makerspaceId

/-- `_actor_refused`; an actor that is missing or anonymous is `none`. -/
def actorRefused : Option User → Bool
  | none => true
  | some user => user.isTenantDumpStub

def User.superadmin (user : User) : Bool :=
  user.isSuperuser ∨ user.role = .superadmin

inductive Scope
  | all
  | ids (members : List Nat)

def Scope.Contains : Scope → Nat → Prop
  | .all, _ => True
  | .ids members, id => id ∈ members

def superadminHiddenToExclude (user : User) (action : Action) : List Nat :=
  let hidden := superadminHiddenMakerspaceIds s
  let memberships := (activeMemberships s user).filter (·.makerspaceId ∈ hidden)
  let memberOk :=
    if action ∈ roleForbiddenActions then []
    else ((memberships.filter (matchesAssigned s action)) ++
      memberships.filter (matchesLegacy action)).map MakerspaceMembership.makerspaceId
  hidden.filter (· ∉ memberOk)

def superadminVisibleIds (user : User) (action : Action) : Scope :=
  let excluded := superadminHiddenToExclude s user action ++ archivedMakerspaceIds s
  if excluded = [] then .all
  else .ids ((s.makerspaces.rows.map Makerspace.id).filter (· ∉ excluded))

def makerspacesForAction (actor : Option User) (action : Action) : Scope :=
  match actor with
  | none => .ids []
  | some user =>
    if actorRefused actor then .ids []
    else if user.superadmin then superadminVisibleIds s user action
    else if action ∈ roleForbiddenActions then .ids []
    else
      let assignedScope := (activeMemberships s user).filter (matchesAssigned s action)
      let legacyScope := (activeMemberships s user).filter (matchesLegacy action)
      .ids (((assignedScope ++ legacyScope).map MakerspaceMembership.makerspaceId ++
        orgScopeForAction s user action).filter (· ∉ archivedMakerspaceIds s))

def effectiveActions (actor : Option User) (makerspaceId : Nat) : List Action :=
  match actor with
  | none => []
  | some user =>
    if actorRefused actor then []
    else if makerspaceId ∈ archivedMakerspaceIds s then []
    else if user.superadmin then
      if makerspaceId ∈ superadminHiddenMakerspaceIds s then
        actionsForMembership s (membershipFor s user makerspaceId)
      else roleGrantableActions
    else actionsForMembership s (membershipFor s user makerspaceId) ++
      orgActionsFor s user makerspaceId

def can (actor : Option User) (action : Action) (makerspaceId : Option Nat) : Bool :=
  match actor with
  | none => false
  | some user =>
    if actorRefused actor then false
    else if makerspaceId.any (· ∈ archivedMakerspaceIds s) then false
    else if user.superadmin then
      match makerspaceId with
      | none => true
      | some id =>
        if id ∈ superadminHiddenMakerspaceIds s then
          action ∈ actionsForMembership s (membershipFor s user id)
        else true
    else match makerspaceId with
      | none => false
      | some id =>
        action ∈ actionsForMembership s (membershipFor s user id) ∨ action ∈ orgActionsFor s user id

variable {s : State} {user : User} {action : Action} {membership : MakerspaceMembership}
variable {makerspace : Makerspace} {actor : Option User}

theorem matches_iff (hactive : membership.status = .active)
    (haction : action ∉ roleForbiddenActions) :
    (matchesAssigned s action membership = true ∨ matchesLegacy action membership = true) ↔
      action ∈ actionsForMembership s (some membership) := by
  have hgrantable : action ∈ roleGrantableActions := mem_roleGrantableActions.mpr haction
  rw [actionsForMembership, if_neg (by simp [hactive])]
  cases hassigned : membership.assignedRoleId with
  | none => simp [matchesAssigned, matchesLegacy, hassigned, mem_legacyRoles]
  | some roleId =>
    simp only [matchesAssigned, matchesLegacy, hassigned, bind_some, reduceCtorEq,
      false_and, decide_false, Bool.false_eq_true, or_false]
    cases s.roles.get? roleId with
    | none => simp
    | some role =>
      by_cases hforeign : role.makerspaceId = membership.makerspaceId
      · by_cases hlist : role.grantedActions.isList = false
        · simp [hforeign, hlist, containsValue_of_not_list hlist]
        · simp only [any_some, hforeign, true_and, List.any_eq_true, ne_eq,
            not_true_eq_false, if_false, if_neg hlist, mem_expand_actionsIn,
            decide_eq_true_eq]
          constructor
          · rintro ⟨granted, hsatisfies, hcontains⟩
            exact ⟨granted, hsatisfies, satisfying_roleGrantable hgrantable hsatisfies, hcontains⟩
          · rintro ⟨granted, hsatisfies, -, hcontains⟩
            exact ⟨granted, hsatisfies, hcontains⟩
      · simp [hforeign]

theorem actionsForMembership_roleGrantable {membership : Option MakerspaceMembership}
    (h : action ∈ actionsForMembership s membership) :
    action ∈ roleGrantableActions := by
  unfold actionsForMembership at h
  split at h
  · cases h
  · next membership =>
      split at h
      · cases h
      · split at h
        · split at h
          · cases h
          · next role _ =>
              split at h
              · cases h
              · split at h
                · cases h
                · exact expand_roleGrantable (fun a ha => (mem_actionsIn.mp ha).2) h
        · exact expand_roleGrantable (fun a ha => legacyActions_roleGrantable ha) h

theorem orgActionsFor_roleGrantable {id : Nat} (h : action ∈ orgActionsFor s user id) :
    action ∈ roleGrantableActions := by
  obtain ⟨_, -, hrow⟩ := mem_flatMap.mp h
  unfold actionsForOrganizationMembership at hrow
  split at hrow
  · cases hrow
  · split at hrow
    · cases hrow
    · refine expand_roleGrantable (fun a ha => ?_) hrow
      exact (mem_filter.mp (mem_actionsIn.mp ha).2).1

theorem mem_activeMemberships :
    membership ∈ activeMemberships s user ↔
      membershipFor s user membership.makerspaceId = some membership := by
  simp only [activeMemberships, membershipFor, mem_filter, decide_eq_true_eq, filter_eq_some_iff]
  constructor
  · rintro ⟨hmem, huser, hactive⟩
    refine ⟨?_, hactive⟩
    rw [← huser]
    exact get?_key (t := s.memberships) hmem
  · rintro ⟨hget, hactive⟩
    refine ⟨mem_of_get? hget, ?_, hactive⟩
    exact congrArg Prod.snd (key_of_get? hget)

theorem mem_membershipScope (haction : action ∉ roleForbiddenActions) (id : Nat) :
    id ∈ ((activeMemberships s user).filter (matchesAssigned s action) ++
        (activeMemberships s user).filter (matchesLegacy action)).map
          MakerspaceMembership.makerspaceId ↔
      action ∈ actionsForMembership s (membershipFor s user id) := by
  simp only [List.mem_map, mem_append, mem_filter, ← and_or_left]
  constructor
  · rintro ⟨membership, ⟨hmem, hmatches⟩, rfl⟩
    have hfor := mem_activeMemberships.mp hmem
    have hactive : membership.status = .active := by
      simpa using (filter_eq_some_iff.mp hfor).2
    rw [hfor]
    exact (matches_iff hactive haction).mp hmatches
  · intro h
    cases hfor : membershipFor s user id with
    | none =>
      rw [hfor] at h
      cases h
    | some membership =>
      rw [hfor] at h
      obtain ⟨hget, hactive⟩ := filter_eq_some_iff.mp hfor
      have hid : membership.makerspaceId = id := congrArg Prod.fst (key_of_get? hget)
      subst hid
      exact ⟨membership, ⟨mem_activeMemberships.mpr hfor,
        (matches_iff (by simpa using hactive) haction).mpr h⟩, rfl⟩

theorem mem_orgScopeForAction (id : Nat) :
    id ∈ orgScopeForAction s user action ↔ action ∈ orgActionsFor s user id := by
  have hrow : ∀ row ∈ organizationAuthorityMemberships s user, row.1.status = .active ∧
        (s.organizations.get? row.1.organizationId).any Organization.isActive = true := by
    intro row hrow
    simp only [organizationAuthorityMemberships, mem_filter, Bool.decide_and,
      Bool.and_eq_true, decide_eq_true_eq] at hrow
    exact ⟨hrow.2.2.1, hrow.2.2.2.2.1⟩
  have hactions : action ∈ orgActionsFor s user id ↔
      ∃ row ∈ organizationAuthorityMemberships s user, row.2.makerspaceId = id ∧
        row.1.grantedActions.isList = true ∧ action ∈ expandImpliedActions
          (row.1.grantedActions.actionsIn organizationGrantableActions) := by
    simp only [orgActionsFor, mem_flatMap, mem_filter, decide_eq_true_eq]
    constructor
    · rintro ⟨row, ⟨hmem, hid⟩, h⟩
      obtain ⟨hstatus, horganization⟩ := hrow row hmem
      rw [actionsForOrganizationMembership, if_neg (by simp [hstatus, horganization])] at h
      split at h
      · cases h
      · next hlist => exact ⟨row, hmem, hid, by simpa using hlist, h⟩
    · rintro ⟨row, hmem, hid, hlist, h⟩
      obtain ⟨hstatus, horganization⟩ := hrow row hmem
      refine ⟨row, ⟨hmem, hid⟩, ?_⟩
      rw [actionsForOrganizationMembership, if_neg (by simp [hstatus, horganization]),
        if_neg (by simp [hlist])]
      exact h
  rw [hactions, orgScopeForAction]
  split
  · next hnone =>
      simp only [not_mem_nil, false_iff, not_exists, not_and]
      intro row _ _ _ h
      obtain ⟨granted, hsatisfies, hvocabulary, -⟩ := mem_expand_actionsIn.mp h
      exact filter_eq_nil_iff.mp hnone granted hsatisfies (by simpa using hvocabulary)
  · simp only [List.mem_map, mem_filter, Bool.decide_and, Bool.and_eq_true,
      decide_eq_true_eq, List.any_eq_true]
    constructor
    · rintro ⟨row, ⟨⟨hmem, -⟩, hlist, h⟩, hid⟩
      exact ⟨row, hmem, hid, hlist, h⟩
    · rintro ⟨row, hmem, hid, hlist, h⟩
      obtain ⟨granted, hsatisfies, hvocabulary, hcontains⟩ := mem_expand_actionsIn.mp h
      exact ⟨row, ⟨⟨hmem, granted, ⟨hsatisfies, hvocabulary⟩, hcontains⟩, hlist, h⟩, hid⟩

theorem mem_archivedMakerspaceIds (h : makerspace ∈ s.makerspaces) :
    makerspace.id ∈ archivedMakerspaceIds s ↔ servable s makerspace = false := by
  have hordinary : makerspace.id ∈ (s.makerspaces.rows.filter fun makerspace =>
      makerspace.ordinary = false).map Makerspace.id ↔ makerspace.ordinary = false := by
    simp only [List.mem_map, mem_filter, decide_eq_true_eq]
    constructor
    · rintro ⟨_, ⟨hmem, hother⟩, hid⟩
      rw [← eq_of_key_eq (t := s.makerspaces) hmem h hid]
      exact hother
    · intro hmakerspace
      exact ⟨makerspace, ⟨h, hmakerspace⟩, rfl⟩
  rw [archivedMakerspaceIds, mem_append, hordinary, servable]
  cases makerspace.ordinary with
  | false | true => simp

theorem mem_superadminHiddenToExclude (id : Nat) :
    id ∈ superadminHiddenToExclude s user action ↔ id ∈ superadminHiddenMakerspaceIds s ∧
        action ∉ actionsForMembership s (membershipFor s user id) := by
  rw [superadminHiddenToExclude]
  simp only [mem_filter, decide_eq_true_eq]
  refine and_congr_right fun hhidden => not_congr ?_
  by_cases haction : action ∈ roleForbiddenActions
  · rw [if_pos haction]
    constructor
    · intro h
      cases h
    · intro h
      exact absurd haction (mem_roleGrantableActions.mp (actionsForMembership_roleGrantable h))
  · rw [if_neg haction, ← mem_membershipScope haction]
    simp only [List.mem_map, mem_append, mem_filter, decide_eq_true_eq]
    constructor
    · rintro ⟨membership, (⟨⟨hmem, -⟩, hmatches⟩ | ⟨⟨hmem, -⟩, hmatches⟩), hid⟩
      · exact ⟨membership, .inl ⟨hmem, hmatches⟩, hid⟩
      · exact ⟨membership, .inr ⟨hmem, hmatches⟩, hid⟩
    · rintro ⟨membership, (⟨hmem, hmatches⟩ | ⟨hmem, hmatches⟩), rfl⟩
      · exact ⟨membership, .inl ⟨⟨hmem, hhidden⟩, hmatches⟩, rfl⟩
      · exact ⟨membership, .inr ⟨⟨hmem, hhidden⟩, hmatches⟩, rfl⟩

theorem can_iff_scope (h : makerspace ∈ s.makerspaces) :
    can s actor action (some makerspace.id) = true ↔
      (makerspacesForAction s actor action).Contains makerspace.id := by
  cases actor with
  | none => simp [can, makerspacesForAction, Scope.Contains]
  | some user =>
    rw [can, makerspacesForAction]
    by_cases hrefused : actorRefused (some user) = true
    · simp [hrefused, Scope.Contains]
    rw [if_neg hrefused, if_neg hrefused, any_some]
    by_cases harchived : makerspace.id ∈ archivedMakerspaceIds s
    · rw [if_pos (by simpa using harchived)]
      by_cases hsuper : user.superadmin = true
      · have hexcluded : makerspace.id ∈
            superadminHiddenToExclude s user action ++ archivedMakerspaceIds s :=
          mem_append_right _ harchived
        rw [if_pos hsuper, superadminVisibleIds, if_neg (ne_nil_of_mem hexcluded)]
        simp [Scope.Contains, harchived]
      · rw [if_neg hsuper]
        by_cases haction : action ∈ roleForbiddenActions
        · simp [haction, Scope.Contains]
        · simp [haction, Scope.Contains, harchived]
    rw [if_neg (by simpa using harchived)]
    by_cases hsuper : user.superadmin = true
    · rw [if_pos hsuper, if_pos hsuper, superadminVisibleIds]
      have hexcluded : makerspace.id ∉
          superadminHiddenToExclude s user action ++ archivedMakerspaceIds s ↔
            (if makerspace.id ∈ superadminHiddenMakerspaceIds s then
              decide (action ∈ actionsForMembership s (membershipFor s user makerspace.id))
            else true) = true := by
        rw [mem_append, mem_superadminHiddenToExclude]
        by_cases hhidden : makerspace.id ∈ superadminHiddenMakerspaceIds s
        · simp [hhidden, harchived]
        · simp [hhidden, harchived]
      rw [← hexcluded]
      split
      · next hnone => simp [hnone, Scope.Contains]
      · simp only [Scope.Contains, mem_filter, List.mem_map, decide_eq_true_eq]
        constructor
        · intro hvisible
          exact ⟨⟨makerspace, h, rfl⟩, hvisible⟩
        · exact And.right
    · rw [if_neg hsuper, if_neg hsuper]
      by_cases haction : action ∈ roleForbiddenActions
      · have hmember : action ∉
            actionsForMembership s (membershipFor s user makerspace.id) := fun hmem =>
          mem_roleGrantableActions.mp (actionsForMembership_roleGrantable hmem) haction
        have horganization : action ∉ orgActionsFor s user makerspace.id := fun hmem =>
          mem_roleGrantableActions.mp (orgActionsFor_roleGrantable hmem) haction
        simp [haction, hmember, horganization, Scope.Contains]
      · rw [if_neg haction]
        simp only [Scope.Contains, mem_filter, mem_append,
          mem_orgScopeForAction, decide_eq_true_eq, harchived, not_false_eq_true, and_true,
          mem_membershipScope haction]

theorem can_iff_effectiveActions (haction : action ∈ roleGrantableActions) (id : Nat) :
    can s actor action (some id) = true ↔ action ∈ effectiveActions s actor id := by
  cases actor with
  | none => simp [can, effectiveActions]
  | some user =>
    rw [can, effectiveActions]
    by_cases hrefused : actorRefused (some user) = true
    · simp [hrefused]
    by_cases harchived : id ∈ archivedMakerspaceIds s
    · simp [hrefused, harchived]
    by_cases hsuper : user.superadmin = true
    · by_cases hhidden : id ∈ superadminHiddenMakerspaceIds s
      · simp [hrefused, harchived, hsuper, hhidden]
      · simp [hrefused, harchived, hsuper, hhidden, haction]
    · simp [hrefused, harchived, hsuper]

end

/-- An active membership whose role is of its makerspace, with a list of grants. -/
def wellFormed (s : State) (membership : MakerspaceMembership) : Bool :=
  decide (membership.status = .active) &&
    match membership.assignedRoleId with
    | none => true
    | some roleId => (s.roles.get? roleId).any fun role =>
      role.makerspaceId = membership.makerspaceId ∧ role.grantedActions.isList

/-- The graph without inactive, foreign or malformed parts. -/
def wellFormedPart (s : State) : State :=
  { s with
    memberships := s.memberships.restrict (wellFormed s)
    organizationMemberships :=
      s.organizationMemberships.filter fun membership => membership.grantedActions.isList
    assigned := fun membership hmem =>
      s.assigned membership (mem_restrict.mp hmem).1 }

theorem actionsForMembership_of_not_wellFormed
    {s : State} {membership : MakerspaceMembership} (h : wellFormed s membership = false) :
    actionsForMembership s (some membership) = [] := by
  rw [actionsForMembership]
  split
  · rfl
  · next hactive =>
      rw [ne_eq, Decidable.not_not] at hactive
      split
      · next roleId hassigned =>
          simp only [wellFormed, hactive, hassigned, decide_true, Bool.true_and] at h
          cases hrole : s.roles.get? roleId with
          | none => rfl
          | some role =>
            simp only [hrole, any_some, decide_eq_false_iff_not, not_and, Bool.not_eq_true] at h
            change (if role.makerspaceId ≠ membership.makerspaceId then [] else _) = []
            split
            · rfl
            · next hsame => rw [if_pos (h (Decidable.not_not.mp hsame))]
      · next hassigned => simp [wellFormed, hactive, hassigned] at h

theorem actionsForMembership_wellFormedPart (s : State) (user : User) (id : Nat) :
    actionsForMembership (wellFormedPart s) (membershipFor (wellFormedPart s) user id) =
      actionsForMembership s (membershipFor s user id) := by
  change actionsForMembership s _ = _
  rw [membershipFor, wellFormedPart, get?_restrict, membershipFor]
  cases s.memberships.get? (id, user.id) with
  | none => rfl
  | some membership =>
    cases hwell : wellFormed s membership with
    | true => rw [filter_some_pos hwell]
    | false =>
      rw [filter_some_neg (by simp [hwell]), filter_none]
      by_cases hactive : membership.status = .active
      · rw [filter_some_pos (by simpa using hactive), actionsForMembership_of_not_wellFormed hwell]
        rfl
      · rw [filter_some_neg (by simpa using hactive)]

theorem mem_orgActionsFor_wellFormedPart (s : State) (user : User) (id : Nat) (action : Action) :
    action ∈ orgActionsFor (wellFormedPart s) user id ↔ action ∈ orgActionsFor s user id := by
  have hrow : ∀ row, row ∈ organizationAuthorityMemberships (wellFormedPart s) user ↔
      row ∈ organizationAuthorityMemberships s user ∧ row.1.grantedActions.isList = true := by
    rintro ⟨_, _⟩
    simp only [organizationAuthorityMemberships, mem_filter, pair_mem_product, wellFormedPart]
    constructor
    · rintro ⟨⟨⟨hmem, hlist⟩, hlink⟩, hconditions⟩
      exact ⟨⟨⟨hmem, hlink⟩, hconditions⟩, hlist⟩
    · rintro ⟨⟨⟨hmem, hlink⟩, hconditions⟩, hlist⟩
      exact ⟨⟨⟨hmem, hlist⟩, hlink⟩, hconditions⟩
  simp only [orgActionsFor, mem_flatMap, mem_filter, hrow]
  constructor
  · rintro ⟨row, ⟨⟨hmem, -⟩, hid⟩, h⟩
    exact ⟨row, ⟨hmem, hid⟩, h⟩
  · rintro ⟨row, ⟨hmem, hid⟩, h⟩
    refine ⟨row, ⟨⟨hmem, ?_⟩, hid⟩, h⟩
    rw [actionsForOrganizationMembership] at h
    split at h
    · cases h
    · split at h
      · cases h
      · next hlist => simpa using hlist

theorem can_wellFormedPart
    (s : State) (actor : Option User) (action : Action) (makerspaceId : Option Nat) :
    can (wellFormedPart s) actor action makerspaceId = can s actor action makerspaceId := by
  have harchived : archivedMakerspaceIds (wellFormedPart s) = archivedMakerspaceIds s := rfl
  have hhidden : superadminHiddenMakerspaceIds (wellFormedPart s) =
      superadminHiddenMakerspaceIds s := rfl
  simp only [can, harchived, hhidden, actionsForMembership_wellFormedPart,
    mem_orgActionsFor_wellFormedPart]

theorem mem_effectiveActions_wellFormedPart
    (s : State) (actor : Option User) (id : Nat) (action : Action) :
    action ∈ effectiveActions (wellFormedPart s) actor id ↔
      action ∈ effectiveActions s actor id := by
  have harchived : archivedMakerspaceIds (wellFormedPart s) = archivedMakerspaceIds s := rfl
  have hhidden : superadminHiddenMakerspaceIds (wellFormedPart s) =
      superadminHiddenMakerspaceIds s := rfl
  cases actor with
  | none => exact Iff.rfl
  | some =>
    simp only [effectiveActions, harchived, hhidden, actionsForMembership_wellFormedPart]
    split
    · exact Iff.rfl
    · split
      · exact Iff.rfl
      · split
        · exact Iff.rfl
        · rw [mem_append, mem_append, mem_orgActionsFor_wellFormedPart]

/-- The check of an action, its scope, the actions and the queries agree; archived makerspaces,
malformed grants and foreign roles give nothing. -/
theorem one_authority (s : State) (actor : Option User) (makerspace : Makerspace)
    (hmakerspace : makerspace ∈ s.makerspaces) (action : Action) :
    (can s actor action (some makerspace.id) = true ↔
      (makerspacesForAction s actor action).Contains makerspace.id) ∧
    (action ∈ roleGrantableActions →
      (can s actor action (some makerspace.id) = true ↔
        action ∈ effectiveActions s actor makerspace.id)) ∧
    (∀ granted, action ∈ expandImpliedActions granted ↔
      ∃ a ∈ granted, a ∈ actionsSatisfying action) ∧
    (action ∈ roleGrantableActions → ∀ user, ∀ membership ∈ activeMemberships s user,
      (matchesAssigned s action membership = true ∨ matchesLegacy action membership = true ↔
        action ∈ actionsForMembership s (some membership))) ∧
    (∀ user, makerspace.id ∈ orgScopeForAction s user action ↔
      action ∈ orgActionsFor s user makerspace.id) ∧
    (servable s makerspace = false → can s actor action (some makerspace.id) = false ∧
        ¬ (makerspacesForAction s actor action).Contains makerspace.id ∧
        effectiveActions s actor makerspace.id = []) ∧
    can (wellFormedPart s) actor action (some makerspace.id) =
      can s actor action (some makerspace.id) ∧
    ((makerspacesForAction (wellFormedPart s) actor action).Contains makerspace.id ↔
      (makerspacesForAction s actor action).Contains makerspace.id) ∧
    (action ∈ effectiveActions (wellFormedPart s) actor makerspace.id ↔
      action ∈ effectiveActions s actor makerspace.id) := by
  refine ⟨can_iff_scope hmakerspace, fun haction => can_iff_effectiveActions haction _,
    fun _ => mem_expandImpliedActions, ?_, fun _ => (mem_orgScopeForAction _), ?_,
    can_wellFormedPart s actor action _, ?_, mem_effectiveActions_wellFormedPart s actor _ _⟩
  · intro haction user membership hmem
    have hactive := (mem_filter.mp hmem).2
    simp only [Bool.decide_and, Bool.and_eq_true, decide_eq_true_eq] at hactive
    exact matches_iff hactive.2 (mem_roleGrantableActions.mp haction)
  · intro hunservable
    have harchived := (mem_archivedMakerspaceIds hmakerspace).mpr hunservable
    have hcan : can s actor action (some makerspace.id) = false := by
      cases actor with
      | none => rfl
      | some => simp [can, harchived]
    refine ⟨hcan, ?_, ?_⟩
    · rw [← can_iff_scope hmakerspace, hcan]
      exact Bool.false_ne_true
    · cases actor with
      | none => rfl
      | some => simp [effectiveActions, harchived]
  · have hpart : makerspace ∈ (wellFormedPart s).makerspaces := hmakerspace
    rw [← can_iff_scope hpart, ← can_iff_scope hmakerspace, can_wellFormedPart]

def workshop : State where
  makerspaces := ⟨[{ id := 1 }, { id := 2, superadminAccessEnabled := false }], by decide⟩
  memberships := ⟨[{ makerspaceId := 1, userId := 7, role := .machineManager }], by decide⟩
  assigned := by
    intro membership hmem id hid
    obtain rfl := mem_singleton.mp hmem
    cases hid

/-- The machine manager may hand out prints by an implied action. -/
theorem workshop_one_authority :
    can workshop (some { id := 7 }) .managePrinting (some 1) = true ∧
      (makerspacesForAction workshop (some { id := 7 }) .managePrinting).Contains 1 := by
  have hcan : can workshop (some { id := 7 }) .managePrinting (some 1) = true := by
    decide +kernel
  exact ⟨hcan, (one_authority workshop (some { id := 7 }) { id := 1 } (.head _)
    .managePrinting).1.mp hcan⟩

end Accounts
end SpaceWorks
