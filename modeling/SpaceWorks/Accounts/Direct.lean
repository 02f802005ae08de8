import SpaceWorks.Accounts.Rbac

/-!
# Grants that are stored outright

The readings of `apps/accounts/rbac.py` and `apps/machines/role_scope_grants.py` that take an action
as a stored text, which need not be an action.
-/

namespace SpaceWorks
namespace Accounts

open List Option

section

variable (s : State)

def isSuperadmin (user : User) : Bool :=
  user.isTenantDumpStub = false ∧ user.superadmin

def canValue (actor : Option User) (value : String) (makerspaceId : Nat) : Bool :=
  match actor with
  | none => false
  | some user =>
    if actorRefused actor then false
    else if makerspaceId ∈ archivedMakerspaceIds s then false
    else if user.superadmin then
      if makerspaceId ∈ superadminHiddenMakerspaceIds s then
        (actionsForMembership s (membershipFor s user makerspaceId)).any (·.value = value)
      else true
    else
      (actionsForMembership s (membershipFor s user makerspaceId)).any (·.value = value) ||
        (orgActionsFor s user makerspaceId).any (·.value = value)

def superadminHiddenBlockApplies (user : User) (makerspaceId : Nat) (value : String) : Bool :=
  if isSuperadmin user = false then false
  else if makerspaceId ∉ superadminHiddenMakerspaceIds s then false
  else match membershipFor s user makerspaceId with
    | none => true
    | some membership =>
      !(actionsForMembership s (some membership)).any (·.value = value)

/-- `_superadmin_hidden_to_exclude`; a text that is no action is implied by itself alone. -/
def superadminHiddenToExcludeFor (user : User) : Option String → List Nat
  | none =>
    (superadminHiddenMakerspaceIds s).filter
      (· ∉ (activeMemberships s user).map MakerspaceMembership.makerspaceId)
  | some value =>
    match Action.ofValue? value with
    | some action => superadminHiddenToExclude s user action
    | none =>
      let assigned := (activeMemberships s user).filter fun membership =>
        (membership.assignedRoleId.bind s.roles.get?).any fun role =>
          role.makerspaceId = membership.makerspaceId ∧ role.grantedActions.containsValue value
      (superadminHiddenMakerspaceIds s).filter (· ∉ assigned.map MakerspaceMembership.makerspaceId)

def superadminVisibleIdsFor (user : User) (value : Option String) : Scope :=
  let excluded := superadminHiddenToExcludeFor s user value ++ archivedMakerspaceIds s
  if excluded = [] then .all
  else .ids ((s.makerspaces.rows.map Makerspace.id).filter (· ∉ excluded))

def resolveScope (actor : Option User) : Scope :=
  match actor with
  | none => .ids []
  | some user =>
    if actorRefused actor then .ids []
    else if user.superadmin then superadminVisibleIdsFor s user none
    else .ids (((activeMemberships s user).map MakerspaceMembership.makerspaceId).filter
      (· ∉ archivedMakerspaceIds s))

def roleGrantsDirectly (user : User) (makerspaceId : Nat) (value : String) : Bool :=
  match membershipFor s user makerspaceId with
  | none => false
  | some membership =>
    match membership.assignedRoleId with
    | none => (legacyActions membership.role).any (·.value = value)
    | some roleId =>
      match s.roles.get? roleId with
      | none => false
      | some role =>
        if role.makerspaceId ≠ membership.makerspaceId then false
        else role.grantedActions.containsValue value

def grantsDirectly (actor : Option User) (makerspaceId : Nat) (value : String) : Bool :=
  match actor with
  | none => false
  | some user =>
    if isSuperadmin user then !superadminHiddenBlockApplies s user makerspaceId value
    else roleGrantsDirectly s user makerspaceId value

def directLegacyRoles (value : String) : List MembershipRole :=
  (membershipRoleActions.filter fun entry => entry.2.any (·.value = value)).map Prod.fst

def makerspacesGrantingDirectly (actor : Option User) (value : String) : Scope :=
  match actor with
  | none => .ids []
  | some user =>
    if isSuperadmin user then superadminVisibleIdsFor s user (some value)
    else
      let assigned := (activeMemberships s user).filter fun membership =>
        (membership.assignedRoleId.bind s.roles.get?).any (·.grantedActions.containsValue value)
      let legacy := (activeMemberships s user).filter fun membership =>
        membership.assignedRoleId = none ∧ membership.role ∈ directLegacyRoles value
      .ids (((assigned ++ legacy).map MakerspaceMembership.makerspaceId).filter
        (· ∉ archivedMakerspaceIds s))

variable {actions : List Action} {membership : MakerspaceMembership}

/-- The active membership stores an action, in its assigned role or by its legacy role. -/
def stores (user : User) (makerspaceId : Nat) (value : String) : Bool :=
  (membershipFor s user makerspaceId).any fun membership =>
    match membership.assignedRoleId with
    | none => (legacyActions membership.role).any (·.value = value)
    | some roleId => (s.roles.get? roleId).any (·.grantedActions.containsValue value)

/-- The assigned role of the membership belongs to the makerspace. -/
def ownRole (user : User) (makerspaceId : Nat) : Bool :=
  (membershipFor s user makerspaceId).any fun membership =>
    (membership.assignedRoleId.bind s.roles.get?).all fun role =>
      role.makerspaceId = makerspaceId

/-- A role can have the action of a stored text. -/
def grantable (value : String) : Bool :=
  (Action.ofValue? value).any (· ∈ roleGrantableActions)

variable {s} {user : User} {id : Nat} {value : String}

theorem any_value_iff :
    actions.any (·.value = value) = true ↔
      ∃ action, Action.ofValue? value = some action ∧ action ∈ actions := by
  simp only [List.any_eq_true, decide_eq_true_eq, ofValue?_eq_some]
  constructor
  · rintro ⟨action, hmem, hvalue⟩
    exact ⟨action, hvalue, hmem⟩
  · rintro ⟨action, hvalue, hmem⟩
    exact ⟨action, hmem, hvalue⟩

theorem mem_directLegacyRoles {role : MembershipRole} :
    role ∈ directLegacyRoles value ↔ (legacyActions role).any (·.value = value) = true := by
  cases role with
  | spaceManager =>
    change _ ↔ spaceManagerActions.any _ = true
    simp [directLegacyRoles, membershipRoleActions]
  | inventoryManager =>
    change _ ↔ inventoryManagerActions.any _ = true
    simp [directLegacyRoles, membershipRoleActions]
  | printManager =>
    change _ ↔ [Action.managePrinting].any _ = true
    simp [directLegacyRoles, membershipRoleActions]
  | machineManager =>
    change _ ↔ [Action.manageMachines].any _ = true
    simp [directLegacyRoles, membershipRoleActions]
  | custom | other _ =>
    change _ ↔ [].any _ = true
    simp [directLegacyRoles, membershipRoleActions]

theorem membershipFor_makerspaceId
    (h : membershipFor s user id = some membership) : membership.makerspaceId = id :=
  congrArg Prod.fst (Table.key_of_get? (filter_eq_some_iff.mp h).1)

theorem membershipFor_active
    (h : membershipFor s user id = some membership) : membership.status = .active := by
  simpa using (filter_eq_some_iff.mp h).2

theorem roleGrantsDirectly_iff :
    roleGrantsDirectly s user id value = true ↔
      ownRole s user id = true ∧ stores s user id value = true := by
  unfold roleGrantsDirectly ownRole stores
  cases hfor : membershipFor s user id with
  | none => simp
  | some membership =>
    have hid := membershipFor_makerspaceId hfor
    cases hassigned : membership.assignedRoleId with
    | none => simp [hassigned]
    | some roleId =>
      cases hrole : s.roles.get? roleId with
      | none => simp [hassigned, hrole]
      | some role =>
        by_cases hsame : role.makerspaceId = id
        · simp [hassigned, hrole, hid, hsame]
        · simp [hassigned, hrole, hid, hsame]

theorem any_actionsForMembership_of_direct
    (hown : ownRole s user id = true) (hstores : stores s user id value = true)
    (hgrantable : grantable value = true) :
    (actionsForMembership s (membershipFor s user id)).any (·.value = value) = true := by
  obtain ⟨action, haction, hmem⟩ := (Option.any_eq_true _ _).mp hgrantable
  refine any_value_iff.mpr ⟨action, haction, ?_⟩
  have hvalue := ofValue?_eq_some.mp haction
  rw [decide_eq_true_eq] at hmem
  cases hfor : membershipFor s user id with
  | none => simp [stores, hfor] at hstores
  | some membership =>
    have hid := membershipFor_makerspaceId hfor
    rw [actionsForMembership, if_neg (by simp [membershipFor_active hfor])]
    cases hassigned : membership.assignedRoleId with
    | none =>
      simp only [stores, hfor, any_some, hassigned] at hstores
      obtain ⟨_, hother, hlegacy⟩ := any_value_iff.mp hstores
      obtain rfl := some.inj (haction.symm.trans hother)
      exact Closure.subset_closure hlegacy
    | some roleId =>
      cases hrole : s.roles.get? roleId with
      | none => simp [stores, hfor, hassigned, hrole] at hstores
      | some role =>
        simp only [stores, hfor, any_some, hassigned, hrole] at hstores
        simp [ownRole, hfor, hassigned, hrole] at hown
        have hlist : role.grantedActions.isList ≠ false := by
          intro hlist
          rw [containsValue_of_not_list hlist] at hstores
          cases hstores
        dsimp only
        rw [hrole]
        dsimp only
        rw [if_neg (by simp [hid, hown]), if_neg hlist]
        have hself : action ∈ actionsSatisfying action :=
          Closure.subset_closure (mem_singleton_self action)
        exact mem_expand_actionsIn.mpr ⟨action, hself, hmem, by rw [hvalue, hstores]⟩

theorem grantable_of_any (hall : ∀ action ∈ actions, action ∈ roleGrantableActions)
    (h : actions.any (·.value = value) = true) : grantable value = true := by
  obtain ⟨action, haction, hmem⟩ := any_value_iff.mp h
  rw [grantable, haction, any_some, decide_eq_true_eq]
  exact hall action hmem

theorem membershipFor_isSome_of_mem {action : Action}
    (h : action ∈ actionsForMembership s (membershipFor s user id)) :
    (membershipFor s user id).isSome = true := by
  cases hfor : membershipFor s user id with
  | some => rfl
  | none =>
    rw [hfor] at h
    cases h

theorem membershipFor_isSome_of_stores (h : stores s user id value = true) :
    (membershipFor s user id).isSome = true := by
  rw [stores] at h
  cases hfor : membershipFor s user id with
  | some => rfl
  | none =>
    rw [hfor] at h
    cases h

theorem mem_activeMemberships_filter {p : MakerspaceMembership → Bool} :
    id ∈ ((activeMemberships s user).filter p).map MakerspaceMembership.makerspaceId ↔
      (membershipFor s user id).any p = true := by
  simp only [List.mem_map, mem_filter, Option.any_eq_true]
  constructor
  · rintro ⟨membership, ⟨hmem, hp⟩, rfl⟩
    exact ⟨membership, mem_activeMemberships.mp hmem, hp⟩
  · rintro ⟨membership, hfor, hp⟩
    have hid := membershipFor_makerspaceId hfor
    exact ⟨membership, ⟨mem_activeMemberships.mpr (hid ▸ hfor), hp⟩, hid⟩

end

section Readings

variable {s : State} {user : User} {value : String} {makerspace : Makerspace}

theorem canValue_and_grantsDirectly (id : Nat) :
    (canValue s (some user) value id && grantsDirectly s (some user) id value) = true ↔
      id ∉ archivedMakerspaceIds s ∧
        if isSuperadmin user then
          id ∈ superadminHiddenMakerspaceIds s →
            (actionsForMembership s (membershipFor s user id)).any (·.value = value) = true
        else user.isTenantDumpStub = false ∧ ownRole s user id = true ∧
          stores s user id value = true ∧ grantable value = true := by
  rw [canValue, grantsDirectly, actorRefused]
  by_cases hstub : user.isTenantDumpStub = true
  · simp [hstub, isSuperadmin]
  rw [if_neg hstub]
  by_cases harchived : id ∈ archivedMakerspaceIds s
  · simp [harchived]
  rw [if_neg harchived]
  by_cases hsuper : user.superadmin = true
  · have hadmin : isSuperadmin user = true := by simp [isSuperadmin, hstub, hsuper]
    rw [if_pos hsuper, if_pos hadmin, if_pos hadmin, superadminHiddenBlockApplies,
      if_neg (c := isSuperadmin user = false) (by rw [hadmin]; decide)]
    by_cases hhidden : id ∈ superadminHiddenMakerspaceIds s
    · cases membershipFor s user id with
      | none => simp [hhidden, actionsForMembership]
      | some => simp [harchived, hhidden]
    · simp [harchived, hhidden]
  · have hadmin : isSuperadmin user = false := by simp [isSuperadmin, hsuper]
    rw [if_neg hsuper, if_neg (by simp [hadmin]), if_neg (by simp [hadmin]), Bool.and_eq_true,
      roleGrantsDirectly_iff, Bool.or_eq_true]
    constructor
    · rintro ⟨hcan, hown, hstores⟩
      refine ⟨harchived, by simpa using hstub, hown, hstores, ?_⟩
      cases hcan with
      | inl hmember =>
        exact grantable_of_any (fun _ h => actionsForMembership_roleGrantable h) hmember
      | inr horganization =>
        exact grantable_of_any (fun _ h => orgActionsFor_roleGrantable h) horganization
    · rintro ⟨-, -, hown, hstores, hgrantable⟩
      exact ⟨.inl (any_actionsForMembership_of_direct hown hstores hgrantable), hown, hstores⟩

theorem contains_superadminVisibleIdsFor (h : makerspace ∈ s.makerspaces) (value : Option String) :
    (superadminVisibleIdsFor s user value).Contains makerspace.id ↔
      makerspace.id ∉ archivedMakerspaceIds s ∧
        makerspace.id ∉ superadminHiddenToExcludeFor s user value := by
  rw [superadminVisibleIdsFor]
  split
  · next hnone =>
      obtain ⟨hhidden, harchived⟩ := append_eq_nil_iff.mp hnone
      simp [hhidden, harchived, Scope.Contains]
  · simp only [Scope.Contains, mem_filter, List.mem_map, mem_append, not_or, decide_eq_true_eq]
    constructor
    · rintro ⟨-, hhidden, harchived⟩
      exact ⟨harchived, hhidden⟩
    · rintro ⟨harchived, hhidden⟩
      exact ⟨⟨makerspace, h, rfl⟩, hhidden, harchived⟩

theorem contains_resolveScope (h : makerspace ∈ s.makerspaces) :
    (resolveScope s (some user)).Contains makerspace.id ↔
      user.isTenantDumpStub = false ∧ makerspace.id ∉ archivedMakerspaceIds s ∧
        ((user.superadmin = true → makerspace.id ∈ superadminHiddenMakerspaceIds s) →
          (membershipFor s user makerspace.id).isSome = true) := by
  have hmembership : ∀ id, id ∈ (activeMemberships s user).map MakerspaceMembership.makerspaceId ↔
      (membershipFor s user id).isSome = true := by
    intro id
    rw [← filter_true (activeMemberships s user), mem_activeMemberships_filter]
    cases membershipFor s user id with
    | none | some => simp
  rw [resolveScope, actorRefused]
  cases hstub : user.isTenantDumpStub with
  | true => simp [Scope.Contains]
  | false =>
    rw [if_neg (by simp)]
    cases hsuper : user.superadmin with
    | true =>
      rw [if_pos rfl, contains_superadminVisibleIdsFor h]
      simp only [superadminHiddenToExcludeFor, mem_filter, decide_eq_true_eq,
        hmembership, true_and, forall_const]
      exact and_congr_right fun _ => by rw [not_and, Decidable.not_not]
    | false =>
      rw [if_neg (by simp)]
      simp only [Scope.Contains, mem_filter, hmembership, decide_eq_true_eq,
        Bool.false_eq_true, false_implies, forall_const, true_and]
      exact and_comm

theorem stores_of_unknown {id : Nat} (hunknown : Action.ofValue? value = none) :
    ((membershipFor s user id).any fun membership =>
      (membership.assignedRoleId.bind s.roles.get?).any fun role =>
        decide (role.makerspaceId = membership.makerspaceId ∧
          role.grantedActions.containsValue value = true)) = true ↔
      ownRole s user id = true ∧ stores s user id value = true := by
  rw [ownRole, stores]
  cases hfor : membershipFor s user id with
  | none => simp
  | some membership =>
    have hid := membershipFor_makerspaceId hfor
    cases hassigned : membership.assignedRoleId with
    | none =>
      have hlegacy : (legacyActions membership.role).any (·.value = value) = false := by
        rw [← Bool.not_eq_true, any_value_iff]
        rintro ⟨_, haction, -⟩
        rw [hunknown] at haction
        cases haction
      simp [hassigned, hlegacy]
    | some roleId =>
      cases hrole : s.roles.get? roleId with
      | none => simp [hassigned, hrole]
      | some => simp [hassigned, hrole, hid]

theorem contains_makerspacesGrantingDirectly (h : makerspace ∈ s.makerspaces) :
    (makerspacesGrantingDirectly s (some user) value).Contains makerspace.id ↔
      makerspace.id ∉ archivedMakerspaceIds s ∧
        if isSuperadmin user then
          makerspace.id ∈ superadminHiddenMakerspaceIds s →
            if (Action.ofValue? value).isSome then
              (actionsForMembership s (membershipFor s user makerspace.id)).any
                (·.value = value) = true
            else ownRole s user makerspace.id = true ∧ stores s user makerspace.id value = true
        else stores s user makerspace.id value = true := by
  rw [makerspacesGrantingDirectly]
  split
  · rw [contains_superadminVisibleIdsFor h]
    refine and_congr_right fun _ => ?_
    rw [superadminHiddenToExcludeFor]
    cases haction : Action.ofValue? value with
    | some =>
      rw [mem_superadminHiddenToExclude, if_pos (by simp), any_value_iff, not_and,
        Decidable.not_not]
      simp [haction]
    | none =>
      rw [if_neg (by simp), mem_filter, decide_eq_true_eq, mem_activeMemberships_filter,
        stores_of_unknown haction, not_and, Decidable.not_not]
  · simp only [Scope.Contains, mem_filter, map_append, mem_append,
      mem_activeMemberships_filter, decide_eq_true_eq]
    rw [and_comm]
    refine and_congr_right fun _ => ?_
    rw [stores]
    cases membershipFor s user makerspace.id with
    | none => simp
    | some membership =>
      cases hassigned : membership.assignedRoleId with
      | none => simp [hassigned, mem_directLegacyRoles]
      | some => simp [hassigned]

end Readings

end Accounts
end SpaceWorks
