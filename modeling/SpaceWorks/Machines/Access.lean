import SpaceWorks.Accounts.Direct
import SpaceWorks.Library.Memo
import SpaceWorks.Library.Python

/-!
# Who may operate and manage a machine

The readings of `apps/machines/access.py`: for one machine, in bulk with caches, and as a filter;
with `role_scope_resolution.py` and `role_scope_queries.py`.
-/

namespace SpaceWorks
namespace MachineAccess

open Accounts Table Python List Option

/-- `MachineOperator.AccessLevel`, or another text. -/
inductive AccessLevel
  | operate
  | manage
  | full
  | other (value : String)
  deriving DecidableEq

inductive AccessStatus
  | active
  | restricted
  | suspended
  deriving DecidableEq

/-- A signed-in user, with the fields that a live membership needs. -/
structure Actor where
  user : User
  isActive : Bool := true
  accessStatus : AccessStatus := .active

structure MachineType where
  id : Nat
  managingAction : String := ""

structure Machine where
  id : Nat
  makerspaceId : Nat
  machineTypeId : Nat

/-- An operator row; a user has at most one on a machine. -/
structure MachineOperator where
  machineId : Nat
  userId : Nat
  accessLevel : AccessLevel

structure RoleMachineTypeScope where
  roleId : Nat
  machineTypeId : Nat

structure RoleMachineScope where
  roleId : Nat
  machineId : Nat

structure MembershipMachineTypeScope where
  makerspaceId : Nat
  userId : Nat
  machineTypeId : Nat

instance : Keyed MachineType Nat := ⟨MachineType.id⟩

instance : Keyed Machine Nat := ⟨Machine.id⟩

instance : Keyed MachineOperator (Nat × Nat) :=
  ⟨fun operator => (operator.machineId, operator.userId)⟩

@[simp] theorem key_operator (operator : MachineOperator) :
    key operator = (operator.machineId, operator.userId) := rfl

/-- The stored graph; the makerspace and the type of a machine exist. -/
structure Graph extends State where
  machineTypes : Table MachineType := ∅
  machines : Table Machine := ∅
  operators : Table MachineOperator := ∅
  roleTypes : List RoleMachineTypeScope := []
  roleMachines : List RoleMachineScope := []
  personalTypes : List MembershipMachineTypeScope := []
  housed : ∀ machine ∈ machines, ∃ makerspace ∈ makerspaces,
    makerspace.id = machine.makerspaceId := by simp
  typed : ∀ machine ∈ machines, (machineTypes.get? machine.machineTypeId).isSome := by simp

variable (g : Graph)

/-- A role's machines: `EXEMPT`, or links. -/
inductive ManageScope
  | exempt
  | links (typeIds machineIds : List Nat)

def ManageScope.nothing : ManageScope := .links [] []

/-- `_scope_for_membership`, by role and own links. -/
def scopeForMembership (membership : MakerspaceMembership) : ManageScope :=
  match membership.assignedRoleId with
  | none => .exempt
  | some roleId =>
    match g.roles.get? roleId with
    | none => .nothing
    | some role =>
      if role.makerspaceId ≠ membership.makerspaceId then .nothing
      else if .manageMakerspace ∈
          expandImpliedActions (role.grantedActions.actionsIn allActions) then .exempt
      else
        let types := (g.roleTypes.filter (·.roleId = roleId)).map RoleMachineTypeScope.machineTypeId
        let personal := (g.personalTypes.filter fun link =>
          link.makerspaceId = membership.makerspaceId ∧ link.userId = membership.userId).map
            MembershipMachineTypeScope.machineTypeId
        .links (types ++ personal) ((g.roleMachines.filter (·.roleId = roleId)).map
          RoleMachineScope.machineId)

def manageScopesFor (actor : Option Actor) (makerspaceIds : List Nat) :
    List (Nat × ManageScope) :=
  match actor with
  | none => []
  | some actor =>
    let ids := makerspaceIds.filter (· ∉ archivedMakerspaceIds g.toState)
    let memberships := (activeMemberships g.toState actor.user).filter (·.makerspaceId ∈ ids)
    let resolved := memberships.map fun membership =>
      (membership.makerspaceId, scopeForMembership g membership)
    let rest := ids.filter (· ∉ resolved.map Prod.fst)
    resolved ++ rest.map fun id =>
      (id, if isSuperadmin actor.user then .exempt else .nothing)

def manageScopeFor (actor : Option Actor) (makerspaceId : Nat) : ManageScope :=
  ((manageScopesFor g actor [makerspaceId]).lookup makerspaceId).getD .nothing

def scopeCoversMachine : ManageScope → Machine → Bool
  | .exempt, _ => true
  | .links typeIds machineIds, machine =>
    machine.id ∈ machineIds ∨ machine.machineTypeId ∈ typeIds

def coversMachine (actor : Option Actor) (machine : Machine) : Bool :=
  scopeCoversMachine (manageScopeFor g actor machine.makerspaceId) machine

def scopedQ (actor : Option Actor) (makerspaceIds : List Nat) (machine : Machine) : Bool :=
  (manageScopesFor g actor makerspaceIds).any fun (id, scope) =>
    match scope with
    | .exempt => machine.makerspaceId = id
    | .links typeIds machineIds =>
      if typeIds = [] ∧ machineIds = [] then false
      else machine.makerspaceId = id ∧ (machine.id ∈ machineIds ∨ machine.machineTypeId ∈ typeIds)

def principal (actor : Option Actor) : Option User := actor.map Actor.user

/-- A user that may sign in and use the makerspaces. -/
def Actor.enabled (actor : Actor) : Bool :=
  actor.isActive ∧ actor.accessStatus = .active

def isActiveMember (actor : Option Actor) (makerspaceId : Nat) : Bool :=
  match actor with
  | none => false
  | some actor =>
    if actor.user.isTenantDumpStub then false
    else if actor.accessStatus ≠ .active then false
    else if actor.isActive = false then false
    else (activeMemberships g.toState actor.user).any (·.makerspaceId = makerspaceId)

def operatorLevel (actor : Option Actor) (machine : Machine) : Option AccessLevel :=
  if isActiveMember g actor machine.makerspaceId = false then none
  else actor.bind fun actor =>
    (g.operators.get? (machine.id, actor.user.id)).map MachineOperator.accessLevel

def managingAction (machine : Machine) : String :=
  ((g.machineTypes.get? machine.machineTypeId).map MachineType.managingAction).getD ""

def typeManager (actor : Option Actor) (makerspaceId : Nat) (managingAction : String) : Bool :=
  let action := strip managingAction
  if action = "" ∨ canValue g.toState (principal actor) action makerspaceId = false then false
  else grantsDirectly g.toState (principal actor) makerspaceId action

def isMachineAdmin (actor : Option Actor) (machine : Machine) : Bool :=
  if can g.toState (principal actor) .manageMachines (some machine.makerspaceId) ∧
      coversMachine g actor machine then true
  else typeManager g actor machine.makerspaceId (managingAction g machine)

def isFullOperator (actor : Option Actor) (machine : Machine) : Bool :=
  operatorLevel g actor machine = some .full

def canManageMachine (actor : Option Actor) (machine : Machine) : Bool :=
  if isMachineAdmin g actor machine then true
  else operatorLevel g actor machine ∈ [some .manage, some .full]

def canOperateMachine (actor : Option Actor) (machine : Machine) : Bool :=
  canManageMachine g actor machine ∨ operatorLevel g actor machine ≠ none

def canDelegateOperators (actor : Option Actor) (machine : Machine) : Bool :=
  isMachineAdmin g actor machine ∨ isFullOperator g actor machine

def canRetireMachine (actor : Option Actor) (machine : Machine) : Bool :=
  isMachineAdmin g actor machine ∨ isFullOperator g actor machine

def canUnretireMachine (actor : Option Actor) (machine : Machine) : Bool :=
  isMachineAdmin g actor machine

structure Capabilities where
  canOperate : Bool := false
  canEdit : Bool := false
  canDelegate : Bool := false
  canRetire : Bool := false
  canUnretire : Bool := false

def machineCapabilities (actor : Option Actor) (machine : Machine) : Capabilities where
  canOperate := canOperateMachine g actor machine
  canEdit := canManageMachine g actor machine
  canDelegate := canDelegateOperators g actor machine
  canRetire := canRetireMachine g actor machine
  canUnretire := canUnretireMachine g actor machine

def typeDecision (actor : Actor) (query : Nat × String) : Bool :=
  canValue g.toState (some actor.user) query.2 query.1 &&
    grantsDirectly g.toState (some actor.user) query.1 query.2

/-- The three caches of `capabilities_for_machines`. -/
structure Caches (actor : Actor) where
  manage : Memo fun id => can g.toState (some actor.user) .manageMachines (some id) := {}
  type : Memo (typeDecision g actor) := {}
  member : Memo (isActiveMember g (some actor)) := {}

def typeMgr {actor : Actor} (caches : Caches g actor) (makerspaceId : Nat) (action : String) :
    Bool × Caches g actor :=
  let action := strip action
  if action = "" then (false, caches)
  else
    let (answer, type) := caches.type.call (makerspaceId, action)
    (answer, { caches with type })

/-- The loop of `capabilities_for_machines` on one machine. -/
def capabilitiesStep {actor : Actor} (opLevels : List (Nat × AccessLevel))
    (scopes : List (Nat × ManageScope)) (caches : Caches g actor) (machine : Machine) :
    Capabilities × Caches g actor :=
  let (granted, manage) := caches.manage.call machine.makerspaceId
  let caches := { caches with manage }
  let inScope := granted &&
    scopeCoversMachine ((scopes.lookup machine.makerspaceId).getD .nothing) machine
  let (admin, caches) :=
    if inScope then (true, caches)
    else typeMgr g caches machine.makerspaceId (managingAction g machine)
  let (live, member) := caches.member.call machine.makerspaceId
  let level := if live then opLevels.lookup machine.id else none
  let canEdit := admin || level ∈ [some .manage, some .full]
  let row : Capabilities :=
    { canOperate := canEdit || level ≠ none
      canEdit := canEdit
      canDelegate := admin || level = some .full
      canRetire := admin || level = some .full
      canUnretire := admin }
  (row, { caches with member })

def capabilitiesLoop {actor : Actor} (opLevels : List (Nat × AccessLevel))
    (scopes : List (Nat × ManageScope)) :
    Caches g actor → List Machine → List (Nat × Capabilities)
  | _, [] => []
  | caches, machine :: machines =>
    let (row, caches) := capabilitiesStep g opLevels scopes caches machine
    (machine.id, row) :: capabilitiesLoop opLevels scopes caches machines

def capabilitiesForMachines (actor : Option Actor) (machines : List Machine) :
    List (Nat × Capabilities) :=
  match actor with
  | none => machines.map fun machine => (machine.id, {})
  | some actor =>
    let opLevels := (g.operators.rows.filter fun operator =>
      operator.machineId ∈ machines.map Machine.id ∧ operator.userId = actor.user.id).map
        fun operator => (operator.machineId, operator.accessLevel)
    let scopes := manageScopesFor g (some actor) (machines.map Machine.makerspaceId)
    let caches : Caches g actor := {}
    capabilitiesLoop g opLevels scopes caches machines

/-- The filter of a scope over a makerspace column. -/
def inScope (scope : Scope) (makerspaceId : Nat) : Bool :=
  match scope with
  | .all => true
  | .ids members => makerspaceId ∈ members

def activeMembershipMakerspaceIds (actor : Actor) : List Nat :=
  if actor.user.isTenantDumpStub then []
  else ((activeMemberships g.toState actor.user).map MakerspaceMembership.makerspaceId).filter
    (· ∉ archivedMakerspaceIds g.toState)

def managingActions : List String :=
  ((g.machineTypes.rows.map MachineType.managingAction).filter (· ≠ "")).dedup

/-- The first filter of both lists, by `MANAGE_MACHINES`. -/
def manageQ (actor : Actor) (queryset : List Machine) (machine : Machine) : Bool :=
  match makerspacesForAction g.toState (some actor.user) .manageMachines with
  | .all => scopedQ g (some actor) (queryset.map Machine.makerspaceId) machine
  | .ids members => scopedQ g (some actor) members machine

/-- The second filter of both lists: the machines of a managed type. -/
def typeQ (actor : Actor) (machine : Machine) : Bool :=
  (managingActions g).any fun action =>
    managingAction g machine = action ∧
      inScope (makerspacesGrantingDirectly g.toState (some actor.user) action) machine.makerspaceId

/-- The machines with an operator row of a filter, in active makerspaces. -/
def operatorIds (actor : Actor) (level : AccessLevel → Bool) : List Nat :=
  (g.operators.rows.filter fun operator =>
    operator.userId = actor.user.id ∧ level operator.accessLevel ∧
      (g.machines.get? operator.machineId).any fun machine =>
        machine.makerspaceId ∈ activeMembershipMakerspaceIds g actor).map MachineOperator.machineId

def scopeMachinesForActor (actor : Option Actor) (queryset : List Machine) : List Machine :=
  match actor with
  | none => []
  | some actor =>
    queryset.filter fun machine =>
      manageQ g actor queryset machine ∨ typeQ g actor machine ∨
        machine.id ∈ operatorIds g actor fun _ => true

def scopeManageableMachinesForActor (actor : Option Actor) (queryset : List Machine) :
    List Machine :=
  match actor with
  | none => []
  | some actor =>
    let queryset := queryset.filter fun machine =>
      inScope (resolveScope g.toState (some actor.user)) machine.makerspaceId
    queryset.filter fun machine =>
      manageQ g actor queryset machine ∨ typeQ g actor machine ∨
        (actor.enabled ∧ machine.id ∈ operatorIds g actor (· ∈ [.manage, .full]))

variable {g : Graph} {actor : Actor} {ids : List Nat} {id : Nat} {machine : Machine}

def scopeAt (g : Graph) (actor : Actor) (makerspaceId : Nat) : ManageScope :=
  match membershipFor g.toState actor.user makerspaceId with
  | some membership => scopeForMembership g membership
  | none => if isSuperadmin actor.user then .exempt else .nothing

theorem mem_manageScopesFor {scope : ManageScope} :
    (id, scope) ∈ manageScopesFor g (some actor) ids ↔
      id ∈ ids ∧ id ∉ archivedMakerspaceIds g.toState ∧ scope = scopeAt g actor id := by
  simp only [manageScopesFor, mem_append, List.mem_map, mem_filter, decide_eq_true_eq,
    Prod.mk.injEq, List.map_map, Function.comp_def, scopeAt]
  constructor
  · rintro (⟨membership, ⟨hmem, hid, harchived⟩, rfl, rfl⟩ |
      ⟨other, ⟨⟨hid, harchived⟩, hnone⟩, rfl, rfl⟩)
    · refine ⟨hid, harchived, ?_⟩
      rw [mem_activeMemberships.mp hmem]
    · refine ⟨hid, harchived, ?_⟩
      cases hfor : membershipFor g.toState actor.user other with
      | none => rfl
      | some membership =>
        have hsame := membershipFor_makerspaceId hfor
        have hmem : membership ∈ activeMemberships g.toState actor.user :=
          mem_activeMemberships.mpr (hsame ▸ hfor)
        exact absurd ⟨membership, ⟨hmem, by rw [hsame]; exact ⟨hid, harchived⟩⟩, hsame⟩ hnone
  · rintro ⟨hid, harchived, rfl⟩
    cases hfor : membershipFor g.toState actor.user id with
    | some membership =>
      have hsame := membershipFor_makerspaceId hfor
      have hmem : membership ∈ activeMemberships g.toState actor.user :=
        mem_activeMemberships.mpr (hsame ▸ hfor)
      exact .inl ⟨membership, ⟨hmem, by rw [hsame]; exact ⟨hid, harchived⟩⟩, hsame, rfl⟩
    | none =>
      refine .inr ⟨id, ⟨⟨hid, harchived⟩, ?_⟩, rfl, rfl⟩
      rintro ⟨_, ⟨hmem, -⟩, rfl⟩
      rw [mem_activeMemberships.mp hmem] at hfor
      cases hfor

theorem lookup_manageScopesFor (hid : id ∈ ids) :
    ((manageScopesFor g (some actor) ids).lookup id).getD .nothing =
      if id ∈ archivedMakerspaceIds g.toState then .nothing else scopeAt g actor id := by
  split
  · next harchived =>
      cases hlookup : (manageScopesFor g (some actor) ids).lookup id with
      | none => rfl
      | some =>
        have hmem := mem_manageScopesFor.mp (List.mem_of_lookup_eq_some hlookup)
        exact absurd harchived hmem.2.1
  · next harchived =>
      have hmem : (id, scopeAt g actor id) ∈ manageScopesFor g (some actor) ids :=
        mem_manageScopesFor.mpr ⟨hid, harchived, rfl⟩
      rw [List.lookup_eq_some_of_forall (mem_map_of_mem hmem) ?_, getD_some]
      rintro ⟨_, _⟩ hentry rfl
      exact (mem_manageScopesFor.mp hentry).2.2

theorem coversMachine_eq (machine : Machine) :
    coversMachine g (some actor) machine =
      scopeCoversMachine (if machine.makerspaceId ∈ archivedMakerspaceIds g.toState then .nothing
        else scopeAt g actor machine.makerspaceId) machine := by
  rw [coversMachine, manageScopeFor, lookup_manageScopesFor (mem_singleton_self _)]

theorem scopedQ_iff :
    scopedQ g (some actor) ids machine = true ↔
      machine.makerspaceId ∈ ids ∧ coversMachine g (some actor) machine = true := by
  have hrow : ∀ id scope, (match scope with
      | ManageScope.exempt => decide (machine.makerspaceId = id)
      | .links typeIds machineIds =>
        if typeIds = [] ∧ machineIds = [] then false
        else decide (machine.makerspaceId = id ∧
          (machine.id ∈ machineIds ∨ machine.machineTypeId ∈ typeIds))) = true ↔
      machine.makerspaceId = id ∧ scopeCoversMachine scope machine = true := by
    intro id scope
    cases scope with
    | exempt => simp [scopeCoversMachine]
    | links typeIds machineIds =>
      by_cases hnone : typeIds = [] ∧ machineIds = []
      · simp [hnone, scopeCoversMachine]
      · simp [hnone, scopeCoversMachine]
  rw [scopedQ, List.any_eq_true, coversMachine_eq]
  constructor
  · rintro ⟨⟨id, scope⟩, hmem, hselects⟩
    obtain ⟨rfl, hcovers⟩ := (hrow id scope).mp hselects
    obtain ⟨hid, harchived, rfl⟩ := mem_manageScopesFor.mp hmem
    rw [if_neg harchived]
    exact ⟨hid, hcovers⟩
  · rintro ⟨hid, hcovers⟩
    by_cases harchived : machine.makerspaceId ∈ archivedMakerspaceIds g.toState
    · rw [if_pos harchived] at hcovers
      simp [ManageScope.nothing, scopeCoversMachine] at hcovers
    · rw [if_neg harchived] at hcovers
      exact ⟨(machine.makerspaceId, scopeAt g actor machine.makerspaceId),
        mem_manageScopesFor.mpr ⟨hid, harchived, rfl⟩, (hrow _ _).mpr ⟨rfl, hcovers⟩⟩

/-- An actor has `MANAGE_MACHINES`, and the role reaches the machine. -/
def scopedAdmin (g : Graph) (actor : Actor) (machine : Machine) : Bool :=
  can g.toState (some actor.user) .manageMachines (some machine.makerspaceId) ∧
    coversMachine g (some actor) machine

theorem manageQ_iff {queryset : List Machine}
    (hmachine : machine ∈ g.machines) (hmem : machine ∈ queryset) :
    manageQ g actor queryset machine = true ↔ scopedAdmin g actor machine = true := by
  obtain ⟨_, hmakerspace, hid⟩ := g.housed machine hmachine
  rw [scopedAdmin, decide_eq_true_eq, ← hid, can_iff_scope hmakerspace, hid, manageQ]
  cases makerspacesForAction g.toState (some actor.user) .manageMachines with
  | all => simp [scopedQ_iff, Scope.Contains, mem_map_of_mem hmem]
  | ids => simp [scopedQ_iff, Scope.Contains]

theorem isActiveMember_iff (id : Nat) :
    isActiveMember g (some actor) id = true ↔
      actor.user.isTenantDumpStub = false ∧ actor.enabled = true ∧
        (membershipFor g.toState actor.user id).isSome = true := by
  have hmembership : (activeMemberships g.toState actor.user).any (·.makerspaceId = id) = true ↔
      (membershipFor g.toState actor.user id).isSome = true := by
    rw [List.any_eq_true, isSome_iff_exists]
    constructor
    · rintro ⟨membership, hmem, hid⟩
      obtain rfl := of_decide_eq_true hid
      exact ⟨membership, mem_activeMemberships.mp hmem⟩
    · rintro ⟨membership, hfor⟩
      have hid := membershipFor_makerspaceId hfor
      exact ⟨membership, mem_activeMemberships.mpr (hid ▸ hfor), by simpa using hid⟩
  rw [isActiveMember, Actor.enabled]
  cases actor.user.isTenantDumpStub with
  | true => simp
  | false =>
    by_cases hstatus : actor.accessStatus = .active
    · cases actor.isActive with
      | true => simpa [hstatus] using hmembership
      | false => simp [hstatus]
    · simp [hstatus]

def storedLevel (g : Graph) (actor : Actor) (machine : Machine) : Option AccessLevel :=
  (g.operators.get? (machine.id, actor.user.id)).map MachineOperator.accessLevel

theorem operatorLevel_eq (machine : Machine) :
    operatorLevel g (some actor) machine =
      if isActiveMember g (some actor) machine.makerspaceId then storedLevel g actor machine
      else none := by
  rw [operatorLevel, storedLevel]
  cases isActiveMember g (some actor) machine.makerspaceId with
  | true | false => rfl

theorem mem_activeMembershipMakerspaceIds {id : Nat} :
    id ∈ activeMembershipMakerspaceIds g actor ↔
      actor.user.isTenantDumpStub = false ∧ id ∉ archivedMakerspaceIds g.toState ∧
        (membershipFor g.toState actor.user id).isSome = true := by
  rw [activeMembershipMakerspaceIds]
  cases actor.user.isTenantDumpStub with
  | true => simp
  | false =>
    simp only [Bool.false_eq_true, if_false, mem_filter, List.mem_map, decide_eq_true_eq,
      true_and, isSome_iff_exists]
    constructor
    · rintro ⟨⟨membership, hmem, rfl⟩, harchived⟩
      exact ⟨harchived, membership, mem_activeMemberships.mp hmem⟩
    · rintro ⟨harchived, membership, hfor⟩
      have hid := membershipFor_makerspaceId hfor
      exact ⟨⟨membership, mem_activeMemberships.mpr (hid ▸ hfor), hid⟩, harchived⟩

theorem mem_operatorIds {level : AccessLevel → Bool} {machine : Machine}
    (hmachine : machine ∈ g.machines) :
    machine.id ∈ operatorIds g actor level ↔ (storedLevel g actor machine).any level = true ∧
        machine.makerspaceId ∈ activeMembershipMakerspaceIds g actor := by
  have hget : g.machines.get? machine.id = some machine := get?_key (t := g.machines) hmachine
  simp only [operatorIds, List.mem_map, mem_filter, decide_eq_true_eq, storedLevel,
    Option.any_map, Option.any_eq_true]
  constructor
  · rintro ⟨operator, ⟨hmem, huser, hlevel, _, hother, hmember⟩, hid⟩
    rw [hid, hget] at hother
    cases hother
    refine ⟨⟨operator, ?_, hlevel⟩, hmember⟩
    rw [← hid, ← huser]
    exact get?_key (t := g.operators) hmem
  · rintro ⟨⟨operator, hoperator, hlevel⟩, hmember⟩
    have hkey := key_of_get? hoperator
    have hid : operator.machineId = machine.id := congrArg Prod.fst hkey
    exact ⟨operator, ⟨mem_of_get? hoperator, congrArg Prod.snd hkey, hlevel,
      machine, by rw [hid, hget], hmember⟩, hid⟩

/-- A level that lets an operator manage the machine. -/
def manages (level : Option AccessLevel) : Bool :=
  level ∈ [some .manage, some .full]

theorem manages_eq (level : Option AccessLevel) :
    level.any (· ∈ [AccessLevel.manage, .full]) = manages level := by
  cases level with
  | none => rfl
  | some => simp [manages]

theorem isSome_of_manages {level : Option AccessLevel} (h : manages level = true) :
    level.isSome = true := by
  cases level with
  | none => cases h
  | some => rfl

theorem operatorLevel_manages {machine : Machine} :
    operatorLevel g (some actor) machine ∈ [some .manage, some .full] ↔
      (actor.user.isTenantDumpStub = false ∧ actor.enabled = true ∧
        (membershipFor g.toState actor.user machine.makerspaceId).isSome = true) ∧
      manages (storedLevel g actor machine) = true := by
  rw [operatorLevel_eq, ← isActiveMember_iff]
  split
  · next h => simp [h, manages]
  · next h => simp [h]

theorem operatorLevel_operates {machine : Machine} :
    operatorLevel g (some actor) machine ≠ none ↔
      (actor.user.isTenantDumpStub = false ∧ actor.enabled = true ∧
        (membershipFor g.toState actor.user machine.makerspaceId).isSome = true) ∧
      (storedLevel g actor machine).isSome = true := by
  rw [operatorLevel_eq, ← isActiveMember_iff]
  split
  · next h => simp [h, isSome_iff_ne_none]
  · next h => simp [h]

theorem strip_value (action : Action) : strip action.value = action.value := by
  revert action
  decide +kernel

theorem strip_of_known {value : String} (h : (Action.ofValue? value).isSome = true) :
    strip value = value := by
  obtain ⟨_, haction⟩ := isSome_iff_exists.mp h
  rw [← ofValue?_eq_some.mp haction, strip_value]

theorem any_value_empty (actions : List Action) : actions.any (·.value = "") = false := by
  have hvalue : ∀ action : Action, action.value ≠ "" := by decide +kernel
  rw [List.any_eq_false]
  intro action _
  simpa using hvalue action

theorem typeManager_iff (id : Nat) (managingAction : String) :
    typeManager g (some actor) id managingAction = true ↔ strip managingAction ≠ "" ∧
        (canValue g.toState (some actor.user) (strip managingAction) id &&
          grantsDirectly g.toState (some actor.user) id (strip managingAction)) = true := by
  rw [typeManager, principal, map_some]
  by_cases haction : strip managingAction = ""
  · simp [haction]
  · simp [haction]

theorem inScope_iff {scope : Scope} {id : Nat} : inScope scope id = true ↔ scope.Contains id := by
  cases scope with
  | all | ids => simp [inScope, Scope.Contains]

theorem typeQ_iff (machine : Machine) :
    typeQ g actor machine = true ↔ managingAction g machine ≠ "" ∧
        (makerspacesGrantingDirectly g.toState (some actor.user)
          (managingAction g machine)).Contains machine.makerspaceId := by
  simp only [typeQ, List.any_eq_true, decide_eq_true_eq, inScope_iff]
  constructor
  · rintro ⟨_, hmem, rfl, hcontains⟩
    have hnonempty := (mem_filter.mp (mem_dedup.mp hmem)).2
    exact ⟨by simpa using hnonempty, hcontains⟩
  · rintro ⟨hnonempty, hcontains⟩
    refine ⟨managingAction g machine, ?_, rfl, hcontains⟩
    refine mem_dedup.mpr (mem_filter.mpr ⟨?_, by simpa using hnonempty⟩)
    cases htype : g.machineTypes.get? machine.machineTypeId with
    | none => simp [managingAction, htype] at hnonempty
    | some =>
      simp only [managingAction, htype, map_some, getD_some]
      exact mem_map_of_mem (mem_of_get? htype)

/-- The managing action reads the same: the machine's check strips it and looks at role and
makerspace, the lists do not. -/
def typeReadsAlike (g : Graph) (actor : Actor) (machine : Machine) : Bool :=
  let s := g.toState
  let id := machine.makerspaceId
  let stored := managingAction g machine
  let action := strip stored
  if id ∈ archivedMakerspaceIds s ∨ stored = "" then true
  else if isSuperadmin actor.user then
    if id ∈ superadminHiddenMakerspaceIds s then
      (Action.ofValue? stored).isSome ||
        ((actionsForMembership s (membershipFor s actor.user id)).any (·.value = action) ==
          (ownRole s actor.user id && stores s actor.user id stored))
    else action ≠ ""
  else (!actor.user.isTenantDumpStub && ownRole s actor.user id && stores s actor.user id action &&
    grantable action) == stores s actor.user id stored

theorem typeReadsAlike_iff {machine : Machine} (hmachine : machine ∈ g.machines) :
    typeReadsAlike g actor machine = true ↔
      (typeManager g (some actor) machine.makerspaceId (managingAction g machine) = true ↔
        typeQ g actor machine = true) := by
  obtain ⟨makerspace, hmakerspace, hid⟩ := g.housed machine hmachine
  rw [typeManager_iff, typeQ_iff, canValue_and_grantsDirectly, ← hid,
    contains_makerspacesGrantingDirectly hmakerspace, typeReadsAlike, ← hid]
  by_cases hnone : makerspace.id ∈ archivedMakerspaceIds g.toState ∨ managingAction g machine = ""
  · rw [if_pos hnone]
    cases hnone with
    | inl harchived => simp [harchived]
    | inr hempty => simp [hempty, strip]
  obtain ⟨harchived, hstored⟩ := not_or.mp hnone
  rw [if_neg hnone]
  by_cases hsuper : isSuperadmin actor.user = true
  · rw [if_pos hsuper, if_pos hsuper, if_pos hsuper]
    by_cases hhidden : makerspace.id ∈ superadminHiddenMakerspaceIds g.toState
    · rw [if_pos hhidden]
      cases hknown : (Action.ofValue? (managingAction g machine)).isSome with
      | true => simp [strip_of_known hknown, hstored]
      | false =>
        by_cases haction : strip (managingAction g machine) = ""
        · simp [haction, any_value_empty, hhidden, harchived, hstored, imp_iff_not_or]
        · rw [Bool.false_or, beq_iff_eq, Bool.eq_iff_iff]
          simp [haction, hhidden, harchived, hstored]
    · simp [hhidden, harchived, hstored]
  · rw [if_neg hsuper, if_neg hsuper, if_neg hsuper]
    by_cases haction : strip (managingAction g machine) = ""
    · have hgrantable : grantable "" = false := by decide +kernel
      simp [haction, hgrantable, harchived, hstored]
    · rw [beq_iff_eq, Bool.eq_iff_iff]
      simp [haction, harchived, hstored, and_assoc]

variable {opLevels : List (Nat × AccessLevel)} {scopes : List (Nat × ManageScope)}

theorem typeMgr_fst (caches : Caches g actor) (id : Nat) (action : String) :
    (typeMgr g caches id action).1 = typeManager g (some actor) id action := by
  rw [typeMgr, typeManager, principal, map_some]
  by_cases haction : strip action = ""
  · simp [haction]
  · rw [if_neg haction]
    cases hcan : canValue g.toState (some actor.user) (strip action) id with
    | true => simp [haction, typeDecision, hcan]
    | false => simp [typeDecision, hcan]

/-- The loop gives a machine its own capabilities, whatever is cached. -/
theorem capabilitiesStep_fst {machine : Machine}
    (hlevel : opLevels.lookup machine.id = storedLevel g actor machine)
    (hscope : scopeCoversMachine ((scopes.lookup machine.makerspaceId).getD .nothing) machine =
      coversMachine g (some actor) machine) (caches : Caches g actor) :
    (capabilitiesStep g opLevels scopes caches machine).1 =
      machineCapabilities g (some actor) machine := by
  have hoperator : (if isActiveMember g (some actor) machine.makerspaceId = true then
      storedLevel g actor machine else none) = operatorLevel g (some actor) machine :=
    (operatorLevel_eq machine).symm
  rw [capabilitiesStep]
  simp only [Memo.call_fst, hlevel, hscope, hoperator]
  have hadmin : (if (can g.toState (some actor.user) .manageMachines (some machine.makerspaceId) &&
      coversMachine g (some actor) machine) = true then (true, { caches with
        manage := (caches.manage.call machine.makerspaceId).2 })
      else typeMgr g { caches with manage := (caches.manage.call machine.makerspaceId).2 }
        machine.makerspaceId (managingAction g machine)).1 =
      isMachineAdmin g (some actor) machine := by
    rw [isMachineAdmin, principal, map_some, apply_ite Prod.fst, typeMgr_fst]
    simp
  rw [hadmin]
  simp only [machineCapabilities, canOperateMachine, canManageMachine, canDelegateOperators,
    canRetireMachine, canUnretireMachine, isFullOperator]
  by_cases hyes : isMachineAdmin g (some actor) machine = true
  · simp [hyes]
  · simp [hyes]

theorem capabilitiesLoop_eq {machines : List Machine}
    (h : ∀ machine ∈ machines, opLevels.lookup machine.id = storedLevel g actor machine ∧
      scopeCoversMachine ((scopes.lookup machine.makerspaceId).getD .nothing) machine =
        coversMachine g (some actor) machine) (caches : Caches g actor) :
    capabilitiesLoop g opLevels scopes caches machines =
      machines.map fun machine => (machine.id, machineCapabilities g (some actor) machine) := by
  induction machines generalizing caches with
  | nil => rfl
  | cons machine _ ih =>
    obtain ⟨hlevel, hscope⟩ := h machine (.head _)
    rw [capabilitiesLoop, map_cons, ← capabilitiesStep_fst hlevel hscope caches]
    dsimp only
    rw [ih fun other hother => h other (.tail _ hother)]

theorem capabilitiesForMachines_eq (actor : Option Actor) (machines : List Machine) :
    capabilitiesForMachines g actor machines =
      machines.map fun machine => (machine.id, machineCapabilities g actor machine) := by
  cases actor with
  | none =>
    refine map_congr_left fun machine _ => ?_
    simp [machineCapabilities, canOperateMachine, canManageMachine, canDelegateOperators,
      canRetireMachine, canUnretireMachine, isFullOperator, isMachineAdmin, operatorLevel,
      isActiveMember, principal, can, typeManager, canValue]
  | some actor =>
    refine capabilitiesLoop_eq (fun machine hmem => ⟨?_, ?_⟩) {}
    · cases hstored : storedLevel g actor machine with
      | none =>
        rw [List.lookup_eq_none_iff]
        intro entry hentry
        obtain ⟨operator, hoperator, rfl⟩ := List.mem_map.mp hentry
        obtain ⟨hrow, hconditions⟩ := mem_filter.mp hoperator
        rw [decide_eq_true_eq] at hconditions
        rw [storedLevel, map_eq_none_iff, get?_eq_none] at hstored
        rw [bne_iff_ne]
        intro hid
        refine hstored operator hrow ?_
        rw [key_operator, hconditions.2]
        exact congrArg (·, actor.user.id) hid.symm
      | some =>
        obtain ⟨operator, hget, hlevel⟩ := map_eq_some_iff.mp hstored
        have hrow := mem_of_get? hget
        have hkey := key_of_get? hget
        have hid : operator.machineId = machine.id := congrArg Prod.fst hkey
        have huser : operator.userId = actor.user.id := congrArg Prod.snd hkey
        refine List.lookup_eq_some_of_forall ?_ ?_
        · simp only [List.map_map, List.mem_map, mem_filter, decide_eq_true_eq]
          exact ⟨operator, ⟨hrow, ⟨machine, hmem, hid.symm⟩, huser⟩, hid⟩
        · intro entry hentry hentryid
          obtain ⟨other, hother, rfl⟩ := List.mem_map.mp hentry
          obtain ⟨hotherrow, hconditions⟩ := mem_filter.mp hother
          rw [decide_eq_true_eq] at hconditions
          have hsame : other = operator := by
            refine eq_of_key_eq hotherrow hrow ?_
            rw [hkey, key_operator, hconditions.2]
            exact congrArg (·, actor.user.id) hentryid
          rw [hsame, hlevel]
    · rw [lookup_manageScopesFor (mem_map_of_mem hmem), coversMachine_eq]

variable {machines : List Machine}

/-- The three readings over a set of machines agree. -/
structure OneAuthority (g : Graph) (actor : Option Actor) (machines : List Machine) : Prop where
  bulk : capabilitiesForMachines g actor machines =
    machines.map fun machine => (machine.id, machineCapabilities g actor machine)
  operable : ∀ machine ∈ machines, machine ∈ scopeMachinesForActor g actor machines ↔
    canOperateMachine g actor machine = true
  manageable : ∀ machine ∈ machines, machine ∈ scopeManageableMachinesForActor g actor machines ↔
    canManageMachine g actor machine = true

/-- The operator row reads the same: the machine's check asks for an enabled user, the list for a
serving makerspace. -/
def operatorReadsAlike (g : Graph) (actor : Actor) (machine : Machine) : Bool :=
  let row := (storedLevel g actor machine).isSome &&
    (membershipFor g.toState actor.user machine.makerspaceId).isSome && !actor.user.isTenantDumpStub
  if machine.makerspaceId ∈ archivedMakerspaceIds g.toState then !(row && actor.enabled)
  else !row || actor.enabled || isMachineAdmin g (some actor) machine

/-- The stored rows read the same: through `MANAGE_MACHINES`, or in the operator row and, where that
does not manage, the managing action. -/
def readsAlike (g : Graph) (actor : Option Actor) (machine : Machine) : Bool :=
  match actor with
  | none => true
  | some actor =>
    scopedAdmin g actor machine ||
      (operatorReadsAlike g actor machine &&
        (typeReadsAlike g actor machine ||
          operatorLevel g (some actor) machine ∈ [some .manage, some .full]))

variable {actor : Actor}

theorem isMachineAdmin_iff (machine : Machine) :
    isMachineAdmin g (some actor) machine = true ↔ scopedAdmin g actor machine = true ∨
      typeManager g (some actor) machine.makerspaceId (managingAction g machine) = true := by
  rw [isMachineAdmin, scopedAdmin, decide_eq_true_eq, principal, map_some]
  split
  · next h => simp [h]
  · next h => simp [h]

theorem canManageMachine_iff (machine : Machine) :
    canManageMachine g (some actor) machine = true ↔
      (scopedAdmin g actor machine = true ∨
        typeManager g (some actor) machine.makerspaceId (managingAction g machine) = true) ∨
      operatorLevel g (some actor) machine ∈ [some .manage, some .full] := by
  rw [canManageMachine, ← isMachineAdmin_iff]
  split
  · next h => simp [h]
  · next h => simp [h]

theorem resolved_of_selected (hmachine : machine ∈ g.machines)
    (hstub : actor.user.isTenantDumpStub = false)
    (h : scopedAdmin g actor machine = true ∨ typeQ g actor machine = true ∨
      machine.makerspaceId ∈ activeMembershipMakerspaceIds g actor) :
    inScope (resolveScope g.toState (some actor.user)) machine.makerspaceId = true := by
  obtain ⟨makerspace, hmakerspace, hid⟩ := g.housed machine hmachine
  rw [inScope_iff, ← hid, contains_resolveScope hmakerspace]
  have hmember : isSuperadmin actor.user = false → coversMachine g (some actor) machine = true →
        (membershipFor g.toState actor.user machine.makerspaceId).isSome = true := by
    intro hsuper hcovers
    rw [coversMachine_eq, scopeAt] at hcovers
    cases hfor : membershipFor g.toState actor.user machine.makerspaceId with
    | some => rfl
    | none => simp [hfor, hsuper, ManageScope.nothing, scopeCoversMachine] at hcovers
  rw [← hid] at hmember
  rcases h with h | h | h
  · rw [scopedAdmin, decide_eq_true_eq, ← hid] at h
    obtain ⟨hcan, hcovers⟩ := h
    rw [can, actorRefused, hstub, if_neg (by simp)] at hcan
    by_cases harchived : makerspace.id ∈ archivedMakerspaceIds g.toState
    · simp [harchived] at hcan
    refine ⟨hstub, harchived, fun hreach => ?_⟩
    cases hsuper : actor.user.superadmin with
    | false => exact hmember (by simp [isSuperadmin, hsuper]) hcovers
    | true =>
      simp [harchived, hsuper, hreach hsuper] at hcan
      exact membershipFor_isSome_of_mem hcan
  · obtain ⟨-, hcontains⟩ := (typeQ_iff machine).mp h
    rw [← hid, contains_makerspacesGrantingDirectly hmakerspace] at hcontains
    obtain ⟨harchived, hreads⟩ := hcontains
    refine ⟨hstub, harchived, fun hreach => ?_⟩
    cases hsuper : actor.user.superadmin with
    | false =>
      rw [if_neg (by simp [isSuperadmin, hsuper])] at hreads
      exact membershipFor_isSome_of_stores hreads
    | true =>
      rw [if_pos (by simp [isSuperadmin, hsuper, hstub])] at hreads
      have hstored := hreads (hreach hsuper)
      split at hstored
      · obtain ⟨_, -, hmem⟩ := any_value_iff.mp hstored
        exact membershipFor_isSome_of_mem hmem
      · exact membershipFor_isSome_of_stores hstored.2
  · obtain ⟨-, harchived, hsome⟩ := mem_activeMembershipMakerspaceIds.mp h
    rw [← hid] at harchived hsome
    exact ⟨hstub, harchived, fun _ => hsome⟩

theorem mem_scopeMachinesForActor (hmachine : machine ∈ g.machines) (hmem : machine ∈ machines) :
    machine ∈ scopeMachinesForActor g (some actor) machines ↔
      scopedAdmin g actor machine = true ∨ typeQ g actor machine = true ∨
        ((storedLevel g actor machine).isSome = true ∧
          machine.makerspaceId ∈ activeMembershipMakerspaceIds g actor) := by
  simp only [scopeMachinesForActor, mem_filter, hmem, manageQ_iff hmachine hmem,
    mem_operatorIds hmachine, decide_eq_true_eq, true_and]
  cases storedLevel g actor machine with
  | none | some => simp

theorem mem_scopeManageableMachinesForActor
    (hmachine : machine ∈ g.machines) (hmem : machine ∈ machines) :
    machine ∈ scopeManageableMachinesForActor g (some actor) machines ↔
      actor.user.isTenantDumpStub = false ∧
        (scopedAdmin g actor machine = true ∨ typeQ g actor machine = true ∨
          (actor.enabled = true ∧ manages (storedLevel g actor machine) = true ∧
            machine.makerspaceId ∈ activeMembershipMakerspaceIds g actor)) := by
  have hselects : ∀ queryset : List Machine, machine ∈ queryset →
      (decide (manageQ g actor queryset machine = true ∨ typeQ g actor machine = true ∨
        (actor.enabled = true ∧ machine.id ∈ operatorIds g actor (· ∈ [.manage, .full]))) = true ↔
      (scopedAdmin g actor machine = true ∨ typeQ g actor machine = true ∨
        (actor.enabled = true ∧ manages (storedLevel g actor machine) = true ∧
          machine.makerspaceId ∈ activeMembershipMakerspaceIds g actor))) := by
    intro queryset hqueryset
    rw [decide_eq_true_eq, manageQ_iff hmachine hqueryset, mem_operatorIds hmachine, manages_eq]
  obtain ⟨_, hmakerspace, hid⟩ := g.housed machine hmachine
  rw [scopeManageableMachinesForActor, mem_filter, mem_filter]
  constructor
  · rintro ⟨⟨-, hresolved⟩, hselected⟩
    have hstub := hresolved
    rw [inScope_iff, ← hid, contains_resolveScope hmakerspace] at hstub
    exact ⟨hstub.1, (hselects _ (mem_filter.mpr ⟨hmem, hresolved⟩)).mp hselected⟩
  · rintro ⟨hstub, hselected⟩
    have hresolved := resolved_of_selected hmachine hstub
      (hselected.imp_right (Or.imp_right fun h => h.2.2))
    exact ⟨⟨hmem, hresolved⟩, (hselects _ (mem_filter.mpr ⟨hmem, hresolved⟩)).mpr hselected⟩

theorem operatorReadsAlike_iff :
    operatorReadsAlike g actor machine = true ↔
      ((storedLevel g actor machine).isSome = true →
        (membershipFor g.toState actor.user machine.makerspaceId).isSome = true →
        actor.user.isTenantDumpStub = false →
        if machine.makerspaceId ∈ archivedMakerspaceIds g.toState then actor.enabled = false
        else actor.enabled = true ∨ isMachineAdmin g (some actor) machine = true) := by
  rw [operatorReadsAlike]
  cases storedLevel g actor machine with
  | none => simp
  | some =>
    cases membershipFor g.toState actor.user machine.makerspaceId with
    | none => simp
    | some =>
      cases actor.user.isTenantDumpStub with
      | true => simp
      | false =>
        split
        · simp
        · simp

theorem scopedAdmin_served (h : scopedAdmin g actor machine = true) :
    actor.user.isTenantDumpStub = false ∧
      machine.makerspaceId ∉ archivedMakerspaceIds g.toState := by
  rw [scopedAdmin, decide_eq_true_eq, can, actorRefused] at h
  cases hstub : actor.user.isTenantDumpStub with
  | true => simp [hstub] at h
  | false =>
    refine ⟨rfl, fun harchived => ?_⟩
    simp [hstub, harchived] at h

theorem typeManager_served
    (h : typeManager g (some actor) machine.makerspaceId (managingAction g machine) = true) :
    actor.user.isTenantDumpStub = false ∧
      machine.makerspaceId ∉ archivedMakerspaceIds g.toState := by
  obtain ⟨-, hdirect⟩ := (typeManager_iff _ _).mp h
  obtain ⟨harchived, hreads⟩ := (canValue_and_grantsDirectly _).mp hdirect
  refine ⟨?_, harchived⟩
  split at hreads
  · next hsuper => simpa using (of_decide_eq_true hsuper).1
  · exact hreads.1

theorem typeQ_served (hmachine : machine ∈ g.machines) (h : typeQ g actor machine = true) :
    machine.makerspaceId ∉ archivedMakerspaceIds g.toState := by
  obtain ⟨_, hmakerspace, hid⟩ := g.housed machine hmachine
  obtain ⟨-, hcontains⟩ := (typeQ_iff machine).mp h
  rw [← hid] at hcontains ⊢
  exact ((contains_makerspacesGrantingDirectly hmakerspace).mp hcontains).1

theorem readsAlike_iff (hmachine : machine ∈ g.machines) (hmem : machine ∈ machines) :
    readsAlike g (some actor) machine = true ↔
      (machine ∈ scopeMachinesForActor g (some actor) machines ↔
        canOperateMachine g (some actor) machine = true) ∧
      (machine ∈ scopeManageableMachinesForActor g (some actor) machines ↔
        canManageMachine g (some actor) machine = true) := by
  rw [mem_scopeMachinesForActor hmachine hmem, mem_scopeManageableMachinesForActor hmachine hmem,
    canOperateMachine, decide_eq_true_eq, canManageMachine_iff, operatorLevel_manages,
    operatorLevel_operates, readsAlike]
  simp only [Bool.or_eq_true, Bool.and_eq_true, typeReadsAlike_iff hmachine, decide_eq_true_eq,
    operatorLevel_manages, operatorReadsAlike_iff, isMachineAdmin_iff,
    mem_activeMembershipMakerspaceIds]
  have hscoped : scopedAdmin g actor machine = true → _ := scopedAdmin_served
  have htype : typeManager g (some actor) machine.makerspaceId (managingAction g machine) = true →
      _ := typeManager_served
  have hlisted : typeQ g actor machine = true → _ := typeQ_served hmachine
  have hlevel : manages (storedLevel g actor machine) = true → _ := isSome_of_manages
  grind

/-- The three readings agree exactly when the stored rows about each machine read the same. -/
theorem readings_of_authority (g : Graph) (actor : Option Actor) (wanted : Machine → Bool) :
    OneAuthority g actor (g.machines.rows.filter wanted) ↔
      ∀ machine ∈ g.machines.rows.filter wanted, readsAlike g actor machine = true := by
  cases actor with
  | none =>
    refine iff_of_true ⟨capabilitiesForMachines_eq _ _, ?_, ?_⟩ fun _ _ => rfl
    · intro machine _
      simp [scopeMachinesForActor, canOperateMachine, canManageMachine, operatorLevel,
        isActiveMember, isMachineAdmin, principal, can, typeManager, canValue]
    · intro machine _
      simp [scopeManageableMachinesForActor, canManageMachine, operatorLevel,
        isActiveMember, isMachineAdmin, principal, can, typeManager, canValue]
  | some =>
    constructor
    · intro h machine hmem
      exact (readsAlike_iff (mem_filter.mp hmem).1 hmem).mpr
        ⟨h.operable machine hmem, h.manageable machine hmem⟩
    · intro h
      exact ⟨capabilitiesForMachines_eq _ _,
        fun machine hmem => ((readsAlike_iff (mem_filter.mp hmem).1 hmem).mp (h machine hmem)).1,
        fun machine hmem => ((readsAlike_iff (mem_filter.mp hmem).1 hmem).mp (h machine hmem)).2⟩

def archivedLab : Graph where
  makerspaces := ⟨[{ id := 1, archivedAt := some 5 }], by decide⟩
  memberships := ⟨[{ makerspaceId := 1, userId := 7, role := .custom }], by decide⟩
  assigned := by
    intro membership hmem id hid
    obtain rfl := mem_singleton.mp hmem
    cases hid
  machineTypes := ⟨[{ id := 3 }], by decide⟩
  machines := ⟨[{ id := 4, makerspaceId := 1, machineTypeId := 3 }], by decide⟩
  operators := ⟨[{ machineId := 4, userId := 7, accessLevel := .operate }], by decide⟩
  housed := by
    intro machine hmem
    obtain rfl := mem_singleton.mp hmem
    exact ⟨{ id := 1, archivedAt := some 5 }, .head _, rfl⟩
  typed := by
    intro machine hmem
    obtain rfl := mem_singleton.mp hmem
    decide

/-- The operator may operate the machine, and the list leaves it out. -/
theorem archivedLab_disagrees :
    canOperateMachine archivedLab (some { user := { id := 7 } }) ⟨4, 1, 3⟩ = true ∧
      scopeMachinesForActor archivedLab (some { user := { id := 7 } })
        archivedLab.machines.rows = [] ∧
      ¬ OneAuthority archivedLab (some { user := { id := 7 } }) archivedLab.machines.rows := by
  have hcan : canOperateMachine archivedLab (some { user := { id := 7 } }) ⟨4, 1, 3⟩ = true := by
    decide +kernel
  have hlist : scopeMachinesForActor archivedLab (some { user := { id := 7 } })
      archivedLab.machines.rows = [] := by
    decide +kernel
  refine ⟨hcan, hlist, fun h => ?_⟩
  have hmem := (h.operable ⟨4, 1, 3⟩ (.head _)).mpr hcan
  cases hmem

end MachineAccess
end SpaceWorks
