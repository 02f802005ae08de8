import SpaceWorks.Accounts.Rbac
import SpaceWorks.Library.Checked
import SpaceWorks.Library.Numbering
import SpaceWorks.Library.Python
import SpaceWorks.Library.Runs

/-!
# Changes to the roles of a makerspace

`apps/makerspaces/role_services.py`.  The ceiling on what a manager may grant is checked on stored
values, while authority is their expansion.
-/

namespace SpaceWorks
namespace Accounts

open Checked TransactionalSystem Numbering Closure Table List Option

inductive Element
  | null
  | bool (value : Bool)
  | number (literal : String)
  | string (value : String)
  deriving DecidableEq

/-- A JSON value as a set element; lists and objects have no hash. -/
def Json.element? : Json → Option Element
  | .null => some .null
  | .bool value => some (.bool value)
  | .number literal => some (.number literal)
  | .string value => some (.string value)
  | .array _ | .object _ => none

def Json.toSet? : Json → Option (List Element)
  | .array items => items.mapM Json.element?
  | .string value => some (value.toList.map fun c => .string (String.singleton c))
  | .object fields => some (fields.map fun field => .string field.1)
  | .null | .bool _ | .number _ => none

def sameSet (xs ys : List Element) : Bool :=
  (∀ x ∈ xs, x ∈ ys) ∧ ∀ y ∈ ys, y ∈ xs

def sortedVocabulary : List Action :=
  [.acceptRequest, .assignBox, .collectServiceRequest, .editInventory, .issueDirectLoan,
    .issueRequest, .manageBookings, .manageEvents, .manageMachines, .manageMakerspace,
    .managePrinting, .manageQr, .manageStaff, .rejectRequest, .returnRequest, .transferStock,
    .uploadEvidence, .viewAudit, .viewInventory]

example : (sortedVocabulary.map Action.value).Pairwise (· < ·) := by decide +kernel

/-- `sorted(values)` of a set of actions. -/
def sortedActions (values : List Action) : List Action :=
  sortedVocabulary.filter (· ∈ values)

theorem mem_sortedActions {action : Action} :
    action ∈ sortedActions values ↔ action ∈ values := by
  have hvocabulary : action ∈ sortedVocabulary := by
    cases action <;> simp [sortedVocabulary]
  simp [sortedActions, hvocabulary]

def storedActions (values : List Action) : Json :=
  .array ((sortedActions values).map fun action => .string action.value)

theorem containsValue_storedActions {action : Action} :
    (storedActions values).containsValue action.value = true ↔ action ∈ values := by
  simp [storedActions, Json.containsValue, Json.asString?, value_injective.eq_iff,
    mem_sortedActions]

inductive Refusal
  | notAuthenticated
  | doesNotExist (model : String)
  | permissionDenied (detail : String)
  | validation (field message : String)
  | roleConflict (detail : String)
  | quota (resource : String)
  | integrity (constraint : String)
  | typeError

/-- Django's slugs, the database's case folding and the fair-use limits. -/
structure Platform where
  slugify : String → String
  lower : String → String
  withinQuota : State → Nat → Bool

variable (p : Platform) (s : State) {values : List Action} {a b : Action}

def lockedOrganizationActions (actor : User) (makerspaceId : Nat) : List Action :=
  let organizationIds := (s.makerspaceLinks.filter (·.makerspaceId = makerspaceId)).map
      OrganizationMakerspace.organizationId
  if organizationIds = [] then []
  else
    ((organizationAuthorityMemberships s actor).filter fun row =>
      row.2.makerspaceId = makerspaceId ∧ row.1.organizationId ∈ organizationIds).flatMap
        fun row => actionsForOrganizationMembership s row.1

def lockedActorActions (actor : User) (makerspace : Makerspace) : List Action :=
  if actor.superadmin ∧ makerspace.superadminAccessEnabled then roleGrantableActions
  else actionsForMembership s (membershipFor s actor makerspace.id) ++
    lockedOrganizationActions s actor makerspace.id

def cleanActions (actions : Json) : Except Refusal (List Action) := do
  let values ← orRefuse
    (match actions with
    | .array items => items.mapM Json.asString?
    | _ => none)
    (.validation "granted_actions" "Use a list of action values.")
  require (∀ action ∈ roleForbiddenActions, action.value ∉ values)
    (.validation "granted_actions" "This action cannot be granted to a makerspace role.")
  orRefuse (values.mapM Action.ofValue?) (.validation "granted_actions" "Unknown action value.")

def validateActions (actor : User) (makerspace : Makerspace) (actions : Json)
    (role : Option MakerspaceRole) : Except Refusal (List Action) := do
  let values ← cleanActions actions
  let actorActions := lockedActorActions s actor makerspace
  require (Action.manageMakerspace ∈ actorActions) (.permissionDenied "")
  require (actor.superadmin = true ∨
    ∀ action ∈ values, action ∈ actorActions ∧ action ≠ .manageMakerspace) (.permissionDenied "")
  require (role.bind MakerspaceRole.legacyRole = some .spaceManager →
      Action.manageMakerspace ∈ values)
    (.validation "granted_actions" "The Space Manager role must retain manage_makerspace.")
  return values

def canAssignRole (actor : User) (makerspace : Makerspace) (role : MakerspaceRole)
    (target : MakerspaceMembership) : Except Refusal Unit := do
  require (role.makerspaceId = makerspace.id) (.permissionDenied "")
  let actions ← cleanActions role.grantedActions
  let actorActions := lockedActorActions s actor makerspace
  require (Action.manageMakerspace ∈ actorActions) (.permissionDenied "")
  if actor.superadmin then return ()
  else do
    require (Action.manageMakerspace ∉ actionsForMembership s (some target)) (.permissionDenied "")
    require (Action.manageMakerspace ∉ actions ∧ ∀ action ∈ actions, action ∈ actorActions)
      (.permissionDenied "")

def otherRoles (makerspaceId : Nat) (roleId : Option Nat) : List MakerspaceRole :=
  s.roles.rows.filter fun role => role.makerspaceId = makerspaceId ∧ some role.id ≠ roleId

/-- `_slug_for`; the loop meets a used slug in every turn but the last. -/
def slugFor (makerspaceId : Nat) (name : String) (roleId : Option Nat) :
    Except Refusal String := do
  let short := (p.slugify name).toList.take 72
  let root := if short = [] then "role".toList else short
  let candidate : Nat → String := fun turn =>
    if turn = 0 then String.ofList root
    else
      let suffix := toString (turn + 1)
      String.ofList (root.take (80 - suffix.length - 1)) ++ "-" ++ suffix
  let used := (otherRoles s makerspaceId roleId).map fun role => p.lower role.slug
  let turn ← orRefuse (firstUnused (fun turn => p.lower (candidate turn)) used (used.length + 1) 0)
    (.doesNotExist "slug")
  return candidate turn

def nameTaken (makerspaceId : Nat) (name : String) (roleId : Option Nat) : Bool :=
  (otherRoles s makerspaceId roleId).any fun role =>
    p.lower role.name = p.lower (Python.strip name)

/-- The checks of `MakerspaceRole.save` and of the table, and the row. -/
def savedRole (role : MakerspaceRole) : Except Refusal MakerspaceRole := do
  let name := Python.strip role.name
  require (name ≠ "") (.validation "name" "Role name cannot be blank.")
  require (∀ other ∈ otherRoles s role.makerspaceId (some role.id),
    p.lower other.name ≠ p.lower name) (.integrity "makerspacerole_ci_name_uniq")
  require (∀ other ∈ otherRoles s role.makerspaceId (some role.id),
    p.lower other.slug ≠ p.lower role.slug) (.integrity "makerspacerole_ci_slug_uniq")
  return { role with name := name }

variable {s : State}

def State.addRole (s : State) (role : MakerspaceRole) (hnew : s.roles.get? (key role) = none) :
    State :=
  { s with
    roles := s.roles.insert role hnew
    assigned := by
      intro membership hmem id hid
      rw [get?_insert]
      split
      · rfl
      · exact s.assigned membership hmem id hid }

def State.putRole (s : State) (role : MakerspaceRole) : State :=
  { s with
    roles := s.roles.put role
    assigned := by
      intro membership hmem id hid
      rw [get?_put]
      split
      · rw [isSome_map]
        exact s.assigned membership hmem id hid
      · exact s.assigned membership hmem id hid }

def State.dropRole (s : State) (roleId : Nat)
    (hfree : ∀ membership ∈ s.memberships, membership.assignedRoleId ≠ some roleId) : State :=
  { s with
    roles := s.roles.erase roleId
    assigned := by
      intro membership hmem id hid
      rw [get?_erase, if_neg]
      · exact s.assigned membership hmem id hid
      · rintro rfl
        exact hfree membership hmem hid }

def State.putMembership (s : State) (membership : MakerspaceMembership)
    (hrole : ∀ id, membership.assignedRoleId = some id → (s.roles.get? id).isSome) : State :=
  { s with
    memberships := s.memberships.put membership
    assigned := by
      intro other hmem id hid
      rcases mem_of_mem_put hmem with rfl | ⟨hold, -⟩
      · exact hrole id hid
      · exact s.assigned other hold id hid }

variable (s : State)

def createRole (makerspaceId : Nat) (actor : User) (name : String) (grantedActions : Json) :
    Except Refusal State := do
  let makerspace ← orRefuse (s.makerspaces.get? makerspaceId) (.doesNotExist "Makerspace")
  let actions ← validateActions s actor makerspace grantedActions none
  require (nameTaken p s makerspaceId name none = false)
    (.validation "name" "A role with this name already exists.")
  require (p.withinQuota s makerspaceId = true) (.quota "custom_roles")
  let slug ← slugFor p s makerspaceId name none
  let role ← savedRole p s
    { id := s.roles.nextKey, makerspaceId := makerspaceId, name := name, slug := slug,
      grantedActions := storedActions actions }
  if hnew : s.roles.get? (key role) = none then return s.addRole role hnew
  else throw (.integrity "makerspaces_makerspacerole_pkey")

def isProtectedMemberRole (role : MakerspaceRole) : Bool :=
  role.isProtected ∧ role.slug = "member"

/-- The rename of `update_role`. -/
def renamedRole (role : MakerspaceRole) (name : Option String) : Except Refusal MakerspaceRole :=
  match name with
  | none => return role
  | some name =>
    if Python.strip name = role.name then return role
    else do
      require (nameTaken p s role.makerspaceId name (some role.id) = false)
        (.validation "name" "A role with this name already exists.")
      let slug ← slugFor p s role.makerspaceId name (some role.id)
      return { role with name := name, slug := slug }

/-- The grants of `update_role`, and whether they are new. -/
def regrantedRole (actor : User) (makerspace : Makerspace) (role : MakerspaceRole)
    (oldActions : List Element) (grantedActions : Option Json) :
    Except Refusal (MakerspaceRole × Bool) :=
  match grantedActions with
  | none => return (role, false)
  | some grantedActions => do
    let actions ← validateActions s actor makerspace grantedActions (some role)
    let changed := !sameSet (actions.map fun action => .string action.value) oldActions
    require (¬ (changed = true ∧ .string Action.manageMakerspace.value ∈ oldActions ∧
        actor.superadmin = false))
      (.permissionDenied "Only a superadmin can change a makerspace manager role.")
    return ({ role with grantedActions := storedActions actions }, changed)

def updateRole (makerspaceId : Nat) (actor : User) (roleId : Nat) (name : Option String)
    (grantedActions : Option Json) : Except Refusal State := do
  let makerspace ← orRefuse (s.makerspaces.get? makerspaceId) (.doesNotExist "Makerspace")
  let role ← orRefuse ((s.roles.get? roleId).filter (·.makerspaceId = makerspaceId))
    (.doesNotExist "MakerspaceRole")
  require (Action.manageMakerspace ∈ lockedActorActions s actor makerspace) (.permissionDenied "")
  let oldActions ← orRefuse role.grantedActions.toSet? .typeError
  require (isProtectedMemberRole role = true →
      (∀ new, name = some new → Python.strip new = role.name) ∧
      ∀ new, grantedActions = some new →
        (new.toSet?.any fun actions => sameSet actions oldActions) = true)
    (.roleConflict "The protected Member role cannot be renamed or have its actions changed.")
  let renamed ← renamedRole p s role name
  let (regranted, changed) ← regrantedRole s actor makerspace renamed oldActions grantedActions
  if renamed.name ≠ role.name ∨ renamed.slug ≠ role.slug ∨ changed = true then do
    let saved ← savedRole p s regranted
    return s.putRole saved
  else return s

def assignRole (makerspaceId : Nat) (actor : User) (membershipKey : Nat × Nat) (roleId : Nat) :
    Except Refusal State := do
  let makerspace ← orRefuse (s.makerspaces.get? makerspaceId) (.doesNotExist "Makerspace")
  match hrole : s.roles.get? roleId with
  | none => throw (.doesNotExist "MakerspaceRole")
  | some role =>
    require (role.makerspaceId = makerspaceId) (.permissionDenied "")
    let membership ← orRefuse (s.memberships.get? membershipKey)
      (.doesNotExist "MakerspaceMembership")
    require (membership.makerspaceId = makerspaceId) (.permissionDenied "")
    canAssignRole s actor makerspace role membership
    return s.putMembership
      { membership with assignedRoleId := some roleId, role := role.legacyRole.getD .custom }
      (by
        rintro id hid
        obtain rfl : roleId = id := some.inj hid
        rw [hrole]
        rfl)

def deleteRole (makerspaceId : Nat) (actor : User) (roleId : Nat) : Except Refusal State := do
  let makerspace ← orRefuse (s.makerspaces.get? makerspaceId) (.doesNotExist "Makerspace")
  let role ← orRefuse ((s.roles.get? roleId).filter (·.makerspaceId = makerspaceId))
    (.doesNotExist "MakerspaceRole")
  require (Action.manageMakerspace ∈ lockedActorActions s actor makerspace) (.permissionDenied "")
  require (role.isProtected = false) (.roleConflict "")
  if hfree : ∀ membership ∈ s.memberships.rows, membership.assignedRoleId ≠ some roleId then
    return s.dropRole roleId hfree
  else throw (.roleConflict "")

inductive Call
  | createRole (name : String) (grantedActions : Json)
  | updateRole (roleId : Nat) (name : Option String) (grantedActions : Option Json)
  | assignRole (membershipKey : Nat × Nat) (roleId : Nat)
  | deleteRole (roleId : Nat)

structure Request where
  actor : User
  makerspaceId : Nat
  call : Call

def step (request : Request) : Except Refusal State := do
  require (actorRefused (some request.actor) = false) .notAuthenticated
  match request.call with
  | .createRole name grantedActions =>
    createRole p s request.makerspaceId request.actor name grantedActions
  | .updateRole roleId name grantedActions =>
    updateRole p s request.makerspaceId request.actor roleId name grantedActions
  | .assignRole membershipKey roleId =>
    assignRole s request.makerspaceId request.actor membershipKey roleId
  | .deleteRole roleId => deleteRole s request.makerspaceId request.actor roleId

variable {p : Platform} {s t : State} {actor : User} {makerspace : Makerspace}

def grants (s : State) (membershipKey : Nat × Nat) : List Action :=
  actionsForMembership s (s.memberships.get? membershipKey)

theorem actionsForMembership_membershipFor (s : State) (user : User) (id : Nat) :
    actionsForMembership s (membershipFor s user id) = grants s (id, user.id) := by
  rw [membershipFor, grants]
  cases s.memberships.get? (id, user.id) with
  | none => rfl
  | some membership =>
    by_cases hactive : membership.status = .active
    · rw [filter_some_pos (by simpa using hactive)]
    · rw [filter_some_neg (by simpa using hactive), actionsForMembership,
        actionsForMembership, if_pos hactive]

theorem mem_lockedOrganizationActions {action : Action} (id : Nat) :
    action ∈ lockedOrganizationActions s actor id ↔ action ∈ orgActionsFor s actor id := by
  have hlinked : ∀ row ∈ organizationAuthorityMemberships s actor, row.2.makerspaceId = id →
      row.1.organizationId ∈ (s.makerspaceLinks.filter (·.makerspaceId = id)).map
        OrganizationMakerspace.organizationId := by
    rintro ⟨_, link⟩ hmem hid
    simp [organizationAuthorityMemberships] at hmem
    refine List.mem_map.mpr ⟨link, mem_filter.mpr ⟨hmem.1.2, ?_⟩, hmem.2.2.2.1⟩
    simpa using hid
  rw [lockedOrganizationActions, orgActionsFor]
  split
  · next hnone =>
      simp only [not_mem_nil, mem_flatMap, mem_filter, false_iff, not_exists,
        not_and, decide_eq_true_eq]
      rintro row ⟨hmem, hid⟩
      have hlink := hlinked row hmem hid
      rw [hnone] at hlink
      cases hlink
  · simp only [mem_flatMap, mem_filter, Bool.decide_and, Bool.and_eq_true, decide_eq_true_eq]
    constructor
    · rintro ⟨row, ⟨hmem, hid, -⟩, h⟩
      exact ⟨row, ⟨hmem, hid⟩, h⟩
    · rintro ⟨row, ⟨hmem, hid⟩, h⟩
      exact ⟨row, ⟨hmem, hid, hlinked row hmem hid⟩, h⟩

theorem actionsForMembership_closed {membership : Option MakerspaceMembership}
    (ha : a ∈ actionsForMembership s membership) (hb : b ∈ impliedActions a) :
    b ∈ actionsForMembership s membership := by
  unfold actionsForMembership at ha ⊢
  split at ha
  · cases ha
  · split at ha
    · cases ha
    · next hactive =>
        rw [if_neg hactive]
        split at ha
        · split at ha
          · cases ha
          · split at ha
            · cases ha
            · next hsame =>
                rw [if_neg hsame]
                split at ha
                · cases ha
                · next hlist =>
                    rw [if_neg hlist]
                    exact closure_closed ha hb
        · exact closure_closed ha hb

theorem lockedActorActions_closed (hlocal : actor.superadmin = false)
    (ha : a ∈ lockedActorActions s actor makerspace) (hb : b ∈ impliedActions a) :
    b ∈ lockedActorActions s actor makerspace := by
  rw [lockedActorActions, if_neg (by simp [hlocal])] at ha ⊢
  rcases mem_append.mp ha with hmember | horganization
  · exact mem_append_left _ (actionsForMembership_closed hmember hb)
  · refine mem_append_right _ ?_
    rw [mem_lockedOrganizationActions] at horganization ⊢
    obtain ⟨row, hrow, h⟩ := mem_flatMap.mp horganization
    refine mem_flatMap.mpr ⟨row, hrow, ?_⟩
    unfold actionsForOrganizationMembership at h ⊢
    split at h
    · cases h
    · next husable =>
        rw [if_neg husable]
        split at h
        · cases h
        · next hlist =>
            rw [if_neg hlist]
            exact closure_closed h hb

theorem expand_le_ceiling (hlocal : actor.superadmin = false) {values : List Action}
    (h : ∀ action ∈ values,
      action ∈ lockedActorActions s actor makerspace ∧ action ≠ .manageMakerspace)
    {action : Action} (hmem : action ∈ expandImpliedActions values) :
    action ∈ lockedActorActions s actor makerspace ∧ action ≠ .manageMakerspace := by
  refine closure_induction h ?_ hmem
  intro a b ha hb
  refine ⟨lockedActorActions_closed hlocal ha.1 hb, ?_⟩
  rintro rfl
  cases a <;> simp [impliedActions] at hb

theorem validateActions_ceiling
    (hlocal : actor.superadmin = false) {actions : Json} {role : Option MakerspaceRole}
    (h : validateActions s actor makerspace actions role = .ok values) :
    ∀ action ∈ values,
      action ∈ lockedActorActions s actor makerspace ∧ action ≠ .manageMakerspace := by
  simp only [validateActions, bind_ok, require_ok, pure_ok, hlocal, Bool.false_eq_true,
    false_or] at h
  obtain ⟨_, _, _, _, _, hceiling, _, _, rfl⟩ := h
  exact hceiling

variable {membership : MakerspaceMembership} {roleId makerspaceId : Nat} {role : MakerspaceRole}
variable {action : Action} {json : Json} {name : Option String} {grantedActions : Option Json}

/-- The parts of the graph that no call about roles writes. -/
structure SameGraph (s t : State) : Prop where
  makerspaces : t.makerspaces = s.makerspaces
  organizations : t.organizations = s.organizations
  makerspaceLinks : t.makerspaceLinks = s.makerspaceLinks
  organizationMemberships : t.organizationMemberships = s.organizationMemberships
  componentStates : t.componentStates = s.componentStates

theorem SameGraph.refl (s : State) : SameGraph s s := ⟨rfl, rfl, rfl, rfl, rfl⟩

/-- The changed membership is in the makerspace, did not manage it, and ends under the actor's
ceiling. -/
def UnderCeiling (s t : State) (actor : User) (makerspaceId : Nat) (membershipKey : Nat × Nat) :
    Prop :=
  ∃ makerspace, s.makerspaces.get? makerspaceId = some makerspace ∧
    membershipKey.1 = makerspaceId ∧ Action.manageMakerspace ∉ grants s membershipKey ∧
    ∀ action ∈ grants t membershipKey,
      action ∈ lockedActorActions s actor makerspace ∧ action ≠ .manageMakerspace

theorem actionsForMembership_congr (h : ∀ id, membership.assignedRoleId = some id →
      (t.roles.get? id).map (fun role => (role.makerspaceId, role.grantedActions)) =
        (s.roles.get? id).map (fun role => (role.makerspaceId, role.grantedActions))) :
    actionsForMembership t (some membership) = actionsForMembership s (some membership) := by
  rw [actionsForMembership, actionsForMembership]
  split
  · rfl
  · cases hassigned : membership.assignedRoleId with
    | none => rfl
    | some id =>
      have hroles := h id hassigned
      cases hs : s.roles.get? id with
      | none =>
        rw [hs, map_none, map_eq_none_iff] at hroles
        simp [hs, hroles]
      | some =>
        rw [hs, map_some, map_eq_some_iff] at hroles
        obtain ⟨_, ht, heq⟩ := hroles
        obtain ⟨hmakerspace, hgranted⟩ := Prod.mk.inj heq
        simp [hs, ht, hmakerspace, hgranted]

theorem mem_actionsForMembership_assigned (hassigned : membership.assignedRoleId = some roleId)
    (hrole : s.roles.get? roleId = some role)
    (h : action ∈ actionsForMembership s (some membership)) :
    role.makerspaceId = membership.makerspaceId ∧ role.grantedActions.isList = true ∧
      action ∈ expandImpliedActions (role.grantedActions.actionsIn roleGrantableActions) := by
  rw [actionsForMembership] at h
  split at h
  · cases h
  · simp only [hassigned, hrole] at h
    split at h
    · cases h
    · next hsame =>
        split at h
        · cases h
        · next hlist => exact ⟨Decidable.not_not.mp hsame, by simpa using hlist, h⟩

theorem grants_putMembership (new : MakerspaceMembership) {old : MakerspaceMembership} {hrole}
    (hold : s.memberships.get? (key new) = some old) (membershipKey : Nat × Nat) :
    grants (s.putMembership new hrole) membershipKey =
      if membershipKey = key new then actionsForMembership s (some new)
      else grants s membershipKey := by
  change actionsForMembership s ((s.memberships.put new).get? membershipKey) = _
  split
  · next hkey => rw [hkey, get?_put_self hold]
  · next hkey => rw [get?_put_of_ne s.memberships hkey, grants]

theorem grants_le_ceiling (hlocal : actor.superadmin = false)
    (h : ∀ action, json.containsValue action.value = true →
      action ∈ lockedActorActions s actor makerspace ∧ action ≠ .manageMakerspace)
    (hmem : action ∈ expandImpliedActions (json.actionsIn roleGrantableActions)) :
    action ∈ lockedActorActions s actor makerspace ∧ action ≠ .manageMakerspace :=
  expand_le_ceiling hlocal (fun a ha => h a (mem_actionsIn.mp ha).1) hmem

theorem containsValue_of_manage
    (h : Action.manageMakerspace ∈ expandImpliedActions (json.actionsIn roleGrantableActions)) :
    json.containsValue Action.manageMakerspace.value = true := by
  obtain ⟨a, hsatisfies, -, hcontains⟩ := mem_expand_actionsIn.mp h
  have hself : a = .manageMakerspace := by
    refine closure_induction (P := (· = Action.manageMakerspace)) ?_ ?_ hsatisfies
    · intro b hb
      exact mem_singleton.mp hb
    · rintro _ c rfl hc
      simp [implyingActions] at hc
      have himplied := hc.2
      cases c <;> simp [impliedActions] at himplied
  exact hself ▸ hcontains

theorem mem_of_mapM_eq_some {α β : Type} {f : α → Option β} {xs : List α} {ys : List β}
    (h : xs.mapM f = some ys) {x : α} (hx : x ∈ xs) : ∃ y ∈ ys, f x = some y := by
  induction xs generalizing ys with
  | nil => cases hx
  | cons _ _ ih =>
    simp [bind_eq_some_iff] at h
    obtain ⟨b, hb, _, hrest, rfl⟩ := h
    cases hx with
    | head => exact ⟨b, mem_cons_self, hb⟩
    | tail _ hmem =>
      obtain ⟨y, hy, hfx⟩ := ih hrest hmem
      exact ⟨y, mem_cons_of_mem b hy, hfx⟩

theorem string_mem_toSet {values : List Element} (h : json.toSet? = some values) {value : String}
    (hcontains : json.containsValue value = true) : .string value ∈ values := by
  cases json with
  | array =>
    simp [Json.containsValue] at hcontains
    obtain ⟨item, hitem, hstring⟩ := hcontains
    obtain ⟨_, hmem, helement⟩ := mem_of_mapM_eq_some h hitem
    cases item with
    | string v =>
      obtain rfl : v = value := some.inj hstring
      cases helement
      exact hmem
    | null | bool _ | number _ | array _ | object _ => cases hstring
  | null | bool _ | number _ | string _ | object _ => cases hcontains

theorem mem_cleanActions {actions : List Action} (h : cleanActions json = .ok actions)
    (hcontains : json.containsValue action.value = true) : action ∈ actions := by
  simp only [cleanActions, bind_ok, orRefuse_ok, require_ok] at h
  obtain ⟨_, hvalues, _, _, hactions⟩ := h
  cases json with
  | array =>
    simp [Json.containsValue] at hcontains
    obtain ⟨_, hitem, hstring⟩ := hcontains
    obtain ⟨value, hvalue, hvalueItem⟩ := mem_of_mapM_eq_some hvalues hitem
    obtain rfl : action.value = value := some.inj (hstring.symm.trans hvalueItem)
    obtain ⟨_, hmem, hfound⟩ := mem_of_mapM_eq_some hactions hvalue
    rw [value_injective (ofValue?_eq_some.mp hfound)] at hmem
    exact hmem
  | null | bool _ | number _ | string _ | object _ => cases hcontains

theorem createRole_grants {name : String} {grantedActions : Json}
    (h : createRole p s makerspaceId actor name grantedActions = .ok t) :
    SameGraph s t ∧ ∀ membershipKey, grants t membershipKey = grants s membershipKey := by
  simp only [createRole, bind_ok] at h
  obtain ⟨_, _, _, _, _, _, _, _, _, _, role, _, h⟩ := h
  split at h
  · next hnew =>
      obtain rfl := pure_ok.mp h
      refine ⟨⟨rfl, rfl, rfl, rfl, rfl⟩, fun membershipKey => ?_⟩
      rw [grants, grants]
      change actionsForMembership _ (s.memberships.get? membershipKey) = _
      cases hget : s.memberships.get? membershipKey with
      | none => rfl
      | some membership =>
        refine actionsForMembership_congr fun id hid => ?_
        change ((s.roles.insert role hnew).get? id).map _ = _
        rw [get?_insert, if_neg]
        rintro rfl
        have hexists := s.assigned membership (mem_of_get? hget) _ hid
        rw [hnew] at hexists
        cases hexists
  · cases h

theorem deleteRole_grants (h : deleteRole s makerspaceId actor roleId = .ok t) :
    SameGraph s t ∧ ∀ membershipKey, grants t membershipKey = grants s membershipKey := by
  simp only [deleteRole, bind_ok] at h
  obtain ⟨_, _, _, _, _, _, _, _, h⟩ := h
  split at h
  · next hfree =>
      obtain rfl := pure_ok.mp h
      refine ⟨⟨rfl, rfl, rfl, rfl, rfl⟩, fun membershipKey => ?_⟩
      rw [grants, grants]
      change actionsForMembership _ (s.memberships.get? membershipKey) = _
      cases hget : s.memberships.get? membershipKey with
      | none => rfl
      | some membership =>
        refine actionsForMembership_congr fun id hid => ?_
        change ((s.roles.erase roleId).get? id).map _ = _
        rw [get?_erase, if_neg]
        rintro rfl
        exact hfree membership (mem_of_get? hget) hid
  · cases h

theorem assignRole_grants {assignedKey : Nat × Nat} (hlocal : actor.superadmin = false)
    (h : assignRole s makerspaceId actor assignedKey roleId = .ok t) :
    SameGraph s t ∧ ∀ membershipKey, grants t membershipKey = grants s membershipKey ∨
      UnderCeiling s t actor makerspaceId membershipKey := by
  simp only [assignRole, bind_ok, orRefuse_ok] at h
  obtain ⟨makerspace, hmakerspace, h⟩ := h
  split at h
  · cases h
  · next role hrole =>
      simp only [bind_ok, require_ok, orRefuse_ok, pure_ok, canAssignRole, hlocal,
        Bool.false_eq_true, if_false] at h
      obtain ⟨_, _, membership, hget, _, hmember, _, ⟨_, _, _, hclean, _, _, _,
        htarget, hnoManage, hceiling⟩, rfl⟩ := h
      refine ⟨⟨rfl, rfl, rfl, rfl, rfl⟩, fun membershipKey => ?_⟩
      have hkey : key membership = assignedKey := key_of_get? hget
      have hold : s.memberships.get? (key membership) = some membership := hkey ▸ hget
      rw [grants_putMembership
        { membership with assignedRoleId := some roleId, role := role.legacyRole.getD .custom }
        hold]
      by_cases hsame : membershipKey = key membership
      · right
        refine ⟨makerspace, hmakerspace, ?_, ?_, fun action haction => ?_⟩
        · rw [hsame]
          exact hmember
        · rw [grants, hsame, hold]
          exact htarget
        · rw [grants_putMembership
            { membership with assignedRoleId := some roleId, role := role.legacyRole.getD .custom }
            hold] at haction
          split at haction
          · refine grants_le_ceiling hlocal (fun a ha => ?_)
              (mem_actionsForMembership_assigned rfl hrole haction).2.2
            have hcleaned := mem_cleanActions hclean ha
            refine ⟨hceiling a hcleaned, ?_⟩
            rintro rfl
            exact hnoManage hcleaned
          · next hother => exact absurd hsame hother
      · exact .inl (if_neg hsame)

theorem savedRole_spec {saved : MakerspaceRole} (h : savedRole p s role = .ok saved) :
    saved.id = role.id ∧ saved.makerspaceId = role.makerspaceId ∧
      saved.grantedActions = role.grantedActions := by
  simp [savedRole] at h
  obtain ⟨_, _, _, _, _, _, rfl⟩ := h
  exact ⟨rfl, rfl, rfl⟩

theorem renamedRole_spec {renamed : MakerspaceRole} (h : renamedRole p s role name = .ok renamed) :
    renamed.id = role.id ∧ renamed.makerspaceId = role.makerspaceId ∧
      renamed.grantedActions = role.grantedActions := by
  cases name with
  | none =>
    obtain rfl := pure_ok.mp h
    exact ⟨rfl, rfl, rfl⟩
  | some =>
    rw [renamedRole] at h
    split at h
    · obtain rfl := pure_ok.mp h
      exact ⟨rfl, rfl, rfl⟩
    · simp at h
      obtain ⟨_, _, _, _, rfl⟩ := h
      exact ⟨rfl, rfl, rfl⟩

theorem regrantedRole_spec (hlocal : actor.superadmin = false) {new : MakerspaceRole}
    {oldActions : List Element} {changed : Bool}
    (hold : role.grantedActions.toSet? = some oldActions)
    (h : regrantedRole s actor makerspace role oldActions grantedActions = .ok (new, changed)) :
    new.id = role.id ∧ new.makerspaceId = role.makerspaceId ∧
      (new.grantedActions = role.grantedActions ∨
        (∀ action, new.grantedActions.containsValue action.value = true →
          action ∈ lockedActorActions s actor makerspace ∧ action ≠ .manageMakerspace) ∧
        role.grantedActions.containsValue Action.manageMakerspace.value = false) := by
  cases grantedActions with
  | none =>
    obtain ⟨rfl, -⟩ := Prod.mk.inj (pure_ok.mp h)
    exact ⟨rfl, rfl, .inl rfl⟩
  | some =>
    simp only [regrantedRole, bind_ok, require_ok, pure_ok, Prod.mk.injEq] at h
    obtain ⟨_, hvalid, _, hkeeps, rfl, rfl⟩ := h
    have hceiling := validateActions_ceiling hlocal hvalid
    refine ⟨rfl, rfl, .inr ⟨fun action haction => ?_, ?_⟩⟩
    · exact hceiling action (containsValue_storedActions.mp haction)
    · rw [← Bool.not_eq_true]
      intro hmanage
      have hmem := string_mem_toSet hold hmanage
      apply hkeeps
      refine ⟨?_, hmem, hlocal⟩
      rw [Bool.not_eq_true', sameSet, decide_eq_false_iff_not]
      rintro ⟨-, hsub⟩
      obtain ⟨action, haction, hvalue⟩ := List.mem_map.mp (hsub _ hmem)
      have heq := value_injective (Element.string.inj hvalue)
      exact (hceiling action haction).2 heq

theorem updateRole_grants (hlocal : actor.superadmin = false)
    (h : updateRole p s makerspaceId actor roleId name grantedActions = .ok t) :
    SameGraph s t ∧ ∀ membershipKey, grants t membershipKey = grants s membershipKey ∨
      UnderCeiling s t actor makerspaceId membershipKey := by
  simp only [updateRole, bind_ok, orRefuse_ok, require_ok, Prod.exists,
    filter_eq_some_iff, decide_eq_true_eq] at h
  obtain ⟨makerspace, hmakerspace, role, ⟨hrole, hroleSpace⟩, _, _, _, hold, _, _,
    _, hrename, _, _, hregrant, h⟩ := h
  obtain ⟨hrenamedId, hrenamedSpace, hrenamedGrants⟩ := renamedRole_spec hrename
  rw [← hrenamedGrants] at hold
  obtain ⟨hregrantedId, hregrantedSpace, hgrants⟩ := regrantedRole_spec hlocal hold hregrant
  split at h
  · simp at h
    obtain ⟨saved, hsaved, rfl⟩ := h
    obtain ⟨hsavedId, hsavedSpace, hsavedGrants⟩ := savedRole_spec hsaved
    have hkey : key saved = roleId := by
      rw [key_role, hsavedId, hregrantedId, hrenamedId]
      exact key_of_get? hrole
    have hspace : saved.makerspaceId = role.makerspaceId := by
      rw [hsavedSpace, hregrantedSpace, hrenamedSpace]
    rw [← hsavedGrants, hrenamedGrants] at hgrants
    have hput : (s.roles.put saved).get? roleId = some saved := by
      rw [← hkey]
      exact get?_put_self (hkey ▸ hrole)
    refine ⟨⟨rfl, rfl, rfl, rfl, rfl⟩, fun membershipKey => ?_⟩
    have hgrantsAfter : grants (s.putRole saved) membershipKey =
        actionsForMembership (s.putRole saved) (s.memberships.get? membershipKey) := rfl
    rw [UnderCeiling, hgrantsAfter, grants]
    cases hget : s.memberships.get? membershipKey with
    | none => exact .inl rfl
    | some membership =>
      by_cases hchanged : membership.assignedRoleId = some roleId ∧
          membership.makerspaceId = makerspaceId ∧ saved.grantedActions ≠ role.grantedActions
      · obtain ⟨hassigned, hmember, hnew⟩ := hchanged
        obtain ⟨hceiling, hnoManage⟩ := hgrants.resolve_left hnew
        right
        refine ⟨makerspace, hmakerspace, ?_, fun hmanage => ?_, fun action haction => ?_⟩
        · rw [← key_of_get? hget]
          exact hmember
        · have hexpand := (mem_actionsForMembership_assigned hassigned hrole hmanage).2.2
          rw [containsValue_of_manage hexpand] at hnoManage
          cases hnoManage
        · have hput' : (s.putRole saved).roles.get? roleId = some saved := hput
          exact grants_le_ceiling hlocal hceiling
            (mem_actionsForMembership_assigned hassigned hput' haction).2.2
      · left
        by_cases hforeign : membership.assignedRoleId = some roleId ∧
            membership.makerspaceId ≠ makerspaceId
        · obtain ⟨hassigned, hmember⟩ := hforeign
          have hempty : ∀ {u : State} {found : MakerspaceRole},
              u.roles.get? roleId = some found → found.makerspaceId = makerspaceId →
                actionsForMembership u (some membership) = [] := by
            intro u found hfound hfoundSpace
            refine eq_nil_iff_forall_not_mem.mpr fun action haction => hmember ?_
            rw [← (mem_actionsForMembership_assigned hassigned hfound haction).1]
            exact hfoundSpace
          have hput' : (s.putRole saved).roles.get? roleId = some saved := hput
          rw [hempty hput' (hspace.trans hroleSpace), hempty hrole hroleSpace]
        · refine actionsForMembership_congr fun id hid => ?_
          change ((s.roles.put saved).get? id).map _ = _
          by_cases hsame : id = roleId
          · subst hsame
            have hkept : saved.grantedActions = role.grantedActions := by
              by_contra hnew
              exact hchanged ⟨hid, by_contra fun hmember => hforeign ⟨hid, hmember⟩, hnew⟩
            rw [hput, hrole, map_some, map_some, hspace, hkept]
          · rw [get?_put_of_ne s.roles (by rw [hkey]; exact hsame)]
  · obtain rfl := pure_ok.mp h
    exact ⟨.refl _, fun _ => .inl rfl⟩

variable {request : Request} {user : User} {id : Nat}

theorem step_grants (hlocal : request.actor.superadmin = false) (h : step p s request = .ok t) :
    actorRefused (some request.actor) = false ∧ SameGraph s t ∧
      ∀ membershipKey, grants t membershipKey = grants s membershipKey ∨
        UnderCeiling s t request.actor request.makerspaceId membershipKey := by
  simp only [step, bind_ok, require_ok] at h
  obtain ⟨_, hprincipal, h⟩ := h
  refine ⟨hprincipal, ?_⟩
  cases hcall : request.call with
  | createRole =>
    rw [hcall] at h
    obtain ⟨hgraph, hgrants⟩ := createRole_grants h
    exact ⟨hgraph, fun k => .inl (hgrants k)⟩
  | updateRole =>
    rw [hcall] at h
    exact updateRole_grants hlocal h
  | assignRole =>
    rw [hcall] at h
    exact assignRole_grants hlocal h
  | deleteRole =>
    rw [hcall] at h
    obtain ⟨hgraph, hgrants⟩ := deleteRole_grants h
    exact ⟨hgraph, fun k => .inl (hgrants k)⟩

theorem SameGraph.mem_effectiveActions (hgraph : SameGraph s t)
    (h : action ∈ grants t (id, user.id) ↔ action ∈ grants s (id, user.id)) :
    action ∈ effectiveActions t (some user) id ↔ action ∈ effectiveActions s (some user) id := by
  have harchived : archivedMakerspaceIds t = archivedMakerspaceIds s := by
    rw [archivedMakerspaceIds, archivedMakerspaceIds, activeMakerspaceIds, activeMakerspaceIds,
      hgraph.makerspaces, hgraph.componentStates]
  have hhidden : superadminHiddenMakerspaceIds t = superadminHiddenMakerspaceIds s := by
    rw [superadminHiddenMakerspaceIds, superadminHiddenMakerspaceIds, hgraph.makerspaces]
  have hservable : servable t = servable s := by
    funext makerspace
    rw [servable, servable, activeMakerspaceIds, activeMakerspaceIds, hgraph.componentStates]
  have hrows : organizationAuthorityMemberships t user =
      organizationAuthorityMemberships s user := by
    simp [organizationAuthorityMemberships, hgraph.organizationMemberships, hgraph.makerspaceLinks,
      hgraph.organizations, hgraph.makerspaces, hservable]
  have horganization : orgActionsFor t user id = orgActionsFor s user id := by
    simp [orgActionsFor, hrows, actionsForOrganizationMembership, hgraph.organizations]
  simp only [effectiveActions, harchived, hhidden, horganization,
    actionsForMembership_membershipFor]
  split
  · exact Iff.rfl
  · split
    · exact Iff.rfl
    · split
      · split
        · exact h
        · exact Iff.rfl
      · rw [mem_append, mem_append, h]

theorem mem_lockedActorActions
    {actor : User} {makerspace : Makerspace} (hlocal : actor.superadmin = false)
    (hprincipal : actorRefused (some actor) = false)
    (hservable : makerspace.id ∉ archivedMakerspaceIds s) :
    action ∈ lockedActorActions s actor makerspace ↔
      action ∈ effectiveActions s (some actor) makerspace.id := by
  rw [lockedActorActions, effectiveActions, if_neg (by simp [hlocal]),
    if_neg (by simp [hprincipal]), if_neg hservable, if_neg (by simp [hlocal]), mem_append,
    mem_append, mem_lockedOrganizationActions]

theorem not_archived_of_effective (h : action ∈ effectiveActions s (some user) id) :
    id ∉ archivedMakerspaceIds s := by
  intro harchived
  simp [effectiveActions, harchived] at h

theorem settle_manages (hlocal : request.actor.superadmin = false) (user : User) (id : Nat) :
    Action.manageMakerspace ∈ effectiveActions (settle (step p) s request) (some user) id ↔
      Action.manageMakerspace ∈ effectiveActions s (some user) id := by
  cases h : step p s request with
  | error => rw [settle_error h]
  | ok =>
    rw [settle_ok h]
    obtain ⟨-, hgraph, hgrants⟩ := step_grants hlocal h
    refine hgraph.mem_effectiveActions ?_
    rcases hgrants (id, user.id) with hsame | ⟨_, -, -, hbefore, hceiling⟩
    · rw [hsame]
    · exact ⟨fun hafter => absurd rfl (hceiling _ hafter).2, fun hheld => absurd hheld hbefore⟩

theorem settle_ceiling (hlocal : request.actor.superadmin = false)
    (hchanged : ¬ ∀ action, action ∈ effectiveActions (settle (step p) s request) (some user) id ↔
      action ∈ effectiveActions s (some user) id) :
    ∀ action ∈ actionsForMembership (settle (step p) s request)
        (membershipFor (settle (step p) s request) user id),
      action ∈ effectiveActions s (some request.actor) id := by
  cases h : step p s request with
  | error =>
    rw [settle_error h] at hchanged
    exact absurd (fun _ => Iff.rfl) hchanged
  | ok t =>
    rw [settle_ok h] at hchanged ⊢
    obtain ⟨hprincipal, hgraph, hgrants⟩ := step_grants hlocal h
    rcases hgrants (id, user.id) with hsame | ⟨makerspace, hget, hid, -, hceiling⟩
    · refine absurd (fun action => ?_) hchanged
      exact hgraph.mem_effectiveActions (by rw [hsame])
    · have hservable : id ∉ archivedMakerspaceIds s := by
        intro harchived
        refine hchanged fun action => ?_
        have harchived' : id ∈ archivedMakerspaceIds t := by
          rw [archivedMakerspaceIds, activeMakerspaceIds, hgraph.makerspaces,
            hgraph.componentStates]
          exact harchived
        constructor
        · intro hmem
          exact absurd harchived' (not_archived_of_effective hmem)
        · intro hmem
          exact absurd harchived (not_archived_of_effective hmem)
      intro action haction
      rw [actionsForMembership_membershipFor] at haction
      have hkey : makerspace.id = id := (key_of_get? hget).trans hid.symm
      rw [← hkey] at hservable ⊢
      exact (mem_lockedActorActions hlocal hprincipal hservable).mp (hceiling action haction).1

/-- Actors that are not superadmins never change who manages a makerspace; a changed member ends
under the actor's actions; refusals change nothing. -/
theorem no_escalation (p : Platform) (s : State) (requests : List Request)
    (hlocal : ∀ request ∈ requests, request.actor.superadmin = false) :
    (∀ user id,
      (Action.manageMakerspace ∈ effectiveActions (run (step p) s requests) (some user) id ↔
        Action.manageMakerspace ∈ effectiveActions s (some user) id)) ∧
    ∀ earlier request later, requests = earlier ++ request :: later →
      (∀ user id,
        (¬ ∀ action, action ∈ effectiveActions
            (settle (step p) (run (step p) s earlier) request) (some user) id ↔
          action ∈ effectiveActions (run (step p) s earlier) (some user) id) →
        ∀ action ∈ actionsForMembership (settle (step p) (run (step p) s earlier) request)
            (membershipFor (settle (step p) (run (step p) s earlier) request) user id),
          action ∈ effectiveActions (run (step p) s earlier) (some request.actor) id) ∧
      ∀ e, step p (run (step p) s earlier) request = .error e →
        settle (step p) (run (step p) s earlier) request = run (step p) s earlier := by
  constructor
  · intro user id
    induction requests generalizing s with
    | nil => exact Iff.rfl
    | cons request _ ih =>
      rw [run_cons, ih _ fun other hmem => hlocal other (mem_cons_of_mem _ hmem)]
      exact settle_manages (hlocal request mem_cons_self) user id
  · rintro _ request _ rfl
    have hactor := hlocal request (by simp)
    exact ⟨fun user id => settle_ceiling hactor, fun e h => settle_error h⟩

def staffed : State where
  makerspaces := ⟨[{ id := 1 }], by decide⟩
  memberships :=
    ⟨[{ makerspaceId := 1, userId := 7 }, { makerspaceId := 1, userId := 8, role := .custom }],
      by decide⟩
  assigned := by
    intro membership hmem id hid
    rcases mem_cons.mp hmem with rfl | hmem
    · cases hid
    · obtain rfl := mem_singleton.mp hmem
      cases hid

def promotions : List Request :=
  [{ actor := { id := 7 }
     makerspaceId := 1
     call := .createRole "Desk" (.array [.string "view_inventory"]) },
   { actor := { id := 7 }, makerspaceId := 1, call := .assignRole (1, 8) 1 },
   { actor := { id := 7 }
     makerspaceId := 1
     call := .updateRole 1 none (some (.array [.string "manage_machines"])) }]

def platform : Platform where
  slugify := Python.lower
  lower := Python.lower
  withinQuota _ _ := true

/-- The member gets the machines, not the makerspace. -/
theorem promotions_do_not_escalate :
    Action.manageMachines ∈
        effectiveActions (run (step platform) staffed promotions) (some { id := 8 }) 1 ∧
      Action.manageMakerspace ∉
        effectiveActions (run (step platform) staffed promotions) (some { id := 8 }) 1 := by
  constructor
  · decide +kernel
  · rw [(no_escalation platform staffed promotions (by simp [promotions, User.superadmin])).1]
    decide +kernel

end Accounts
end SpaceWorks
