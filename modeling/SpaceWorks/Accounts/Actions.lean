import SpaceWorks.Library.Closure
import SpaceWorks.Library.Table

/-!
# Actions and the roles that grant them

`apps/accounts/rbac_actions.py`: implied actions, what a membership or a grant resolves to, and the
filters over stored grants.  A Python set is a list.
-/

namespace SpaceWorks
namespace Accounts

open Closure List

inductive Action
  | manageEvents
  | manageBookings
  | viewInventory
  | editInventory
  | acceptRequest
  | rejectRequest
  | assignBox
  | issueRequest
  | issueDirectLoan
  | returnRequest
  | uploadEvidence
  | collectServiceRequest
  | manageQr
  | managePrinting
  | manageMachines
  | viewAudit
  | transferStock
  | manageStaff
  | manageMakerspace
  deriving DecidableEq

def Action.value : Action → String
  | .manageEvents => "manage_events"
  | .manageBookings => "manage_bookings"
  | .viewInventory => "view_inventory"
  | .editInventory => "edit_inventory"
  | .acceptRequest => "accept_request"
  | .rejectRequest => "reject_request"
  | .assignBox => "assign_box"
  | .issueRequest => "issue_request"
  | .issueDirectLoan => "issue_direct_loan"
  | .returnRequest => "return_request"
  | .uploadEvidence => "upload_evidence"
  | .collectServiceRequest => "collect_service_request"
  | .manageQr => "manage_qr"
  | .managePrinting => "manage_printing"
  | .manageMachines => "manage_machines"
  | .viewAudit => "view_audit"
  | .transferStock => "transfer_stock"
  | .manageStaff => "manage_staff"
  | .manageMakerspace => "manage_makerspace"

def allActions : List Action :=
  [.manageEvents, .manageBookings, .viewInventory, .editInventory, .acceptRequest,
    .rejectRequest, .assignBox, .issueRequest, .issueDirectLoan, .returnRequest,
    .uploadEvidence, .collectServiceRequest, .manageQr, .managePrinting, .manageMachines,
    .viewAudit, .transferStock, .manageStaff, .manageMakerspace]

def roleForbiddenActions : List Action := [.transferStock, .manageStaff]

def roleGrantableActions : List Action :=
  allActions.filter (· ∉ roleForbiddenActions)

def organizationGrantableActions : List Action :=
  roleGrantableActions.filter (· ≠ .manageMachines)

theorem mem_allActions (action : Action) : action ∈ allActions := by
  cases action <;> simp [allActions]

instance : Fintype Action := .ofList allActions mem_allActions

variable {action : Action}

theorem mem_roleGrantableActions :
    action ∈ roleGrantableActions ↔ action ∉ roleForbiddenActions := by
  simp [roleGrantableActions, mem_allActions]

theorem value_injective : Function.Injective Action.value := by
  intro a b
  revert a b
  decide +kernel

def Action.ofValue? (value : String) : Option Action :=
  allActions.find? fun action => action.value = value

theorem ofValue?_eq_some {value : String} :
    Action.ofValue? value = some action ↔ action.value = value := by
  constructor
  · intro h
    simpa using find?_some h
  · intro h
    cases hfind : Action.ofValue? value with
    | none =>
      have hall := find?_eq_none.mp hfind action (mem_allActions action)
      simp [h] at hall
    | some found =>
      have hfound : found.value = value := by simpa using find?_some hfind
      rw [value_injective (hfound.trans h.symm)]

def impliedActions : Action → List Action
  | .manageMachines => [.managePrinting, .collectServiceRequest]
  | _ => []

def implyingActions (action : Action) : List Action :=
  allActions.filter (action ∈ impliedActions ·)

def expandImpliedActions (actions : List Action) : List Action :=
  closure impliedActions actions

def actionsSatisfying (requested : Action) : List Action :=
  closure implyingActions [requested]

variable {actions : List Action}

theorem mem_expandImpliedActions :
    action ∈ expandImpliedActions actions ↔ ∃ a ∈ actions, a ∈ actionsSatisfying action :=
  mem_closure_iff_converse fun x y => by simp [implyingActions, mem_allActions]

theorem expand_roleGrantable (h : ∀ a ∈ actions, a ∈ roleGrantableActions)
    (hmem : action ∈ expandImpliedActions actions) :
    action ∈ roleGrantableActions := by
  refine closure_induction h ?_ hmem
  intro a b _ hnext
  revert a b
  decide

theorem satisfying_roleGrantable
    {a : Action} (h : action ∈ roleGrantableActions) (ha : a ∈ actionsSatisfying action) :
    a ∈ roleGrantableActions := by
  refine closure_induction (P := fun a => a ∈ roleGrantableActions) ?_ ?_ ha
  · intro b hb
    rwa [mem_singleton.mp hb]
  · intro b c _ hnext
    revert b c
    decide

section Grants

variable {vocabulary : List Action} {action : Action}

inductive Json
  | null
  | bool (value : Bool)
  | number (literal : String)
  | string (value : String)
  | array (items : List Json)
  | object (fields : List (String × Json))

def Json.asString? : Json → Option String
  | .string value => some value
  | _ => none

def Json.isList : Json → Bool
  | .array _ => true
  | _ => false

/-- The containment of a list with one string: only a list has it. -/
def Json.containsValue (json : Json) (value : String) : Bool :=
  match json with
  | .array items => items.any fun item => item.asString? = some value
  | _ => false

def Json.actionsIn (json : Json) (vocabulary : List Action) : List Action :=
  match json with
  | .array items =>
    (items.filterMap fun item => item.asString?.bind Action.ofValue?).filter (· ∈ vocabulary)
  | _ => []

variable {json : Json}

theorem mem_actionsIn :
    action ∈ json.actionsIn vocabulary ↔
      json.containsValue action.value = true ∧ action ∈ vocabulary := by
  cases json with
  | array =>
    simp only [Json.actionsIn, Json.containsValue, mem_filter, mem_filterMap,
      Option.bind_eq_some_iff, ofValue?_eq_some, decide_eq_true_eq, any_eq_true]
    constructor
    · rintro ⟨⟨item, hitem, _, hvalue, rfl⟩, hmem⟩
      exact ⟨⟨item, hitem, hvalue⟩, hmem⟩
    · rintro ⟨⟨item, hitem, hvalue⟩, hmem⟩
      exact ⟨⟨item, hitem, _, hvalue, rfl⟩, hmem⟩
  | null | bool _ | number _ | string _ | object _ =>
    simp [Json.actionsIn, Json.containsValue]

theorem containsValue_of_not_list (h : json.isList = false) (value : String) :
    json.containsValue value = false := by
  cases json with
  | array => cases h
  | null | bool _ | number _ | string _ | object _ => rfl

theorem mem_expand_actionsIn :
    action ∈ expandImpliedActions (json.actionsIn vocabulary) ↔
      ∃ a ∈ actionsSatisfying action, a ∈ vocabulary ∧ json.containsValue a.value = true := by
  rw [mem_expandImpliedActions]
  constructor
  · rintro ⟨a, ha, hsatisfies⟩
    obtain ⟨hcontains, hvocabulary⟩ := mem_actionsIn.mp ha
    exact ⟨a, hsatisfies, hvocabulary, hcontains⟩
  · rintro ⟨a, hsatisfies, hvocabulary, hcontains⟩
    exact ⟨a, mem_actionsIn.mpr ⟨hcontains, hvocabulary⟩, hsatisfies⟩

/-- `MakerspaceMembership.Role`, with the retired values. -/
inductive MembershipRole
  | spaceManager
  | inventoryManager
  | printManager
  | machineManager
  | custom
  | other (value : String)
  deriving DecidableEq

def inventoryManagerActions : List Action :=
  [.viewInventory, .editInventory, .acceptRequest, .rejectRequest, .assignBox, .issueRequest,
    .issueDirectLoan, .returnRequest, .uploadEvidence, .manageQr, .viewAudit]

def spaceManagerActions : List Action :=
  [.viewInventory, .editInventory, .acceptRequest, .rejectRequest, .assignBox, .issueRequest,
    .issueDirectLoan, .returnRequest, .uploadEvidence, .manageQr, .managePrinting, .viewAudit,
    .manageMakerspace, .manageMachines, .manageEvents, .manageBookings]

def membershipRoleActions : List (MembershipRole × List Action) :=
  [(.spaceManager, spaceManagerActions), (.inventoryManager, inventoryManagerActions),
    (.printManager, [.managePrinting]), (.machineManager, [.manageMachines])]

def legacyActions (role : MembershipRole) : List Action :=
  (membershipRoleActions.lookup role).getD []

/-- The legacy roles of `_action_scope_filters`. -/
def legacyRoles (action : Action) : List MembershipRole :=
  (membershipRoleActions.filter fun entry =>
    entry.2.any (· ∈ actionsSatisfying action)).map Prod.fst

variable {role : MembershipRole}

theorem mem_legacyRoles :
    role ∈ legacyRoles action ↔ action ∈ expandImpliedActions (legacyActions role) := by
  rw [mem_expandImpliedActions]
  have hlookup : ∀ actions, (role, actions) ∈ membershipRoleActions ↔
      membershipRoleActions.lookup role = some actions := by
    intro actions
    cases role with
    | spaceManager =>
      simp [membershipRoleActions, eq_comm]
    | inventoryManager =>
      change _ ↔ some inventoryManagerActions = some actions
      simp [membershipRoleActions, eq_comm]
    | printManager =>
      change _ ↔ some [Action.managePrinting] = some actions
      simp [membershipRoleActions, eq_comm]
    | machineManager =>
      change _ ↔ some [Action.manageMachines] = some actions
      simp [membershipRoleActions, eq_comm]
    | custom | other _ =>
      change _ ↔ none = some actions
      simp [membershipRoleActions]
  simp only [legacyRoles, mem_map, mem_filter, any_eq_true, decide_eq_true_eq,
    Prod.exists, exists_and_right, exists_eq_right, hlookup, legacyActions]
  cases membershipRoleActions.lookup role with
  | none | some => simp

theorem legacyActions_roleGrantable
    (h : action ∈ legacyActions role) : action ∈ roleGrantableActions := by
  revert action
  cases role with
  | spaceManager | inventoryManager | printManager | machineManager | custom => decide
  | other => exact fun h => absurd h not_mem_nil

end Grants

end Accounts
end SpaceWorks
