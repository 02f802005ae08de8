import Mathlib.Data.List.Nodup
import SpaceWorks.Host.CapabilityRecords
import SpaceWorks.Library.Runs

/-!
# The journal of launch capabilities

`CapabilityJournal` of `host_capability_journal.py`: an append-only file of events, which every call
replays first.
-/

namespace SpaceWorks
namespace Launch

open Checked TransactionalSystem Python List Except Prod

section Replaying

inductive CapabilityState
  | armed
  | consumed
  | invalidated
  deriving DecidableEq

structure Capability where
  state : CapabilityState
  record : CapabilityRecord

def Capability.spent (item : Capability) : Bool := item.state ≠ .armed

def lookup (states : List Capability) (nonce : Value) : Option Capability :=
  states.find? fun item => (Value.str item.record.nonce).eq nonce

def setState (states : List Capability) (nonce : String) (state : CapabilityState) :
    List Capability :=
  states.map fun item => if item.record.nonce = nonce then { item with state } else item

variable (formats : Formats)

def replayArmed (rearmed : Bool) (states : List Capability) (event : Value) :
    Except String (List Capability) := do
  let keys := if rearmed then ["event", "at", "previous_nonce", "record"]
    else ["event", "at", "record"]
  let entries ← shaped event keys "Capability journal event shape is invalid."
  let _ ← timestamp formats (field entries "at")
  let record ← validateRecord formats (field entries "record")
  require (lookup states (.str record.nonce) = none) "Capability journal reuses a nonce."
  require (rearmed = true →
      ∃ previous, lookup states (field entries "previous_nonce") = some previous ∧
        previous.spent = true)
    "Capability journal has an invalid re-arm event."
  pure (states ++ [⟨.armed, record⟩])

def replaySpent (invalidated : Bool) (states : List Capability) (event : Value) :
    Except String (List Capability) := do
  let keys := if invalidated then ["event", "at", "nonce", "reason"] else ["event", "at", "nonce"]
  let entries ← shaped event keys "Capability journal event shape is invalid."
  let _ ← timestamp formats (field entries "at")
  let item ← orRefuse (lookup states (field entries "nonce"))
    "Capability journal references an unknown nonce."
  require (item.state = .armed) "Capability journal repeats a terminal event."
  pure (setState states item.record.nonce (if invalidated then .invalidated else .consumed))

/-- One turn of the loop of `_states`. -/
def replay (states : List Capability) (event : Value) : Except String (List Capability) := do
  let kind ← orRefuse (event.get "event") "Capability journal event is invalid."
  match kind with
  | .str "armed" => replayArmed formats false states event
  | .str "rearmed" => replayArmed formats true states event
  | .str "consumed" => replaySpent formats false states event
  | .str "invalidated" => replaySpent formats true states event
  | _ => throw "Capability journal contains an unknown event."

def statesOf (events : List Value) : Except String (List Capability) :=
  events.foldlM (replay formats) []

end Replaying

section Calls

/-- An event is written behind the others, and read back as JSON. -/
def append (events : List Value) (event : Value) : List Value :=
  events ++ [event.reload]

def armedEvent (record : CapabilityRecord) (now : Moment) : Value :=
  .dict [("event", .str "armed"), ("at", .str (isoText now)), ("record", record.payload)]

def rearmedEvent (previousNonce : String) (record : CapabilityRecord) (now : Moment) : Value :=
  .dict [("event", .str "rearmed"), ("at", .str (isoText now)),
    ("previous_nonce", .str previousNonce), ("record", record.payload)]

def consumedEvent (nonce : String) (now : Moment) : Value :=
  .dict [("event", .str "consumed"), ("at", .str (isoText now)), ("nonce", .str nonce)]

def invalidatedEvent (nonce reason : String) (now : Moment) : Value :=
  .dict [("event", .str "invalidated"), ("at", .str (isoText now)), ("nonce", .str nonce),
    ("reason", .str reason)]

def armedOf (states : List Capability) : List Capability :=
  states.filter fun item => item.state = .armed

variable (formats : Formats) (digest : Value → String)

def arm (events : List Value) (record : Value) (now : Moment) :
    Except String (List Value × CapabilityRecord) := do
  let record ← validateRecord formats record
  let states ← statesOf formats events
  require (lookup states (.str record.nonce) = none) "Capability nonce already exists."
  require (armedOf states = []) "An outstanding capability must be invalidated first."
  pure (append events (armedEvent record now), record)

/-- `consume`, with its times; a refusal can leave an event. -/
def consume (events : List Value) (request : Value) (marker : HostMarker)
    (checked compared recorded : Moment) :
    Except String (List Value × Except String CapabilityRecord) := do
  let request ← validateRequest formats request
  let states ← statesOf formats events
  match armedOf states with
  | [] =>
    if states.any fun item => item.state = .consumed then
      throw "Capability nonce was already consumed."
    else throw "No launch capability is armed."
  | [item] =>
    let record := item.record
    match assertMatches formats digest record request marker checked with
    | .error refusal => do
      let expires ← timestamp formats (.str record.expiresAt)
      if expires ≤ compared then
        pure (append events (invalidatedEvent record.nonce "expired" recorded), .error refusal)
      else pure (events, .error refusal)
    | .ok () => pure (append events (consumedEvent record.nonce recorded), .ok record)
  | _ => throw "Capability journal has multiple outstanding nonces."

/-- `invalidate_all`, with the times for each capability. -/
def invalidateAll (events : List Value) (reason : String) (now : String → Moment) :
    Except String (List Value × Nat) := do
  require (Python.strip reason ≠ "") "Capability invalidation reason is missing."
  let states ← statesOf formats events
  let armed := armedOf states
  pure (armed.foldl (fun events item =>
    append events (invalidatedEvent item.record.nonce reason (now item.record.nonce))) events,
    armed.length)

def invalidateExpired (events : List Value) (current : Moment) :
    Except String (List Value × Nat) := do
  let states ← statesOf formats events
  (armedOf states).foldlM (fun (events, count) item => do
    let expires ← timestamp formats (.str item.record.expiresAt)
    if expires ≤ current then
      pure (append events (invalidatedEvent item.record.nonce "expired" current), count + 1)
    else pure (events, count)) (events, 0)

def rearm (events : List Value) (previousNonce : String) (replacement : Value) (now : Moment) :
    Except String (List Value × CapabilityRecord) := do
  let replacement ← validateRecord formats replacement
  let states ← statesOf formats events
  require (∃ previous, lookup states (.str previousNonce) = some previous ∧ previous.spent = true)
    "Only an explicitly spent capability may be re-armed."
  require (armedOf states = []) "An outstanding capability already exists."
  pure (append events (rearmedEvent previousNonce replacement now), replacement)

inductive Op
  | arm (record : Value) (now : Moment)
  | rearm (previousNonce : String) (replacement : Value) (now : Moment)
  | consume (request : Value) (marker : HostMarker) (checked compared recorded : Moment)
  | invalidateAll (reason : String) (now : String → Moment)
  | invalidateExpired (current : Moment)

def step (events : List Value) : Op → Except String (List Value)
  | .arm record now => Prod.fst <$> arm formats events record now
  | .rearm previousNonce replacement now =>
    Prod.fst <$> rearm formats events previousNonce replacement now
  | .consume request marker checked compared recorded =>
    Prod.fst <$> consume formats digest events request marker checked compared recorded
  | .invalidateAll reason now => Prod.fst <$> invalidateAll formats events reason now
  | .invalidateExpired current => Prod.fst <$> invalidateExpired formats events current

end Calls

section

def eventKind (event : Value) : Option String :=
  match event.get "event" with
  | some (.str kind) => some kind
  | _ => none

def textOf (value : Value) (key : String) : Option String :=
  match value.get key with
  | some (.str text) => some text
  | _ => none

def armedRecords (events : List Value) : List Value :=
  events.filterMap fun event =>
    if eventKind event = some "armed" ∨ eventKind event = some "rearmed" then event.get "record"
    else none

def armedNonces (events : List Value) : List String :=
  (armedRecords events).filterMap fun record => textOf record "nonce"

def spentNonces (kind : String) (events : List Value) : List String :=
  events.filterMap fun event => if eventKind event = some kind then textOf event "nonce" else none

theorem armedRecords_append (events : List Value) (event : Value) :
    armedRecords (append events event) = armedRecords events ++ armedRecords [event.reload] := by
  rw [append, armedRecords, filterMap_append]
  rfl

theorem spentNonces_append (kind : String) (events : List Value) (event : Value) :
    spentNonces kind (append events event) =
      spentNonces kind events ++ spentNonces kind [event.reload] := by
  rw [append, spentNonces, filterMap_append]
  rfl

variable {formats : Formats} {events : List Value} {states : List Capability}

theorem statesOf_append {event : Value} {after : List Capability}
    (h : statesOf formats events = .ok states) :
    statesOf formats (append events event) = .ok after ↔
      replay formats states event.reload = .ok after := by
  rw [statesOf, append, foldlM_append, bind_ok]
  simp only [foldlM_cons, foldlM_nil, bind_ok, pure_ok, exists_eq_right]
  constructor
  · rintro ⟨_, hbefore, hreplay⟩
    obtain rfl := ok.inj (h.symm.trans hbefore)
    exact hreplay
  · exact fun hreplay => ⟨states, h, hreplay⟩

structure Spends (events : List Value) (states : List Capability) (kind : String)
    (state : CapabilityState) : Prop where
  once : (spentNonces kind events).Nodup
  iff : ∀ nonce, nonce ∈ spentNonces kind events ↔
    ∃ item ∈ states, item.record.nonce = nonce ∧ item.state = state

structure Journal (formats : Formats) (events : List Value) (states : List Capability) :
    Prop where
  replayed : statesOf formats events = .ok states
  nodup : (states.map fun item => item.record.nonce).Nodup
  armed : armedRecords events = states.map fun item => item.record.payload
  consumed : Spends events states "consumed" .consumed
  invalidated : Spends events states "invalidated" .invalidated
  outstanding : ∀ item ∈ states.dropLast, item.state ≠ .armed

theorem journal_nil : Journal formats [] [] where
  replayed := rfl
  nodup := nodup_nil
  armed := rfl
  consumed := ⟨nodup_nil, by simp [spentNonces]⟩
  invalidated := ⟨nodup_nil, by simp [spentNonces]⟩
  outstanding := by simp

theorem lookup_eq_some_iff {nonce : String} {item : Capability}
    (h : (states.map fun item => item.record.nonce).Nodup) :
    lookup states (.str nonce) = some item ↔ item ∈ states ∧ item.record.nonce = nonce := by
  constructor
  · intro hfind
    have hnonce := List.find?_some hfind
    exact ⟨List.mem_of_find?_eq_some hfind, by simpa [Value.eq] using hnonce⟩
  · rintro ⟨hmem, rfl⟩
    cases hfind : lookup states (.str item.record.nonce) with
    | none =>
      have hnone := List.find?_eq_none.mp hfind item hmem
      simp [Value.eq] at hnone
    | some other =>
      have hother := List.find?_some hfind
      have heq : other.record.nonce = item.record.nonce := by simpa [Value.eq] using hother
      rw [inj_on_of_nodup_map h (List.mem_of_find?_eq_some hfind) hmem heq]

theorem lookup_eq_none_iff {nonce : String} :
    lookup states (.str nonce) = none ↔ nonce ∉ states.map fun item => item.record.nonce := by
  simp [lookup, Value.eq]

theorem armedOf_eq_nil_iff : armedOf states = [] ↔ ∀ item ∈ states, item.state ≠ .armed := by
  simp [armedOf]

theorem armedOf_cases (h : ∀ item ∈ states.dropLast, item.state ≠ .armed) :
    armedOf states = [] ∨
      ∃ item, armedOf states = [item] ∧ states.getLast? = some item ∧ item.state = .armed := by
  rcases eq_nil_or_concat states with rfl | ⟨before, last, rfl⟩
  · exact .inl rfl
  · rw [concat_eq_append] at h ⊢
    rw [dropLast_concat] at h
    have hbefore : armedOf before = [] := armedOf_eq_nil_iff.mpr h
    have happend : armedOf (before ++ [last]) = armedOf [last] := by
      rw [armedOf, filter_append]
      exact congrArg (· ++ armedOf [last]) hbefore
    by_cases hlast : last.state = .armed
    · exact .inr ⟨last, by rw [happend]; simp [armedOf, hlast], by simp, hlast⟩
    · exact .inl (by rw [happend]; simp [armedOf, hlast])

variable {event : Value} {state target : CapabilityState} {kind : String} {item : Capability}

theorem Journal.arm (h : Journal formats events states) {record : CapabilityRecord}
    (hreplay : replay formats states event.reload = .ok (states ++ [⟨.armed, record⟩]))
    (hrecords : armedRecords [event.reload] = [record.payload])
    (hspent : ∀ kind ∈ ["consumed", "invalidated"], spentNonces kind [event.reload] = [])
    (hfresh : lookup states (.str record.nonce) = none) (hnone : armedOf states = []) :
    Journal formats (append events event) (states ++ [⟨.armed, record⟩]) := by
  have hspends : ∀ {kind state}, kind ∈ ["consumed", "invalidated"] → state ≠ .armed →
      Spends events states kind state →
        Spends (append events event) (states ++ [⟨.armed, record⟩]) kind state := by
    intro kind state hkind hstate hold
    have hsame : spentNonces kind (append events event) = spentNonces kind events := by
      rw [spentNonces_append, hspent kind hkind, append_nil]
    refine ⟨hsame ▸ hold.once, fun nonce => ?_⟩
    rw [hsame, hold.iff]
    simp [or_and_right, exists_or, Ne.symm hstate]
  refine ⟨(statesOf_append h.replayed).mpr hreplay, ?_, ?_, hspends (by simp) nofun h.consumed,
    hspends (by simp) nofun h.invalidated, ?_⟩
  · rw [map_append, nodup_append']
    refine ⟨h.nodup, nodup_singleton _, ?_⟩
    intro nonce hold hnew
    obtain rfl : nonce = record.nonce := by simpa using hnew
    exact lookup_eq_none_iff.mp hfresh hold
  · rw [armedRecords_append, h.armed, hrecords, map_append]
    rfl
  · rw [dropLast_concat]
    exact armedOf_eq_nil_iff.mp hnone

theorem map_setState (states : List Capability) (nonce : String) (state : CapabilityState) :
    (setState states nonce state).map Capability.record = states.map Capability.record := by
  rw [setState, List.map_map]
  refine map_congr_left fun item _ => ?_
  dsimp only [Function.comp_apply]
  split <;> rfl

theorem exists_setState_iff {nonce other : String} :
    (∃ item ∈ setState states nonce target, item.record.nonce = other ∧ item.state = state) ↔
      (other = nonce ∧ target = state ∧ ∃ item ∈ states, item.record.nonce = nonce) ∨
        (other ≠ nonce ∧ ∃ item ∈ states, item.record.nonce = other ∧ item.state = state) := by
  simp only [setState, List.mem_map, exists_exists_and_eq_and]
  constructor
  · rintro ⟨item, hitem, hnonce, hstate⟩
    split at hnonce
    next heq =>
      rw [if_pos heq] at hstate
      exact .inl ⟨hnonce.symm.trans heq, hstate, item, hitem, heq⟩
    next hne =>
      rw [if_neg hne] at hstate
      exact .inr ⟨fun heq => hne (hnonce.trans heq), item, hitem, hnonce, hstate⟩
  · rintro (⟨rfl, hstate, item, hitem, heq⟩ | ⟨hne, item, hitem, hnonce, hstate⟩)
    · exact ⟨item, hitem, by rw [if_pos heq]; exact heq, by rw [if_pos heq]; exact hstate⟩
    · have hother : ¬ item.record.nonce = nonce := fun heq => hne (hnonce.symm.trans heq)
      exact ⟨item, hitem, by rw [if_neg hother]; exact hnonce, by rw [if_neg hother]; exact hstate⟩

theorem Spends.unspent (h : Spends events states kind state)
    (hnodup : (states.map fun item => item.record.nonce).Nodup)
    (hitem : item ∈ states) (harmed : item.state = .armed) (hstate : state ≠ .armed) :
    item.record.nonce ∉ spentNonces kind events := by
  rw [h.iff]
  rintro ⟨_, hother, hnonce, hspent⟩
  obtain rfl := inj_on_of_nodup_map hnodup hother hitem hnonce
  exact hstate (hspent.symm.trans harmed)

theorem Spends.spend (h : Spends events states kind state)
    (hnodup : (states.map fun item => item.record.nonce).Nodup)
    (hitem : item ∈ states) (harmed : item.state = .armed) (hstate : state ≠ .armed)
    (hspent : spentNonces kind [event.reload] = [item.record.nonce]) :
    Spends (append events event) (setState states item.record.nonce state) kind state := by
  have hnew := h.unspent hnodup hitem harmed hstate
  have hnonces : spentNonces kind (append events event) =
      spentNonces kind events ++ [item.record.nonce] := by
    rw [spentNonces_append, hspent]
  constructor
  · rw [hnonces]
    exact nodup_append'.mpr ⟨h.once, nodup_singleton _, by simpa using hnew⟩
  · intro nonce
    rw [hnonces, mem_append, mem_singleton, exists_setState_iff, h.iff]
    by_cases heq : nonce = item.record.nonce
    · subst heq
      simp only [or_true, true_and, true_iff]
      exact .inl ⟨item, hitem, rfl⟩
    · simp [heq]

theorem Spends.skip (h : Spends events states kind state)
    (hnodup : (states.map fun item => item.record.nonce).Nodup)
    (hitem : item ∈ states) (harmed : item.state = .armed) (hstate : state ≠ .armed)
    (htarget : target ≠ state) (hspent : spentNonces kind [event.reload] = []) :
    Spends (append events event) (setState states item.record.nonce target) kind state := by
  have hnew := h.unspent hnodup hitem harmed hstate
  have hnonces : spentNonces kind (append events event) = spentNonces kind events := by
    rw [spentNonces_append, hspent, append_nil]
  refine ⟨hnonces ▸ h.once, fun nonce => ?_⟩
  rw [hnonces, exists_setState_iff, ← h.iff]
  constructor
  · intro hmem
    exact .inr ⟨fun heq => hnew (heq ▸ hmem), hmem⟩
  · rintro (⟨-, heq, -⟩ | ⟨-, hmem⟩)
    · exact absurd heq htarget
    · exact hmem

theorem Journal.spend (h : Journal formats events states) (hstate : state ≠ .armed)
    (hreplay : replay formats states event.reload = .ok (setState states item.record.nonce state))
    (hrecords : armedRecords [event.reload] = [])
    (hconsumed : Spends (append events event) (setState states item.record.nonce state)
      "consumed" .consumed)
    (hinvalidated : Spends (append events event) (setState states item.record.nonce state)
      "invalidated" .invalidated) :
    Journal formats (append events event) (setState states item.record.nonce state) := by
  have hrecord : ∀ {α : Type} (f : CapabilityRecord → α),
      ((setState states item.record.nonce state).map fun item => f item.record) =
        states.map fun item => f item.record := by
    intro α f
    have hmap := congrArg (List.map f) (map_setState states item.record.nonce state)
    rwa [List.map_map, List.map_map] at hmap
  refine ⟨(statesOf_append h.replayed).mpr hreplay, ?_, ?_, hconsumed, hinvalidated, ?_⟩
  · rw [hrecord CapabilityRecord.nonce]
    exact h.nodup
  · rw [armedRecords_append, h.armed, hrecords, append_nil, hrecord CapabilityRecord.payload]
  · rw [setState, ← map_dropLast]
    intro other hother
    obtain ⟨old, hold, rfl⟩ := List.mem_map.mp hother
    split
    · exact hstate
    · exact h.outstanding old hold

theorem Journal.consume (h : Journal formats events states)
    (hitem : item ∈ states) (harmed : item.state = .armed) (now : Moment) :
    Journal formats (append events (consumedEvent item.record.nonce now))
      (setState states item.record.nonce .consumed) := by
  have hlookup := (lookup_eq_some_iff h.nodup).mpr ⟨hitem, rfl⟩
  refine h.spend nofun ?_ (by rfl) (h.consumed.spend h.nodup hitem harmed nofun (by rfl))
    (h.invalidated.skip h.nodup hitem harmed nofun nofun (by rfl))
  simp [consumedEvent, Value.reload, Value.reloadEntries, replay, Value.get, lookup_cons,
    replaySpent, shaped, field, timestamp_isoText, hlookup, harmed]

theorem Journal.invalidate (h : Journal formats events states)
    (hitem : item ∈ states) (harmed : item.state = .armed) (reason : String) (now : Moment) :
    Journal formats (append events (invalidatedEvent item.record.nonce reason now))
      (setState states item.record.nonce .invalidated) := by
  have hlookup := (lookup_eq_some_iff h.nodup).mpr ⟨hitem, rfl⟩
  refine h.spend nofun ?_ (by rfl) (h.consumed.skip h.nodup hitem harmed nofun nofun (by rfl))
    (h.invalidated.spend h.nodup hitem harmed nofun (by rfl))
  simp [invalidatedEvent, Value.reload, Value.reloadEntries, replay, Value.get, lookup_cons,
    replaySpent, shaped, field, timestamp_isoText, hlookup, harmed]

variable {digest : Value → String} {events after : List Value} {op : Op} {record : CapabilityRecord}
variable {value : Value} {now : Moment} {previousNonce : String}

def Readable (formats : Formats) (events : List Value) : Prop :=
  ∃ states, statesOf formats events = .ok states

/-- At most one is armed, each armed and consumed once. -/
structure SingleUse (formats : Formats) (events : List Value) : Prop where
  outstanding : ∀ states, statesOf formats events = .ok states → (armedOf states).length ≤ 1
  armed : (armedNonces events).Nodup
  consumed : (spentNonces "consumed" events).Nodup

/-- The last armed record, unexpired and unspent. -/
structure Consumable (formats : Formats) (events : List Value) (record : CapabilityRecord)
    (checked : Moment) : Prop where
  last : (armedRecords events).getLast? = some record.payload
  unexpired : ∃ expires, timestamp formats (.str record.expiresAt) = .ok expires ∧ checked < expires
  unconsumed : record.nonce ∉ spentNonces "consumed" events
  uninvalidated : record.nonce ∉ spentNonces "invalidated" events

/-- The journal stays readable, capabilities single-use. -/
structure KeepsJournal (formats : Formats) (digest : Value → String) (events : List Value)
    (op : Op) : Prop where
  readable : ∀ after, step formats digest events op = .ok after → Readable formats after
  single : ∀ after, step formats digest events op = .ok after → SingleUse formats after
  consumes : ∀ request marker checked compared recorded,
    op = .consume request marker checked compared recorded → ∀ after record,
      consume formats digest events request marker checked compared recorded =
        .ok (after, .ok record) → Consumable formats events record checked

def ReusesNonce (formats : Formats) (events : List Value) : Op → Prop
  | .rearm previousNonce replacement _ => ∃ states record,
      statesOf formats events = .ok states ∧ validateRecord formats replacement = .ok record ∧
        (∃ previous, lookup states (.str previousNonce) = some previous ∧ previous.spent = true) ∧
        armedOf states = [] ∧ lookup states (.str record.nonce) ≠ none
  | _ => False

theorem Journal.singleUse (h : Journal formats events states) : SingleUse formats events where
  outstanding := by
    intro other hother
    obtain rfl := ok.inj (h.replayed.symm.trans hother)
    rcases armedOf_cases h.outstanding with hnone | ⟨_, hitem, -⟩
    · simp [hnone]
    · simp [hitem]
  armed := by
    have hnonces : armedNonces events = states.map fun item => item.record.nonce := by
      rw [armedNonces, h.armed, filterMap_map]
      exact filterMap_eq_map_iff_forall_eq_some.mpr fun item _ => rfl
    rw [hnonces]
    exact h.nodup
  consumed := h.consumed.once

theorem replay_armedEvent (hrecord : validateRecord formats value = .ok record)
    (hfresh : lookup states (.str record.nonce) = none) :
    replay formats states (armedEvent record now).reload = .ok (states ++ [⟨.armed, record⟩]) := by
  simp [armedEvent, Value.reload, Value.reloadEntries, reload_payload, replay, Value.get,
    lookup_cons, replayArmed, shaped, field, timestamp_isoText, validateRecord_payload hrecord,
    hfresh]

theorem replay_rearmedEvent {previous : Capability}
    (hrecord : validateRecord formats value = .ok record)
    (hprevious : lookup states (.str previousNonce) = some previous)
    (hspent : previous.spent = true) :
    replay formats states (rearmedEvent previousNonce record now).reload =
      if lookup states (.str record.nonce) = none then .ok (states ++ [⟨.armed, record⟩])
      else .error "Capability journal reuses a nonce." := by
  by_cases hfresh : lookup states (.str record.nonce) = none <;>
    simp [rearmedEvent, Value.reload, Value.reloadEntries, reload_payload, replay, Value.get,
      lookup_cons, replayArmed, shaped, field, timestamp_isoText, validateRecord_payload hrecord,
      hfresh, hprevious, hspent, require, bind, Except.bind, pure, Except.pure]

theorem journal_arm (h : Journal formats events states) {record : Value}
    (hstep : step formats digest events (.arm record now) = .ok after) :
    ∃ states, Journal formats after states := by
  obtain ⟨⟨_, _⟩, harm, rfl⟩ := map_eq_ok.mp hstep
  simp only [arm, bind_ok, require_ok, pure_ok, exists_const, mk.injEq] at harm
  obtain ⟨_, hrecord, _, hstates, hfresh, hnone, rfl, rfl⟩ := harm
  obtain rfl := ok.inj (h.replayed.symm.trans hstates)
  refine ⟨_, h.arm (replay_armedEvent hrecord hfresh) ?_ ?_ hfresh hnone⟩
  · simp [armedRecords, eventKind, armedEvent, Value.reload, Value.reloadEntries, reload_payload,
      Value.get, lookup_cons]
  · intro kind hkind
    simp at hkind
    rcases hkind with rfl | rfl <;> rfl

theorem journal_rearm (h : Journal formats events states) {replacement : Value}
    (hstep : step formats digest events (.rearm previousNonce replacement now) = .ok after)
    (hnot : ¬ ReusesNonce formats events (.rearm previousNonce replacement now)) :
    ∃ states, Journal formats after states := by
  obtain ⟨⟨_, _⟩, hrearm, rfl⟩ := map_eq_ok.mp hstep
  simp only [rearm, bind_ok, require_ok, pure_ok, exists_const, mk.injEq] at hrearm
  obtain ⟨checked, hrecord, _, hstates, ⟨previous, hprevious, hspent⟩, hnone, rfl, rfl⟩ := hrearm
  obtain rfl := ok.inj (h.replayed.symm.trans hstates)
  have hfresh : lookup states (.str checked.nonce) = none := by
    by_contra hknown
    exact hnot ⟨states, checked, hstates, hrecord, ⟨previous, hprevious, hspent⟩, hnone, hknown⟩
  refine ⟨_, h.arm ((replay_rearmedEvent hrecord hprevious hspent).trans (if_pos hfresh)) ?_ ?_
    hfresh hnone⟩
  · simp [armedRecords, eventKind, rearmedEvent, Value.reload, Value.reloadEntries, reload_payload,
      Value.get, lookup_cons]
  · intro kind hkind
    simp at hkind
    rcases hkind with rfl | rfl <;> rfl

/-- Nothing is written, or the capability is consumed or expired. -/
theorem journal_consume (h : Journal formats events states) {request : Value}
    {marker : HostMarker} {checked compared recorded : Moment}
    {answer : Except String CapabilityRecord}
    (hconsume : consume formats digest events request marker checked compared recorded =
      .ok (after, answer)) :
    (∃ states, Journal formats after states) ∧
      ∀ record, answer = .ok record → Consumable formats events record checked := by
  simp [consume] at hconsume
  obtain ⟨_, _, _, hstates, hconsume⟩ := hconsume
  obtain rfl := ok.inj (h.replayed.symm.trans hstates)
  rcases armedOf_cases h.outstanding with hnone | ⟨item, hone, hlast, harmed⟩
  · rw [hnone] at hconsume
    dsimp only at hconsume
    split at hconsume <;> simp at hconsume
  · rw [hone] at hconsume
    dsimp only at hconsume
    have hitem : item ∈ states := mem_of_getLast? hlast
    split at hconsume
    next refusal hmatch =>
      simp at hconsume
      obtain ⟨_, -, hconsume⟩ := hconsume
      split at hconsume
      next hexpired =>
        obtain ⟨rfl, rfl⟩ := mk.inj (pure_ok.mp hconsume)
        exact ⟨⟨_, h.invalidate hitem harmed "expired" recorded⟩, by simp⟩
      next =>
        obtain ⟨rfl, rfl⟩ := mk.inj (pure_ok.mp hconsume)
        exact ⟨⟨states, h⟩, by simp⟩
    next hmatch =>
      obtain ⟨rfl, rfl⟩ := mk.inj (pure_ok.mp hconsume)
      refine ⟨⟨_, h.consume hitem harmed recorded⟩, ?_⟩
      rintro _ heq
      cases heq
      refine ⟨?_, unexpired_of_assertMatches hmatch,
        h.consumed.unspent h.nodup hitem harmed (by simp),
        h.invalidated.unspent h.nodup hitem harmed (by simp)⟩
      rw [h.armed, List.getLast?_map, hlast]
      rfl

theorem journal_invalidateAll (h : Journal formats events states) {reason : String}
    {now : String → Moment}
    (hstep : step formats digest events (.invalidateAll reason now) = .ok after) :
    ∃ states, Journal formats after states := by
  obtain ⟨⟨_, _⟩, hinvalidate, rfl⟩ := map_eq_ok.mp hstep
  simp [invalidateAll] at hinvalidate
  obtain ⟨-, _, hstates, rfl, -⟩ := hinvalidate
  obtain rfl := ok.inj (h.replayed.symm.trans hstates)
  rcases armedOf_cases h.outstanding with hnone | ⟨_, hone, hlast, harmed⟩
  · exact ⟨states, by rw [hnone]; exact h⟩
  · exact ⟨_, by rw [hone]; exact h.invalidate (mem_of_getLast? hlast) harmed reason _⟩

theorem journal_invalidateExpired (h : Journal formats events states) {current : Moment}
    (hstep : step formats digest events (.invalidateExpired current) = .ok after) :
    ∃ states, Journal formats after states := by
  obtain ⟨⟨_, _⟩, hinvalidate, rfl⟩ := map_eq_ok.mp hstep
  simp [invalidateExpired] at hinvalidate
  obtain ⟨_, hstates, hloop⟩ := hinvalidate
  obtain rfl := ok.inj (h.replayed.symm.trans hstates)
  rcases armedOf_cases h.outstanding with hnone | ⟨_, hone, hlast, harmed⟩
  · rw [hnone, foldlM_nil, pure_ok, mk.injEq] at hloop
    exact ⟨states, hloop.1 ▸ h⟩
  · simp [hone] at hloop
    obtain ⟨_, -, hloop⟩ := hloop
    split at hloop
    · obtain ⟨rfl, -⟩ := mk.inj (pure_ok.mp hloop)
      exact ⟨_, h.invalidate (mem_of_getLast? hlast) harmed "expired" current⟩
    · obtain ⟨rfl, -⟩ := mk.inj (pure_ok.mp hloop)
      exact ⟨states, h⟩

theorem journal_step (h : Journal formats events states)
    (hstep : step formats digest events op = .ok after) (hnot : ¬ ReusesNonce formats events op) :
    ∃ states, Journal formats after states := by
  cases op with
  | arm => exact journal_arm h hstep
  | rearm => exact journal_rearm h hstep hnot
  | consume =>
    obtain ⟨⟨_, _⟩, hconsume, rfl⟩ := map_eq_ok.mp hstep
    exact (journal_consume h hconsume).1
  | invalidateAll => exact journal_invalidateAll h hstep
  | invalidateExpired => exact journal_invalidateExpired h hstep

theorem unreadable_of_reusesNonce (h : ReusesNonce formats events op) :
    ∃ after, step formats digest events op = .ok after ∧ ¬ Readable formats after := by
  cases op with
  | rearm previousNonce _ now =>
    obtain ⟨states, record, hstates, hrecord, ⟨previous, hprevious, hspent⟩, hnone, hknown⟩ := h
    refine ⟨append events (rearmedEvent previousNonce record now), ?_, ?_⟩
    · refine map_eq_ok.mpr ⟨(_, record), ?_, rfl⟩
      simp only [rearm, bind_ok, require_ok, pure_ok, exists_const]
      exact ⟨record, hrecord, states, hstates, ⟨previous, hprevious, hspent⟩, hnone, rfl⟩
    · rintro ⟨_, hafter⟩
      have hreplay := (statesOf_append hstates).mp hafter
      rw [replay_rearmedEvent hrecord hprevious hspent, if_neg hknown] at hreplay
      cases hreplay
  | arm | consume | invalidateAll | invalidateExpired => exact h.elim

theorem keepsJournal_iff (h : ∃ states, Journal formats events states) :
    KeepsJournal formats digest events op ↔ ¬ ReusesNonce formats events op := by
  obtain ⟨states, hjournal⟩ := h
  constructor
  · intro hkeeps hreuses
    obtain ⟨after, hstep, hunreadable⟩ :
        ∃ after, step formats digest events op = .ok after ∧ ¬ Readable formats after :=
      unreadable_of_reusesNonce hreuses
    exact hunreadable (hkeeps.readable after hstep)
  · intro hnot
    refine ⟨fun after hstep => ?_, fun after hstep => ?_, ?_⟩
    · obtain ⟨states, hafter⟩ := journal_step hjournal hstep hnot
      exact ⟨states, hafter.replayed⟩
    · obtain ⟨_, hafter⟩ := journal_step hjournal hstep hnot
      exact hafter.singleUse
    · rintro _ _ _ _ _ rfl _ record hconsume
      exact (journal_consume hjournal hconsume).2 record rfl

/-- A run keeps the journal readable and capabilities single-use exactly when no call re-arms a
known nonce. -/
theorem journal_sound_iff (formats : Formats) (digest : Value → String) (ops : List Op) :
    Throughout (step formats digest) (KeepsJournal formats digest) [] ops ↔
      Throughout (step formats digest) (fun events op => ¬ ReusesNonce formats events op) [] ops :=
  throughout_congr (I := fun events => ∃ states, Journal formats events states) keepsJournal_iff
    (fun ⟨_, h⟩ hnot hstep => journal_step h hstep hnot) ⟨[], journal_nil⟩ ops

def isCanonicalUuid (text : String) : Bool :=
  match (text.toList.splitOn '-').map List.length with
  | [8, 4, 4, 4, 12] => text.toList.all fun c =>
    c = '-' || ('0' ≤ c && c ≤ '9') || ('a' ≤ c && c ≤ 'f')
  | _ => false

/-- Texts that are read in their canonical form alone. -/
def canonicalFormats : Formats where
  reader := utcReader
  uuid text := if isCanonicalUuid text then some text else none
  uuid_uuid := by
    intro text canonical h
    split at h
    next hcanonical =>
      cases h
      exact if_pos hcanonical
    next => cases h

def drillRecord : CapabilityRecord where
  restoreId := "5a7c1f4e-1111-4111-8111-111111111111"
  siblingDatabaseName := "candidate"
  siblingDatabaseOid := 16500
  serverIdentity := {
    endpoint := { host := "db", port := 5432, database := "candidate", tlsIdentity := "" }
    databaseUuid := "5a7c1f4e-2222-4222-8222-222222222222"
    systemIdentifier := none }
  artifactSha256 := String.ofList (List.replicate 64 'a')
  captureId := "5a7c1f4e-3333-4333-8333-333333333333"
  nonce := String.ofList (List.replicate 64 'b')
  allowedRole := "backend"
  expiresAt := "2026-05-09T13:00:00Z"
  markerBinding := String.ofList (List.replicate 64 'c')

def drillNoon : Moment :=
  onSecond 0

def drillCalls : List Op :=
  [.arm drillRecord.payload drillNoon, .invalidateAll "marker-transition" fun _ => drillNoon]

/-- Re-armed with its nonce, the journal is lost. -/
theorem rearmed_nonce_locks_journal :
    ∃ after, step canonicalFormats (fun _ => "") (run (step canonicalFormats fun _ => "") []
        drillCalls) (.rearm drillRecord.nonce drillRecord.payload drillNoon) = .ok after ∧
      ¬ Readable canonicalFormats after := by
  have hlocks : (match step canonicalFormats (fun _ => "")
      (run (step canonicalFormats fun _ => "") [] drillCalls)
      (.rearm drillRecord.nonce drillRecord.payload drillNoon) with
    | .ok after => (statesOf canonicalFormats after).isOk
    | .error _ => true) = false := by decide +kernel
  cases h : step canonicalFormats (fun _ => "")
      (run (step canonicalFormats fun _ => "") [] drillCalls)
      (.rearm drillRecord.nonce drillRecord.payload drillNoon) with
  | error => simp [h] at hlocks
  | ok after =>
    simp only [h] at hlocks
    refine ⟨after, rfl, ?_⟩
    rintro ⟨_, hstates⟩
    rw [hstates] at hlocks
    cases hlocks

end

end Launch
end SpaceWorks
