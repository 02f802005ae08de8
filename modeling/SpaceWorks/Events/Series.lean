import SpaceWorks.Events.Model

/-!
# Event series and their schedule

The expansion of a rule (`services_recurrence.py`), creation, extension and update of a series
(`services_series.py`, `tasks.py`), publication and cancellation (`services_series_lifecycle.py`),
each one step under the lock of the series.  Times are microseconds; clock readings are arguments.
-/

namespace SpaceWorks
namespace Series

open Checked Events TransactionalSystem

inductive Refusal
  | moduleOff
  | quota
  | missing
  | exists
  | terminal
  | notDraft
  | notPublished
  | effectiveFromRequired
  | invalidRule
  | invalidTimezone
  | emptyRule
  | tooDense
  | candidateLimit
  | occurrenceRefused
  | integrity
  deriving DecidableEq

def maxCandidates : Nat := 500

def maxFutureOccurrences : Nat := 48

def second : Int := 1000000

def minute : Int := 60 * second

def horizon : Int := 366 * (24 * 60 * minute)

def minExtensionBuffer : Int := 60 * minute

def forbiddenParts : List String := ["DTSTART", "RDATE", "EXDATE"]

def normalizeRule (value : String) : Except Refusal String := do
  let text := (Python.strip value).toList.map Char.toUpper
  let text := if "RRULE:".toList.isPrefixOf text then text.drop 6 else text
  require (text ≠ [] ∧ '\n' ∉ text ∧ '\r' ∉ text) .invalidRule
  let parts := text.splitOn ';'
  require (∀ part ∈ parts, '=' ∈ part ∧
    String.ofList (part.takeWhile (· ≠ '=')) ∉ forbiddenParts) .invalidRule
  pure (String.ofList text)

/-- The rules of `dateutil` and the zones of `zoneinfo`. Normalizing a text again changes neither
the text nor the rule. -/
structure Calendars (Zone Rule : Type) where
  zoneInfo : String → Option Zone
  /-- `rrulestr`, given the zone and the local time of `dtstart`. -/
  rrulestr : String → Zone → Int → Option Rule
  after : Rule → Int → Option Int
  /-- `rule.xafter`, inclusive, with its count. -/
  xafter : Rule → Int → Nat → List Int
  /-- The instant of a local time, with `fold=0`. -/
  toUtc : Zone → Int → Int
  toLocal : Zone → Int → Int
  stable : ∀ {value text zone anchor rule}, normalizeRule value = .ok text →
    rrulestr text zone anchor = some rule →
      ∃ text', normalizeRule text = .ok text' ∧ rrulestr text' zone anchor = some rule

inductive TemplateField
  | title
  | description
  | location
  | locationKind
  | customForm
  | capacity
  | paymentAmount
  | registrationRequiresApproval
  | registrationCutoffLeadMinutes
  | isPublic
  deriving DecidableEq

abbrev Template := TemplateField → String

inductive SeriesStatus
  | draft
  | published
  | cancelled
  | completed
  deriving DecidableEq

structure EventSeries where
  template : Template
  recurrenceTimezone : String
  dtstartLocalDate : Int
  dtstartLocalTime : Int
  recurrenceRule : String
  durationMinutes : Nat
  revision : Nat := 1
  status : SeriesStatus := .draft
  lastMaterializedAt : Option Int := none

/-- Revision and local start in seconds. -/
structure OccurrenceKey where
  revision : Nat
  localStart : Int
  deriving DecidableEq

structure Event where
  seriesOccurrenceKey : OccurrenceKey
  seriesRevision : Nat
  seriesOverrideFields : List TemplateField := []
  template : Template
  startsAt : Int
  endsAt : Int
  status : EventStatus
  timezoneName : String

instance : Keyed Event OccurrenceKey := ⟨Event.seriesOccurrenceKey⟩

@[simp] theorem key_event (event : Event) : key event = event.seriesOccurrenceKey := rfl

def Event.live (event : Event) : Bool :=
  event.status = .draft ∨ event.status = .published

/-- The series and occurrences, under `uniq_event_series_occurrence_key`. -/
structure State where
  series : Option EventSeries := none
  events : Table Event := ∅

/-- Quota, module, and whether `update_event` accepts inherited values. -/
structure Outside where
  quota : Nat → Bool := fun _ => true
  moduleOn : Bool := true
  accepts : Event → Bool := fun _ => true

variable {Zone Rule : Type} (calendars : Calendars Zone Rule)

structure ParsedRule (Zone Rule : Type) where
  normalized : String
  rule : Rule
  zone : Zone
  anchor : Int

def parsedRule (series : EventSeries) : Except Refusal (ParsedRule Zone Rule) := do
  let normalized ← normalizeRule series.recurrenceRule
  let zone ← orRefuse (calendars.zoneInfo series.recurrenceTimezone) .invalidTimezone
  let anchor := series.dtstartLocalDate + series.dtstartLocalTime
  let rule ← orRefuse (calendars.rrulestr normalized zone anchor) .invalidRule
  pure ⟨normalized, rule, zone, anchor⟩

def validateSeriesRecurrence (series : EventSeries) : Except Refusal String := do
  let parsed ← parsedRule calendars series
  require ((calendars.after parsed.rule parsed.anchor).isSome) .emptyRule
  let buffer := calendars.xafter parsed.rule parsed.anchor (maxFutureOccurrences + 1)
  require (buffer.length ≤ maxFutureOccurrences ∨
    minExtensionBuffer ≤ buffer.getLast?.getD 0 - buffer.head?.getD 0) .tooDense
  pure parsed.normalized

structure Occurrence where
  key : OccurrenceKey
  localStart : Int
  startsAt : Int
  endsAt : Int

def isRealWallTime (zone : Zone) (localStart : Int) : Bool :=
  calendars.toLocal zone (calendars.toUtc zone localStart) = localStart

def EventSeries.duration (series : EventSeries) : Int := series.durationMinutes * minute

def occurrenceAt (series : EventSeries) (zone : Zone) (localStart : Int) : Occurrence :=
  let startsAt := calendars.toUtc zone localStart
  { key := { revision := series.revision, localStart := localStart / second }
    localStart := localStart
    startsAt := startsAt
    endsAt := startsAt + series.duration }

/-- The loop of `occurrences`, with its counts so far. -/
def collect (series : EventSeries) (zone : Zone) (now : Int) :
    List Int → Nat → List Occurrence → Except Refusal (List Occurrence)
  | [], _, results => .ok results
  | localStart :: rest, candidates, results =>
    if candidates + 1 > maxCandidates then .error .candidateLimit
    else
      let item := occurrenceAt calendars series zone localStart
      if item.startsAt > now + horizon then .ok results
      else if isRealWallTime calendars zone localStart = false then
        collect series zone now rest (candidates + 1) results
      else if now ≤ item.startsAt ∧
          maxFutureOccurrences ≤ (results.filter fun row => now ≤ row.startsAt).length then
        .ok results
      else collect series zone now rest (candidates + 1) (results ++ [item])

def candidates (series : EventSeries) (parsed : ParsedRule Zone Rule) (now : Int) : List Int :=
  calendars.xafter parsed.rule (calendars.toLocal parsed.zone (now - series.duration))
    (maxCandidates + 1)

/-- `occurrences`, with the normalized rule it writes. -/
def occurrences (series : EventSeries) (now : Int) :
    Except Refusal (String × List Occurrence) := do
  let parsed ← parsedRule calendars series
  let results ← collect calendars series parsed.zone now (candidates calendars series parsed now)
    0 []
  pure (parsed.normalized, results)

def eventValues (series : EventSeries) (occurrence : Occurrence) : Event where
  seriesOccurrenceKey := occurrence.key
  seriesRevision := series.revision
  template := series.template
  startsAt := occurrence.startsAt
  endsAt := occurrence.endsAt
  status := if series.status = .published then .published else .draft
  timezoneName := series.recurrenceTimezone

def pendingOf (events : Table Event) (generated : List Occurrence) : List Occurrence :=
  generated.filter fun item => (events.get? item.key).isNone

def materializeLocked (outside : Outside) (events : Table Event) (series : EventSeries)
    (now : Int) : Except Refusal (State × List Occurrence) := do
  let (normalized, generated) ← occurrences calendars series now
  let pending := pendingOf events generated
  require (series.status = .published → pending ≠ [] → outside.quota pending.length) .quota
  let events ← pending.foldlM
    (fun events item => events.insertNew (eventValues series item) Refusal.integrity) events
  let saved : EventSeries :=
    { series with recurrenceRule := normalized, lastMaterializedAt := some now }
  pure ({ series := some saved, events }, pending)

/-- `_validate`, with `series_duration_positive`. -/
def validate (series : EventSeries) : Except Refusal EventSeries := do
  let normalized ← validateSeriesRecurrence calendars series
  require (0 < series.durationMinutes) .integrity
  pure { series with recurrenceRule := normalized }

def createSeries (outside : Outside) (s : State) (values : EventSeries) (now : Int) :
    Except Refusal State := do
  require (s.series.isNone) .exists
  require outside.moduleOn .moduleOff
  let series ← validate calendars { values with revision := 1, status := .draft }
  let (s, _) ← materializeLocked calendars outside s.events series now
  pure s

def extendSeries (outside : Outside) (s : State) (now : Int) : Except Refusal State := do
  let locked ← orRefuse s.series .missing
  require (locked.status ≠ .cancelled ∧ locked.status ≠ .completed) .terminal
  require outside.moduleOn .moduleOff
  let (s, _) ← materializeLocked calendars outside s.events locked now
  pure s

def extendPublishedSeries (outside : Outside) (s : State) (now : Int) : Except Refusal State := do
  let series ← orRefuse s.series .missing
  require (series.status = .published) .notPublished
  require outside.moduleOn .moduleOff
  let (s, _) ← materializeLocked calendars outside s.events series now
  pure s

structure Changes where
  template : List (TemplateField × String) := []
  recurrenceTimezone : Option String := none
  dtstartLocalDate : Option Int := none
  dtstartLocalTime : Option Int := none
  recurrenceRule : Option String := none
  durationMinutes : Option Nat := none

def Changes.recurrenceChanged (changes : Changes) : Bool :=
  changes.recurrenceTimezone.isSome || changes.dtstartLocalDate.isSome ||
    changes.dtstartLocalTime.isSome || changes.recurrenceRule.isSome ||
      changes.durationMinutes.isSome

/-- The changed series, with the next revision for a new schedule. -/
def Changes.apply (changes : Changes) (series : EventSeries) : EventSeries where
  template field := (changes.template.lookup field).getD (series.template field)
  recurrenceTimezone := changes.recurrenceTimezone.getD series.recurrenceTimezone
  dtstartLocalDate := changes.dtstartLocalDate.getD series.dtstartLocalDate
  dtstartLocalTime := changes.dtstartLocalTime.getD series.dtstartLocalTime
  recurrenceRule := changes.recurrenceRule.getD series.recurrenceRule
  durationMinutes := changes.durationMinutes.getD series.durationMinutes
  revision := if changes.recurrenceChanged then series.revision + 1 else series.revision
  status := series.status
  lastMaterializedAt := series.lastMaterializedAt

/-- The filter of `future` in `_update_series`. -/
def Event.future (event : Event) (cutoff : Int) : Bool :=
  cutoff ≤ event.startsAt ∧ event.live

/-- Published future occurrences are cancelled, draft ones deleted. -/
def withdraw (events : Table Event) (cutoff : Int) : Table Event :=
  (events.restrict fun event => !(event.future cutoff && event.status = .draft)).mapRows
    (fun event => if event.future cutoff then { event with status := .cancelled } else event)
    (by intro event; split <;> rfl)

def appliedFields (series : EventSeries) (changed : List TemplateField) (event : Event) :
    List TemplateField :=
  changed.filter fun field =>
    field ∉ event.seriesOverrideFields ∧ event.template field ≠ series.template field

def applyTemplate (series : EventSeries) (changed : List TemplateField) (event : Event) : Event :=
  { event with template := fun field =>
      if field ∈ appliedFields series changed event then series.template field
      else event.template field }

def applyTemplates (outside : Outside) (events : Table Event) (series : EventSeries)
    (changed : List TemplateField) (cutoff : Int) : Except Refusal (Table Event) := do
  require (∀ event ∈ events.rows, event.future cutoff →
    appliedFields series changed event ≠ [] → outside.accepts event) .occurrenceRefused
  pure (events.mapRows
    (fun event => if event.future cutoff then applyTemplate series changed event else event)
    (by intro event; split <;> rfl))

/-- The occurrences before the new materialization. -/
def revise (outside : Outside) (events : Table Event) (series : EventSeries) (changes : Changes)
    (cutoff : Int) : Except Refusal (Table Event) :=
  if changes.recurrenceChanged then .ok (withdraw events cutoff)
  else applyTemplates outside events series (changes.template.map Prod.fst) cutoff

/-- `_update_series`, with its two clock readings. -/
def updateSeries (outside : Outside) (s : State) (changes : Changes) (effectiveFrom : Option Int)
    (cutoffNow now : Int) : Except Refusal State := do
  let locked ← orRefuse s.series .missing
  require (locked.status = .draft ∨ locked.status = .published) .terminal
  require (changes.recurrenceChanged → locked.status = .published → effectiveFrom ≠ none)
    .effectiveFromRequired
  let cutoff := effectiveFrom.getD cutoffNow
  let series ← validate calendars (changes.apply locked)
  require outside.moduleOn .moduleOff
  let events ← revise outside s.events series changes cutoff
  let (s, _) ← materializeLocked calendars outside events series now
  pure s

def publishEvents (events : Table Event) (now : Int) : Table Event :=
  events.mapRows
    (fun event =>
      if event.status = .draft ∧ now ≤ event.endsAt then { event with status := .published }
      else event)
    (by intro event; split <;> rfl)

def State.setStatus (s : State) (status : SeriesStatus) : State :=
  { s with series := s.series.map fun series => { series with status } }

def publishSeries (outside : Outside) (s : State) (now publishNow : Int) :
    Except Refusal State := do
  let locked ← orRefuse s.series .missing
  require (locked.status = .draft) .notDraft
  let series ← validate calendars locked
  require outside.moduleOn .moduleOff
  let (s, _) ← materializeLocked calendars outside s.events series now
  let drafts := s.events.rows.filter fun event =>
    event.status = .draft ∧ publishNow ≤ event.endsAt
  require (outside.quota drafts.length) .quota
  let published : State := { s with events := publishEvents s.events publishNow }
  pure (published.setStatus .published)

def cancelSeries (outside : Outside) (s : State) (now : Int) : Except Refusal State := do
  let locked ← orRefuse s.series .missing
  require (locked.status = .published) .notPublished
  require outside.moduleOn .moduleOff
  let events := s.events.mapRows
    (fun event =>
      if event.status = .published ∧ now ≤ event.endsAt then { event with status := .cancelled }
      else event)
    (by intro event; split <;> rfl)
  let cancelled : State := { s with events }
  pure (cancelled.setStatus .cancelled)

inductive Call
  | create (values : EventSeries) (now : Int)
  | extend (now : Int)
  | extendHourly (now : Int)
  | update (changes : Changes) (effectiveFrom : Option Int) (cutoffNow now : Int)
  | publish (now publishNow : Int)
  | cancel (now : Int)

def step (s : State) : Outside × Call → Except Refusal State
  | (outside, .create values now) => createSeries calendars outside s values now
  | (outside, .extend now) => extendSeries calendars outside s now
  | (outside, .extendHourly now) => extendPublishedSeries calendars outside s now
  | (outside, .update changes effectiveFrom cutoffNow now) =>
    updateSeries calendars outside s changes effectiveFrom cutoffNow now
  | (outside, .publish now publishNow) => publishSeries calendars outside s now publishNow
  | (outside, .cancel now) => cancelSeries outside s now

end Series
end SpaceWorks
