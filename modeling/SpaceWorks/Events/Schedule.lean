import SpaceWorks.Events.Series

/-!
# The schedule of a series over its revisions

Occurrences of different revisions stay apart as long as no call generates a start inside an
occurrence that it keeps.  The generation never reads the effective date and looks back by one
duration, so a change generates a running occurrence again (`running_doubled`).
-/

namespace SpaceWorks
namespace Series

open Checked Events TransactionalSystem Table List

variable {Zone Rule : Type} {calendars : Calendars Zone Rule}
  {series series' : EventSeries} {zone : Zone} {now : Int} {generated : List Occurrence}
  {item : Occurrence} {parsed : ParsedRule Zone Rule}

/-- The real local starts up to the horizon. -/
def due (calendars : Calendars Zone Rule) (series : EventSeries) (now : Int) :
    List Occurrence :=
  match parsedRule calendars series with
  | .error _ => []
  | .ok parsed =>
    (((candidates calendars series parsed now).filter (isRealWallTime calendars parsed.zone)).map
      (occurrenceAt calendars series parsed.zone)).filter (·.startsAt ≤ now + horizon)

theorem mem_collect {starts : List Int} {n : Nat} {results : List Occurrence}
    (h : collect calendars series zone now starts n results = .ok generated)
    (hitem : item ∈ generated) :
    item ∈ results ∨ ∃ localStart ∈ starts, isRealWallTime calendars zone localStart = true ∧
      item = occurrenceAt calendars series zone localStart ∧ item.startsAt ≤ now + horizon := by
  induction starts generalizing n results with
  | nil =>
    rw [← Except.ok.inj h] at hitem
    exact .inl hitem
  | cons localStart rest ih =>
    have hlater : ∀ {m later}, collect calendars series zone now rest m later = .ok generated →
        item ∈ later ∨ ∃ other ∈ localStart :: rest, isRealWallTime calendars zone other = true ∧
            item = occurrenceAt calendars series zone other ∧
              item.startsAt ≤ now + horizon := by
      intro m later hrest
      refine (ih hrest).imp_right ?_
      rintro ⟨other, hother, hitem⟩
      exact ⟨other, .tail _ hother, hitem⟩
    have hdone : Except.ok results = Except.ok (ε := Refusal) generated → item ∈ results := by
      intro hresults
      rwa [Except.ok.inj hresults]
    rw [collect] at h
    by_cases hlimit : n + 1 > maxCandidates
    · rw [if_pos hlimit] at h
      cases h
    rw [if_neg hlimit] at h
    by_cases hhorizon : (occurrenceAt calendars series zone localStart).startsAt > now + horizon
    · rw [if_pos hhorizon] at h
      exact .inl (hdone h)
    rw [if_neg hhorizon] at h
    by_cases hreal : isRealWallTime calendars zone localStart = false
    · rw [if_pos hreal] at h
      exact hlater h
    rw [if_neg hreal] at h
    split at h
    · exact .inl (hdone h)
    · rcases hlater h with hmem | hfound
      · rcases mem_append.mp hmem with hold | hnew
        · exact .inl hold
        · obtain rfl := mem_singleton.mp hnew
          exact .inr ⟨localStart, .head _, by simpa using hreal, rfl, by omega⟩
      · exact .inr hfound

theorem mem_due {text : String} (h : occurrences calendars series now = .ok (text, generated))
    (hitem : item ∈ generated) : item ∈ due calendars series now := by
  simp only [occurrences, bind_ok, pure_ok, Prod.mk.injEq] at h
  obtain ⟨_, hparsed, _, hresults, -, rfl⟩ := h
  rw [due, hparsed]
  rcases mem_collect hresults hitem with hnone | ⟨_, hmem, hreal, rfl, hhorizon⟩
  · cases hnone
  · refine mem_filter.mpr ⟨?_, by simpa using hhorizon⟩
    exact mem_map_of_mem (mem_filter.mpr ⟨hmem, hreal⟩)

theorem due_revision
    (h : item ∈ due calendars series now) : item.key.revision = series.revision := by
  rw [due] at h
  split at h
  · cases h
  · obtain ⟨_, -, rfl⟩ := mem_map.mp (mem_filter.mp h).1
    rfl

variable {series : EventSeries} {events : Table Event} {outside : Outside} {s' : State}
variable {created : List Occurrence}

theorem rows_create {pending : List Occurrence} {events' : Table Event}
    (h : pending.foldlM (fun events item =>
      events.insertNew (eventValues series item) Refusal.integrity) events = .ok events') :
    events'.rows = events.rows ++ pending.map (eventValues series) := by
  induction pending generalizing events with
  | nil =>
    rw [foldlM_nil, pure_ok] at h
    simp [h]
  | cons _ _ ih =>
    rw [foldlM_cons, bind_ok] at h
    obtain ⟨_, hwrite, hrest⟩ := h
    obtain ⟨_, rfl⟩ := insertNew_ok.mp hwrite
    rw [ih hrest]
    simp [Table.insert]

/-- A materialization writes due occurrences that are not stored. -/
theorem materializeLocked_spec
    (h : materializeLocked calendars outside events series now = .ok (s', created)) :
    s'.events.rows = events.rows ++ created.map (eventValues series) ∧
      (∀ item ∈ created, item ∈ due calendars series now ∧ events.get? item.key = none) ∧
      ∃ parsed generated, parsedRule calendars series = .ok parsed ∧
        occurrences calendars series now = .ok (parsed.normalized, generated) ∧
        created = pendingOf events generated ∧
        s'.series = some { series with
          recurrenceRule := parsed.normalized, lastMaterializedAt := some now } := by
  simp only [materializeLocked, bind_ok, pure_ok, require_ok, Prod.mk.injEq] at h
  obtain ⟨⟨_, _⟩, hgenerated, -, -, _, hwritten, rfl, rfl⟩ := h
  refine ⟨rows_create hwritten, ?_, ?_⟩
  · intro item hitem
    obtain ⟨hmem, hfresh⟩ := mem_filter.mp hitem
    exact ⟨mem_due hgenerated hmem, by simpa using hfresh⟩
  · have hoccurrences := hgenerated
    simp only [occurrences, bind_ok, pure_ok, Prod.mk.injEq] at hgenerated
    obtain ⟨parsed, hparsed, results, -, rfl, rfl⟩ := hgenerated
    exact ⟨parsed, results, hparsed, hoccurrences, rfl, rfl⟩

variable {effective : Option Int} {f : Event → Event}

/-- Two stretches of time that do not overlap. -/
def apart (start stop start' stop' : Int) : Bool :=
  stop ≤ start' ∨ stop' ≤ start

/-- Occurrences carry their revision, and live ones of different revisions do not overlap. -/
structure Scheduled (events : Table Event) : Prop where
  numbered : ∀ event ∈ events, event.seriesOccurrenceKey.revision = event.seriesRevision
  apart : ∀ event ∈ events, ∀ other ∈ events, event.live = true → other.live = true →
    event.seriesRevision ≠ other.seriesRevision →
      apart event.startsAt event.endsAt other.startsAt other.endsAt = true

/-- New starts keep clear of live occurrences of other revisions, from the effective date on. -/
def clearOf (calendars : Calendars Zone Rule) (series : EventSeries) (now : Int)
    (events : Table Event) (effective : Option Int) : Bool :=
  (due calendars series now).all fun item =>
    (events.get? item.key).isSome ||
      (effective.all (· ≤ item.startsAt) && events.rows.all fun event =>
        !event.live || event.seriesRevision = series.revision ||
          apart event.startsAt event.endsAt item.startsAt item.endsAt)

theorem apart_symm {start stop start' stop' : Int}
    (h : apart start stop start' stop' = true) : apart start' stop' start stop = true := by
  simp only [apart, decide_eq_true_eq] at h ⊢
  exact h.symm

theorem clearOf_iff :
    clearOf calendars series now events effective = true ↔
      ∀ item ∈ due calendars series now, events.get? item.key = none →
        (∀ date ∈ effective, date ≤ item.startsAt) ∧
          ∀ event ∈ events, event.live = true → event.seriesRevision ≠ series.revision →
            apart event.startsAt event.endsAt item.startsAt item.endsAt = true := by
  simp only [clearOf, all_eq_true, Bool.or_eq_true, Bool.and_eq_true, Bool.not_eq_true',
    decide_eq_true_eq, Option.isSome_iff_ne_none, ne_eq, ← imp_iff_not_or, Option.all_eq_true,
    Table.mem_def, Option.mem_def, or_assoc]
  grind

/-- A rewriting of occurrences that keeps what the schedule is about. -/
structure KeepsSchedule (f : Event → Event) : Prop where
  key : ∀ event, (f event).seriesOccurrenceKey = event.seriesOccurrenceKey
  revision : ∀ event, (f event).seriesRevision = event.seriesRevision
  startsAt : ∀ event, (f event).startsAt = event.startsAt
  endsAt : ∀ event, (f event).endsAt = event.endsAt
  live : ∀ event, (f event).live = true → event.live = true

theorem Scheduled.mapRows {hf : ∀ event, Keyed.key (f event) = Keyed.key event}
    (h : Scheduled events) (hkeeps : KeepsSchedule f) : Scheduled (events.mapRows f hf) := by
  constructor
  · intro event hmem
    obtain ⟨old, hold, rfl⟩ := mem_mapRows.mp hmem
    rw [hkeeps.key, hkeeps.revision]
    exact h.numbered old hold
  · intro event hmem other hother hlive hlive' hrevision
    obtain ⟨old, hold, rfl⟩ := mem_mapRows.mp hmem
    obtain ⟨old', hold', rfl⟩ := mem_mapRows.mp hother
    rw [hkeeps.revision, hkeeps.revision] at hrevision
    rw [hkeeps.startsAt, hkeeps.endsAt, hkeeps.startsAt, hkeeps.endsAt]
    exact h.apart old hold old' hold' (hkeeps.live _ hlive) (hkeeps.live _ hlive') hrevision

theorem Scheduled.restrict (h : Scheduled events) (p : Event → Bool) :
    Scheduled (events.restrict p) := by
  constructor
  · intro event hmem
    exact h.numbered event (mem_restrict.mp hmem).1
  · intro event hmem other hother
    exact h.apart event (mem_restrict.mp hmem).1 other (mem_restrict.mp hother).1

theorem Scheduled.materialize {outside : Outside} {s' : State} {created : List Occurrence}
    (h : Scheduled events) (hclear : clearOf calendars series now events effective = true)
    (hstep : materializeLocked calendars outside events series now = .ok (s', created)) :
    Scheduled s'.events := by
  obtain ⟨hrows, hcreated, -⟩ := materializeLocked_spec hstep
  have hmem : ∀ event, event ∈ s'.events → event ∈ events ∨
      ∃ item ∈ due calendars series now, events.get? item.key = none ∧
        event = eventValues series item := by
    intro event hevent
    rw [Table.mem_def, hrows] at hevent
    rcases mem_append.mp hevent with hold | hnew
    · exact .inl hold
    · obtain ⟨item, hitem, rfl⟩ := mem_map.mp hnew
      exact .inr ⟨item, (hcreated item hitem).1, (hcreated item hitem).2, rfl⟩
  rw [clearOf_iff] at hclear
  constructor
  · intro event hevent
    rcases hmem event hevent with hold | ⟨_, hdue, -, rfl⟩
    · exact h.numbered event hold
    · exact due_revision hdue
  · intro event hevent other hother hlive hlive' hrevision
    rcases hmem event hevent with hold | ⟨item, hdue, hfresh, rfl⟩
    · rcases hmem other hother with hold' | ⟨item, hdue, hfresh, rfl⟩
      · exact h.apart event hold other hold' hlive hlive' hrevision
      · exact (hclear item hdue hfresh).2 event hold hlive hrevision
    · rcases hmem other hother with hold' | ⟨_, _, _, rfl⟩
      · exact apart_symm ((hclear item hdue hfresh).2 other hold' hlive' (Ne.symm hrevision))
      · exact absurd rfl hrevision

variable {s' s : State}

/-- There is no series yet, or its occurrences are scheduled. -/
structure Kept (s : State) : Prop where
  scheduled : Scheduled s.events
  unborn : s.series = none → s.events = ∅

theorem Kept.materialize {outside : Outside}
    {now : Int} {created : List Occurrence} {effective : Option Int}
    (h : Scheduled events) (hclear : clearOf calendars series now events effective = true)
    (hstep : materializeLocked calendars outside events series now = .ok (s', created)) :
    Kept s' := by
  refine ⟨h.materialize hclear hstep, fun hnone => ?_⟩
  obtain ⟨-, -, _, _, -, -, -, hseries⟩ := materializeLocked_spec hstep
  rw [hnone] at hseries
  cases hseries

theorem Scheduled.unique {events : Table Event} (h : Scheduled events)
    {event other : Event} (hevent : event ∈ events) (hother : other ∈ events)
    (hrevision : event.seriesRevision = other.seriesRevision)
    (hlocal : event.seriesOccurrenceKey.localStart = other.seriesOccurrenceKey.localStart) :
    event = other := by
  refine eq_of_key_eq hevent hother ?_
  have hnumber := h.numbered event hevent
  have hnumber' := h.numbered other hother
  rw [key_event, key_event]
  cases hkey : event.seriesOccurrenceKey with
  | mk =>
    cases hkey' : other.seriesOccurrenceKey with
    | mk =>
      rw [hkey] at hnumber hlocal
      rw [hkey'] at hnumber' hlocal
      simp only at hnumber hnumber' hlocal
      rw [hnumber, hnumber', hrevision, hlocal]

end Series
end SpaceWorks
