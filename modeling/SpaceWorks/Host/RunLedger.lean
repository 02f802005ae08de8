import SpaceWorks.Library.Checked
import SpaceWorks.Library.IsoTime
import SpaceWorks.Library.PyValue
import SpaceWorks.Library.Runs

/-!
# The effect ledger of a host run

`RunLedger` of `host_run_ledger.py`: an append-only file of attempts, which every call replays
first.  A restart changes nothing.
-/

namespace SpaceWorks
namespace Host

open Checked TransactionalSystem Python Function List Except Prod

inductive State
  | begun
  | done
  deriving DecidableEq

structure Record where
  runId : String
  artifactSha256 : String
  phase : String
  state : State
  attempt : Nat
  startedAt : String
  finishedAt : Option String
  detail : Value

def databaseRestorePhase : String := "database-restore"

/-- The run that a ledger belongs to, and how its times are read. -/
structure RunLedger where
  runId : String
  artifactSha256 : String
  reader : IsoReader

def Record.reload (record : Record) : Record :=
  { record with detail := record.detail.reload }

def Record.eq (a b : Record) : Bool :=
  a.runId = b.runId && a.artifactSha256 = b.artifactSha256 && a.phase = b.phase &&
    a.state = b.state && a.attempt = b.attempt && a.startedAt = b.startedAt &&
    a.finishedAt = b.finishedAt && a.detail.eq b.detail

/-- `datetime.fromisoformat` of a timestamp. -/
def fromIso (reader : IsoReader) (text : String) : Except String (Option Moment) :=
  match reader.read text with
  | .malformed => .error "Run ledger timestamp is malformed."
  | .naive => .ok none
  | .aware time => .ok (some time)

def finishedTime (reader : IsoReader) : Option String → Except String (Option (Option Moment))
  | none => .ok none
  | some text => if text = "" then .ok none else some <$> fromIso reader text

/-- A time without a zone is out of order. -/
def inOrder : Option Moment → Option (Option Moment) → Bool
  | none, _ => false
  | some _, none => true
  | some _, some none => false
  | some started, some (some finished) => started ≤ finished

def validateRecord (ledger : RunLedger) (record : Record) : Except String Unit := do
  require (record.runId = ledger.runId ∧ record.artifactSha256 = ledger.artifactSha256)
    "Run ledger identity mismatch."
  require (record.phase ≠ "") "Run ledger phase is invalid."
  require (1 ≤ record.attempt) "Run ledger attempt is invalid."
  require (record.state = .begun → record.finishedAt = none)
    "A begun ledger effect cannot be finished."
  require (record.state = .done → record.finishedAt ≠ none)
    "A done ledger effect needs a finish timestamp."
  require (record.detail.isDict = true) "Run ledger timestamps or detail are invalid."
  let started ← fromIso ledger.reader record.startedAt
  let finished ← finishedTime ledger.reader record.finishedAt
  require (inOrder started finished = true) "Run ledger timestamp ordering is invalid."

@[simp] theorem validateRecord_reload (ledger : RunLedger) (record : Record) :
    validateRecord ledger record.reload = validateRecord ledger record := by
  unfold validateRecord Record.reload
  dsimp only
  rw [Value.isDict_reload]

structure Progress where
  begun : List (Nat × String) := []
  donePhases : List String := []
  attempts : String → Nat := fun _ => 0

/-- One turn of the loop of `records`. -/
def replay (progress : Progress) (record : Record) : Except String Progress :=
  if record.state = .begun then
    if (record.attempt, record.phase) ∈ progress.begun ∨ record.phase ∈ progress.donePhases ∨
        record.attempt ≠ progress.attempts record.phase + 1 then
      .error "Run ledger attempt ordering is invalid."
    else
      .ok { progress with
        begun := (record.attempt, record.phase) :: progress.begun
        attempts := update progress.attempts record.phase record.attempt }
  else
    if (record.attempt, record.phase) ∉ progress.begun ∨ record.phase ∈ progress.donePhases then
      .error "Run ledger completes an effect that never began."
    else .ok { progress with donePhases := record.phase :: progress.donePhases }

def records (ledger : RunLedger) (rows : List Record) : Except String (List Record) := do
  rows.forM (validateRecord ledger)
  let _ ← rows.foldlM replay {}
  pure rows

def begunOf (rows : List Record) (phase : String) : List Record :=
  rows.filter fun record => record.phase = phase && record.state = .begun

def Completed (rows : List Record) (phase : String) : Prop :=
  ∃ record ∈ rows, record.phase = phase ∧ record.state = .done

instance (rows : List Record) (phase : String) : Decidable (Completed rows phase) :=
  inferInstanceAs (Decidable (∃ record ∈ rows, record.phase = phase ∧ record.state = .done))

structure Follows (rows : List Record) (progress : Progress) : Prop where
  begun : ∀ key, key ∈ progress.begun ↔
    ∃ record ∈ rows, record.state = .begun ∧ (record.attempt, record.phase) = key
  done : ∀ phase, phase ∈ progress.donePhases ↔ Completed rows phase
  attempts : ∀ phase, progress.attempts phase = (begunOf rows phase).length
  bounded : ∀ key ∈ progress.begun, key.1 ≤ progress.attempts key.2

theorem follows_nil : Follows [] {} := by
  constructor <;> simp [Completed, begunOf]

theorem begunOf_append (rows : List Record) (record : Record) (phase : String) :
    begunOf (rows ++ [record]) phase =
      begunOf rows phase ++ if record.phase = phase ∧ record.state = .begun then [record] else [] := by
  unfold begunOf
  rw [filter_append]
  by_cases h : record.phase = phase ∧ record.state = .begun <;> simp [h]

theorem completed_append {phase : String} :
    Completed (rows ++ [record]) phase ↔
      Completed rows phase ∨ (record.phase = phase ∧ record.state = .done) := by
  simp [Completed, or_and_right, exists_or]

theorem Follows.snoc {progress' : Progress}
    (h : Follows rows progress) (hstep : replay progress record = .ok progress') :
    Follows (rows ++ [record]) progress' := by
  unfold replay at hstep
  split at hstep
  next hbegun =>
    split at hstep
    next => cases hstep
    next hfresh =>
      simp only [not_or, not_not] at hfresh
      obtain ⟨-, -, hattempt⟩ := hfresh
      cases hstep
      constructor
      · intro key
        rw [mem_cons, h.begun]
        simp only [mem_append, mem_singleton, or_and_right, exists_or, exists_eq_left,
          hbegun, true_and]
        rw [or_comm, eq_comm (a := key)]
      · intro phase
        rw [h.done, completed_append, hbegun]
        simp
      · intro phase
        rw [begunOf_append, length_append, ← h.attempts]
        by_cases hphase : record.phase = phase
        · subst hphase
          simp [hbegun, hattempt]
        · simp [update_of_ne (Ne.symm hphase), hphase]
      · rintro ⟨_, phase⟩ hkey
        by_cases hphase : phase = record.phase
        · subst hphase
          dsimp only
          rw [update_self]
          rcases mem_cons.mp hkey with heq | hold
          · exact le_of_eq (mk.inj heq).1
          · exact (h.bounded _ hold).trans (hattempt ▸ Nat.le_succ _)
        · dsimp only
          rw [update_of_ne hphase]
          rcases mem_cons.mp hkey with heq | hold
          · exact absurd (mk.inj heq).2 hphase
          · exact h.bounded _ hold
  next hbegun =>
    split at hstep
    next => cases hstep
    next =>
      cases hstep
      have hdone : record.state = .done := by
        cases hstate : record.state with
        | begun => exact absurd hstate hbegun
        | done => rfl
      constructor
      · intro key
        rw [h.begun]
        simp [or_and_right, exists_or, hdone]
      · intro phase
        rw [mem_cons, h.done, completed_append, hdone, or_comm, eq_comm (a := phase)]
        simp
      · intro phase
        rw [h.attempts, begunOf_append]
        simp [hdone]
      · exact h.bounded

theorem replay_append :
    (rows ++ [record]).foldlM replay {} = .ok progress ↔
      ∃ before, rows.foldlM replay {} = .ok before ∧ replay before record = .ok progress := by
  rw [foldlM_append, bind_ok]
  simp

theorem follows_of_replay (h : rows.foldlM replay {} = .ok progress) : Follows rows progress := by
  induction rows using List.reverseRecOn generalizing progress with
  | nil =>
    obtain rfl := pure_ok.mp h
    exact follows_nil
  | append_singleton _ _ ih =>
    obtain ⟨_, hbefore, hstep⟩ := replay_append.mp h
    exact (ih hbefore).snoc hstep

variable {ledger : RunLedger} {rows : List Record} {record : Record} {progress : Progress}

def Readable (ledger : RunLedger) (rows : List Record) : Prop :=
  records ledger rows = .ok rows

theorem records_ok {result : List Record} :
    records ledger rows = .ok result ↔ (∀ record ∈ rows, validateRecord ledger record = .ok ()) ∧
        (∃ progress, rows.foldlM replay {} = .ok progress) ∧ rows = result := by
  simp only [records, bind_ok, pure_ok]
  constructor
  · rintro ⟨_, hvalid, progress, hreplay, rfl⟩
    exact ⟨forM_eq_ok.mp hvalid, ⟨progress, hreplay⟩, rfl⟩
  · rintro ⟨hvalid, ⟨progress, hreplay⟩, rfl⟩
    exact ⟨(), forM_eq_ok.mpr hvalid, progress, hreplay, rfl⟩

theorem readable_iff :
    Readable ledger rows ↔ (∀ record ∈ rows, validateRecord ledger record = .ok ()) ∧
      ∃ progress, rows.foldlM replay {} = .ok progress := by
  rw [Readable, records_ok]
  simp

theorem readable_append
    (h : Readable ledger rows) (hprogress : rows.foldlM replay {} = .ok progress)
    (hvalid : validateRecord ledger record = .ok ()) :
    Readable ledger (rows ++ [record]) ↔ ∃ after, replay progress record = .ok after := by
  rw [readable_iff, exists_congr fun _ => replay_append]
  obtain ⟨hold, -⟩ := readable_iff.mp h
  constructor
  · rintro ⟨-, after, _, hbefore, hstep⟩
    obtain rfl := ok.inj (hprogress.symm.trans hbefore)
    exact ⟨after, hstep⟩
  · rintro ⟨after, hstep⟩
    refine ⟨?_, after, progress, hprogress, hstep⟩
    intro other hother
    rcases mem_append.mp hother with hmem | hmem
    · exact hold other hmem
    · obtain rfl := mem_singleton.mp hmem
      exact hvalid

variable (ledger : RunLedger)

structure ResumeDecision where
  phase : Option String
  attempt : Nat
  requiresNewEmptySibling : Bool

def resumeDecision (rows : List Record) (phases : List String) :
    Except String ResumeDecision := do
  let records ← records ledger rows
  require (phases ≠ [] ∧ phases.Nodup) "Run phases must be a non-empty unique sequence."
  require (∀ record ∈ records, record.phase ∈ phases) "Run ledger contains an undeclared phase."
  match phases.find? fun phase => ¬ Completed records phase with
  | none => pure ⟨none, 0, false⟩
  | some phase =>
    let begun := begunOf records phase
    pure ⟨some phase, begun.length + 1, phase = databaseRestorePhase && !begun.isEmpty⟩

def checkSibling (last : Record) (detail : Value) : Except String Unit := do
  let refusal := "An interrupted database restore requires a new empty sibling."
  let sibling ← orRefuse (detail.get "sibling") refusal
  let empty ← orRefuse (sibling.get "empty") refusal
  require (empty.isTrue = true) refusal
  let identity ← orRefuse (sibling.get "identity") refusal
  require (identity.truthy = true) refusal
  let prior ← orRefuse (last.detail.get "sibling") "AttributeError"
  let priorIdentity ←
    if prior.truthy then orRefuse (prior.get "identity") "AttributeError" else pure .null
  require (identity.eq priorIdentity = false) refusal

/-- What `begin` checks of an interrupted database restore. -/
def checkRestart (records : List Record) (phase : String) (detail : Value) : Except String Unit :=
  if phase = databaseRestorePhase then
    match (begunOf records phase).getLast? with
    | some last => checkSibling last detail
    | none => pure ()
  else pure ()

def begunRecord (phase : String) (attempt : Nat) (detail : Value) (now : Moment) : Record where
  runId := ledger.runId
  artifactSha256 := ledger.artifactSha256
  phase := phase
  state := .begun
  attempt := attempt
  startedAt := isoText now
  finishedAt := none
  detail := detail

def begin (rows : List Record) (phase : String) (detail : Value) (now : Moment) :
    Except String (List Record × Record) := do
  let records ← records ledger rows
  require (¬ Completed records phase) "Completed run phase cannot be repeated."
  checkRestart records phase detail
  let record := begunRecord ledger phase ((begunOf records phase).length + 1) detail now
  validateRecord ledger record
  pure (rows ++ [record.reload], record)

def matching (records : List Record) (begun : Record) : Bool :=
  match records.filter fun record =>
      record.phase = begun.phase && record.attempt = begun.attempt && record.state = .begun with
  | [only] => only.eq begun
  | _ => false

def doneRecord (begun : Record) (detail : Option Value) (now : Moment) : Record where
  runId := ledger.runId
  artifactSha256 := ledger.artifactSha256
  phase := begun.phase
  state := .done
  attempt := begun.attempt
  startedAt := begun.startedAt
  finishedAt := some (isoText now)
  detail := detail.getD begun.detail

def finish (rows : List Record) (begun : Record) (detail : Option Value) (now : Moment) :
    Except String (List Record × Record) := do
  validateRecord ledger begun
  require (begun.state = .begun) "Only a begun effect can be completed."
  let records ← records ledger rows
  require (matching records begun = true) "Effect completion does not match its begun record."
  require (¬ ∃ record ∈ records, record.phase = begun.phase ∧ record.attempt = begun.attempt ∧
    record.state = .done) "Effect attempt is already complete."
  let record := doneRecord ledger begun detail now
  validateRecord ledger record
  pure (rows ++ [record.reload], record)

/-- A call; `finish` is given any record at all. -/
inductive Op
  | begin (phase : String) (detail : Value) (now : Moment)
  | finish (begun : Record) (detail : Option Value) (now : Moment)

def Op.phase : Op → String
  | .begin phase _ _ => phase
  | .finish begun _ _ => begun.phase

def step (rows : List Record) : Op → Except String (List Record)
  | .begin phase detail now => Prod.fst <$> begin ledger rows phase detail now
  | .finish begun detail now => Prod.fst <$> finish ledger rows begun detail now

variable {ledger : RunLedger} {rows after : List Record} {detail : Value} {now : Moment}
variable {record begun : Record}

structure Beginnable (ledger : RunLedger) (rows : List Record) (phase : String) (detail : Value)
    (now : Moment) : Prop where
  readable : Readable ledger rows
  open_ : ¬ Completed rows phase
  restart : checkRestart rows phase detail = .ok ()
  valid : validateRecord ledger
    (begunRecord ledger phase ((begunOf rows phase).length + 1) detail now) = .ok ()

theorem begin_ok {phase : String} :
    begin ledger rows phase detail now = .ok (after, record) ↔
      Beginnable ledger rows phase detail now ∧
        record = begunRecord ledger phase ((begunOf rows phase).length + 1) detail now ∧
        after = rows ++ [record.reload] := by
  simp only [begin, bind_ok, require_ok, pure_ok, exists_const, mk.injEq]
  constructor
  · rintro ⟨_, hreadable, hopen, _, hrestart, _, hvalid, rfl, rfl⟩
    obtain ⟨_, _, rfl⟩ := records_ok.mp hreadable
    exact ⟨⟨hreadable, hopen, hrestart, hvalid⟩, rfl, rfl⟩
  · rintro ⟨h, rfl, rfl⟩
    exact ⟨rows, h.readable, h.open_, (), h.restart, (), h.valid, rfl, rfl⟩

structure Finishable (ledger : RunLedger) (rows : List Record) (begun : Record)
    (detail : Option Value) (now : Moment) : Prop where
  readable : Readable ledger rows
  begun_valid : validateRecord ledger begun = .ok ()
  begun_state : begun.state = .begun
  recorded : matching rows begun = true
  unfinished : ¬ ∃ record ∈ rows, record.phase = begun.phase ∧ record.attempt = begun.attempt ∧
    record.state = .done
  valid : validateRecord ledger (doneRecord ledger begun detail now) = .ok ()

theorem finish_ok {detail : Option Value} :
    finish ledger rows begun detail now = .ok (after, record) ↔
      Finishable ledger rows begun detail now ∧
        record = doneRecord ledger begun detail now ∧ after = rows ++ [record.reload] := by
  simp only [finish, bind_ok, require_ok, pure_ok, exists_const, mk.injEq]
  constructor
  · rintro ⟨_, hbegun, hstate, _, hreadable, hmatch, hunfinished, _, hvalid, rfl, rfl⟩
    obtain ⟨_, _, rfl⟩ := records_ok.mp hreadable
    exact ⟨⟨hreadable, hbegun, hstate, hmatch, hunfinished, hvalid⟩, rfl, rfl⟩
  · rintro ⟨h, rfl, rfl⟩
    exact ⟨(), h.begun_valid, h.begun_state, rows, h.readable, h.recorded, h.unfinished, (),
      h.valid, rfl, rfl⟩

theorem exists_of_matching (h : matching rows begun = true) :
    ∃ record ∈ rows, record.state = .begun ∧ record.phase = begun.phase ∧
      record.attempt = begun.attempt := by
  unfold matching at h
  split at h
  next only honly =>
    have hmem : only ∈ [only] := mem_singleton_self _
    rw [← honly, mem_filter] at hmem
    simp at hmem
    exact ⟨only, hmem.1, hmem.2.2, hmem.2.1.1, hmem.2.1.2⟩
  next => cases h

theorem readable_begin {phase : String} (h : Beginnable ledger rows phase detail now) :
    Readable ledger (rows ++
      [(begunRecord ledger phase ((begunOf rows phase).length + 1) detail now).reload]) := by
  obtain ⟨-, progress, hprogress⟩ := readable_iff.mp h.readable
  have hfollows := follows_of_replay hprogress
  rw [readable_append h.readable hprogress ((validateRecord_reload ..).trans h.valid)]
  have hfresh : ((begunOf rows phase).length + 1, phase) ∉ progress.begun := by
    intro hkey
    have hbound := hfollows.bounded _ hkey
    rw [hfollows.attempts] at hbound
    exact absurd hbound (Nat.not_succ_le_self _)
  refine ⟨_, (if_pos rfl).trans (if_neg ?_)⟩
  rintro (hknown | hdone | hattempt)
  · exact hfresh hknown
  · exact h.open_ ((hfollows.done phase).mp hdone)
  · exact hattempt (congrArg (· + 1) (hfollows.attempts phase).symm)

theorem readable_finish_iff {detail : Option Value} (h : Finishable ledger rows begun detail now) :
    Readable ledger (rows ++ [(doneRecord ledger begun detail now).reload]) ↔
      ¬ Completed rows begun.phase := by
  obtain ⟨-, progress, hprogress⟩ := readable_iff.mp h.readable
  have hfollows := follows_of_replay hprogress
  rw [readable_append h.readable hprogress ((validateRecord_reload ..).trans h.valid)]
  have hbegun : (begun.attempt, begun.phase) ∈ progress.begun := by
    obtain ⟨record, hmem, hstate, hphase, hattempt⟩ := exists_of_matching h.recorded
    exact (hfollows.begun _).mpr ⟨record, hmem, hstate, by rw [hphase, hattempt]⟩
  have hreplay : replay progress (doneRecord ledger begun detail now).reload =
      if (begun.attempt, begun.phase) ∉ progress.begun ∨ begun.phase ∈ progress.donePhases then
        .error "Run ledger completes an effect that never began."
      else .ok { progress with donePhases := begun.phase :: progress.donePhases } :=
    if_neg nofun
  rw [hreplay, ← hfollows.done]
  constructor
  · rintro ⟨_, hok⟩ hdone
    rw [if_pos (.inr hdone)] at hok
    cases hok
  · intro hopen
    exact ⟨_, if_neg (not_or.mpr ⟨not_not.mpr hbegun, hopen⟩)⟩

variable {rows : List Record}

/-- The first phase without a completed attempt. -/
def Names (rows : List Record) (phases : List String) (decision : ResumeDecision) : Prop :=
  match decision.phase with
  | none => ∀ phase ∈ phases, Completed rows phase
  | some phase => ∃ before behind, phases = before ++ phase :: behind ∧
      (∀ earlier ∈ before, Completed rows earlier) ∧ ¬ Completed rows phase ∧
      decision.attempt = (begunOf rows phase).length + 1

theorem names_resumeDecision {phases : List String} (h : Readable ledger rows)
    (hphases : phases ≠ [] ∧ phases.Nodup) (hdeclared : ∀ record ∈ rows, record.phase ∈ phases) :
    ∃ decision, resumeDecision ledger rows phases = .ok decision ∧ Names rows phases decision := by
  simp only [resumeDecision, bind_ok, require_ok, exists_const]
  cases hfind : phases.find? fun phase => ¬ Completed rows phase with
  | none =>
    refine ⟨⟨none, 0, false⟩, ⟨rows, h, hphases, hdeclared, by rw [hfind]; rfl⟩, ?_⟩
    intro phase hphase
    simpa using find?_eq_none.mp hfind phase hphase
  | some =>
    refine ⟨_, ⟨rows, h, hphases, hdeclared, by rw [hfind]; rfl⟩, ?_⟩
    obtain ⟨hopen, before, behind, hsplit, hbefore⟩ := find?_eq_some_iff_append.mp hfind
    exact ⟨before, behind, hsplit, fun earlier hearlier => by simpa using hbefore earlier hearlier,
      by simpa using hopen, rfl⟩

variable {rows after : List Record} {op : Op}

/-- The ledger stays readable, phases complete once, and it resumes at the first open one. -/
structure KeepsLedger (ledger : RunLedger) (rows : List Record) (op : Op) : Prop where
  readable : ∀ after, step ledger rows op = .ok after → Readable ledger after
  once : (step ledger rows op).isOk → ¬ Completed rows op.phase
  resumes : ∀ after, step ledger rows op = .ok after → ∀ phases : List String,
    phases ≠ [] ∧ phases.Nodup → (∀ record ∈ after, record.phase ∈ phases) →
      ∃ decision, resumeDecision ledger after phases = .ok decision ∧ Names after phases decision

/-- An attempt is completed after another of its phase. -/
def Overtaken (ledger : RunLedger) (rows : List Record) : Op → Prop
  | .begin _ _ _ => False
  | .finish begun detail now =>
    Finishable ledger rows begun detail now ∧ Completed rows begun.phase

theorem step_cases (h : step ledger rows op = .ok after) (hnot : ¬ Overtaken ledger rows op) :
    Readable ledger after ∧ ¬ Completed rows op.phase := by
  cases op with
  | begin =>
    obtain ⟨⟨_, _⟩, hbegin, rfl⟩ := map_eq_ok.mp h
    obtain ⟨hbeginnable, rfl, rfl⟩ := begin_ok.mp hbegin
    exact ⟨readable_begin hbeginnable, hbeginnable.open_⟩
  | finish begun =>
    obtain ⟨⟨_, _⟩, hfinish, rfl⟩ := map_eq_ok.mp h
    obtain ⟨hfinishable, rfl, rfl⟩ := finish_ok.mp hfinish
    have hopen : ¬ Completed rows begun.phase := fun hdone => hnot ⟨hfinishable, hdone⟩
    exact ⟨(readable_finish_iff hfinishable).mpr hopen, hopen⟩

theorem not_overtaken_of_keepsLedger (h : KeepsLedger ledger rows op) :
    ¬ Overtaken ledger rows op := by
  cases op with
  | begin => exact id
  | finish begun detail now =>
    rintro ⟨hfinishable, hdone⟩
    have hfinish : finish ledger rows begun detail now = .ok _ :=
      finish_ok.mpr ⟨hfinishable, rfl, rfl⟩
    exact h.once (by simp [step, hfinish, Except.isOk, Except.toBool]) hdone

theorem keepsLedger_of_not_overtaken (hnot : ¬ Overtaken ledger rows op) :
    KeepsLedger ledger rows op where
  readable _ h := (step_cases h hnot).1
  once := by
    intro hok
    cases h : step ledger rows op with
    | ok => exact (step_cases h hnot).2
    | error => simp [h, Except.isOk, Except.toBool] at hok
  resumes _ h _ hphases hdeclared := names_resumeDecision (step_cases h hnot).1 hphases hdeclared

/-- A run keeps its ledger exactly when no phase is completed by two attempts. -/
theorem ledger_sound_iff (ledger : RunLedger) (ops : List Op) :
    Throughout (step ledger) (KeepsLedger ledger) [] ops ↔
      Throughout (step ledger) (fun rows op => ¬ Overtaken ledger rows op) [] ops :=
  throughout_congr (I := fun _ => True)
    (fun _ => ⟨not_overtaken_of_keepsLedger, keepsLedger_of_not_overtaken⟩)
    (fun _ _ _ => trivial) trivial ops

def drillLedger : RunLedger where
  runId := "5a7c1f4e-1111-4111-8111-111111111111"
  artifactSha256 := String.ofList (List.replicate 64 'a')
  reader := utcReader

def drillAttempt (attempt second : Nat) : Record :=
  begunRecord drillLedger "roles-and-grants" attempt (.dict []) (onSecond second)

def drillOps : List Op :=
  [.begin "roles-and-grants" (.dict []) (onSecond 1),
    .begin "roles-and-grants" (.dict []) (onSecond 2),
    .finish (drillAttempt 2 2) none (onSecond 3)]

theorem overtaken_attempt_locks_ledger :
    (begin drillLedger [] "roles-and-grants" (.dict []) (onSecond 1)).toOption.map Prod.snd =
        some (drillAttempt 1 1) ∧
      ∃ after, step drillLedger (run (step drillLedger) [] drillOps)
          (.finish (drillAttempt 1 1) none (onSecond 4)) = .ok after ∧
            ¬ Readable drillLedger after := by
  refine ⟨rfl, ?_⟩
  have hlocks : (match step drillLedger (run (step drillLedger) [] drillOps)
      (.finish (drillAttempt 1 1) none (onSecond 4)) with
    | .ok after => (records drillLedger after).isOk
    | .error _ => true) = false := by decide +kernel
  cases h : step drillLedger (run (step drillLedger) [] drillOps)
      (.finish (drillAttempt 1 1) none (onSecond 4)) with
  | error => simp [h] at hlocks
  | ok after =>
    refine ⟨after, rfl, fun hreadable => ?_⟩
    simp only [h] at hlocks
    rw [Readable] at hreadable
    rw [hreadable] at hlocks
    cases hlocks

end Host
end SpaceWorks
