import SpaceWorks.Library.Runs

/-!
# Finalization of an evidence upload

Any number of calls of `finalize_upload` on one photo (`evidence/finalization.py`).  A step is one
transaction or one request to the object store; between steps other calls run and the client writes
the staging object.
-/

namespace SpaceWorks
namespace Finalization

open TransactionalSystem Option Except

/-- An object: bytes, size, and an allowed `image_mime_from_bytes`. -/
structure Blob where
  bytes : Nat
  size : Nat
  contentType : Option Nat
  deriving DecidableEq

structure Result where
  size : Nat
  contentType : Nat
  deriving DecidableEq

structure Settings where
  evidenceMaxBytes : Nat
  maxBytes : Nat
  evidenceUrlTtl : Nat

/-- What `object_size` has to say before the read. -/
def Settings.headOk (settings : Settings) (size : Nat) : Bool :=
  size ≠ 0 && size ≤ settings.evidenceMaxBytes

/-- The validation of an object of reported size. -/
def Settings.read (settings : Settings) (size : Nat) (blob : Blob) : Option Result :=
  match blob.contentType with
  | none => none
  | some contentType =>
    if 1 ≤ size ∧ size ≤ settings.maxBytes then
      some { size := size, contentType := contentType }
    else none

def Settings.validate (settings : Settings) (blob : Blob) : Option Result :=
  if settings.headOk blob.size then settings.read blob.size blob else none

inductive Status
  | pending
  | promoting
  | finalized
  deriving DecidableEq

structure Row where
  status : Status := .pending
  claimToken : Option Nat := none
  result : Option Result := none
  updatedAt : Nat := 0

inductive Call
  | claim
  | headExisting (token : Nat)
  | getExisting (token size : Nat)
  | headStaged (token : Nat)
  | getStaged (token size : Nat)
  | copy (token : Nat)
  | headFinal (token : Nat)
  | getFinal (token size : Nat)
  | deleteFinal (token : Nat)
  | deleteStaging (token : Nat) (result : Result)
  | complete (token : Nat) (result : Result)
  | release (token : Nat) (raises : Bool)
  | poll
  | headPolled
  | getPolled (size : Nat)
  | completePolled (result : Result)
  | deleteAfter (result : Result)
  | returned (result : Option Result)
  | failed
  deriving DecidableEq

structure World where
  now : Nat
  row : Row
  nextToken : Nat
  final : Option Blob
  staging : Option Blob
  calls : Nat → Call

def World.goto (w : World) (caller : Nat) (call : Call) : World :=
  { w with calls := Function.update w.calls caller call }

variable (settings : Settings)

def World.claim (w : World) (caller : Nat) : World :=
  if w.row.status = .finalized then
    match w.row.result with
    | some result => w.goto caller (.deleteAfter result)
    | none => w.goto caller .failed
  else if w.row.status = .promoting ∧ w.now < w.row.updatedAt + max settings.evidenceUrlTtl 60 then
    w.goto caller .poll
  else
    { w with
      row := { w.row with status := .promoting, claimToken := some w.nextToken, updatedAt := w.now }
      nextToken := w.nextToken + 1 }.goto caller (.headExisting w.nextToken)

/-- `_complete`, and what it returns. -/
def World.complete (w : World) (result : Result) : World × Option Result :=
  if w.row.status = .finalized then (w, w.row.result)
  else
    ({ w with
      row := { w.row with
        status := .finalized
        claimToken := none
        result := some result
        updatedAt := w.now } }, some result)

def World.release (w : World) (token : Nat) : World :=
  if w.row.status = .promoting ∧ w.row.claimToken = some token then
    { w with row := { w.row with status := .pending, claimToken := none, updatedAt := w.now } }
  else w

def World.advance (w : World) (caller : Nat) : World :=
  match w.calls caller with
  | .claim => w.claim settings caller
  | .headExisting token =>
    match w.final with
    | none => w.goto caller (.headStaged token)
    | some blob =>
      if settings.headOk blob.size then w.goto caller (.getExisting token blob.size)
      else w.goto caller (.release token true)
  | .getExisting token size =>
    match w.final.bind (settings.read size) with
    | none => w.goto caller (.release token true)
    | some result => w.goto caller (.deleteStaging token result)
  | .headStaged token =>
    match w.staging with
    | none => w.goto caller (.release token false)
    | some blob =>
      if settings.headOk blob.size then w.goto caller (.getStaged token blob.size)
      else w.goto caller (.release token true)
  | .getStaged token size =>
    match w.staging.bind (settings.read size) with
    | none => w.goto caller (.release token true)
    | some _ => w.goto caller (.copy token)
  | .copy token =>
    match w.staging with
    | none => w.goto caller (.release token true)
    | some blob => { w with final := some blob }.goto caller (.headFinal token)
  | .headFinal token =>
    match w.final with
    | none => w.goto caller (.release token true)
    | some blob =>
      if settings.headOk blob.size then w.goto caller (.getFinal token blob.size)
      else w.goto caller (.deleteFinal token)
  | .getFinal token size =>
    match w.final with
    | none => w.goto caller (.release token true)
    | some blob =>
      match settings.read size blob with
      | none => w.goto caller (.deleteFinal token)
      | some result => w.goto caller (.deleteStaging token result)
  | .deleteFinal token => { w with final := none }.goto caller (.release token true)
  | .deleteStaging token result =>
    { w with staging := none }.goto caller (.complete token result)
  | .complete _ result =>
    (w.complete result).1.goto caller (.returned (w.complete result).2)
  | .release token raises =>
    (w.release token).goto caller (if raises then .failed else .returned none)
  | .poll =>
    if w.row.status = .finalized then
      match w.row.result with
      | some result => w.goto caller (.deleteAfter result)
      | none => w.goto caller .failed
    else w.goto caller .headPolled
  | .headPolled =>
    match w.final with
    | none => w.goto caller .poll
    | some blob =>
      if settings.headOk blob.size then w.goto caller (.getPolled blob.size)
      else w.goto caller .failed
  | .getPolled size =>
    match w.final.bind (settings.read size) with
    | none => w.goto caller .failed
    | some result => w.goto caller (.completePolled result)
  | .completePolled result =>
    match (w.complete result).2 with
    | some result' => (w.complete result).1.goto caller (.deleteAfter result')
    | none => (w.complete result).1.goto caller .failed
  | .deleteAfter result => { w with staging := none }.goto caller (.returned (some result))
  | .returned _ => w
  | .failed => w

/-- Where an error takes a call; a deletion swallows it. -/
def Call.raise : Call → Call
  | .headExisting token | .getExisting token _ | .headStaged token | .getStaged token _
  | .copy token | .headFinal token | .getFinal token _ | .complete token _ => .release token true
  | .deleteFinal token => .release token true
  | .deleteStaging token result => .complete token result
  | .deleteAfter result => .returned (some result)
  | .returned result => .returned result
  | _ => .failed

inductive Event
  | tick (now : Nat)
  | upload (blob : Blob)
  | advance (caller : Nat)
  | raise (caller : Nat)
  /-- A copy that is made although its request fails. -/
  | copyUnanswered (caller : Nat)
  | crash (caller : Nat)

def World.step (w : World) : Event → Except Unit World
  | .tick now => .ok { w with now := max w.now now }
  | .upload blob => .ok { w with staging := some blob }
  | .advance caller => .ok (w.advance settings caller)
  | .raise caller => .ok (w.goto caller (w.calls caller).raise)
  | .copyUnanswered caller =>
    match w.calls caller, w.staging with
    | .copy token, some blob =>
      .ok ({ w with final := some blob }.goto caller (.release token true))
    | _, _ => .error ()
  | .crash caller =>
    match w.calls caller with
    | .returned _ => .error ()
    | _ => .ok (w.goto caller .failed)

/-- A photo with nothing uploaded; every call is still to be made. -/
def World.initial : World where
  now := 0
  row := {}
  nextToken := 0
  final := none
  staging := none
  calls := fun _ => .claim

/-- Only the row's holder copies, and validation reads the size reported. -/
def World.fits (w : World) : Event → Bool
  | .advance caller =>
    match w.calls caller with
    | .copy token => w.row.status = .promoting && w.row.claimToken = some token
    | .getExisting _ size => w.final.all (·.size = size)
    | .getPolled size => w.final.all (·.size = size)
    | _ => true
  | .copyUnanswered caller =>
    match w.calls caller with
    | .copy token => w.row.status = .promoting && w.row.claimToken = some token
    | _ => true
  | _ => true

variable {settings : Settings} {w w' : World} {call : Call} {c : Nat} {event : Event}

def Call.token : Call → Option Nat
  | .headExisting token | .getExisting token _ | .headStaged token | .getStaged token _
  | .copy token | .headFinal token | .getFinal token _ | .deleteFinal token
  | .deleteStaging token _ | .complete token _ | .release token _ => some token
  | _ => none

/-- The call has found no final object and has not copied one. -/
def Call.preparing : Call → Bool
  | .headStaged _ | .getStaged _ _ | .copy _ => true
  | _ => false

/-- The object is copied, and not yet validated or to be deleted. -/
def Call.copied : Call → Bool
  | .headFinal _ | .getFinal _ _ | .deleteFinal _ => true
  | _ => false

def Call.reported : Call → Option Nat
  | .getExisting _ size | .getStaged _ size | .getFinal _ size | .getPolled size => some size
  | _ => none

def Call.result : Call → Option Result
  | .deleteStaging _ result | .complete _ result | .completePolled result
  | .deleteAfter result => some result
  | .returned result => result
  | _ => none

/-- The final object is there, and this is what its validation yields. -/
def Settled (settings : Settings) (final : Option Blob) (result : Result) : Prop :=
  ∃ blob, final = some blob ∧ settings.validate blob = some result

def CopiedFact (settings : Settings) (final : Option Blob) : Call → Prop
  | .headFinal _ => ∃ blob, final = some blob
  | .getFinal _ size => ∃ blob, final = some blob ∧ blob.size = size ∧ settings.headOk size = true
  | .deleteFinal _ => ∃ blob, final = some blob ∧ settings.validate blob = none
  | _ => True

theorem CopiedFact.final {final : Option Blob}
    (h : CopiedFact settings final call) (hcopied : call.copied = true) :
    ∃ blob, final = some blob := by
  cases call with
  | headFinal => exact h
  | getFinal | deleteFinal =>
    obtain ⟨blob, hblob, -⟩ := h
    exact ⟨blob, hblob⟩
  | _ => simp [Call.copied] at hcopied

theorem copiedFact_of_not_copied {final : Option Blob}
    (h : call.copied = false) : CopiedFact settings final call := by
  cases call <;> trivial

theorem Settled.unique {final : Option Blob} {result result' : Result}
    (h : Settled settings final result) (h' : Settled settings final result') :
    result = result' := by
  obtain ⟨blob, hblob, hresult⟩ := h
  obtain ⟨blob', hblob', hresult'⟩ := h'
  obtain rfl : blob = blob' := some.inj (hblob.symm.trans hblob')
  exact some.inj (hresult.symm.trans hresult')

def World.current (w : World) (token : Nat) : Prop :=
  w.row.status = .promoting ∧ w.row.claimToken = some token

structure Inv (settings : Settings) (w : World) : Prop where
  fresh : ∀ c token, (w.calls c).token = some token → token < w.nextToken
  distinct : ∀ c c' token, (w.calls c).token = some token → (w.calls c').token = some token → c = c'
  rowToken : ∀ token, w.row.claimToken = some token → token < w.nextToken
  preparing : ∀ c token, (w.calls c).preparing = true → (w.calls c).token = some token →
    w.current token → w.final = none
  single : ∀ c c', (w.calls c).copied = true → (w.calls c').copied = true → c = c'
  copied : ∀ c, CopiedFact settings w.final (w.calls c)
  reported : ∀ c size, (w.calls c).reported = some size → settings.headOk size = true
  result : ∀ c result, (w.calls c).result = some result → Settled settings w.final result
  finalized : w.row.status = .finalized →
    ∃ result, w.row.result = some result ∧ Settled settings w.final result

theorem inv_initial (settings : Settings) : Inv settings World.initial := by
  constructor <;> simp [World.initial, Call.token, Call.preparing, Call.copied, Call.result,
    Call.reported, CopiedFact]

@[simp] theorem goto_self (w : World) (c : Nat) (call : Call) : (w.goto c call).calls c = call :=
  Function.update_self ..

theorem goto_of_ne (w : World) {c' : Nat} (h : c' ≠ c) (call : Call) :
    (w.goto c call).calls c' = w.calls c' :=
  Function.update_of_ne h ..

theorem Inv.not_copied (inv : Inv settings w) (h : w.final = none) (c : Nat) :
    (w.calls c).copied = false := by
  cases hcopied : (w.calls c).copied with
  | false => rfl
  | true =>
    obtain ⟨_, hblob⟩ := (inv.copied c).final hcopied
    rw [h] at hblob
    cases hblob

theorem Inv.goto (inv : Inv settings w)
    (htoken : ∀ token, call.token = some token → (w.calls c).token = some token)
    (hpreparing : ∀ token, call.preparing = true → call.token = some token →
      w.current token → w.final = none) (hcopied : call.copied = true → (w.calls c).copied = true)
    (hfact : CopiedFact settings w.final call)
    (hresult : ∀ result, call.result = some result → Settled settings w.final result)
    (hreported : ∀ size, call.reported = some size → settings.headOk size = true) :
    Inv settings (w.goto c call) where
  fresh := by
    intro c' token h
    by_cases heq : c' = c
    · subst heq
      rw [goto_self] at h
      exact inv.fresh c' token (htoken token h)
    · rw [goto_of_ne w heq] at h
      exact inv.fresh c' token h
  distinct := by
    have hold : ∀ c' token, ((w.goto c call).calls c').token = some token →
        (w.calls c').token = some token := by
      intro c' token h
      by_cases heq : c' = c
      · subst heq
        rw [goto_self] at h
        exact htoken token h
      · rwa [goto_of_ne w heq] at h
    intro c₁ c₂ token h₁ h₂
    exact inv.distinct c₁ c₂ token (hold c₁ token h₁) (hold c₂ token h₂)
  rowToken := inv.rowToken
  preparing := by
    intro c' token h h' hcurrent
    by_cases heq : c' = c
    · subst heq
      rw [goto_self] at h h'
      exact hpreparing token h h' hcurrent
    · rw [goto_of_ne w heq] at h h'
      exact inv.preparing c' token h h' hcurrent
  single := by
    have hold : ∀ c', ((w.goto c call).calls c').copied = true → (w.calls c').copied = true := by
      intro c' h
      by_cases heq : c' = c
      · subst heq
        rw [goto_self] at h
        exact hcopied h
      · rwa [goto_of_ne w heq] at h
    intro c₁ c₂ h₁ h₂
    exact inv.single c₁ c₂ (hold c₁ h₁) (hold c₂ h₂)
  copied := by
    intro c'
    by_cases heq : c' = c
    · subst heq
      rw [goto_self]
      exact hfact
    · rw [goto_of_ne w heq]
      exact inv.copied c'
  reported := by
    intro c' size h
    by_cases heq : c' = c
    · subst heq
      rw [goto_self] at h
      exact hreported size h
    · rw [goto_of_ne w heq] at h
      exact inv.reported c' size h
  result := by
    intro c' result h
    by_cases heq : c' = c
    · subst heq
      rw [goto_self] at h
      exact hresult result h
    · rw [goto_of_ne w heq] at h
      exact inv.result c' result h
  finalized := inv.finalized

theorem Inv.leave (inv : Inv settings w)
    (htoken : ∀ token, call.token = some token → (w.calls c).token = some token)
    (hpreparing : call.preparing = false) (hcopied : call.copied = false)
    (hresult : ∀ result, call.result = some result → Settled settings w.final result)
    (hreported : ∀ size, call.reported = some size → settings.headOk size = true) :
    Inv settings (w.goto c call) := by
  refine inv.goto htoken ?_ ?_ (copiedFact_of_not_copied hcopied) hresult hreported
  · intro token h
    rw [hpreparing] at h
    cases h
  · intro h
    rw [hcopied] at h
    cases h

theorem Inv.setRow (inv : Inv settings w) {row : Row} (hstatus : row.status ≠ .promoting)
    (htoken : row.claimToken = none) (hfinalized : row.status = .finalized →
      ∃ result, row.result = some result ∧ Settled settings w.final result) :
    Inv settings { w with row := row } where
  fresh := inv.fresh
  distinct := inv.distinct
  rowToken := by
    intro token h
    rw [htoken] at h
    cases h
  preparing := fun _ _ _ _ hcurrent => absurd hcurrent.1 hstatus
  single := inv.single
  copied := inv.copied
  reported := inv.reported
  result := inv.result
  finalized := hfinalized

theorem Inv.complete (inv : Inv settings w) {result : Result}
    (h : Settled settings w.final result) :
    Inv settings (w.complete result).1 ∧ (w.complete result).1.calls = w.calls ∧
      (w.complete result).1.final = w.final ∧
      ∃ result', (w.complete result).2 = some result' ∧ Settled settings w.final result' := by
  unfold World.complete
  split
  · rename_i hfinalized
    exact ⟨inv, rfl, rfl, inv.finalized hfinalized⟩
  · exact ⟨inv.setRow (by simp) rfl fun _ => ⟨result, rfl, h⟩, rfl, rfl, result, rfl, h⟩

theorem Inv.release (inv : Inv settings w) (token : Nat) :
    Inv settings (w.release token) ∧ (w.release token).calls = w.calls ∧
      (w.release token).final = w.final := by
  unfold World.release
  split
  · exact ⟨inv.setRow (by simp) rfl (by simp), rfl, rfl⟩
  · exact ⟨inv, rfl, rfl⟩

theorem Inv.claim (inv : Inv settings w) (hcall : w.calls c = .claim) :
    Inv settings (w.claim settings c) := by
  have hnone : (w.calls c).token = none := by rw [hcall]; rfl
  unfold World.claim
  split
  · rename_i hfinalized
    obtain ⟨_, hresult, hsettled⟩ := inv.finalized hfinalized
    simp only [hresult]
    refine inv.leave (by simp [Call.token]) rfl rfl ?_ (by simp [Call.reported])
    rintro _ ⟨⟩
    exact hsettled
  · rename_i hunfinalized
    split
    · exact inv.leave (by simp [Call.token]) rfl rfl (by simp [Call.result])
        (by simp [Call.reported])
    · have hother : ∀ c' ≠ c, ∀ token, (w.calls c').token = some token →
          token ≠ w.nextToken := by
        intro c' _ token h
        exact Nat.ne_of_lt (inv.fresh c' token h)
      constructor
      · intro c' token h
        by_cases heq : c' = c
        · subst heq
          rw [goto_self] at h
          cases h
          exact Nat.lt_succ_self _
        · rw [goto_of_ne _ heq] at h
          exact Nat.lt_succ_of_lt (inv.fresh c' token h)
      · intro c₁ c₂ token h₁ h₂
        by_cases heq₁ : c₁ = c <;> by_cases heq₂ : c₂ = c
        · exact heq₁.trans heq₂.symm
        · subst heq₁
          rw [goto_self] at h₁
          rw [goto_of_ne _ heq₂] at h₂
          cases h₁
          exact absurd rfl (hother c₂ heq₂ _ h₂)
        · subst heq₂
          rw [goto_self] at h₂
          rw [goto_of_ne _ heq₁] at h₁
          cases h₂
          exact absurd rfl (hother c₁ heq₁ _ h₁)
        · rw [goto_of_ne _ heq₁] at h₁
          rw [goto_of_ne _ heq₂] at h₂
          exact inv.distinct c₁ c₂ token h₁ h₂
      · rintro _ ⟨⟩
        exact Nat.lt_succ_self _
      · rintro c' token h h' ⟨-, hcurrent⟩
        by_cases heq : c' = c
        · subst heq
          rw [goto_self] at h
          cases h
        · rw [goto_of_ne _ heq] at h'
          have htoken : w.nextToken = token := some.inj hcurrent
          exact absurd htoken.symm (hother c' heq token h')
      · intro c₁ c₂ h₁ h₂
        by_cases heq₁ : c₁ = c
        · subst heq₁
          rw [goto_self] at h₁
          cases h₁
        · by_cases heq₂ : c₂ = c
          · subst heq₂
            rw [goto_self] at h₂
            cases h₂
          · rw [goto_of_ne _ heq₁] at h₁
            rw [goto_of_ne _ heq₂] at h₂
            exact inv.single c₁ c₂ h₁ h₂
      · intro c'
        by_cases heq : c' = c
        · subst heq
          rw [goto_self]
          trivial
        · rw [goto_of_ne _ heq]
          exact inv.copied c'
      · intro c' size h
        by_cases heq : c' = c
        · subst heq
          rw [goto_self] at h
          cases h
        · rw [goto_of_ne _ heq] at h
          exact inv.reported c' size h
      · intro c' result h
        by_cases heq : c' = c
        · subst heq
          rw [goto_self] at h
          cases h
        · rw [goto_of_ne _ heq] at h
          exact inv.result c' result h
      · intro h
        cases h

theorem Inv.unsettled (inv : Inv settings w) (h : ∀ result, ¬ Settled settings w.final result) :
    w.row.status ≠ .finalized ∧ ∀ c, (w.calls c).result = none := by
  constructor
  · intro hfinalized
    obtain ⟨result, -, hsettled⟩ := inv.finalized hfinalized
    exact h result hsettled
  · intro c
    cases hresult : (w.calls c).result with
    | none => rfl
    | some result => exact absurd (inv.result c result hresult) (h result)

theorem Inv.setFinal (inv : Inv settings w) {final : Option Blob}
    (hunsettled : ∀ result, ¬ Settled settings w.final result)
    (hothers : ∀ c' ≠ c, (w.calls c').copied = false) (htoken : call.token = (w.calls c).token)
    (hpreparing : ∀ c' ≠ c, ∀ token, (w.calls c').preparing = true →
      (w.calls c').token = some token → w.current token → final = none)
    (hcall : call.preparing = false) (hfact : CopiedFact settings final call)
    (hresult : call.result = none) (hreported : call.reported = none) :
    Inv settings ({ w with final := final }.goto c call) := by
  obtain ⟨hunfinalized, hnone⟩ := inv.unsettled hunsettled
  have htokens : ∀ c', (({ w with final := final } : World).goto c call).calls c' = call ∧ c' = c ∨
      (({ w with final := final } : World).goto c call).calls c' = w.calls c' ∧ c' ≠ c := by
    intro c'
    by_cases heq : c' = c
    · exact .inl ⟨heq ▸ goto_self _ _ _, heq⟩
    · exact .inr ⟨goto_of_ne _ heq _, heq⟩
  have hsame : ∀ c', ((({ w with final := final } : World).goto c call).calls c').token =
      (w.calls c').token := by
    intro c'
    rcases htokens c' with ⟨heq, rfl⟩ | ⟨heq, -⟩
    · rw [heq, htoken]
    · rw [heq]
  constructor
  · intro c' token h
    rw [hsame] at h
    exact inv.fresh c' token h
  · intro c₁ c₂ token h₁ h₂
    rw [hsame] at h₁ h₂
    exact inv.distinct c₁ c₂ token h₁ h₂
  · exact inv.rowToken
  · intro c' token h h' hcurrent
    rcases htokens c' with ⟨heq, -⟩ | ⟨heq, hne⟩
    · rw [heq, hcall] at h
      cases h
    · rw [heq] at h h'
      exact hpreparing c' hne token h h' hcurrent
  · intro c₁ c₂ h₁ h₂
    rcases htokens c₁ with ⟨-, heq₁⟩ | ⟨hkept, hne⟩
    · rcases htokens c₂ with ⟨-, heq₂⟩ | ⟨hkept, hne⟩
      · exact heq₁.trans heq₂.symm
      · rw [hkept, hothers c₂ hne] at h₂
        cases h₂
    · rw [hkept, hothers c₁ hne] at h₁
      cases h₁
  · intro c'
    rcases htokens c' with ⟨heq, -⟩ | ⟨heq, hne⟩
    · rw [heq]
      exact hfact
    · rw [heq]
      exact copiedFact_of_not_copied (hothers c' hne)
  · intro c' size h
    rcases htokens c' with ⟨heq, -⟩ | ⟨heq, -⟩
    · rw [heq, hreported] at h
      cases h
    · rw [heq] at h
      exact inv.reported c' size h
  · intro c' result h
    rcases htokens c' with ⟨heq, -⟩ | ⟨heq, -⟩
    · rw [heq, hresult] at h
      cases h
    · rw [heq, hnone] at h
      cases h
  · exact fun hfinalized => absurd hfinalized hunfinalized

theorem Inv.copy (inv : Inv settings w) {token : Nat} (hcall : w.calls c = .copy token)
    (hcurrent : w.current token) (blob : Blob) (htoken : call.token = some token)
    (hpreparing : call.preparing = false) (hresult : call.result = none)
    (hreported : call.reported = none) (hfact : CopiedFact settings (some blob) call) :
    Inv settings ({ w with final := some blob }.goto c call) := by
  have hnone : w.final = none :=
    inv.preparing c token (by rw [hcall]; rfl) (by rw [hcall]; rfl) hcurrent
  refine inv.setFinal ?_ ?_ ?_ ?_ hpreparing hfact hresult hreported
  · rintro _ ⟨_, hblob', -⟩
    rw [hnone] at hblob'
    cases hblob'
  · exact fun c' _ => inv.not_copied hnone c'
  · rw [hcall, htoken]
    rfl
  · intro c' hne token' h h' hcurrent'
    have htokens : token = token' := some.inj (hcurrent.2.symm.trans hcurrent'.2)
    subst htokens
    exact absurd (inv.distinct c' c token h' (by rw [hcall]; rfl)) hne

theorem Inv.deleteFinal (inv : Inv settings w) {token : Nat}
    (hcall : w.calls c = .deleteFinal token) :
    Inv settings ({ w with final := none }.goto c (.release token true)) := by
  have hfact := inv.copied c
  rw [hcall] at hfact
  obtain ⟨blob, hblob, hinvalid⟩ := hfact
  refine inv.setFinal ?_ ?_ ?_ ?_ rfl trivial rfl rfl
  · rintro _ ⟨blob', hblob', hvalid⟩
    obtain rfl : blob = blob' := some.inj (hblob.symm.trans hblob')
    rw [hinvalid] at hvalid
    cases hvalid
  · intro c' hne
    cases hcopied : (w.calls c').copied with
    | false => rfl
    | true => exact absurd (inv.single c' c hcopied (by rw [hcall]; rfl)) hne
  · rw [hcall]
    rfl
  · exact fun _ _ _ _ _ _ => rfl

theorem settled_of_read {final : Option Blob} {size : Nat} {result : Result}
    (hsize : final.all (·.size = size) = true) (hhead : settings.headOk size = true)
    (h : final.bind (settings.read size) = some result) : Settled settings final result := by
  obtain ⟨blob, rfl, hread⟩ := bind_eq_some_iff.mp h
  simp at hsize
  subst hsize
  exact ⟨blob, rfl, by simp [Settings.validate, hhead, hread]⟩

theorem inv_advance (inv : Inv settings w) (hfits : w.fits (.advance c) = true) :
    Inv settings (w.advance settings c) := by
  have hrelease : ∀ token raises, (w.calls c).token = some token →
      Inv settings (w.goto c (.release token raises)) := by
    intro token raises h
    refine inv.leave ?_ rfl rfl (by simp [Call.result]) (by simp [Call.reported])
    rintro _ ⟨⟩
    exact h
  have hstaging : Inv settings { w with staging := none } := { inv with }
  unfold World.advance
  cases hcall : w.calls c with
  | claim => exact inv.claim hcall
  | headExisting token =>
    cases hfinal : w.final with
    | none =>
      exact inv.goto (by simp [Call.token, hcall]) (fun _ _ _ _ => hfinal)
        (by simp [Call.copied]) trivial (by simp [Call.result]) (by simp [Call.reported])
    | some =>
      simp only []
      split
      · rename_i hhead
        exact inv.leave (by simp [Call.token, hcall]) rfl rfl (by simp [Call.result])
          (by simp [Call.reported, hhead])
      · exact hrelease token true (by rw [hcall]; rfl)
  | getExisting token size =>
    simp only [World.fits, hcall] at hfits
    dsimp only
    cases hread : w.final.bind (settings.read size) with
    | none => exact hrelease token true (by rw [hcall]; rfl)
    | some =>
      have hsettled := settled_of_read hfits (inv.reported c size (by rw [hcall]; rfl)) hread
      exact inv.leave (by simp [Call.token, hcall]) rfl rfl
        (by simpa [Call.result] using hsettled) (by simp [Call.reported])
  | headStaged token =>
    have hnone := inv.preparing c token (by rw [hcall]; rfl) (by rw [hcall]; rfl)
    cases hstaged : w.staging with
    | none => exact hrelease token false (by rw [hcall]; rfl)
    | some =>
      simp only []
      split
      · rename_i hhead
        refine inv.goto (by simp [Call.token, hcall]) ?_ (by simp [Call.copied]) trivial
          (by simp [Call.result]) (by simp [Call.reported, hhead])
        rintro _ - ⟨⟩ hcurrent
        exact hnone hcurrent
      · exact hrelease token true (by rw [hcall]; rfl)
  | getStaged token size =>
    have hnone := inv.preparing c token (by rw [hcall]; rfl) (by rw [hcall]; rfl)
    dsimp only
    cases hread : w.staging.bind (settings.read size) with
    | none => exact hrelease token true (by rw [hcall]; rfl)
    | some =>
      refine inv.goto (by simp [Call.token, hcall]) ?_ (by simp [Call.copied]) trivial
        (by simp [Call.result]) (by simp [Call.reported])
      rintro _ - ⟨⟩ hcurrent
      exact hnone hcurrent
  | copy token =>
    simp [World.fits, hcall] at hfits
    dsimp only
    cases hstaged : w.staging with
    | none => exact hrelease token true (by rw [hcall]; rfl)
    | some blob =>
      have hcopy : Inv settings ({ w with final := some blob }.goto c (.headFinal token)) :=
        inv.copy hcall hfits blob rfl rfl rfl rfl ⟨blob, rfl⟩
      rw [hstaged] at hcopy
      exact hcopy
  | headFinal token =>
    cases hfinal : w.final with
    | none => exact hrelease token true (by rw [hcall]; rfl)
    | some blob =>
      simp only []
      split
      · rename_i hhead
        exact inv.goto (by simp [Call.token, hcall]) (by simp [Call.preparing])
          (by simp [Call.copied, hcall]) ⟨blob, hfinal, rfl, hhead⟩ (by simp [Call.result])
          (by simp [Call.reported, hhead])
      · rename_i hhead
        refine inv.goto (by simp [Call.token, hcall]) (by simp [Call.preparing])
          (by simp [Call.copied, hcall]) ⟨blob, hfinal, ?_⟩ (by simp [Call.result])
          (by simp [Call.reported])
        simp [Settings.validate, hhead]
  | getFinal =>
    have hfact := inv.copied c
    rw [hcall] at hfact
    obtain ⟨blob, hfinal, rfl, hhead⟩ := hfact
    simp only [hfinal]
    cases hread : settings.read blob.size blob with
    | none =>
      refine inv.goto (by simp [Call.token, hcall]) (by simp [Call.preparing])
        (by simp [Call.copied, hcall]) ⟨blob, hfinal, ?_⟩ (by simp [Call.result])
        (by simp [Call.reported])
      simp [Settings.validate, hread]
    | some result =>
      have hsettled : Settled settings w.final result :=
        ⟨blob, hfinal, by simp [Settings.validate, hhead, hread]⟩
      exact inv.leave (by simp [Call.token, hcall]) rfl rfl
        (by simpa [Call.result] using hsettled) (by simp [Call.reported])
  | deleteFinal => exact inv.deleteFinal hcall
  | deleteStaging _ result =>
    have hsettled := inv.result c result (by rw [hcall]; rfl)
    exact hstaging.leave (by simp [Call.token, hcall]) rfl rfl
      (by simpa [Call.result] using hsettled) (by simp [Call.reported])
  | complete _ result =>
    obtain ⟨hinv, -, hfinal, _, hresult', hsettled⟩ :=
      inv.complete (inv.result c result (by rw [hcall]; rfl))
    refine hinv.leave (by simp [Call.token]) rfl rfl ?_ (by simp [Call.reported])
    rw [hfinal, hresult']
    simpa [Call.result] using hsettled
  | release token raises =>
    obtain ⟨hinv, -, -⟩ := inv.release token
    dsimp only
    cases raises with
    | true =>
      rw [if_pos rfl]
      exact hinv.leave (by simp [Call.token]) rfl rfl (by simp [Call.result])
        (by simp [Call.reported])
    | false =>
      rw [if_neg Bool.false_ne_true]
      exact hinv.leave (by simp [Call.token]) rfl rfl (by simp [Call.result])
        (by simp [Call.reported])
  | poll =>
    simp only []
    split
    · rename_i hfinalized
      obtain ⟨_, hresult, hsettled⟩ := inv.finalized hfinalized
      simp only [hresult]
      exact inv.leave (by simp [Call.token]) rfl rfl (by simpa [Call.result] using hsettled)
        (by simp [Call.reported])
    · exact inv.leave (by simp [Call.token]) rfl rfl (by simp [Call.result])
        (by simp [Call.reported])
  | headPolled =>
    cases hfinal : w.final with
    | none =>
      exact inv.leave (by simp [Call.token]) rfl rfl (by simp [Call.result])
        (by simp [Call.reported])
    | some =>
      simp only []
      split
      · rename_i hhead
        exact inv.leave (by simp [Call.token]) rfl rfl (by simp [Call.result])
          (by simp [Call.reported, hhead])
      · exact inv.leave (by simp [Call.token]) rfl rfl (by simp [Call.result])
          (by simp [Call.reported])
  | getPolled size =>
    simp only [World.fits, hcall] at hfits
    dsimp only
    cases hread : w.final.bind (settings.read size) with
    | none =>
      exact inv.leave (by simp [Call.token]) rfl rfl (by simp [Call.result])
        (by simp [Call.reported])
    | some =>
      have hsettled := settled_of_read hfits (inv.reported c size (by rw [hcall]; rfl)) hread
      exact inv.leave (by simp [Call.token]) rfl rfl
        (by simpa [Call.result] using hsettled) (by simp [Call.reported])
  | completePolled result =>
    obtain ⟨hinv, -, hfinal, _, hresult', hsettled⟩ :=
      inv.complete (inv.result c result (by rw [hcall]; rfl))
    simp only [hresult']
    refine hinv.leave (by simp [Call.token]) rfl rfl ?_ (by simp [Call.reported])
    rw [hfinal]
    simpa [Call.result] using hsettled
  | deleteAfter result =>
    have hsettled := inv.result c result (by rw [hcall]; rfl)
    exact hstaging.leave (by simp [Call.token]) rfl rfl
      (by simpa [Call.result] using hsettled) (by simp [Call.reported])
  | returned | failed => exact inv

theorem inv_raise (inv : Inv settings w) (c : Nat) :
    Inv settings (w.goto c (w.calls c).raise) := by
  cases hcall : w.calls c
  case deleteStaging token result =>
    have hsettled := inv.result c result (by rw [hcall]; rfl)
    exact inv.leave (by simp [Call.raise, Call.token, hcall]) rfl rfl
      (by simpa [Call.raise, Call.result] using hsettled) (by simp [Call.raise, Call.reported])
  case deleteAfter result =>
    have hsettled := inv.result c result (by rw [hcall]; rfl)
    exact inv.leave (by simp [Call.raise, Call.token]) rfl rfl
      (by simpa [Call.raise, Call.result] using hsettled) (by simp [Call.raise, Call.reported])
  case returned result =>
    refine inv.leave (by simp [Call.raise, Call.token]) rfl rfl ?_
      (by simp [Call.raise, Call.reported])
    intro result' hresult'
    exact inv.result c result' (by rw [hcall]; exact hresult')
  all_goals
    exact inv.leave (by simp [Call.raise, Call.token, hcall]) rfl rfl
      (by simp [Call.raise, Call.result]) (by simp [Call.raise, Call.reported])

theorem inv_step (inv : Inv settings w) (hfits : w.fits event = true)
    (h : w.step settings event = .ok w') : Inv settings w' := by
  cases event with
  | tick | upload =>
    cases h
    exact { inv with }
  | advance =>
    cases h
    exact inv_advance inv hfits
  | raise c =>
    cases h
    exact inv_raise inv c
  | copyUnanswered =>
    simp only [World.step] at h
    split at h
    · rename_i token blob hcall hstaged
      cases h
      simp [World.fits, hcall] at hfits
      exact inv.copy hcall hfits blob rfl rfl rfl rfl trivial
    · cases h
  | crash =>
    simp only [World.step] at h
    split at h
    · cases h
    · cases h
      exact inv.leave (by simp [Call.token]) rfl rfl (by simp [Call.result])
        (by simp [Call.reported])

theorem advance_final (settings : Settings) (w : World) (c : Nat) :
    (w.advance settings c).final = w.final ∨
      (∃ token, w.calls c = .copy token) ∨ ∃ token, w.calls c = .deleteFinal token := by
  cases hcall : w.calls c
  case copy token => exact .inr (.inl ⟨token, rfl⟩)
  case deleteFinal token => exact .inr (.inr ⟨token, rfl⟩)
  all_goals
    left
    simp only [World.advance, hcall, World.claim, World.complete, World.release]
    repeat' split
    all_goals rfl

theorem advance_row (settings : Settings) (w : World) (c : Nat)
    (h : w.row.status = .finalized) : (w.advance settings c).row = w.row := by
  cases hcall : w.calls c
  all_goals
    simp only [World.advance, hcall, World.claim, World.complete, World.release, h]
    repeat' split
    all_goals first | rfl | simp_all

theorem final_kept (inv : Inv settings w) (hfits : w.fits event = true)
    (h : w.step settings event = .ok w') {result : Result}
    (hsettled : Settled settings w.final result) : w'.final = w.final := by
  obtain ⟨blob, hblob, hvalid⟩ := hsettled
  have hcopy : ∀ c token, w.calls c = .copy token → ¬ w.current token := by
    intro c token hcall hcurrent
    have hnone := inv.preparing c token (by rw [hcall]; rfl) (by rw [hcall]; rfl) hcurrent
    rw [hblob] at hnone
    cases hnone
  cases event with
  | tick | upload | raise =>
    cases h
    rfl
  | crash =>
    simp only [World.step] at h
    split at h
    · cases h
    · cases h
      rfl
  | copyUnanswered c =>
    simp only [World.step] at h
    split at h
    · rename_i token _ hcall _
      simp [World.fits, hcall] at hfits
      exact absurd hfits (hcopy c token hcall)
    · cases h
  | advance c =>
    cases h
    have hkept : (w.advance settings c).final = w.final ∨
        (∃ token, w.calls c = .copy token) ∨ ∃ token, w.calls c = .deleteFinal token :=
      advance_final settings w c
    rcases hkept with hkept | ⟨token, hcall⟩ | ⟨token, hcall⟩
    · exact hkept
    · simp [World.fits, hcall] at hfits
      exact absurd hfits (hcopy c token hcall)
    · have hfact := inv.copied c
      rw [hcall] at hfact
      obtain ⟨other, hother, hinvalid⟩ := hfact
      obtain rfl : blob = other := some.inj (hblob.symm.trans hother)
      rw [hinvalid] at hvalid
      cases hvalid

theorem row_kept (h : w.step settings event = .ok w')
    (hfinalized : w.row.status = .finalized) : w'.row = w.row := by
  cases event with
  | tick | upload | raise =>
    cases h
    rfl
  | crash =>
    simp only [World.step] at h
    split at h
    · cases h
    · cases h
      rfl
  | copyUnanswered =>
    simp only [World.step] at h
    split at h
    · cases h
      rfl
    · cases h
  | advance c =>
    cases h
    exact advance_row settings w c hfinalized

variable {w : World}

structure Final (settings : Settings) (row : Row) (final : Option Blob) (w : World) : Prop where
  inv : Inv settings w
  row : w.row = row
  final : w.final = final

theorem final_step {row : Row} {final : Option Blob} {w' : World} {event : Event}
    (hstatus : row.status = .finalized) (h : Final settings row final w)
    (hfits : w.fits event = true) (hstep : w.step settings event = .ok w') :
    Final settings row final w' := by
  have hfinalized : w.row.status = .finalized := by rw [h.row, hstatus]
  obtain ⟨_, -, hsettled⟩ := h.inv.finalized hfinalized
  exact {
    inv := inv_step h.inv hfits hstep
    row := (row_kept hstep hfinalized).trans h.row
    final := (final_kept h.inv hfits hstep hsettled).trans h.final }

/-- In fitting runs the finalized object is the validated one and stays, and returned results are
one. -/
theorem finalization_of_run (settings : Settings) (events later : List Event)
    (h : Throughout (World.step settings) (fun w event => w.fits event = true) World.initial
      (events ++ later)) :
    ((run (World.step settings) World.initial events).row.status = .finalized → ∃ blob result,
        (run (World.step settings) World.initial events).row.result = some result ∧
        (run (World.step settings) World.initial events).final = some blob ∧
        settings.validate blob = some result ∧
        (run (World.step settings) World.initial (events ++ later)).row =
          (run (World.step settings) World.initial events).row ∧
        (run (World.step settings) World.initial (events ++ later)).final = some blob) ∧
    ∀ c c' result result',
      (run (World.step settings) World.initial events).calls c = .returned (some result) →
      (run (World.step settings) World.initial events).calls c' = .returned (some result') →
      result = result' := by
  obtain ⟨hevents, hlater⟩ := throughout_append.mp h
  have inv : Inv settings (run (World.step settings) World.initial events) :=
    run_preserves_throughout (fun inv hfits hstep => inv_step inv hfits hstep)
      (inv_initial settings) hevents
  constructor
  · intro hfinalized
    obtain ⟨result, hresult, blob, hblob, hvalid⟩ := inv.finalized hfinalized
    have hfinal := run_preserves_throughout
      (fun h hfits hstep => final_step hfinalized h hfits hstep) ⟨inv, rfl, rfl⟩ hlater
    rw [run_append]
    exact ⟨blob, result, hresult, hblob, hvalid, hfinal.row, hfinal.final.trans hblob⟩
  · intro c c' result result' hc hc'
    exact (inv.result c result (by rw [hc]; rfl)).unique (inv.result c' result' (by rw [hc']; rfl))

def photoSettings : Settings where
  evidenceMaxBytes := 100
  maxBytes := 100
  evidenceUrlTtl := 300

def photo : Blob := { bytes := 1, size := 60, contentType := some 0 }

def oneCall : List Event :=
  .upload photo :: List.replicate 9 (.advance 1)

theorem one_call_finalizes :
    (run (World.step photoSettings) World.initial (oneCall ++ [.upload photo, .advance 2])).final =
      some photo := by
  have h := finalization_of_run photoSettings oneCall [.upload photo, .advance 2]
    (by decide +kernel)
  obtain ⟨_, _, -, hblob, -, -, hlater⟩ := h.1 (by decide +kernel)
  have hphoto : (run (World.step photoSettings) World.initial oneCall).final = some photo := by
    decide +kernel
  rw [hlater, ← hblob, hphoto]

/-- A claim goes stale before its copy, and another call finalizes. -/
def takenOver : List Event :=
  .upload photo :: List.replicate 4 (.advance 1) ++ .tick 300 :: List.replicate 9 (.advance 2)

/-- The stale call copies a later upload, and deletes it. -/
def staleCopy : List Event :=
  .upload { bytes := 2, size := 0, contentType := none } :: List.replicate 3 (.advance 1)

theorem stale_copy_deletes :
    (run (World.step photoSettings) World.initial takenOver).row.status = .finalized ∧
    (run (World.step photoSettings) World.initial takenOver).final = some photo ∧
    (run (World.step photoSettings) World.initial takenOver).calls 2 =
      .returned (some { size := 60, contentType := 0 }) ∧
    (run (World.step photoSettings) World.initial (takenOver ++ staleCopy)).row.status =
      .finalized ∧
    (run (World.step photoSettings) World.initial (takenOver ++ staleCopy)).final = none := by
  decide +kernel

end Finalization
end SpaceWorks
