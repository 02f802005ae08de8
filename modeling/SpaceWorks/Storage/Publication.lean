import Mathlib.Logic.Function.Basic
import Mathlib.Logic.Relation
import SpaceWorks.Library.Python

/-!
# Create-once publication

`snapshot`, `validate_existing` and `publish` of `object_publication.py` over one final key; clients
write the staging key at any time.
-/

namespace SpaceWorks
namespace Publication

open Relation Option

structure Object where
  body : List UInt8
  contentType : String
  metadata : List (String × String)

structure Snapshot where
  body : List UInt8
  contentType : String
  metadata : List (String × String)

inductive GetReply where
  | object (object : Object)
  | clientError (status : Option Nat) (code : String)
  | failed

inductive PutReply where
  | stored
  | clientError (status : Option Nat) (code : String)
  | failed

/-- The loop of `snapshot`, which reads one byte more than it takes. -/
def spool (maxBytes : Nat) : Nat → List UInt8 → List UInt8 → List UInt8
  | 0, spooled, _ => spooled
  | fuel + 1, spooled, rest =>
    if spooled.length ≤ maxBytes then
      let amount := min (64 * 1024) (maxBytes + 1 - spooled.length)
      if rest.take amount = [] then spooled
      else spool maxBytes fuel (spooled ++ rest.take amount) (rest.drop amount)
    else spooled

def missing (status : Option Nat) (code : String) : Bool :=
  if status.isSome && status ≠ some 404 then false
  else code ∈ ["404", "NoSuchKey", "NotFound"] || (code = "" && status = some 404)

variable (beyond : List Char → Nat → List Char)

/-- `snapshot`: nothing for a missing object, `none` when it raises. -/
def snapshot (maxBytes : Nat) : GetReply → Option (Option Snapshot)
  | .failed => none
  | .clientError status code => if missing status code then some none else none
  | .object object =>
    let body := spool maxBytes (maxBytes + 1) [] object.body
    if 1 ≤ body.length ∧ body.length ≤ maxBytes then
      some (some ⟨body, Python.strip (Python.lowerText beyond object.contentType), object.metadata⟩)
    else none

variable {γ : Type*}

/-- The arguments of `publish`; a raising validator gives nothing. -/
structure Call (γ : Type*) where
  maxBytes : Nat
  validator : Snapshot → Option γ

/-- What a call of `publish` does next. -/
inductive Phase (γ : Type*) where
  | checking
  | staging
  | putting (source : Snapshot) (result : γ) (attempt : Nat)
  | conflicted (source : Snapshot) (result : γ) (attempt : Nat) (precondition : Bool)
  | confirming
  | returned (result : Option γ)
  | raised

variable (beyond : List Char → Nat → List Char) (contentType : γ → String)

/-- `validate_existing`; `none` when it raises. -/
def validateExisting (call : Call γ) (reply : GetReply) : Option (Option γ) :=
  (snapshot beyond call.maxBytes reply).bind fun current =>
    match current with
    | none => some none
    | some current => (call.validator current).map some

def Phase.read (call : Call γ) (reply : GetReply) : Phase γ → Phase γ
  | .checking =>
    match validateExisting beyond call reply with
    | none => .raised
    | some none => .staging
    | some (some current) => .returned (some current)
  | .staging =>
    match snapshot beyond call.maxBytes reply with
    | none => .raised
    | some none => .returned none
    | some (some source) =>
      match call.validator source with
      | none => .raised
      | some result => .putting source result 0
  | .conflicted source result attempt precondition =>
    match validateExisting beyond call reply with
    | none => .raised
    | some (some winner) => .returned (some winner)
    | some none =>
      if precondition then .raised
      else if attempt + 1 < 3 then .putting source result (attempt + 1)
      else .raised
  | .confirming =>
    match validateExisting beyond call reply with
    | none => .raised
    | some none => .raised
    | some (some winner) => .returned (some winner)
  | phase => phase

def Phase.answered (reply : PutReply) : Phase γ → Phase γ
  | .putting source result attempt =>
    match reply with
    | .stored => .confirming
    | .failed => .raised
    | .clientError status code =>
      if status ∈ [some 409, some 412] ∨
          code ∈ ["ConditionalRequestConflict", "PreconditionFailed", "409", "412"] then
        .conflicted source result attempt
          (status = some 412 || code ∈ ["PreconditionFailed", "412"])
      else .raised
  | phase => phase

def written (source : Snapshot) (result : γ) : Object :=
  ⟨source.body, contentType result, source.metadata⟩

/-- The keys and the calls; new calls are `checking`. -/
structure State (γ : Type*) where
  final : Option Object
  staging : Option Object
  phase : Nat → Phase γ

def State.readBy (s : State γ) : Phase γ → Option Object
  | .staging => s.staging
  | _ => s.final

def Shows (stored : Option Object) : GetReply → Prop
  | .object object => stored = some object
  | _ => True

/-- A client writes, or a call reads or puts, with any reply. -/
inductive Next (calls : Nat → Call γ) (s : State γ) : State γ → Prop
  | upload (staging : Option Object) : Next calls s { s with staging := staging }
  | read (id : Nat) (reply : GetReply) (h : Shows (s.readBy (s.phase id)) reply) :
      Next calls s { s with
        phase := Function.update s.phase id ((s.phase id).read beyond (calls id) reply) }
  | put (id : Nat) (reply : PutReply) (made : Bool) {source : Snapshot} {result : γ}
      {attempt : Nat} (h : s.phase id = .putting source result attempt) :
      Next calls s { s with
        final := if made then s.final.or (some (written contentType source result)) else s.final
        phase := Function.update s.phase id ((s.phase id).answered reply) }

/-- Nothing is published and no call has begun. -/
def State.initial (staging : Option Object) : State γ := ⟨none, staging, fun _ => .checking⟩

variable {beyond : List Char → Nat → List Char} {contentType : γ → String} {calls : Nat → Call γ}
variable {s t : State γ} {call : Call γ} {stored : Option Object} {reply : GetReply} {result : γ}
variable {phase : Phase γ}

/-- An object that is what a validated snapshot is put as. -/
def Passed (contentType : γ → String) (calls : Nat → Call γ) (object : Object) : Prop :=
  ∃ id source result, (calls id).validator source = some result ∧
    object = written contentType source result

def Verdict (beyond : List Char → Nat → List Char) (call : Call γ) (stored : Option Object)
    (result : γ) : Prop :=
  ∃ object source, stored = some object ∧
    snapshot beyond call.maxBytes (.object object) = some (some source) ∧
    call.validator source = some result

def Phase.Knows (beyond : List Char → Nat → List Char) (call : Call γ) (stored : Option Object) :
    Phase γ → Prop
  | .putting source result _ | .conflicted source result _ _ =>
    call.validator source = some result
  | .returned (some result) => Verdict beyond call stored result
  | _ => True

structure Inv (beyond : List Char → Nat → List Char) (contentType : γ → String)
    (calls : Nat → Call γ) (s : State γ) : Prop where
  passed : ∀ object, s.final = some object → Passed contentType calls object
  knows : ∀ id, (s.phase id).Knows beyond (calls id) s.final

theorem verdict_of_validateExisting (hshows : Shows stored reply)
    (h : validateExisting beyond call reply = some (some result)) :
    Verdict beyond call stored result := by
  obtain ⟨current, hsnapshot, h⟩ := bind_eq_some_iff.mp h
  cases current with
  | none => cases h
  | some source =>
    obtain ⟨_, hvalue, heq⟩ := map_eq_some_iff.mp h
    cases heq
    cases reply with
    | object object => exact ⟨object, source, hshows, hsnapshot, hvalue⟩
    | clientError =>
      rw [snapshot] at hsnapshot
      split at hsnapshot <;> cases hsnapshot
    | failed => cases hsnapshot

theorem knows_read {id : Nat} (hknows : phase.Knows beyond (calls id) s.final)
    (hshows : Shows (s.readBy phase) reply) :
    (phase.read beyond (calls id) reply).Knows beyond (calls id) s.final := by
  cases phase with
  | checking | confirming =>
    rw [Phase.read]
    split
    · trivial
    · trivial
    · next hresult => exact verdict_of_validateExisting hshows hresult
  | staging =>
    rw [Phase.read]
    split
    · trivial
    · trivial
    · split
      · trivial
      · next hresult => exact hresult
  | putting => exact hknows
  | conflicted =>
    rw [Phase.read]
    split
    · trivial
    · next hresult => exact verdict_of_validateExisting hshows hresult
    · split
      · trivial
      · split
        · exact hknows
        · trivial
  | returned => exact hknows
  | raised => trivial

theorem knows_answered {source : Snapshot}
    {attempt : Nat} (reply : PutReply) (h : call.validator source = some result) :
    ((Phase.putting source result attempt).answered reply).Knows beyond call stored := by
  cases reply with
  | stored | failed => trivial
  | clientError =>
    rw [Phase.answered]
    split
    · exact h
    · trivial

theorem final_of_next (h : Next beyond contentType calls s t) {object : Object}
    (hfinal : s.final = some object) : t.final = some object := by
  cases h with
  | upload | read => exact hfinal
  | put _ _ made =>
    cases made with
    | false => exact hfinal
    | true => simp [hfinal]

theorem Phase.Knows.mono {stored' : Option Object} (h : phase.Knows beyond call stored)
    (hkept : ∀ object, stored = some object → stored' = some object) :
    phase.Knows beyond call stored' := by
  unfold Phase.Knows at h ⊢
  split <;> simp only at h ⊢
  · exact h
  · exact h
  · obtain ⟨object, source, hstored, hverdict⟩ := h
    exact ⟨object, source, hkept object hstored, hverdict⟩

theorem Inv.next (hinv : Inv beyond contentType calls s)
    (h : Next beyond contentType calls s t) : Inv beyond contentType calls t := by
  have hkept : ∀ object, s.final = some object → t.final = some object :=
    fun object => final_of_next h
  cases h with
  | upload => exact ⟨hinv.passed, hinv.knows⟩
  | read id _ hshows =>
    refine ⟨hinv.passed, fun id' => ?_⟩
    by_cases hid : id' = id
    · subst hid
      simpa using knows_read (hinv.knows id') hshows
    · simpa [hid] using hinv.knows id'
  | @put id reply made source result _ hphase =>
    have hresult : (calls id).validator source = some result := by
      have hknows := hinv.knows id
      rwa [hphase] at hknows
    refine ⟨fun object hobject => ?_, fun id' => ?_⟩
    · cases hfinal : s.final with
      | some stored =>
        rw [hkept stored hfinal] at hobject
        exact hinv.passed object (hfinal.trans hobject)
      | none =>
        cases made with
        | false => exact hinv.passed object hobject
        | true =>
          simp [hfinal] at hobject
          cases hobject
          exact ⟨id, source, result, hresult, rfl⟩
    · by_cases hid : id' = id
      · subst hid
        rw [hphase]
        simpa using knows_answered reply hresult
      · simpa [hid] using (hinv.knows id').mono hkept

theorem inv_of_run {staging : Option Object}
    (h : ReflTransGen (Next beyond contentType calls) (State.initial staging) s) :
    Inv beyond contentType calls s := by
  induction h with
  | refl => exact ⟨fun _ hobject => (nomatch hobject), fun _ => trivial⟩
  | tail _ hnext ih => exact ih.next hnext

/-- The published object stays, was passed by its call's validator, and is what verdicts are about.
-/
theorem publication_creates_once {staging : Option Object}
    (h : ReflTransGen (Next beyond contentType calls) (State.initial staging) s) :
    (∀ object, s.final = some object → Passed contentType calls object ∧
      ∀ u, ReflTransGen (Next beyond contentType calls) s u → u.final = some object) ∧
    (∀ u object, Next beyond contentType calls s u → s.final = none → u.final = some object →
      ∃ id source result attempt, s.phase id = .putting source result attempt ∧
        (calls id).validator source = some result ∧
        object = written contentType source result) ∧
    ∀ id result, s.phase id = .returned (some result) →
      Verdict beyond (calls id) s.final result := by
  have hinv := inv_of_run h
  refine ⟨fun object hobject => ⟨hinv.passed object hobject, fun u hrun => ?_⟩, ?_, ?_⟩
  · induction hrun with
    | refl => exact hobject
    | tail _ hnext ih => exact final_of_next hnext ih
  · intro u object hnext hnone hsome
    cases hnext with
    | upload | read => rw [hnone] at hsome; cases hsome
    | @put id _ made source result attempt hphase =>
      have hknows := hinv.knows id
      rw [hphase] at hknows
      cases made with
      | false => rw [if_neg (by decide), hnone] at hsome; cases hsome
      | true =>
        simp [hnone] at hsome
        cases hsome
        exact ⟨id, source, result, attempt, hphase, hknows, rfl⟩
  · intro id result hphase
    have hknows := hinv.knows id
    rwa [hphase] at hknows

def plainCall : Call String := ⟨8, fun source => some source.contentType⟩

def plainText : Object := ⟨[72, 105], "text/plain", []⟩

theorem upload_is_published :
    ∃ s, ReflTransGen (Next (fun _ _ => []) id fun _ => plainCall)
        (State.initial (some plainText)) s ∧
      s.phase 0 = .returned (some "text/plain") ∧
      Verdict (fun _ _ => []) plainCall s.final "text/plain" := by
  have hchecked : ReflTransGen (Next (fun _ _ => []) id fun _ => plainCall)
      (State.initial (some plainText)) _ :=
    ReflTransGen.refl.tail (Next.read 0 (.clientError (some 404) "") trivial)
  have hstaged := hchecked.tail (Next.read 0 (.object plainText) rfl)
  have hwritten := (hstaged.tail (Next.upload none)).tail
    (Next.put 0 (.clientError (some 412) "") true rfl)
  have hrun := hwritten.tail (Next.read 0 (.object plainText) rfl)
  exact ⟨_, hrun, rfl, (publication_creates_once hrun).2.2 0 "text/plain" rfl⟩

end Publication
end SpaceWorks
