import SpaceWorks.Library.Checked
import SpaceWorks.Library.Runs

/-!
# Signed requests of API clients

The signature check of `inventory/middleware.py` and, at a later moment, the nonce reservation of
`middleware_nonce.py`.  Secrets of two clients or rotations are never equal.  The path is that of
`get_full_path`, the method is in upper case, and a header has no line break.  The checks of origin
and scope are left out.
-/

namespace SpaceWorks
namespace ApiClients

open Checked TransactionalSystem Function List Except

abbrev Line : Type := { bytes : List UInt8 // (10 : UInt8) ∉ bytes }

structure Request where
  clientId : Nat
  method : Line
  path : Line
  timestamp : Line
  nonce : Line
  body : List UInt8

def nonceMaxLength : Nat := 128

def isNonceByte (b : UInt8) : Bool :=
  (65 ≤ b && b ≤ 90) || (97 ≤ b && b ≤ 122) || (48 ≤ b && b ≤ 57) || b = 46 || b = 95 ||
    b = 126 || b = 45

def nonceIsValid (nonce : List UInt8) : Bool :=
  nonce.length ≤ nonceMaxLength && nonce ≠ [] && nonce.all isNonceByte

def bodyCouldReEncodeNonce (body : List UInt8) : Bool :=
  let window := body.take (nonceMaxLength + 1)
  let head := window.takeWhile (· ≠ 10)
  decide ((10 : UInt8) ∈ window) && head ≠ [] && head.all isNonceByte

/-- The signing input; without a nonce its part is left out. -/
def Request.message (request : Request) : List UInt8 :=
  request.method.val ++ 10 :: (request.path.val ++ 10 :: (request.timestamp.val ++ 10 ::
    (if request.nonce.val = [] then request.body
      else request.nonce.val ++ 10 :: request.body)))

/-- What is asked of the nonce before a message is built. -/
def Request.Framed (request : Request) : Prop :=
  if request.nonce.val = [] then bodyCouldReEncodeNonce request.body = false
  else nonceIsValid request.nonce.val = true

instance Request.Framed.decidable (request : Request) : Decidable request.Framed := by
  unfold Request.Framed
  infer_instance

theorem cut_inj {α : Type} {separator : α} {a b x y : List α} (ha : separator ∉ a)
    (hb : separator ∉ b) (h : a ++ separator :: x = b ++ separator :: y) : a = b ∧ x = y := by
  induction a generalizing b with
  | nil =>
    cases b with
    | nil => exact ⟨rfl, (cons.inj h).2⟩
    | cons => exact absurd ((cons.inj h).1 ▸ mem_cons_self) hb
  | cons c _ ih =>
    cases b with
    | nil => exact absurd ((cons.inj h).1 ▸ mem_cons_self) ha
    | cons =>
      obtain ⟨rfl, hrest⟩ := cons.inj h
      obtain ⟨rfl, hxy⟩ := ih (fun hmem => ha (mem_cons_of_mem c hmem))
        (fun hmem => hb (mem_cons_of_mem c hmem)) hrest
      exact ⟨rfl, hxy⟩

theorem line_inj {a b : Line} {x y : List UInt8} (h : a.val ++ 10 :: x = b.val ++ 10 :: y) :
    a = b ∧ x = y := by
  obtain ⟨hval, hrest⟩ := cut_inj a.property b.property h
  exact ⟨Subtype.ext hval, hrest⟩

theorem couldReEncode_of_valid {nonce : Line} (hvalid : nonceIsValid nonce.val = true)
    (body : List UInt8) : bodyCouldReEncodeNonce (nonce.val ++ 10 :: body) = true := by
  simp only [nonceIsValid, Bool.and_eq_true, decide_eq_true_eq] at hvalid
  obtain ⟨⟨_, hne⟩, hall⟩ := hvalid
  have hwindow : (nonce.val ++ 10 :: body).take (nonceMaxLength + 1) =
      nonce.val ++ 10 :: body.take (nonceMaxLength - nonce.val.length) := by
    have hrest : nonceMaxLength + 1 - nonce.val.length =
        (nonceMaxLength - nonce.val.length) + 1 := by omega
    rw [take_append, take_of_length_le (by omega), hrest, take_succ_cons]
  have hhead : (nonce.val ++ 10 :: body.take (nonceMaxLength - nonce.val.length)).takeWhile
      (· ≠ 10) = nonce.val := by
    rw [takeWhile_append_of_pos]
    · simp
    · intro b hb
      have hb10 : b ≠ 10 := fun heq => nonce.property (heq ▸ hb)
      simpa using hb10
  simp only [bodyCouldReEncodeNonce, hwindow, hhead]
  simp [hne, hall]

theorem message_inj {a b : Request} (ha : a.Framed) (hb : b.Framed) (h : a.message = b.message) :
    a.method = b.method ∧ a.path = b.path ∧ a.timestamp = b.timestamp ∧ a.nonce = b.nonce ∧
      a.body = b.body := by
  obtain ⟨hmethod, h⟩ := line_inj h
  obtain ⟨hpath, h⟩ := line_inj h
  obtain ⟨htimestamp, h⟩ := line_inj h
  refine ⟨hmethod, hpath, htimestamp, ?_⟩
  unfold Request.Framed at ha hb
  by_cases hna : a.nonce.val = []
  · by_cases hnb : b.nonce.val = []
    · rw [if_pos hna, if_pos hnb] at h
      exact ⟨Subtype.ext (hna.trans hnb.symm), h⟩
    · -- the nonce of `b` would stand in the body of `a`
      rw [if_pos hna] at ha h
      rw [if_neg hnb] at hb h
      rw [h, couldReEncode_of_valid hb] at ha
      cases ha
  · rw [if_neg hna] at ha h
    by_cases hnb : b.nonce.val = []
    · rw [if_pos hnb] at hb h
      rw [← h, couldReEncode_of_valid ha] at hb
      cases hb
    · rw [if_neg hnb] at h
      exact line_inj h

section Servers

/-- A secret of a client, numbered by its rotation. -/
structure Secret where
  clientId : Nat
  rotation : Nat
  deriving DecidableEq

inductive Signature
  | hmac (secret : Secret) (message : List UInt8)
  | other (bytes : List UInt8)
  deriving DecidableEq

structure ApiClient where
  isActive : Bool
  secret : Nat
  previousSecret : Option (Nat × Nat)

structure Settings where
  maxClockSkewSeconds : Int
  requireNonce : Bool
  parseInt : List UInt8 → Option Int

structure NonceEntry where
  clientId : Nat
  nonce : Line
  expires : Nat

structure Accepted where
  request : Request
  signature : Signature

/-- The clock in microseconds, the registry, the cache, and the requests checked and accepted. -/
structure Server (ι : Type) where
  now : Nat
  client : Nat → Option ApiClient
  cache : List NonceEntry
  checked : ι → Option Accepted
  accepted : List Accepted

inductive Rejection
  | noCredentials
  | unknownClient
  | skew
  | badSignature
  | nonceMissing

def secondsOf (microseconds : Nat) : Int := ((microseconds / 1000000 : Nat) : Int)

/-- `int(time.time())` and the timestamp are close enough. -/
def Settings.inWindow (settings : Settings) (now : Nat) (timestamp : Line) : Bool :=
  match settings.parseInt timestamp.val with
  | none => false
  | some seconds => (secondsOf now - seconds).natAbs ≤ settings.maxClockSkewSeconds

def Settings.lifetime (settings : Settings) : Nat :=
  (max 1 (settings.maxClockSkewSeconds * 2 + 1)).toNat * 1000000

def ApiClient.verifies (client : ApiClient) (clientId now : Nat) (signature : Signature)
    (message : List UInt8) : Bool :=
  signature = .hmac { clientId := clientId, rotation := client.secret } message ||
    client.previousSecret.any fun previous => previous.2 > now &&
      signature = .hmac { clientId := clientId, rotation := previous.1 } message

variable {ι : Type} [DecidableEq ι]

def Server.check (settings : Settings) (s : Server ι) (i : ι) (request : Request)
    (signature : Signature) : Except Rejection (Server ι) := do
  require (request.timestamp.val ≠ []) .noCredentials
  let client ← orRefuse ((s.client request.clientId).filter (·.isActive)) .unknownClient
  require (settings.inWindow s.now request.timestamp = true) .skew
  require (request.nonce.val = [] → settings.requireNonce = false) .nonceMissing
  require request.Framed .badSignature
  require (client.verifies request.clientId s.now signature request.message = true) .badSignature
  let entry : Accepted := { request := request, signature := signature }
  pure { s with checked := update s.checked i (some entry) }

def Server.seen (s : Server ι) (clientId : Nat) (nonce : Line) : Bool :=
  s.cache.any fun entry =>
    entry.clientId = clientId && entry.nonce = nonce && decide (s.now < entry.expires)

/-- `claim_nonce`, and the end of the request. -/
def Server.finish (settings : Settings) (s : Server ι) (i : ι) : Server ι :=
  match s.checked i with
  | none => s
  | some entry =>
    let s := { s with checked := update s.checked i none }
    if entry.request.nonce.val = [] then
      { s with accepted := entry :: s.accepted }
    else if s.seen entry.request.clientId entry.request.nonce then
      s
    else
      { s with
        cache :=
          { clientId := entry.request.clientId
            nonce := entry.request.nonce
            expires := s.now + settings.lifetime } :: s.cache
        accepted := entry :: s.accepted }

inductive Event (ι : Type)
  | tick (now : Nat)
  | setClient (clientId : Nat) (client : Option ApiClient)
  | check (i : ι) (request : Request) (signature : Signature)
  | finish (i : ι)

def Server.step (settings : Settings) (s : Server ι) : Event ι → Except Rejection (Server ι)
  | .tick now => .ok { s with now := max s.now now }
  | .setClient clientId client => .ok { s with client := update s.client clientId client }
  | .check i request signature => s.check settings i request signature
  | .finish i => .ok (s.finish settings i)

def Server.initial (now : Nat) : Server ι where
  now := now
  client := fun _ => none
  cache := []
  checked := fun _ => none
  accepted := []

end Servers

section Invariant

variable {ι : Type} [DecidableEq ι] {settings : Settings} {s s' : Server ι}
  {now now' : Nat} {entry a b : Accepted} {i : ι}

structure Verified (settings : Settings) (now : Nat) (entry : Accepted) : Prop where
  framed : entry.request.Framed
  signed : ∃ rotation, entry.signature =
    .hmac { clientId := entry.request.clientId, rotation := rotation } entry.request.message
  started : ∃ seconds, settings.parseInt entry.request.timestamp.val = some seconds ∧
    seconds - settings.maxClockSkewSeconds ≤ secondsOf now

/-- The nonce of an accepted request is cached until its timestamp has left the window. -/
def Reserved (settings : Settings) (s : Server ι) (entry : Accepted) : Prop :=
  entry.request.nonce.val ≠ [] → ∀ seconds,
    settings.parseInt entry.request.timestamp.val = some seconds →
      ∃ reserved ∈ s.cache, reserved.clientId = entry.request.clientId ∧
        reserved.nonce = entry.request.nonce ∧
          (seconds + settings.maxClockSkewSeconds + 1) * 1000000 ≤ reserved.expires

/-- Two acceptances of one signed message, one of which uses a nonce. -/
def Replays (a b : Accepted) : Prop :=
  a.signature = b.signature ∧ (a.request.nonce.val ≠ [] ∨ b.request.nonce.val ≠ [])

structure Inv (settings : Settings) (s : Server ι) : Prop where
  checked : ∀ i entry, s.checked i = some entry → Verified settings s.now entry
  accepted : ∀ entry ∈ s.accepted, Verified settings s.now entry ∧ Reserved settings s entry
  once : s.accepted.Pairwise fun a b => ¬ Replays a b

/-- The nonce is reserved while the timestamp is in the window. -/
def Prompt (settings : Settings) (s : Server ι) : Event ι → Bool
  | .finish i => (s.checked i).all fun entry =>
    (settings.parseInt entry.request.timestamp.val).all fun seconds =>
      secondsOf s.now ≤ seconds + settings.maxClockSkewSeconds
  | _ => true

theorem secondsOf_mono {a b : Nat} (h : a ≤ b) : secondsOf a ≤ secondsOf b := by
  unfold secondsOf
  exact_mod_cast Nat.div_le_div_right h

omit [DecidableEq ι] in
theorem Verified.mono (h : Verified settings now entry)
    (hlater : now ≤ now') : Verified settings now' entry where
  framed := h.framed
  signed := h.signed
  started := by
    obtain ⟨seconds, hparse, hstarted⟩ := h.started
    exact ⟨seconds, hparse, Int.le_trans hstarted (secondsOf_mono hlater)⟩

theorem same_request (ha : Verified settings now a)
    (hb : Verified settings now' b) (h : a.signature = b.signature) :
    a.request.clientId = b.request.clientId ∧ a.request.nonce = b.request.nonce ∧
      a.request.timestamp = b.request.timestamp := by
  obtain ⟨_, hsigned⟩ := ha.signed
  obtain ⟨_, hsigned'⟩ := hb.signed
  rw [hsigned, hsigned'] at h
  obtain ⟨hsecret, hmessage⟩ := Signature.hmac.inj h
  obtain ⟨-, -, htimestamp, hnonce, -⟩ := message_inj ha.framed hb.framed hmessage
  exact ⟨congrArg Secret.clientId hsecret, hnonce, htimestamp⟩

omit [DecidableEq ι] in
theorem Reserved.mono (h : Reserved settings s entry)
    (hcache : ∀ reserved ∈ s.cache, reserved ∈ s'.cache) : Reserved settings s' entry := by
  intro hnonce seconds hseconds
  obtain ⟨reserved, hmem, hrest⟩ := h hnonce seconds hseconds
  exact ⟨reserved, hcache reserved hmem, hrest⟩

omit [DecidableEq ι] in
theorem inv_initial (now : Nat) : Inv settings (Server.initial now : Server ι) where
  checked := by simp [Server.initial]
  accepted := by simp [Server.initial]
  once := by simp [Server.initial]

theorem inv_check {request : Request} {signature : Signature} (inv : Inv settings s)
    (h : s.check settings i request signature = .ok s') : Inv settings s' := by
  simp only [Server.check, bind_ok, require_ok, orRefuse_ok, pure_ok] at h
  obtain ⟨_, -, _, -, _, hwindow, _, -, _, hframed, _, hverifies, rfl⟩ := h
  have hverified : Verified settings s.now { request := request, signature := signature } := {
    framed := hframed
    signed := by
      simp only [ApiClient.verifies, Bool.or_eq_true, decide_eq_true_eq, Option.any_eq_true,
        Bool.and_eq_true] at hverifies
      rcases hverifies with hcurrent | ⟨_, -, -, hprevious⟩
      · exact ⟨_, hcurrent⟩
      · exact ⟨_, hprevious⟩
    started := by
      unfold Settings.inWindow at hwindow
      split at hwindow
      · cases hwindow
      · rename_i seconds hseconds
        simp only [decide_eq_true_eq] at hwindow
        exact ⟨seconds, hseconds, by omega⟩ }
  exact {
    checked := by
      intro j entry hentry
      by_cases hj : j = i
      · subst hj
        obtain rfl : _ = entry := by simpa using hentry
        exact hverified
      · exact inv.checked j entry (by simpa [hj] using hentry)
    accepted := inv.accepted
    once := inv.once }

theorem secondsOf_bounds (now : Nat) :
    secondsOf now * 1000000 ≤ (now : Int) ∧ (now : Int) < (secondsOf now + 1) * 1000000 := by
  unfold secondsOf
  omega

theorem lifetime_ge (settings : Settings) :
    (settings.maxClockSkewSeconds * 2 + 1) * 1000000 ≤ (settings.lifetime : Int) := by
  unfold Settings.lifetime
  omega

omit [DecidableEq ι] in
theorem seen_of_accepted (ha : Verified settings s.now a)
    (hb : Verified settings s.now b) (hreserved : Reserved settings s b)
    (hnonce : a.request.nonce.val ≠ []) (hsame : a.signature = b.signature)
    (hprompt : ∀ seconds, settings.parseInt a.request.timestamp.val = some seconds →
      secondsOf s.now ≤ seconds + settings.maxClockSkewSeconds) :
    s.seen a.request.clientId a.request.nonce = true := by
  obtain ⟨hclient, hnonces, htimestamp⟩ := same_request ha hb hsame
  obtain ⟨seconds, hseconds, -⟩ := ha.started
  have hlate := hprompt seconds hseconds
  rw [hnonces] at hnonce
  obtain ⟨reserved, hmem, hclient', hnonce', _⟩ :=
    hreserved hnonce seconds (htimestamp ▸ hseconds)
  have hlive : s.now < reserved.expires := by
    have hclock := (secondsOf_bounds s.now).2
    omega
  simp only [Server.seen, any_eq_true]
  exact ⟨reserved, hmem, by simp [hclient, hclient', hnonces, hnonce', hlive]⟩

theorem inv_finish (inv : Inv settings s)
    (hprompt : Prompt settings s (.finish i) = true) : Inv settings (s.finish settings i) := by
  unfold Server.finish
  split
  · exact inv
  · rename_i entry hentry
    have hverified := inv.checked i entry hentry
    have hchecked : ∀ j other, update s.checked i none j = some other →
        Verified settings s.now other := by
      intro j other hother
      by_cases hj : j = i
      · subst hj
        simp at hother
      · exact inv.checked j other (by simpa [hj] using hother)
    by_cases hplain : entry.request.nonce.val = []
    · -- without a nonce nothing is promised, but no message with a nonce is the same
      simp only [if_pos hplain]
      exact {
        checked := hchecked
        accepted := by
          intro other hother
          rcases mem_cons.mp hother with rfl | hold
          · exact ⟨hverified, fun hnonce => absurd hplain hnonce⟩
          · exact inv.accepted other hold
        once := by
          refine pairwise_cons.mpr ⟨?_, inv.once⟩
          rintro other hother ⟨hsame, hnonce⟩
          obtain ⟨-, hnonces, -⟩ := same_request hverified (inv.accepted other hother).1 hsame
          rw [← hnonces] at hnonce
          exact hnonce.elim (fun h => h hplain) (fun h => h hplain) }
    · simp only [if_neg hplain]
      split
      · exact ⟨hchecked, inv.accepted, inv.once⟩
      · rename_i hunseen
        exact {
          checked := hchecked
          accepted := by
            intro other hother
            rcases mem_cons.mp hother with rfl | hold
            · refine ⟨hverified, fun _ seconds hseconds => ?_⟩
              refine ⟨_, mem_cons_self, rfl, rfl, ?_⟩
              obtain ⟨seconds', hseconds', _⟩ := hverified.started
              obtain rfl : seconds' = seconds := Option.some.inj (hseconds'.symm.trans hseconds)
              have hclock := (secondsOf_bounds s.now).1
              have hlifetime := lifetime_ge settings
              push_cast
              omega
            · obtain ⟨hold', hreserved⟩ := inv.accepted other hold
              exact ⟨hold', hreserved.mono fun _ hmem => mem_cons_of_mem _ hmem⟩
          once := by
            refine pairwise_cons.mpr ⟨?_, inv.once⟩
            rintro other hother ⟨hsame, -⟩
            obtain ⟨hother', hreserved⟩ := inv.accepted other hother
            refine hunseen (seen_of_accepted (s := s) hverified hother' hreserved hplain hsame ?_)
            intro seconds hseconds
            simpa [Prompt, hentry, hseconds] using hprompt }

theorem inv_step {event : Event ι} (inv : Inv settings s) (hprompt : Prompt settings s event = true)
    (h : s.step settings event = .ok s') : Inv settings s' := by
  cases event with
  | tick =>
    cases h
    exact {
      checked := fun i entry hentry =>
        (inv.checked i entry hentry).mono (Nat.le_max_left _ _)
      accepted := fun entry hentry =>
        ⟨(inv.accepted entry hentry).1.mono (Nat.le_max_left _ _),
          (inv.accepted entry hentry).2.mono fun _ hmem => hmem⟩
      once := inv.once }
  | setClient =>
    cases h
    exact ⟨inv.checked, inv.accepted, inv.once⟩
  | check => exact inv_check inv h
  | finish =>
    cases h
    exact inv_finish inv hprompt

end Invariant

section Results

variable {ι : Type} [DecidableEq ι]

/-- No two requests share a signing input; with prompt reservations no signed nonce is accepted
twice. -/
theorem replay_of_run (settings : Settings) (now : Nat) (events : List (Event ι))
    (hprompt : Throughout (Server.step settings)
      (fun s event => Prompt settings s event = true) (Server.initial now) events) :
    (∀ a b : Request, a.Framed → b.Framed → a.message = b.message →
      a.method = b.method ∧ a.path = b.path ∧ a.timestamp = b.timestamp ∧
        a.nonce = b.nonce ∧ a.body = b.body) ∧
      (run (Server.step settings) (Server.initial now) events).accepted.Pairwise
        fun a b => ¬ Replays a b := by
  refine ⟨fun a b ha hb h => message_inj ha hb h, ?_⟩
  have hinv : Inv settings (run (Server.step settings) (Server.initial now : Server ι) events) :=
    run_preserves_throughout (I := Inv settings) (P := fun s event => Prompt settings s event = true)
      (fun inv hp hstep => inv_step inv hp hstep) (inv_initial now) hprompt
  exact hinv.once

/-- The default window of five minutes; a timestamp is a row of digits. -/
def fiveMinutes : Settings where
  maxClockSkewSeconds := 300
  requireNonce := false
  parseInt := fun bytes => some (bytes.foldl (fun n b => n * 10 + ((b.toNat : Int) - 48)) 0)

def orderRequest : Request where
  clientId := 1
  method := ⟨[80, 79, 83, 84], by decide⟩
  path := ⟨[47, 97], by decide⟩
  timestamp := ⟨[49, 48, 48, 48], by decide⟩
  nonce := ⟨[97], by decide⟩
  body := [123, 125]

def orderSignature : Signature :=
  .hmac { clientId := 1, rotation := 0 } orderRequest.message

/-- A request at second 700, and its replay at the end of second 1300, reserved at the given time.
-/
def replayedAt (finished : Nat) : List (Event Bool) :=
  [.setClient 1 (some { isActive := true, secret := 0, previousSecret := none }),
    .check true orderRequest orderSignature,
    .finish true,
    .tick 1300999999,
    .check false orderRequest orderSignature,
    .tick finished,
    .finish false]

theorem prompt_replay_refused :
    (run (Server.step fiveMinutes) (Server.initial 700000000)
      (replayedAt 1300999999)).accepted.Pairwise fun a b => ¬ Replays a b :=
  (replay_of_run fiveMinutes 700000000 (replayedAt 1300999999) (by decide +kernel)).2

/-- A replay that reserves its nonce a microsecond later is accepted. -/
theorem late_replay_accepted :
    ((run (Server.step fiveMinutes) (Server.initial 700000000)
      (replayedAt 1301000000)).accepted.map (·.signature)) = [orderSignature, orderSignature] ∧
        orderRequest.nonce.val ≠ [] := by
  decide +kernel

end Results

end ApiClients
end SpaceWorks
