import SpaceWorks.Library.Runs
import SpaceWorks.Library.Table

/-!
# Refresh tokens of a device grant

The families of refresh tokens (`services_device_tokens.py`) and their revocation
(`services_tokens.py`).  A rotation is one transaction; the statements of a revocation outside it
are transactions of their own.
-/

namespace SpaceWorks
namespace DeviceTokens

open TransactionalSystem Table List Option Except Prod

structure Jwt where
  jti : Nat
  familyId : Nat
  grantId : Nat
  expiresAt : Nat
  generation : Nat
  deriving DecidableEq

structure DeviceGrant where
  id : Nat
  registrationId : Nat
  active : Bool := true

structure DeviceRefreshFamily where
  id : Nat
  grantId : Nat
  userId : Nat
  revoked : Bool := false
  reuseDetected : Bool := false

structure DeviceRefreshToken where
  jti : Nat
  familyId : Nat
  rotated : Bool := false
  blacklisted : Bool := false

instance : Keyed DeviceGrant Nat := ⟨DeviceGrant.id⟩
instance : Keyed DeviceRefreshFamily Nat := ⟨DeviceRefreshFamily.id⟩
instance : Keyed DeviceRefreshToken Nat := ⟨DeviceRefreshToken.jti⟩

structure Rotation where
  familyId : Nat
  old : Nat
  new : Nat
  deriving DecidableEq

structure Sessions where
  now : Nat
  generation : Nat
  lifetime : Nat
  userActive : Nat → Bool
  registrationApproved : Nat → Bool
  grants : Table DeviceGrant
  families : Table DeviceRefreshFamily
  tokens : Table DeviceRefreshToken
  blacklist : Nat → Bool
  issued : List Jwt
  rotations : List Rotation

inductive Result
  | rotated (refresh : Jwt)
  | reuse
  | inactive
  | invalid
  deriving DecidableEq

def DeviceRefreshFamily.revoke (id : Nat) (reuse : Bool) (family : DeviceRefreshFamily) :
    DeviceRefreshFamily :=
  if family.id = id then
    { family with revoked := true, reuseDetected := family.reuseDetected || reuse }
  else
    family

def DeviceRefreshToken.blacklistIn (familyId : Nat) (token : DeviceRefreshToken) :
    DeviceRefreshToken :=
  if token.familyId = familyId then { token with blacklisted := true } else token

def DeviceRefreshToken.rotate (jti : Nat) (token : DeviceRefreshToken) : DeviceRefreshToken :=
  if token.jti = jti then { token with rotated := true, blacklisted := true } else token

def DeviceGrant.revoke (id : Nat) (grant : DeviceGrant) : DeviceGrant :=
  if grant.id = id then { grant with active := false } else grant

theorem revoke_id (id : Nat) (reuse : Bool) (family : DeviceRefreshFamily) :
    key (family.revoke id reuse) = key family := by
  unfold DeviceRefreshFamily.revoke
  split <;> rfl

theorem blacklistIn_jti (familyId : Nat) (token : DeviceRefreshToken) :
    key (token.blacklistIn familyId) = key token := by
  unfold DeviceRefreshToken.blacklistIn
  split <;> rfl

theorem rotate_jti (jti : Nat) (token : DeviceRefreshToken) :
    key (token.rotate jti) = key token := by
  unfold DeviceRefreshToken.rotate
  split <;> rfl

theorem grantRevoke_id (id : Nat) (grant : DeviceGrant) : key (grant.revoke id) = key grant := by
  unfold DeviceGrant.revoke
  split <;> rfl

def Sessions.revokeFamily (s : Sessions) (id : Nat) (reuse : Bool) : Sessions :=
  { s with families := s.families.mapRows (·.revoke id reuse) (revoke_id id reuse) }

/-- The `BlacklistedToken` rows of a family. -/
def Sessions.blacklistOutstanding (s : Sessions) (familyId : Nat) : Sessions :=
  { s with blacklist := fun jti => s.blacklist jti ||
      s.tokens.rows.any fun token => token.jti = jti && token.familyId = familyId }

def Sessions.blacklistTokens (s : Sessions) (familyId : Nat) : Sessions :=
  { s with tokens := s.tokens.mapRows (·.blacklistIn familyId) (blacklistIn_jti familyId) }

def Sessions.revokeGrant (s : Sessions) (id : Nat) : Sessions :=
  { s with grants := s.grants.mapRows (·.revoke id) (grantRevoke_id id) }

def Sessions.blacklistFamily (s : Sessions) (family : DeviceRefreshFamily)
    (revokeGrant reuse : Bool) : Sessions :=
  let s := ((s.revokeFamily family.id reuse).blacklistOutstanding family.id).blacklistTokens
    family.id
  if revokeGrant then s.revokeGrant family.grantId else s

/-- `issue_device_token_pair` for a family that exists. -/
def Sessions.issue (s : Sessions) (family : DeviceRefreshFamily) (jti : Nat)
    (hnew : s.tokens.get? jti = none) : Sessions × Jwt :=
  let refresh : Jwt :=
    { jti := jti
      familyId := family.id
      grantId := family.grantId
      expiresAt := s.now + s.lifetime
      generation := s.generation }
  ({ s with
    tokens := s.tokens.insert { jti := jti, familyId := family.id } hnew
    issued := refresh :: s.issued }, refresh)

def Sessions.exchanged (s : Sessions) (family : DeviceRefreshFamily) (old new : Nat) :
    Sessions :=
  let rotation : Rotation := { familyId := family.id, old := old, new := new }
  { s with
    blacklist := fun other => s.blacklist other || other = old
    tokens := s.tokens.mapRows (·.rotate old) (rotate_jti old)
    rotations := s.rotations ++ [rotation] }

def Sessions.locked (s : Sessions) (raw : Jwt) :
    Option (DeviceRefreshToken × DeviceRefreshFamily × DeviceGrant) := do
  let row ← s.tokens.get? raw.jti
  let family ← s.families.get? row.familyId
  let grant ← s.grants.get? family.grantId
  pure (row, family, grant)

/-- `rotate_device_refresh` with the new `jti`: what it commits, and what it returns. -/
def Sessions.rotate (s : Sessions) (raw : Jwt) (jti : Nat) : Sessions × Result :=
  if raw ∉ s.issued ∨ raw.expiresAt ≤ s.now then
    (s, .invalid)
  else
    match s.locked raw with
    | none => (s, .invalid)
    | some (row, family, grant) =>
      if row.familyId ≠ raw.familyId then
        (s, .invalid)
      else if row.rotated || row.blacklisted || family.revoked || grant.id ≠ raw.grantId then
        (s.blacklistFamily family true true, .reuse)
      else if !s.userActive family.userId then
        (s.blacklistFamily family true false, .inactive)
      else if !grant.active || !s.registrationApproved grant.registrationId then
        (s.blacklistFamily family false false, .inactive)
      else if s.blacklist raw.jti then
        (s.blacklistFamily family true true, .reuse)
      else if raw.generation ≠ s.generation then
        -- raised inside the transaction
        (s, .invalid)
      else if hnew : s.tokens.get? jti = none then
        let issued := s.issue family jti hnew
        (issued.1.exchanged family raw.jti jti, .rotated issued.2)
      else
        (s, .invalid)

inductive Event
  | tick (now : Nat)
  | setGeneration (generation : Nat)
  | setUser (userId : Nat) (active : Bool)
  | setRegistration (registrationId : Nat) (approved : Bool)
  | createGrant (grant : DeviceGrant)
  | login (familyId grantId userId jti : Nat)
  | refresh (raw : Jwt) (jti : Nat)
  | revokeGrant (grantId : Nat)
  | revokeFamily (familyId : Nat)
  | blacklistOutstanding (familyId : Nat)
  | blacklistTokens (familyId : Nat)
  | logout (jti : Nat)

/-- One transaction; a login makes a family with its first token. -/
def Sessions.step (s : Sessions) : Event → Except Unit Sessions
  | .tick now => .ok { s with now := max s.now now }
  | .setGeneration generation => .ok { s with generation := generation }
  | .setUser userId active =>
    .ok { s with userActive := Function.update s.userActive userId active }
  | .setRegistration registrationId approved =>
    .ok { s with registrationApproved :=
      Function.update s.registrationApproved registrationId approved }
  | .createGrant grant => do
    let grants ← s.grants.insertNew grant ()
    pure { s with grants := grants }
  | .login familyId grantId userId jti =>
    if s.grants.get? grantId = none then .error ()
    else if hfamily : s.families.get? familyId = none then
      if hnew : s.tokens.get? jti = none then
        let family : DeviceRefreshFamily := { id := familyId, grantId := grantId, userId := userId }
        let s' := { s with families := s.families.insert family hfamily }
        .ok (s'.issue family jti hnew).1
      else .error ()
    else .error ()
  | .refresh raw jti => .ok (s.rotate raw jti).1
  | .revokeGrant grantId => .ok (s.revokeGrant grantId)
  | .revokeFamily familyId => .ok (s.revokeFamily familyId false)
  | .blacklistOutstanding familyId => .ok (s.blacklistOutstanding familyId)
  | .blacklistTokens familyId => .ok (s.blacklistTokens familyId)
  | .logout jti => .ok { s with blacklist := fun other => s.blacklist other || other = jti }

def Sessions.initial (lifetime : Nat) : Sessions where
  now := 0
  generation := 0
  lifetime := lifetime
  userActive := fun _ => true
  registrationApproved := fun _ => true
  grants := ∅
  families := ∅
  tokens := ∅
  blacklist := fun _ => false
  issued := []
  rotations := []

section

variable {s : Sessions} {id : Nat} {reuse : Bool} {family : DeviceRefreshFamily}
  {grant : DeviceGrant}

def edges {α : Type} (l : List α) : List (α × α) :=
  l.zip l.tail

theorem edges_append_pair {α : Type} (l : List α) (a b : α) :
    edges (l ++ [a, b]) = edges (l ++ [a]) ++ [(a, b)] := by
  induction l with
  | nil => rfl
  | cons x xs ih =>
    cases xs with
    | nil => rfl
    | cons y ys =>
      have hrest : edges (y :: (ys ++ [a, b])) = edges (y :: (ys ++ [a])) ++ [(a, b)] := ih
      have hcons : ∀ zs, edges (x :: y :: zs) = (x, y) :: edges (y :: zs) := fun _ => rfl
      simp [hcons, hrest]

def Sessions.jtis (s : Sessions) (familyId : Nat) : List Nat :=
  (s.tokens.rows.filter (·.familyId = familyId)).map (·.jti)

def Sessions.rotationsOf (s : Sessions) (familyId : Nat) : List (Nat × Nat) :=
  (s.rotations.filter (·.familyId = familyId)).map fun rotation => (rotation.old, rotation.new)

def DeviceRefreshToken.shape (token : DeviceRefreshToken) : Nat × Nat × Bool :=
  (token.jti, token.familyId, token.rotated)

/-- The columns of a family that never change. -/
def DeviceRefreshFamily.shape (family : DeviceRefreshFamily) : Nat × Nat :=
  (family.id, family.grantId)

theorem mem_of_map_eq {α β : Type} {f : α → β} {l l' : List α} (h : l'.map f = l.map f) {a : α}
    (ha : a ∈ l) : ∃ a' ∈ l', f a' = f a := by
  have hmem : f a ∈ l'.map f := h ▸ mem_map_of_mem ha
  exact List.mem_map.mp hmem

theorem filter_map_of_shape {l l' : List DeviceRefreshToken}
    (h : l'.map (·.shape) = l.map (·.shape)) (familyId : Nat) :
    (l'.filter (·.familyId = familyId)).map (·.jti) =
      (l.filter (·.familyId = familyId)).map (·.jti) := by
  have hproject : ∀ rows : List DeviceRefreshToken,
      (rows.filter (·.familyId = familyId)).map (·.jti) =
        ((rows.map (·.shape)).filter (·.2.1 = familyId)).map (·.1) := by
    intro rows
    rw [List.filter_map, List.map_map]
    rfl
  rw [hproject, hproject, h]

structure Revises (s s' : Sessions) : Prop where
  tokens : s'.tokens.rows.map (·.shape) = s.tokens.rows.map (·.shape)
  families : s'.families.rows.map (·.shape) = s.families.rows.map (·.shape)
  grants : ∀ grant ∈ s.grants, ∃ grant' ∈ s'.grants, grant'.id = grant.id ∧
    (grant.active = false → grant'.active = false)
  revoked : ∀ family ∈ s.families, family.revoked = true →
    ∃ family' ∈ s'.families, family'.shape = family.shape ∧ family'.revoked = true
  issued : s'.issued = s.issued
  rotations : s'.rotations = s.rotations
  lifetime : s'.lifetime = s.lifetime

theorem Revises.refl (s : Sessions) : Revises s s where
  tokens := rfl
  families := rfl
  grants := fun grant hgrant => ⟨grant, hgrant, rfl, id⟩
  revoked := fun family hfamily hrevoked => ⟨family, hfamily, rfl, hrevoked⟩
  issued := rfl
  rotations := rfl
  lifetime := rfl

theorem Revises.trans {t u : Sessions} (h : Revises s t) (h' : Revises t u) : Revises s u where
  tokens := h'.tokens.trans h.tokens
  families := h'.families.trans h.families
  grants := by
    intro grant hgrant
    obtain ⟨mid, hmid, hid, hactive⟩ := h.grants grant hgrant
    obtain ⟨last, hlast, hid', hactive'⟩ := h'.grants mid hmid
    exact ⟨last, hlast, hid'.trans hid, fun hinactive => hactive' (hactive hinactive)⟩
  revoked := by
    intro family hfamily hrevoked
    obtain ⟨mid, hmid, hshape, hrevoked'⟩ := h.revoked family hfamily hrevoked
    obtain ⟨last, hlast, hshape', hrevoked''⟩ := h'.revoked mid hmid hrevoked'
    exact ⟨last, hlast, hshape'.trans hshape, hrevoked''⟩
  issued := h'.issued.trans h.issued
  rotations := h'.rotations.trans h.rotations
  lifetime := h'.lifetime.trans h.lifetime

theorem revoke_shape (id : Nat) (reuse : Bool) (family : DeviceRefreshFamily) :
    (family.revoke id reuse).shape = family.shape := by
  unfold DeviceRefreshFamily.revoke
  split <;> rfl

theorem blacklistIn_shape (familyId : Nat) (token : DeviceRefreshToken) :
    (token.blacklistIn familyId).shape = token.shape := by
  unfold DeviceRefreshToken.blacklistIn
  split <;> rfl

theorem revoke_revoked
    (h : family.id = id ∨ family.revoked = true) : (family.revoke id reuse).revoked = true := by
  unfold DeviceRefreshFamily.revoke
  split
  · rfl
  · rename_i hne
    exact h.resolve_left hne

theorem grantRevoke_active
    (h : grant.id = id ∨ grant.active = false) : (grant.revoke id).active = false := by
  unfold DeviceGrant.revoke
  split
  · rfl
  · rename_i hne
    exact h.resolve_left hne

theorem mem_revokeFamily :
    family ∈ (s.revokeFamily id reuse).families ↔
      ∃ old ∈ s.families, old.revoke id reuse = family := by
  simp [Sessions.revokeFamily, mem_mapRows]

theorem revises_revokeFamily (s : Sessions) (id : Nat) (reuse : Bool) :
    Revises s (s.revokeFamily id reuse) where
  tokens := rfl
  families := by
    simp only [Sessions.revokeFamily, Table.mapRows, List.map_map]
    exact map_congr_left fun family _ => revoke_shape id reuse family
  grants := fun grant hgrant => ⟨grant, hgrant, rfl, fun hinactive => hinactive⟩
  revoked := by
    intro family hfamily hrevoked
    exact ⟨family.revoke id reuse, mem_revokeFamily.mpr ⟨family, hfamily, rfl⟩,
      revoke_shape id reuse family, revoke_revoked (.inr hrevoked)⟩
  issued := rfl
  rotations := rfl
  lifetime := rfl

theorem revises_blacklistTokens (s : Sessions) (familyId : Nat) :
    Revises s (s.blacklistTokens familyId) where
  tokens := by
    simp only [Sessions.blacklistTokens, Table.mapRows, List.map_map]
    exact map_congr_left fun token _ => blacklistIn_shape familyId token
  families := rfl
  grants := fun grant hgrant => ⟨grant, hgrant, rfl, id⟩
  revoked := fun family hfamily hrevoked => ⟨family, hfamily, rfl, hrevoked⟩
  issued := rfl
  rotations := rfl
  lifetime := rfl

theorem mem_revokeGrant :
    grant ∈ (s.revokeGrant id).grants ↔ ∃ old ∈ s.grants, old.revoke id = grant := by
  simp [Sessions.revokeGrant, mem_mapRows]

theorem revises_revokeGrant (s : Sessions) (id : Nat) : Revises s (s.revokeGrant id) where
  tokens := rfl
  families := rfl
  grants := by
    intro grant hgrant
    refine ⟨grant.revoke id, mem_revokeGrant.mpr ⟨grant, hgrant, rfl⟩, grantRevoke_id id grant, ?_⟩
    intro hinactive
    exact grantRevoke_active (.inr hinactive)
  revoked := fun family hfamily hrevoked => ⟨family, hfamily, rfl, hrevoked⟩
  issued := rfl
  rotations := rfl
  lifetime := rfl

theorem revises_blacklistOutstanding (s : Sessions) (familyId : Nat) :
    Revises s (s.blacklistOutstanding familyId) :=
  { Revises.refl s with }

theorem revises_blacklistFamily (s : Sessions) (family : DeviceRefreshFamily)
    (revokeGrant reuse : Bool) : Revises s (s.blacklistFamily family revokeGrant reuse) := by
  have hrows := ((revises_revokeFamily s family.id reuse).trans
    (revises_blacklistOutstanding _ family.id)).trans (revises_blacklistTokens _ family.id)
  cases revokeGrant with
  | false => exact hrows
  | true => exact hrows.trans (revises_revokeGrant _ family.grantId)

variable {s s' : Sessions} {raw : Jwt} {jti : Nat}

structure Accepts (s : Sessions) (raw : Jwt) (row : DeviceRefreshToken)
    (family : DeviceRefreshFamily) (grant : DeviceGrant) : Prop where
  locked : s.locked raw = some (row, family, grant)
  issued : raw ∈ s.issued
  unexpired : s.now < raw.expiresAt
  familyId : row.familyId = raw.familyId
  unrotated : row.rotated = false
  live : family.revoked = false
  active : grant.active = true

theorem locked_eq_some {row : DeviceRefreshToken} {family : DeviceRefreshFamily}
    {grant : DeviceGrant} (h : s.locked raw = some (row, family, grant)) :
    s.tokens.get? raw.jti = some row ∧ s.families.get? row.familyId = some family ∧
      s.grants.get? family.grantId = some grant := by
  simp only [Sessions.locked, bind_eq_bind, bind_eq_some_iff, Option.pure_def,
    some.injEq, mk.injEq] at h
  obtain ⟨_, hrow, _, hfamily, _, hgrant, rfl, rfl, rfl⟩ := h
  exact ⟨hrow, hfamily, hgrant⟩

theorem rotate_cases (s : Sessions) (raw : Jwt) (jti : Nat) :
    (Revises s (s.rotate raw jti).1 ∧ ∀ refresh, (s.rotate raw jti).2 ≠ .rotated refresh) ∨
      ∃ row family grant, ∃ hnew : s.tokens.get? jti = none, Accepts s raw row family grant ∧
        s.rotate raw jti = (((s.issue family jti hnew).1.exchanged family raw.jti jti),
          .rotated (s.issue family jti hnew).2) := by
  unfold Sessions.rotate
  split
  · exact .inl ⟨Revises.refl s, by simp⟩
  · rename_i hsigned
    simp [not_not] at hsigned
    split
    · exact .inl ⟨Revises.refl s, by simp⟩
    · rename_i row family grant hlocked
      split
      · exact .inl ⟨Revises.refl s, by simp⟩
      · rename_i hfamily
        split
        · exact .inl ⟨revises_blacklistFamily s family true true, by simp⟩
        · rename_i husable
          simp at husable
          split
          · exact .inl ⟨revises_blacklistFamily s family true false, by simp⟩
          · split
            · exact .inl ⟨revises_blacklistFamily s family false false, by simp⟩
            · rename_i hgrant
              simp [Bool.not_eq_true'] at hgrant
              split
              · exact .inl ⟨revises_blacklistFamily s family true true, by simp⟩
              · split
                · exact .inl ⟨Revises.refl s, by simp⟩
                · split
                  · rename_i hnew
                    refine .inr ⟨row, family, grant, hnew, ?_, rfl⟩
                    exact {
                      locked := hlocked
                      issued := hsigned.1
                      unexpired := hsigned.2
                      familyId := not_not.mp hfamily
                      unrotated := husable.1.1.1
                      live := husable.1.2
                      active := hgrant.1 }
                  · exact .inl ⟨Revises.refl s, by simp⟩

inductive Steps (s : Sessions) : Sessions → Prop
  | revises {s' : Sessions} (h : Revises s s') : Steps s s'
  | login (family : DeviceRefreshFamily) (jti : Nat) (hfamily : s.families.get? family.id = none)
      (hgrant : ∃ grant ∈ s.grants, grant.id = family.grantId)
      (hnew : s.tokens.get? jti = none) :
      Steps s (Sessions.issue { s with families := s.families.insert family hfamily } family jti
        hnew).1
  | exchange (raw : Jwt) (row : DeviceRefreshToken) (family : DeviceRefreshFamily)
      (grant : DeviceGrant) (jti : Nat) (hnew : s.tokens.get? jti = none)
      (h : Accepts s raw row family grant) :
      Steps s ((s.issue family jti hnew).1.exchanged family raw.jti jti)

theorem step_cases {event : Event} (h : s.step event = .ok s') : Steps s s' := by
  cases event with
  | refresh raw jti =>
    cases h
    rcases rotate_cases s raw jti with ⟨hrevises, -⟩ | ⟨row, family, grant, hnew, haccepts, heq⟩
    · exact .revises hrevises
    · rw [heq]
      exact .exchange raw row family grant jti hnew haccepts
  | login familyId grantId userId jti =>
    simp only [Sessions.step] at h
    split at h
    · cases h
    · rename_i hgrant
      split at h
      · rename_i hfamily
        split at h
        · rename_i hnew
          cases h
          obtain ⟨grant, hget⟩ := ne_none_iff_exists'.mp hgrant
          exact .login { id := familyId, grantId := grantId, userId := userId } jti hfamily
            ⟨grant, mem_of_get? hget, key_of_get? hget⟩ hnew
        · cases h
      · cases h
  | createGrant grant =>
    cases hinsert : s.grants.insertNew grant () with
    | error => simp [Sessions.step, hinsert, bind, Except.bind] at h
    | ok grants =>
      have heq : { s with grants := grants } = s' := by
        simpa [Sessions.step, hinsert, bind, Except.bind, pure, Except.pure] using h
      subst heq
      obtain ⟨hfresh, rfl⟩ := insertNew_ok.mp hinsert
      refine .revises { Revises.refl s with grants := fun grant' hgrant' => ⟨grant', ?_, rfl, id⟩ }
      exact (mem_insert hfresh).mpr (.inl hgrant')
  | tick | setGeneration | setUser | setRegistration | logout =>
    cases h
    exact .revises { Revises.refl s with }
  | revokeGrant grantId =>
    cases h
    exact .revises (revises_revokeGrant s grantId)
  | revokeFamily familyId =>
    cases h
    exact .revises (revises_revokeFamily s familyId false)
  | blacklistOutstanding familyId =>
    cases h
    exact .revises (revises_blacklistOutstanding s familyId)
  | blacklistTokens familyId =>
    cases h
    exact .revises (revises_blacklistTokens s familyId)

end

section Invariant

variable {s s' : Sessions}

structure Inv (s : Sessions) : Prop where
  tokenFamily : ∀ token ∈ s.tokens, ∃ family ∈ s.families, family.id = token.familyId
  familyGrant : ∀ family ∈ s.families, ∃ grant ∈ s.grants, grant.id = family.grantId
  issuedToken : ∀ raw ∈ s.issued, ∃ token ∈ s.tokens, token.jti = raw.jti ∧
    token.familyId = raw.familyId
  issuedFamily : ∀ raw ∈ s.issued, ∃ family ∈ s.families, family.id = raw.familyId ∧
    family.grantId = raw.grantId
  injective : ∀ raw ∈ s.issued, ∀ other ∈ s.issued, raw.jti = other.jti → raw = other
  used : ∀ rotation ∈ s.rotations, ∃ token ∈ s.tokens, token.jti = rotation.old ∧
    token.familyId = rotation.familyId ∧ token.rotated = true
  last : ∀ token ∈ s.tokens, token.rotated = false →
    ∃ before, s.jtis token.familyId = before ++ [token.jti]
  chain : ∀ familyId, s.rotationsOf familyId = edges (s.jtis familyId)
  once : (s.rotations.map (·.old)).Nodup

theorem inv_initial (lifetime : Nat) : Inv (Sessions.initial lifetime) := by
  have hrows : (∅ : Table DeviceRefreshToken).rows = [] := rfl
  constructor <;> simp [Sessions.initial, Sessions.rotationsOf, Sessions.jtis, edges, hrows]

theorem Inv.revise (inv : Inv s) (h : Revises s s') : Inv s' := by
  have hjtis : ∀ familyId, s'.jtis familyId = s.jtis familyId := filter_map_of_shape h.tokens
  have htoken : ∀ token ∈ s.tokens, ∃ token' ∈ s'.tokens, token'.shape = token.shape :=
    fun token => mem_of_map_eq h.tokens
  have hfamily : ∀ family ∈ s.families, ∃ family' ∈ s'.families, family'.shape = family.shape :=
    fun family => mem_of_map_eq h.families
  exact {
    tokenFamily := by
      intro token' htoken'
      obtain ⟨token, hmem, hshape⟩ := mem_of_map_eq h.tokens.symm htoken'
      obtain ⟨family, hmem', hid⟩ := inv.tokenFamily token hmem
      obtain ⟨family', hmem'', hshape'⟩ := hfamily family hmem'
      simp only [DeviceRefreshToken.shape, DeviceRefreshFamily.shape, mk.injEq]
        at hshape hshape'
      exact ⟨family', hmem'', hshape'.1.trans (hid.trans hshape.2.1)⟩
    familyGrant := by
      intro family' hfamily'
      obtain ⟨family, hmem, hshape⟩ := mem_of_map_eq h.families.symm hfamily'
      obtain ⟨grant, hmem', hid⟩ := inv.familyGrant family hmem
      obtain ⟨grant', hmem'', hid', -⟩ := h.grants grant hmem'
      simp [DeviceRefreshFamily.shape] at hshape
      exact ⟨grant', hmem'', hid'.trans (hid.trans hshape.2)⟩
    issuedToken := by
      intro raw hraw
      obtain ⟨token, hmem, hjti, hfamilyId⟩ := inv.issuedToken raw (h.issued ▸ hraw)
      obtain ⟨token', hmem', hshape⟩ := htoken token hmem
      simp [DeviceRefreshToken.shape] at hshape
      exact ⟨token', hmem', hshape.1.trans hjti, hshape.2.1.trans hfamilyId⟩
    issuedFamily := by
      intro raw hraw
      obtain ⟨family, hmem, hid, hgrant⟩ := inv.issuedFamily raw (h.issued ▸ hraw)
      obtain ⟨family', hmem', hshape⟩ := hfamily family hmem
      simp [DeviceRefreshFamily.shape] at hshape
      exact ⟨family', hmem', hshape.1.trans hid, hshape.2.trans hgrant⟩
    injective := by
      rw [h.issued]
      exact inv.injective
    used := by
      intro rotation hrotation
      obtain ⟨token, hmem, hold, hfamilyId, hrotated⟩ := inv.used rotation (h.rotations ▸ hrotation)
      obtain ⟨token', hmem', hshape⟩ := htoken token hmem
      simp [DeviceRefreshToken.shape] at hshape
      exact ⟨token', hmem', hshape.1.trans hold, hshape.2.1.trans hfamilyId,
        hshape.2.2.trans hrotated⟩
    last := by
      intro token' htoken' hunrotated
      obtain ⟨token, hmem, hshape⟩ := mem_of_map_eq h.tokens.symm htoken'
      simp [DeviceRefreshToken.shape] at hshape
      rw [hjtis, ← hshape.1, ← hshape.2.1]
      exact inv.last token hmem (hshape.2.2.trans hunrotated)
    chain := by
      intro familyId
      rw [hjtis, Sessions.rotationsOf, h.rotations]
      exact inv.chain familyId
    once := by
      rw [h.rotations]
      exact inv.once }

section

variable {family : DeviceRefreshFamily} {jti : Nat}

theorem jtis_issue (hnew : s.tokens.get? jti = none) (familyId : Nat) :
    (s.issue family jti hnew).1.jtis familyId =
      s.jtis familyId ++ if family.id = familyId then [jti] else [] := by
  simp only [Sessions.jtis, Sessions.issue, Table.insert, filter_append, map_append]
  congr 1
  by_cases h : family.id = familyId <;> simp [h]

theorem mem_issue (hnew : s.tokens.get? jti = none) {token : DeviceRefreshToken} :
    token ∈ (s.issue family jti hnew).1.tokens ↔
      token ∈ s.tokens ∨ token = { jti := jti, familyId := family.id } := by
  simp [Sessions.issue]

theorem jti_fresh (inv : Inv s) (hnew : s.tokens.get? jti = none) {raw : Jwt}
    (hraw : raw ∈ s.issued) : raw.jti ≠ jti := by
  obtain ⟨token, hmem, hjti, -⟩ := inv.issuedToken raw hraw
  exact hjti ▸ get?_eq_none.mp hnew token hmem

theorem inv_login (inv : Inv s) (hfamily : s.families.get? family.id = none)
    (hgrant : ∃ grant ∈ s.grants, grant.id = family.grantId) (hnew : s.tokens.get? jti = none) :
    Inv (Sessions.issue { s with families := s.families.insert family hfamily } family jti
      hnew).1 := by
  have hempty : s.jtis family.id = [] := by
    rw [Sessions.jtis, map_eq_nil_iff, filter_eq_nil_iff]
    intro token htoken
    obtain ⟨other, hmem, hid⟩ := inv.tokenFamily token htoken
    have hne := get?_eq_none.mp hfamily other hmem
    simp only [decide_eq_true_eq]
    exact fun heq => hne (hid.trans heq)
  have hjtis : ∀ familyId, (Sessions.issue { s with
      families := s.families.insert family hfamily } family jti hnew).1.jtis familyId =
        Sessions.jtis { s with families := s.families.insert family hfamily } familyId ++
          if family.id = familyId then [jti] else [] :=
    jtis_issue hnew
  have hjtis' : ∀ familyId, Sessions.jtis { s with
      families := s.families.insert family hfamily } familyId = s.jtis familyId :=
    fun _ => rfl
  exact {
    tokenFamily := by
      intro token htoken
      rcases (mem_issue hnew).mp htoken with hold | rfl
      · obtain ⟨other, hmem, hid⟩ := inv.tokenFamily token hold
        exact ⟨other, (mem_insert hfamily).mpr (.inl hmem), hid⟩
      · exact ⟨family, (mem_insert hfamily).mpr (.inr rfl), rfl⟩
    familyGrant := by
      intro other hother
      rcases (mem_insert hfamily).mp hother with hold | rfl
      · exact inv.familyGrant other hold
      · exact hgrant
    issuedToken := by
      intro raw hraw
      rcases mem_cons.mp hraw with rfl | hold
      · exact ⟨_, (mem_issue hnew).mpr (.inr rfl), rfl, rfl⟩
      · obtain ⟨token, hmem, hjti, hid⟩ := inv.issuedToken raw hold
        exact ⟨token, (mem_issue hnew).mpr (.inl hmem), hjti, hid⟩
    issuedFamily := by
      intro raw hraw
      rcases mem_cons.mp hraw with rfl | hold
      · exact ⟨family, (mem_insert hfamily).mpr (.inr rfl), rfl, rfl⟩
      · obtain ⟨other, hmem, hid⟩ := inv.issuedFamily raw hold
        exact ⟨other, (mem_insert hfamily).mpr (.inl hmem), hid⟩
    injective := by
      intro raw hraw other hother hjti
      rcases mem_cons.mp hraw with rfl | hraw' <;>
        rcases mem_cons.mp hother with rfl | hother'
      · rfl
      · exact absurd hjti.symm (jti_fresh inv hnew hother')
      · exact absurd hjti (jti_fresh inv hnew hraw')
      · exact inv.injective raw hraw' other hother' hjti
    used := by
      intro rotation hrotation
      obtain ⟨token, hmem, hrest⟩ := inv.used rotation hrotation
      exact ⟨token, (mem_issue hnew).mpr (.inl hmem), hrest⟩
    last := by
      intro token htoken hunrotated
      rw [hjtis, hjtis']
      rcases (mem_issue hnew).mp htoken with hold | rfl
      · have hne : family.id ≠ token.familyId := by
          obtain ⟨other, hmem, hid⟩ := inv.tokenFamily token hold
          exact fun heq => get?_eq_none.mp hfamily other hmem (hid.trans heq.symm)
        simpa [hne] using inv.last token hold hunrotated
      · exact ⟨[], by simp [hempty]⟩
    chain := by
      intro familyId
      rw [hjtis, hjtis']
      have hold : s.rotationsOf familyId = edges (s.jtis familyId) := inv.chain familyId
      refine Eq.trans (show _ = s.rotationsOf familyId from rfl) (hold.trans ?_)
      by_cases h : family.id = familyId
      · subst h
        simp [hempty, edges]
      · simp [h]
    once := inv.once }

variable {raw : Jwt} {row : DeviceRefreshToken} {grant : DeviceGrant} {old : Nat}
variable {token : DeviceRefreshToken}

theorem rotate_familyId : (token.rotate old).familyId = token.familyId := by
  unfold DeviceRefreshToken.rotate
  split <;> rfl

theorem rotate_of_ne (h : token.jti ≠ old) :
    token.rotate old = token := if_neg h

theorem rotate_rotated : (token.rotate old).rotated = (token.rotated || token.jti = old) := by
  unfold DeviceRefreshToken.rotate
  split <;> simp_all

theorem mem_exchanged {new : Nat} :
    token ∈ (s.exchanged family old new).tokens ↔ ∃ was ∈ s.tokens, was.rotate old = token := by
  simp [Sessions.exchanged, mem_mapRows]

theorem jtis_exchanged (old new familyId : Nat) :
    (s.exchanged family old new).jtis familyId = s.jtis familyId := by
  have hjti : ∀ token : DeviceRefreshToken, (token.rotate old).jti = token.jti := rotate_jti old
  have hfamily : ∀ token : DeviceRefreshToken, (token.rotate old).familyId = token.familyId :=
    fun _ => rotate_familyId
  simp only [Sessions.jtis, Sessions.exchanged, Table.mapRows, List.filter_map, List.map_map]
  simp [Function.comp_def, hjti, hfamily]

theorem rotationsOf_exchanged (old new familyId : Nat) :
    (s.exchanged family old new).rotationsOf familyId =
      s.rotationsOf familyId ++ if family.id = familyId then [(old, new)] else [] := by
  simp only [Sessions.rotationsOf, Sessions.exchanged, filter_append, map_append]
  congr 1
  by_cases h : family.id = familyId <;> simp [h]

theorem Accepts.last (inv : Inv s) (h : Accepts s raw row family grant) :
    row ∈ s.tokens ∧ row.jti = raw.jti ∧ family ∈ s.families ∧ family.id = row.familyId ∧
      ∃ before, s.jtis family.id = before ++ [raw.jti] := by
  obtain ⟨hrow, hfamily, -⟩ := locked_eq_some h.locked
  have hjti : row.jti = raw.jti := key_of_get? hrow
  have hid : family.id = row.familyId := key_of_get? hfamily
  obtain ⟨before, hbefore⟩ := inv.last row (mem_of_get? hrow) h.unrotated
  rw [hjti, ← hid] at hbefore
  exact ⟨mem_of_get? hrow, hjti, mem_of_get? hfamily, hid, before, hbefore⟩

theorem inv_exchange (inv : Inv s) (h : Accepts s raw row family grant)
    (hnew : s.tokens.get? jti = none) :
    Inv ((s.issue family jti hnew).1.exchanged family raw.jti jti) := by
  obtain ⟨hrow, hrowJti, hfamily, hid, before, hbefore⟩ := h.last inv
  have hjtis : ∀ familyId,
      ((s.issue family jti hnew).1.exchanged family raw.jti jti).jtis familyId =
        s.jtis familyId ++ if family.id = familyId then [jti] else [] :=
    fun familyId => (jtis_exchanged raw.jti jti familyId).trans (jtis_issue hnew familyId)
  have hkept : ∀ token ∈ s.tokens, ∃ token' ∈
      ((s.issue family jti hnew).1.exchanged family raw.jti jti).tokens,
      token'.jti = token.jti ∧ token'.familyId = token.familyId ∧
        token'.rotated = (token.rotated || token.jti = raw.jti) := by
    intro token htoken
    exact ⟨_, mem_exchanged.mpr ⟨token, (mem_issue hnew).mpr (.inl htoken), rfl⟩,
      rotate_jti raw.jti token, rotate_familyId, rotate_rotated⟩
  exact {
    tokenFamily := by
      intro token' htoken'
      obtain ⟨token, htoken, rfl⟩ := mem_exchanged.mp htoken'
      rw [rotate_familyId]
      rcases (mem_issue hnew).mp htoken with hold | rfl
      · exact inv.tokenFamily token hold
      · exact ⟨family, hfamily, rfl⟩
    familyGrant := inv.familyGrant
    issuedToken := by
      intro other hother
      rcases mem_cons.mp hother with rfl | hold
      · exact ⟨_, mem_exchanged.mpr ⟨_, (mem_issue hnew).mpr (.inr rfl), rfl⟩,
          rotate_jti raw.jti _, rotate_familyId⟩
      · obtain ⟨token, htoken, hjti, hfamilyId⟩ := inv.issuedToken other hold
        obtain ⟨token', hmem, hjti', hfamilyId', -⟩ := hkept token htoken
        exact ⟨token', hmem, hjti'.trans hjti, hfamilyId'.trans hfamilyId⟩
    issuedFamily := by
      intro other hother
      rcases mem_cons.mp hother with rfl | hold
      · exact ⟨family, hfamily, rfl, rfl⟩
      · exact inv.issuedFamily other hold
    injective := by
      intro one hone other hother hjti
      rcases mem_cons.mp hone with rfl | hone' <;>
        rcases mem_cons.mp hother with rfl | hother'
      · rfl
      · exact absurd hjti.symm (jti_fresh inv hnew hother')
      · exact absurd hjti (jti_fresh inv hnew hone')
      · exact inv.injective one hone' other hother' hjti
    used := by
      intro rotation hrotation
      rcases mem_append.mp hrotation with hold | hlast
      · obtain ⟨token, htoken, hjti, hfamilyId, _⟩ := inv.used rotation hold
        obtain ⟨token', hmem, hjti', hfamilyId', _⟩ := hkept token htoken
        exact ⟨token', hmem, hjti'.trans hjti, hfamilyId'.trans hfamilyId, by simp [*]⟩
      · obtain rfl := mem_singleton.mp hlast
        obtain ⟨token', hmem, hjti', hfamilyId', _⟩ := hkept row hrow
        exact ⟨token', hmem, hjti'.trans hrowJti, hfamilyId'.trans hid.symm, by simp [*]⟩
    last := by
      intro token' htoken' hunrotated
      obtain ⟨token, htoken, rfl⟩ := mem_exchanged.mp htoken'
      rw [rotate_rotated, Bool.or_eq_false_iff, decide_eq_false_iff_not] at hunrotated
      rw [rotate_of_ne hunrotated.2, hjtis]
      rcases (mem_issue hnew).mp htoken with hold | rfl
      · obtain ⟨before', hbefore'⟩ := inv.last token hold hunrotated.1
        -- the old token was the only one of the family that was not rotated
        have hne : family.id ≠ token.familyId := by
          intro heq
          rw [← heq, hbefore] at hbefore'
          exact hunrotated.2 (append_inj_right' hbefore' rfl |> singleton_inj.mp).symm
        exact ⟨before', by simp [hne, hbefore']⟩
      · exact ⟨s.jtis family.id, by simp⟩
    chain := by
      intro familyId
      rw [rotationsOf_exchanged, hjtis]
      have hold : (s.issue family jti hnew).1.rotationsOf familyId = edges (s.jtis familyId) :=
        inv.chain familyId
      rw [hold]
      by_cases heq : family.id = familyId
      · subst heq
        rw [if_pos rfl, if_pos rfl, hbefore, append_assoc]
        exact (edges_append_pair before raw.jti jti).symm
      · simp [heq]
    once := by
      have hsplit : (((s.issue family jti hnew).1.exchanged family raw.jti jti).rotations.map
          (·.old)) = s.rotations.map (·.old) ++ [raw.jti] := by
        simp [Sessions.exchanged, Sessions.issue]
      rw [hsplit]
      refine nodup_append.mpr ⟨inv.once, nodup_singleton _, ?_⟩
      rintro _ hold _ hother rfl
      obtain ⟨rotation, hrotation, hrotationOld⟩ := List.mem_map.mp hold
      obtain ⟨token, htoken, hjti, -, hrotated⟩ := inv.used rotation hrotation
      have hsame : token = row := eq_of_key_eq htoken hrow
        (hjti.trans (hrotationOld.trans ((mem_singleton.mp hother).trans hrowJti.symm)))
      rw [hsame, h.unrotated] at hrotated
      cases hrotated }

end

theorem inv_step : Preserves Sessions.step Inv := by
  intro s event s' inv h
  cases step_cases h with
  | revises hrevises => exact inv.revise hrevises
  | login _ _ hfamily hgrant hnew => exact inv_login inv hfamily hgrant hnew
  | exchange _ _ _ _ _ hnew haccepts => exact inv_exchange inv haccepts hnew

end Invariant

section Revocation

variable {s s' : Sessions} {familyId grantId : Nat}

structure Closed (s : Sessions) (familyId grantId : Nat) : Prop where
  family : ∃ family ∈ s.families, family.shape = (familyId, grantId) ∧ family.revoked = true
  grant : ∃ grant ∈ s.grants, grant.id = grantId ∧ grant.active = false

theorem closed_step (familyId grantId : Nat) :
    Preserves Sessions.step (Closed · familyId grantId) := by
  intro s event s' closed h
  obtain ⟨family, hfamily, hshape, hrevoked⟩ := closed.family
  obtain ⟨grant, hgrant, hid, hactive⟩ := closed.grant
  cases step_cases h with
  | revises hrevises =>
    constructor
    · obtain ⟨family', hmem, hshape', hrevoked'⟩ := hrevises.revoked family hfamily hrevoked
      exact ⟨family', hmem, hshape'.trans hshape, hrevoked'⟩
    · obtain ⟨grant', hmem, hid', hactive'⟩ := hrevises.grants grant hgrant
      exact ⟨grant', hmem, hid'.trans hid, hactive' hactive⟩
  | login _ _ hnone =>
    exact ⟨⟨family, (mem_insert hnone).mpr (.inl hfamily), hshape, hrevoked⟩, closed.grant⟩
  | exchange =>
    exact ⟨closed.family, closed.grant⟩

theorem Closed.refuses (closed : Closed s familyId grantId) {raw : Jwt}
    (hraw : raw.familyId = familyId) (jti : Nat) (refresh : Jwt) :
    (s.rotate raw jti).2 ≠ .rotated refresh := by
  rcases rotate_cases s raw jti with ⟨-, hrefused⟩ | ⟨row, family, _, _, haccepts, -⟩
  · exact hrefused refresh
  · exfalso
    obtain ⟨-, hfamily, -⟩ := locked_eq_some haccepts.locked
    obtain ⟨revoked, hmem, hshape, hrevoked⟩ := closed.family
    have hid : revoked.id = family.id := by
      have hkey : family.id = row.familyId := key_of_get? hfamily
      rw [hkey, haccepts.familyId, hraw]
      exact congrArg Prod.fst hshape
    have hsame : revoked = family := eq_of_key_eq hmem (mem_of_get? hfamily) hid
    rw [hsame, haccepts.live] at hrevoked
    cases hrevoked

theorem closed_blacklistFamily {family : DeviceRefreshFamily} {grant : DeviceGrant}
    (hfamily : family ∈ s.families) (hgrant : grant ∈ s.grants) (hid : grant.id = family.grantId)
    (reuse : Bool) : Closed (s.blacklistFamily family true reuse) family.id family.grantId where
  family := ⟨family.revoke family.id reuse, mem_revokeFamily.mpr ⟨family, hfamily, rfl⟩,
    revoke_shape family.id reuse family, revoke_revoked (.inl rfl)⟩
  grant := ⟨grant.revoke family.grantId, mem_revokeGrant.mpr ⟨grant, hgrant, rfl⟩,
    (grantRevoke_id family.grantId grant).trans hid, grantRevoke_active (.inl hid)⟩

theorem rotate_used (inv : Inv s) {rotation : Rotation} (hrotation : rotation ∈ s.rotations)
    {raw : Jwt} (hraw : raw ∈ s.issued) (hold : raw.jti = rotation.old)
    (hlive : s.now < raw.expiresAt) (jti : Nat) :
    (s.rotate raw jti).2 = .reuse ∧
      Closed (s.rotate raw jti).1 rotation.familyId raw.grantId := by
  obtain ⟨row, hrow, hrowJti, hrowFamily, hrotated⟩ := inv.used rotation hrotation
  obtain ⟨token, htoken, htokenJti, htokenFamily⟩ := inv.issuedToken raw hraw
  obtain ⟨family, hfamily, hid, hgrantId⟩ := inv.issuedFamily raw hraw
  obtain ⟨grant, hgrant, hgrantKey⟩ := inv.familyGrant family hfamily
  have hsame : token = row := eq_of_key_eq htoken hrow (htokenJti.trans (hold.trans hrowJti.symm))
  rw [hsame] at htokenFamily
  have hlocked : s.locked raw = some (row, family, grant) := by
    have hget : s.tokens.get? raw.jti = some row := get?_eq_some.mpr ⟨hrow, hrowJti.trans hold.symm⟩
    have hget' : s.families.get? row.familyId = some family :=
      get?_eq_some.mpr ⟨hfamily, hid.trans htokenFamily.symm⟩
    have hget'' : s.grants.get? family.grantId = some grant := get?_eq_some.mpr ⟨hgrant, hgrantKey⟩
    simp [Sessions.locked, hget, hget', hget'']
  have hresult : s.rotate raw jti = (s.blacklistFamily family true true, .reuse) := by
    simp [Sessions.rotate, hraw, hlive, hlocked, htokenFamily, hrotated]
  rw [hresult, ← hrowFamily, htokenFamily, ← hid, ← hgrantId]
  exact ⟨rfl, closed_blacklistFamily hfamily hgrant hgrantKey true⟩

end Revocation

def Sessions.after (lifetime : Nat) (events : List Event) : Sessions :=
  run Sessions.step (Sessions.initial lifetime) events

theorem inv_after (lifetime : Nat) (events : List Event) : Inv (Sessions.after lifetime events) :=
  run_preserves inv_step (inv_initial lifetime) events

theorem jtis_nodup (s : Sessions) (familyId : Nat) : (s.jtis familyId).Nodup :=
  (s.tokens.nodup.sublist (filter_sublist.map _))

theorem usable_unique {s : Sessions} (inv : Inv s) {raw other refresh refresh' : Jwt}
    {jti jti' : Nat} (hfamily : raw.familyId = other.familyId)
    (h : (s.rotate raw jti).2 = .rotated refresh)
    (h' : (s.rotate other jti').2 = .rotated refresh') : raw = other := by
  rcases rotate_cases s raw jti with ⟨-, hrefused⟩ | ⟨_, family, _, -, haccepts, -⟩
  · exact absurd h (hrefused refresh)
  rcases rotate_cases s other jti' with ⟨-, hrefused⟩ | ⟨_, family', _, -, haccepts', -⟩
  · exact absurd h' (hrefused refresh')
  obtain ⟨-, -, -, hid, _, hbefore⟩ := haccepts.last inv
  obtain ⟨-, -, -, hid', _, hbefore'⟩ := haccepts'.last inv
  have hsame : family.id = family'.id := by
    rw [hid, hid', haccepts.familyId, haccepts'.familyId, hfamily]
  rw [hsame, hbefore'] at hbefore
  have hlast : [other.jti] = [raw.jti] := append_inj_right' hbefore rfl
  exact inv.injective raw haccepts.issued other haccepts'.issued (singleton_inj.mp hlast).symm

/-- The tokens of a family are one chain, each rotated at most once; a rotated token presented in
time closes the family for good. -/
theorem families_of_run (lifetime : Nat) (events : List Event) :
    (∀ familyId, (Sessions.after lifetime events).rotationsOf familyId =
        edges ((Sessions.after lifetime events).jtis familyId) ∧
      ((Sessions.after lifetime events).jtis familyId).Nodup) ∧
    ((Sessions.after lifetime events).rotations.map (·.old)).Nodup ∧
    (∀ raw other jti jti' refresh refresh', raw.familyId = other.familyId →
      ((Sessions.after lifetime events).rotate raw jti).2 = .rotated refresh →
      ((Sessions.after lifetime events).rotate other jti').2 = .rotated refresh' →
      raw = other) ∧
    ∀ rotation ∈ (Sessions.after lifetime events).rotations,
      ∀ raw ∈ (Sessions.after lifetime events).issued, raw.jti = rotation.old →
      (Sessions.after lifetime events).now < raw.expiresAt → ∀ jti,
      ((Sessions.after lifetime events).rotate raw jti).2 = .reuse ∧
      ∀ later, Closed (Sessions.after lifetime (events ++ .refresh raw jti :: later))
          rotation.familyId raw.grantId ∧
        ∀ other jti' refresh, other.familyId = rotation.familyId →
          ((Sessions.after lifetime (events ++ .refresh raw jti :: later)).rotate other jti').2 ≠
            .rotated refresh := by
  have inv := inv_after lifetime events
  refine ⟨fun familyId => ⟨inv.chain familyId, jtis_nodup _ familyId⟩, inv.once, ?_, ?_⟩
  · intro raw other jti jti' refresh refresh' hfamily h h'
    exact usable_unique inv hfamily h h'
  · intro rotation hrotation raw hraw hold hlive jti
    obtain ⟨hreuse, hclosed⟩ := rotate_used inv hrotation hraw hold hlive jti
    refine ⟨hreuse, fun later => ?_⟩
    have hlater : Closed (Sessions.after lifetime (events ++ .refresh raw jti :: later))
        rotation.familyId raw.grantId := by
      rw [Sessions.after, run_append, run_cons]
      exact run_preserves (closed_step rotation.familyId raw.grantId) hclosed later
    exact ⟨hlater, fun other jti' refresh hother => hlater.refuses hother jti' refresh⟩

def firstToken : Jwt :=
  { jti := 100, familyId := 1, grantId := 1, expiresAt := 10, generation := 0 }

/-- A login, a rotation at time five, and a replay of the first token. -/
def replayEvents (now : Nat) : List Event :=
  [.createGrant { id := 1, registrationId := 1 }, .login 1 1 1 100, .tick 5,
    .refresh firstToken 101, .tick now]

theorem replay_closes :
    ((Sessions.after 10 (replayEvents 7)).rotate firstToken 102).2 = .reuse ∧
      Closed (Sessions.after 10 (replayEvents 7 ++ [.refresh firstToken 102])) 1 1 := by
  obtain ⟨-, -, -, h⟩ := families_of_run 10 (replayEvents 7)
  obtain ⟨hreuse, hlater⟩ := h { familyId := 1, old := 100, new := 101 } (by decide +kernel)
    firstToken (by decide +kernel) rfl (by decide +kernel) 102
  exact ⟨hreuse, (hlater []).1⟩

/-- The first token has expired, and the second one is still accepted. -/
theorem late_replay_ignored :
    (∃ rotation ∈ (Sessions.after 10 (replayEvents 12)).rotations,
      rotation.familyId = 1 ∧ rotation.old = firstToken.jti) ∧
    ((Sessions.after 10 (replayEvents 12 ++ [.refresh firstToken 102])).families.rows.all
      fun family => !family.revoked) = true ∧
    ((Sessions.after 10 (replayEvents 12 ++ [.refresh firstToken 102])).grants.rows.all
      fun grant => grant.active) = true ∧
    ∃ refresh, ((Sessions.after 10 (replayEvents 12 ++ [.refresh firstToken 102])).rotate
      { firstToken with jti := 101, expiresAt := 15 } 103).2 = .rotated refresh := by
  refine ⟨by decide +kernel, by decide +kernel, by decide +kernel, ?_⟩
  exact ⟨{ jti := 103, familyId := 1, grantId := 1, expiresAt := 22, generation := 0 },
    by decide +kernel⟩

end DeviceTokens
end SpaceWorks
