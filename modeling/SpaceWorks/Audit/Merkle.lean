import Mathlib.Algebra.Group.Int.Defs
import SpaceWorks.Library.BigEndian
import SpaceWorks.Library.Checked

/-!
# The bytes of Merkle trees

`batch_format.py` at the level of bytes: what leaves and nodes hash, and the root of a batch.
-/

namespace SpaceWorks
namespace Merkle

open Checked List

abbrev Bytes := List UInt8

inductive FormatError
  | idOutOfRange
  | noEventUuid
  | noRowMac
  | noLeaves
  deriving DecidableEq

/-- SHA-256: a digest has 32 bytes. -/
structure Sha256 where
  digest : Bytes → Bytes
  length_digest : ∀ message, (digest message).length = 32

structure Uuid where
  bytes : Bytes
  length_bytes : bytes.length = 16

structure AuditRow where
  pk : Int
  eventUuid : Option Uuid
  rowMac : Option Bytes

/-- `b"spaceworks.audit-batch.leaf.v1\x00"`. -/
def leafDomain : Bytes :=
  [115, 112, 97, 99, 101, 119, 111, 114, 107, 115, 46, 97, 117, 100, 105, 116, 45, 98, 97, 116,
    99, 104, 46, 108, 101, 97, 102, 46, 118, 49, 0]

/-- `b"spaceworks.audit-batch.node.v1\x00"`. -/
def nodeDomain : Bytes :=
  [115, 112, 97, 99, 101, 119, 111, 114, 107, 115, 46, 97, 117, 100, 105, 116, 45, 98, 97, 116,
    99, 104, 46, 110, 111, 100, 101, 46, 118, 49, 0]

variable (sha256 : Sha256)

def leafBytes (row : AuditRow) : Except FormatError Bytes := do
  require (0 < row.pk ∧ row.pk < 2 ^ 64) .idOutOfRange
  let eventUuid ← orRefuse row.eventUuid .noEventUuid
  let mac := row.rowMac.getD []
  require (mac.length = 32) .noRowMac
  pure (leafDomain ++ BigEndian.bytes 8 row.pk.toNat ++ eventUuid.bytes ++ mac)

def leafHash (row : AuditRow) : Except FormatError Bytes := do
  let message ← leafBytes row
  pure (sha256.digest message)

def nodeBytes (left right : Bytes) : Bytes :=
  nodeDomain ++ left ++ right

/-- One turn of the loop of `merkle_root`. -/
def nextLevel : List Bytes → List Bytes
  | left :: right :: level => sha256.digest (nodeBytes left right) :: nextLevel level
  | level => level

theorem length_nextLevel_le (level : List Bytes) :
    (nextLevel sha256 level).length ≤ level.length := by
  induction level using nextLevel.induct with
  | case1 =>
    simp only [nextLevel, length_cons]
    omega
  | case2 => simp [nextLevel]

/-- The loop of `merkle_root`. -/
def rootOfLevel : List Bytes → Option Bytes
  | [] => none
  | [root] => some root
  | left :: right :: level =>
    rootOfLevel (sha256.digest (nodeBytes left right) :: nextLevel sha256 level)
  termination_by level => level.length
  decreasing_by
    have hshorter := length_nextLevel_le sha256 level
    simp only [length_cons]
    omega

def merkleRoot (hashes : List Bytes) : Except FormatError Bytes := do
  require (∀ hash ∈ hashes, hash.length = 32) .noLeaves
  orRefuse (rootOfLevel sha256 hashes) .noLeaves

def hashesForRows (rows : List AuditRow) : Except FormatError (List Bytes) :=
  rows.mapM (leafHash sha256)

def rootOfRows (rows : List AuditRow) : Except FormatError Bytes := do
  let hashes ← hashesForRows sha256 rows
  merkleRoot sha256 hashes

def levelInputs : List Bytes → List Bytes
  | left :: right :: level => nodeBytes left right :: levelInputs level
  | _ => []

def loopInputs : List Bytes → List Bytes
  | left :: right :: level =>
    levelInputs (left :: right :: level) ++
      loopInputs (sha256.digest (nodeBytes left right) :: nextLevel sha256 level)
  | _ => []
  termination_by level => level.length
  decreasing_by
    have hshorter := length_nextLevel_le sha256 level
    simp only [length_cons]
    omega

def hashedInputs (rows : List AuditRow) : List Bytes :=
  let leaves := rows.filterMap fun row => (leafBytes row).toOption
  leaves ++ loopInputs sha256 (leaves.map sha256.digest)

inductive Tree
  | leaf (message : Bytes)
  | node (left right : Tree)

def Tree.digest : Tree → Bytes
  | .leaf message => sha256.digest message
  | .node left right => sha256.digest (nodeBytes left.digest right.digest)

/-- The messages of the leaves, from the left. -/
def Tree.frontier : Tree → List Bytes
  | .leaf message => [message]
  | .node left right => left.frontier ++ right.frontier

def Tree.inputs : Tree → List Bytes
  | .leaf message => [message]
  | .node left right =>
    nodeBytes (left.digest sha256) (right.digest sha256) :: (left.inputs ++ right.inputs)

/-- Every leaf starts with the domain of leaves. -/
def Tree.Framed : Tree → Prop
  | .leaf message => leafDomain <+: message
  | .node left right => left.Framed ∧ right.Framed

theorem length_digest (tree : Tree) : (tree.digest sha256).length = 32 := by
  cases tree <;> exact sha256.length_digest _

theorem not_leafDomain_nodeBytes (left right : Bytes) : ¬ leafDomain <+: nodeBytes left right := by
  intro h
  have htake := prefix_iff_eq_take.mp h
  have hdomain : (nodeBytes left right).take leafDomain.length = nodeDomain := by
    rw [nodeBytes, append_assoc]
    exact take_left' rfl
  rw [hdomain] at htake
  exact absurd htake (by decide)

theorem eq_of_digest_eq {tree tree' : Tree} (hframed : tree.Framed) (hframed' : tree'.Framed)
    (hinj : ∀ x ∈ tree.inputs sha256, ∀ y ∈ tree'.inputs sha256,
      sha256.digest x = sha256.digest y → x = y)
    (h : tree.digest sha256 = tree'.digest sha256) : tree = tree' := by
  induction tree generalizing tree' with
  | leaf message =>
    cases tree' with
    | leaf message' =>
      have heq := hinj message (by simp [Tree.inputs]) message' (by simp [Tree.inputs]) h
      rw [heq]
    | node =>
      have heq := hinj message (by simp [Tree.inputs]) _ (by simp [Tree.inputs]) h
      exact absurd (heq ▸ hframed) (not_leafDomain_nodeBytes _ _)
  | node _ _ ihLeft ihRight =>
    cases tree' with
    | leaf message' =>
      have heq := hinj _ (by simp [Tree.inputs]) message' (by simp [Tree.inputs]) h
      exact absurd (heq ▸ hframed') (not_leafDomain_nodeBytes _ _)
    | node =>
      have heq := hinj _ (by simp [Tree.inputs]) _ (by simp [Tree.inputs]) h
      rw [nodeBytes, nodeBytes, append_assoc, append_assoc, append_cancel_left_eq] at heq
      obtain ⟨hleft, hright⟩ := append_inj heq (by rw [length_digest, length_digest])
      rw [ihLeft hframed.1 hframed'.1
          (fun x hx y hy => hinj x (by simp [Tree.inputs, hx]) y (by simp [Tree.inputs, hy]))
          hleft,
        ihRight hframed.2 hframed'.2
          (fun x hx y hy => hinj x (by simp [Tree.inputs, hx]) y (by simp [Tree.inputs, hy]))
          hright]

def pairUp : List Tree → List Tree
  | left :: right :: level => .node left right :: pairUp level
  | level => level

theorem digest_pairUp (trees : List Tree) :
    (pairUp trees).map (Tree.digest sha256) =
      nextLevel sha256 (trees.map (Tree.digest sha256)) := by
  induction trees using pairUp.induct with
  | case1 _ _ _ ih => simp [pairUp, nextLevel, ih, Tree.digest]
  | case2 level h =>
    match level, h with
    | [], _ => rfl
    | [_], _ => rfl
    | left :: right :: level, h => exact absurd rfl (h left right level)

theorem frontier_pairUp (trees : List Tree) :
    (pairUp trees).flatMap Tree.frontier = trees.flatMap Tree.frontier := by
  induction trees using pairUp.induct with
  | case1 _ _ _ ih => simp [pairUp, ih, Tree.frontier]
  | case2 level h =>
    match level, h with
    | [], _ => rfl
    | [_], _ => rfl
    | left :: right :: level, h => exact absurd rfl (h left right level)

theorem framed_pairUp {trees : List Tree} (h : ∀ tree ∈ trees, tree.Framed) :
    ∀ tree ∈ pairUp trees, tree.Framed := by
  induction trees using pairUp.induct with
  | case1 left right _ ih =>
    rw [pairUp, forall_mem_cons]
    exact ⟨⟨h left (by simp), h right (by simp)⟩, ih fun tree htree => h tree (by simp [htree])⟩
  | case2 level hlevel =>
    match level, hlevel with
    | [], _ => exact h
    | [_], _ => exact h
    | left :: right :: level, hlevel => exact absurd rfl (hlevel left right level)

theorem inputs_pairUp (trees : List Tree) :
    ∀ x ∈ (pairUp trees).flatMap (Tree.inputs sha256), x ∈ trees.flatMap (Tree.inputs sha256) ∨
        x ∈ levelInputs (trees.map (Tree.digest sha256)) := by
  induction trees using pairUp.induct with
  | case1 _ _ _ ih =>
    intro x hx
    simp only [pairUp, flatMap_cons, Tree.inputs, cons_append, mem_cons,
      mem_append, map_cons, levelInputs] at hx ⊢
    rcases hx with hx | (hx | hx) | hx
    · exact .inr (.inl hx)
    · exact .inl (.inl hx)
    · exact .inl (.inr (.inl hx))
    · rcases ih x hx with hx | hx
      · exact .inl (.inr (.inr hx))
      · exact .inr (.inr hx)
  | case2 level h =>
    match level, h with
    | [], _ => exact fun x hx => .inl hx
    | [_], _ => exact fun x hx => .inl hx
    | left :: right :: level, h => exact absurd rfl (h left right level)

variable {rows : List AuditRow} {messages : List Bytes} {row : AuditRow} {message : Bytes}

theorem length_pairUp_le (trees : List Tree) : (pairUp trees).length ≤ trees.length := by
  induction trees using pairUp.induct with
  | case1 =>
    simp only [pairUp, length_cons]
    omega
  | case2 => simp [pairUp]

theorem exists_tree {trees : List Tree} (hne : trees ≠ []) (hframed : ∀ tree ∈ trees, tree.Framed) :
    ∃ tree : Tree, rootOfLevel sha256 (trees.map (Tree.digest sha256)) = some (tree.digest sha256) ∧
      tree.frontier = trees.flatMap Tree.frontier ∧ tree.Framed ∧
      ∀ x ∈ tree.inputs sha256, x ∈ trees.flatMap (Tree.inputs sha256) ∨
        x ∈ loopInputs sha256 (trees.map (Tree.digest sha256)) := by
  -- each turn of the loop replaces the level by a shorter one
  induction hlength : trees.length using Nat.strongRecOn generalizing trees with
  | ind _ ih =>
    match trees, hne with
    | [tree], _ =>
      exact ⟨tree, by simp [rootOfLevel], by simp, hframed tree (by simp),
        fun x hx => .inl (by simpa using hx)⟩
    | left :: right :: level, _ =>
      have hshorter := length_pairUp_le level
      have hpair : pairUp (left :: right :: level) = .node left right :: pairUp level := rfl
      have hlevel : (pairUp (left :: right :: level)).map (Tree.digest sha256) =
          sha256.digest (nodeBytes (left.digest sha256) (right.digest sha256)) ::
            nextLevel sha256 (level.map (Tree.digest sha256)) :=
        digest_pairUp sha256 (left :: right :: level)
      obtain ⟨tree, hroot, hfrontier, htree, hinputs⟩ := ih (pairUp (left :: right :: level)).length
          (by simp only [hpair, length_cons] at hlength ⊢; omega)
          (by simp [hpair]) (framed_pairUp hframed) rfl
      rw [hlevel] at hroot hinputs
      refine ⟨tree, ?_, ?_, htree, fun x hx => ?_⟩
      · rw [← hroot, map_cons, map_cons, rootOfLevel]
      · rw [hfrontier, frontier_pairUp]
      · rw [map_cons, map_cons, loopInputs, mem_append]
        rcases hinputs x hx with hx | hx
        · rcases inputs_pairUp sha256 _ x hx with hx | hx
          · exact .inl hx
          · exact .inr (.inl hx)
        · exact .inr (.inr hx)

def Messages (rows : List AuditRow) (messages : List Bytes) : Prop :=
  List.Forall₂ (fun row message => leafBytes row = .ok message) rows messages

theorem messages_of_hashes {hashes : List Bytes} (h : hashesForRows sha256 rows = .ok hashes) :
    ∃ messages, Messages rows messages ∧ hashes = messages.map sha256.digest := by
  rw [hashesForRows, mapM_eq_ok] at h
  induction h with
  | nil => exact ⟨[], .nil, rfl⟩
  | cons hrow _ ih =>
    obtain ⟨messages, hmessages, rfl⟩ := ih
    simp [leafHash] at hrow
    obtain ⟨message, hmessage, rfl⟩ := hrow
    exact ⟨message :: messages, .cons hmessage hmessages, rfl⟩

theorem filterMap_messages (h : Messages rows messages) :
    (rows.filterMap fun row => (leafBytes row).toOption) = messages := by
  induction h with
  | nil => rfl
  | cons hrow _ ih =>
    rw [filterMap_cons, hrow]
    exact congrArg _ ih

theorem leafDomain_of_leafBytes (h : leafBytes row = .ok message) : leafDomain <+: message := by
  simp only [leafBytes, bind_ok, pure_ok] at h
  obtain ⟨-, -, _, -, -, -, rfl⟩ := h
  exact ⟨_, by rw [append_assoc, append_assoc]⟩

theorem leafDomain_of_messages
    (h : Messages rows messages) : ∀ message ∈ messages, leafDomain <+: message := by
  induction h with
  | nil => simp
  | cons hrow _ ih => exact forall_mem_cons.mpr ⟨leafDomain_of_leafBytes hrow, ih⟩

theorem eq_of_leafBytes_eq {row' : AuditRow}
    (h : leafBytes row = .ok message) (h' : leafBytes row' = .ok message) : row = row' := by
  simp only [leafBytes, bind_ok, require_ok, orRefuse_ok, pure_ok, exists_const] at h h'
  obtain ⟨hpk, uuid, huuid, hmac, rfl⟩ := h
  obtain ⟨hpk', uuid', huuid', hmac', heq⟩ := h'
  obtain ⟨hfront, hrowMac⟩ := append_inj' heq (by rw [hmac, hmac'])
  obtain ⟨hfront, hbytes⟩ := append_inj' hfront (by rw [uuid.length_bytes, uuid'.length_bytes])
  have hid : row'.pk.toNat = row.pk.toNat :=
    BigEndian.eq_of_bytes_eq (by omega) (by omega) (append_cancel_left hfront)
  have hstored : ∀ mac : Option Bytes, (mac.getD []).length = 32 → mac = some (mac.getD []) := by
    intro mac hlength
    cases mac with
    | none => simp at hlength
    | some => rfl
  obtain ⟨pk, _, rowMac⟩ := row
  obtain ⟨pk', _, rowMac'⟩ := row'
  obtain ⟨_, _⟩ := uuid'
  simp only at hpk hpk' huuid huuid' hmac hmac' hrowMac hbytes hid
  subst huuid huuid' hbytes
  rw [hstored rowMac hmac, hstored rowMac' hmac', hrowMac, show pk = pk' by omega]

theorem eq_of_messages_eq {rows' : List AuditRow}
    (h : Messages rows messages) (h' : Messages rows' messages) : rows = rows' := by
  induction h generalizing rows' with
  | nil =>
    cases h'
    rfl
  | cons hrow _ ih =>
    cases h' with
    | cons hrow' hrest' => rw [eq_of_leafBytes_eq hrow hrow', ih hrest']

theorem exists_tree_of_root {root : Bytes} (h : rootOfRows sha256 rows = .ok root) :
    ∃ tree : Tree, tree.digest sha256 = root ∧ Messages rows tree.frontier ∧ tree.Framed ∧
      ∀ x ∈ tree.inputs sha256, x ∈ hashedInputs sha256 rows := by
  simp only [rootOfRows, merkleRoot, bind_ok, require_ok, orRefuse_ok] at h
  obtain ⟨_, hhashes, -, -, hroot⟩ := h
  obtain ⟨messages, hmessages, rfl⟩ := messages_of_hashes sha256 hhashes
  have hdigests : (messages.map Tree.leaf).map (Tree.digest sha256) =
      messages.map sha256.digest := by
    rw [map_map]
    rfl
  have hframed : ∀ tree ∈ messages.map Tree.leaf, tree.Framed := by
    intro tree htree
    obtain ⟨message, hmessage, rfl⟩ := mem_map.mp htree
    exact leafDomain_of_messages hmessages message hmessage
  have hne : messages.map Tree.leaf ≠ [] := by
    rintro hnil
    rw [map_eq_nil_iff.mp hnil] at hroot
    simp [rootOfLevel] at hroot
  obtain ⟨tree, htree, hfrontier, hframed, hinputs⟩ := exists_tree sha256 hne hframed
  rw [hdigests, hroot] at htree
  refine ⟨tree, (Option.some.inj htree).symm, ?_, hframed, fun x hx => ?_⟩
  · rw [hfrontier, flatMap_map]
    simpa [Tree.frontier] using hmessages
  · rw [hashedInputs, filterMap_messages hmessages, mem_append, ← hdigests]
    refine (hinputs x hx).imp_left fun hx => ?_
    simpa [flatMap_map, Tree.inputs] using hx

/-- Equal roots, equal rows, unless SHA-256 collides on what the trees hash. -/
theorem rows_eq_of_root_eq {rows rows' : List AuditRow} {root : Bytes}
    (hinj : ∀ x ∈ hashedInputs sha256 rows, ∀ y ∈ hashedInputs sha256 rows',
      sha256.digest x = sha256.digest y → x = y)
    (h : rootOfRows sha256 rows = .ok root) (h' : rootOfRows sha256 rows' = .ok root) :
    rows = rows' := by
  obtain ⟨tree, htree, hmessages, hframed, hinputs⟩ := exists_tree_of_root sha256 h
  obtain ⟨tree', htree', hmessages', hframed', hinputs'⟩ := exists_tree_of_root sha256 h'
  have heq : tree = tree' := eq_of_digest_eq sha256 hframed hframed'
    (fun x hx y hy => hinj x (hinputs x hx) y (hinputs' y hy)) (htree.trans htree'.symm)
  subst heq
  exact eq_of_messages_eq hmessages hmessages'

/-- The row with an id, a one-byte UUID and a zero MAC. -/
def sampleRow (pk : Int) (byte : UInt8) : AuditRow where
  pk := pk
  eventUuid := some ⟨List.replicate 16 byte, rfl⟩
  rowMac := some (List.replicate 32 0)

def digestOne : Bytes :=
  BigEndian.bytes 32 0xfc932d1f149e244ea41bc5b81fd53a0344b3f51adf6bb5e8643d7dab4a59a478

def digestTwo : Bytes :=
  BigEndian.bytes 32 0xaf14130a3dc1e664ee4079e39d3a2d0cbba3ee6dd4c82142a0f1e5f2667f9c09

def digestBoth : Bytes :=
  BigEndian.bytes 32 0x961045d5c6a03e2ab5e3a42e4c98e874f5ca76272bb7591050ab800e7e169b92

def sampleSha256 : Sha256 where
  digest := fun message =>
    if message = nodeBytes digestOne digestTwo then digestBoth
    else if some message = (leafBytes (sampleRow 1 1)).toOption then digestOne
    else digestTwo
  length_digest := by
    intro message
    split
    · rfl
    · split <;> rfl

theorem sampleRows_bound :
    [sampleRow 1 1, sampleRow 2 2] = [sampleRow 1 1, sampleRow 2 2] ∧
      rootOfRows sampleSha256 [sampleRow 1 1, sampleRow 2 2] = .ok digestBoth := by
  have hroot : rootOfRows sampleSha256 [sampleRow 1 1, sampleRow 2 2] = .ok digestBoth := by
    decide +kernel
  exact ⟨rows_eq_of_root_eq sampleSha256 (by decide +kernel) hroot hroot, hroot⟩

end Merkle
end SpaceWorks
