import Mathlib.Data.Finset.Sort
import Mathlib.Data.String.Basic

/-!
# The graphs of a tenant dump

`_cyclic_components` and `_topological_order` of `tenant_dump_graph.py`. Nodes are any linear order.
`visit` is given as many levels as there are nodes; the interpreter's own limit is not modelled.
-/

namespace SpaceWorks
namespace DumpGraph

open Relation
open List hiding Disjoint

universe u

variable {α : Type u}

structure Graph (α : Type u) where
  nodes : List α
  targets : α → List α
  nodup : nodes.Nodup
  closed : ∀ node ∈ nodes, ∀ target ∈ targets node, target ∈ nodes

/-- The variables of `_cyclic_components`, the top of the stack first. -/
structure Search (α : Type u) where
  index : Nat := 0
  indices : α → Option Nat := fun _ => none
  lowlinks : α → Nat := fun _ => 0
  stack : List α := []
  onStack : α → Bool := fun _ => false
  components : List (Finset α) := []

section Code

variable [LinearOrder α]

def sorted (nodes : List α) : List α :=
  nodes.mergeSort fun a b => a ≤ b

def Search.enter (s : Search α) (node : α) : Search α where
  index := s.index + 1
  indices := Function.update s.indices node (some s.index)
  lowlinks := Function.update s.lowlinks node s.index
  stack := node :: s.stack
  onStack := Function.update s.onStack node true
  components := s.components

def Search.lower (s : Search α) (node : α) (bound : Nat) : Search α :=
  { s with lowlinks := Function.update s.lowlinks node (min (s.lowlinks node) bound) }

def popTo (node : α) : List α → Finset α × List α
  | [] => (∅, [])
  | item :: rest =>
    if item = node then ({item}, rest)
    else (insert item (popTo node rest).1, (popTo node rest).2)

def Search.close (graph : Graph α) (s : Search α) (node : α) : Search α :=
  let (component, rest) := popTo node s.stack
  { s with
    stack := rest
    onStack := fun item => s.onStack item && item ∉ component
    components := if 1 < component.card ∨ node ∈ graph.targets node then
      s.components ++ [component] else s.components }

def follow (visit : α → Search α → Option (Search α)) (node : α) (s : Search α) (target : α) :
    Option (Search α) :=
  match s.indices target with
  | none => (visit target s).map fun s => s.lower node (s.lowlinks target)
  | some index => some (if s.onStack target then s.lower node index else s)

def visit (graph : Graph α) : Nat → α → Search α → Option (Search α)
  | 0, _, _ => none
  | levels + 1, node, s => do
    let s ← (graph.targets node).foldlM (follow (visit graph levels) node) (s.enter node)
    if s.indices node ≠ some (s.lowlinks node) then some s else some (s.close graph node)

def cyclicComponents (graph : Graph α) : Option (List (Finset α)) := do
  let s ← (sorted graph.nodes).foldlM (fun s node =>
    if (s.indices node).isNone then visit graph graph.nodes.length node s else some s) {}
  some s.components

/-- The loop of `_topological_order`; each turn takes another node. -/
def drain (referrers : α → List α) : Nat → (α → List α) → List α → List α → List α
  | 0, _, _, result => result
  | _, _, [], result => result
  | turns + 1, remaining, identity :: ready, result =>
    let remaining' := fun source => if source ∈ referrers identity
      then (remaining source).filter (· ≠ identity) else remaining source
    let freed := (referrers identity).filter fun source => remaining' source = []
    drain referrers turns remaining' (sorted (ready ++ freed)) (result ++ [identity])

def topologicalOrder (graph : Graph α) (ignored : List (α × α)) : Except String (List α) :=
  let remaining := fun source => (graph.targets source).filter fun target =>
    (source, target) ∉ ignored
  let referrers := fun target => sorted (graph.nodes.filter fun source => target ∈ remaining source)
  let ready := sorted (graph.nodes.filter fun source => remaining source = [])
  let result := drain referrers graph.nodes.length remaining ready []
  if result.length ≠ graph.nodes.length then
    .error "Lane D row dependency planning did not close."
  else .ok result

def Graph.without (graph : Graph α) (ignored : List (α × α)) : Graph α where
  nodes := graph.nodes
  targets source := (graph.targets source).filter fun target => (source, target) ∉ ignored
  nodup := graph.nodup
  closed node hnode _ h := graph.closed node hnode _ (mem_filter.mp h).1

end Code

def Graph.Reach (graph : Graph α) : α → α → Prop :=
  ReflTransGen fun source target => target ∈ graph.targets source

def Search.num (s : Search α) (node : α) : Nat := (s.indices node).getD 0

/-- A node that has been popped. -/
def Search.Closed (s : Search α) (node : α) : Prop :=
  s.indices node ≠ none ∧ node ∉ s.stack

variable {graph : Graph α} {s t : Search α} {node : α}

theorem num_eq {i : Nat} (h : s.indices node = some i) : s.num node = i := by
  rw [Search.num, h, Option.getD_some]

theorem num_of_grows (hindices : ∀ node i, s.indices node = some i → t.indices node = some i)
    (h : s.indices node ≠ none) : t.num node = s.num node := by
  obtain ⟨i, hi⟩ := Option.ne_none_iff_exists'.mp h
  rw [num_eq hi, num_eq (hindices node i hi)]

theorem reach_of_closed {C : α → Prop} (hclosed : ∀ x, C x → ∀ y ∈ graph.targets x, C y) {x y : α}
    (hx : C x) (h : graph.Reach x y) : C y := by
  induction h with
  | refl => exact hx
  | tail _ hedge ih => exact hclosed _ ih _ hedge

def Graph.IsComponent (graph : Graph α) (component : Finset α) : Prop :=
  ∃ root ∈ graph.nodes, ∀ node, node ∈ component ↔ graph.Reach root node ∧ graph.Reach node root

/-- More than one node, or a self-loop. -/
def Graph.Cyclic (graph : Graph α) (component : Finset α) : Prop :=
  1 < component.card ∨ ∃ node ∈ component, node ∈ graph.targets node

variable {gray done : List α} {target : α}

/-- What holds while the calls for the gray nodes are open. -/
structure Inv (graph : Graph α) (gray : List α) (s : Search α) : Prop where
  lt : ∀ node i, s.indices node = some i → i < s.index
  visited : ∀ node ∈ s.stack, s.indices node ≠ none
  onStack : ∀ node, s.onStack node = true ↔ node ∈ s.stack
  ordered : s.stack.Pairwise fun a b => s.num b < s.num a ∧ graph.Reach b a
  stacked : ∀ node ∈ gray, node ∈ s.stack
  reaches : ∀ node ∈ s.stack, ∃ g ∈ gray, s.num g ≤ s.num node ∧ graph.Reach node g
  closed : ∀ node, s.Closed node → ∀ target ∈ graph.targets node, s.Closed target
  found : ∀ c, c ∈ s.components ↔
    graph.IsComponent c ∧ graph.Cyclic c ∧ ∀ node ∈ c, s.Closed node
  disjoint : s.components.Pairwise Disjoint

/-- Indices, nodes of the stack and their low-links stay. -/
structure Grows (s t : Search α) : Prop where
  indices : ∀ node i, s.indices node = some i → t.indices node = some i
  stack : ∃ new, t.stack = new ++ s.stack ∧ ∀ node ∈ new, s.indices node = none
  lowlinks : ∀ node, s.indices node ≠ none → t.lowlinks node = s.lowlinks node

/-- The edges lead to visited nodes, none old below the low-link. -/
def Looked (s t : Search α) (low : Nat) (targets : List α) : Prop :=
  ∀ target ∈ targets, t.indices target ≠ none ∧ (target ∈ s.stack → low ≤ s.num target)

/-- It is the number of an old node that is reached. -/
def LowLink (graph : Graph α) (s : Search α) (node : α) (low : Nat) : Prop :=
  low < s.index → ∃ z ∈ s.stack, s.num z = low ∧ graph.Reach node z

/-- The loop over a node's targets, since a state. -/
structure Scanning (graph : Graph α) (gray : List α) (node : α) (s : Search α) (done : List α)
    (t : Search α) : Prop where
  inv : Inv graph (node :: gray) t
  fresh : s.indices node = none
  indices : ∀ other i, s.indices other = some i → t.indices other = some i
  lowlinks : ∀ other, s.indices other ≠ none → t.lowlinks other = s.lowlinks other
  stack : ∃ new, t.stack = new ++ node :: s.stack ∧ (∀ other ∈ new, s.indices other = none) ∧
    ∀ other ∈ new, Looked s t (t.lowlinks node) (graph.targets other)
  index : t.indices node = some s.index
  low : t.lowlinks node ≤ s.index ∧ LowLink graph s node (t.lowlinks node)
  looked : Looked s t (t.lowlinks node) done

/-- What the visit of a node has done when it returns. -/
structure Returned (graph : Graph α) (gray : List α) (node : α) (s t : Search α) : Prop where
  inv : Inv graph gray t
  grows : Grows s t
  visited : t.indices node ≠ none
  looked : ∀ other ∈ t.stack, s.indices other = none →
    Looked s t (t.lowlinks node) (graph.targets other)
  low : LowLink graph s node (t.lowlinks node)

theorem Looked.grow {u : Search α} {low low' : Nat} {targets : List α} (h : Looked s t low targets)
    (hindices : ∀ node i, t.indices node = some i → u.indices node = some i) (hle : low' ≤ low) :
    Looked s u low' targets := by
  intro target htarget
  obtain ⟨hvisited, hlow⟩ := h target htarget
  obtain ⟨i, hi⟩ := Option.ne_none_iff_exists'.mp hvisited
  exact ⟨by simp [hindices target i hi], fun hmem => hle.trans (hlow hmem)⟩

theorem Looked.snoc {low : Nat} (h : Looked s t low done) (hvisited : t.indices target ≠ none)
    (hlow : target ∈ s.stack → low ≤ s.num target) : Looked s t low (done ++ [target]) := by
  intro other hother
  rcases mem_append.mp hother with hother | hother
  · exact h other hother
  · cases mem_singleton.mp hother
    exact ⟨hvisited, hlow⟩

theorem Scanning.grows (h : Scanning graph gray node s done t) : Grows s t := by
  obtain ⟨new, hstack, hnew, -⟩ := h.stack
  refine ⟨h.indices, ⟨new ++ [node], by simp [hstack], fun other hother => ?_⟩, h.lowlinks⟩
  rcases mem_append.mp hother with hother | hother
  · exact hnew other hother
  · cases mem_singleton.mp hother
    exact h.fresh

theorem Scanning.old (h : Scanning graph gray node s done t) (inv : Inv graph gray s)
    (hold : target ∈ s.stack) : target ∈ t.stack ∧ t.num target = s.num target := by
  obtain ⟨_, hstack, -⟩ := h.stack
  exact ⟨by simp [hstack, hold], num_of_grows h.indices (inv.visited target hold)⟩

/-- The nodes that the call has put on the stack. -/
theorem Scanning.above (h : Scanning graph gray node s done t) (hmem : target ∈ t.stack)
    (hnot : target ∉ s.stack) : s.index ≤ t.num target ∧ graph.Reach node target ∧
      (target = node ∨ Looked s t (t.lowlinks node) (graph.targets target)) := by
  obtain ⟨_, hstack, -, hlooked⟩ := h.stack
  have hordered := h.inv.ordered
  have hnode := num_eq h.index
  rw [hstack] at hmem hordered
  rcases mem_append.mp hmem with hmem | hmem
  · obtain ⟨hlt, hreach⟩ := (pairwise_append.mp hordered).2.2 target hmem node (.head _)
    exact ⟨hnode ▸ hlt.le, hreach, .inr (hlooked target hmem)⟩
  · cases (mem_cons.mp hmem).resolve_right hnot
    exact ⟨hnode.ge, .refl, .inl rfl⟩

theorem Scanning.looked_above (h : Scanning graph gray node s (graph.targets node) t)
    (hmem : target ∈ t.stack) (hnot : target ∉ s.stack) :
    Looked s t (t.lowlinks node) (graph.targets target) :=
  (h.above hmem hnot).2.2.elim (fun heq => heq ▸ h.looked) id

theorem Scanning.lowLink (h : Scanning graph gray node s done t) (inv : Inv graph gray s)
    (hmem : target ∈ t.stack) (hreach : graph.Reach node target) :
    LowLink graph s node (t.num target) := by
  intro hlt
  have hold : target ∈ s.stack := not_not.mp fun hnot => hlt.not_ge (h.above hmem hnot).1
  exact ⟨target, hold, (h.old inv hold).2.symm, hreach⟩

theorem LowLink.min {low low' : Nat} (h : LowLink graph s node low) (h' : LowLink graph s node low') :
    LowLink graph s node (Min.min low low') := by
  rcases min_choice low low' with hmin | hmin <;> rwa [hmin]

theorem isComponent_unique {c c' : Finset α} (h : graph.IsComponent c) (h' : graph.IsComponent c')
    (hmem : node ∈ c) (hmem' : node ∈ c') : c = c' := by
  obtain ⟨_, -, hroot⟩ := h
  obtain ⟨_, -, hroot'⟩ := h'
  obtain ⟨hto, hfrom⟩ := (hroot node).mp hmem
  obtain ⟨hto', hfrom'⟩ := (hroot' node).mp hmem'
  ext z
  rw [hroot, hroot']
  exact ⟨fun ⟨h₁, h₂⟩ => ⟨hto'.trans (hfrom.trans h₁), h₂.trans (hto.trans hfrom')⟩,
    fun ⟨h₁, h₂⟩ => ⟨hto.trans (hfrom'.trans h₁), h₂.trans (hto'.trans hfrom)⟩⟩

/-- The node is not the root of its component, and stays on the stack. -/
theorem returned_open (inv : Inv graph gray s)
    (h : Scanning graph gray node s (graph.targets node) t) (hlow : t.lowlinks node ≠ s.index) :
    Returned graph gray node s t := by
  obtain ⟨z, hz, _, hreach⟩ := h.low.2 (h.low.1.lt_of_ne hlow)
  refine ⟨⟨h.inv.lt, h.inv.visited, h.inv.onStack, h.inv.ordered,
      fun g hg => h.inv.stacked g (.tail _ hg), fun y hy => ?_, h.inv.closed, h.inv.found,
      h.inv.disjoint⟩, h.grows, by simp [h.index],
    fun y hy hfresh => h.looked_above hy fun hold => inv.visited y hold hfresh, h.low.2⟩
  obtain ⟨g, hg, hle, hreach'⟩ := h.inv.reaches y hy
  rcases mem_cons.mp hg with rfl | hg
  · -- from the node on, along its low-link, to the gray node below that
    obtain ⟨g', hg', _, hreach''⟩ := inv.reaches z hz
    have hnode := num_eq h.index
    have hsame := (h.old inv (inv.stacked g' hg')).2
    have hbound := h.low.1
    exact ⟨g', hg', by omega, (hreach'.trans hreach).trans hreach''⟩
  · exact ⟨g, hg, hle, hreach'⟩

theorem reach_mem (hnode : node ∈ graph.nodes) (h : graph.Reach node target) :
    target ∈ graph.nodes :=
  reach_of_closed graph.closed hnode h

theorem Inv.num_lt (inv : Inv graph gray s) (h : s.indices node ≠ none) : s.num node < s.index := by
  obtain ⟨i, hi⟩ := Option.ne_none_iff_exists'.mp h
  exact num_eq hi ▸ inv.lt node i hi

variable [LinearOrder α]

/-- The invariant for a node just entered. -/
theorem scanning_enter (inv : Inv graph gray s) (hnew : s.indices node = none)
    (hgray : ∀ g ∈ gray, graph.Reach g node) :
    Scanning graph gray node s [] (s.enter node) := by
  have hne : ∀ other, s.indices other ≠ none → other ≠ node := by
    rintro _ hother rfl
    exact hother hnew
  have hindices : ∀ other, other ≠ node → (s.enter node).indices other = s.indices other :=
    fun other h => Function.update_of_ne h _ _
  have hself : (s.enter node).indices node = some s.index := Function.update_self ..
  have hnum : ∀ other, s.indices other ≠ none → (s.enter node).num other = s.num other :=
    fun other h => by rw [Search.num, hindices other (hne other h), Search.num]
  have hnode : (s.enter node).num node = s.index := num_eq hself
  have hlow : (s.enter node).lowlinks node = s.index := Function.update_self ..
  have hclosed : ∀ other, (s.enter node).Closed other ↔ s.Closed other := by
    intro other
    by_cases h : other = node
    · simp [Search.Closed, Search.enter, h, hnew]
    · simp [Search.Closed, Search.enter, h]
  have hstack : ∀ other ∈ s.stack, s.num other < s.index ∧ graph.Reach other node := by
    intro other hother
    obtain ⟨g, hg, -, hreach⟩ := inv.reaches other hother
    exact ⟨inv.num_lt (inv.visited other hother), hreach.trans (hgray g hg)⟩
  refine ⟨?_, hnew, fun other i h => ?_, fun other h => ?_, ⟨[], rfl, nofun, nofun⟩, hself,
    ⟨hlow.le, fun hlt => absurd hlow hlt.ne⟩, nofun⟩
  · refine ⟨fun other i h => ?_, fun other h => ?_, fun other => ?_, ?_, fun other h => ?_,
      fun other h => ?_, fun other h target htarget => ?_, fun c => ?_, inv.disjoint⟩
    · by_cases heq : other = node
      · rw [heq, hself] at h
        cases h
        exact Nat.lt_succ_self _
      · rw [hindices other heq] at h
        exact Nat.lt_succ_of_lt (inv.lt other i h)
    · rcases mem_cons.mp h with rfl | h
      · simp [hself]
      · rw [hindices other (hne other (inv.visited other h))]
        exact inv.visited other h
    · by_cases heq : other = node
      · simp [Search.enter, heq]
      · simp [Search.enter, heq, inv.onStack]
    · refine pairwise_cons.mpr ⟨fun other hother => ?_, inv.ordered.imp_of_mem ?_⟩
      · rw [hnode, hnum other (inv.visited other hother)]
        exact hstack other hother
      · intro a b ha hb hab
        rwa [hnum a (inv.visited a ha), hnum b (inv.visited b hb)]
    · rcases mem_cons.mp h with rfl | h
      · exact .head _
      · exact .tail _ (inv.stacked other h)
    · rcases mem_cons.mp h with rfl | h
      · exact ⟨other, .head _, le_rfl, .refl⟩
      · obtain ⟨g, hg, _, hreach⟩ := inv.reaches other h
        refine ⟨g, .tail _ hg, ?_, hreach⟩
        rwa [hnum g (inv.visited g (inv.stacked g hg)), hnum other (inv.visited other h)]
    · exact (hclosed target).mpr (inv.closed other ((hclosed other).mp h) target htarget)
    · simp only [hclosed]
      exact inv.found c
  · rw [hindices other (hne other (by simp [h]))]
    exact h
  · exact Function.update_of_ne (hne other h) _ _

theorem Inv.lower (inv : Inv graph gray s) (node : α) (bound : Nat) :
    Inv graph gray (s.lower node bound) :=
  ⟨inv.lt, inv.visited, inv.onStack, inv.ordered, inv.stacked, inv.reaches, inv.closed, inv.found,
    inv.disjoint⟩

theorem scanning_look (inv : Inv graph gray s) (h : Scanning graph gray node s done t) {i : Nat}
    (hi : t.indices target = some i) (hedge : target ∈ graph.targets node) :
    Scanning graph gray node s (done ++ [target])
      (if t.onStack target then t.lower node i else t) := by
  have hvisited : t.indices target ≠ none := by simp [hi]
  obtain ⟨new, hstack, hnew, hlooked⟩ := h.stack
  split
  · next hon =>
    have hmem := (h.inv.onStack target).mp hon
    have hlow : (t.lower node i).lowlinks node = min (t.lowlinks node) i := Function.update_self ..
    have hle : (t.lower node i).lowlinks node ≤ t.lowlinks node := hlow ▸ min_le_left _ _
    refine ⟨h.inv.lower _ _, h.fresh, h.indices, fun other hother => ?_,
      ⟨new, hstack, hnew, fun other hother => (hlooked other hother).grow (fun _ _ => id) hle⟩,
      h.index, ?_, (h.looked.grow (fun _ _ => id) hle).snoc hvisited fun hold => ?_⟩
    · rw [← h.lowlinks other hother]
      exact Function.update_of_ne (by rintro rfl; exact hother h.fresh) _ _
    · have hlink := h.lowLink inv hmem (.single hedge)
      rw [num_eq hi] at hlink
      exact ⟨hle.trans h.low.1, hlow ▸ h.low.2.min hlink⟩
    · rw [hlow, ← (h.old inv hold).2, num_eq hi]
      exact min_le_right _ _
  · next hoff =>
    refine ⟨h.inv, h.fresh, h.indices, h.lowlinks, h.stack, h.index, h.low,
      h.looked.snoc hvisited fun hold => ?_⟩
    exact absurd ((h.inv.onStack target).mpr (h.old inv hold).1) hoff

theorem scanning_return {u : Search α} (inv : Inv graph gray s)
    (h : Scanning graph gray node s done t) (hnew : t.indices target = none)
    (hedge : target ∈ graph.targets node) (hu : Returned graph (node :: gray) target t u) :
    Scanning graph gray node s (done ++ [target]) (u.lower node (u.lowlinks target)) := by
  obtain ⟨new, hstack, hfresh, hlooked⟩ := h.stack
  obtain ⟨more, hmore, hmoreFresh⟩ := hu.grows.stack
  have hkept : u.lowlinks node = t.lowlinks node := hu.grows.lowlinks node (by simp [h.index])
  have hlow : (u.lower node (u.lowlinks target)).lowlinks node =
      min (t.lowlinks node) (u.lowlinks target) := hkept ▸ Function.update_self ..
  have hle : (u.lower node (u.lowlinks target)).lowlinks node ≤ t.lowlinks node :=
    hlow ▸ min_le_left _ _
  have hvisited : ∀ other, s.indices other ≠ none → t.indices other ≠ none := fun other hother => by
    obtain ⟨i, hi⟩ := Option.ne_none_iff_exists'.mp hother
    simp [h.indices other i hi]
  refine ⟨hu.inv.lower _ _, h.fresh, fun other i hi => hu.grows.indices other i (h.indices other i hi),
    fun other hother => ?_, ⟨more ++ new, by simp [Search.lower, hmore, hstack],
      fun other hother => ?_, fun other hother => ?_⟩,
    hu.grows.indices node s.index h.index, ?_,
    (h.looked.grow hu.grows.indices hle).snoc hu.visited fun hold => ?_⟩
  · rw [← h.lowlinks other hother, ← hu.grows.lowlinks other (hvisited other hother)]
    exact Function.update_of_ne (by rintro rfl; exact hother h.fresh) _ _
  · rcases mem_append.mp hother with hother | hother
    · exact not_not.mp fun hs => hvisited other hs (hmoreFresh other hother)
    · exact hfresh other hother
  · rcases mem_append.mp hother with hother | hother
    · intro z hz
      obtain ⟨hz', hbound⟩ :=
        hu.looked other (by simp [hmore, hother]) (hmoreFresh other hother) z hz
      refine ⟨hz', fun hold => ?_⟩
      rw [hlow, ← (h.old inv hold).2]
      exact (min_le_right _ _).trans (hbound (h.old inv hold).1)
    · exact (hlooked other hother).grow hu.grows.indices hle
  · refine ⟨hle.trans h.low.1, hlow ▸ h.low.2.min fun hlt => ?_⟩
    obtain ⟨_, hz, hnum, hreach⟩ := hu.low (hlt.trans (h.inv.lt node s.index h.index))
    exact hnum ▸ h.lowLink inv hz (.head hedge hreach) (hnum ▸ hlt)
  · exact absurd hnew (h.inv.visited target (h.old inv hold).1)

theorem popTo_append {new old : List α} (h : node ∉ new) :
    popTo node (new ++ node :: old) = (insert node new.toFinset, old) := by
  induction new with
  | nil => simp [popTo]
  | cons _ _ ih =>
    rw [mem_cons, not_or] at h
    rw [cons_append, popTo, if_neg (Ne.symm h.1), ih h.2, toFinset_cons, Finset.insert_comm]

/-- What is popped is a component, whose edges stay in it or lead to popped nodes. -/
theorem popped_component (inv : Inv graph gray s)
    (h : Scanning graph gray node s (graph.targets node) t) (hlow : t.lowlinks node = s.index)
    (hnode : node ∈ graph.nodes) {component : Finset α}
    (hmem : ∀ y, y ∈ component ↔ y ∈ t.stack ∧ y ∉ s.stack) :
    (∀ y, y ∈ component ∨ t.Closed y → ∀ z ∈ graph.targets y, z ∈ component ∨ t.Closed z) ∧
      graph.IsComponent component := by
  have hnodet : node ∈ t.stack := h.inv.stacked node (.head _)
  have hedges : ∀ y ∈ component, ∀ z ∈ graph.targets y, z ∈ component ∨ t.Closed z := by
    intro y hy z hz
    obtain ⟨hy, hynot⟩ := (hmem y).mp hy
    obtain ⟨hvisited, hbound⟩ := h.looked_above hy hynot z hz
    by_cases hzt : z ∈ t.stack
    · refine .inl ((hmem z).mpr ⟨hzt, fun hold => ?_⟩)
      have hlt := inv.num_lt (inv.visited z hold)
      have hge := hbound hold
      omega
    · exact .inr ⟨hvisited, hzt⟩
  have hstays : ∀ y, y ∈ component ∨ t.Closed y → ∀ z ∈ graph.targets y,
      z ∈ component ∨ t.Closed z := fun y hy z hz =>
    hy.elim (hedges y · z hz) fun hy => .inr (h.inv.closed y hy z hz)
  refine ⟨hstays, node, hnode, fun y => ⟨fun hy => ?_, fun ⟨hto, hfrom⟩ => ?_⟩⟩
  · obtain ⟨hyt, hynot⟩ := (hmem y).mp hy
    refine ⟨(h.above hyt hynot).2.1, ?_⟩
    obtain ⟨g, hg, -, hreach⟩ := h.inv.reaches y hyt
    rcases mem_cons.mp hg with rfl | hg
    · exact hreach
    · rcases reach_of_closed hstays (.inl hy) hreach with hg' | hg'
      · exact absurd (inv.stacked g hg) ((hmem g).mp hg').2
      · exact absurd (h.inv.stacked g (.tail _ hg)) hg'.2
  · have hself : node ∈ component := (hmem node).mpr
      ⟨hnodet, fun hold => inv.visited node hold h.fresh⟩
    refine (reach_of_closed hstays (.inl hself) hto).resolve_right fun hclosed => ?_
    exact (reach_of_closed h.inv.closed hclosed hfrom).2 hnodet

theorem returned_close (inv : Inv graph gray s)
    (h : Scanning graph gray node s (graph.targets node) t) (hlow : t.lowlinks node = s.index)
    (hnode : node ∈ graph.nodes) : Returned graph gray node s (t.close graph node) := by
  obtain ⟨new, hstack, hnew, -⟩ := h.stack
  have hordered := h.inv.ordered
  rw [hstack] at hordered
  have hfresh : node ∉ new := fun hmem => by
    have hlt := ((pairwise_append.mp hordered).2.2 node hmem node (.head _)).1
    omega
  obtain ⟨component, hcomponent⟩ : ∃ c, c = insert node new.toFinset := ⟨_, rfl⟩
  have hout : ∀ y, y = node ∨ y ∈ new → y ∉ s.stack := fun y hy hold =>
    inv.visited y hold (hy.elim (· ▸ h.fresh) (hnew y))
  have hmem : ∀ y, y ∈ component ↔ y ∈ t.stack ∧ y ∉ s.stack := by
    intro y
    have hy := hout y
    simp only [hcomponent, hstack, Finset.mem_insert, mem_toFinset, mem_append, mem_cons]
    tauto
  obtain ⟨hstays, hiscomponent⟩ := popped_component inv h hlow hnode hmem
  have hclose : t.close graph node = { t with
      stack := s.stack
      onStack := fun item => t.onStack item && item ∉ component
      components := if 1 < component.card ∨ node ∈ graph.targets node then
        t.components ++ [component] else t.components } := by
    simp only [Search.close, hstack, popTo_append hfresh, hcomponent]
  have hclosed : ∀ y, (t.close graph node).Closed y ↔ y ∈ component ∨ t.Closed y := by
    intro y
    simp only [hclose, Search.Closed, hmem]
    constructor
    · rintro ⟨hvisited, hold⟩
      by_cases hy : y ∈ t.stack
      · exact .inl ⟨hy, hold⟩
      · exact .inr ⟨hvisited, hy⟩
    · rintro (⟨hy, hold⟩ | ⟨hvisited, hy⟩)
      · exact ⟨h.inv.visited y hy, hold⟩
      · exact ⟨hvisited, fun hold => hy (h.old inv hold).1⟩
  have hself : node ∈ component := (hmem node).mpr
    ⟨by simp [hstack], fun hold => inv.visited node hold h.fresh⟩
  have hcyclic : graph.Cyclic component ↔ 1 < component.card ∨ node ∈ graph.targets node := by
    refine ⟨fun hc => or_iff_not_imp_left.mpr fun hcard => ?_,
      fun hc => hc.imp id fun hloop => ⟨node, hself, hloop⟩⟩
    obtain ⟨y, hy, hloop⟩ := hc.resolve_left hcard
    rwa [Finset.card_le_one.mp (Nat.le_of_not_lt hcard) y hy node hself] at hloop
  have hfound : ∀ c, c ∈ (t.close graph node).components ↔
      c ∈ t.components ∨ graph.Cyclic component ∧ c = component := by
    intro c
    rw [hclose, hcyclic]
    by_cases hc : 1 < component.card ∨ node ∈ graph.targets node <;> simp [hc]
  rw [hclose] at hclosed hfound ⊢
  refine ⟨⟨h.inv.lt, fun y hy => h.inv.visited y (h.old inv hy).1, fun y => ?_, ?_, inv.stacked,
      fun y hy => ?_, fun y hy z hz => ?_, fun c => ?_, ?_⟩,
    ⟨h.indices, ⟨[], rfl, nofun⟩, h.lowlinks⟩, by simp [h.index],
    fun y hy hnone => absurd hnone (inv.visited y hy), fun hlt => absurd hlow hlt.ne⟩
  · rw [Bool.and_eq_true, h.inv.onStack, decide_eq_true_eq, hmem]
    exact ⟨fun ⟨hy, hout⟩ => not_not.mp fun hold => hout ⟨hy, hold⟩,
      fun hy => ⟨(h.old inv hy).1, fun hin => hin.2 hy⟩⟩
  · exact (pairwise_cons.mp (pairwise_append.mp hordered).2.1).2
  · obtain ⟨g, hg, _, hreach⟩ := inv.reaches y hy
    refine ⟨g, hg, ?_, hreach⟩
    change t.num g ≤ t.num y
    rwa [(h.old inv (inv.stacked g hg)).2, (h.old inv hy).2]
  · exact (hclosed z).mpr (hstays y ((hclosed y).mp hy) z hz)
  · rw [hfound, h.inv.found]
    simp only [hclosed]
    constructor
    · rintro (⟨hc, hcycle, hin⟩ | ⟨hcycle, rfl⟩)
      · exact ⟨hc, hcycle, fun y hy => .inr (hin y hy)⟩
      · exact ⟨hiscomponent, hcycle, fun y hy => .inl hy⟩
    · rintro ⟨hc, hcycle, hin⟩
      by_cases hall : ∀ y ∈ c, t.Closed y
      · exact .inl ⟨hc, hcycle, hall⟩
      · obtain ⟨y, hy, hopen⟩ := not_forall₂.mp hall
        cases isComponent_unique hc hiscomponent hy ((hin y hy).resolve_right hopen)
        exact .inr ⟨hcycle, rfl⟩
  · dsimp only
    split
    · refine pairwise_append.mpr ⟨h.inv.disjoint, pairwise_singleton _ _, fun c hc c' hc' => ?_⟩
      cases mem_singleton.mp hc'
      refine Finset.disjoint_left.mpr fun y hy hy' => ?_
      exact (((h.inv.found c).mp hc).2.2 y hy).2 ((hmem y).mp hy').1
    · exact h.inv.disjoint

/-- The nodes that have not been visited. -/
def Graph.unseen (graph : Graph α) (s : Search α) : Finset α :=
  graph.nodes.toFinset.filter fun node => s.indices node = none

theorem unseen_lt (hindices : ∀ node i, s.indices node = some i → t.indices node = some i)
    (hnode : node ∈ graph.nodes) (hnew : s.indices node = none) (hvisited : t.indices node ≠ none) :
    (graph.unseen t).card < (graph.unseen s).card := by
  refine Finset.card_lt_card ((Finset.ssubset_iff_of_subset fun other hother => ?_).mpr
    ⟨node, by simp [Graph.unseen, hnode, hnew], by simp [Graph.unseen, hvisited]⟩)
  simp only [Graph.unseen, Finset.mem_filter, mem_toFinset] at hother ⊢
  refine ⟨hother.1, Option.eq_none_iff_forall_ne_some.mpr fun i hi => ?_⟩
  rw [hindices other i hi] at hother
  exact nomatch hother.2

/-- A loop that can always go on ends, and keeps what each turn keeps. -/
theorem foldlM_spec {β : Type u} {σ : Type u} {P : List β → σ → Prop} {f : σ → β → Option σ}
    {l : List β} (hstep : ∀ done x s, x ∈ l → P done s → ∃ t, f s x = some t ∧ P (done ++ [x]) t)
    {s : σ} (h : P [] s) : ∃ t, l.foldlM f s = some t ∧ P l t := by
  induction l using List.reverseRecOn with
  | nil => exact ⟨s, rfl, h⟩
  | append_singleton l x ih =>
    obtain ⟨t, hfold, ht⟩ := ih fun done y s hy => hstep done y s (mem_append_left _ hy)
    obtain ⟨u, hlast, hu⟩ := hstep l x t (by simp) ht
    exact ⟨u, by simp [hfold, hlast], hu⟩

/-- A visit with a level for each unvisited node returns. -/
theorem visit_spec {levels : Nat} (inv : Inv graph gray s) (hnew : s.indices node = none)
    (hnode : node ∈ graph.nodes) (hgray : ∀ g ∈ gray, graph.Reach g node)
    (hlevels : (graph.unseen s).card ≤ levels) :
    ∃ t, visit graph levels node s = some t ∧ Returned graph gray node s t := by
  induction levels generalizing gray s node with
  | zero =>
    have hmem : node ∈ graph.unseen s := by simp [Graph.unseen, hnode, hnew]
    exact absurd (Finset.card_pos.mpr ⟨node, hmem⟩) (by omega)
  | succ levels ih =>
    have hloop : ∃ t, (graph.targets node).foldlM (follow (visit graph levels) node)
        (s.enter node) = some t ∧ Scanning graph gray node s (graph.targets node) t := by
      refine foldlM_spec (fun done target t hedge h => ?_) (scanning_enter inv hnew hgray)
      have htarget := graph.closed node hnode target hedge
      cases hindex : t.indices target with
      | some => exact ⟨_, by simp [follow, hindex], scanning_look inv h hindex hedge⟩
      | none =>
        have hlt := unseen_lt h.indices hnode hnew (by simp [h.index])
        obtain ⟨_, hvisit, hu⟩ := ih h.inv hindex htarget (fun g hg => by
          rcases mem_cons.mp hg with rfl | hg
          · exact .single hedge
          · exact (hgray g hg).tail hedge) (by omega)
        exact ⟨_, by simp [follow, hindex, hvisit], scanning_return inv h hindex hedge hu⟩
    obtain ⟨t, hfold, h⟩ := hloop
    by_cases hlow : t.lowlinks node = s.index
    · exact ⟨_, by simp [visit, hfold, h.index, hlow], returned_close inv h hlow hnode⟩
    · exact ⟨t, by simp [visit, hfold, h.index, Ne.symm hlow], returned_open inv h hlow⟩

theorem cyclicComponents_spec (graph : Graph α) :
    ∃ components, cyclicComponents graph = some components ∧ components.Pairwise Disjoint ∧
      ∀ c, c ∈ components ↔ graph.IsComponent c ∧ graph.Cyclic c := by
  have hstart : Inv graph [] ({} : Search α) :=
    ⟨nofun, nofun, by simp, .nil, nofun, nofun, fun _ h => absurd rfl h.1,
      fun c => ⟨nofun, fun ⟨⟨root, _, hroot⟩, _, h⟩ =>
        absurd rfl (h root ((hroot root).mpr ⟨.refl, .refl⟩)).1⟩, .nil⟩
  obtain ⟨s, hfold, inv, hall⟩ : ∃ s, (sorted graph.nodes).foldlM (fun s node =>
      if (s.indices node).isNone then visit graph graph.nodes.length node s else some s) {} =
      some s ∧ Inv graph [] s ∧ ∀ node ∈ sorted graph.nodes, s.indices node ≠ none := by
    refine foldlM_spec (P := fun done s => Inv graph [] s ∧ ∀ node ∈ done, s.indices node ≠ none)
      (fun done node s hnode ⟨inv, hdone⟩ => ?_) ⟨hstart, nofun⟩
    cases hindex : s.indices node with
    | some =>
      refine ⟨s, by simp, inv, fun other hother => ?_⟩
      rcases mem_append.mp hother with hother | hother
      · exact hdone other hother
      · simp [mem_singleton.mp hother, hindex]
    | none =>
      obtain ⟨t, hvisit, ht⟩ := visit_spec inv hindex (mem_mergeSort.mp hnode) nofun
        ((Finset.card_filter_le _ _).trans (toFinset_card_le _))
      refine ⟨t, by simp [hvisit], ht.inv, fun other hother => ?_⟩
      rcases mem_append.mp hother with hother | hother
      · obtain ⟨i, hi⟩ := Option.ne_none_iff_exists'.mp (hdone other hother)
        simp [ht.grows.indices other i hi]
      · exact mem_singleton.mp hother ▸ ht.visited
  refine ⟨s.components, by simp only [cyclicComponents, hfold]; rfl, inv.disjoint, fun c => ?_⟩
  rw [inv.found]
  refine ⟨fun h => ⟨h.1, h.2.1⟩, fun ⟨hc, hcycle⟩ => ⟨hc, hcycle, fun node hnode => ?_⟩⟩
  obtain ⟨_, hmem, hroot⟩ := hc
  refine ⟨hall node (mem_mergeSort.mpr (reach_mem hmem ((hroot node).mp hnode).1)), fun hstack => ?_⟩
  obtain ⟨_, hg, -⟩ := inv.reaches node hstack
  cases hg

end DumpGraph
end SpaceWorks
