import SpaceWorks.Migration.DumpGraph

/-!
# The order of the models of a tenant dump

`_topological_order` and `model_dependency_order` of `tenant_dump_graph.py`.
-/

namespace SpaceWorks
namespace DumpGraph

open Relation
open List hiding Disjoint

universe u

variable {α : Type u} [LinearOrder α] {graph : Graph α} {components : List (Finset α)}

def allComponents (graph : Graph α) : Option (List (Finset α)) := do
  let cyclic ← cyclicComponents graph
  some (cyclic ++ ((sorted graph.nodes).filter fun node => ∀ c ∈ cyclic, node ∉ c).map ({·}))

def modelGraph (related : String → List String) (models : List String) : Graph String where
  nodes := models.dedup
  targets label := (related label).filter fun target => target ∈ models ∧ target ≠ label
  nodup := nodup_dedup models
  closed _ _ target htarget := by
    simp only [mem_filter, decide_eq_true_eq] at htarget
    exact mem_dedup.mpr htarget.2.1

/-- `owner`, for components that are disjoint. -/
def owner (components : List (Finset α)) (node : α) : Nat :=
  components.findIdx (node ∈ ·)

def componentGraph (graph : Graph α) (components : List (Finset α)) : Graph Nat where
  nodes := range components.length
  targets index := (graph.nodes.filter fun source => owner components source = index).flatMap
    fun source => ((graph.targets source).map (owner components)).filter fun other =>
      other ≠ index ∧ other < components.length
  nodup := nodup_range
  closed index _ target htarget := by
    simp only [mem_flatMap, mem_filter, decide_eq_true_eq] at htarget
    obtain ⟨_, _, _, _, hlt⟩ := htarget
    exact mem_range.mpr hlt

/-- The nodes of the components at the given indices, sorted in each. -/
def placed (components : List (Finset α)) (indices : List Nat) : List α :=
  indices.flatMap fun index => (components.getD index ∅).sort (· ≤ ·)

/-- `model_dependency_order`, with models known by their labels. -/
def modelDependencyOrder (related : String → List String) (models : List String) :
    Except String (List String) := do
  let graph := modelGraph related models
  let components := (allComponents graph).getD []
  let order ← topologicalOrder (componentGraph graph components) []
  return placed components order

/-- The components of a graph, in any order. -/
structure Partition (graph : Graph α) (components : List (Finset α)) : Prop where
  disjoint : components.Pairwise Disjoint
  component : ∀ c ∈ components, graph.IsComponent c
  cover : ∀ node ∈ graph.nodes, ∃ c ∈ components, node ∈ c

theorem exists_component {node : α} (hnode : node ∈ graph.nodes) :
    ∃ c, graph.IsComponent c ∧
      ∀ other, other ∈ c ↔ graph.Reach node other ∧ graph.Reach other node := by
  classical
  have hwhole : ∀ other, other ∈ graph.nodes.toFinset.filter (fun other =>
      graph.Reach node other ∧ graph.Reach other node) ↔
      graph.Reach node other ∧ graph.Reach other node := fun other => by
    rw [Finset.mem_filter, mem_toFinset]
    exact ⟨And.right, fun h => ⟨reach_mem hnode h.1, h⟩⟩
  exact ⟨_, ⟨node, hnode, hwhole⟩, hwhole⟩

theorem allComponents_spec (graph : Graph α) :
    ∃ components, allComponents graph = some components ∧ Partition graph components := by
  obtain ⟨cyclic, hcyclic, hdisjoint, hmem⟩ := cyclicComponents_spec graph
  refine ⟨_, by simp only [allComponents, hcyclic]; rfl, pairwise_append.mpr ⟨hdisjoint, ?_, ?_⟩,
    fun c hc => ?_, fun node hnode => ?_⟩
  · refine pairwise_map.mpr (Pairwise.imp (fun hne => ?_)
      ((mergeSort_perm graph.nodes _).nodup_iff.mpr graph.nodup |>.filter _))
    simpa using hne
  · intro c hc c' hc'
    simp only [mem_map, mem_filter, decide_eq_true_eq] at hc'
    obtain ⟨_, ⟨-, hnot⟩, rfl⟩ := hc'
    exact Finset.disjoint_singleton_right.mpr (hnot c hc)
  · rcases mem_append.mp hc with hc | hc
    · exact ((hmem c).mp hc).1
    · simp only [mem_map, mem_filter, decide_eq_true_eq, sorted, mem_mergeSort] at hc
      obtain ⟨node, ⟨hnode, hnot⟩, rfl⟩ := hc
      -- another node of the component would make it cyclic
      obtain ⟨whole, hwhole, hin⟩ := exists_component hnode
      have hself : node ∈ whole := (hin node).mpr ⟨.refl, .refl⟩
      have hcard : ¬ 1 < whole.card := fun hlt =>
        hnot whole ((hmem whole).mpr ⟨hwhole, .inl hlt⟩) hself
      rwa [Finset.eq_singleton_iff_unique_mem.mpr ⟨hself, fun other hother =>
        Finset.card_le_one.mp (Nat.le_of_not_lt hcard) other hother node hself⟩] at hwhole
  · by_cases hall : ∀ c ∈ cyclic, node ∉ c
    · exact ⟨{node}, mem_append_right _ (mem_map_of_mem (mem_filter.mpr
        ⟨mem_mergeSort.mpr hnode, decide_eq_true hall⟩)), Finset.mem_singleton_self node⟩
    · obtain ⟨c, hc, hin⟩ := not_forall₂.mp hall
      exact ⟨c, mem_append_left _ hc, not_not.mp hin⟩

/-- What holds before every turn of the loop of `_topological_order`. -/
structure Draining (graph : Graph α) (remaining : α → List α) (ready result : List α) : Prop where
  nodup : (result ++ ready).Nodup
  left : ∀ node ∈ graph.nodes, remaining node = (graph.targets node).filter (· ∉ result)
  free : ∀ node, node ∈ result ++ ready ↔
    node ∈ graph.nodes ∧ ∀ target ∈ graph.targets node, target ∈ result
  ordered : result.Pairwise fun node later => later ∉ graph.targets node

theorem draining_turn {referrers remaining : α → List α} {identity : α} {ready result : List α}
    (hreferrers : ∀ node source, source ∈ referrers node ↔
      source ∈ graph.nodes ∧ node ∈ graph.targets source)
    (hnodup : ∀ node, (referrers node).Nodup)
    (h : Draining graph remaining (identity :: ready) result) :
    let remaining' := fun source => if source ∈ referrers identity
      then (remaining source).filter (· ≠ identity) else remaining source
    Draining graph remaining' (sorted (ready ++ (referrers identity).filter fun source =>
      remaining' source = [])) (result ++ [identity]) := by
  intro remaining'
  have hnew : identity ∉ result := fun hmem =>
    (nodup_append.mp h.nodup).2.2 identity hmem identity (.head _) rfl
  have hdone : ∀ node ∈ result ++ identity :: ready, identity ∉ graph.targets node :=
    fun node hnode htarget => hnew (((h.free node).mp hnode).2 identity htarget)
  have hleft : ∀ node ∈ graph.nodes,
      remaining' node = (graph.targets node).filter (· ∉ result ++ [identity]) := by
    intro node hnode
    by_cases hrefers : node ∈ referrers identity
    · simp [remaining', hrefers, h.left node hnode, and_comm]
    · have hnot : identity ∉ graph.targets node := fun htarget =>
        hrefers ((hreferrers identity node).mpr ⟨hnode, htarget⟩)
      simp only [remaining', hrefers, if_false, h.left node hnode]
      refine filter_congr fun target htarget => ?_
      have hne : target ≠ identity := fun heq => hnot (heq ▸ htarget)
      simp [hne]
  have hfreed : ∀ node, (node ∈ referrers identity ∧ remaining' node = []) ↔
      node ∈ graph.nodes ∧ identity ∈ graph.targets node ∧
        ∀ target ∈ graph.targets node, target ∈ result ++ [identity] := by
    intro node
    rw [hreferrers, and_assoc]
    refine and_congr_right fun hnode => and_congr_right fun _ => ?_
    rw [hleft node hnode, filter_eq_nil_iff]
    simp only [decide_eq_true_eq, not_not]
  refine ⟨?_, hleft, fun node => ?_, ?_⟩
  · refine ((mergeSort_perm _ _).append_left _).nodup_iff.mpr ?_
    rw [append_assoc, ← append_assoc [identity], singleton_append, ← append_assoc]
    exact nodup_append.mpr ⟨h.nodup, (hnodup identity).filter _, fun node hnode other hother heq =>
      hdone node hnode ((hreferrers identity node).mp (heq ▸ (mem_filter.mp hother).1)).2⟩
  · have hmem : node ∈ (result ++ [identity]) ++ sorted (ready ++
        (referrers identity).filter fun source => remaining' source = []) ↔
        node ∈ result ++ identity :: ready ∨ node ∈ referrers identity ∧ remaining' node = [] := by
      simp [sorted, or_assoc]
    rw [hmem, hfreed, h.free]
    constructor
    · rintro (⟨hnode, hall⟩ | ⟨hnode, -, hall⟩)
      · exact ⟨hnode, fun target htarget => mem_append_left _ (hall target htarget)⟩
      · exact ⟨hnode, hall⟩
    · rintro ⟨hnode, hall⟩
      by_cases htarget : identity ∈ graph.targets node
      · exact .inr ⟨hnode, htarget, hall⟩
      · refine .inl ⟨hnode, fun target hin => ?_⟩
        rcases mem_append.mp (hall target hin) with hold | heq
        · exact hold
        · exact absurd (mem_singleton.mp heq ▸ hin) htarget
  · refine pairwise_append.mpr ⟨h.ordered, pairwise_singleton _ _, fun node hnode other hother => ?_⟩
    exact mem_singleton.mp hother ▸ hdone node (mem_append_left _ hnode)

theorem drain_spec {referrers remaining : α → List α} {ready result : List α} {turns : Nat}
    (hreferrers : ∀ node source, source ∈ referrers node ↔
      source ∈ graph.nodes ∧ node ∈ graph.targets source)
    (hnodup : ∀ node, (referrers node).Nodup) (h : Draining graph remaining ready result)
    (hturns : result.length + turns = graph.nodes.length) :
    ∃ remaining', Draining graph remaining' [] (drain referrers turns remaining ready result) := by
  induction turns generalizing remaining ready result with
  | zero =>
    have hlength := (h.nodup.subperm fun node hnode => ((h.free node).mp hnode).1).length_le
    rw [length_append] at hlength
    cases length_eq_zero_iff.mp (show ready.length = 0 by omega)
    exact ⟨remaining, h⟩
  | succ _ ih =>
    cases ready with
    | nil => exact ⟨remaining, h⟩
    | cons =>
      refine ih (draining_turn hreferrers hnodup h) ?_
      rw [length_append, length_singleton]
      omega

/-- `_topological_order`, when no edge is ignored. -/
theorem topologicalOrder_spec {rank : α → Nat}
    (hrank : ∀ node ∈ graph.nodes, ∀ target ∈ graph.targets node, rank target < rank node) :
    ∃ order, topologicalOrder graph [] = .ok order ∧ order.Nodup ∧
      (∀ node, node ∈ order ↔ node ∈ graph.nodes) ∧
      order.Pairwise fun node later => later ∉ graph.targets node := by
  obtain ⟨referrers, hdef⟩ : ∃ referrers : α → List α, referrers = fun target =>
      sorted (graph.nodes.filter fun source => target ∈ graph.targets source) := ⟨_, rfl⟩
  have hsorted : ∀ p : α → Bool, (sorted (graph.nodes.filter p)).Nodup := fun p =>
    (mergeSort_perm _ _).nodup_iff.mpr (graph.nodup.filter _)
  have hstart : Draining graph graph.targets (sorted (graph.nodes.filter fun source =>
      graph.targets source = [])) [] :=
    ⟨hsorted _, by simp, by simp [sorted, eq_nil_iff_forall_not_mem], .nil⟩
  have hreferrers : ∀ node source, source ∈ referrers node ↔
      source ∈ graph.nodes ∧ node ∈ graph.targets source := by simp [hdef, sorted]
  obtain ⟨_, h⟩ := drain_spec hreferrers (fun node => hdef ▸ hsorted _) hstart
    (Nat.zero_add _)
  generalize hout : drain referrers graph.nodes.length graph.targets _ [] = order at h
  obtain ⟨hnodup, -, hfree, hordered⟩ := h
  rw [append_nil] at hnodup hfree
  have hall : ∀ n, ∀ node ∈ graph.nodes, rank node < n → node ∈ order := by
    intro n
    induction n with
    | zero => exact fun _ _ hlt => absurd hlt (Nat.not_lt_zero _)
    | succ _ ih => exact fun node hnode hlt => (hfree node).mpr ⟨hnode, fun target htarget =>
        ih target (graph.closed node hnode target htarget)
          ((hrank node hnode target htarget).trans_le (Nat.le_of_lt_succ hlt))⟩
  have hmem : ∀ node, node ∈ order ↔ node ∈ graph.nodes := fun node =>
    ⟨fun hin => ((hfree node).mp hin).1, fun hnode => hall _ node hnode (Nat.lt_succ_self _)⟩
  have hlength := ((perm_ext_iff_of_nodup hnodup graph.nodup).mpr hmem).length_eq
  exact ⟨order, by simp [topologicalOrder, ← hdef, hout, hlength], hnodup, hmem, hordered⟩

theorem mem_without {ignored : List (α × α)} {source target : α} :
    target ∈ (graph.without ignored).targets source ↔
      target ∈ graph.targets source ∧ (source, target) ∉ ignored := by
  simp [Graph.without]

theorem topologicalOrder_without (ignored : List (α × α)) :
    topologicalOrder graph ignored = topologicalOrder (graph.without ignored) [] := by
  simp [topologicalOrder, Graph.without]

theorem mem_component (h : Partition graph components) {index : Nat} {node : α} :
    node ∈ components.getD index ∅ ↔ node ∈ graph.nodes ∧ owner components node = index := by
  have hget : node ∈ components.getD index ∅ ↔
      ∃ hlt : index < components.length, node ∈ components[index] := by
    by_cases hlt : index < components.length <;> simp [List.getD, hlt]
  rw [hget]
  constructor
  · rintro ⟨hlt, hin⟩
    obtain ⟨_, hroot, hmem⟩ := h.component _ (getElem_mem hlt)
    refine ⟨reach_mem hroot ((hmem node).mp hin).1, (findIdx_eq hlt).mpr ⟨decide_eq_true hin, ?_⟩⟩
    exact fun j hj => decide_eq_false fun hin' => Finset.disjoint_left.mp
      (pairwise_iff_getElem.mp h.disjoint j index (hj.trans hlt) hlt hj) hin' hin
  · rintro ⟨hnode, rfl⟩
    obtain ⟨c, hc, hin⟩ := h.cover node hnode
    have hlt : owner components node < components.length :=
      findIdx_lt_length_of_exists ⟨c, hc, decide_eq_true hin⟩
    exact ⟨hlt, of_decide_eq_true (findIdx_getElem (w := hlt))⟩

theorem owner_eq_iff (h : Partition graph components) {x y : α} (hx : x ∈ graph.nodes)
    (hy : y ∈ graph.nodes) :
    owner components x = owner components y ↔ graph.Reach x y ∧ graph.Reach y x := by
  obtain ⟨_, hc, hxc⟩ := h.cover x hx
  obtain ⟨index, hlt, rfl⟩ := getElem_of_mem hc
  have hin : ∀ z, z ∈ components[index] ↔ z ∈ graph.nodes ∧ owner components z = index :=
    fun z => by rw [← mem_component h, List.getD, getElem?_eq_getElem hlt, Option.getD_some]
  obtain ⟨_, -, hroot⟩ := h.component _ hc
  obtain ⟨hto, hfrom⟩ := (hroot x).mp hxc
  have hy' : y ∈ components[index] ↔ owner components x = owner components y := by
    rw [hin, ((hin x).mp hxc).2]
    exact ⟨fun h => h.2.symm, fun h => ⟨hy, h.symm⟩⟩
  rw [← hy', hroot]
  exact ⟨fun h => ⟨hfrom.trans h.1, h.2.trans hto⟩, fun h => ⟨hto.trans h.1, h.2.trans hfrom⟩⟩

theorem mem_componentGraph (h : Partition graph components) {i j : Nat} :
    j ∈ (componentGraph graph components).targets i ↔ ∃ x ∈ graph.nodes,
      ∃ y ∈ graph.targets x, owner components x = i ∧ owner components y = j ∧ j ≠ i := by
  simp only [componentGraph, mem_flatMap, mem_filter, mem_map, decide_eq_true_eq]
  constructor
  · rintro ⟨x, ⟨hx, hi⟩, ⟨y, hy, hj⟩, hne, -⟩
    exact ⟨x, hx, y, hy, hi, hj, hne⟩
  · rintro ⟨x, hx, y, hy, hi, rfl, hne⟩
    obtain ⟨c, hc, hin⟩ := h.cover y (graph.closed x hx y hy)
    exact ⟨x, ⟨hx, hi⟩, ⟨y, hy, rfl⟩, hne, findIdx_lt_length_of_exists ⟨c, hc, decide_eq_true hin⟩⟩

open Classical in
/-- Edges between components lead to fewer nodes. -/
theorem componentGraph_rank (h : Partition graph components) :
    ∃ rank : Nat → Nat, ∀ i, ∀ j ∈ (componentGraph graph components).targets i, rank j < rank i := by
  refine ⟨fun i => (graph.nodes.toFinset.filter fun z =>
    ∃ x ∈ graph.nodes, owner components x = i ∧ graph.Reach x z).card, fun i j hedge => ?_⟩
  obtain ⟨x, hx, y, hy, hi, hj, hne⟩ := (mem_componentGraph h).mp hedge
  have hmem := graph.closed x hx y hy
  refine Finset.card_lt_card ((Finset.ssubset_iff_of_subset fun z hz => ?_).mpr ⟨x, ?_, fun hz => ?_⟩)
  · obtain ⟨hz, _, hy', hj', hreach⟩ := Finset.mem_filter.mp hz
    have hsame := ((owner_eq_iff h hmem hy').mp (hj.trans hj'.symm)).1
    exact Finset.mem_filter.mpr ⟨hz, x, hx, hi, .head hy (hsame.trans hreach)⟩
  · exact Finset.mem_filter.mpr ⟨mem_toFinset.mpr hx, x, hx, hi, .refl⟩
  · obtain ⟨-, _, hy', hj', hreach⟩ := Finset.mem_filter.mp hz
    have hback := ((owner_eq_iff h hmem hy').mp (hj.trans hj'.symm)).1.trans hreach
    exact hne (hj.symm.trans (((owner_eq_iff h hmem hx).mpr ⟨hback, .single hy⟩).trans hi))

/-- The components in a topological order, each with its nodes sorted. -/
theorem placed_spec {graph : Graph α} {components : List (Finset α)}
    (h : Partition graph components) :
    ∃ indices, topologicalOrder (componentGraph graph components) [] = .ok indices ∧
      (placed components indices).Perm graph.nodes ∧
      (placed components indices).Pairwise fun node later => later ∈ graph.targets node →
        graph.Reach node later ∧ graph.Reach later node := by
  obtain ⟨_, hrank⟩ := componentGraph_rank h
  obtain ⟨indices, hindices, hnodup, hmem, hordered⟩ := topologicalOrder_spec fun i _ => hrank i
  have hin : ∀ {index node}, node ∈ (components.getD index ∅).sort (· ≤ ·) ↔
      node ∈ graph.nodes ∧ owner components node = index :=
    fun {_ _} => by rw [Finset.mem_sort, mem_component h]
  have hplaced : ∀ node, node ∈ placed components indices ↔ node ∈ graph.nodes := by
    intro node
    simp only [placed, mem_flatMap, hin, hmem, componentGraph, mem_range]
    refine ⟨fun ⟨_, _, hnode, _⟩ => hnode, fun hnode => ⟨_, ?_, hnode, rfl⟩⟩
    obtain ⟨c, hc, hin⟩ := h.cover node hnode
    exact findIdx_lt_length_of_exists ⟨c, hc, decide_eq_true hin⟩
  refine ⟨indices, hindices, (perm_ext_iff_of_nodup (nodup_flatMap.mpr
    ⟨fun index _ => Finset.sort_nodup _ _, hnodup.imp fun hne =>
      disjoint_left.mpr fun _ hi hj => hne ((hin.mp hi).2.symm.trans (hin.mp hj).2)⟩)
      graph.nodup).mpr hplaced,
    pairwise_flatMap.mpr ⟨fun index _ => pairwise_of_forall_mem_list fun a ha b hb _ => ?_,
      hordered.imp fun hnot a ha b hb hedge => ?_⟩⟩
  all_goals
    obtain ⟨ha, hi⟩ := hin.mp ha
    obtain ⟨hb, hj⟩ := hin.mp hb
    refine (owner_eq_iff h ha hb).mp ?_
  · exact hi.trans hj.symm
  · exact not_not.mp fun hne => hnot ((mem_componentGraph h).mpr
      ⟨a, ha, b, hedge, hi, hj, fun heq => hne (hi.trans (heq ▸ hj.symm))⟩)

/-- The cyclic components are returned, once each and disjoint, and models come after those of other
components that they refer to. -/
theorem dump_graph_order :
    (∀ graph : Graph α, ∃ components, cyclicComponents graph = some components ∧
      components.Nodup ∧ components.Pairwise Disjoint ∧
      ∀ c, c ∈ components ↔ graph.IsComponent c ∧ graph.Cyclic c) ∧
    ∀ (related : String → List String) (models : List String), ∃ order,
      modelDependencyOrder related models = .ok order ∧ order.Perm models.dedup ∧
      ∀ before label after, order = before ++ label :: after → ∀ target ∈ models,
        target ∈ related label → ¬ ((modelGraph related models).Reach label target ∧
          (modelGraph related models).Reach target label) → target ∈ before := by
  constructor
  · intro graph
    obtain ⟨components, hcomponents, hdisjoint, hmem⟩ := cyclicComponents_spec graph
    refine ⟨components, hcomponents, hdisjoint.imp_of_mem fun hc _ hapart heq => ?_, hdisjoint, hmem⟩
    obtain ⟨⟨root, _, hroot⟩, -⟩ := (hmem _).mp hc
    have hin := (hroot root).mpr ⟨.refl, .refl⟩
    exact Finset.disjoint_left.mp hapart hin (heq ▸ hin)
  · intro related models
    obtain ⟨components, hcomponents, h⟩ := allComponents_spec (modelGraph related models)
    obtain ⟨indices, hindices, hperm, hordered⟩ := placed_spec h
    refine ⟨placed components indices, ?_, hperm, ?_⟩
    · simp only [modelDependencyOrder, hcomponents, Option.getD_some, hindices]
      rfl
    · intro before label after heq target htarget hrelated hapart
      have hne : target ≠ label := fun hsame => hapart (hsame ▸ ⟨.refl, .refl⟩)
      have hplace : target ∈ before ++ label :: after :=
        heq ▸ hperm.mem_iff.mpr (mem_dedup.mpr htarget)
      rcases mem_append.mp hplace with hplace | hplace
      · exact hplace
      · rw [heq] at hordered
        refine absurd ((pairwise_cons.mp (pairwise_append.mp hordered).2.1).1 target
          ((mem_cons.mp hplace).resolve_left hne) ?_) hapart
        simp [modelGraph, hrelated, htarget, hne]

end DumpGraph
end SpaceWorks
