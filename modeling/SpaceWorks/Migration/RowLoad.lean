import Mathlib.Data.Prod.Lex
import SpaceWorks.Migration.DumpOrder
import SpaceWorks.Library.Checked

/-!
# The load plan of a tenant dump

`plan_row_load` of `tenant_dump_graph.py`, with `_final_rows` and `expected_projected_rows` of
`tenant_dump_projection_load.py`. The order in which a set is iterated is a parameter.
-/

namespace SpaceWorks
namespace DumpGraph

open Checked
open List hiding Disjoint

universe u

/-- A concrete field of a model; a relation has a related model. -/
structure Field where
  column : String
  null : Bool
  related : Option String

abbrev Identity (κ : Type u) := String ×ₗ κ

abbrev Values (κ : Type u) := String → Option κ

structure SanitizedRow (κ : Type u) where
  label : String
  sourcePk : κ
  values : Values κ

structure DeferredForeignKey (κ : Type u) where
  identity : Identity κ
  column : String
  value : Option κ

structure RowLoadPlan (κ : Type u) where
  rows : List (SanitizedRow κ)
  deferredForeignKeys : List (DeferredForeignKey κ)

/-- The models' fields, a set order, and the arguments of `plan_row_load`. -/
structure Load (κ : Type u) where
  concreteFields : String → List Field
  distinct : ∀ label, ((concreteFields label).map Field.column).Nodup
  list : Finset (Identity κ) → List (Identity κ)
  nodup : ∀ s, (list s).Nodup
  mem : ∀ s identity, identity ∈ list s ↔ identity ∈ s
  resolvedPks : Identity κ → Option κ
  rows : List (SanitizedRow κ)

/-- The loops' variables; edges stay in their component. -/
structure Deferral (κ : Type u) where
  values : Identity κ → Values κ
  deferred : List (DeferredForeignKey κ) := []
  ignored : List (Identity κ × Identity κ) := []

variable {κ : Type u}

def SanitizedRow.identity (row : SanitizedRow κ) : Identity κ := toLex (row.label, row.sourcePk)

def Load.identities (load : Load κ) : List (Identity κ) := load.rows.map (·.identity)

def Load.fields (load : Load κ) (source : Identity κ) : List Field :=
  load.concreteFields (ofLex source).1

variable [LinearOrder κ]

/-- The values with which a row comes in. -/
def Load.values (load : Load κ) (source : Identity κ) : Values κ :=
  ((load.rows.find? (·.identity = source)).map (·.values)).getD fun _ => none

/-- The row that a foreign key names, after its value has been mapped. -/
def Load.target (load : Load κ) (source : Identity κ) (field : Field) : Option (Identity κ) :=
  match field.related, load.values source field.column with
  | some label, some value =>
    some (toLex (label, (load.resolvedPks (toLex (label, value))).getD value))
  | _, _ => none

/-- A field's value as in `expected_projected_rows`. -/
def Load.mapped (load : Load κ) (source : Identity κ) (field : Field) : Option κ :=
  (load.target source field).elim (load.values source field.column) fun target =>
    some (ofLex target).2

/-- The values of a row of `rewritten`. -/
def Load.rewritten (load : Load κ) (source : Identity κ) : Values κ := fun column =>
  ((load.fields source).find? (·.column = column)).elim (load.values source column)
    (load.mapped source)

def Load.edgeFields (load : Load κ) (source target : Identity κ) : List Field :=
  (load.fields source).filter (load.target source · = some target)

def Load.dependencies (load : Load κ) : Graph (Identity κ) where
  nodes := load.identities.dedup
  targets source := load.list (((load.fields source).filterMap (load.target source)).toFinset.filter
    (· ∈ load.identities))
  nodup := nodup_dedup _
  closed _ _ _ h := mem_dedup.mpr (Finset.mem_filter.mp ((load.mem _ _).mp h)).2

/-- The turns of the loops over the edges inside the components. -/
def Load.edges (load : Load κ) (components : List (Finset (Identity κ))) :
    List (Finset (Identity κ) × Identity κ × Identity κ) :=
  components.flatMap fun component => (load.list component).flatMap fun source =>
    (load.list ((load.dependencies.targets source).toFinset ∩ component)).map
      fun target => (component, source, target)

/-- Foreign keys are deferred, and edges ignored. -/
def Deferral.defer (s : Deferral κ) (keys : List (Identity κ × String))
    (ignored : List (Identity κ × Identity κ)) : Deferral κ where
  values identity column := if (identity, column) ∈ keys then none else s.values identity column
  deferred := s.deferred ++ keys.map fun key => ⟨key.1, key.2, s.values key.1 key.2⟩
  ignored := s.ignored ++ ignored

def Load.deferEdge (load : Load κ) (s : Deferral κ)
    (edge : Finset (Identity κ) × Identity κ × Identity κ) : Except String (Deferral κ) := do
  let (component, source, target) := edge
  let fields := load.edgeFields source target
  require (∀ field ∈ fields, field.null = true)
    ("Lane D incoming rows contain a non-nullable FK cycle: " ++
      ", ".intercalate (sorted ((load.list component).map fun identity => (ofLex identity).1)))
  return s.defer (fields.map fun field => (source, field.column)) [(source, target)]

def planRowLoad (load : Load κ) : Except String (RowLoadPlan κ) := do
  require load.identities.Nodup "Lane D input contains a duplicate row identity."
  let components := (cyclicComponents load.dependencies).getD []
  let s ← (load.edges components).foldlM load.deferEdge { values := load.rewritten }
  let order ← topologicalOrder load.dependencies s.ignored
  return {
    rows := order.map fun identity => ⟨(ofLex identity).1, (ofLex identity).2, s.values identity⟩
    deferredForeignKeys := s.deferred }

/-- The values of a row after an update. -/
def DeferredForeignKey.apply (row : Identity κ) (values : Values κ) (update : DeferredForeignKey κ) :
    Values κ :=
  if update.identity = row then Function.update values update.column update.value else values

def RowLoadPlan.final (plan : RowLoadPlan κ) (row : SanitizedRow κ) : Values κ :=
  plan.deferredForeignKeys.foldl (DeferredForeignKey.apply row.identity) row.values

variable {load : Load κ} {components : List (Finset (Identity κ))} {source target : Identity κ}
  {field : Field}

theorem mem_edgeFields : field ∈ load.edgeFields source target ↔
    field ∈ load.fields source ∧ load.target source field = some target := by
  simp [Load.edgeFields]

theorem mem_dependencies : target ∈ load.dependencies.targets source ↔
    target ∈ load.identities ∧ ∃ field, field ∈ load.edgeFields source target := by
  simp [Load.dependencies, load.mem, mem_edgeFields, and_comm]

theorem rewritten_field (h : field ∈ load.fields source) :
    load.rewritten source field.column = load.mapped source field := by
  have hsome : ((load.fields source).find? (·.column = field.column)).isSome :=
    find?_isSome.mpr ⟨field, h, decide_eq_true rfl⟩
  obtain ⟨found, hfound⟩ := Option.isSome_iff_exists.mp hsome
  have heq : found = field := inj_on_of_nodup_map (load.distinct _)
    (mem_of_find?_eq_some hfound) h (by simpa using find?_some hfound)
  rw [Load.rewritten, hfound, heq, Option.elim_some]

theorem mem_edges {component : Finset (Identity κ)} :
    (component, source, target) ∈ load.edges components ↔ component ∈ components ∧
      source ∈ component ∧ target ∈ load.dependencies.targets source ∧ target ∈ component := by
  simp only [Load.edges, mem_flatMap, mem_map, load.mem, Finset.mem_inter, mem_toFinset]
  constructor
  · rintro ⟨_, hcomponent, _, hsource, _, htarget, heq⟩
    cases heq
    exact ⟨hcomponent, hsource, htarget⟩
  · rintro ⟨hcomponent, hsource, htarget⟩
    exact ⟨_, hcomponent, _, hsource, _, htarget, rfl⟩

theorem exists_mem_edges (hcyclic : ∀ c, c ∈ components ↔
      load.dependencies.IsComponent c ∧ load.dependencies.Cyclic c) :
    (∃ c, (c, source, target) ∈ load.edges components) ↔ source ∈ load.dependencies.nodes ∧
      target ∈ load.dependencies.targets source ∧ load.dependencies.Reach target source := by
  constructor
  · rintro ⟨c, hedge⟩
    obtain ⟨hc, hsource, hedge, htarget⟩ := mem_edges.mp hedge
    obtain ⟨⟨_, hmem, hroot⟩, -⟩ := (hcyclic c).mp hc
    obtain ⟨hto, _⟩ := (hroot source).mp hsource
    exact ⟨reach_mem hmem hto, hedge, ((hroot target).mp htarget).2.trans hto⟩
  · rintro ⟨hsource, hedge, hback⟩
    obtain ⟨c, hc, hin⟩ := exists_component hsource
    have hself : source ∈ c := (hin source).mpr ⟨.refl, .refl⟩
    have htarget : target ∈ c := (hin target).mpr ⟨.single hedge, hback⟩
    have hcycle : load.dependencies.Cyclic c := by
      by_cases heq : source = target
      · exact .inr ⟨source, hself, heq ▸ hedge⟩
      · exact .inl (Finset.one_lt_card.mpr ⟨source, hself, target, htarget, heq⟩)
    exact ⟨c, mem_edges.mpr ⟨(hcyclic c).mpr ⟨hc, hcycle⟩, hself, hedge, htarget⟩⟩

/-- The foreign keys of an edge, by their columns. -/
def Load.keysOf (load : Load κ) (edge : Finset (Identity κ) × Identity κ × Identity κ) :
    List (Identity κ × String) :=
  (load.edgeFields edge.2.1 edge.2.2).map fun field => (edge.2.1, field.column)

theorem nodup_keys (hdisjoint : components.Pairwise Disjoint) :
    ((load.edges components).flatMap load.keysOf).Nodup := by
  have hedges : (load.edges components).Pairwise fun edge edge' => edge.2 ≠ edge'.2 := by
    refine pairwise_flatMap.mpr ⟨fun component _ => pairwise_flatMap.mpr ⟨fun source _ =>
      pairwise_map.mpr ((load.nodup _).imp fun hne heq => hne (Prod.mk.inj heq).2),
        (load.nodup _).imp fun hne => ?_⟩, hdisjoint.imp fun hapart => ?_⟩
    · simp only [mem_map]
      rintro _ ⟨_, -, rfl⟩ _ ⟨_, -, rfl⟩ heq
      exact hne (Prod.mk.inj heq).1
    · simp only [mem_flatMap, mem_map, load.mem]
      rintro _ ⟨_, hin, _, -, rfl⟩ _ ⟨_, hin', _, -, rfl⟩ heq
      exact Finset.disjoint_left.mp hapart hin ((Prod.mk.inj heq).1 ▸ hin')
  refine nodup_flatMap.mpr ⟨fun edge _ => ?_, hedges.imp fun {edge edge'} hne =>
    disjoint_left.mpr fun key hkey hkey' => hne ?_⟩
  · have hcolumns := (load.distinct _).sublist ((filter_sublist (p := (load.target edge.2.1 · =
      some edge.2.2)) (l := load.fields edge.2.1)).map _)
    have hmap := hcolumns.map (Prod.mk_right_injective edge.2.1)
    rwa [List.map_map] at hmap
  · obtain ⟨_, hfield, rfl⟩ := mem_map.mp hkey
    obtain ⟨_, hfield', heq⟩ := mem_map.mp hkey'
    obtain ⟨hsource, hcolumn⟩ := Prod.mk.inj heq
    rw [mem_edgeFields] at hfield
    rw [hsource, mem_edgeFields] at hfield'
    cases inj_on_of_nodup_map (load.distinct _) hfield'.1 hfield.1 hcolumn
    exact Prod.ext hsource.symm (Option.some.inj (hfield.2.symm.trans hfield'.2))

section Deferring

variable {s t : Deferral κ}

theorem defer_defer {keys more : List (Identity κ × String)}
    {ignored ignored' : List (Identity κ × Identity κ)} (h : (keys ++ more).Nodup) :
    (s.defer keys ignored).defer more ignored' = s.defer (keys ++ more) (ignored ++ ignored') := by
  have hvalue : ∀ key ∈ more, (s.defer keys ignored).values key.1 key.2 = s.values key.1 key.2 :=
    fun key hkey => if_neg fun hin => (nodup_append.mp h).2.2 _ hin _ hkey rfl
  simp only [Deferral.defer, Deferral.mk.injEq, map_append, mem_append, append_assoc]
  refine ⟨funext₂ fun identity column => ?_, congrArg _ (congrArg _ ?_), trivial⟩
  · by_cases hin : (identity, column) ∈ keys
    · simp only [hin, true_or, if_true, ite_self]
    · simp only [hin, false_or, if_false]
  · exact map_congr_left fun key hkey =>
      congrArg (DeferredForeignKey.mk key.1 key.2) (hvalue key hkey)

theorem defer_edges {l : List (Finset (Identity κ) × Identity κ × Identity κ)}
    (h : (l.flatMap load.keysOf).Nodup) :
    l.foldlM load.deferEdge s = .ok t ↔
      (∀ edge ∈ l, ∀ field ∈ load.edgeFields edge.2.1 edge.2.2, field.null = true) ∧
        t = s.defer (l.flatMap load.keysOf) (l.map (·.2)) := by
  induction l generalizing s with
  | nil =>
    have hnone : s.defer [] [] = s := by simp [Deferral.defer]
    rw [foldlM_nil, pure_ok, flatMap_nil, map_nil, hnone]
    exact ⟨fun h => ⟨nofun, h.symm⟩, fun h => h.2.symm⟩
  | cons edge _ ih =>
    rw [flatMap_cons] at h ⊢
    have hedge : ∀ t, load.deferEdge s edge = .ok t ↔
        (∀ field ∈ load.edgeFields edge.2.1 edge.2.2, field.null = true) ∧
          t = s.defer (load.keysOf edge) [edge.2] := fun t => by
      simp only [Load.deferEdge, bind_ok, require_ok, pure_ok, exists_const]
      exact and_congr_right fun _ => eq_comm
    simp only [foldlM_cons, bind_ok, hedge, ih (nodup_append.mp h).2.1, forall_mem_cons]
    constructor
    · rintro ⟨_, ⟨hnull, rfl⟩, hnulls, rfl⟩
      exact ⟨⟨hnull, hnulls⟩, defer_defer h⟩
    · rintro ⟨⟨hnull, hnulls⟩, rfl⟩
      exact ⟨_, ⟨hnull, rfl⟩, hnulls, by rw [defer_defer h]; rfl⟩

theorem foldl_apply {row : Identity κ} {initial values : Values κ} {l : List (DeferredForeignKey κ)}
    (hvalues : ∀ update ∈ l, update.identity = row → update.value = initial update.column)
    (hrest : ∀ column, values column = initial column ∨
      ∃ update ∈ l, update.identity = row ∧ update.column = column) :
    l.foldl (DeferredForeignKey.apply row) values = initial := by
  induction l generalizing values with
  | nil => exact funext fun column => (hrest column).resolve_right (by simp)
  | cons update _ ih =>
    refine ih (fun other h => hvalues other (.tail _ h)) fun column => ?_
    by_cases hset : update.identity = row ∧ update.column = column
    · obtain ⟨hrow, rfl⟩ := hset
      rw [DeferredForeignKey.apply, if_pos hrow, Function.update_self]
      exact .inl (hvalues update (.head _) hrow)
    · have hkept : update.apply row values column = values column := by
        rw [DeferredForeignKey.apply]
        split
        · next hrow => exact Function.update_of_ne (fun h => hset ⟨hrow, h.symm⟩) _ _
        · rfl
      rw [hkept]
      refine (hrest column).imp id fun ⟨other, hother, h⟩ => ?_
      rcases mem_cons.mp hother with rfl | hother
      · exact absurd h hset
      · exact ⟨other, hother, h⟩

end Deferring

theorem exists_rank {α : Type u} (graph : Graph α) :
    ∃ rank : α → Nat, ∀ node ∈ graph.nodes, ∀ target ∈ graph.targets node,
      ¬ graph.Reach target node → rank target < rank node := by
  classical
  refine ⟨fun node => (graph.nodes.toFinset.filter (graph.Reach node)).card,
    fun node hnode target hedge hback => Finset.card_lt_card
      ((Finset.ssubset_iff_of_subset fun z hz => ?_).mpr ⟨node, ?_, fun hself => ?_⟩)⟩
  · obtain ⟨hz, hreach⟩ := Finset.mem_filter.mp hz
    exact Finset.mem_filter.mpr ⟨hz, .head hedge hreach⟩
  · exact Finset.mem_filter.mpr ⟨mem_toFinset.mpr hnode, .refl⟩
  · exact hback (Finset.mem_filter.mp hself).2

theorem exists_order (hcyclic : ∀ c, c ∈ components ↔
      load.dependencies.IsComponent c ∧ load.dependencies.Cyclic c) :
    ∃ order, topologicalOrder load.dependencies ((load.edges components).map (·.2)) = .ok order ∧
      order.Perm load.dependencies.nodes ∧
      ∀ before source after, order = before ++ source :: after → ∀ target ∈
        load.dependencies.targets source, (source, target) ∉ (load.edges components).map (·.2) →
          target ∈ before := by
  obtain ⟨ignored, hignored⟩ : ∃ ignored, ignored = (load.edges components).map (·.2) := ⟨_, rfl⟩
  obtain ⟨rank, hrank⟩ := exists_rank load.dependencies
  have hlower : ∀ node ∈ (load.dependencies.without ignored).nodes,
      ∀ target ∈ (load.dependencies.without ignored).targets node, rank target < rank node := by
    intro node hnode target htarget
    obtain ⟨hedge, hkept⟩ := mem_without.mp htarget
    refine hrank node hnode target hedge fun hback => hkept ?_
    obtain ⟨_, hc⟩ := (exists_mem_edges hcyclic).mpr ⟨hnode, hedge, hback⟩
    exact hignored ▸ mem_map_of_mem hc
  obtain ⟨order, horder, hnodup, hmem, hpairs⟩ := topologicalOrder_spec hlower
  rw [← hignored]
  refine ⟨order, (topologicalOrder_without ignored).trans horder,
    (perm_ext_iff_of_nodup hnodup load.dependencies.nodup).mpr hmem,
    fun before source after heq target hedge hkept => ?_⟩
  have hedge' : target ∈ (load.dependencies.without ignored).targets source :=
    mem_without.mpr ⟨hedge, hkept⟩
  have hsource := (hmem source).mp (heq ▸ mem_append_right _ (.head _))
  have htarget : target ∈ before ++ source :: after :=
    heq ▸ (hmem target).mpr (load.dependencies.closed source hsource target hedge)
  rcases mem_append.mp htarget with htarget | htarget
  · exact htarget
  · rcases mem_cons.mp htarget with rfl | htarget
    · exact absurd (hlower _ hsource _ hedge') (Nat.lt_irrefl _)
    · rw [heq] at hpairs
      exact absurd hedge' ((pairwise_cons.mp (pairwise_append.mp hpairs).2.1).1 target htarget)

def Load.deferrals (load : Load κ) (components : List (Finset (Identity κ))) :
    List (Identity κ × String) :=
  (load.edges components).flatMap load.keysOf

/-- The row of an identity as it is planned. -/
def Load.planned (load : Load κ) (components : List (Finset (Identity κ))) (source : Identity κ) :
    SanitizedRow κ where
  label := (ofLex source).1
  sourcePk := (ofLex source).2
  values column := if (source, column) ∈ load.deferrals components then none
    else load.rewritten source column

theorem planRowLoad_ok (hnodup : load.identities.Nodup)
    (hcomponents : cyclicComponents load.dependencies = some components)
    (hkeys : (load.deferrals components).Nodup) {plan : RowLoadPlan κ} :
    planRowLoad load = .ok plan ↔
      (∀ edge ∈ load.edges components, ∀ field ∈ load.edgeFields edge.2.1 edge.2.2,
        field.null = true) ∧
      ∃ order, topologicalOrder load.dependencies ((load.edges components).map (·.2)) = .ok order ∧
        plan = ⟨order.map (load.planned components), (load.deferrals components).map fun key =>
          ⟨key.1, key.2, load.rewritten key.1 key.2⟩⟩ := by
  simp only [planRowLoad, hcomponents, Option.getD_some, bind_ok, require_ok, defer_edges hkeys,
    hnodup, pure_ok, exists_const, true_and]
  constructor
  · rintro ⟨_, ⟨hnull, rfl⟩, order, horder, rfl⟩
    exact ⟨hnull, order, horder, rfl⟩
  · rintro ⟨hnull, order, horder, rfl⟩
    exact ⟨_, ⟨hnull, rfl⟩, order, horder, rfl⟩

/-- A key that a planned row still has belongs to no ignored edge. -/
theorem planned_key (hfield : field ∈ load.fields source) {label : String} {value : κ}
    (hrelated : field.related = some label)
    (hkept : (load.planned components source).values field.column = some value)
    (hin : toLex (label, value) ∈ load.identities) :
    toLex (label, value) ∈ load.dependencies.targets source ∧
      (source, toLex (label, value)) ∉ (load.edges components).map (·.2) := by
  dsimp only [Load.planned] at hkept
  split at hkept
  · cases hkept
  · next hout =>
    have hkey : load.target source field = some (toLex (label, value)) := by
      rw [rewritten_field hfield] at hkept
      cases hvalue : load.values source field.column <;> simp_all [Load.mapped, Load.target]
    have hfield := mem_edgeFields.mpr ⟨hfield, hkey⟩
    refine ⟨mem_dependencies.mpr ⟨hin, field, hfield⟩, fun hignored => hout ?_⟩
    obtain ⟨edge, hedge, heq⟩ := mem_map.mp hignored
    refine mem_flatMap.mpr ⟨edge, hedge, ?_⟩
    rw [Load.keysOf, heq]
    exact mem_map_of_mem hfield

theorem values_of_mem (hnodup : load.identities.Nodup) {row : SanitizedRow κ}
    (hrow : row ∈ load.rows) : load.values row.identity = row.values := by
  have hsome : (load.rows.find? (·.identity = row.identity)).isSome :=
    find?_isSome.mpr ⟨row, hrow, decide_eq_true rfl⟩
  obtain ⟨found, hfound⟩ := Option.isSome_iff_exists.mp hsome
  have heq : found = row := inj_on_of_nodup_map hnodup (mem_of_find?_eq_some hfound) hrow
    (by simpa using find?_some hfound)
  rw [Load.values, hfound, heq]
  rfl

/-- A plan is made exactly when every cycle has a nullable key; it loads rows once, after what they
refer to, and its updates restore the rest, once each. -/
theorem row_load_planned (load : Load κ) :
    ((∃ plan, planRowLoad load = .ok plan) ↔ load.identities.Nodup ∧
      ∀ source ∈ load.identities, ∀ field ∈ load.fields source, field.null = false →
        ∀ target ∈ load.identities, load.target source field = some target →
          ¬ load.dependencies.Reach target source) ∧
    ∀ plan, planRowLoad load = .ok plan →
      (plan.rows.map (·.identity)).Perm load.identities ∧
      (∀ before row after, plan.rows = before ++ row :: after →
        ∀ field ∈ load.fields row.identity, ∀ label value, field.related = some label →
          row.values field.column = some value → toLex (label, value) ∈ load.identities →
            toLex (label, value) ∈ before.map (·.identity)) ∧
      (plan.deferredForeignKeys.map fun update => (update.identity, update.column)).Nodup ∧
      (∀ row ∈ load.rows, load.values row.identity = row.values) ∧
      ∀ row ∈ plan.rows, ∀ field ∈ load.fields row.identity,
        plan.final row field.column = load.mapped row.identity field := by
  by_cases hnodup : load.identities.Nodup
  case neg =>
    have hrefused : ∀ plan, planRowLoad load ≠ .ok plan := fun plan h => by
      simp only [planRowLoad, bind_ok, require_ok] at h
      obtain ⟨-, hin, -⟩ := h
      exact hnodup hin
    exact ⟨⟨fun h => h.elim fun plan h => absurd h (hrefused plan), fun h => absurd h.1 hnodup⟩,
      fun plan h => absurd h (hrefused plan)⟩
  obtain ⟨components, hcomponents, hdisjoint, hcyclic⟩ := cyclicComponents_spec load.dependencies
  have hkeys : (load.deferrals components).Nodup := nodup_keys hdisjoint
  have hok : ∀ plan, planRowLoad load = .ok plan ↔ _ := fun _ =>
    planRowLoad_ok hnodup hcomponents hkeys
  obtain ⟨order, horder, hperm, hearlier⟩ := exists_order hcyclic
  refine ⟨⟨fun h => ⟨hnodup, fun source hsource field hfield hnull target htarget hkey hback => ?_⟩,
    fun h => ⟨_, (hok _).mpr ⟨?_, order, horder, rfl⟩⟩⟩, fun plan h => ?_⟩
  · obtain ⟨plan, h⟩ := h
    have hfield' := mem_edgeFields.mpr ⟨hfield, hkey⟩
    obtain ⟨_, hc⟩ := (exists_mem_edges hcyclic).mpr ⟨mem_dedup.mpr hsource,
      mem_dependencies.mpr ⟨htarget, field, hfield'⟩, hback⟩
    exact absurd (((hok plan).mp h).1 _ hc field hfield') (by simp [hnull])
  · rintro ⟨c, source, target⟩ hedge field hfield
    obtain ⟨hsource, hedge, hback⟩ := (exists_mem_edges hcyclic).mp ⟨c, hedge⟩
    obtain ⟨hfield, hkey⟩ := mem_edgeFields.mp hfield
    by_contra hnull
    exact h.2 source (mem_dedup.mp hsource) field hfield (Bool.eq_false_of_not_eq_true hnull) target
      (mem_dependencies.mp hedge).1 hkey hback
  · obtain ⟨-, order', horder', rfl⟩ := (hok plan).mp h
    obtain rfl : order = order' := by simpa using horder.symm.trans horder'
    have hids : ∀ l : List (Identity κ), (l.map (load.planned components)).map (·.identity) = l :=
      fun l => List.map_map.trans (map_id _)
    refine ⟨?_, fun before row after heq field hfield label value hrelated hvalue hin => ?_, ?_,
      fun row hrow => values_of_mem hnodup hrow, fun row hrow field hfield => ?_⟩
    · rw [hids, ← hnodup.dedup]
      exact hperm
    · obtain ⟨earlier, _, rfl, rfl, hrest⟩ := map_eq_append_iff.mp heq
      obtain ⟨_, later, rfl, rfl, -⟩ := map_eq_cons_iff.mp hrest
      obtain ⟨hedge, hkept⟩ := planned_key hfield hrelated hvalue hin
      rw [hids]
      exact hearlier earlier _ later rfl _ hedge hkept
    · rw [List.map_map]
      exact (map_id _).symm ▸ hkeys
    · obtain ⟨source, -, rfl⟩ := mem_map.mp hrow
      refine (congrFun (foldl_apply (fun update hupdate hrow' => ?_) fun column => ?_) _).trans
        (rewritten_field hfield)
      · obtain ⟨key, -, rfl⟩ := mem_map.mp hupdate
        exact congrArg (load.rewritten · key.2) hrow'
      · by_cases hout : (source, column) ∈ load.deferrals components
        · exact .inr ⟨_, mem_map_of_mem hout, rfl, rfl⟩
        · exact .inl (if_neg hout)

end DumpGraph
end SpaceWorks
