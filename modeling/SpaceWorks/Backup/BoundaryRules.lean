import SpaceWorks.Backup.Projection
import SpaceWorks.Library.Rounds

/-!
# The boundary rules of the readable main

`table_rules` and `boundary_rules` of `main_projection_registry.py`.  A lookup path is a list of
fields; the empty path is the primary key.
-/

namespace SpaceWorks
namespace Mains

open Checked Function List
open Slices (Value Row Database)

section

inductive RowDisposition where
  | retainGlobal
  | copyToSlice
  | omitOperational
  deriving DecidableEq

inductive BoundaryDisposition where
  | dropRowToSlice
  | projectNullToSlice
  deriving DecidableEq

/-- A concrete field, with the model it refers to. -/
structure Field where
  name : String
  target : Option String
  null : Bool

structure TableRule where
  label : String
  fields : List Field
  disposition : RowDisposition
  predicate : Option (List String)

def makerspace : String := "makerspaces.Makerspace"

/-- `table_rules` and `PROJECT_GLOBAL_BOUNDARIES`; makerspaces own themselves. -/
structure Registry where
  rules : List TableRule
  projectGlobalBoundaries : List (String × String)
  labels : (rules.map TableRule.label).Nodup
  names : ∀ rule ∈ rules, (rule.fields.map Field.name).Nodup
  predicates : ∀ rule ∈ rules, rule.predicate.isSome = true ↔ rule.disposition = .copyToSlice
  sovereigns : ∃ rule ∈ rules, rule.label = makerspace ∧ rule.predicate = some []

structure BoundaryRule where
  sourceRule : TableRule
  field : Field
  targetRule : TableRule
  targetPaths : List (List String)
  disposition : BoundaryDisposition

variable (registry : Registry)

def isCanonicalOwner (rule : TableRule) (field : Field) : Bool :=
  rule.predicate.any fun path => path.head? = some field.name

def boundaryDisposition (rule : TableRule) (field : Field) : BoundaryDisposition :=
  if rule.disposition = .retainGlobal then
    if registry.projectGlobalBoundaries.contains (rule.label, field.name) then .projectNullToSlice
    else .dropRowToSlice
  else if field.null then .projectNullToSlice
  else .dropRowToSlice

/-- The owner paths of each model, none for a model that has no entry. -/
abbrev OwnerPaths := String → List (List String)

def ruleOf (label : String) : Option TableRule :=
  registry.rules.find? fun rule => rule.label = label

def slicedPaths : OwnerPaths := fun label =>
  ((ruleOf registry label).bind TableRule.predicate).toList

def targetPaths (paths : OwnerPaths) (field : Field) : List (List String) :=
  (field.target.map paths).getD []

def entries : List (TableRule × Field) :=
  registry.rules.flatMap fun rule => rule.fields.map fun field => (rule, field)

/-- The field hands owner paths on, to a table without or from the makerspaces. -/
def Hands (paths : OwnerPaths) (rule : TableRule) (field : Field) : Prop :=
  targetPaths paths field ≠ [] ∧ isCanonicalOwner rule field = false ∧
    boundaryDisposition registry rule field = .dropRowToSlice ∧
    ¬ (paths rule.label ≠ [] ∧ field.target ≠ some makerspace)

instance (paths : OwnerPaths) (rule : TableRule) (field : Field) :
    Decidable (Hands registry paths rule field) := by
  unfold Hands
  infer_instance

def prefixed (paths : OwnerPaths) (field : Field) : List (List String) :=
  (targetPaths paths field).map (field.name :: ·)

def visit (paths : OwnerPaths) (entry : TableRule × Field) : Option OwnerPaths :=
  if Hands registry paths entry.1 entry.2 ∧ ¬ prefixed paths entry.2 ⊆ paths entry.1.label then
    some (update paths entry.1.label (paths entry.1.label ++ prefixed paths entry.2))
  else none

/-- The result of the loop `while changed` within `rounds` rounds. -/
def ownerPaths (rounds : Nat) : Option OwnerPaths :=
  Rounds.loop (visit registry) (entries registry) rounds (slicedPaths registry)

def boundaryOf (paths : OwnerPaths) (entry : TableRule × Field) : Option BoundaryRule :=
  (entry.2.target.bind (ruleOf registry)).bind fun targetRule =>
    if paths targetRule.label ≠ [] ∧ isCanonicalOwner entry.1 entry.2 = false then
      some {
        sourceRule := entry.1
        field := entry.2
        targetRule := targetRule
        targetPaths := paths targetRule.label
        disposition := boundaryDisposition registry entry.1 entry.2 }
    else none

def boundariesOf (paths : OwnerPaths) : List BoundaryRule :=
  (entries registry).filterMap (boundaryOf registry paths)

/-- The boundaries that set a field of a global table to null. -/
def projectedGlobal (boundaries : List BoundaryRule) : List BoundaryRule :=
  boundaries.filter fun rule =>
    rule.sourceRule.disposition = .retainGlobal && rule.disposition = .projectNullToSlice

inductive Refusal where
  | cannotNull (label fieldName : String)
  | boundaryDrift
  | deferredConstraint

/-- The checks of the registry that `boundary_rules` makes. -/
def checkGlobal (boundaries : List BoundaryRule) : Except Refusal Unit :=
  let projected := projectedGlobal boundaries
  match projected.find? fun rule => !rule.field.null with
  | some rule => .error (.cannotNull rule.sourceRule.label rule.field.name)
  | none =>
    let discovered := projected.map fun rule => (rule.sourceRule.label, rule.field.name)
    require (discovered ⊆ registry.projectGlobalBoundaries ∧
      registry.projectGlobalBoundaries ⊆ discovered) .boundaryDrift

def boundaryRules (rounds : Nat) : Option (Except Refusal (List BoundaryRule)) :=
  (ownerPaths registry rounds).map fun paths => do
    checkGlobal registry (boundariesOf registry paths)
    pure (boundariesOf registry paths)

variable {registry : Registry} {paths after : OwnerPaths} {entry : TableRule × Field}

theorem visit_eq_some :
    visit registry paths entry = some after ↔
      (Hands registry paths entry.1 entry.2 ∧ ¬ prefixed paths entry.2 ⊆ paths entry.1.label) ∧
      update paths entry.1.label (paths entry.1.label ++ prefixed paths entry.2) =
        after := by
  unfold visit
  split
  · rename_i h
    simp [h]
  · rename_i h
    simp [h]

theorem mem_entries {rule : TableRule} {field : Field} :
    (rule, field) ∈ entries registry ↔ rule ∈ registry.rules ∧ field ∈ rule.fields := by
  simp only [entries, mem_flatMap, mem_map, Prod.mk.injEq]
  constructor
  · rintro ⟨_, hother, _, hnamed, rfl, rfl⟩
    exact ⟨hother, hnamed⟩
  · rintro ⟨hrule, hfield⟩
    exact ⟨rule, hrule, field, hfield, rfl, rfl⟩

theorem subset_visit (hvisit : visit registry paths entry = some after) (label : String) :
    paths label ⊆ after label := by
  obtain ⟨_, rfl⟩ := visit_eq_some.mp hvisit
  by_cases hlabel : label = entry.1.label
  · subst hlabel
    simp
  · simp [update_of_ne hlabel]

theorem ruleOf_eq_some {label : String} {rule : TableRule} :
    ruleOf registry label = some rule ↔ rule ∈ registry.rules ∧ rule.label = label := by
  constructor
  · intro h
    exact ⟨mem_of_find?_eq_some h, by simpa using find?_some h⟩
  · rintro ⟨hrule, rfl⟩
    cases hfound : ruleOf registry rule.label with
    | none =>
      have hnone := find?_eq_none.mp hfound rule hrule
      simp at hnone
    | some other =>
      have hother := mem_of_find?_eq_some hfound
      have hlabel : other.label = rule.label := by simpa using find?_some hfound
      rw [inj_on_of_nodup_map registry.labels hother hrule hlabel]

def Ruled (registry : Registry) (paths : OwnerPaths) : Prop :=
  ∀ label, paths label ≠ [] → ∃ rule, ruleOf registry label = some rule

theorem ruled_visit (hentry : entry ∈ entries registry) (h : Ruled registry paths)
    (hvisit : visit registry paths entry = some after) : Ruled registry after := by
  obtain ⟨_, rfl⟩ := visit_eq_some.mp hvisit
  intro label hpaths
  by_cases hlabel : label = entry.1.label
  · exact ⟨entry.1, ruleOf_eq_some.mpr ⟨(mem_entries.mp hentry).1, hlabel.symm⟩⟩
  · rw [update_of_ne hlabel] at hpaths
    exact h label hpaths

theorem ruled_ownerPaths {rounds : Nat} (h : ownerPaths registry rounds = some paths) :
    Ruled registry paths := by
  refine Rounds.loop_preserves
    (fun _ hruled _ hentry _ hvisit => ruled_visit hentry hruled hvisit) ?_ h
  intro other hother
  cases hrule : ruleOf registry other with
  | none => simp [slicedPaths, hrule] at hother
  | some rule => exact ⟨rule, rfl⟩

theorem sliced_makerspace : slicedPaths registry makerspace = [[]] := by
  obtain ⟨_, hrule, hlabel, hpredicate⟩ := registry.sovereigns
  simp [slicedPaths, ruleOf_eq_some.mpr ⟨hrule, hlabel⟩, hpredicate]

theorem sliced_ownerPaths {rounds : Nat} (h : ownerPaths registry rounds = some paths)
    (label : String) : slicedPaths registry label ⊆ paths label :=
  Rounds.loop_preserves (I := fun paths => slicedPaths registry label ⊆ paths label)
    (fun _ hsliced _ _ _ hvisit => List.Subset.trans hsliced (subset_visit hvisit label))
    (List.Subset.refl _) h

end

section Termination

/-- A makerspace is dropped with the makerspace it refers to. -/
def SelfOwned (registry : Registry) : Prop :=
  ∃ rule ∈ registry.rules, rule.label = makerspace ∧ ∃ field ∈ rule.fields,
    field.target = some makerspace ∧ boundaryDisposition registry rule field = .dropRowToSlice

variable {registry : Registry} {paths after : OwnerPaths} {entry : TableRule × Field}

theorem rule_makerspace {rule : TableRule} (hrule : rule ∈ registry.rules)
    (hlabel : rule.label = makerspace) (field : Field) : isCanonicalOwner rule field = false := by
  obtain ⟨_, howner, hown, hpredicate⟩ := registry.sovereigns
  rw [inj_on_of_nodup_map registry.labels hrule howner (hlabel.trans hown.symm)]
  simp [isCanonicalOwner, hpredicate]

/-- Tables without an owner path, and references that hand none on. -/
def pending (registry : Registry) (paths : OwnerPaths) : Nat :=
  registry.rules.countP (fun rule => decide (paths rule.label = [])) +
    (entries registry).countP fun entry =>
      decide (entry.2.target = some makerspace ∧ [entry.2.name] ∉ paths entry.1.label)

theorem countP_lt {α : Type} {l : List α} {p q : α → Bool} {x : α} (hx : x ∈ l)
    (hle : ∀ y ∈ l, p y → q y) (hq : q x = true) (hp : p x = false) :
    l.countP p < l.countP q := by
  induction l with
  | nil => cases hx
  | cons y l ih =>
    have hrest : ∀ z ∈ l, p z → q z := fun z hz => hle z (mem_cons_of_mem _ hz)
    have hmono := countP_mono_left hrest
    have hy := hle y mem_cons_self
    simp only [countP_cons]
    rcases mem_cons.mp hx with rfl | hmem
    · simp only [hp, hq, if_true, Bool.false_eq_true, if_false]
      omega
    · have hlt := ih hmem hrest
      cases hpy : p y with
      | true =>
        simp only [hy hpy, if_true]
        omega
      | false =>
        simp only [Bool.false_eq_true, if_false]
        omega

theorem pending_visit (hself : ¬ SelfOwned registry) (hentry : entry ∈ entries registry)
    (hmakerspace : paths makerspace = [[]]) (hvisit : visit registry paths entry = some after) :
    after makerspace = [[]] ∧ pending registry after < pending registry paths := by
  have hgrows := subset_visit hvisit
  obtain ⟨⟨⟨htargets, _, hdrops, hfree⟩, hnew⟩, rfl⟩ := visit_eq_some.mp hvisit
  obtain ⟨hrule, hfield⟩ := mem_entries.mp hentry
  have htables : ∀ rule ∈ registry.rules,
      decide (update paths entry.1.label
        (paths entry.1.label ++ prefixed paths entry.2) rule.label = []) = true →
      decide (paths rule.label = []) = true := by
    intro rule _ hempty
    rw [decide_eq_true_eq] at hempty ⊢
    have hsubset := hgrows rule.label
    rw [hempty] at hsubset
    exact subset_nil.mp hsubset
  have hreferences : ∀ other ∈ entries registry,
      decide (other.2.target = some makerspace ∧ [other.2.name] ∉ update paths
        entry.1.label (paths entry.1.label ++ prefixed paths entry.2) other.1.label) = true →
      decide (other.2.target = some makerspace ∧ [other.2.name] ∉ paths other.1.label) = true := by
    intro other _ hwaits
    rw [decide_eq_true_eq] at hwaits ⊢
    exact ⟨hwaits.1, fun hmem => hwaits.2 (hgrows _ hmem)⟩
  by_cases hfirst : paths entry.1.label = []
  · have hother : makerspace ≠ entry.1.label := by
      rintro hsame
      rw [← hsame, hmakerspace] at hfirst
      cases hfirst
    refine ⟨by rw [update_of_ne hother, hmakerspace], ?_⟩
    have hless := countP_lt hrule htables (by simp [hfirst]) (by simp [prefixed, htargets])
    have hle := countP_mono_left hreferences
    unfold pending
    omega
  · have htarget : entry.2.target = some makerspace := by
      by_contra hne
      exact hfree ⟨hfirst, hne⟩
    have hother : makerspace ≠ entry.1.label := fun hsame =>
      hself ⟨entry.1, hrule, hsame.symm, entry.2, hfield, htarget, hdrops⟩
    refine ⟨by rw [update_of_ne hother, hmakerspace], ?_⟩
    have hprefixed : prefixed paths entry.2 = [[entry.2.name]] := by
      simp [prefixed, targetPaths, htarget, hmakerspace]
    have hless := countP_lt hentry hreferences
      (by
        rw [decide_eq_true_eq]
        refine ⟨htarget, fun hmem => hnew ?_⟩
        simpa [hprefixed] using hmem)
      (by simp [hprefixed])
    have hle := countP_mono_left htables
    unfold pending
    omega

/-- The loop ends when no makerspace depends on another. -/
theorem ownerPaths_total (hself : ¬ SelfOwned registry) :
    ∃ rounds paths, ownerPaths registry rounds = some paths := by
  obtain ⟨paths, hpaths⟩ : ∃ paths,
      ownerPaths registry (pending registry (slicedPaths registry) + 1) = some paths :=
    Rounds.loop_total (I := fun paths => paths makerspace = [[]]) (m := pending registry)
    (fun _ hmakerspace _ hentry _ hvisit => pending_visit hself hentry hmakerspace hvisit)
    sliced_makerspace (Nat.lt_succ_self _)
  exact ⟨_, paths, hpaths⟩

theorem not_closed_cons {α : Type} {l : List (List α)} {a : α} (hne : l ≠ [])
    (hclosed : l.map (a :: ·) ⊆ l) : False := by
  have hlong : ∀ n, ∃ path ∈ l, n ≤ path.length := by
    intro n
    induction n with
    | zero =>
      obtain ⟨path, hpath⟩ := exists_mem_of_ne_nil l hne
      exact ⟨path, hpath, Nat.zero_le _⟩
    | succ _ ih =>
      obtain ⟨path, hpath, hlength⟩ := ih
      refine ⟨a :: path, hclosed (mem_map_of_mem hpath), ?_⟩
      simpa using hlength
  have hshort : ∀ l : List (List α), ∃ n, ∀ path ∈ l, path.length < n := by
    intro l
    induction l with
    | nil => exact ⟨0, fun _ hpath => by cases hpath⟩
    | cons first _ ih =>
      obtain ⟨n, hn⟩ := ih
      refine ⟨n + first.length + 1, fun path hpath => ?_⟩
      rcases mem_cons.mp hpath with rfl | hmem
      · omega
      · have hlt := hn path hmem
        omega
  obtain ⟨n, hn⟩ := hshort l
  obtain ⟨path, hpath, hlength⟩ := hlong n
  exact absurd (hn path hpath) (Nat.not_lt.mpr hlength)

/-- The loop never ends when a makerspace depends on another. -/
theorem ownerPaths_selfOwned (hself : SelfOwned registry) (rounds : Nat) :
    ownerPaths registry rounds = none := by
  cases hpaths : ownerPaths registry rounds with
  | none => rfl
  | some paths =>
    obtain ⟨rule, hrule, hlabel, field, hfield, htarget, hdrops⟩ := hself
    have hstable := Rounds.loop_stable hpaths (rule, field) (mem_entries.mpr ⟨hrule, hfield⟩)
    have hne : paths makerspace ≠ [] := by
      have hsubset := sliced_ownerPaths hpaths makerspace
      rw [sliced_makerspace] at hsubset
      exact ne_nil_of_mem (hsubset mem_cons_self)
    have htargets : targetPaths paths field = paths makerspace := by
      simp [targetPaths, htarget]
    have hhands : Hands registry paths rule field :=
      ⟨by rw [htargets]; exact hne, rule_makerspace hrule hlabel field, hdrops,
        fun hbusy => hbusy.2 htarget⟩
    exfalso
    refine not_closed_cons (a := field.name) hne ?_
    by_contra hnew
    have hprefixed : ¬ prefixed paths field ⊆ paths rule.label := by
      rw [prefixed, htargets, hlabel]
      exact hnew
    have hchanges : visit registry paths (rule, field) = some _ :=
      visit_eq_some.mpr ⟨⟨hhands, hprefixed⟩, rfl⟩
    rw [hstable] at hchanges
    cases hchanges

end Termination

end Mains
end SpaceWorks
