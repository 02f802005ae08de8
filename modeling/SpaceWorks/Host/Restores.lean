import SpaceWorks.Host.RunLedger

/-!
# The databases of interrupted restores

An interrupted database restore is begun again with a new empty sibling, which `begin` of
`host_run_ledger.py` compares with that of the last attempt.
-/

namespace SpaceWorks
namespace Host

open Checked TransactionalSystem Python List Option

def siblingIdentity (detail : Value) : Option Value :=
  ((detail.get "sibling").bind fun sibling => sibling.get "identity").filter fun identity =>
    !identity.isNull

def declaredEmpty (detail : Value) : Bool :=
  (((detail.get "sibling").bind fun sibling => sibling.get "empty").map Value.isTrue).getD false

/-- The begun attempts of the database restore. -/
def restores (rows : List Record) : List Record :=
  begunOf rows databaseRestorePhase

def identities (rows : List Record) : List Value :=
  (restores rows).filterMap fun record => siblingIdentity record.detail

/-- No sibling again, and later ones declared empty. -/
structure Fresh (rows : List Record) : Prop where
  distinct : (identities rows).Pairwise fun earlier later => later.eq earlier = false
  empty : ∀ record ∈ (restores rows).tail, declaredEmpty record.detail = true

instance (rows : List Record) : Decidable (Fresh rows) :=
  decidable_of_iff
    ((identities rows).Pairwise (fun earlier later => later.eq earlier = false) ∧
      ∀ record ∈ (restores rows).tail, declaredEmpty record.detail = true)
    ⟨fun h => ⟨h.1, h.2⟩, fun h => ⟨h.distinct, h.empty⟩⟩

theorem get_bind_reload (detail : Value) (key key' : String) :
    ((detail.reload.get key).bind fun value => value.get key') =
      ((detail.get key).bind fun value => value.get key').map Value.reload := by
  rw [Value.get_reload]
  cases detail.get key with
  | none => rfl
  | some value => exact Value.get_reload value key'

theorem siblingIdentity_reload (detail : Value) :
    siblingIdentity detail.reload = (siblingIdentity detail).map Value.reload := by
  unfold siblingIdentity
  rw [get_bind_reload]
  cases (detail.get "sibling").bind fun sibling => sibling.get "identity" with
  | none => rfl
  | some identity => cases hnull : identity.isNull <;> simp [Option.filter, hnull]

theorem declaredEmpty_reload (detail : Value) :
    declaredEmpty detail.reload = declaredEmpty detail := by
  unfold declaredEmpty
  rw [get_bind_reload]
  cases (detail.get "sibling").bind fun sibling => sibling.get "empty" <;> simp

theorem restores_append (rows : List Record) (record : Record) :
    restores (rows ++ [record]) = restores rows ++
      if record.phase = databaseRestorePhase ∧ record.state = .begun then [record] else [] :=
  begunOf_append rows record databaseRestorePhase

theorem Fresh.other {rows : List Record} (h : Fresh rows) {record : Record}
    (hother : ¬ (record.phase = databaseRestorePhase ∧ record.state = .begun)) :
    Fresh (rows ++ [record]) := by
  have hsame : restores (rows ++ [record]) = restores rows := by
    rw [restores_append, if_neg hother, append_nil]
  constructor
  · rw [identities, hsame]
    exact h.distinct
  · rw [hsame]
    exact h.empty

theorem fresh_append_iff {rows : List Record} (h : Fresh rows) {record : Record}
    (hrestore : record.phase = databaseRestorePhase ∧ record.state = .begun)
    (hempty : restores rows ≠ [] → declaredEmpty record.detail = true) :
    Fresh (rows ++ [record]) ↔ ∀ earlier ∈ identities rows,
      ∀ identity ∈ siblingIdentity record.detail, identity.eq earlier = false := by
  have hrestores : restores (rows ++ [record]) = restores rows ++ [record] := by
    rw [restores_append, if_pos hrestore]
  have hidentities : identities (rows ++ [record]) =
      identities rows ++ (siblingIdentity record.detail).toList := by
    rw [identities, hrestores, filterMap_append, identities]
    cases hidentity : siblingIdentity record.detail <;> simp [hidentity]
  have htail : ∀ other ∈ (restores rows ++ [record]).tail, declaredEmpty other.detail = true := by
    intro other hother
    by_cases hnone : restores rows = []
    · rw [hnone] at hother
      cases hother
    · rw [tail_append_of_ne_nil hnone] at hother
      rcases mem_append.mp hother with hold | hnew
      · exact h.empty other hold
      · obtain rfl := mem_singleton.mp hnew
        exact hempty hnone
  constructor
  · intro hfresh earlier hearlier identity hidentity
    have hdistinct := hfresh.distinct
    rw [hidentities, pairwise_append] at hdistinct
    exact hdistinct.2.2 earlier hearlier identity (mem_toList.mpr hidentity)
  · intro hnew
    refine ⟨?_, hrestores ▸ htail⟩
    rw [hidentities, pairwise_append]
    refine ⟨h.distinct, ?_, fun earlier hearlier identity hidentity =>
      hnew earlier hearlier identity (mem_toList.mp hidentity)⟩
    cases siblingIdentity record.detail <;> simp

section Restarts

variable {ledger : RunLedger} {rows after : List Record} {op : Op}

theorem declaredEmpty_of_checkSibling {last : Record} {detail : Value}
    (h : checkSibling last detail = .ok ()) : declaredEmpty detail = true := by
  simp only [checkSibling, bind_ok, orRefuse_ok, require_ok] at h
  obtain ⟨_, hsibling, _, hempty, _, htrue, -⟩ := h
  simp [declaredEmpty, hsibling, hempty, htrue]

theorem declaredEmpty_of_checkRestart {detail : Value}
    (h : checkRestart rows databaseRestorePhase detail = .ok ()) (hsome : restores rows ≠ []) :
    declaredEmpty detail = true := by
  rw [checkRestart, if_pos rfl] at h
  obtain ⟨_, hlast⟩ := isSome_iff_exists.mp (List.getLast?_isSome.mpr hsome)
  rw [restores] at hlast
  rw [hlast] at h
  exact declaredEmpty_of_checkSibling h

/-- An admitted attempt is fresh exactly when no earlier one had its sibling. -/
theorem fresh_begin_iff (h : Fresh rows) {detail : Value} {now : Moment}
    (hbegin : Beginnable ledger rows databaseRestorePhase detail now) :
    Fresh (rows ++ [(begunRecord ledger databaseRestorePhase
        ((begunOf rows databaseRestorePhase).length + 1) detail now).reload]) ↔
      ¬ ∃ earlier ∈ identities rows, ∃ identity ∈ siblingIdentity detail,
        identity.reload.eq earlier = true := by
  rw [fresh_append_iff h ⟨rfl, rfl⟩ fun hsome =>
    (declaredEmpty_reload detail).trans (declaredEmpty_of_checkRestart hbegin.restart hsome)]
  have hidentity : siblingIdentity (begunRecord ledger databaseRestorePhase
      ((begunOf rows databaseRestorePhase).length + 1) detail now).reload.detail =
      (siblingIdentity detail).map Value.reload :=
    siblingIdentity_reload detail
  rw [hidentity]
  simp

/-- A sibling of an attempt before the last, which `begin` does not compare. -/
def ReusesSibling (ledger : RunLedger) (rows : List Record) : Op → Prop
  | .begin phase detail now =>
    phase = databaseRestorePhase ∧ Beginnable ledger rows phase detail now ∧
      ∃ earlier ∈ identities rows, ∃ identity ∈ siblingIdentity detail,
        identity.reload.eq earlier = true
  | .finish _ _ _ => False

def KeepsFresh (ledger : RunLedger) (rows : List Record) (op : Op) : Prop :=
  ∀ after, step ledger rows op = .ok after → Fresh after

theorem keepsFresh_iff (h : Fresh rows) :
    KeepsFresh ledger rows op ↔ ¬ ReusesSibling ledger rows op := by
  cases op with
  | finish =>
    refine iff_of_true ?_ id
    intro after hstep
    obtain ⟨⟨_, _⟩, hfinish, rfl⟩ := map_eq_ok.mp hstep
    obtain ⟨-, rfl, rfl⟩ := finish_ok.mp hfinish
    exact h.other nofun
  | begin phase detail now =>
    by_cases hphase : phase = databaseRestorePhase
    · subst hphase
      by_cases hbegin : Beginnable ledger rows databaseRestorePhase detail now
      · have hstep : step ledger rows (.begin databaseRestorePhase detail now) = .ok _ :=
          map_eq_ok.mpr ⟨_, begin_ok.mpr ⟨hbegin, rfl, rfl⟩, rfl⟩
        have hreuses : ReusesSibling ledger rows (.begin databaseRestorePhase detail now) ↔
            ∃ earlier ∈ identities rows, ∃ identity ∈ siblingIdentity detail,
              identity.reload.eq earlier = true :=
          ⟨fun hreuses => hreuses.2.2, fun hfound => ⟨rfl, hbegin, hfound⟩⟩
        rw [hreuses, ← fresh_begin_iff h hbegin]
        constructor
        · exact fun hkeeps => hkeeps _ hstep
        · intro hfresh after hafter
          exact Except.ok.inj (hstep.symm.trans hafter) ▸ hfresh
      · refine iff_of_true ?_ fun hreuses => hbegin hreuses.2.1
        intro after hstep
        obtain ⟨⟨_, _⟩, hok, -⟩ := map_eq_ok.mp hstep
        exact absurd (begin_ok.mp hok).1 hbegin
    · refine iff_of_true ?_ fun hreuses => hphase hreuses.1
      intro after hstep
      obtain ⟨⟨_, _⟩, hbegin, rfl⟩ := map_eq_ok.mp hstep
      obtain ⟨-, rfl, rfl⟩ := begin_ok.mp hbegin
      exact h.other fun hrestore => hphase hrestore.1

/-- No sibling is used twice in a run, and later ones are empty, exactly when no restart names one
from before the last. -/
theorem restores_fresh_iff (ledger : RunLedger) (ops : List Op) :
    Throughout (step ledger) (KeepsFresh ledger) [] ops ↔
      Throughout (step ledger) (fun rows op => ¬ ReusesSibling ledger rows op) [] ops :=
  throughout_congr (I := Fresh) keepsFresh_iff
    (fun h hnot hstep => (keepsFresh_iff h).mpr hnot _ hstep) (by decide) ops

def emptySibling (identity : String) : Value :=
  .dict [("sibling", .dict [("identity", .list [.str identity]), ("empty", .bool true)])]

def interruptedRestore : List Op :=
  [.begin databaseRestorePhase (emptySibling "candidate-one") (onSecond 1),
    .begin databaseRestorePhase (emptySibling "candidate-two") (onSecond 2),
    .begin databaseRestorePhase (emptySibling "candidate-one") (onSecond 3)]

/-- The half-restored database is restored into again. -/
theorem database_is_reused :
    (restores (run (step drillLedger) [] interruptedRestore)).length = 3 ∧
      ¬ Fresh (run (step drillLedger) [] interruptedRestore) := by
  decide +kernel

end Restarts

end Host
end SpaceWorks
