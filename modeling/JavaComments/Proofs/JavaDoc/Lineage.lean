import JavaComments.JavaDoc.Bench
import Mathlib.Data.List.Basic
import Mathlib.Data.List.Induction

namespace JavaComments

namespace Builder

theorem ofCalls_concat (calls : List Call) (call : Call) :
    ofCalls (calls ++ [call]) = (ofCalls calls).apply call :=
  List.foldl_concat ..

/-- What each of the calls logs, one after the other. -/
def replay (b : Builder) : List Call → List (List Event)
  | [] => []
  | call :: calls => (b.event? call).toList :: (b.apply call).replay calls

theorem flatten_replay (b : Builder) (calls : List Call) :
    (b.replay calls).flatten = b.events calls := by
  induction calls generalizing b with
  | nil => rfl
  | cons call calls ih => rw [replay, List.flatten_cons, ih, events]

theorem replay_concat (b : Builder) (calls : List Call) (call : Call) :
    b.replay (calls ++ [call]) = b.replay calls ++ [((b.applyAll calls).event? call).toList] := by
  induction calls generalizing b with
  | nil => rfl
  | cons first calls ih => exact congrArg (_ :: ·) (ih (b.apply first))

end Builder

namespace Bench

/-- The builder that a step is taken on. -/
def Step.target : Step → Nat
  | .call slot _ => slot
  | .clone slot => slot

/-- How many builders there are after a step, where there were `count`. -/
def Step.count (count : Nat) : Step → Nat
  | .call _ _ => count
  | .clone _ => count + 1

/-- How many builders there are after the steps. -/
def size (steps : List Step) : Nat := steps.foldl Step.count 1

theorem size_concat (steps : List Step) (step : Step) :
    size (steps ++ [step]) = step.count (size steps) :=
  List.foldl_concat ..

/-- Each step is taken on one of the builders that there are by then, `count` of them at first. -/
def Admitted (count : Nat) : List Step → Prop
  | [] => True
  | step :: steps => step.target < count ∧ Admitted (step.count count) steps

def Admitted.decide (count : Nat) : (steps : List Step) → Decidable (Admitted count steps)
  | [] => .isTrue trivial
  | step :: steps =>
    have := Admitted.decide (step.count count) steps
    inferInstanceAs (Decidable (step.target < count ∧ Admitted (step.count count) steps))

instance (count : Nat) (steps : List Step) : Decidable (Admitted count steps) :=
  Admitted.decide count steps

theorem admitted_append {count : Nat} {steps rest : List Step} :
    Admitted count (steps ++ rest) ↔
      Admitted count steps ∧ Admitted (steps.foldl Step.count count) rest := by
  induction steps generalizing count with
  | nil => exact (iff_of_eq (true_and _)).symm
  | cons step steps ih =>
    exact (and_congr_right' ih).trans and_assoc.symm

theorem admitted_concat {steps : List Step} {step : Step} :
    Admitted 1 (steps ++ [step]) ↔ Admitted 1 steps ∧ step.target < size steps := by
  rw [admitted_append]
  exact and_congr_right' (iff_of_eq (and_true _))

/-- The calls that made builder `i` what it is, each with its place among the steps, which stand
here the latest first. A clone begins with the calls that its original had received by then. -/
def lineageBack : List Step → Nat → List (Nat × Call)
  | [], _ => []
  | .call slot call :: past, i =>
    if i = slot then lineageBack past i ++ [(past.length, call)] else lineageBack past i
  | .clone slot :: past, i => lineageBack past (if i = size past.reverse then slot else i)

def lineage (steps : List Step) (i : Nat) : List (Nat × Call) := lineageBack steps.reverse i

/-- The calls of a lineage in their order. -/
def calls (steps : List Step) (i : Nat) : List Call := (lineage steps i).map Prod.snd

theorem lineage_concat_call (steps : List Step) (slot : Nat) (call : Call) (i : Nat) :
    lineage (steps ++ [.call slot call]) i =
      if i = slot then lineage steps i ++ [(steps.length, call)] else lineage steps i := by
  rw [lineage, List.reverse_concat, lineageBack, List.length_reverse]
  rfl

theorem lineage_concat_clone (steps : List Step) (slot i : Nat) :
    lineage (steps ++ [.clone slot]) i = lineage steps (if i = size steps then slot else i) := by
  rw [lineage, List.reverse_concat, lineageBack, List.reverse_reverse]
  rfl

theorem calls_concat_call (steps : List Step) (slot : Nat) (call : Call) (i : Nat) :
    calls (steps ++ [.call slot call]) i =
      if i = slot then calls steps i ++ [call] else calls steps i := by
  rw [calls, lineage_concat_call]
  split
  · exact List.map_append
  · rfl

theorem calls_concat_clone (steps : List Step) (slot i : Nat) :
    calls (steps ++ [.clone slot]) i = calls steps (if i = size steps then slot else i) :=
  congrArg (List.map Prod.snd) (lineage_concat_clone steps slot i)

theorem Step.le_count (step : Step) (count : Nat) : count ≤ step.count count := by
  cases step with
  | call => exact Nat.le_refl count
  | clone => exact Nat.le_succ count

theorem size_le_size_append (before after : List Step) : size before ≤ size (before ++ after) := by
  induction after using List.reverseRecOn with
  | nil => exact Nat.le_of_eq (congrArg size (List.append_nil before).symm)
  | append_singleton after step ih =>
    rw [← List.append_assoc, size_concat]
    exact Nat.le_trans ih (step.le_count _)

/-- A call that is made on builder `i` itself. -/
def callOn? (i : Nat) : Step → Option Call
  | .call slot call => if i = slot then some call else none
  | .clone _ => none

/-- The calls on builder `i` itself, each with its place, where the first step has place `k`. -/
def callsOn (i k : Nat) (steps : List Step) : List (Nat × Call) :=
  (steps.zipIdx k).filterMap fun (step, place) => (callOn? i step).map (place, ·)

theorem map_snd_callsOn (i k : Nat) (steps : List Step) :
    (callsOn i k steps).map Prod.snd = steps.filterMap (callOn? i) := by
  have forget : (fun entry : Step × Nat =>
      ((callOn? i entry.1).map (entry.2, ·)).map Prod.snd) = callOn? i ∘ Prod.fst := by
    funext entry
    rw [Option.map_map]
    exact Option.map_id' ..
  rw [callsOn, List.map_filterMap, forget, ← List.filterMap_map, List.zipIdx_map_fst]

theorem callsOn_concat (i k : Nat) (steps : List Step) (step : Step) :
    callsOn i k (steps ++ [step]) =
      callsOn i k steps ++ ((callOn? i step).map (k + steps.length, ·)).toList := by
  rw [callsOn, List.zipIdx_append, List.filterMap_append]
  cases h : callOn? i step <;> simp [callsOn, h]

/-- Once a builder exists, its lineage grows by the calls on itself only. -/
theorem lineage_append {before : List Step} {i : Nat} (exist : i < size before)
    (after : List Step) :
    lineage (before ++ after) i = lineage before i ++ callsOn i before.length after := by
  induction after using List.reverseRecOn with
  | nil => rw [List.append_nil]; exact (List.append_nil _).symm
  | append_singleton after step ih =>
    rw [← List.append_assoc, callsOn_concat, ← List.append_assoc, ← ih]
    cases step with
    | call slot call =>
      rw [lineage_concat_call, List.length_append]
      by_cases own : i = slot
      · simp [callOn?, own]
      · simp [callOn?, own]
    | clone slot =>
      have older : i ≠ size (before ++ after) :=
        Nat.ne_of_lt (Nat.lt_of_lt_of_le exist (size_le_size_append before after))
      rw [lineage_concat_clone, if_neg older]
      exact (List.append_nil _).symm

theorem calls_append {before : List Step} {i : Nat} (exist : i < size before)
    (after : List Step) :
    calls (before ++ after) i = calls before i ++ after.filterMap (callOn? i) := by
  rw [calls, lineage_append exist, List.map_append, map_snd_callsOn, calls]

theorem calls_initial (steps : List Step) : calls steps 0 = steps.filterMap (callOn? 0) := by
  have first : 0 < size [] := Nat.one_pos
  exact calls_append first steps

/-- The lineage of a clone: the calls on its original before the clone, then its own. -/
theorem calls_clone (before : List Step) (slot : Nat) (after : List Step) :
    calls (before ++ .clone slot :: after) (size before) =
      calls before slot ++ after.filterMap (callOn? (size before)) := by
  have exist : size before < size (before ++ [.clone slot]) := by
    rw [size_concat]
    exact Nat.lt_succ_self _
  rw [List.append_cons, calls_append exist, calls_concat_clone, if_pos rfl]

/-- A call has its place in the lineage of the builder that it is made on. -/
theorem mem_lineage_of_call {before after : List Step} {slot : Nat} {call : Call}
    (exist : slot < size before) :
    (before.length, call) ∈ lineage (before ++ .call slot call :: after) slot := by
  have still : slot < size (before ++ [.call slot call]) :=
    Nat.lt_of_lt_of_le exist (size_le_size_append before _)
  rw [List.append_cons, lineage_append still, lineage_concat_call, if_pos rfl]
  exact List.mem_append_left _ (List.mem_append_right _ List.mem_cons_self)

theorem size_without_call (before : List Step) (slot : Nat) (call : Call) (after : List Step) :
    size (before ++ .call slot call :: after) = size (before ++ after) := by
  rw [size, size, List.foldl_append, List.foldl_append]
  rfl

/-- A call outside the lineage of a builder may as well not be made. -/
theorem calls_of_not_mem_lineage {before after : List Step} {slot i : Nat} {call : Call}
    (outside : (before.length, call) ∉ lineage (before ++ .call slot call :: after) i) :
    calls (before ++ .call slot call :: after) i = calls (before ++ after) i := by
  -- builder `i` may be a clone that was made in `after`, and its original is then meant before
  induction after using List.reverseRecOn generalizing i with
  | nil =>
    rw [List.append_nil, calls_concat_call]
    split
    next own =>
      rw [lineage_concat_call, if_pos own] at outside
      exact absurd (List.mem_append_right _ List.mem_cons_self) outside
    next => rfl
  | append_singleton after step ih =>
    rw [← List.cons_append, ← List.append_assoc] at outside
    rw [← List.cons_append, ← List.append_assoc, ← List.append_assoc]
    cases step with
    | call target made =>
      have earlier : (before.length, call) ∉ lineage (before ++ .call slot call :: after) i := by
        intro mem
        rw [lineage_concat_call] at outside
        split at outside
        · exact outside (List.mem_append_left _ mem)
        · exact outside mem
      rw [calls_concat_call, calls_concat_call, ih earlier]
    | clone target =>
      rw [lineage_concat_clone] at outside
      rw [calls_concat_clone, calls_concat_clone, ih outside, size_without_call]

end Bench

end JavaComments
