import JavaComments.Proofs.JavaDoc.Lineage

namespace JavaComments

namespace Bench

variable {steps : List Step} {step : Step} {bench : Bench}

/-- The builders that a history comes to, and what each of its steps logged. -/
structure Run where
  bench : Bench
  logs : List (List Event)
deriving DecidableEq

def Run.next? (run : Run) (step : Step) : Option Run :=
  (run.bench.change? step).map fun change => ⟨change.bench, run.logs ++ [change.events]⟩

/-- There is no run when a step is taken on a builder that does not exist by then. -/
def run? (steps : List Step) : Option Run := steps.foldlM Run.next? ⟨initial, []⟩

theorem run?_concat (steps : List Step) (step : Step) :
    run? (steps ++ [step]) = (run? steps).bind (·.next? step) := by
  rw [run?, List.foldlM_append]
  congr
  funext run
  exact bind_pure (run.next? step)

/-- A step leaves every builder alone but the one that it changes or adds. -/
theorem change?_frame {change : Change} (h : bench.change? step = some change) {i : Nat}
    (other : i ≠ change.slot) : change.bench[i]? = bench[i]? := by
  cases step with
  | call slot call =>
    obtain ⟨b, -, rfl⟩ := Option.map_eq_some_iff.mp h
    exact List.getElem?_set_ne (Ne.symm other)
  | clone slot =>
    obtain ⟨b, -, rfl⟩ := Option.map_eq_some_iff.mp h
    rw [List.getElem?_append]
    split
    next => rfl
    next high =>
      have past : bench.length < i := Nat.lt_of_le_of_ne (Nat.le_of_not_lt high) (Ne.symm other)
      rw [List.getElem?_eq_none (Nat.le_of_lt past)]
      exact List.getElem?_eq_none (Nat.sub_pos_of_lt past)

/-- Every builder is what its lineage makes of a fresh builder, and every call logged what it logs
at its place in its lineage. -/
structure Replays (steps : List Step) (run : Run) : Prop where
  size : run.bench.length = size steps
  length : run.logs.length = steps.length
  builder : ∀ i < Bench.size steps, run.bench[i]? = some (Builder.ofCalls (calls steps i))
  log : ∀ i < Bench.size steps, (lineage steps i).map (fun (k, _) => run.logs[k]?) =
    (Builder.empty.replay (calls steps i)).map some
  silent : ∀ slot log, (.clone slot, log) ∈ steps.zip run.logs → log = []

theorem replays_nil : Replays [] ⟨initial, []⟩ where
  size := rfl
  length := rfl
  builder i hi := by
    obtain rfl : i = 0 := Nat.lt_one_iff.mp hi
    rfl
  log i hi := rfl
  silent slot log mem := by cases mem

namespace Replays

variable {run : Run}

/-- What was logged so far is not touched by what is logged later. -/
theorem log_append (h : Replays steps run) {i : Nat} (hi : i < Bench.size steps)
    (events : List Event) :
    (lineage steps i).map (fun (k, _) => (run.logs ++ [events])[k]?) =
      (Builder.empty.replay (calls steps i)).map some := by
  rw [← h.log i hi]
  refine List.map_congr_left fun (k, call) mem => ?_
  have logged : run.logs[k]? ∈ (Builder.empty.replay (calls steps i)).map some := by
    rw [← h.log i hi]
    exact List.mem_map_of_mem mem
  obtain ⟨log, -, hlog⟩ := List.mem_map.mp logged
  exact List.getElem?_append_left (List.getElem?_eq_some_iff.mp hlog.symm).1

theorem silent_concat (h : Replays steps run) {events : List Event}
    (quiet : ∀ slot, step = .clone slot → events = []) (slot : Nat) (log : List Event)
    (mem : (.clone slot, log) ∈ (steps ++ [step]).zip (run.logs ++ [events])) : log = [] := by
  rw [List.zip_append h.length.symm] at mem
  rcases List.mem_append.mp mem with old | new
  · exact h.silent slot log old
  · obtain ⟨hstep, rfl⟩ := Prod.mk.inj (List.mem_singleton.mp new)
    exact quiet slot hstep.symm

theorem call (h : Replays steps run) {slot : Nat} (exist : slot < Bench.size steps) (call : Call) :
    ∃ next, run.next? (.call slot call) = some next ∧
      Replays (steps ++ [.call slot call]) next := by
  have target := h.builder slot exist
  have change : run.bench.change? (.call slot call) = some _ := congrArg (Option.map _) target
  refine ⟨_, congrArg (Option.map _) change, ?_⟩
  constructor
  case size => rw [List.length_set, h.size, size_concat, Step.count]
  case length => rw [List.length_append, List.length_append, h.length]; rfl
  case builder =>
    intro i hi
    rw [size_concat] at hi
    by_cases own : i = slot
    · subst own
      rw [List.getElem?_set_self (h.size ▸ exist), calls_concat_call, if_pos rfl,
        Builder.ofCalls_concat]
    · rw [change?_frame change own, h.builder i hi, calls_concat_call, if_neg own]
  case log =>
    intro i hi
    rw [size_concat] at hi
    rw [lineage_concat_call, calls_concat_call]
    split
    next own =>
      subst own
      rw [List.map_append, Builder.replay_concat, List.map_append, h.log_append hi]
      exact congrArg (_ ++ [·]) (h.length ▸ List.getElem?_concat_length)
    next => exact h.log_append hi _
  case silent => exact h.silent_concat fun _ impossible => nomatch impossible

theorem clone (h : Replays steps run) {slot : Nat} (exist : slot < Bench.size steps) :
    ∃ next, run.next? (.clone slot) = some next ∧ Replays (steps ++ [.clone slot]) next := by
  have original := h.builder slot exist
  have change : run.bench.change? (.clone slot) = some _ := congrArg (Option.map _) original
  refine ⟨_, congrArg (Option.map _) change, ?_⟩
  -- the original of a builder, as far as its lineage goes
  have origin {i : Nat} (hi : i < Bench.size (steps ++ [.clone slot])) :
      (if i = Bench.size steps then slot else i) < Bench.size steps := by
    rw [size_concat, Step.count] at hi
    split <;> omega
  constructor
  case size => rw [List.length_append, h.size, size_concat]; rfl
  case length => rw [List.length_append, List.length_append, h.length]; rfl
  case builder =>
    intro i hi
    rw [calls_concat_clone]
    split
    next new => rw [new, ← h.size]; exact List.getElem?_concat_length
    next old =>
      have older := origin hi
      rw [if_neg old] at older
      rw [change?_frame change (h.size ▸ old), h.builder i older]
  case log =>
    intro i hi
    rw [lineage_concat_clone, calls_concat_clone]
    exact h.log_append (origin hi) _
  case silent => exact h.silent_concat fun _ _ => rfl

end Replays

/-- Every history that is admitted runs, and its run replays every lineage. -/
theorem exists_replays (admitted : Admitted 1 steps) :
    ∃ run, run? steps = some run ∧ Replays steps run := by
  induction steps using List.reverseRecOn with
  | nil => exact ⟨_, rfl, replays_nil⟩
  | append_singleton steps step ih =>
    obtain ⟨earlier, exist⟩ := admitted_concat.mp admitted
    obtain ⟨run, hrun, h⟩ := ih earlier
    rw [run?_concat, hrun, Option.bind_some]
    cases step with
    | call slot call => exact h.call exist call
    | clone slot => exact h.clone exist

theorem Admitted.without_call {before after : List Step} {slot : Nat} {call : Call}
    (admitted : Admitted 1 (before ++ .call slot call :: after)) :
    Admitted 1 (before ++ after) := by
  obtain ⟨hbefore, -, hafter⟩ := admitted_append.mp admitted
  exact admitted_append.mpr ⟨hbefore, hafter⟩

/-- Clones do not influence each other. A lineage is the calls on the original before the clone,
and then those on the clone itself. Every builder is built, and logs its building, as a fresh
builder that receives the calls of its lineage, and a call outside the lineage does not matter.
Every call is logged as it is at its place in a lineage, and making a clone logs nothing. -/
theorem run_replays_lineages {steps : List Step} (admitted : Admitted 1 steps) :
    calls steps 0 = steps.filterMap (callOn? 0) ∧
    (∀ before slot after, steps = before ++ .clone slot :: after →
      calls steps (size before) =
        calls before slot ++ after.filterMap (callOn? (size before))) ∧
    ∃ run, run? steps = some run ∧
      run.bench.length = size steps ∧ run.logs.length = steps.length ∧
      (∀ i < size steps,
        (∃ b, run.bench[i]? = some b ∧
          b.build = (Builder.ofCalls (calls steps i)).build ∧
          b.summary.line = (Builder.ofCalls (calls steps i)).summary.line) ∧
        (lineage steps i).map (fun (k, _) => run.logs[k]?) =
          (Builder.empty.replay (calls steps i)).map some ∧
        ∀ before slot call after, steps = before ++ .call slot call :: after →
          (before.length, call) ∉ lineage steps i →
          ∃ other, run? (before ++ after) = some other ∧ other.bench[i]? = run.bench[i]?) ∧
      (∀ before slot call after, steps = before ++ .call slot call :: after →
        (before.length, call) ∈ lineage steps slot) ∧
      ∀ slot log, (.clone slot, log) ∈ steps.zip run.logs → log = [] := by
  obtain ⟨run, hrun, h⟩ := exists_replays admitted
  refine ⟨calls_initial steps, ?_, run, hrun, h.size, h.length, ?_, ?_, h.silent⟩
  · rintro before slot after rfl
    exact calls_clone before slot after
  · intro i hi
    refine ⟨⟨_, h.builder i hi, rfl, rfl⟩, h.log i hi, ?_⟩
    rintro before slot call after rfl outside
    obtain ⟨other, hother, ho⟩ := exists_replays admitted.without_call
    have hi' : i < size (before ++ after) := by rwa [size_without_call] at hi
    exact ⟨other, hother, by
      rw [ho.builder i hi', h.builder i hi, calls_of_not_mem_lineage outside]⟩
  · rintro before slot call after rfl
    obtain ⟨-, exist, -⟩ := admitted_append.mp admitted
    exact mem_lineage_of_call exist

/-- A clone of a clone, each of the three builders with a clause of its own. -/
def twiceCloned : List Step :=
  [.call 0 (.throws ⟨['A'], []⟩), .clone 0, .call 1 (.throws ⟨['B'], []⟩),
    .clone 1, .call 0 (.throws ⟨['D'], []⟩), .call 2 (.throws ⟨['C'], []⟩)]

theorem run_replays_lineages_twice_cloned :
    Admitted 1 twiceCloned ∧ ∃ run, run? twiceCloned = some run ∧
      (∃ b, run.bench[2]? = some b ∧ b.build = (Builder.ofCalls
        [.throws ⟨['A'], []⟩, .throws ⟨['B'], []⟩, .throws ⟨['C'], []⟩]).build) ∧
      [run.logs[0]?, run.logs[2]?, run.logs[5]?] =
        [some [], some [.replacingThrows ['A'] ['B']], some [.replacingThrows ['B'] ['C']]] := by
  have admitted : Admitted 1 twiceCloned := by decide
  obtain ⟨-, -, run, hrun, -, -, replays, -, -⟩ := run_replays_lineages admitted
  obtain ⟨⟨b, hb, built, -⟩, logged, -⟩ := replays 2 (by decide)
  exact ⟨admitted, run, hrun, ⟨b, hb, built⟩, logged⟩

end Bench

end JavaComments
