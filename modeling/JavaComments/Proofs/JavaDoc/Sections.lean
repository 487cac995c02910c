import JavaComments.JavaDoc.Builder
import JavaComments.Proofs.Text.Lines

namespace JavaComments

namespace Call

def fragment? : Call → Option Fragment
  | .body fragment => some fragment
  | _ => none

def param? : Call → Option Param
  | .param p => some p
  | _ => none

def throws? : Call → Option Throws
  | .throws clause => some clause
  | _ => none

def notice? : Call → Option Text
  | .deprecated notice => some notice
  | _ => none

/-- What the last call that gives something gives. -/
def last? {α : Type} (given? : Call → Option α) (calls : List Call) : Option α :=
  (calls.filterMap given?).getLast?

theorem last?_concat {α : Type} (given? : Call → Option α) (calls : List Call) (call : Call) :
    last? given? (calls ++ [call]) = (given? call).or (last? given? calls) := by
  unfold last?
  rw [List.filterMap_append, List.getLast?_append]
  cases h : given? call with
  | none => rw [List.filterMap_cons_none h]; rfl
  | some x => rw [List.filterMap_cons_some h]; rfl

end Call

namespace Builder

variable {calls : List Call} {b : Builder}

/-- The builder is what the calls come to, whatever the order of those of different sections. -/
structure Holds (calls : List Call) (b : Builder) : Prop where
  body : b.body = calls.filterMap Call.fragment?
  params : b.params = calls.filterMap Call.param?
  throws : b.throws = (Call.last? Call.throws? calls).filter fun clause => !clause.type.isEmpty
  deprecated : b.deprecated = (Call.last? Call.notice? calls).filter fun notice => !notice.isEmpty

theorem Holds.unique {other : Builder} (h : Holds calls b) (ho : Holds calls other) :
    b = other := by
  cases b
  cases other
  obtain ⟨rfl, rfl, rfl, rfl⟩ := h
  obtain ⟨rfl, rfl, rfl, rfl⟩ := ho
  rfl

/-- The order of calls of different sections does not matter, nor do clauses that were replaced. -/
theorem Holds.congr {others : List Call} (h : Holds others b)
    (hbody : others.filterMap Call.fragment? = calls.filterMap Call.fragment?)
    (hparams : others.filterMap Call.param? = calls.filterMap Call.param?)
    (hthrows : Call.last? Call.throws? others = Call.last? Call.throws? calls)
    (hnotice : Call.last? Call.notice? others = Call.last? Call.notice? calls) : Holds calls b where
  body := h.body.trans hbody
  params := h.params.trans hparams
  throws := hthrows ▸ h.throws
  deprecated := hnotice ▸ h.deprecated

theorem holds_empty : Holds [] empty := ⟨rfl, rfl, rfl, rfl⟩

theorem Holds.apply (h : Holds calls b) (call : Call) :
    Holds (calls ++ [call]) (b.apply call) where
  body := by
    rw [List.filterMap_append, ← h.body]
    cases call <;> simp [Builder.apply, Call.fragment?]
  params := by
    rw [List.filterMap_append, ← h.params]
    cases call <;> simp [Builder.apply, Call.param?]
  throws := by
    rw [Call.last?_concat]
    cases call with
    | throws clause =>
      simp only [Builder.apply, Call.throws?, Option.some_or, Option.filter_some]
      cases clause.type.isEmpty <;> rfl
    | _ => exact h.throws
  deprecated := by
    rw [Call.last?_concat]
    cases call with
    | deprecated notice =>
      simp only [Builder.apply, Call.notice?, Option.some_or, Option.filter_some]
      cases notice.isEmpty <;> rfl
    | _ => exact h.deprecated

theorem Holds.applyAll {before : List Call} (h : Holds before b) (calls : List Call) :
    Holds (before ++ calls) (b.applyAll calls) := by
  induction calls generalizing before b with
  | nil => rwa [List.append_nil]
  | cons call calls ih =>
    rw [List.append_cons]
    exact ih (h.apply call)

theorem holds_ofCalls (calls : List Call) : Holds calls (ofCalls calls) :=
  holds_empty.applyAll calls

theorem Holds.event?_throws (h : Holds calls b) (clause : Throws) :
    b.event? (.throws clause) =
      ((Call.last? Call.throws? calls).filter fun old => !old.type.isEmpty).map fun old =>
        .replacingThrows old.type clause.type := by
  rw [event?, h.throws]

/-- Nothing is replaced where a clause is given at most once. -/
theorem Holds.events_eq_nil {before : List Call} (h : Holds before b)
    (once : ((before ++ calls).filterMap Call.throws?).length ≤ 1) : b.events calls = [] := by
  induction calls generalizing before b with
  | nil => rfl
  | cons call calls ih =>
    have rest : (b.apply call).events calls = [] := ih (h.apply call) (by rwa [← List.append_cons])
    have quiet : b.event? call = none := by
      cases call with
      | throws clause =>
        have given : (Call.throws clause :: calls).filterMap Call.throws? =
            clause :: calls.filterMap Call.throws? := rfl
        rw [List.filterMap_append, given, List.length_append, List.length_cons] at once
        have first : before.filterMap Call.throws? = [] := List.eq_nil_of_length_eq_zero (by omega)
        rw [h.event?_throws, Call.last?, first]
        rfl
      | _ => rfl
    rw [events, quiet, rest]
    rfl

end Builder

end JavaComments
