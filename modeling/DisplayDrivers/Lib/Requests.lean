import Mathlib.Algebra.BigOperators.Group.List.Basic
import Mathlib.Algebra.Group.Pi.Basic
import Mathlib.Algebra.Ring.Int.Defs

/-! # Operations on a device that can refuse

A driver function issues requests to a device in order. Some can fail: the environment holds the
return codes of the requests to come in `answers`.

`Issues op events` gives what an operation does when nothing fails, `Shows view op seen` what `view`
keeps of it. `Nets weigh op d plan` says all there is to say about an operation on a device that
refuses at most one request. There is one rule for each combinator.
-/

namespace DisplayDrivers.Lib.Requests

variable {ε α : Type*}

structure Device (ε : Type*) where
  answers : Nat → Int
  log : List ε

abbrev Op (ε : Type*) := Device ε → Device ε × Int

/-- A request that the device can refuse; `0` is success. -/
def attempt (e : ε) : Op ε := fun device =>
  let rest := fun k => device.answers (k + 1)
  if device.answers 0 = 0 then ({ answers := rest, log := device.log ++ [e] }, 0)
  else ({ answers := rest, log := device.log }, device.answers 0)

def issue (e : ε) : Op ε := fun device => ({ device with log := device.log ++ [e] }, 0)

def skip : Op ε := fun device => (device, 0)

def fail (rc : Int) : Op ε := fun device => (device, rc)

def andThen (first second : Op ε) : Op ε := fun device =>
  let done := first device
  if done.2 ≠ 0 then done else second done.1

def onError (body cleanup : Op ε) : Op ε := fun device =>
  let done := body device
  if done.2 ≠ 0 then ((cleanup done.1).1, done.2) else done

def ignoring (op : Op ε) : Op ε := fun device => ((op device).1, 0)

def whenever (cond : Bool) (op : Op ε) : Op ε := if cond then op else skip

def forEach : List α → (α → Op ε) → Op ε
  | [], _ => skip
  | a :: rest, body => andThen (body a) (forEach rest body)

/-! ## When nothing fails -/

def granting (log : List ε) : Device ε := { answers := fun _ => 0, log := log }

def Issues (op : Op ε) (events : List ε) : Prop :=
  ∀ log, op (granting log) = (granting (log ++ events), 0)

theorem issues_attempt (e : ε) : Issues (attempt e) [e] := fun _ => rfl

theorem issues_issue (e : ε) : Issues (issue e) [e] := fun _ => rfl

theorem issues_skip : Issues (skip : Op ε) [] := fun log => by simp [skip]

variable {first second : Op ε}

theorem Issues.andThen {front back : List ε} (h₁ : Issues first front)
    (h₂ : Issues second back) : Issues (andThen first second) (front ++ back) := by
  intro log
  simp [Requests.andThen, h₁ log, h₂ (log ++ front)]

variable {events : List ε}

theorem Issues.onError {body : Op ε} (h : Issues body events)
    (cleanup : Op ε) : Issues (onError body cleanup) events := by
  intro log
  simp [Requests.onError, h log]

variable {op : Op ε}

theorem Issues.ignoring (h : Issues op events) : Issues (ignoring op) events := by
  intro log
  simp [Requests.ignoring, h log]

/-! ## One view of what is issued -/

variable {β : Type*} {view : ε → Option β}

/-- Granted everything, the operation succeeds, and `seen` is what `view` keeps of its requests. -/
def Shows (view : ε → Option β) (op : Op ε) (seen : List β) : Prop :=
  ∃ events, Issues op events ∧ events.filterMap view = seen

variable {seen : List β}

theorem Shows.of_eq {seen' : List β} (h : Shows view op seen)
    (same : seen = seen') : Shows view op seen' := same ▸ h

theorem shows_attempt (e : ε) : Shows view (attempt e) (view e).toList := by
  refine ⟨[e], issues_attempt e, ?_⟩
  cases found : view e <;> simp [found]

theorem shows_issue (e : ε) : Shows view (issue e) (view e).toList := by
  refine ⟨[e], issues_issue e, ?_⟩
  cases found : view e <;> simp [found]

theorem shows_skip : Shows view skip [] := ⟨[], issues_skip, rfl⟩

theorem Shows.andThen {front back : List β} (h₁ : Shows view first front)
    (h₂ : Shows view second back) : Shows view (andThen first second) (front ++ back) := by
  obtain ⟨e₁, i₁, rfl⟩ := h₁
  obtain ⟨e₂, i₂, rfl⟩ := h₂
  exact ⟨e₁ ++ e₂, i₁.andThen i₂, List.filterMap_append⟩

theorem Shows.onError {body : Op ε} (h : Shows view body seen)
    (cleanup : Op ε) : Shows view (onError body cleanup) seen := by
  obtain ⟨events, issues, rfl⟩ := h
  exact ⟨events, issues.onError cleanup, rfl⟩

theorem Shows.ignoring (h : Shows view op seen) : Shows view (ignoring op) seen := by
  obtain ⟨events, issues, rfl⟩ := h
  exact ⟨events, issues.ignoring, rfl⟩

theorem Shows.whenever (h : Shows view op seen) (cond : Bool) :
    Shows view (whenever cond op) (if cond then seen else []) := by
  cases cond with
  | true => exact h
  | false => exact shows_skip

variable {body : α → Op ε}

theorem shows_forEach {seen : α → List β} (xs : List α)
    (h : ∀ x ∈ xs, Shows view (body x) (seen x)) :
    Shows view (forEach xs body) (xs.flatMap seen) := by
  induction xs with
  | nil => exact shows_skip
  | cons x rest ih =>
    rw [List.flatMap_cons]
    exact (h x List.mem_cons_self).andThen (ih fun y member => h y (List.mem_cons_of_mem _ member))

/-! ## One request fails

`weigh` tells what a request adds to each of the counters `ρ` of a device. `Nets weigh op d plan`:
the operation moves the counters by `d` where nothing fails, and `plan` lists, in order, the
requests that it makes and can be refused, each with what the operation has moved by when it has
returned the error. `Clean` are the operations that have moved by nothing then.
-/

section Net

variable {ρ : Type*} (weigh : ε → ρ → Int)

def refusing (rc : Int) (k : Nat) (log : List ε) : Device ε :=
  { answers := fun j => if j = k then rc else 0, log := log }

def net (log : List ε) : ρ → Int := (log.map weigh).sum

@[simp] theorem net_append (front back : List ε) :
    net weigh (front ++ back) = net weigh front + net weigh back := by
  simp [net]

@[simp] theorem net_singleton (e : ε) : net weigh [e] = weigh e := by simp [net]

theorem refusing_zero (k : Nat) (log : List ε) : refusing 0 k log = granting log := by
  simp [refusing, granting]

structure Nets (op : Op ε) (d : ρ → Int) (plan : List (ε × (ρ → Int))) : Prop where
  later : ∀ rc k log, ∃ log', op (refusing rc (plan.length + k) log) = (refusing rc k log', 0) ∧
    net weigh log' = net weigh log + d
  refused : ∀ k e u, plan[k]? = some (e, u) → ∀ rc ≠ 0, ∀ log,
    ∃ log', op (refusing rc k log) = (granting log', rc) ∧ net weigh log' = net weigh log + u

variable {weigh}

/-- On a device that grants everything the operation succeeds and moves the counters by `d`. -/
def Grants (weigh : ε → ρ → Int) (op : Op ε) (d : ρ → Int) : Prop :=
  ∀ log, ∃ log', op (granting log) = (granting log', 0) ∧ net weigh log' = net weigh log + d

variable {plan : List (ε × (ρ → Int))} {d : ρ → Int}

theorem Nets.granted (nets : Nets weigh op d plan) : Grants weigh op d := fun log => by
  simpa [refusing_zero] using nets.later 0 0 log

theorem Grants.ignoring (grants : Grants weigh op d) : Grants weigh (ignoring op) d := fun log => by
  obtain ⟨log', ran, moved⟩ := grants log
  exact ⟨log', by simp [Requests.ignoring, ran], moved⟩

variable {d' : ρ → Int}

theorem Grants.of_eq (grants : Grants weigh op d) (same : d = d') :
    Grants weigh op d' := same ▸ grants

theorem Grants.andThen {d₁ d₂ : ρ → Int} (h₁ : Grants weigh first d₁)
    (h₂ : Grants weigh second d₂) : Grants weigh (andThen first second) (d₁ + d₂) := fun log => by
  obtain ⟨mid, ran₁, net₁⟩ := h₁ log
  obtain ⟨log', ran₂, net₂⟩ := h₂ mid
  exact ⟨log', by simp [Requests.andThen, ran₁, ran₂], by rw [net₂, net₁, add_assoc]⟩

theorem grants_forEach {d : α → ρ → Int} (xs : List α)
    (h : ∀ a, Grants weigh (body a) (d a)) : Grants weigh (forEach xs body) (xs.map d).sum := by
  induction xs with
  | nil => exact fun log => ⟨log, rfl, by simp⟩
  | cons a rest ih =>
    rw [List.map_cons, List.sum_cons]
    exact (h a).andThen ih

theorem Nets.of_eq {plan' : List (ε × (ρ → Int))}
    (nets : Nets weigh op d plan) (same : d = d') (samePlan : plan = plan') :
    Nets weigh op d' plan' := same ▸ samePlan ▸ nets

/-! ## The rules -/

theorem nets_skip : Nets weigh skip 0 [] where
  later rc k log := ⟨log, by simp [skip], by simp⟩
  refused k e u here := by simp at here

variable (weigh) in
theorem nets_issue (e : ε) : Nets weigh (issue e) (weigh e) [] where
  later rc k log := ⟨log ++ [e], by simp [issue, refusing], by simp⟩
  refused k e u here := by simp at here

variable (weigh) in
theorem nets_attempt (e : ε) : Nets weigh (attempt e) (weigh e) [(e, 0)] where
  later rc k log := by
    refine ⟨log ++ [e], ?_, by simp⟩
    simp [attempt, refusing, Nat.add_comm 1 k]
  refused k e' u here rc failed log := by
    cases k with
    | zero =>
      cases here
      exact ⟨log, by simp [attempt, refusing, granting, failed], by simp⟩
    | succ k => simp at here

theorem Nets.andThen {d₁ d₂ : ρ → Int}
    {plan₁ plan₂ : List (ε × (ρ → Int))} (h₁ : Nets weigh first d₁ plan₁)
    (h₂ : Nets weigh second d₂ plan₂) :
    Nets weigh (andThen first second) (d₁ + d₂)
      (plan₁ ++ plan₂.map fun step => (step.1, d₁ + step.2)) where
  later rc k log := by
    obtain ⟨mid, ran₁, net₁⟩ := h₁.later rc (plan₂.length + k) log
    obtain ⟨log', ran₂, net₂⟩ := h₂.later rc k mid
    refine ⟨log', ?_, by rw [net₂, net₁, add_assoc]⟩
    simp [Requests.andThen, Nat.add_assoc, ran₁, ran₂]
  refused k e u here rc failed log := by
    by_cases early : k < plan₁.length
    · -- the first part returns the error, and the second is not run
      rw [List.getElem?_append_left early] at here
      obtain ⟨log', ran, net₁⟩ := h₁.refused k e u here rc failed log
      exact ⟨log', by simp [Requests.andThen, ran, failed], net₁⟩
    · -- the first part has moved by `d₁` when the second one fails
      obtain ⟨j, rfl⟩ := Nat.exists_eq_add_of_le (Nat.le_of_not_lt early)
      rw [List.getElem?_append_right (by omega), Nat.add_sub_cancel_left, List.getElem?_map,
        Option.map_eq_some_iff] at here
      obtain ⟨⟨e', u'⟩, at_j, same⟩ := here
      cases same
      obtain ⟨mid, ran₁, net₁⟩ := h₁.later rc j log
      obtain ⟨log', ran₂, net₂⟩ := h₂.refused j e' u' at_j rc failed mid
      refine ⟨log', by simp [Requests.andThen, ran₁, ran₂], ?_⟩
      rw [net₂, net₁, add_assoc]

theorem Nets.onError {body cleanup : Op ε} {c : ρ → Int}
    (h : Nets weigh body d plan) (hc : Grants weigh cleanup c) :
    Nets weigh (onError body cleanup) d (plan.map fun step => (step.1, step.2 + c)) where
  later rc k log := by
    obtain ⟨log', ran, moved⟩ := h.later rc k log
    exact ⟨log', by simp [Requests.onError, ran], moved⟩
  refused k e u here rc failed log := by
    rw [List.getElem?_map, Option.map_eq_some_iff] at here
    obtain ⟨⟨e', u'⟩, at_k, same⟩ := here
    cases same
    obtain ⟨mid, ran, moved⟩ := h.refused k e' u' at_k rc failed log
    obtain ⟨log', cleaned, back⟩ := hc mid
    refine ⟨log', by simp [Requests.onError, ran, failed, cleaned], ?_⟩
    rw [back, moved, add_assoc]

theorem Nets.whenever (h : Nets weigh op d plan) (cond : Bool) :
    Nets weigh (whenever cond op) (if cond then d else 0) (if cond then plan else []) := by
  cases cond with
  | true => exact h
  | false => exact nets_skip

theorem Nets.andThen_undo {cleanup : Op ε} {d₁ d₂ : ρ → Int}
    {plan₁ plan₂ : List (ε × (ρ → Int))} (h₁ : Nets weigh first d₁ plan₁)
    (h₂ : Nets weigh second d₂ plan₂) (undo : Grants weigh cleanup (-d₁)) :
    Nets weigh (Requests.andThen first (Requests.onError second cleanup)) (d₁ + d₂)
      (plan₁ ++ plan₂) := by
  refine (h₁.andThen (h₂.onError undo)).of_eq rfl ?_
  simp [Function.comp_def]

theorem nets_forEach_nil (body : α → Op ε) : Nets weigh (forEach [] body) 0 [] := nets_skip

theorem nets_forEach_singleton {a : α} (h : Nets weigh (body a) d plan) :
    Nets weigh (forEach [a] body) d plan :=
  (h.andThen nets_skip).of_eq (by simp) (by simp)

/-! ## All or nothing -/

def AllOrNothing (weigh : ε → ρ → Int) (op : Op ε) (device : Device ε) : Prop :=
  (op device).2 ≠ 0 → net weigh (op device).1.log = net weigh device.log

variable {rc : Int}

theorem Nets.allOrNothing_iff
    (nets : Nets weigh op d plan) (failed : rc ≠ 0) (k : Nat) (log : List ε) :
    AllOrNothing weigh op (refusing rc k log) ↔ ∀ e u, plan[k]? = some (e, u) → u = 0 := by
  cases here : plan[k]? with
  | none =>
    -- the operation makes fewer requests than that and succeeds
    have past := List.getElem?_eq_none_iff.mp here
    obtain ⟨j, rfl⟩ := Nat.exists_eq_add_of_le past
    obtain ⟨log', ran, -⟩ := nets.later rc j log
    simp [AllOrNothing, ran]
  | some step =>
    obtain ⟨e, u⟩ := step
    obtain ⟨log', ran, moved⟩ := nets.refused k e u here rc failed log
    have start : (refusing rc k log).log = log := rfl
    simp [AllOrNothing, ran, failed, granting, start, moved]

def Clean (weigh : ε → ρ → Int) (op : Op ε) (d : ρ → Int) (requests : List ε) : Prop :=
  Nets weigh op d (requests.map fun e => (e, 0))

theorem Nets.allOrNothing_iff_of_request
    (nets : Nets weigh op d plan) (failed : rc ≠ 0) (k : Nat) (log : List ε)
    {undone : ε → Prop} (tells : ∀ step ∈ plan, step.2 = 0 ↔ undone step.1) :
    AllOrNothing weigh op (refusing rc k log) ↔ ∀ e, (plan.map Prod.fst)[k]? = some e →
    undone e := by
  rw [nets.allOrNothing_iff failed k log]
  cases here : plan[k]? with
  | none => simp [here]
  | some step =>
    obtain ⟨e, u⟩ := step
    have told := tells (e, u) (List.mem_of_getElem? here)
    simp [here, ← told]

variable {requests : List ε}

theorem Clean.allOrNothing
    (clean : Clean weigh op d requests) (failed : rc ≠ 0) (k : Nat) (log : List ε) :
    AllOrNothing weigh op (refusing rc k log) := by
  apply (Nets.allOrNothing_iff clean failed k log).mpr
  intro e u here
  rw [List.getElem?_map, Option.map_eq_some_iff] at here
  obtain ⟨e', -, same⟩ := here
  cases same
  rfl

theorem Clean.of_eq {requests' : List ε}
    (clean : Clean weigh op d requests) (same : d = d') (sameRequests : requests = requests') :
    Clean weigh op d' requests' := same ▸ sameRequests ▸ clean

theorem clean_skip : Clean weigh skip 0 [] := nets_skip

variable (weigh) in
theorem clean_attempt (e : ε) : Clean weigh (attempt e) (weigh e) [e] := nets_attempt weigh e

theorem Clean.whenever (clean : Clean weigh op d requests) (cond : Bool) :
    Clean weigh (whenever cond op) (if cond then d else 0) (if cond then requests else []) := by
  cases cond with
  | true => exact clean
  | false => exact clean_skip

theorem Clean.andThen_still {requests₁ requests₂ : List ε}
    (h₁ : Clean weigh first 0 requests₁) (h₂ : Clean weigh second d requests₂) :
    Clean weigh (andThen first second) d (requests₁ ++ requests₂) :=
  (Nets.andThen h₁ h₂).of_eq (by simp) (by simp)

theorem Clean.andThen_undo {cleanup : Op ε} {d₁ d₂ : ρ → Int}
    {requests₁ requests₂ : List ε} (h₁ : Clean weigh first d₁ requests₁)
    (h₂ : Clean weigh second d₂ requests₂) (undo : Grants weigh cleanup (-d₁)) :
    Clean weigh (andThen first (onError second cleanup)) (d₁ + d₂) (requests₁ ++ requests₂) :=
  (Nets.andThen_undo h₁ h₂ undo).of_eq rfl List.map_append.symm

end Net

end DisplayDrivers.Lib.Requests
