import Mathlib.Tactic.Common
import MultigresOperator.Api.Objects

/-!
# Status conditions

The phase and the condition list of an object's status, and the helpers every controller reads and
writes the list with. It may hold several entries of one type; the helpers see the first.

## Main definitions

* `Phase`, `Condition`, `ConditionStatus`
* `setCondition`, `findStatusCondition`, `isConditionTrue`, `isConditionFalse`
* `setStatusCondition`: a write that stamps the time
* `putCondition`: the list with one entry replaced or added

## Main results

* `findStatusCondition_setCondition`: reading after a write
* `setCondition_eq_putCondition`, `putCondition_putCondition`: a write puts one entry, and the last
  entry put counts
-/

namespace MultigresOperator

inductive ConditionStatus
  | conditionTrue
  | conditionFalse
  | conditionUnknown
  deriving DecidableEq, Repr

/-- The lifecycle state of a resource; `unset` before its first status. -/
inductive Phase
  | unset
  | initializing
  | progressing
  | healthy
  | degraded
  | unknown
  deriving DecidableEq, Repr

/-- `metav1.Condition` -/
structure Condition where
  type : String
  status : ConditionStatus
  observedGeneration : ℕ := 0
  lastTransitionTime : Time := 0
  reason : String
  message : String := ""
  deriving DecidableEq, Repr

namespace Condition

def atTime (condition : Condition) (time : Time) : Condition :=
  { condition with lastTransitionTime := time }

section AtTime

variable (condition : Condition) (time time' : Time)

@[simp] theorem atTime_type : (condition.atTime time).type = condition.type := rfl

@[simp] theorem atTime_status : (condition.atTime time).status = condition.status := rfl

@[simp] theorem atTime_reason : (condition.atTime time).reason = condition.reason := rfl

@[simp] theorem atTime_message : (condition.atTime time).message = condition.message := rfl

@[simp] theorem atTime_lastTransitionTime : (condition.atTime time).lastTransitionTime = time := rfl

@[simp] theorem atTime_atTime : (condition.atTime time).atTime time' = condition.atTime time' := rfl

@[simp] theorem atTime_self : condition.atTime condition.lastTransitionTime = condition := rfl

end AtTime

/-- The condition as it replaces an earlier one: the transition time moves with the status only. -/
def replacing (condition : Condition) (old : Condition) : Condition :=
  if old.status ≠ condition.status then condition else condition.atTime old.lastTransitionTime

@[simp] theorem replacing_type (condition old : Condition) :
    (condition.replacing old).type = condition.type := by
  unfold replacing
  split <;> rfl

@[simp] theorem replacing_status (condition old : Condition) :
    (condition.replacing old).status = condition.status := by
  unfold replacing
  split <;> rfl

end Condition

def setCondition : List Condition → Condition → List Condition
  | [], condition => [condition]
  | c :: conditions, condition =>
    if c.type = condition.type then condition.replacing c :: conditions
    else c :: setCondition conditions condition

/-- `meta.FindStatusCondition` -/
def findStatusCondition (conditions : List Condition) (condType : String) : Option Condition :=
  conditions.find? (·.type == condType)

def conditionStatus (conditions : List Condition) (condType : String) : Option ConditionStatus :=
  (findStatusCondition conditions condType).map (·.status)

def isConditionTrue (conditions : List Condition) (condType : String) : Bool :=
  conditionStatus conditions condType == some .conditionTrue

def isConditionFalse (conditions : List Condition) (condType : String) : Bool :=
  conditionStatus conditions condType == some .conditionFalse

/-- **Reading after a write**: the written condition, with the transition time of the one it
replaces, and every other condition as before. -/
theorem findStatusCondition_setCondition (conditions : List Condition) (condition : Condition)
    (condType : String) :
    findStatusCondition (setCondition conditions condition) condType =
      if condType = condition.type then
        some ((findStatusCondition conditions condType).elim condition condition.replacing)
      else findStatusCondition conditions condType := by
  unfold findStatusCondition
  induction conditions with
  | nil => grind [setCondition]
  | cons c conditions ih =>
    unfold setCondition
    by_cases hc : c.type = condition.type <;> by_cases ht : condType = condition.type
    · simp [hc, ht]
    · have hne : ¬condition.type = condType := fun h => ht h.symm
      simp [hc, ht, hne]
    · -- the written condition lies further down the list
      subst ht
      simpa [hc] using ih
    · by_cases hct : c.type = condType <;> simp [hc, hct, ht, ih]

theorem conditionStatus_setCondition (conditions : List Condition) (condition : Condition) :
    conditionStatus (setCondition conditions condition) condition.type = some condition.status := by
  rw [conditionStatus, findStatusCondition_setCondition, if_pos rfl]
  cases findStatusCondition conditions condition.type <;> simp

/-- `meta.SetStatusCondition`: a condition without a time gets the current one. -/
def setStatusCondition (time : Time) (conditions : List Condition) (condition : Condition) :
    List Condition :=
  setCondition conditions (condition.atTime
    (if condition.lastTransitionTime = 0 then time else condition.lastTransitionTime))

/-- The list with the first entry of a condition's type replaced by it; without one it is added. -/
def putCondition : List Condition → Condition → List Condition
  | [], condition => [condition]
  | c :: conditions, condition =>
    if c.type = condition.type then condition :: conditions
    else c :: putCondition conditions condition

section Put

variable {conditions : List Condition} {a b : Condition}

theorem setCondition_eq_putCondition (conditions : List Condition) (condition : Condition) :
    setCondition conditions condition = putCondition conditions
      ((findStatusCondition conditions condition.type).elim condition condition.replacing) := by
  unfold findStatusCondition
  induction conditions with
  | nil => rfl
  | cons c conditions ih =>
    by_cases hc : c.type = condition.type
    · simp [setCondition, putCondition, hc]
    · have htype (old : Option Condition) :
          (old.elim condition condition.replacing).type = condition.type := by
        cases old <;> simp
      simp [setCondition, putCondition, hc, ih, htype]

theorem findStatusCondition_putCondition (conditions : List Condition) (a : Condition) :
    findStatusCondition (putCondition conditions a) a.type = some a := by
  unfold findStatusCondition
  induction conditions with
  | nil => simp [putCondition]
  | cons c conditions ih =>
    by_cases hc : c.type = a.type
    · simp [putCondition, hc]
    · simpa [putCondition, hc] using ih

theorem putCondition_putCondition (h : a.type = b.type) :
    putCondition (putCondition conditions a) b = putCondition conditions b := by
  induction conditions with
  | nil => simp [putCondition, h]
  | cons c conditions ih =>
    by_cases hc : c.type = b.type <;> simp [putCondition, h, hc, ih]

theorem putCondition_self (h : findStatusCondition conditions a.type = some a) :
    putCondition conditions a = conditions := by
  induction conditions with
  | nil => simp [findStatusCondition] at h
  | cons c conditions ih =>
    by_cases hc : c.type = a.type
    · have hca : c = a := by simpa [findStatusCondition, hc] using h
      simp [putCondition, hca]
    · have hrest : findStatusCondition conditions a.type = some a := by
        simpa [findStatusCondition, hc] using h
      simp [putCondition, hc, ih hrest]

theorem type_of_findStatusCondition {condType : String}
    (h : findStatusCondition conditions condType = some a) : a.type = condType := by
  simpa using List.find?_some h

end Put

end MultigresOperator
