import Kin.ContextPantry
import Kin.Session.History

/-!
`DispatchController` of `kin/tui/dispatch.py`: the draft of a session request and the step of the
wizard that is shown. A step further on is reached only from one whose requirement is met; going
back asks for nothing.
-/

namespace Kin.Tui

open Kin.Py Kin.ContextPantry

/-! ### Steps -/

inductive DispatchStep
  | peerSelection
  | senderAgentSelection
  | receiverAgentSelection
  | collaborationType
  | goalInput
  | contextPantry
  | reviewDispatch
  deriving DecidableEq

def DispatchStep.value : DispatchStep → Nat
  | .peerSelection => 0
  | .senderAgentSelection => 1
  | .receiverAgentSelection => 2
  | .collaborationType => 3
  | .goalInput => 4
  | .contextPantry => 5
  | .reviewDispatch => 6

def stepNames : List String :=
  ["Select Peer Contact", "Select Your Agent", "Select Their Agent", "Collaboration Mode",
    "Define Goal", "Context Pantry", "Review & Dispatch"]

/-- `DispatchStep(value)`; `none` when it raises. -/
def DispatchStep.ofValue? : Nat → Option DispatchStep
  | 0 => some .peerSelection
  | 1 => some .senderAgentSelection
  | 2 => some .receiverAgentSelection
  | 3 => some .collaborationType
  | 4 => some .goalInput
  | 5 => some .contextPantry
  | 6 => some .reviewDispatch
  | _ => none

def validSessionTypes : List String := Schemas.SessionType.all.map Schemas.SessionType.value

/-! ### The draft -/

/-- A `ContextPantryItem`. -/
structure ContextPantryItem extends PantryItem where
  sizeBytes : Nat
  deriving DecidableEq

/-- A `DispatchDraft`. -/
structure DispatchDraft where
  sessionType : String := "ask"
  peerUsername : String := ""
  senderAgentId : String := ""
  receiverAgentId : String := ""
  goal : String := ""
  pantryItems : List ContextPantryItem := []
  currentStep : Nat := 0
  dirty : Bool := false

structure DispatchController where
  draft : DispatchDraft
  currentStep : DispatchStep

/-- `bool(goal and goal.strip())`. -/
def stated (goal : String) : Bool := !(Session.strip (.text goal)).codePoints.isEmpty

def cleared (item : ContextPantryItem) : Bool :=
  item.classification == some "local_only" || item.classification == some "private" ||
    item.reviewed

def DispatchDraft.meets (draft : DispatchDraft) : DispatchStep → Bool
  | .peerSelection => draft.peerUsername != ""
  | .senderAgentSelection => draft.senderAgentId != ""
  | .receiverAgentSelection => draft.receiverAgentId != ""
  | .collaborationType => validSessionTypes.contains draft.sessionType
  | .goalInput => stated draft.goal
  | .contextPantry => draft.pantryItems.all cleared
  | .reviewDispatch =>
      draft.peerUsername != "" && draft.senderAgentId != "" && draft.receiverAgentId != "" &&
        draft.goal != ""

namespace DispatchController

variable (c : DispatchController)

def validateCurrentStep : Bool := c.draft.meets c.currentStep

/-- `set_step`: the controller, and whether the step was set. -/
def setStep (target : DispatchStep) : DispatchController × Bool :=
  if c.currentStep.value < target.value && !c.validateCurrentStep then (c, false)
  else
    ({ draft := { c.draft with currentStep := target.value, dirty := true }
       currentStep := target }, true)

def nextStep : DispatchController × Bool :=
  if c.currentStep.value < stepNames.length - 1 then
    match DispatchStep.ofValue? (c.currentStep.value + 1) with
    | some target => c.setStep target
    | none => (c, false)
  else (c, false)

def prevStep : DispatchController × Bool :=
  if 0 < c.currentStep.value then
    match DispatchStep.ofValue? (c.currentStep.value - 1) with
    | some target => c.setStep target
    | none => (c, false)
  else (c, false)

def edit (draft : DispatchDraft) : DispatchController :=
  { c with draft := { draft with dirty := true } }

def selectPeer (username : String) : DispatchController :=
  c.edit { c.draft with peerUsername := username }

def selectSenderAgent (agentId : String) : DispatchController :=
  c.edit { c.draft with senderAgentId := agentId }

def selectReceiverAgent (agentId : String) : DispatchController :=
  c.edit { c.draft with receiverAgentId := agentId }

def setSessionType (sessionType : String) : DispatchController :=
  if validSessionTypes.contains sessionType then c.edit { c.draft with sessionType } else c

def setGoal (goal : String) : DispatchController := c.edit { c.draft with goal }

def addPantryItem (item : ContextPantryItem) : DispatchController :=
  c.edit { c.draft with pantryItems := c.draft.pantryItems ++ [item] }

def removePantryItem (index : Nat) : DispatchController × Bool :=
  if index < c.draft.pantryItems.length then
    (c.edit { c.draft with pantryItems := c.draft.pantryItems.eraseIdx index }, true)
  else (c, false)

def review (item : ContextPantryItem) : ContextPantryItem :=
  { item with reviewed := true }

def reviewPantryItem (index : Nat) : DispatchController × Bool :=
  if index < c.draft.pantryItems.length then
    (c.edit { c.draft with pantryItems := c.draft.pantryItems.modify index review }, true)
  else (c, false)

end DispatchController

/-! ### What an edit leaves alone -/

/-- Whatever one draft meets another meets, but for one step and the review. -/
def DispatchDraft.KeepsBut (draft draft' : DispatchDraft) (step : DispatchStep) : Prop :=
  ∀ other, other ≠ step → other ≠ .reviewDispatch → draft'.meets other = draft.meets other

variable (c : DispatchController)

theorem keepsBut_selectPeer (username : String) :
    c.draft.KeepsBut (c.selectPeer username).draft .peerSelection := by
  intro other hstep hreview
  cases other with
  | peerSelection => exact absurd rfl hstep
  | reviewDispatch => exact absurd rfl hreview
  | _ => rfl

theorem keepsBut_selectSenderAgent (agentId : String) :
    c.draft.KeepsBut (c.selectSenderAgent agentId).draft .senderAgentSelection := by
  intro other hstep hreview
  cases other with
  | senderAgentSelection => exact absurd rfl hstep
  | reviewDispatch => exact absurd rfl hreview
  | _ => rfl

theorem keepsBut_selectReceiverAgent (agentId : String) :
    c.draft.KeepsBut (c.selectReceiverAgent agentId).draft .receiverAgentSelection := by
  intro other hstep hreview
  cases other with
  | receiverAgentSelection => exact absurd rfl hstep
  | reviewDispatch => exact absurd rfl hreview
  | _ => rfl

theorem keepsBut_sessionType (sessionType : String) :
    c.draft.KeepsBut (c.edit { c.draft with sessionType }).draft .collaborationType := by
  intro other hstep hreview
  cases other with
  | collaborationType => exact absurd rfl hstep
  | reviewDispatch => exact absurd rfl hreview
  | _ => rfl

theorem keepsBut_setGoal (goal : String) :
    c.draft.KeepsBut (c.setGoal goal).draft .goalInput := by
  intro other hstep hreview
  cases other with
  | goalInput => exact absurd rfl hstep
  | reviewDispatch => exact absurd rfl hreview
  | _ => rfl

theorem keepsBut_pantryItems (pantryItems : List ContextPantryItem) :
    c.draft.KeepsBut (c.edit { c.draft with pantryItems }).draft .contextPantry := by
  intro other hstep hreview
  cases other with
  | contextPantry => exact absurd rfl hstep
  | reviewDispatch => exact absurd rfl hreview
  | _ => rfl

theorem DispatchStep.ofValue?_eq_some {n : Nat} {step : DispatchStep}
    (h : DispatchStep.ofValue? n = some step) : step.value = n := by
  unfold DispatchStep.ofValue? at h
  split at h <;> cases h <;> rfl

/-- What `next_step` does: nothing, or one step on from a step whose requirement is met. -/
theorem DispatchController.nextStep_cases :
    c.nextStep.1 = c ∨ ∃ target : DispatchStep, target.value = c.currentStep.value + 1 ∧
      c.draft.meets c.currentStep = true ∧ c.nextStep.1 = ⟨{ c.draft with
        currentStep := target.value, dirty := true }, target⟩ := by
  unfold nextStep
  split
  · split
    · rename_i target htarget
      have hvalue := DispatchStep.ofValue?_eq_some htarget
      unfold setStep
      split
      · exact .inl rfl
      · rename_i hvalid
        refine .inr ⟨target, hvalue, ?_, rfl⟩
        simpa [hvalue, validateCurrentStep] using hvalid
    · exact .inl rfl
  · exact .inl rfl

/-- What `prev_step` does: nothing, or one step back. -/
theorem DispatchController.prevStep_cases :
    c.prevStep.1 = c ∨ ∃ target : DispatchStep, target.value < c.currentStep.value ∧
      c.prevStep.1 = ⟨{ c.draft with currentStep := target.value, dirty := true }, target⟩ := by
  unfold prevStep
  split
  · rename_i hpos
    split
    · rename_i target htarget
      have hvalue := DispatchStep.ofValue?_eq_some htarget
      have hlt : target.value < c.currentStep.value := by omega
      refine .inr ⟨target, hlt, ?_⟩
      unfold setStep
      rw [if_neg (by simp [Nat.not_lt.mpr (Nat.le_of_lt hlt)])]
    · exact .inl rfl
  · exact .inl rfl

end Kin.Tui
