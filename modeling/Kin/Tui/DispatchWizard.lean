import Kin.Lib.Run
import Kin.Tui.Dispatch

/-!
`DispatchWizardWidget` of `kin/tui/widgets/dispatch_wizard.py`, as far as keys, pickers and the
worker that sends the request decide what happens; the texts that it shows are left out. The worker
is a thread: it reads the draft some time after the confirmation and its items later still, while
the widget goes on getting keys.
-/

namespace Kin.Tui

open Kin.Py Kin.Lib Kin.ContextPantry

/-! ### The widget -/

/-- A key event: the name of the key and the text it types. -/
structure Key where
  key : String
  character : Option String := none

/-- What a picker is opened for. -/
inductive Picker
  | peer
  | sender
  | receiver
  deriving DecidableEq

def Picker.step : Picker → DispatchStep
  | .peer => .peerSelection
  | .sender => .senderAgentSelection
  | .receiver => .receiverAgentSelection

/-- How starting a picker or the worker goes: in a running app, without one, or by raising. -/
inductive Launch
  | running
  | headless
  | raised

/-- What a key event meets: how a start goes, what the picker would offer, the next `uuid4`, and
whether a dispatch without an app succeeds. -/
structure Surroundings where
  launch : Launch
  choices : List String
  uuid : String
  succeeds : Bool

/-- `WidgetLifecycleState`. -/
inductive LifecycleState
  | loading | empty | normal | focused | disabled | recoverableError | narrow
  deriving DecidableEq

structure DispatchArgs where
  peerUsername : String
  senderAgentId : String
  receiverAgentId : String
  sessionType : String
  goal : String
  deriving DecidableEq

def DispatchDraft.args (draft : DispatchDraft) : DispatchArgs :=
  { peerUsername := draft.peerUsername
    senderAgentId := draft.senderAgentId
    receiverAgentId := draft.receiverAgentId
    sessionType := draft.sessionType
    goal := draft.goal }

structure DispatchWorker where
  confirmed : DispatchDraft
  args : Option DispatchArgs

/-- A call of `dispatch_new_session`. -/
structure Dispatched where
  confirmed : DispatchDraft
  args : DispatchArgs
  pantryItems : List ContextPantryItem
  succeeded : Bool

structure DispatchWizard where
  controller : DispatchController
  lifecycleState : LifecycleState
  isSubmitted : Bool
  isSending : Bool
  picker : Option Picker
  worker : Option DispatchWorker
  sent : List Dispatched

namespace DispatchWizard

/-- `DispatchWizardWidget(agent_id=agent_id, prompt=prompt)`. -/
def fresh (agentId prompt : String) : DispatchWizard :=
  { controller := ⟨{ senderAgentId := agentId, goal := prompt }, .peerSelection⟩
    lifecycleState := .normal
    isSubmitted := false
    isSending := false
    picker := none
    worker := none
    sent := [] }

section

variable (w : DispatchWizard)

/-- `_on_peer_selected`, `_on_sender_selected` and `_on_receiver_selected`. -/
def select (picker : Picker) (choice : String) : DispatchWizard :=
  { w with
    controller :=
      match picker with
      | .peer => w.controller.selectPeer choice
      | .sender => w.controller.selectSenderAgent choice
      | .receiver => w.controller.selectReceiverAgent choice }

/-- `open_peer_picker`, `open_sender_agent_picker` and `open_receiver_agent_picker`. Without an
app the first choice is taken. -/
def openPicker (picker : Picker) (around : Surroundings) : DispatchWizard :=
  match around.launch with
  | .running => { w with picker := some picker }
  | .headless =>
      match around.choices with
      | [] => w
      | choice :: _ => w.select picker choice
  | .raised => { w with lifecycleState := .recoverableError }

def picked (choice : Option String) : DispatchWizard :=
  match w.picker with
  | none => w
  | some picker =>
      match choice with
      | none => { w with picker := none }
      | some choice => { w with picker := none }.select picker choice

def addContextPantryItem (kind content uuid : String) : DispatchWizard :=
  if kind = "local_reference" then w
  else
    { w with
      controller := w.controller.addPantryItem
        { kind
          sizeBytes := content.utf8ByteSize
          classification := some "share_with_peer"
          itemId := some ("ctx_" ++ uuid)
          content := some content
          reviewed := false } }

def cycleCollaborationMode (delta : Int) : DispatchWizard :=
  let index := validSessionTypes.findIdx? fun t => t = w.controller.draft.sessionType
  let next := ((index.getD 0 : Nat) + delta) % (validSessionTypes.length : Int)
  { w with controller := w.controller.setSessionType (validSessionTypes.getD next.toNat "") }

def workerReads : DispatchWizard :=
  match w.worker with
  | some ⟨confirmed, none⟩ =>
      { w with worker := some ⟨confirmed, some w.controller.draft.args⟩ }
  | _ => w

/-- The call of the worker, with the items of the draft, and what it leaves behind. -/
def workerEnds (succeeds : Bool) : DispatchWizard :=
  match w.worker with
  | some ⟨confirmed, some args⟩ =>
      { w with
        isSending := false
        isSubmitted := succeeds
        lifecycleState := if succeeds then w.lifecycleState else .recoverableError
        worker := none
        sent := w.sent ++ [⟨confirmed, args, w.controller.draft.pantryItems, succeeds⟩] }
  | _ => w

def complete (draft : DispatchDraft) : Bool :=
  draft.peerUsername != "" && draft.senderAgentId != "" && draft.receiverAgentId != "" &&
    draft.goal != "" && stated draft.goal

/-- `confirm_dispatch`. Where the worker cannot be started, `is_submitted` stays set. -/
def confirmDispatch (around : Surroundings) : DispatchWizard :=
  if w.isSending || w.isSubmitted then w
  else if !complete w.controller.draft then { w with lifecycleState := .recoverableError }
  else
    let started :=
      { w with
        isSubmitted := true
        isSending := true
        worker := some ⟨w.controller.draft, none⟩ }
    match around.launch with
    | .running => started
    | .headless => started.workerReads.workerEnds around.succeeds
    | .raised =>
        { started with isSending := false, worker := none, lifecycleState := .recoverableError }

/-- `event.character and len(event.character) == 1 and event.character.isprintable()`. -/
def typed? (isPrintable : String → Bool) (key : Key) : Option String :=
  key.character.filter fun text => decide (text.length = 1) && isPrintable text

/-- The keys of a step; `none` goes on to the navigation. -/
def stepKey (isPrintable : String → Bool) (key : Key) (around : Surroundings) :
    Option DispatchWizard :=
  match w.controller.currentStep with
  | .peerSelection => if key.key = "enter" then some (w.openPicker .peer around) else none
  | .senderAgentSelection =>
      if key.key = "enter" then some (w.openPicker .sender around) else none
  | .receiverAgentSelection =>
      if key.key = "enter" then some (w.openPicker .receiver around) else none
  | .collaborationType =>
      if key.key = "down" || key.key = "j" then some (w.cycleCollaborationMode 1)
      else if key.key = "up" || key.key = "k" then some (w.cycleCollaborationMode (-1))
      else none
  | .goalInput =>
      let goal := w.controller.draft.goal
      if key.key = "backspace" then
        some { w with controller :=
          if goal = "" then w.controller
          else w.controller.setGoal (String.ofList goal.toList.dropLast) }
      else if ["enter", "tab", "right", "left"].contains key.key then none
      else
        (typed? isPrintable key).map fun text =>
          { w with controller := w.controller.setGoal (goal ++ text) }
  | .contextPantry =>
      if key.character = some "a" then
        some (w.addContextPantryItem "message" "Pantry note from keyboard" around.uuid)
      else if key.character = some "d" || key.character = some "x" then
        some { w with controller := (w.controller.removePantryItem 0).1 }
      else if key.character = some "v" then
        some { w with controller := (w.controller.reviewPantryItem 0).1 }
      else none
  | .reviewDispatch => none

def navigate (key : Key) (around : Surroundings) : DispatchWizard :=
  if key.key = "right" || key.key = "n" then { w with controller := w.controller.nextStep.1 }
  else if key.key = "left" || key.key = "p" then { w with controller := w.controller.prevStep.1 }
  else if key.key = "enter" && w.controller.currentStep.value = stepNames.length - 1 then
    w.confirmDispatch around
  else w

def onKey (isPrintable : String → Bool) (key : Key) (around : Surroundings) : DispatchWizard :=
  if w.lifecycleState = .disabled || w.isSubmitted || w.isSending then w
  else (w.stepKey isPrintable key around).getD (w.navigate key around)

end

inductive Event
  /-- A key; as long as a picker is open, it gets the keys. -/
  | key (key : Key) (around : Surroundings)
  /-- The open picker is left. -/
  | picked (choice : Option String)
  | workerReads
  | workerEnds (succeeds : Bool)
  /-- The app enables or disables the widget, or shows it otherwise. -/
  | lifecycle (state : LifecycleState)

def step (isPrintable : String → Bool) (w : DispatchWizard) : Event → DispatchWizard
  | .key key around => if w.picker.isSome then w else w.onKey isPrintable key around
  | .picked choice => w.picked choice
  | .workerReads => w.workerReads
  | .workerEnds succeeds => w.workerEnds succeeds
  | .lifecycle state => { w with lifecycleState := state }

/-! ### The draft under the keys -/

def note (uuid : String) (reviewed : Bool) : ContextPantryItem :=
  { kind := "message"
    sizeBytes := "Pantry note from keyboard".utf8ByteSize
    classification := some "share_with_peer"
    itemId := some ("ctx_" ++ uuid)
    content := some "Pantry note from keyboard"
    reviewed }

def Notes (items : List ContextPantryItem) : Prop :=
  (∀ item ∈ items, ∃ uuid reviewed, item = note uuid reviewed) ∧
    ∀ item ∈ items.tail, item.reviewed = false

/-- Every step before the one that is shown has what it asks for. -/
structure Drafted (c : DispatchController) : Prop where
  earlier : ∀ step : DispatchStep, step.value < c.currentStep.value → c.draft.meets step = true
  sessionType : c.draft.meets .collaborationType = true
  notes : Notes c.draft.pantryItems

variable {c c' : DispatchController} {items : List ContextPantryItem}

theorem notes_add (h : Notes items) (uuid : String) : Notes (items ++ [note uuid false]) := by
  refine ⟨fun item hitem => ?_, fun item hitem => ?_⟩
  · rcases List.mem_append.mp hitem with hold | hnew
    · exact h.1 item hold
    · exact ⟨uuid, false, List.mem_singleton.mp hnew⟩
  · cases items with
    | nil => cases hitem
    | cons first rest =>
        rcases List.mem_append.mp hitem with hold | hnew
        · exact h.2 item hold
        · rw [List.mem_singleton.mp hnew]
          rfl

theorem notes_remove (h : Notes items) : Notes (items.eraseIdx 0) := by
  cases items with
  | nil => exact h
  | cons first rest =>
      refine ⟨fun item hitem => h.1 item (List.mem_cons_of_mem first hitem), fun item hitem => ?_⟩
      exact h.2 item (List.mem_of_mem_tail hitem)

theorem notes_review (h : Notes items) : Notes (items.modify 0 DispatchController.review) := by
  cases items with
  | nil => exact h
  | cons first rest =>
      refine ⟨fun item hitem => ?_, h.2⟩
      rcases List.mem_cons.mp hitem with rfl | hrest
      · obtain ⟨uuid, reviewed, rfl⟩ := h.1 first List.mem_cons_self
        exact ⟨uuid, true, rfl⟩
      · exact h.1 item (List.mem_cons_of_mem first hrest)

theorem notes_cleared (h : Notes items) (hcleared : items.all cleared = true) :
    items.length ≤ 1 ∧ ∀ item ∈ items, ∃ uuid, item = note uuid true := by
  have hreviewed : ∀ item ∈ items, ∃ uuid, item = note uuid true := by
    intro item hitem
    obtain ⟨uuid, reviewed, rfl⟩ := h.1 item hitem
    have hitem' := List.all_eq_true.mp hcleared _ hitem
    cases reviewed with
    | true => exact ⟨uuid, rfl⟩
    | false => simp [cleared, note] at hitem'
  refine ⟨?_, hreviewed⟩
  match items, h, hreviewed with
  | [], _, _ => exact Nat.zero_le 1
  | [_], _, _ => exact le_rfl
  | first :: second :: rest, h, hreviewed =>
      obtain ⟨uuid, hsecond⟩ := hreviewed second (.tail _ (.head _))
      have hunreviewed := h.2 second (.head _)
      rw [hsecond] at hunreviewed
      cases hunreviewed

theorem value_le_review (step : DispatchStep) : step.value ≤ DispatchStep.reviewDispatch.value := by
  cases step <;> decide

theorem value_injective {step step' : DispatchStep} (h : step.value = step'.value) :
    step = step' := by
  cases step <;> cases step' <;> first | rfl | cases h

/-- Moving to another step changes nothing that a step asks for. -/
theorem meets_moved (draft : DispatchDraft) (currentStep : Nat) (step : DispatchStep) :
    ({ draft with currentStep, dirty := true } : DispatchDraft).meets step = draft.meets step := by
  cases step <;> rfl

/-- An edit of what the shown step is about. -/
theorem Drafted.edit (h : Drafted c) (hstep : c'.currentStep = c.currentStep)
    (hkeeps : c.draft.KeepsBut c'.draft c.currentStep)
    (htype : c'.draft.meets .collaborationType = true) (hnotes : Notes c'.draft.pantryItems) :
    Drafted c' where
  earlier step hlt := by
    rw [hstep] at hlt
    rw [hkeeps step ?_ ?_]
    · exact h.earlier step hlt
    · rintro rfl
      exact absurd hlt (Nat.lt_irrefl _)
    · rintro rfl
      exact absurd (value_le_review c.currentStep) (Nat.not_le.mpr hlt)
  sessionType := htype
  notes := hnotes

theorem Drafted.next (h : Drafted c) : Drafted c.nextStep.1 := by
  rcases c.nextStep_cases with hsame | ⟨target, hvalue, hmeets, hnext⟩
  · rw [hsame]
    exact h
  · rw [hnext]
    refine ⟨fun step hlt => ?_, (meets_moved ..).trans h.sessionType, h.notes⟩
    rw [meets_moved]
    rcases Nat.lt_succ_iff_lt_or_eq.mp (hvalue ▸ hlt) with hearlier | hsame
    · exact h.earlier step hearlier
    · rw [value_injective hsame]
      exact hmeets

theorem Drafted.prev (h : Drafted c) : Drafted c.prevStep.1 := by
  rcases c.prevStep_cases with hsame | ⟨target, hback, hprev⟩
  · rw [hsame]
    exact h
  · rw [hprev]
    refine ⟨fun step hlt => ?_, (meets_moved ..).trans h.sessionType, h.notes⟩
    rw [meets_moved]
    exact h.earlier step (lt_trans hlt hback)

/-! ### The widget under the keys -/

/-- A call that is as it was confirmed, of a draft that has everything. -/
structure AsConfirmed (d : Dispatched) : Prop where
  args : d.args = d.confirmed.args
  pantryItems : d.pantryItems = d.confirmed.pantryItems
  meets : ∀ step, d.confirmed.meets step = true
  notes : Notes d.pantryItems

/-- The worker is at work on the draft that is shown, and nobody touches it. -/
structure AtWork (w : DispatchWizard) (k : DispatchWorker) : Prop where
  confirmed : k.confirmed = w.controller.draft
  args : ∀ args, k.args = some args → args = w.controller.draft.args
  meets : ∀ step, w.controller.draft.meets step = true
  sending : w.isSending = true
  picker : w.picker = none

structure Guided (w : DispatchWizard) : Prop where
  drafted : Drafted w.controller
  picker : ∀ p, w.picker = some p → p.step = w.controller.currentStep
  worker : ∀ k, w.worker = some k → AtWork w k
  sent : ∀ d ∈ w.sent, AsConfirmed d
  failed : ∀ d ∈ w.sent.dropLast, d.succeeded = false
  settled : ∀ d ∈ w.sent, d.succeeded = true → w.isSubmitted = true ∧ w.worker = none

theorem guided_fresh (agentId prompt : String) : Guided (fresh agentId prompt) where
  drafted := by
    refine ⟨fun step hlt => absurd hlt (Nat.not_lt_zero _), ?_, ?_, ?_⟩
    · show validSessionTypes.contains "ask" = true
      decide
    · intro item hitem
      cases hitem
    · intro item hitem
      cases hitem
  picker p hp := by cases hp
  worker k hk := by cases hk
  sent d hd := by cases hd
  failed d hd := by cases hd
  settled d hd := by cases hd

variable {w : DispatchWizard}

theorem Guided.idle (h : Guided w) (hsending : w.isSending = false) : w.worker = none := by
  rw [Option.eq_none_iff_forall_ne_some]
  intro k hk
  have hbusy := (h.worker k hk).sending
  rw [hsending] at hbusy
  cases hbusy

theorem Guided.control (h : Guided w) (hidle : w.worker = none) (hdrafted : Drafted c')
    (hpicker : ∀ p, w.picker = some p → p.step = c'.currentStep) :
    Guided { w with controller := c' } where
  drafted := hdrafted
  picker := hpicker
  worker k hk := by
    rw [hidle] at hk
    cases hk
  sent := h.sent
  failed := h.failed
  settled := h.settled

theorem Guided.lifecycle (h : Guided w) (state : LifecycleState) :
    Guided { w with lifecycleState := state } where
  drafted := h.drafted
  picker := h.picker
  worker k hk := ⟨(h.worker k hk).confirmed, (h.worker k hk).args, (h.worker k hk).meets,
    (h.worker k hk).sending, (h.worker k hk).picker⟩
  sent := h.sent
  failed := h.failed
  settled := h.settled

/-! ### Pickers -/

theorem Guided.select (h : Guided w) (hidle : w.worker = none) (hclosed : w.picker = none)
    {p : Picker} (hstep : p.step = w.controller.currentStep) (choice : String) :
    Guided (w.select p choice) := by
  have hpicker : ∀ c' : DispatchController, ∀ p', w.picker = some p' →
      p'.step = c'.currentStep := by
    intro c' p' hp'
    rw [hclosed] at hp'
    cases hp'
  cases p with
  | peer =>
      refine h.control hidle (h.drafted.edit rfl ?_ h.drafted.sessionType h.drafted.notes)
        (hpicker _)
      rw [← hstep]
      exact keepsBut_selectPeer w.controller choice
  | sender =>
      refine h.control hidle (h.drafted.edit rfl ?_ h.drafted.sessionType h.drafted.notes)
        (hpicker _)
      rw [← hstep]
      exact keepsBut_selectSenderAgent w.controller choice
  | receiver =>
      refine h.control hidle (h.drafted.edit rfl ?_ h.drafted.sessionType h.drafted.notes)
        (hpicker _)
      rw [← hstep]
      exact keepsBut_selectReceiverAgent w.controller choice

theorem Guided.openPicker (h : Guided w) (hidle : w.worker = none) (hclosed : w.picker = none)
    {p : Picker} (hstep : p.step = w.controller.currentStep) (around : Surroundings) :
    Guided (w.openPicker p around) := by
  unfold DispatchWizard.openPicker
  split
  · refine ⟨h.drafted, fun p' hp' => ?_, fun k hk => ?_, h.sent, h.failed, h.settled⟩
    · cases hp'
      exact hstep
    · rw [hidle] at hk
      cases hk
  · split
    · exact h
    · exact h.select hidle hclosed hstep _
  · exact h.lifecycle _

theorem Guided.picked (h : Guided w) (choice : Option String) : Guided (w.picked choice) := by
  unfold DispatchWizard.picked
  split
  · exact h
  rename_i p hopen
  have hidle : w.worker = none := by
    rw [Option.eq_none_iff_forall_ne_some]
    intro k hk
    have hclosed := (h.worker k hk).picker
    rw [hopen] at hclosed
    cases hclosed
  have hleft : Guided { w with picker := none } := by
    refine ⟨h.drafted, fun p' hp' => ?_, fun k hk => ?_, h.sent, h.failed, h.settled⟩
    · cases hp'
    · rw [hidle] at hk
      cases hk
  split
  · exact hleft
  · exact hleft.select hidle rfl (h.picker p hopen) _

/-! ### The worker -/

theorem Guided.workerReads (h : Guided w) : Guided w.workerReads := by
  unfold DispatchWizard.workerReads
  split
  · rename_i confirmed hworker
    have hwork := h.worker _ hworker
    refine ⟨h.drafted, h.picker, fun k hk => ?_, h.sent, h.failed, fun d hd hsucceeded => ?_⟩
    · cases hk
      refine ⟨hwork.confirmed, fun args hargs => ?_, hwork.meets, hwork.sending, hwork.picker⟩
      cases hargs
      rfl
    · have hover := (h.settled d hd hsucceeded).2
      rw [hworker] at hover
      cases hover
  · exact h

theorem Guided.workerEnds (h : Guided w) (succeeds : Bool) : Guided (w.workerEnds succeeds) := by
  unfold DispatchWizard.workerEnds
  split
  · rename_i confirmed args hworker
    have hwork := h.worker _ hworker
    have hfailed : ∀ d ∈ w.sent, d.succeeded = false := by
      intro d hd
      by_contra hsucceeded
      have hover := (h.settled d hd (Bool.not_eq_false _ ▸ hsucceeded)).2
      rw [hworker] at hover
      cases hover
    refine ⟨h.drafted, h.picker, fun k hk => ?_, fun d hd => ?_, fun d hd => ?_,
      fun d hd hsucceeded => ?_⟩
    · cases hk
    · rcases List.mem_append.mp hd with hold | hnew
      · exact h.sent d hold
      · rw [List.mem_singleton.mp hnew]
        have hconfirmed : confirmed = w.controller.draft := hwork.confirmed
        subst hconfirmed
        exact ⟨hwork.args args rfl, rfl, hwork.meets, h.drafted.notes⟩
    · rw [List.dropLast_concat] at hd
      exact hfailed d hd
    · rcases List.mem_append.mp hd with hold | hnew
      · rw [hfailed d hold] at hsucceeded
        cases hsucceeded
      · rw [List.mem_singleton.mp hnew] at hsucceeded
        exact ⟨hsucceeded, rfl⟩
  · exact h

/-- The review is shown, so that every step before it has what it asks for. -/
theorem Drafted.meets (h : Drafted c) (hreview : c.currentStep = .reviewDispatch)
    (hcomplete : complete c.draft = true) (step : DispatchStep) : c.draft.meets step = true := by
  by_cases hstep : step = .reviewDispatch
  · subst hstep
    simp only [complete, Bool.and_eq_true] at hcomplete
    simp only [DispatchDraft.meets, Bool.and_eq_true]
    exact hcomplete.1
  · refine h.earlier step ?_
    rw [hreview]
    exact lt_of_le_of_ne (value_le_review step) fun heq => hstep (value_injective heq)

theorem Guided.confirmDispatch (h : Guided w) (hclosed : w.picker = none)
    (hreview : w.controller.currentStep = .reviewDispatch) (around : Surroundings) :
    Guided (w.confirmDispatch around) := by
  unfold DispatchWizard.confirmDispatch
  split
  · exact h
  rename_i hfree
  simp only [Bool.or_eq_true, not_or, Bool.not_eq_true] at hfree
  split
  · exact h.lifecycle _
  rename_i hcomplete
  simp only [Bool.not_eq_true', Bool.not_eq_false] at hcomplete
  have hmeets := h.drafted.meets hreview hcomplete
  have hfailed : ∀ d ∈ w.sent, d.succeeded ≠ true := by
    intro d hd hsucceeded
    have hover := (h.settled d hd hsucceeded).1
    rw [hfree.2] at hover
    cases hover
  have hstarted : Guided { w with
      isSubmitted := true, isSending := true, worker := some ⟨w.controller.draft, none⟩ } := by
    refine ⟨h.drafted, h.picker, fun k hk => ?_, h.sent, h.failed, fun d hd hsucceeded => ?_⟩
    · cases hk
      refine ⟨rfl, fun args hargs => ?_, hmeets, rfl, hclosed⟩
      cases hargs
    · exact absurd hsucceeded (hfailed d hd)
  dsimp only
  split
  · exact hstarted
  · exact hstarted.workerReads.workerEnds around.succeeds
  · refine ⟨h.drafted, h.picker, fun k hk => ?_, h.sent, h.failed,
      fun d hd hsucceeded => absurd hsucceeded (hfailed d hd)⟩
    cases hk

/-! ### Keys -/

theorem Guided.cycle (h : Guided w) (hidle : w.worker = none) (hclosed : w.picker = none)
    (hstep : w.controller.currentStep = .collaborationType) (delta : Int) :
    Guided (w.cycleCollaborationMode delta) := by
  unfold DispatchWizard.cycleCollaborationMode DispatchController.setSessionType
  dsimp only
  split
  · rename_i hvalid
    refine h.control hidle (h.drafted.edit rfl ?_ hvalid h.drafted.notes) ?_
    · rw [hstep]
      exact keepsBut_sessionType w.controller _
    · rw [hclosed]
      intro p hp
      cases hp
  · exact h

theorem Guided.goal (h : Guided w) (hidle : w.worker = none) (hclosed : w.picker = none)
    (hstep : w.controller.currentStep = .goalInput) (goal : String) :
    Guided { w with controller := w.controller.setGoal goal } := by
  refine h.control hidle (h.drafted.edit rfl ?_ h.drafted.sessionType h.drafted.notes) ?_
  · rw [hstep]
    exact keepsBut_setGoal w.controller goal
  · rw [hclosed]
    intro p hp
    cases hp

theorem Guided.pantry (h : Guided w) (hidle : w.worker = none) (hclosed : w.picker = none)
    (hstep : w.controller.currentStep = .contextPantry) (hnotes : Notes items) :
    Guided { w with
      controller := w.controller.edit { w.controller.draft with pantryItems := items } } := by
  refine h.control hidle (h.drafted.edit rfl ?_ h.drafted.sessionType hnotes) ?_
  · rw [hstep]
    exact keepsBut_pantryItems w.controller items
  · rw [hclosed]
    intro p hp
    cases hp

theorem Guided.stepKey (h : Guided w) (hidle : w.worker = none) (hclosed : w.picker = none)
    {isPrintable : String → Bool} {key : Key} {around : Surroundings} {w' : DispatchWizard}
    (hkey : w.stepKey isPrintable key around = some w') : Guided w' := by
  unfold DispatchWizard.stepKey at hkey
  split at hkey
  · rename_i hstep
    split at hkey
    · cases hkey
      exact h.openPicker (p := .peer) hidle hclosed hstep.symm around
    · cases hkey
  · rename_i hstep
    split at hkey
    · cases hkey
      exact h.openPicker (p := .sender) hidle hclosed hstep.symm around
    · cases hkey
  · rename_i hstep
    split at hkey
    · cases hkey
      exact h.openPicker (p := .receiver) hidle hclosed hstep.symm around
    · cases hkey
  · rename_i hstep
    split at hkey
    · cases hkey
      exact h.cycle hidle hclosed hstep _
    · split at hkey
      · cases hkey
        exact h.cycle hidle hclosed hstep _
      · cases hkey
  · rename_i hstep
    dsimp only at hkey
    split at hkey
    · cases hkey
      split
      · exact h
      · exact h.goal hidle hclosed hstep _
    · split at hkey
      · cases hkey
      · obtain ⟨text, -, rfl⟩ := Option.map_eq_some_iff.mp hkey
        exact h.goal hidle hclosed hstep _
  · rename_i hstep
    split at hkey
    · cases hkey
      exact h.pantry hidle hclosed hstep (notes_add h.drafted.notes around.uuid)
    · split at hkey
      · cases hkey
        unfold DispatchController.removePantryItem
        split
        · exact h.pantry hidle hclosed hstep (notes_remove h.drafted.notes)
        · exact h
      · split at hkey
        · cases hkey
          unfold DispatchController.reviewPantryItem
          split
          · exact h.pantry hidle hclosed hstep (notes_review h.drafted.notes)
          · exact h
        · cases hkey
  · cases hkey

theorem Guided.navigate (h : Guided w) (hidle : w.worker = none) (hclosed : w.picker = none)
    (key : Key) (around : Surroundings) : Guided (w.navigate key around) := by
  have hpicker : ∀ c' : DispatchController, ∀ p, w.picker = some p → p.step = c'.currentStep := by
    intro c' p hp
    rw [hclosed] at hp
    cases hp
  unfold DispatchWizard.navigate
  split
  · exact h.control hidle h.drafted.next (hpicker _)
  split
  · exact h.control hidle h.drafted.prev (hpicker _)
  split
  · rename_i hlast
    simp only [Bool.and_eq_true, decide_eq_true_eq] at hlast
    exact h.confirmDispatch hclosed (value_injective hlast.2) around
  · exact h

theorem Guided.step (h : Guided w) (isPrintable : String → Bool) (event : Event) :
    Guided (w.step isPrintable event) := by
  cases event with
  | key key around =>
      unfold DispatchWizard.step
      dsimp only
      split
      · exact h
      rename_i hclosed
      simp only [Bool.not_eq_true, Option.isSome_eq_false_iff, Option.isNone_iff_eq_none] at hclosed
      unfold DispatchWizard.onKey
      split
      · exact h
      rename_i hfree
      simp only [Bool.or_eq_true, not_or, Bool.not_eq_true] at hfree
      have hidle := h.idle hfree.2
      cases hkey : w.stepKey isPrintable key around with
      | some w' => exact h.stepKey hidle hclosed hkey
      | none => exact h.navigate hidle hclosed key around
  | picked choice => exact h.picked choice
  | workerReads => exact h.workerReads
  | workerEnds succeeds => exact h.workerEnds succeeds
  | lifecycle state => exact h.lifecycle state

/-! ### The context of a request -/

/-- Reviewed notes make a pack, whatever the time and the files. -/
theorem reviewItems_notes (files : LocalFiles) (refs : List RefRow) (current : Instant)
    (pack : List PantryItem) (h : ∀ item ∈ pack, ∃ uuid, item = (note uuid true).toPantryItem)
    (index : Nat) :
    ∃ entries, reviewItems files refs current index pack = .ok entries ∧
      entries.length = pack.length := by
  induction pack generalizing index with
  | nil => exact ⟨[], rfl, rfl⟩
  | cons item pack ih =>
      obtain ⟨entries, hentries, hlength⟩ :=
        ih (fun item hitem => h item (List.mem_cons_of_mem _ hitem)) (index + 1)
      obtain ⟨uuid, rfl⟩ := h item List.mem_cons_self
      have hreviewed : Reviewed files refs current (note uuid true).toPantryItem
          "Pantry note from keyboard" none := by
        refine ⟨rfl, fun value hvalue => ?_, ?_, by decide, by decide⟩
        · cases hvalue
        · simp [Stands, note]
      have hshared : Shared (note uuid true).toPantryItem := rfl
      have hitem : reviewItem files refs current index (note uuid true).toPantryItem =
          .ok (some (wireItem index (note uuid true).toPantryItem "Pantry note from keyboard"
            none)) := reviewItem_of_shared hshared hreviewed
      refine ⟨wireItem index (note uuid true).toPantryItem "Pantry note from keyboard" none ::
        entries, ?_, by rw [List.length_cons, hlength, List.length_cons]⟩
      rw [reviewItems, hitem, hentries]
      rfl

end DispatchWizard

/-- Over any keys, picks and steps of the worker: every step before the one that is shown has what
it asks for; every request but the last one failed; and each request is the draft as it was
confirmed, has what every step asks for, and takes along one context item at most, which the
pantry lets through. -/
theorem dispatch_of_run (isPrintable : String → Bool) (agentId prompt : String)
    (events : List DispatchWizard.Event) :
    let w := run (DispatchWizard.step isPrintable) (DispatchWizard.fresh agentId prompt) events
    (∀ step : DispatchStep, step.value < w.controller.currentStep.value →
      w.controller.draft.meets step = true) ∧
      (∀ d ∈ w.sent.dropLast, d.succeeded = false) ∧
      ∀ d ∈ w.sent, d.args = d.confirmed.args ∧ d.pantryItems = d.confirmed.pantryItems ∧
        (∀ step, d.confirmed.meets step = true) ∧ d.pantryItems.length ≤ 1 ∧
          ∀ files refs current, ∃ pack,
            buildReviewedContextPack files refs
              (d.pantryItems.map ContextPantryItem.toPantryItem) current = .ok pack ∧
            pack.length = d.pantryItems.length := by
  intro w
  have hguided : w.Guided :=
    run_invariant (I := DispatchWizard.Guided) (fun _ event h => h.step isPrintable event)
      (DispatchWizard.guided_fresh agentId prompt) events
  refine ⟨hguided.drafted.earlier, hguided.failed, fun d hd => ?_⟩
  obtain ⟨hargs, hitems, hmeets, hnotes⟩ := hguided.sent d hd
  have hcleared : d.pantryItems.all cleared = true := by
    rw [hitems]
    exact hmeets .contextPantry
  obtain ⟨hone, hreviewed⟩ := DispatchWizard.notes_cleared hnotes hcleared
  refine ⟨hargs, hitems, hmeets, hone, fun files refs current => ?_⟩
  have hnote : ∀ item ∈ d.pantryItems.map ContextPantryItem.toPantryItem,
      ∃ uuid, item = (DispatchWizard.note uuid true).toPantryItem := by
    intro item hitem
    obtain ⟨item', hitem', rfl⟩ := List.mem_map.mp hitem
    obtain ⟨uuid, rfl⟩ := hreviewed item' hitem'
    exact ⟨uuid, rfl⟩
  obtain ⟨pack, hpack, hlength⟩ :=
    DispatchWizard.reviewItems_notes files refs current _ hnote 0
  exact ⟨pack, hpack, by rw [hlength, List.length_map]⟩

/-- A note is taken along. -/
example :
    let around (choice : String) : Surroundings := ⟨.headless, [choice], "1", true⟩
    let press (key choice : String) : DispatchWizard.Event :=
      .key { key, character := some key } (around choice)
    (run (DispatchWizard.step fun _ => true) (DispatchWizard.fresh "scout" "audit")
      [press "enter" "bob", press "n" "", press "n" "", press "enter" "helper", press "n" "",
        press "n" "", press "right" "", press "a" "", press "v" "", press "n" "",
        press "enter" ""]).sent.map (fun d => (d.args.peerUsername, d.pantryItems.length)) =
      [("bob", 1)] := by
  decide

end Kin.Tui
