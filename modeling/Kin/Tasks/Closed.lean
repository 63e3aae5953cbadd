import Kin.Tasks.Handlers

/-!
Closed tasks under handlers that take turns. `process_send_message` asks once whether
the task is closed, and no handler asks again when it goes on after an `await`: what it
then writes does not depend on what the task has become. So a closed task is safe just
as long as no handler that waited writes to it.
-/

namespace Kin.Tasks

open Kin.Py Kin.Lib

variable {profile : Profile} {t t' : Tables} {s : State}

/-! ### Closed tasks -/

/-- The stored status of the task is `completed` or `failed`. -/
def Tables.closed (t : Tables) (taskId : String) : Bool :=
  (t.tasks.get? taskId).any fun row => isClosed row.status

def KeepsClosed (t t' : Tables) : Prop :=
  ∀ taskId row, t.tasks.get? taskId = some row → isClosed row.status = true →
    ∃ row', t'.tasks.get? taskId = some row' ∧ row'.status = row.status ∧
      row'.resultJson = row.resultJson

/-- Whatever state of the run a task is closed in, it stays as it is. -/
def StaysClosed (profile : Profile) (tables : Tables) (events : List Event) : Prop :=
  ∀ before after, before ++ after <+: events →
    KeepsClosed (run (step profile) (.start tables) before).tables
      (run (step profile) (.start tables) (before ++ after)).tables

/-! ### Handlers that go on -/

def Attempt.writes : Attempt → Bool
  | .done => true
  | .refused => false
  | .raised _ => true

def Delivery.writes (x25519PublicKey : Option String) : Delivery → Bool
  | .status _ => true
  | .refused => false
  | .unreachable (.raised _) => (x25519PublicKey.filter (· ≠ "")).isSome
  | .unreachable _ => false
  | .raised _ => true

/-- The task that a handler writes to when it goes on after an `await`. -/
def State.writes? (s : State) : Event → Option String
  | .create _ _ => none
  | .send _ _ => none
  | .answered handler _ =>
      match s.handlers handler with
      | .model handling => some handling.taskId
      | _ => none
  | .delivered handler delivery =>
      match s.handlers handler with
      | .direct handling x25519PublicKey _ _ =>
          if delivery.writes x25519PublicKey then some handling.taskId else none
      | _ => none
  | .queued handler attempt =>
      match s.handlers handler with
      | .relay handling _ _ => if attempt.writes then some handling.taskId else none
      | _ => none

def State.writesOpen (s : State) (event : Event) : Bool :=
  (s.writes? event).all fun taskId => !s.tables.closed taskId

/-! ### What the statements keep -/

theorem KeepsClosed.refl (t : Tables) : KeepsClosed t t :=
  fun _ row hrow _ => ⟨row, hrow, rfl, rfl⟩

theorem KeepsClosed.trans {u : Tables} (h : KeepsClosed t t') (h' : KeepsClosed t' u) :
    KeepsClosed t u := by
  intro taskId row hrow hclosed
  obtain ⟨row', hrow', hstatus, hresult⟩ := h taskId row hrow hclosed
  rw [← hstatus] at hclosed
  obtain ⟨row'', hrow'', hstatus', hresult'⟩ := h' taskId row' hrow' hclosed
  exact ⟨row'', hrow'', hstatus'.trans hstatus, hresult'.trans hresult⟩

@[simp] theorem tasks_addMessage (message : MessageRow) :
    (t.addMessage message).tasks = t.tasks := rfl

@[simp] theorem closed_addMessage (message : MessageRow) (taskId : String) :
    (t.addMessage message).closed taskId = t.closed taskId := rfl

theorem keepsClosed_addMessage (message : MessageRow) : KeepsClosed t (t.addMessage message) :=
  KeepsClosed.refl t

theorem get?_updateTask_self {taskId : String} {f : TaskRow → TaskRow}
    {hf : ∀ row, (f row).taskId = row.taskId} :
    (t.updateTask taskId f hf).tasks.get? taskId = (t.tasks.get? taskId).map f :=
  Rows.lookup_modify_self hf

theorem get?_updateTask_of_ne {taskId other : String} {f : TaskRow → TaskRow}
    {hf : ∀ row, (f row).taskId = row.taskId} (h : other ≠ taskId) :
    (t.updateTask taskId f hf).tasks.get? other = t.tasks.get? other :=
  Rows.lookup_modify_of_ne hf h

theorem keepsClosed_updateTask {taskId : String} {f : TaskRow → TaskRow}
    {hf : ∀ row, (f row).taskId = row.taskId} (hopen : t.closed taskId = false) :
    KeepsClosed t (t.updateTask taskId f hf) := by
  intro other row hrow hclosed
  have hne : other ≠ taskId := by
    rintro rfl
    rw [Tables.closed, hrow, Option.any_some, hclosed] at hopen
    cases hopen
  exact ⟨row, by rw [get?_updateTask_of_ne hne, hrow], rfl, rfl⟩

/-- An update that writes neither the status nor the result. -/
theorem keepsClosed_updateTask_of_same {taskId : String} {f : TaskRow → TaskRow}
    {hf : ∀ row, (f row).taskId = row.taskId} (hstatus : ∀ row, (f row).status = row.status)
    (hresult : ∀ row, (f row).resultJson = row.resultJson) :
    KeepsClosed t (t.updateTask taskId f hf) := by
  intro other row hrow hclosed
  by_cases hother : other = taskId
  · subst hother
    exact ⟨f row, by rw [get?_updateTask_self, hrow]; rfl, hstatus row, hresult row⟩
  · exact ⟨row, by rw [get?_updateTask_of_ne hother, hrow], rfl, rfl⟩

theorem keepsClosed_insert {row : TaskRow} {tasks : TaskTable}
    (h : t.tasks.insert? row = some tasks) : KeepsClosed t (t.setTasks tasks) := by
  unfold TaskTable.insert? at h
  split at h
  · cases h
    intro taskId old hold hclosed
    refine ⟨old, ?_, rfl, rfl⟩
    change Rows.lookup TaskRow.taskId (t.tasks.rows ++ [row]) taskId = some old
    rw [Rows.lookup_append]
    change (t.tasks.get? taskId).or _ = some old
    rw [hold, Option.some_or]
  · cases h

/-- The row that the check read is the task that is written to. -/
theorem closed_of_mem {row : TaskRow} (hmem : row ∈ t.tasks.rows) :
    t.closed row.taskId = isClosed row.status := by
  rw [Tables.closed, TaskTable.get?, Rows.lookup_of_mem_nodup t.tasks.primaryKey hmem,
    Option.any_some]

/-! ### One step -/

theorem keepsClosed_fail {handling : Handling} (failure : Failure)
    (hopen : t.closed handling.taskId = false) : KeepsClosed t (fail t handling failure).tables :=
  keepsClosed_updateTask hopen

theorem keepsClosed_create (args : CreateTask) :
    KeepsClosed t (processCreateTask profile t args).tables := by
  unfold processCreateTask
  split
  · exact .refl t
  split
  · exact .refl t
  dsimp only
  split
  · split
    · exact .refl t
    · rename_i hinsert
      split
      · exact (keepsClosed_insert hinsert).trans (keepsClosed_addMessage _)
      · exact (keepsClosed_insert hinsert).trans (keepsClosed_addMessage _)
  · exact .refl t

/-- The row found is one of the table, as it is after the peer's id has been recorded. -/
theorem findTask_spec {taskId originRefId : Option String} {row : Option TaskRow}
    (h : findTask profile t taskId originRefId = (t', row)) :
    KeepsClosed t t' ∧ ∀ r, row = some r → t'.closed r.taskId = isClosed r.status := by
  unfold findTask at h
  split at h
  · rename_i found hfound
    cases h
    refine ⟨.refl t, fun r hr => ?_⟩
    cases hr
    exact closed_of_mem ((profile.order_perm t.tasks.rows).mem_iff.mp (List.mem_of_find?_eq_some hfound))
  · split at h
    · cases h
      exact ⟨.refl t, fun r hr => by cases hr⟩
    · rename_i found hfound
      cases h
      refine ⟨keepsClosed_updateTask_of_same (fun _ => rfl) (fun _ => rfl), fun r hr => ?_⟩
      cases hr
      obtain ⟨origin, -, hget⟩ := Option.bind_eq_some_iff.mp hfound
      have hrow : t.tasks.get? found.taskId = some found := by
        rw [Rows.key_of_lookup hget]
        exact hget
      rw [Tables.closed, get?_updateTask_self, hrow]
      rfl

theorem keepsClosed_receive {row : TaskRow} (args : SendMessage) (signature : String)
    (hopen : t.closed row.taskId = false) : KeepsClosed t (receiveMessage t row args signature).tables := by
  have hupdate : ∀ message (f : TaskRow → TaskRow) (hf : ∀ r, (f r).taskId = r.taskId),
      KeepsClosed t ((t.addMessage message).updateTask row.taskId f hf) :=
    fun message _ _ => (keepsClosed_addMessage message).trans (keepsClosed_updateTask hopen)
  unfold receiveMessage
  dsimp only
  split
  · exact keepsClosed_updateTask hopen
  split
  · exact hupdate _ _ _
  · exact hupdate _ _ _
  · split
    · exact hupdate _ _ _
    · exact hupdate _ _ _

theorem keepsClosed_send (args : SendMessage) :
    KeepsClosed t (processSendMessage profile t args).tables := by
  unfold processSendMessage
  split
  · exact .refl t
  split
  · rename_i hfind
    exact (findTask_spec hfind).1
  · rename_i row hfind
    obtain ⟨hkeeps, hclosed⟩ := findTask_spec hfind
    split
    · exact hkeeps
    rename_i hopen
    split
    · exact hkeeps
    split
    · exact hkeeps
    · refine hkeeps.trans (keepsClosed_receive args _ ?_)
      rw [hclosed row rfl]
      exact Bool.eq_false_iff.mpr hopen

theorem keepsClosed_answered {handling : Handling} (answer : Except Failure AgentReply)
    (hopen : t.closed handling.taskId = false) :
    KeepsClosed t (modelAnswered profile t handling answer).tables := by
  unfold modelAnswered
  split
  · exact keepsClosed_fail _ hopen
  · rename_i reply
    dsimp only
    -- the draft is saved first, and leaves the task open
    generalize hdraft : t.updateTask handling.taskId (fun row =>
      { row with
        status := some "input-required", draftContent := some reply.reply
        draftMessageType := some reply.messageType.value }) (by intro row; rfl) = u
    have hkeeps : KeepsClosed t u := hdraft ▸ keepsClosed_updateTask hopen
    have hopen' : u.closed handling.taskId = false := by
      rw [← hdraft, Tables.closed, get?_updateTask_self]
      cases t.tasks.get? handling.taskId with
      | none => rfl
      | some row => simp [isClosed]
    split
    · split
      · unfold autoRelay
        split
        · split
          · exact hkeeps
          · split
            · exact hkeeps
            · exact hkeeps.trans (keepsClosed_fail _ hopen')
        · exact hkeeps
      · exact hkeeps
    · exact hkeeps

theorem keepsClosed_relayed {handling : Handling} (content signature : String) (status : Json)
    (hopen : t.closed handling.taskId = false) :
    KeepsClosed t (answerRelayed profile t handling content signature status).tables := by
  unfold answerRelayed
  dsimp only
  split
  · exact (keepsClosed_addMessage _).trans (keepsClosed_fail _ hopen)
  · exact (keepsClosed_addMessage _).trans (keepsClosed_updateTask hopen)

theorem keepsClosed_delivered {handling : Handling} (x25519PublicKey : Option String)
    (content signature : String) (delivery : Delivery)
    (hopen : delivery.writes x25519PublicKey = true → t.closed handling.taskId = false) :
    KeepsClosed t
      (delivered profile t handling x25519PublicKey content signature delivery).tables := by
  unfold delivered
  split
  · exact keepsClosed_relayed _ _ _ (hopen rfl)
  · exact .refl t
  · split
    · exact .refl t
    · rename_i hkey
      split
      · exact .refl t
      · exact .refl t
      · exact keepsClosed_fail _ (hopen (Option.isNone_eq_false_iff.mp (Bool.eq_false_iff.mpr hkey)))
  · exact keepsClosed_fail _ (hopen rfl)

theorem keepsClosed_queued {handling : Handling} (content signature : String) (attempt : Attempt)
    (hopen : attempt.writes = true → t.closed handling.taskId = false) :
    KeepsClosed t (queued profile t handling content signature attempt).tables := by
  cases attempt with
  | done => exact keepsClosed_relayed _ _ _ (hopen rfl)
  | refused => exact .refl t
  | raised failure => exact keepsClosed_fail _ (hopen rfl)

theorem keepsClosed_step (profile : Profile) {event : Event} (h : s.writesOpen event = true) :
    KeepsClosed s.tables (step profile s event).tables := by
  have hopen : ∀ taskId, s.writes? event = some taskId → s.tables.closed taskId = false := by
    intro taskId hwrites
    rw [State.writesOpen, hwrites, Option.all_some] at h
    simpa using h
  cases event with
  | create handler args =>
      unfold step
      dsimp only
      split
      · exact keepsClosed_create args
      · exact .refl _
  | send handler args =>
      unfold step
      dsimp only
      split
      · exact keepsClosed_send args
      · exact .refl _
  | answered handler answer =>
      unfold step
      unfold State.writes? at hopen
      dsimp only at hopen ⊢
      split
      · rename_i handling hphase
        rw [hphase] at hopen
        exact keepsClosed_answered answer (hopen _ rfl)
      · exact .refl _
  | delivered handler delivery =>
      unfold step
      unfold State.writes? at hopen
      dsimp only at hopen ⊢
      split
      · rename_i handling key content signature hphase
        rw [hphase] at hopen
        exact keepsClosed_delivered _ _ _ _ fun hwrites => hopen _ (if_pos hwrites)
      · exact .refl _
  | queued handler attempt =>
      unfold step
      unfold State.writes? at hopen
      dsimp only at hopen ⊢
      split
      · rename_i handling content signature hphase
        rw [hphase] at hopen
        exact keepsClosed_queued _ _ _ fun hwrites => hopen _ (if_pos hwrites)
      · exact .refl _

/-! ### Runs -/

theorem keepsClosed_run (profile : Profile) {events : List Event}
    (h : Along (step profile) (fun s event => s.writesOpen event = true) s events) :
    KeepsClosed s.tables (run (step profile) s events).tables :=
  run_of_along (I := fun s' => KeepsClosed s.tables s'.tables)
    (fun _ _ hs hwrites => hs.trans (keepsClosed_step profile hwrites)) (.refl _) h

/-- In every run in which no handler that waited writes to a task that was closed in the
meantime, a closed task stays closed, with its result. -/
theorem closed_tasks_stay_closed (profile : Profile) (tables : Tables) (events : List Event)
    (h : Along (step profile) (fun s event => s.writesOpen event = true) (.start tables) events) :
    StaysClosed profile tables events := by
  intro before after hprefix
  obtain ⟨rest, rfl⟩ := hprefix
  rw [along_append, along_append] at h
  rw [run_append]
  exact keepsClosed_run profile h.1.2

namespace Sample

def aliceProfile : Profile where
  verifySignature _ _ _ := true
  realText _ := ""
  signAnswer _ _ _ := some "00"
  bindFailure _ := .unhandled "ProgrammingError" "type is not supported"

def bob : Contact where
  username := "bob"
  publicKey := some "00"
  fingerprintVerified := true
  autonomyLevel := some "review_all"
  endpoint := some "http://bob.example"
  x25519PublicKey := none

/-- A task that waits for `bob`. -/
def tables : Tables where
  identity := some "alice"
  contacts := [bob]
  tasks :=
    { rows :=
        [{ taskId := "t1", contactUsername := "bob", goal := "lunch", context := []
           status := some "input-required", resultJson := none, draftContent := none
           draftMessageType := none, agentName := none, peerAgentName := none
           peerTaskId := none, originRefId := none }]
      primaryKey := by simp }
  messages := []

def message (messageType : MessageType) (content : String) : SendMessage where
  taskId := .text "t1"
  fromUsername := "bob"
  content
  messageType
  originRefId := none
  rawBody := []
  xSignature := .text "00"
  backendReady := true

def reply : AgentReply := ⟨"at noon", .answer, by decide⟩

end Sample

/-- A question is answered before the task is finalized; another comes too late. -/
theorem finalized_task_stays_closed :
    StaysClosed Sample.aliceProfile Sample.tables
      [.send 0 (Sample.message .question "when?"), .answered 0 (.ok Sample.reply),
        .send 1 (Sample.message .finalizeAccept "noon"), .send 2 (Sample.message .question "where?")] := by
  apply closed_tasks_stay_closed
  refine ⟨?_, ?_, ?_, ?_, trivial⟩ <;> decide

/-- A question waits for the model while the task is finalized, and opens it again. -/
theorem finalized_task_reopened :
    ¬StaysClosed Sample.aliceProfile Sample.tables
      [.send 0 (Sample.message .question "when?"), .send 1 (Sample.message .finalizeAccept "noon"),
        .answered 0 (.ok Sample.reply)] := by
  intro h
  obtain ⟨row, hrow, hstatus, -⟩ := h
    [.send 0 (Sample.message .question "when?"), .send 1 (Sample.message .finalizeAccept "noon")]
    [.answered 0 (.ok Sample.reply)] (List.prefix_refl _) "t1" _ rfl rfl
  cases hrow
  have hreopened : some "input-required" = some "completed" := hstatus
  exact absurd (Option.some.inj hreopened) (by decide)

end Kin.Tasks
