import Kin.Tasks.Admission
import Mathlib.Data.List.Induction

/-!
Who writes to a task. A handler writes to one task only, the one it found or made, and goes on
writing to it after each `await`; the contact of a task never changes. Nothing compares the
sender of a message with that contact.
-/

namespace Kin.Tasks

open Kin.Py Kin.Lib

variable {profile : Profile} {t t' : Tables} {s : State} {taskId : String}

/-! ### Writing to one task -/

/-- The messages are stored in the task, the other rows are the same, and no row changes its
contact. -/
structure ActsOn (taskId : String) (t t' : Tables) : Prop where
  others : ∀ other, other ≠ taskId → t'.tasks.get? other = t.tasks.get? other
  stored : ∃ added, t'.messages = t.messages ++ added ∧ ∀ m ∈ added, m.taskId = taskId
  contact : ∀ id row, t.tasks.get? id = some row →
    ∃ row', t'.tasks.get? id = some row' ∧ row'.contactUsername = row.contactUsername

theorem ActsOn.refl (taskId : String) (t : Tables) : ActsOn taskId t t where
  others _ _ := rfl
  stored := ⟨[], (List.append_nil _).symm, fun _ hm => absurd hm List.not_mem_nil⟩
  contact _ row hrow := ⟨row, hrow, rfl⟩

theorem ActsOn.trans {u : Tables} (h : ActsOn taskId t t') (h' : ActsOn taskId t' u) :
    ActsOn taskId t u where
  others other hne := (h'.others other hne).trans (h.others other hne)
  stored := by
    obtain ⟨added, hadded, htask⟩ := h.stored
    obtain ⟨added', hadded', htask'⟩ := h'.stored
    refine ⟨added ++ added', ?_, fun m hm => ?_⟩
    · rw [hadded', hadded, List.append_assoc]
    · rcases List.mem_append.mp hm with hm | hm
      · exact htask m hm
      · exact htask' m hm
  contact id row hrow := by
    obtain ⟨row', hrow', hsame⟩ := h.contact id row hrow
    obtain ⟨row'', hrow'', hsame'⟩ := h'.contact id row' hrow'
    exact ⟨row'', hrow'', hsame'.trans hsame⟩

theorem actsOn_addMessage {message : MessageRow} (h : message.taskId = taskId) :
    ActsOn taskId t (t.addMessage message) where
  others _ _ := rfl
  stored := ⟨[message], rfl, fun m hm => by rw [List.mem_singleton.mp hm]; exact h⟩
  contact _ row hrow := ⟨row, hrow, rfl⟩

theorem actsOn_updateTask {f : TaskRow → TaskRow} {hf : ∀ row, (f row).taskId = row.taskId}
    (hcontact : ∀ row, (f row).contactUsername = row.contactUsername := by intro row; rfl) :
    ActsOn taskId t (t.updateTask taskId f hf) where
  others other hne := get?_updateTask_of_ne hne
  stored := ⟨[], (List.append_nil _).symm, fun _ hm => absurd hm List.not_mem_nil⟩
  contact id row hrow := by
    by_cases hid : id = taskId
    · subst hid
      exact ⟨f row, by rw [get?_updateTask_self, hrow]; rfl, hcontact row⟩
    · exact ⟨row, by rw [get?_updateTask_of_ne hid, hrow], rfl⟩

theorem actsOn_insert {row : TaskRow} {tasks : TaskTable}
    (h : t.tasks.insert? row = some tasks) : ActsOn row.taskId t (t.setTasks tasks) := by
  have hget : ∀ id, tasks.get? id =
      (t.tasks.get? id).or (if row.taskId = id then some row else none) := by
    intro id
    unfold TaskTable.insert? at h
    split at h
    · cases h
      exact Rows.lookup_append
    · cases h
  refine ⟨fun other hne => ?_, ⟨[], (List.append_nil _).symm, ?_⟩, fun id old hold => ?_⟩
  · rw [Tables.setTasks, hget, if_neg (Ne.symm hne), Option.or_none]
  · exact fun _ hm => absurd hm List.not_mem_nil
  · refine ⟨old, ?_, rfl⟩
    rw [Tables.setTasks, hget, hold, Option.some_or]

/-! ### Handlers -/

def Phase.handling? : Phase → Option Handling
  | .model handling => some handling
  | .direct handling _ _ _ => some handling
  | .relay handling _ _ => some handling
  | _ => none

structure WorksOn (taskId : String) (t : Tables) (pause : Pause) : Prop where
  acts : ActsOn taskId t pause.tables
  busy : pause.phase ≠ .idle
  next : ∀ handling, pause.phase.handling? = some handling → handling.taskId = taskId

theorem worksOn_ended {exit : Exit} (h : ActsOn taskId t t') :
    WorksOn taskId t ⟨t', .ended exit⟩ where
  acts := h
  busy := by simp
  next handling hhandling := by cases hhandling

theorem WorksOn.after {pause : Pause} (h : ActsOn taskId t t') (h' : WorksOn taskId t' pause) :
    WorksOn taskId t pause where
  acts := h.trans h'.acts
  busy := h'.busy
  next := h'.next

theorem worksOn_fail {handling : Handling} (failure : Failure) :
    WorksOn handling.taskId t (fail t handling failure) :=
  worksOn_ended actsOn_updateTask

theorem worksOn_create (args : CreateTask) :
    WorksOn args.taskId t (processCreateTask profile t args) := by
  have hended : ∀ exit, WorksOn args.taskId t ⟨t, .ended exit⟩ := fun _ => worksOn_ended (.refl _ _)
  unfold processCreateTask
  split
  · exact hended _
  split
  · exact hended _
  dsimp only
  split
  · split
    · exact hended _
    · rename_i hinsert
      have hacts := fun (message : MessageRow) (hmessage : message.taskId = args.taskId) =>
        (actsOn_insert hinsert).trans (actsOn_addMessage hmessage)
      split
      · refine ⟨hacts _ rfl, by simp, ?_⟩
        intro handling hhandling
        cases hhandling
        rfl
      · exact worksOn_ended (hacts _ rfl)
  · exact hended _

theorem worksOn_receive (row : TaskRow) (args : SendMessage) (signature : String) :
    WorksOn row.taskId t (receiveMessage t row args signature) := by
  have hupdate : ∀ message (f : TaskRow → TaskRow) (hf : ∀ r, (f r).taskId = r.taskId),
      message.taskId = row.taskId → (∀ r, (f r).contactUsername = r.contactUsername) →
        ActsOn row.taskId t ((t.addMessage message).updateTask row.taskId f hf) :=
    fun message _ _ hmessage hcontact =>
      (actsOn_addMessage hmessage).trans (actsOn_updateTask hcontact)
  unfold receiveMessage
  dsimp only
  split
  · exact worksOn_ended actsOn_updateTask
  split
  · exact worksOn_ended (hupdate _ _ _ rfl fun _ => rfl)
  · exact worksOn_ended (hupdate _ _ _ rfl fun _ => rfl)
  · split
    · refine ⟨hupdate _ _ _ rfl fun _ => rfl, by simp, ?_⟩
      intro handling hhandling
      cases hhandling
      rfl
    · exact worksOn_ended (hupdate _ _ _ rfl fun _ => rfl)

theorem worksOn_answered {handling : Handling} (answer : Except Failure AgentReply) :
    WorksOn handling.taskId t (modelAnswered profile t handling answer) := by
  unfold modelAnswered
  split
  · exact worksOn_fail _
  · rename_i reply
    dsimp only
    generalize hdraft : t.updateTask handling.taskId (fun row =>
      { row with
        status := some "input-required", draftContent := some reply.reply
        draftMessageType := some reply.messageType.value }) (by intro row; rfl) = u
    have hacts : ActsOn handling.taskId t u := hdraft ▸ actsOn_updateTask
    split
    · split
      · unfold autoRelay
        split
        · split
          · exact worksOn_ended hacts
          · split
            · refine ⟨hacts, by simp, ?_⟩
              intro next hnext
              cases hnext
              rfl
            · exact (worksOn_fail _).after hacts
        · exact worksOn_ended hacts
      · exact worksOn_ended hacts
    · exact worksOn_ended hacts

theorem worksOn_relayed {handling : Handling} (content signature : String) (status : Json) :
    WorksOn handling.taskId t (answerRelayed profile t handling content signature status) := by
  unfold answerRelayed
  dsimp only
  split
  · exact (worksOn_fail _).after (actsOn_addMessage rfl)
  · refine worksOn_ended (.trans (actsOn_addMessage ?_) (actsOn_updateTask fun _ => rfl))
    rfl

theorem worksOn_delivered {handling : Handling} (x25519PublicKey : Option String)
    (content signature : String) (delivery : Delivery) :
    WorksOn handling.taskId t
      (delivered profile t handling x25519PublicKey content signature delivery) := by
  unfold delivered
  split
  · exact worksOn_relayed ..
  · exact worksOn_ended (.refl _ _)
  · split
    · exact worksOn_ended (.refl _ _)
    split
    · refine ⟨.refl _ _, by simp, ?_⟩
      intro next hnext
      cases hnext
      rfl
    · exact worksOn_ended (.refl _ _)
    · exact worksOn_fail _
  · exact worksOn_fail _

theorem worksOn_queued {handling : Handling} (content signature : String) (attempt : Attempt) :
    WorksOn handling.taskId t (queued profile t handling content signature attempt) := by
  unfold queued
  split
  · exact worksOn_relayed ..
  · exact worksOn_ended (.refl _ _)
  · exact worksOn_fail _

/-! ### Steps -/

@[simp] theorem tables_pause (handler : Nat) (pause : Pause) :
    (s.pause handler pause).tables = pause.tables := rfl

@[simp] theorem handlers_pause_self (handler : Nat) (pause : Pause) :
    (s.pause handler pause).handlers handler = pause.phase :=
  Function.update_self ..

theorem handlers_pause_of_ne {handler other : Nat} (pause : Pause) (h : other ≠ handler) :
    (s.pause handler pause).handlers other = s.handlers other :=
  Function.update_of_ne h ..

def Event.handler : Event → Nat
  | .create handler _ => handler
  | .send handler _ => handler
  | .answered handler _ => handler
  | .delivered handler _ => handler
  | .queued handler _ => handler

def Event.starts : Event → Bool
  | .create _ _ => true
  | .send _ _ => true
  | _ => false

inductive Goes (profile : Profile) (s : State) : Event → State → Prop
  | ignored (event) (hbusy : event.starts = true → s.handlers event.handler ≠ .idle) :
      Goes profile s event s
  | creates {handler} (args) (hidle : s.handlers handler = .idle) :
      Goes profile s (.create handler args)
        (s.pause handler (processCreateTask profile s.tables args))
  | sends {handler} (args) (hidle : s.handlers handler = .idle) :
      Goes profile s (.send handler args)
        (s.pause handler (processSendMessage profile s.tables args))
  | continues {event handling pause} (hstarts : event.starts = false)
      (hphase : (s.handlers event.handler).handling? = some handling)
      (hworks : WorksOn handling.taskId s.tables pause) :
      Goes profile s event (s.pause event.handler pause)

theorem goes_step (profile : Profile) (s : State) (event : Event) :
    Goes profile s event (step profile s event) := by
  cases event with
  | create handler args =>
      unfold step
      dsimp only
      split
      · rename_i hidle
        exact .creates args hidle
      · rename_i hbusy
        exact .ignored _ fun _ => hbusy
  | send handler args =>
      unfold step
      dsimp only
      split
      · rename_i hidle
        exact .sends args hidle
      · rename_i hbusy
        exact .ignored _ fun _ => hbusy
  | answered handler answer =>
      unfold step
      dsimp only
      split
      · rename_i handling hphase
        exact .continues rfl (congrArg Phase.handling? hphase) (worksOn_answered answer)
      · exact .ignored _ fun h => by cases h
  | delivered handler delivery =>
      unfold step
      dsimp only
      split
      · rename_i handling key content signature hphase
        exact .continues rfl (congrArg Phase.handling? hphase) (worksOn_delivered ..)
      · exact .ignored _ fun h => by cases h
  | queued handler attempt =>
      unfold step
      dsimp only
      split
      · rename_i handling content signature hphase
        exact .continues rfl (congrArg Phase.handling? hphase) (worksOn_queued ..)
      · exact .ignored _ fun h => by cases h

/-! ### Senders -/

def startOf (events : List Event) (handler : Nat) : Option Event :=
  events.find? fun event => event.starts && event.handler == handler

structure Untouched (t t' : Tables) (taskId : String) : Prop where
  messages : (t'.messages.filter fun m => m.taskId == taskId) =
    t.messages.filter fun m => m.taskId == taskId
  row : (t'.tasks.get? taskId).map
      (fun row => (row.status, row.draftContent, row.draftMessageType)) =
    (t.tasks.get? taskId).map fun row => (row.status, row.draftContent, row.draftMessageType)

/-- Whenever in the run a handler of `process_send_message` stores a message in a task or changes
its status or draft, the sender of its message is the contact of the task. -/
def MembersOnly (profile : Profile) (tables : Tables) (events : List Event) : Prop :=
  ∀ before event, before ++ [event] <+: events → ∀ handler args,
    startOf (before ++ [event]) event.handler = some (.send handler args) → ∀ row,
      (run (step profile) (.start tables) before).tables.tasks.get? row.taskId = some row →
        ¬Untouched (run (step profile) (.start tables) before).tables
          (run (step profile) (.start tables) (before ++ [event])).tables row.taskId →
            args.fromUsername = row.contactUsername

def takenTask? (profile : Profile) (t : Tables) (args : SendMessage) : Option TaskRow :=
  match bindSql args.taskId with
  | .error _ => none
  | .ok taskId =>
      (findTask profile t (sqlText profile.realText taskId) args.originRefId).2.filter fun row =>
        (refusal? profile t args row).isNone

/-- A message that starts a handler and passes the checks is from the contact of its task. -/
def FromContact (profile : Profile) (s : State) : Event → Prop
  | .send handler args =>
      s.handlers handler = .idle → ∀ row, takenTask? profile s.tables args = some row →
        args.fromUsername = row.contactUsername
  | _ => True

/-! ### What a message touches -/

theorem Untouched.refl (t : Tables) (taskId : String) : Untouched t t taskId := ⟨rfl, rfl⟩

theorem Untouched.trans {u : Tables} (h : Untouched t t' taskId) (h' : Untouched t' u taskId) :
    Untouched t u taskId :=
  ⟨h'.messages.trans h.messages, h'.row.trans h.row⟩

theorem ActsOn.untouched (h : ActsOn taskId t t') {other : String} (hne : other ≠ taskId) :
    Untouched t t' other where
  messages := by
    obtain ⟨added, hadded, htask⟩ := h.stored
    have hnone : (added.filter fun m => m.taskId == other) = [] := by
      rw [List.filter_eq_nil_iff]
      intro m hm heq
      exact hne ((beq_iff_eq.mp heq).symm.trans (htask m hm))
    rw [hadded, List.filter_append, hnone, List.append_nil]
  row := by rw [h.others other hne]

theorem untouched_findTask (profile : Profile) (t : Tables) (taskId originRefId : Option String)
    (id : String) : Untouched t (findTask profile t taskId originRefId).1 id := by
  rcases findTask_cases profile t taskId originRefId with ⟨-, h, -⟩ | ⟨row, -, -, -, h⟩
  · rw [h]
    exact .refl t id
  · rw [h]
    refine ⟨rfl, ?_⟩
    by_cases hid : id = row.taskId
    · subst hid
      dsimp only
      rw [get?_updateTask_self, Option.map_map]
      rfl
    · dsimp only
      rw [get?_updateTask_of_ne hid]

/-- The row found is the one in the table. -/
theorem get?_of_findTask {taskId originRefId : Option String} {row : TaskRow}
    (h : findTask profile t taskId originRefId = (t', some row)) :
    t.tasks.get? row.taskId = some row := by
  rcases findTask_cases profile t taskId originRefId with ⟨-, -, hpeer⟩ | ⟨row', -, -, hget, hfound⟩
  · rw [h] at hpeer
    have hmem := (profile.order_perm t.tasks.rows).mem_iff.mp (List.mem_of_find?_eq_some hpeer.symm)
    exact Rows.lookup_of_mem_nodup t.tasks.primaryKey hmem
  · rw [h] at hfound
    cases hfound
    exact hget

theorem touched_receive {row row' : TaskRow} (args : SendMessage) (signature : String)
    (hget : t.tasks.get? row.taskId = some row') (hopen : isClosed row'.status = false) :
    ¬Untouched t (receiveMessage t row args signature).tables row.taskId := by
  intro h
  have hstored : ∀ message : MessageRow, message.taskId = row.taskId →
      ((t.messages ++ [message]).filter fun m => m.taskId == row.taskId) ≠
        t.messages.filter fun m => m.taskId == row.taskId := by
    intro message hmessage heq
    have hlength := congrArg List.length heq
    rw [List.filter_append, List.filter_singleton, hmessage, beq_self_eq_true, Bool.cond_true,
      List.length_append, List.length_singleton] at hlength
    omega
  unfold receiveMessage at h
  dsimp only at h
  split at h
  · have hstatus := h.row
    rw [get?_updateTask_self, hget] at hstatus
    have hfailed : some "failed" = row'.status :=
      congrArg (fun r => r.1) (Option.some.inj hstatus)
    rw [← hfailed] at hopen
    exact absurd hopen (by decide)
  split at h
  · exact hstored _ rfl h.messages
  · exact hstored _ rfl h.messages
  · split at h
    · exact hstored _ rfl h.messages
    · exact hstored _ rfl h.messages

/-! ### Runs -/

theorem startOf_append (before : List Event) (event : Event) (handler : Nat) :
    startOf (before ++ [event]) handler = (startOf before handler).or
      (if event.starts && event.handler == handler then some event else none) := by
  unfold startOf
  rw [List.find?_append, List.find?_singleton]

/-- A request to a handler without one starts it. -/
theorem startOf_append_of_none {before : List Event} {event : Event}
    (h : startOf before event.handler = none) (hstarts : event.starts = true) :
    startOf (before ++ [event]) event.handler = some event := by
  rw [startOf_append, h, hstarts, Option.none_or, beq_self_eq_true]
  rfl

theorem busy_processSendMessage (profile : Profile) (t : Tables) (args : SendMessage) :
    (processSendMessage profile t args).phase ≠ .idle := by
  have hreceived := received_processSendMessage profile t args
  generalize processSendMessage profile t args = pause at hreceived
  cases hreceived with
  | unbound _ _ => simp
  | unknown _ _ => simp
  | refused _ _ _ => simp
  | taken signature _ _ _ => exact (worksOn_receive _ args signature).busy

theorem idle_iff (profile : Profile) (tables : Tables) (before : List Event) (handler : Nat) :
    (run (step profile) (.start tables) before).handlers handler = .idle ↔
      startOf before handler = none := by
  induction before using List.reverseRecOn with
  | nil => exact iff_of_true rfl rfl
  | append_singleton before event ih =>
      rw [run_append, run_cons, run_nil, startOf_append]
      have hgoes := goes_step profile (run (step profile) (.start tables) before) event
      generalize run (step profile) (.start tables) before = s at ih hgoes ⊢
      generalize step profile s event = s' at hgoes ⊢
      -- a handler that is started or goes on is not idle afterwards
      have hpause : ∀ {pause : Pause}, pause.phase ≠ .idle →
          (event.starts = true ∨ s.handlers event.handler ≠ .idle) →
            ((s.pause event.handler pause).handlers handler = .idle ↔
              (startOf before handler).or
                (if event.starts && event.handler == handler then some event else none) = none) := by
        intro pause hbusy hstarted
        rw [Option.or_eq_none_iff, ← ih]
        by_cases hhandler : handler = event.handler
        · subst hhandler
          rw [handlers_pause_self]
          refine iff_of_false hbusy fun h => ?_
          rcases hstarted with hstarts | hwaits
          · rw [hstarts, beq_self_eq_true] at h
            cases h.2
          · exact hwaits h.1
        · have hother : (event.handler == handler) = false := beq_eq_false_iff_ne.mpr (Ne.symm hhandler)
          rw [handlers_pause_of_ne _ hhandler, hother, Bool.and_false]
          simp
      cases hgoes with
      | ignored _ hbusy =>
          rw [Option.or_eq_none_iff, ← ih]
          refine ⟨fun hidle => ⟨hidle, ?_⟩, fun h => h.1⟩
          rw [if_neg]
          intro h
          rw [Bool.and_eq_true, beq_iff_eq] at h
          exact hbusy h.1 (h.2 ▸ hidle)
      | creates args hidle => exact hpause (worksOn_create args).busy (.inl rfl)
      | sends args hidle => exact hpause (busy_processSendMessage profile _ args) (.inl rfl)
      | continues hstarts hphase hworks =>
          refine hpause hworks.busy (.inr fun hidle => ?_)
          rw [hidle] at hphase
          cases hphase

def KeepsContacts (t t' : Tables) : Prop :=
  ∀ id row, t.tasks.get? id = some row →
    ∃ row', t'.tasks.get? id = some row' ∧ row'.contactUsername = row.contactUsername

theorem keepsContacts_findTask (profile : Profile) (t : Tables)
    (taskId originRefId : Option String) :
    KeepsContacts t (findTask profile t taskId originRefId).1 := by
  rcases findTask_cases profile t taskId originRefId with ⟨-, h, -⟩ | ⟨row, -, -, -, h⟩
  · rw [h]
    exact (ActsOn.refl "" t).contact
  · have hacts : ActsOn row.taskId t (t.updateTask row.taskId fun r => { r with peerTaskId := taskId }) :=
      actsOn_updateTask
    rw [h]
    exact hacts.contact

/-- What `process_send_message` does to the tasks up to the model. -/
structure SendsTo (t : Tables) (pause : Pause) (taken : Option TaskRow) : Prop where
  contacts : KeepsContacts t pause.tables
  others : ∀ id, (∀ row, taken = some row → id ≠ row.taskId) → Untouched t pause.tables id
  task : ∀ row, taken = some row → t.tasks.get? row.taskId = some row ∧
    ¬Untouched t pause.tables row.taskId
  next : ∀ handling, pause.phase.handling? = some handling →
    ∃ row, taken = some row ∧ handling.taskId = row.taskId

theorem sendsTo_of_untouched {pause : Pause} (hcontacts : KeepsContacts t pause.tables)
    (huntouched : ∀ id, Untouched t pause.tables id) (hnext : pause.phase.handling? = none) :
    SendsTo t pause none where
  contacts := hcontacts
  others id _ := huntouched id
  task row hrow := by cases hrow
  next handling hhandling := by
    rw [hnext] at hhandling
    cases hhandling

theorem sendsTo_processSendMessage (profile : Profile) (t : Tables) (args : SendMessage) :
    SendsTo t (processSendMessage profile t args) (takenTask? profile t args) := by
  have hreceived := received_processSendMessage profile t args
  generalize processSendMessage profile t args = pause at hreceived
  unfold takenTask?
  cases hreceived with
  | unbound exc hbind =>
      rw [hbind]
      exact sendsTo_of_untouched (ActsOn.refl "" t).contact (.refl t) rfl
  | unknown hbind hfind =>
      rw [hbind]
      dsimp only
      rw [hfind]
      exact sendsTo_of_untouched (ActsOn.refl "" t).contact (.refl t) rfl
  | @refused taskId t' row exit hbind hfind hrefusal =>
      have hcontacts := keepsContacts_findTask profile t (sqlText profile.realText taskId)
        args.originRefId
      have huntouched := untouched_findTask profile t (sqlText profile.realText taskId)
        args.originRefId
      rw [hbind]
      dsimp only
      rw [hfind] at hcontacts huntouched ⊢
      rw [Option.filter_some, hrefusal]
      exact sendsTo_of_untouched hcontacts huntouched rfl
  | @taken taskId t' row signature hbind hfind hrefusal =>
      have hcontacts := keepsContacts_findTask profile t (sqlText profile.realText taskId)
        args.originRefId
      have huntouched := untouched_findTask profile t (sqlText profile.realText taskId)
        args.originRefId
      have hclosed := (findTask_spec hfind).2 row rfl
      have hget := get?_of_findTask hfind
      rw [hbind]
      dsimp only
      rw [hfind] at hcontacts huntouched ⊢
      rw [Option.filter_some, hrefusal, Option.isNone_none, if_pos rfl]
      dsimp only at hcontacts huntouched
      have hworks := worksOn_receive (t := t') row args signature
      obtain ⟨row', hrow', -⟩ := hcontacts row.taskId row hget
      have hopen : isClosed row'.status = false := by
        have hrowopen : isClosed row.status = false := by
          unfold refusal? at hrefusal
          split at hrefusal
          · cases hrefusal
          · rename_i hopen
            exact Bool.eq_false_iff.mpr hopen
        rw [Tables.closed, hrow', Option.any_some] at hclosed
        rw [hclosed, hrowopen]
      refine ⟨?_, fun id hid => ?_, fun found hfound => ?_, fun handling hhandling => ?_⟩
      · intro id old hold
        obtain ⟨old', hold', hsame⟩ := hcontacts id old hold
        obtain ⟨old'', hold'', hsame'⟩ := hworks.acts.contact id old' hold'
        exact ⟨old'', hold'', hsame'.trans hsame⟩
      · exact (huntouched id).trans (hworks.acts.untouched (hid row rfl))
      · cases hfound
        refine ⟨hget, fun h => touched_receive args signature hrow' hopen ?_⟩
        have hback := huntouched row.taskId
        exact ⟨h.messages.trans hback.messages.symm, h.row.trans hback.row.symm⟩
      · exact ⟨row, rfl, hworks.next handling hhandling⟩

/-- The task of a handler belongs to the contact that sent the message it was started with. -/
theorem owner_of_handling (profile : Profile) (tables : Tables) {before : List Event}
    (hcontact : Along (step profile) (FromContact profile) (.start tables) before)
    {handler other : Nat} {handling : Handling} {args : SendMessage}
    (hphase : ((run (step profile) (.start tables) before).handlers handler).handling? =
      some handling)
    (hstart : startOf before handler = some (.send other args)) :
    ∃ row, (run (step profile) (.start tables) before).tables.tasks.get? handling.taskId =
        some row ∧ row.contactUsername = args.fromUsername := by
  induction before using List.reverseRecOn generalizing handling with
  | nil => cases hstart
  | append_singleton before event ih =>
      rw [along_append] at hcontact
      have hidle := idle_iff profile tables before
      rw [run_append, run_cons, run_nil] at hphase ⊢
      have hgoes := goes_step profile (run (step profile) (.start tables) before) event
      have hfrom := hcontact.2.1
      generalize run (step profile) (.start tables) before = s at ih hgoes hidle hphase hfrom ⊢
      generalize step profile s event = s' at hgoes hphase ⊢
      -- a handler that waited before was started before
      have hbefore : ∀ {waiting}, (s.handlers handler).handling? = some waiting →
          startOf before handler = some (.send other args) := by
        intro waiting hwaiting
        have hbusy : startOf before handler ≠ none := by
          intro hnone
          rw [(hidle handler).mpr hnone] at hwaiting
          cases hwaiting
        obtain ⟨first, hfirst⟩ := Option.ne_none_iff_exists'.mp hbusy
        rw [startOf_append, hfirst, Option.some_or] at hstart
        rw [hfirst, hstart]
      -- and its task has kept its contact
      have hkept : ∀ {t' : Tables} {waiting}, KeepsContacts s.tables t' →
          (s.handlers handler).handling? = some waiting →
            ∃ row, t'.tasks.get? waiting.taskId = some row ∧
              row.contactUsername = args.fromUsername := by
        intro t' waiting hkeeps hwaiting
        obtain ⟨row, hrow, howner⟩ := ih hcontact.1 hwaiting (hbefore hwaiting)
        obtain ⟨row', hrow', hsame⟩ := hkeeps _ row hrow
        exact ⟨row', hrow', hsame.trans howner⟩
      cases hgoes with
      | ignored _ _ => exact ih hcontact.1 hphase (hbefore hphase)
      | @creates started args' hfree =>
          by_cases hhandler : handler = started
          · subst hhandler
            have hfirst : startOf (before ++ [.create handler args']) handler =
                some (.create handler args') :=
              startOf_append_of_none ((hidle handler).mp hfree) rfl
            rw [hfirst] at hstart
            cases hstart
          · rw [handlers_pause_of_ne _ hhandler] at hphase
            exact hkept (worksOn_create args').acts.contact hphase
      | @sends started args' hfree =>
          have hsends := sendsTo_processSendMessage profile s.tables args'
          by_cases hhandler : handler = started
          · subst hhandler
            have hfirst : startOf (before ++ [.send handler args']) handler =
                some (.send handler args') :=
              startOf_append_of_none ((hidle handler).mp hfree) rfl
            rw [hfirst] at hstart
            cases hstart
            rw [handlers_pause_self] at hphase
            obtain ⟨row, htaken, htask⟩ := hsends.next handling hphase
            obtain ⟨row', hrow', hsame⟩ := hsends.contacts _ row (hsends.task row htaken).1
            rw [htask, hfrom hfree row htaken]
            exact ⟨row', hrow', hsame⟩
          · rw [handlers_pause_of_ne _ hhandler] at hphase
            exact hkept hsends.contacts hphase
      | continues hstarts hwaits hworks =>
          by_cases hhandler : handler = event.handler
          · subst hhandler
            rw [handlers_pause_self] at hphase
            rw [hworks.next handling hphase]
            exact hkept hworks.acts.contact hwaits
          · rw [handlers_pause_of_ne _ hhandler] at hphase
            exact hkept hworks.acts.contact hphase

/-- Only the contact of a task touches it exactly if every message that passes the checks is
from the contact of its task. -/
theorem members_only_iff (profile : Profile) (tables : Tables) (events : List Event) :
    MembersOnly profile tables events ↔
      Along (step profile) (FromContact profile) (.start tables) events := by
  constructor
  · intro h
    refine along_iff_prefix.mpr fun before event hprefix => ?_
    have hmembers := h before event hprefix
    have hidle := idle_iff profile tables before
    rw [run_append, run_cons, run_nil] at hmembers
    generalize run (step profile) (.start tables) before = s at hmembers hidle ⊢
    cases event with
    | send handler args =>
        intro hfree row htaken
        have hsends := sendsTo_processSendMessage profile s.tables args
        obtain ⟨hget, htouched⟩ := hsends.task row htaken
        refine hmembers handler args ?_ row hget ?_
        · exact startOf_append_of_none ((hidle handler).mp hfree) rfl
        · unfold step
          dsimp only
          rw [hfree]
          exact htouched
    | create handler args => trivial
    | answered handler answer => trivial
    | delivered handler delivery => trivial
    | queued handler attempt => trivial
  · intro h before event hprefix handler args hstart row hget htouched
    have hbefore : Along (step profile) (FromContact profile) (.start tables) before := by
      obtain ⟨rest, rfl⟩ := hprefix
      rw [along_append, along_append] at h
      exact h.1.1
    have hfrom := along_iff_prefix.mp h before event hprefix
    have hidle := idle_iff profile tables before
    have howner := fun {handler other handling args} =>
      @owner_of_handling profile tables before hbefore handler other handling args
    have hgoes := goes_step profile (run (step profile) (.start tables) before) event
    rw [run_append, run_cons, run_nil] at htouched
    generalize run (step profile) (.start tables) before = s at *
    generalize step profile s event = s' at hgoes htouched
    cases hgoes with
    | ignored _ _ => exact absurd (.refl _ _) htouched
    | @creates started args hfree =>
        rw [startOf_append_of_none ((hidle started).mp hfree) rfl] at hstart
        cases hstart
    | @sends started args hfree =>
        rw [startOf_append_of_none ((hidle started).mp hfree) rfl] at hstart
        cases hstart
        have hsends := sendsTo_processSendMessage profile s.tables args
        by_contra hother
        refine htouched (hsends.others _ fun row' htaken hsame => hother ?_)
        rw [hsame, (hsends.task row' htaken).1] at hget
        cases hget
        exact hfrom hfree _ htaken
    | continues hstarts hwaits hworks =>
        have hbusy : startOf before event.handler ≠ none := by
          intro hnone
          rw [(hidle event.handler).mpr hnone] at hwaits
          cases hwaits
        obtain ⟨first, hfirst⟩ := Option.ne_none_iff_exists'.mp hbusy
        rw [startOf_append, hfirst, Option.some_or] at hstart
        obtain ⟨row', hrow', hsame⟩ := howner hwaits (hfirst.trans hstart)
        by_contra hother
        refine htouched (hworks.acts.untouched fun htask => hother ?_)
        rw [htask, hrow'] at hget
        cases hget
        exact hsame.symm

namespace Sample

def carol : Contact := { bob with username := "carol", endpoint := some "http://carol.example" }

/-- The task of `bob`, with another contact that has been verified. -/
def sharedTables : Tables := { tables with contacts := [bob, carol] }

def carolMessage : SendMessage := { message .finalizeAccept "noon" with fromUsername := "carol" }

end Sample

/-- `carol` finalizes the task of `bob`. -/
theorem stranger_finalizes :
    ¬MembersOnly Sample.aliceProfile Sample.sharedTables [.send 0 Sample.carolMessage] := by
  intro h
  obtain ⟨row, hrow, htask, hcontact⟩ :
      ∃ row, Sample.sharedTables.tasks.get? "t1" = some row ∧ row.taskId = "t1" ∧
        row.contactUsername = "bob" := ⟨_, rfl, rfl, rfl⟩
  have hcarol := h [] (.send 0 Sample.carolMessage) (List.prefix_refl _) 0 Sample.carolMessage rfl
    row (by rw [htask]; exact hrow)
  rw [htask, hcontact] at hcarol
  refine absurd (hcarol fun huntouched => ?_) (by decide)
  have hlength := congrArg List.length huntouched.messages
  exact absurd hlength (by decide)

end Kin.Tasks
