import Kin.Tasks.Membership

/-!
The limit on the messages of a task. The first message of a task goes to a task without
messages, and a message of the peer is counted before it is stored; an automatic answer is
stored without a count.
-/

namespace Kin.Tasks

open Kin.Py Kin.Lib

variable {profile : Profile} {t t' : Tables} {s : State}

/-! ### Counting -/

/-- `SELECT COUNT(*) FROM messages WHERE task_id = ?`. -/
def Tables.countOf (t : Tables) (taskId : String) : Nat :=
  (t.messages.filter fun m => m.taskId == taskId).length

def WithinLimit (t : Tables) : Prop := ∀ taskId, t.countOf taskId ≤ maxTaskMessages

/-- The foreign key of `messages`. -/
def Filed (t : Tables) : Prop := ∀ m ∈ t.messages, (t.tasks.get? m.taskId).isSome = true

/-- The task that gets an automatic answer with this step. -/
def State.answers? (s : State) : Event → Option String
  | .delivered handler (.status _) =>
      match s.handlers handler with
      | .direct handling _ _ _ => some handling.taskId
      | _ => none
  | .queued handler .done =>
      match s.handlers handler with
      | .relay handling _ _ => some handling.taskId
      | _ => none
  | _ => none

/-- An automatic answer goes to a task that has room for it. -/
def AnswerFits (s : State) (event : Event) : Prop :=
  ∀ taskId, s.answers? event = some taskId → s.tables.countOf taskId < maxTaskMessages

instance (s : State) (event : Event) : Decidable (AnswerFits s event) :=
  decidable_of_iff
    ((s.answers? event).all (fun taskId => decide (s.tables.countOf taskId < maxTaskMessages)) =
      true)
    (by
      unfold AnswerFits
      cases s.answers? event <;> simp)

def LimitHolds (profile : Profile) (tables : Tables) (events : List Event) : Prop :=
  ∀ before, before <+: events → WithinLimit (run (step profile) (.start tables) before).tables

theorem countOf_of_append {message : MessageRow} (h : t'.messages = t.messages ++ [message])
    (taskId : String) :
    t'.countOf taskId = t.countOf taskId + if message.taskId = taskId then 1 else 0 := by
  unfold Tables.countOf
  rw [h, List.filter_append, List.length_append, List.filter_singleton]
  by_cases htask : message.taskId = taskId
  · rw [if_pos htask, beq_iff_eq.mpr htask]
    rfl
  · rw [if_neg htask, beq_eq_false_iff_ne.mpr htask]
    rfl

/-- A task without a row has no messages. -/
theorem Filed.countOf_eq_zero (h : Filed t) {taskId : String} (hnone : t.tasks.get? taskId = none) :
    t.countOf taskId = 0 := by
  unfold Tables.countOf
  rw [List.length_eq_zero_iff, List.filter_eq_nil_iff]
  intro m hm heq
  have hsome := h m hm
  rw [beq_iff_eq.mp heq, hnone] at hsome
  cases hsome

theorem get?_of_insert {row : TaskRow} {tasks : TaskTable} (h : t.tasks.insert? row = some tasks) :
    t.tasks.get? row.taskId = none ∧ (tasks.get? row.taskId).isSome = true := by
  unfold TaskTable.insert? at h
  split at h
  · rename_i hnew
    cases h
    have hnone : t.tasks.get? row.taskId = none := by
      unfold TaskTable.get? Rows.lookup
      rw [List.find?_eq_none]
      intro old hold heq
      exact hnew (of_decide_eq_true heq ▸ List.mem_map_of_mem hold)
    refine ⟨hnone, ?_⟩
    change (Rows.lookup TaskRow.taskId (t.tasks.rows ++ [row]) row.taskId).isSome = true
    rw [Rows.lookup_append, if_pos rfl, Option.isSome_or, Option.isSome_some, Bool.or_true]
  · cases h

/-! ### What is stored -/

/-- A step stores one message at most: the first of a task, one that was counted, or an
automatic answer. -/
inductive Stores (s : State) (event : Event) (t' : Tables) : Prop
  | nothing (hanswers : s.answers? event = none) (hsame : t'.messages = s.tables.messages)
  | first {message : MessageRow} (hanswers : s.answers? event = none)
      (hnew : s.tables.tasks.get? message.taskId = none)
      (hfiled : (t'.tasks.get? message.taskId).isSome = true)
      (hstored : t'.messages = s.tables.messages ++ [message])
  | counted {message : MessageRow} (hanswers : s.answers? event = none)
      (hroom : s.tables.countOf message.taskId < maxTaskMessages)
      (hfiled : (t'.tasks.get? message.taskId).isSome = true)
      (hstored : t'.messages = s.tables.messages ++ [message])
  | answer {message : MessageRow} (hanswers : s.answers? event = some message.taskId)
      (hstored : t'.messages = s.tables.messages ++ [message])

theorem stores_create (s : State) (handler : Nat) (args : CreateTask) :
    Stores s (.create handler args) (processCreateTask profile s.tables args).tables := by
  unfold processCreateTask
  split
  · exact .nothing rfl rfl
  split
  · exact .nothing rfl rfl
  dsimp only
  split
  · split
    · exact .nothing rfl rfl
    · rename_i tasks hinsert
      obtain ⟨hnew, hfiled⟩ := get?_of_insert hinsert
      split
      · refine .first rfl ?_ ?_ rfl
        · exact hnew
        · exact hfiled
      · refine .first rfl ?_ ?_ rfl
        · exact hnew
        · exact hfiled
  · exact .nothing rfl rfl

theorem messages_receive (t : Tables) (row : TaskRow) (args : SendMessage) (signature : String) :
    (receiveMessage t row args signature).tables.messages =
      if maxTaskMessages ≤ t.countOf row.taskId then t.messages
      else t.messages ++ [⟨row.taskId, args.fromUsername, args.content,
        some args.messageType.value, signature⟩] := by
  unfold receiveMessage Tables.countOf
  dsimp only
  split
  · rfl
  split
  · rfl
  · rfl
  · split <;> rfl

theorem stores_send (s : State) (handler : Nat) (args : SendMessage) :
    Stores s (.send handler args) (processSendMessage profile s.tables args).tables := by
  have hreceived := received_processSendMessage profile s.tables args
  generalize processSendMessage profile s.tables args = pause at hreceived
  cases hreceived with
  | unbound _ _ => exact .nothing rfl rfl
  | unknown _ _ => exact .nothing rfl rfl
  | @refused taskId t' row exit hbind hfind hrefusal =>
      have hmessages := messages_findTask profile s.tables (sqlText profile.realText taskId)
        args.originRefId
      rw [hfind] at hmessages
      exact .nothing rfl hmessages
  | @taken taskId t' row signature hbind hfind hrefusal =>
      have hmessages := messages_findTask profile s.tables (sqlText profile.realText taskId)
        args.originRefId
      obtain ⟨row', hrow', -⟩ := keepsContacts_findTask profile s.tables
        (sqlText profile.realText taskId) args.originRefId row.taskId row (get?_of_findTask hfind)
      rw [hfind] at hmessages hrow'
      dsimp only at hmessages hrow'
      obtain ⟨row'', hrow'', -⟩ := (worksOn_receive row args signature).acts.contact
        row.taskId row' hrow'
      have hcount : t'.countOf row.taskId = s.tables.countOf row.taskId := by
        unfold Tables.countOf
        rw [hmessages]
      have hstored := messages_receive t' row args signature
      rw [hcount, hmessages] at hstored
      split at hstored
      · exact .nothing rfl hstored
      · rename_i hroom
        refine .counted rfl ?_ ?_ hstored
        · exact not_le.mp hroom
        · exact Option.isSome_iff_exists.mpr ⟨row'', hrow''⟩

theorem messages_answered (handling : Handling) (answer : Except Failure AgentReply) :
    (modelAnswered profile t handling answer).tables.messages = t.messages := by
  unfold modelAnswered
  split
  · rfl
  · dsimp only
    split
    · split
      · unfold autoRelay
        split
        · split
          · rfl
          · split <;> rfl
        · rfl
      · rfl
    · rfl

theorem messages_relayed (profile : Profile) (t : Tables) (handling : Handling)
    (content signature : String) (status : Json) :
    ∃ message : MessageRow, message.taskId = handling.taskId ∧
      (answerRelayed profile t handling content signature status).tables.messages =
        t.messages ++ [message] := by
  unfold answerRelayed
  dsimp only
  split
  · exact ⟨_, rfl, rfl⟩
  · exact ⟨_, rfl, rfl⟩

theorem stores_delivered {handler : Nat} {handling : Handling} {x25519PublicKey : Option String}
    {content signature : String} (delivery : Delivery)
    (hphase : s.handlers handler = .direct handling x25519PublicKey content signature) :
    Stores s (.delivered handler delivery)
      (delivered profile s.tables handling x25519PublicKey content signature delivery).tables := by
  unfold delivered
  split
  · rename_i value
    obtain ⟨message, htask, hstored⟩ :=
      messages_relayed profile s.tables handling content signature value
    refine .answer ?_ hstored
    rw [htask]
    simp only [State.answers?, hphase]
  · exact .nothing rfl rfl
  · split
    · exact .nothing rfl rfl
    · split <;> exact .nothing rfl rfl
  · exact .nothing rfl rfl

theorem stores_queued {handler : Nat} {handling : Handling} {content signature : String}
    (attempt : Attempt) (hphase : s.handlers handler = .relay handling content signature) :
    Stores s (.queued handler attempt)
      (queued profile s.tables handling content signature attempt).tables := by
  unfold queued
  split
  · obtain ⟨message, htask, hstored⟩ :=
      messages_relayed profile s.tables handling content signature (.text "queued-relay")
    refine .answer ?_ hstored
    rw [htask]
    simp only [State.answers?, hphase]
  · exact .nothing rfl rfl
  · exact .nothing rfl rfl

theorem stores_step (profile : Profile) (s : State) (event : Event) :
    Stores s event (step profile s event).tables := by
  cases event with
  | create handler args =>
      unfold step
      dsimp only
      split
      · exact stores_create s handler args
      · exact .nothing rfl rfl
  | send handler args =>
      unfold step
      dsimp only
      split
      · exact stores_send s handler args
      · exact .nothing rfl rfl
  | answered handler answer =>
      unfold step
      dsimp only
      split
      · exact .nothing rfl (messages_answered _ answer)
      · exact .nothing rfl rfl
  | delivered handler delivery =>
      unfold step
      dsimp only
      split
      · rename_i hphase
        exact stores_delivered delivery hphase
      · rename_i hphase
        refine .nothing ?_ rfl
        unfold State.answers?
        split
        · cases ‹Event.delivered _ _ = _›
          split
          · rename_i hdirect
            exact absurd hdirect (hphase _ _ _ _)
          · rfl
        · cases ‹Event.delivered _ _ = _›
        · rfl
  | queued handler attempt =>
      unfold step
      dsimp only
      split
      · rename_i hphase
        exact stores_queued attempt hphase
      · rename_i hphase
        refine .nothing ?_ rfl
        unfold State.answers?
        split
        · cases ‹Event.queued _ _ = _›
        · cases ‹Event.queued _ _ = _›
          split
          · rename_i hrelay
            exact absurd hrelay (hphase _ _ _)
          · rfl
        · rfl

/-! ### Tasks of waiting handlers -/

theorem handling_of_answers {event : Event} {taskId : String}
    (h : s.answers? event = some taskId) :
    ∃ handling, (s.handlers event.handler).handling? = some handling ∧
      handling.taskId = taskId := by
  unfold State.answers? at h
  split at h
  · split at h
    · rename_i hphase
      exact ⟨_, congrArg Phase.handling? hphase, Option.some.inj h⟩
    · cases h
  · split at h
    · rename_i hphase
      exact ⟨_, congrArg Phase.handling? hphase, Option.some.inj h⟩
    · cases h
  · cases h

structure Housed (s : State) : Prop where
  filed : Filed s.tables
  waiting : ∀ handler handling, (s.handlers handler).handling? = some handling →
    (s.tables.tasks.get? handling.taskId).isSome = true

theorem KeepsContacts.isSome (h : KeepsContacts t t') {taskId : String}
    (hsome : (t.tasks.get? taskId).isSome = true) : (t'.tasks.get? taskId).isSome = true := by
  obtain ⟨row, hrow⟩ := Option.isSome_iff_exists.mp hsome
  obtain ⟨row', hrow', -⟩ := h taskId row hrow
  exact Option.isSome_iff_exists.mpr ⟨row', hrow'⟩

theorem keepsContacts_step (profile : Profile) (s : State) (event : Event) :
    KeepsContacts s.tables (step profile s event).tables := by
  have hgoes := goes_step profile s event
  generalize step profile s event = s' at hgoes ⊢
  cases hgoes with
  | ignored _ _ => exact (ActsOn.refl "" s.tables).contact
  | creates args _ => exact (worksOn_create args).acts.contact
  | sends args _ => exact (sendsTo_processSendMessage profile s.tables args).contacts
  | continues _ _ hworks => exact hworks.acts.contact

/-- A task whose handler waits for the model has been stored. -/
theorem stored_of_create {args : CreateTask} {handling : Handling}
    (h : (processCreateTask profile t args).phase.handling? = some handling) :
    ((processCreateTask profile t args).tables.tasks.get? handling.taskId).isSome = true := by
  revert h
  unfold processCreateTask
  split
  · intro h
    cases h
  split
  · intro h
    cases h
  dsimp only
  split
  · split
    · intro h
      cases h
    · rename_i hinsert
      split
      · intro h
        cases h
        exact (get?_of_insert hinsert).2
      · intro h
        cases h
  · intro h
    cases h

theorem housed_step (profile : Profile) {event : Event} (h : Housed s) :
    Housed (step profile s event) := by
  have hkeeps := keepsContacts_step profile s event
  have hstores := stores_step profile s event
  have hgoes := goes_step profile s event
  generalize step profile s event = s' at hkeeps hstores hgoes ⊢
  have hold : ∀ m ∈ s.tables.messages, (s'.tables.tasks.get? m.taskId).isSome = true :=
    fun m hm => hkeeps.isSome (h.filed m hm)
  have hadded : ∀ {message : MessageRow}, s'.tables.messages = s.tables.messages ++ [message] →
      (s'.tables.tasks.get? message.taskId).isSome = true → Filed s'.tables := by
    intro message hstored hfiled m hm
    rw [hstored, List.mem_append, List.mem_singleton] at hm
    rcases hm with hm | rfl
    · exact hold m hm
    · exact hfiled
  constructor
  · cases hstores with
    | nothing _ hsame =>
        intro m hm
        rw [hsame] at hm
        exact hold m hm
    | first _ _ hfiled hstored => exact hadded hstored hfiled
    | counted _ _ hfiled hstored => exact hadded hstored hfiled
    | answer hanswers hstored =>
        obtain ⟨handling, hphase, htask⟩ := handling_of_answers hanswers
        refine hadded hstored (hkeeps.isSome ?_)
        rw [← htask]
        exact h.waiting _ handling hphase
  · intro handler handling hphase
    have hother : ∀ {pause : Pause} {started : Nat}, handler ≠ started →
        ((s.pause started pause).handlers handler).handling? = some handling →
          (s.tables.tasks.get? handling.taskId).isSome = true := by
      intro pause started hne hwaits
      rw [handlers_pause_of_ne _ hne] at hwaits
      exact h.waiting handler handling hwaits
    cases hgoes with
    | ignored _ _ => exact h.waiting handler handling hphase
    | @creates started args _ =>
        by_cases hhandler : handler = started
        · subst hhandler
          rw [handlers_pause_self] at hphase
          exact stored_of_create hphase
        · exact hkeeps.isSome (hother hhandler hphase)
    | @sends started args _ =>
        by_cases hhandler : handler = started
        · subst hhandler
          rw [handlers_pause_self] at hphase
          have hsends := sendsTo_processSendMessage profile s.tables args
          obtain ⟨row, htaken, htask⟩ := hsends.next handling hphase
          refine hkeeps.isSome ?_
          rw [htask, (hsends.task row htaken).1]
          rfl
        · exact hkeeps.isSome (hother hhandler hphase)
    | continues _ hwaits hworks =>
        refine hkeeps.isSome ?_
        by_cases hhandler : handler = event.handler
        · subst hhandler
          rw [handlers_pause_self] at hphase
          rw [hworks.next handling hphase]
          exact h.waiting _ _ hwaits
        · exact hother hhandler hphase

/-! ### Runs -/

theorem withinLimit_step (profile : Profile) {event : Event} (hhoused : Housed s)
    (hlimit : WithinLimit s.tables) (hfits : AnswerFits s event) :
    WithinLimit (step profile s event).tables := by
  have hstores := stores_step profile s event
  generalize step profile s event = s' at hstores ⊢
  -- a stored message needs room in its task
  have hadded : ∀ {message : MessageRow}, s'.tables.messages = s.tables.messages ++ [message] →
      s.tables.countOf message.taskId < maxTaskMessages → WithinLimit s'.tables := by
    intro message hstored hroom taskId
    rw [countOf_of_append hstored]
    have hbefore := hlimit taskId
    split
    · rename_i htask
      rw [htask] at hroom
      omega
    · omega
  cases hstores with
  | nothing _ hsame =>
      intro taskId
      have hcount : s'.tables.countOf taskId = s.tables.countOf taskId := by
        unfold Tables.countOf
        rw [hsame]
      rw [hcount]
      exact hlimit taskId
  | first _ hnew _ hstored =>
      refine hadded hstored ?_
      rw [hhoused.filed.countOf_eq_zero hnew]
      decide
  | counted _ hroom _ hstored => exact hadded hstored hroom
  | answer hanswers hstored => exact hadded hstored (hfits _ hanswers)

/-- The limit holds along a run exactly if every automatic answer goes to a task that has room
for it. -/
theorem limit_holds_iff (profile : Profile) (tables : Tables) (events : List Event)
    (hfiled : Filed tables) (hlimit : WithinLimit tables) :
    LimitHolds profile tables events ↔
      Along (step profile) AnswerFits (.start tables) events := by
  constructor
  · intro h
    refine along_iff_prefix.mpr fun before event hprefix taskId hanswers => ?_
    have hafter := h (before ++ [event]) hprefix taskId
    rw [run_append, run_cons, run_nil] at hafter
    have hstores := stores_step profile (run (step profile) (.start tables) before) event
    generalize run (step profile) (.start tables) before = s at *
    generalize step profile s event = s' at *
    cases hstores with
    | nothing hnone _ => rw [hnone] at hanswers; cases hanswers
    | first hnone _ _ _ => rw [hnone] at hanswers; cases hanswers
    | counted hnone _ _ _ => rw [hnone] at hanswers; cases hanswers
    | answer hsome hstored =>
        rw [hsome] at hanswers
        rw [countOf_of_append hstored, if_pos (Option.some.inj hanswers)] at hafter
        omega
  · intro h before hprefix
    have hstart : Housed (.start tables) := ⟨hfiled, fun handler handling h => by cases h⟩
    obtain ⟨rest, rfl⟩ := hprefix
    rw [along_append] at h
    have hrun := run_of_along (I := fun s => Housed s ∧ WithinLimit s.tables)
      (fun s event hs hfits => ⟨housed_step profile hs.1, withinLimit_step profile hs.1 hs.2 hfits⟩)
      ⟨hstart, hlimit⟩ h.1
    exact hrun.2

namespace Sample

/-- `bob` gets answers without review. -/
def trustedBob : Contact := { bob with autonomyLevel := some "auto_relay_info" }

def emptyTables : Tables :=
  { tables with contacts := [trustedBob], tasks := { rows := [], primaryKey := List.nodup_nil } }

def createLunch : CreateTask where
  goal := "lunch"
  context := []
  requesterUsername := "bob"
  rawBody := []
  xSignature := .text "00"
  localRefId := .null
  taskId := "t1"
  agentName := none
  backendReady := true

def exchange (handler : Nat) : List Event :=
  [.send handler (message .question "when?"), .answered handler (.ok reply),
    .delivered handler (.status (.text "input-required"))]

theorem filed_emptyTables : Filed emptyTables := fun _ hm => absurd hm List.not_mem_nil

theorem withinLimit_emptyTables : WithinLimit emptyTables := fun _ => Nat.zero_le _

end Sample

/-- Four questions have room for their answers. -/
theorem limit_holds_four :
    LimitHolds Sample.aliceProfile Sample.emptyTables
      (.create 0 Sample.createLunch :: [1, 2, 3, 4].flatMap Sample.exchange) := by
  refine (limit_holds_iff _ _ _ Sample.filed_emptyTables Sample.withinLimit_emptyTables).mpr ?_
  decide +kernel

/-- The answer to the fifth is the eleventh message of the task. -/
theorem fifth_answer_exceeds_limit :
    ¬LimitHolds Sample.aliceProfile Sample.emptyTables
      (.create 0 Sample.createLunch :: [1, 2, 3, 4, 5].flatMap Sample.exchange) := by
  intro h
  have hcount := h _ (List.prefix_refl _) "t1"
  exact absurd hcount (by decide +kernel)

end Kin.Tasks
