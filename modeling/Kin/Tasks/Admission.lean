import Kin.Tasks.Closed

/-!
What `process_send_message` does before it takes a message: it looks for the task, it records
the peer's id with a task that the message names by its reference, and only then it checks
that the task is open and who signed the message.
-/

namespace Kin.Tasks

open Kin.Py Kin.Lib

variable {profile : Profile} {t : Tables} {args : SendMessage}

/-! ### The checks -/

/-- The task that is looked up by the reference of the message, its path id being unknown. -/
def Tables.referenced? (t : Tables) (profile : Profile) (taskId originRefId : Option String) :
    Option TaskRow :=
  match t.taskOrPeer? profile taskId with
  | some _ => none
  | none => (originRefId.filter (· ≠ "")).bind t.tasks.get?

/-- The checks between the lookup of the task and the count of its messages: how they end the
handler, or `none`. -/
def refusal? (profile : Profile) (t : Tables) (args : SendMessage) (row : TaskRow) : Option Exit :=
  if isClosed row.status then some (.response 409 none)
  else
    match readSignature args.xSignature with
    | .error exit => some exit
    | .ok (_, bytes) =>
        match authenticate profile t args.fromUsername args.rawBody bytes with
        | .error exit => some exit
        | .ok _ => none

/-- The ways `process_send_message` goes: where `t'` is what the lookup of the task leaves. -/
inductive Received (profile : Profile) (t : Tables) (args : SendMessage) : Pause → Prop
  | unbound (exc) (hbind : bindSql args.taskId = .error exc) :
      Received profile t args ⟨t, .ended .raised⟩
  | unknown {taskId} (hbind : bindSql args.taskId = .ok taskId)
      (hfind : findTask profile t (sqlText profile.realText taskId) args.originRefId = (t, none)) :
      Received profile t args ⟨t, .ended (.response 404 none)⟩
  | refused {taskId t' row exit} (hbind : bindSql args.taskId = .ok taskId)
      (hfind : findTask profile t (sqlText profile.realText taskId) args.originRefId =
        (t', some row))
      (hrefusal : refusal? profile t args row = some exit) :
      Received profile t args ⟨t', .ended exit⟩
  | taken {taskId t' row} (signature : String) (hbind : bindSql args.taskId = .ok taskId)
      (hfind : findTask profile t (sqlText profile.realText taskId) args.originRefId =
        (t', some row))
      (hrefusal : refusal? profile t args row = none) :
      Received profile t args (receiveMessage t' row args signature)

/-- The lookup leaves the contacts and the messages, and the tables as they are unless the task
is found by its reference. -/
theorem findTask_cases (profile : Profile) (t : Tables) (taskId originRefId : Option String) :
    (t.referenced? profile taskId originRefId = none ∧
        (findTask profile t taskId originRefId).1 = t ∧
          (findTask profile t taskId originRefId).2 = t.taskOrPeer? profile taskId) ∨
      ∃ row, t.taskOrPeer? profile taskId = none ∧
        t.referenced? profile taskId originRefId = some row ∧
          t.tasks.get? row.taskId = some row ∧ findTask profile t taskId originRefId =
            (t.updateTask row.taskId fun r => { r with peerTaskId := taskId }, some row) := by
  unfold findTask Tables.referenced?
  cases hpeer : t.taskOrPeer? profile taskId with
  | some row => exact .inl ⟨rfl, rfl, rfl⟩
  | none =>
      cases horigin : (originRefId.filter (· ≠ "")).bind t.tasks.get? with
      | none => exact .inl ⟨rfl, rfl, rfl⟩
      | some row =>
          obtain ⟨origin, -, hget⟩ := Option.bind_eq_some_iff.mp horigin
          have hrow : t.tasks.get? row.taskId = some row := by
            rw [Rows.key_of_lookup hget]
            exact hget
          exact .inr ⟨row, rfl, rfl, hrow, rfl⟩

theorem contacts_findTask (profile : Profile) (t : Tables) (taskId originRefId : Option String) :
    (findTask profile t taskId originRefId).1.contacts = t.contacts := by
  rcases findTask_cases profile t taskId originRefId with ⟨-, h, -⟩ | ⟨row, -, -, -, h⟩
  · rw [h]
  · rw [h]
    rfl

theorem messages_findTask (profile : Profile) (t : Tables) (taskId originRefId : Option String) :
    (findTask profile t taskId originRefId).1.messages = t.messages := by
  rcases findTask_cases profile t taskId originRefId with ⟨-, h, -⟩ | ⟨row, -, -, -, h⟩
  · rw [h]
  · rw [h]
    rfl

theorem received_processSendMessage (profile : Profile) (t : Tables) (args : SendMessage) :
    Received profile t args (processSendMessage profile t args) := by
  unfold processSendMessage
  split
  · rename_i exc hbind
    exact .unbound exc hbind
  rename_i taskId hbind
  have hcontacts := contacts_findTask profile t (sqlText profile.realText taskId) args.originRefId
  have hcases := findTask_cases profile t (sqlText profile.realText taskId) args.originRefId
  split
  · rename_i t' hfind
    rw [hfind] at hcases
    rcases hcases with ⟨-, rfl, -⟩ | ⟨row, -, -, -, h⟩
    · exact .unknown hbind hfind
    · cases h
  rename_i t' row hfind
  rw [hfind] at hcontacts
  -- the checks read the contacts, which the lookup leaves
  have hauth : ∀ bytes, authenticate profile t' args.fromUsername args.rawBody bytes =
      authenticate profile t args.fromUsername args.rawBody bytes := by
    intro bytes
    unfold authenticate Tables.contact?
    rw [hcontacts]
  have hrefused : ∀ {exit}, refusal? profile t args row = some exit →
      Received profile t args ⟨t', .ended exit⟩ := fun h => .refused hbind hfind h
  split
  · rename_i hclosed
    apply hrefused
    rw [refusal?, if_pos hclosed]
  rename_i hopen
  split
  · rename_i exit hsignature
    apply hrefused
    rw [refusal?, if_neg hopen, hsignature]
  rename_i signature bytes hsignature
  rw [hauth]
  split
  · rename_i exit hexit
    apply hrefused
    rw [refusal?, if_neg hopen, hsignature]
    dsimp only
    rw [hexit]
  · rename_i contact hcontact
    refine .taken signature hbind hfind ?_
    rw [refusal?, if_neg hopen, hsignature]
    dsimp only
    rw [hcontact]

/-! ### Refused messages -/

def refusalCodes : List Nat := [401, 403, 404, 409]

theorem code_of_readSignature {xSignature : Json} {code : Nat} {status : Option String}
    (h : readSignature xSignature = .error (.response code status)) : code ∈ refusalCodes := by
  unfold readSignature at h
  split at h
  · cases h
    decide
  split at h
  · split at h
    · cases h
    · cases h
      decide
  · cases h
    decide
  · cases h

theorem code_of_authenticate {username : String} {rawBody signature : List UInt8} {code : Nat}
    {status : Option String}
    (h : authenticate profile t username rawBody signature = .error (.response code status)) :
    code ∈ refusalCodes := by
  unfold authenticate at h
  split at h
  · cases h
    decide
  split at h
  · cases h
    decide
  split at h
  · cases h
  split at h
  · cases h
  · cases h
    decide

/-- What the checks answer is a refusal. -/
theorem code_of_refusal {row : TaskRow} {code : Nat} {status : Option String}
    (h : refusal? profile t args row = some (.response code status)) : code ∈ refusalCodes := by
  unfold refusal? at h
  split at h
  · cases h
    decide
  split at h
  · rename_i hsignature
    cases h
    exact code_of_readSignature hsignature
  split at h
  · rename_i hexit
    cases h
    exact code_of_authenticate hexit
  · cases h

/-- A message that is taken is not refused any more. -/
theorem code_of_receiveMessage {row : TaskRow} {signature : String} {code : Nat}
    {status : Option String}
    (h : (receiveMessage t row args signature).phase = .ended (.response code status)) :
    code = 200 := by
  unfold receiveMessage at h
  dsimp only at h
  split at h
  · cases h
    rfl
  split at h
  · cases h
    rfl
  · cases h
    rfl
  · split at h <;> cases h

theorem findTask_of_referenced {taskId originRefId : Option String} {row : TaskRow}
    (h : t.referenced? profile taskId originRefId = some row) :
    t.tasks.get? row.taskId = some row ∧ findTask profile t taskId originRefId =
      (t.updateTask row.taskId fun r => { r with peerTaskId := taskId }, some row) := by
  rcases findTask_cases profile t taskId originRefId with ⟨hnone, -⟩ | ⟨row', -, hrow, hget, hfind⟩
  · rw [hnone] at h
    cases h
  · rw [hrow] at h
    cases h
    exact ⟨hget, hfind⟩

/-- A message that finds its task by the reference and is refused leaves the path id there. -/
theorem processSendMessage_of_referenced {taskId : SqlValue} {row : TaskRow} {exit : Exit}
    (hbind : bindSql args.taskId = .ok taskId)
    (hreferenced : t.referenced? profile (sqlText profile.realText taskId) args.originRefId =
      some row) (hrefusal : refusal? profile t args row = some exit) :
    processSendMessage profile t args =
      ⟨t.updateTask row.taskId fun r => { r with peerTaskId := sqlText profile.realText taskId },
        .ended exit⟩ := by
  have hfound := (findTask_of_referenced hreferenced).2
  have hreceived := received_processSendMessage profile t args
  generalize processSendMessage profile t args = pause at hreceived ⊢
  cases hreceived with
  | unbound exc hbind' =>
      rw [hbind'] at hbind
      cases hbind
  | unknown hbind' hfind =>
      rw [hbind'] at hbind
      cases hbind
      rw [hfind] at hfound
      cases congrArg Prod.snd hfound
  | refused hbind' hfind hrefusal' =>
      rw [hbind'] at hbind
      cases hbind
      rw [hfind] at hfound
      cases hfound
      rw [hrefusal'] at hrefusal
      cases hrefusal
      rfl
  | taken signature hbind' hfind hrefusal' =>
      rw [hbind'] at hbind
      cases hbind
      rw [hfind] at hfound
      cases hfound
      rw [hrefusal'] at hrefusal
      cases hrefusal

/-- An update that changes nothing of its row. -/
theorem tasks_updateTask_of_self {taskId : String} {f : TaskRow → TaskRow}
    {hf : ∀ row, (f row).taskId = row.taskId} {row : TaskRow}
    (hget : t.tasks.get? taskId = some row) (hself : f row = row) :
    (t.updateTask taskId f hf).tasks = t.tasks := by
  have hrows : Rows.modify TaskRow.taskId t.tasks.rows taskId f = t.tasks.rows := by
    rw [Rows.modify]
    conv_rhs => rw [← List.map_id t.tasks.rows]
    apply List.map_congr_left
    intro r hr
    rw [id]
    split
    · rename_i hkey
      have hfound := Rows.lookup_of_mem_nodup t.tasks.primaryKey hr
      rw [hkey] at hfound
      rw [Option.some.inj (hfound.symm.trans hget)]
      exact hself
    · rfl
  unfold Tables.updateTask TaskTable.update Tables.setTasks
  cases htasks : t.tasks with
  | mk rows primaryKey =>
      rw [htasks] at hrows
      simp only [hrows]

/-- A message that is answered with 401, 403, 404 or 409 leaves the tasks and the messages. -/
def RefusalHasNoEffect (profile : Profile) (t : Tables) (args : SendMessage) : Prop :=
  ∀ code status, (processSendMessage profile t args).phase = .ended (.response code status) →
    code ∈ refusalCodes →
      (processSendMessage profile t args).tables.tasks = t.tasks ∧
        (processSendMessage profile t args).tables.messages = t.messages

/-- A task that is found by the reference of the message has the path id recorded already, or
the checks do not refuse the message. -/
def ReferencedIsAdmitted (profile : Profile) (t : Tables) (args : SendMessage) : Prop :=
  ∀ taskId row, bindSql args.taskId = .ok taskId →
    t.referenced? profile (sqlText profile.realText taskId) args.originRefId = some row →
      row.peerTaskId = sqlText profile.realText taskId ∨
        ∀ code status, refusal? profile t args row ≠ some (.response code status)

/-- A refused message has no effect exactly if its task was found by the path id, or by the
reference and it would not have been refused. -/
theorem refusal_has_no_effect_iff (profile : Profile) (t : Tables) (args : SendMessage) :
    RefusalHasNoEffect profile t args ↔ ReferencedIsAdmitted profile t args := by
  constructor
  · intro h taskId row hbind hreferenced
    refine or_iff_not_imp_right.mpr fun hadmitted => ?_
    simp only [not_forall, not_not] at hadmitted
    obtain ⟨code, status, hrefusal⟩ := hadmitted
    have hrun := processSendMessage_of_referenced hbind hreferenced hrefusal
    obtain ⟨htasks, -⟩ := h code status (congrArg Pause.phase hrun) (code_of_refusal hrefusal)
    rw [hrun] at htasks
    have hget := (findTask_of_referenced hreferenced).1
    have hrow : (t.updateTask row.taskId fun r =>
        { r with peerTaskId := sqlText profile.realText taskId }).tasks.get? row.taskId =
          some row := by
      rw [htasks]
      exact hget
    rw [get?_updateTask_self, hget] at hrow
    exact (congrArg TaskRow.peerTaskId (Option.some.inj hrow)).symm
  · intro h code status hphase hcode
    have hreceived := received_processSendMessage profile t args
    generalize processSendMessage profile t args = pause at hreceived hphase ⊢
    cases hreceived with
    | unbound exc hbind => exact ⟨rfl, rfl⟩
    | unknown hbind hfind => exact ⟨rfl, rfl⟩
    | @refused taskId t' row exit hbind hfind hrefusal =>
        cases hphase
        have hmessages := messages_findTask profile t (sqlText profile.realText taskId)
          args.originRefId
        rcases findTask_cases profile t (sqlText profile.realText taskId) args.originRefId with
          ⟨-, hsame, -⟩ | ⟨row', -, hreferenced, hget, hfound⟩
        · rw [hfind] at hsame
          exact ⟨congrArg Tables.tasks hsame, congrArg Tables.messages hsame⟩
        · rw [hfind] at hfound hmessages
          cases hfound
          refine ⟨?_, hmessages⟩
          rcases h taskId row hbind hreferenced with hpeer | hadmitted
          · apply tasks_updateTask_of_self hget
            rw [← hpeer]
          · exact absurd hrefusal (hadmitted code status)
    | taken signature hbind hfind hrefusal =>
        rw [code_of_receiveMessage hphase] at hcode
        exact absurd hcode (by decide)

namespace Sample

/-- A task that waits in the relay of `bob`, and has no id there yet. -/
def queuedTables : Tables :=
  { tables with
    tasks :=
      { rows :=
          [{ taskId := "local-queued-1", contactUsername := "bob", goal := "lunch", context := []
             status := some "queued-relay", resultJson := none, draftContent := none
             draftMessageType := none, agentName := none, peerAgentName := none
             peerTaskId := none, originRefId := none }]
        primaryKey := by simp } }

/-- A message that names the task by its reference, and has no signature. -/
def unsignedMessage : SendMessage :=
  { message .answer "noon" with
    taskId := .text "t9", originRefId := some "local-queued-1", xSignature := .null }

end Sample

/-- A message without a signature is answered with 401, and its path id is recorded. -/
theorem unsigned_message_recorded :
    ¬RefusalHasNoEffect Sample.aliceProfile Sample.queuedTables Sample.unsignedMessage := by
  intro h
  obtain ⟨htasks, -⟩ := h 401 none rfl (by decide)
  have hpeers := congrArg (fun tasks => tasks.rows.map TaskRow.peerTaskId) htasks
  exact absurd hpeers (by decide)

end Kin.Tasks
