import Kin.Node.Custody

/-!
Bodies that are not accepted. Under a number that is not stored yet such a body
is rejected or raises, and outside expiry the call writes nothing but audit
records, unless it opens a session that it then cannot use.
-/

namespace Kin.Node

open Kin.Py Kin.Lib Kin.Schemas Kin.Session Kin.Storage Kin.Audit Kin.Policy Kin.Transport

variable {ctx : IngestContext} {db : Db} {raw : Fields} {envelope : SessionEnvelope}

def Declines (exit : Exit) : Prop := ∀ ack, exit = .ok ack → ack.status = .rejected

theorem declines_error (e : PyExc) : Declines (.error e) := fun _ h => by cases h

theorem declines_rejectRaw {code : ErrorCode} {message : PyStr} :
    Declines (rejectRaw ctx raw code message) :=
  fun _ h => status_of_acknowledgement h

theorem declines_rejectVerified {code : Option ErrorCode} {message : Option PyStr} :
    Declines (rejectVerified ctx raw envelope code message) :=
  fun _ h => status_of_acknowledgement h

/-! ### How the stages end -/

theorem declines_commitEnvelope {newState : SessionState} {db' : Db} {exit : Exit}
    (h : commitEnvelope ctx db raw envelope newState = (db', .error exit)) : Declines exit := by
  unfold commitEnvelope at h
  split at h
  · cases h
    exact declines_error _
  · cases h
    exact declines_rejectVerified
  · simp only at h
    split at h <;> cases h

theorem declines_ingestLoaded {row : Option SessionRow} {state : SessionState} {db' : Db}
    {exit : Exit} (h : ingestLoaded ctx db raw row envelope state = (db', .error exit)) :
    Declines exit := by
  unfold ingestLoaded at h
  split at h
  · cases h
    exact declines_error _
  split at h
  · cases h
    exact declines_rejectVerified
  split at h
  · rename_i hcommit
    cases h
    exact declines_commitEnvelope hcommit
  · cases h

theorem declines_loadState {row : Option SessionRow} {db' : Db} {exit : Exit}
    (h : loadState ctx db raw row envelope = (db', .error exit)) : Declines exit := by
  unfold loadState at h
  split at h
  · simp only at h
    split at h
    · cases h
      exact declines_rejectVerified
    split at h
    · cases h
      exact declines_error _
    split at h
    · cases h
      exact declines_error _
    · cases h
  · split at h
    · cases h
      exact declines_rejectVerified
    · cases h

theorem declines_openSession {db' : Db} {exit : Exit}
    (h : openSession ctx db raw = (db', .error exit)) : Declines exit := by
  rcases openSession_exit h with ⟨e, rfl⟩ | ⟨code, message, rfl⟩
  · exact declines_error e
  · exact declines_rejectRaw

theorem declines_unverified (hver : verified? ctx db raw = none) {db' : Db} {exit : Exit}
    (h : ingestCommit ctx db raw = (db', .error exit)) : Declines exit := by
  rcases hopen : openSession ctx db raw with ⟨db1, exit1 | opened⟩
  · rw [ingestCommit, hopen] at h
    cases h
    exact declines_openSession hopen
  · obtain ⟨code, message, heq⟩ := ingestCommit_of_opened hver hopen
    rw [heq] at h
    cases h
    exact declines_rejectRaw

/-- Only a number that is stored ends the call with a delivery before the commit. -/
theorem declines_ingestCommit
    (hfresh : ∀ envelope, verified? ctx db raw = some envelope →
      storedEvent? db envelope.sessionId envelope.actorUsername envelope.sequence = none)
    {db' : Db} {exit : Exit} (h : ingestCommit ctx db raw = (db', .error exit)) :
    Declines exit := by
  cases hver : verified? ctx db raw with
  | none => exact declines_unverified hver h
  | some envelope =>
      have hnew := hfresh envelope hver
      rw [← storedEvent?_afterExpiry ctx db _ _ _ envelope.sessionId] at hnew
      rw [ingestCommit_of_verified hver, ingestVerified, checkSequenceConflict_of_none hnew] at h
      simp only at h
      split at h
      · rename_i hload
        cases h
        exact declines_loadState hload
      · exact declines_ingestLoaded h

/-- A body under a new number that is not accepted is rejected or raises. -/
theorem declines_of_refuses
    (hfresh : ∀ envelope, verified? ctx db raw = some envelope →
      storedEvent? db envelope.sessionId envelope.actorUsername envelope.sequence = none)
    (hrefuses : Refuses ctx db raw) : Declines (ingestEnvelope ctx db raw).exit := by
  rcases ingestCommit_cases ctx db raw with ⟨db', exit, heq, -⟩ |
    ⟨envelope, newRow, exit, -, -, heq, -⟩ |
    ⟨envelope, base, stored, state, participants, db', haccepts, heq, -⟩
  · have hexit : (ingestEnvelope ctx db raw).exit = exit := by simp only [ingestEnvelope, heq]
    rw [hexit]
    exact declines_ingestCommit hfresh heq
  · have hexit : (ingestEnvelope ctx db raw).exit = exit := by simp only [ingestEnvelope, heq]
    rw [hexit]
    exact declines_ingestCommit hfresh heq
  · exact absurd ⟨base, stored, state, participants, haccepts⟩ (hrefuses envelope)

/-- Self-ingestion under a new number that does not raise has accepted the body. -/
theorem takes_of_selfIngest
    (hfresh : ∀ envelope, verified? ctx db raw = some envelope →
      storedEvent? db envelope.sessionId envelope.actorUsername envelope.sequence = none)
    {db' : Db} (h : selfIngest ctx db raw = (db', .ok ())) :
    ∃ envelope, Takes ctx db raw envelope := by
  by_contra hno
  have hdeclines := declines_of_refuses hfresh fun envelope htakes => hno ⟨envelope, htakes⟩
  unfold selfIngest at h
  simp only at h
  split at h
  · cases h
  · rename_i ack hack
    rw [if_pos (hdeclines ack hack)] at h
    cases h

/-! ### What is written -/

/-- The lookup writes nothing but audit records if the session does not expire. -/
theorem sameTables_openSession {sid : String} (hsid : rawSessionId raw = .text sid)
    (htimely : ∀ row, db.session? sid = some row → expiresNow row ctx.now = false) :
    SameTables db (openSession ctx db raw).1 := by
  have hkey := sessionKey_of_text ctx.ext (by rw [hsid]; rfl : asText (rawSessionId raw) = some sid)
  cases hrow : db.session? sid with
  | none =>
      unfold openSession
      simp only [hkey, Option.bind_some, hrow]
      split
      · exact .refl db
      split
      · exact .refl db
      split <;> exact .refl db
  | some row =>
      have hid := sessionId_of_session? hrow
      have hsame : SameTables db (lazyExpire ctx db row) := by
        rcases lazyExpire_cases ctx (hid ▸ hrow) with ⟨hexp, -⟩ | ⟨-, hsame⟩
        · rw [htimely row hrow] at hexp
          cases hexp
        · exact hsame
      unfold openSession
      simp only [hkey, Option.bind_some, hrow]
      split <;> exact hsame

/-- A body that is not accepted leaves the tables alone, if the session does not
expire and a request for a new one names its receiver and starts at one. -/
theorem sameTables_of_refuses {sid : String} (hsid : rawSessionId raw = .text sid)
    (htimely : ∀ row, db.session? sid = some row → expiresNow row ctx.now = false)
    (hopens : ∀ envelope, verified? ctx db raw = some envelope → db.session? sid = none →
      (asText (receiverOf db envelope)).isSome = true ∧ envelope.sequence = 1)
    (hrefuses : Refuses ctx db raw) : SameTables db (ingestEnvelope ctx db raw).db := by
  have hdb : ∀ {db' : Db} {exit : Exit}, ingestCommit ctx db raw = (db', .error exit) →
      (ingestEnvelope ctx db raw).db = db' := fun heq => by simp only [ingestEnvelope, heq]
  cases hver : verified? ctx db raw with
  | none =>
      obtain ⟨exit, heq⟩ := ingestCommit_of_unverified hver
      rw [hdb heq]
      exact sameTables_openSession hsid htimely
  | some envelope =>
      have hread := readFrom_of_verified hver
      have hid : envelope.sessionId = sid := by
        have := hread.sessionId.symm.trans hsid
        simpa using this
      subst hid
      have hsame := sameTables_afterExpiry ctx envelope.sessionId htimely
      have hsome := isSome_session?_afterExpiry ctx db envelope.sessionId
      have houtcome := ingestVerified_outcome ctx (afterExpiry ctx db envelope.sessionId) hread
        hsome.symm (fun hnone => verified_isTaskRequest hver (by simpa [hnone] using hsome))
      rw [← ingestCommit_of_verified hver] at houtcome
      generalize hres : ingestCommit ctx db raw = res at houtcome
      cases houtcome with
      | stopped hstop =>
          rw [hdb hres]
          exact hsame.trans hstop
      | orphanRaised hnone _ _ hreceiver =>
          have hnone' : db.session? envelope.sessionId = none := by simpa [hnone] using hsome
          obtain ⟨hreceiver', -⟩ := hopens envelope hver hnone'
          rw [afterExpiry, hnone'] at hreceiver
          rw [hreceiver] at hreceiver'
          cases hreceiver'
      | orphanRejected hnone _ _ _ hseq =>
          have hnone' : db.session? envelope.sessionId = none := by simpa [hnone] using hsome
          exact absurd (hopens envelope hver hnone').2 hseq
      | committed =>
          exfalso
          rcases ingestCommit_cases ctx db raw with ⟨_, _, heq, -⟩ | ⟨_, _, _, -, -, heq, -⟩ |
            ⟨e, base, stored, state, participants, _, haccepts, -, -⟩
          · rw [hres] at heq
            cases heq
          · rw [hres] at heq
            cases heq
          · exact hrefuses e ⟨base, stored, state, participants, haccepts⟩

/-- The owner's own body is accepted, or the call raises and the tables are as
they were. -/
theorem selfIngest_cases (ctx : IngestContext) {sid : String} (hsid : rawSessionId raw = .text sid)
    (hactor : rawActorUsername raw = .text db.myUsername)
    (htimely : ∀ row, db.session? sid = some row → expiresNow row ctx.now = false)
    (hfresh : ∀ envelope, verified? ctx db raw = some envelope →
      storedEvent? db envelope.sessionId envelope.actorUsername envelope.sequence = none)
    (hopens : ∀ envelope, verified? ctx db raw = some envelope → db.session? sid = none →
      (asText (receiverOf db envelope)).isSome = true ∧ envelope.sequence = 1) :
    (∃ e db', selfIngest ctx db raw = (db', .error e) ∧ SameTables db db') ∨
      ∃ envelope, selfIngest ctx db raw = ((ingestEnvelope ctx db raw).db, .ok ()) ∧
        Takes ctx db raw envelope := by
  have hfst := selfIngest_fst ctx db raw
  rcases hself : selfIngest ctx db raw with ⟨db', e | ok⟩
  · left
    rw [hself] at hfst
    refine ⟨e, db', rfl, ?_⟩
    rw [show db' = (ingestEnvelope ctx db raw).db from hfst]
    exact sameTables_of_refuses hsid htimely hopens (refuses_of_selfIngest hactor hself)
  · right
    rw [hself] at hfst
    obtain ⟨envelope, htakes⟩ := takes_of_selfIngest hfresh hself
    exact ⟨envelope, by rw [show db' = (ingestEnvelope ctx db raw).db from hfst], htakes⟩

end Kin.Node
