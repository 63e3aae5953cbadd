import Kin.Node.Activity
import Mathlib.Algebra.Order.Floor.Ring
import Mathlib.Data.Rat.Floor

/-!
The budgets of a session. A turn that gets to its adapter has checked all four,
has then added one to the cost estimate and committed that, and only then invokes
the adapter; nothing else writes the estimate. So every call is paid for, whatever
becomes of the turn afterwards.
-/

namespace Kin.Node

open Kin.Py Kin.Lib Kin.Schemas Kin.Session Kin.Storage Kin.Audit Kin.Transport

/-! ### The check of a turn -/

def columnNumber : SqlValue → Option ℚ
  | .integer n => some n
  | .real (.finite q) => some q
  | .real .negZero => some 0
  | _ => none

theorem lt_of_exhausts {used budget : ℚ} {column : SqlValue}
    (h : exhausts used column = .ok false) (hnumber : columnNumber column = some budget) :
    used < budget := by
  unfold columnNumber at hnumber
  split at hnumber
  · cases hnumber
    simpa [exhausts] using h
  · cases hnumber
    simpa [exhausts] using h
  · cases hnumber
    simpa [exhausts] using h
  · cases hnumber

def elapsedSeconds (row : SessionRow) (now : Instant) : ℚ := ((now - row.createdAt : Int) : ℚ) / 1000000

structure WithinBudgets (row : SessionRow) (turns : Nat) (now : Instant) : Prop where
  turns : turns < row.turnLimit
  runtime : ∀ budget, columnNumber row.runtimeBudgetSeconds = some budget →
    elapsedSeconds row now < budget
  artifacts : ∀ budget, columnNumber row.artifactBytesBudget = some budget →
    (row.cumulativeArtifactBytes : ℚ) < budget
  cost : ∀ budget, columnNumber row.costBudgetEstimate = some budget →
    (row.cumulativeCostEstimate : ℚ) < budget

theorem withinBudgets_of_exhaustedReason {ext : Externals} {row : SessionRow} {turns : Nat}
    {now : Instant} (h : exhaustedReason ext row turns now = .ok none) :
    WithinBudgets row turns now := by
  unfold exhaustedReason at h
  by_cases hturns : (row.turnLimit : Int) ≤ turns
  · simp [hturns, pure, Except.pure] at h
  have hcheck : ∀ {check : Except PyExc Bool} {reached : Except PyExc (Option String)}
      {rest : Except PyExc (Option String)},
      (check >>= fun b => if b = true then reached else rest) = .ok none →
      reached ≠ .ok none → check = .ok false ∧ rest = .ok none := by
    intro check reached rest hbind hreached
    cases check with
    | error e => cases hbind
    | ok b =>
        cases b with
        | true => exact absurd hbind hreached
        | false => exact ⟨rfl, hbind⟩
  simp only [hturns, if_false] at h
  obtain ⟨hruntime, h⟩ := hcheck h nofun
  obtain ⟨hartifacts, h⟩ := hcheck h nofun
  obtain ⟨hcost, -⟩ := hcheck h nofun
  exact ⟨by omega, fun _ => lt_of_exhausts hruntime, fun _ => lt_of_exhausts hartifacts,
    fun _ => lt_of_exhausts hcost⟩

theorem withinBudgets_of_invocation {sender : Sender} {db : Db} {sid : String} {i : Invocation}
    (h : invocation? sender db sid = some i) :
    db.session? sid = some i.row ∧
      WithinBudgets i.row ((db.eventsOf sid).countP countsAsTurn) sender.now := by
  unfold invocation? at h
  simp only [bind, Option.bind_eq_some_iff] at h
  obtain ⟨row, hrow, h⟩ := h
  split at h
  · cases h
  simp only [Option.bind_eq_some_iff] at h
  obtain ⟨info, -, card, -, h⟩ := h
  split at h
  · rename_i hreason
    cases h
    exact ⟨hrow, withinBudgets_of_exhaustedReason hreason⟩
  · cases h

/-! ### What an activity spends -/

/-- The moment at which the adapter is invoked for a session, if the activity does. -/
def Activity.invokedAt (db : Db) (sid : String) : Activity → Option Instant
  | .call (.advance sender sid' _) =>
      if sid' = sid ∧ (invocation? sender db sid').isSome then some sender.now else none
  | _ => none

def adapterCalls (db : Db) (sid : String) (activities : List Activity) : Nat :=
  countAlong Activity.step (fun db activity => (activity.invokedAt db sid).isSome) db activities

section Cost

variable {commits : IngestContext → Db → SessionEnvelope → Prop} {handing : String → Prop}
  {db db' : Db} {sid : String} {row : SessionRow}

theorem cost_of_changes (h : Changes commits False handing db db')
    (hrow : db.session? sid = some row) :
    ∃ row', db'.session? sid = some row' ∧ SameTerms row row' ∧
      row'.cumulativeCostEstimate = row.cumulativeCostEstimate := by
  induction h with
  | refl => exact ⟨row, hrow, .refl row, rfl⟩
  | tail _ hlast ih =>
      obtain ⟨row', hrow', hterms, hcost⟩ := ih
      obtain ⟨row'', hrow'', hterms', hcost'⟩ := KeepsRow.of_change hlast sid row' hrow'
      exact ⟨row'', hrow'', hterms.trans hterms', (hcost' id).trans hcost⟩

/-- An activity pays for the call it makes, and for nothing else. -/
theorem cost_step (activity : Activity) (hrow : db.session? sid = some row) :
    ∃ row', (activity.step db).session? sid = some row' ∧ SameTerms row row' ∧
      row'.cumulativeCostEstimate =
        if (activity.invokedAt db sid).isSome then (addCost row).cumulativeCostEstimate
        else row.cumulativeCostEstimate := by
  have hunspent : Changes (fun _ _ _ => True) False (fun _ => True) db (activity.step db) →
      activity.invokedAt db sid = none →
      ∃ row', (activity.step db).session? sid = some row' ∧ SameTerms row row' ∧
        row'.cumulativeCostEstimate =
          if (activity.invokedAt db sid).isSome then (addCost row).cumulativeCostEstimate
          else row.cumulativeCostEstimate := by
    intro hchain hnone
    rw [hnone]
    exact cost_of_changes hchain hrow
  cases activity with
  | operation op => exact hunspent (operation_changes db op (permits_true _)) rfl
  | retryOutboundQueue sweep => exact hunspent (retryRows_changes ..) rfl
  | tagIn sender sid' args =>
      exact hunspent (tagInHandoff_changes (permits_true _) db sid' args rfl trivial) rfl
  | call c =>
      cases hturn : c.isTurn with
      | false =>
          refine hunspent (perform_unspent db c hturn (permits_true _)) ?_
          cases c with
          | advance sender sid' turn => cases hturn
          | _ => rfl
      | true =>
          cases c with
          | advance sender sid' turn =>
              cases hinv : invocation? sender db sid' with
              | none =>
                  apply hunspent
                  · exact advanceSessionTurn_unspent (permits_true (OwnCall sender none)) db sid'
                      turn hinv
                  · simp [Activity.invokedAt, hinv]
              | some i =>
                  -- the cost of the session is what the payment left
                  have hrest : Changes (fun _ _ _ => True) False (fun _ => True)
                      (db.updateSession sid' addCost)
                      (Activity.step db (.call (.advance sender sid' turn))) :=
                    advanceSessionTurn_spent (permits_true _) db sid' turn rfl hinv
                  by_cases hsid : sid' = sid
                  · subst hsid
                    have hpaid : (db.updateSession sid' addCost).session? sid' =
                        some (addCost row) := by
                      rw [session?_updateSession_self addCost_sessionId, hrow]
                      rfl
                    obtain ⟨row', hrow', hterms, hcost⟩ := cost_of_changes hrest hpaid
                    have hpay : SameTerms row (addCost row) :=
                      ⟨rfl, rfl, rfl, rfl, rfl, rfl, rfl, rfl⟩
                    refine ⟨row', hrow', hpay.trans hterms, ?_⟩
                    simp [Activity.invokedAt, hinv, hcost]
                  · have hkept : (db.updateSession sid' addCost).session? sid = some row := by
                      rw [session?_updateSession_of_ne addCost_sessionId (Ne.symm hsid), hrow]
                    obtain ⟨row', hrow', hterms, hcost⟩ := cost_of_changes hrest hkept
                    refine ⟨row', hrow', hterms, ?_⟩
                    simp [Activity.invokedAt, hsid, hcost]
          | _ => cases hturn

/-- A call is made within the budgets of the session as it is stored. -/
theorem withinBudgets_of_invokedAt {activity : Activity} {now : Instant}
    (h : activity.invokedAt db sid = some now) :
    ∃ row, db.session? sid = some row ∧
      WithinBudgets row ((db.eventsOf sid).countP countsAsTurn) now := by
  unfold Activity.invokedAt at h
  split at h
  · split at h
    · rename_i hsid
      cases h
      obtain ⟨rfl, hsome⟩ := hsid
      obtain ⟨i, hi⟩ := Option.isSome_iff_exists.mp hsome
      exact ⟨i.row, withinBudgets_of_invocation hi⟩
    · cases h
  · cases h

/-! ### Whole runs -/

/-- With a budget that the estimate can reach, every call is one more in the
estimate, and the estimate stops at the budget. -/
theorem cost_run {budget : ℚ} (hexact : budget ≤ 2 ^ 53) (activities : List Activity)
    (hrow : db.session? sid = some row) (hbudget : columnNumber row.costBudgetEstimate = some budget) :
    ∃ row', (run Activity.step db activities).session? sid = some row' ∧
      row'.cumulativeCostEstimate = row.cumulativeCostEstimate + adapterCalls db sid activities ∧
      (adapterCalls db sid activities ≠ 0 → (row'.cumulativeCostEstimate : ℤ) ≤ ⌈budget⌉) := by
  induction activities generalizing db row with
  | nil => exact ⟨row, hrow, rfl, fun h => absurd rfl h⟩
  | cons activity activities ih =>
      obtain ⟨next, hnext, hterms, hcost⟩ := cost_step activity hrow
      obtain ⟨last, hlast, hgrown, hstops⟩ := ih hnext (hterms.costBudgetEstimate ▸ hbudget)
      refine ⟨last, hlast, ?_⟩
      have hcount : adapterCalls db sid (activity :: activities) =
          (if (activity.invokedAt db sid).isSome then 1 else 0) +
            adapterCalls (activity.step db) sid activities := rfl
      cases hinvoked : activity.invokedAt db sid with
      | none =>
          rw [hinvoked] at hcost hcount
          simp only [Option.isSome_none, Bool.false_eq_true, if_false, zero_add] at hcost hcount
          rw [hcount]
          exact ⟨by omega, hstops⟩
      | some now =>
          rw [hinvoked] at hcost hcount
          simp only [Option.isSome_some, if_true] at hcost hcount
          -- the check before the call leaves room for one more
          obtain ⟨row', hrow', hwithin⟩ := withinBudgets_of_invokedAt hinvoked
          cases hrow.symm.trans hrow'
          have hroom : (row.cumulativeCostEstimate : ℚ) < budget := hwithin.cost budget hbudget
          have hbelow : row.cumulativeCostEstimate < 2 ^ 53 := by
            have hlt : (row.cumulativeCostEstimate : ℚ) < 2 ^ 53 := lt_of_lt_of_le hroom hexact
            exact_mod_cast hlt
          have hpaid : next.cumulativeCostEstimate = row.cumulativeCostEstimate + 1 := by
            rw [hcost, addCost, if_pos hbelow]
          have hceil : (row.cumulativeCostEstimate : ℤ) + 1 ≤ ⌈budget⌉ := by
            apply Int.add_one_le_of_lt
            apply Int.lt_ceil.mpr
            exact_mod_cast hroom
          refine ⟨by omega, fun _ => ?_⟩
          by_cases hzero : adapterCalls (activity.step db) sid activities = 0
          · omega
          · exact hstops hzero

end Cost

/-- In every run of a node, on a session with a numeric cost budget of at most
`2 ^ 53`: the adapter is invoked for the session at most `⌈max B 0⌉` times, each
call is in the growth of the cost estimate, and no call is made once the stored
turns, the elapsed time or the stored bytes have reached their budget. -/
theorem adapter_calls_bounded (db : Db) (sid : String) (row : SessionRow) (budget : ℚ)
    (activities : List Activity) :
    db.session? sid = some row → columnNumber row.costBudgetEstimate = some budget →
      budget ≤ 2 ^ 53 →
      ∃ row', (run Activity.step db activities).session? sid = some row' ∧
        (adapterCalls db sid activities : ℤ) ≤ ⌈max budget 0⌉ ∧
        adapterCalls db sid activities ≤
          row'.cumulativeCostEstimate - row.cumulativeCostEstimate ∧
        Along Activity.step (fun db activity => ∀ now, activity.invokedAt db sid = some now →
          ∃ row, db.session? sid = some row ∧
            WithinBudgets row ((db.eventsOf sid).countP countsAsTurn) now) db activities := by
  intro hrow hbudget hexact
  obtain ⟨row', hrow', hgrown, hstops⟩ := cost_run hexact activities hrow hbudget
  refine ⟨row', hrow', ?_, by omega,
    along_of_forall (fun _ _ _ hinvoked => withinBudgets_of_invokedAt hinvoked) db activities⟩
  by_cases hzero : adapterCalls db sid activities = 0
  · rw [hzero]
    exact Int.ceil_nonneg (le_max_right budget 0)
  · have hceil : ⌈budget⌉ ≤ ⌈max budget 0⌉ := Int.ceil_le_ceil (le_max_left budget 0)
    have hlast := hstops hzero
    omega

namespace Sample

open Kin.Transport.Sample

/-- `bob` has `alice`'s request with a cost budget, and an agent for it. -/
def priced (budget : Int) : Db :=
  run Activity.step (Db.fresh (some "bob") [] [⟨"bot", true, "available", none⟩])
    [.operation (.ingest context (envelope "s1" "alice" "scout" 1 .taskRequest
      (request ++ [(.text "cost_budget_estimate", .int budget)])))]

/-- A turn whose adapter wants to be asked again. -/
def retried : Turn where
  response := { error := some ⟨"RATE_LIMITED", "later"⟩ }
  evaluate db _ := (db.approvals, .ok .allow)

def retry : Activity := .call (.advance (sender "bob") "s1" retried)

/-- `bob`'s next turn gets to its adapter, whatever the cost so far, as long as it
is below the budget. -/
structure Turning (row : SessionRow) (db : Db) (cost : Nat) : Prop where
  session : db.session? "s1" = some { row with cumulativeCostEstimate := cost }
  live : refusesTurn row.status = false
  agent : ((rowParticipants row).get? "bob").any (fun info => (db.getCard info.agentId).isSome) = true
  turns : (db.eventsOf "s1").countP countsAsTurn < row.turnLimit
  unlimited : row.runtimeBudgetSeconds = .null ∧ row.artifactBytesBudget = .null

def turning (db : Db) (budget : Int) : Bool :=
  (db.session? "s1").any fun row =>
    row.cumulativeCostEstimate == 0 && row.costBudgetEstimate == .real (.finite budget) &&
    !refusesTurn row.status &&
    ((rowParticipants row).get? "bob").any (fun info => (db.getCard info.agentId).isSome) &&
    decide ((db.eventsOf "s1").countP countsAsTurn < row.turnLimit) &&
    decide (row.runtimeBudgetSeconds = .null ∧ row.artifactBytesBudget = .null)

theorem turning_eq_true {db : Db} {budget : Int} (h : turning db budget = true) :
    ∃ row, row.costBudgetEstimate = .real (.finite budget) ∧ row.cumulativeCostEstimate = 0 ∧
      Turning row db 0 := by
  obtain ⟨row, hrow, h⟩ := (Option.any_eq_true _ _).mp h
  simp only [Bool.and_eq_true, beq_iff_eq, Bool.not_eq_true', decide_eq_true_eq] at h
  obtain ⟨⟨⟨⟨⟨hzero, hbudget⟩, hlive⟩, hagent⟩, hturns⟩, hunlimited⟩ := h
  refine ⟨row, hbudget, hzero, ?_, hlive, hagent, hturns, hunlimited⟩
  rw [hrow, ← hzero]

/-- The turn invokes its adapter and leaves the session with the cost of it. -/
theorem Turning.once {row : SessionRow} {db : Db} {cost : Nat} {budget : Int}
    (h : Turning row db cost) (hbudget : row.costBudgetEstimate = .real (.finite budget))
    (hroom : (cost : Int) < budget) :
    (retry.invokedAt db "s1").isSome = true ∧
      Turning row (retry.step db) (if cost < 2 ^ 53 then cost + 1 else cost) := by
  obtain ⟨info, hinfo, hcard⟩ := (Option.any_eq_true _ _).mp h.agent
  obtain ⟨card, hcard⟩ := Option.isSome_iff_exists.mp hcard
  have hroom' : ¬(budget : ℚ) ≤ cost := by
    rw [not_le]
    exact_mod_cast hroom
  have hturns : ¬(row.turnLimit : Int) ≤ ((db.eventsOf "s1").countP countsAsTurn : Nat) :=
    fun hle => not_le.mpr h.turns (Int.ofNat_le.mp hle)
  have hreason : exhaustedReason externals { row with cumulativeCostEstimate := cost }
      ((db.eventsOf "s1").countP countsAsTurn) time = .ok none := by
    simp only [exhaustedReason, hturns, h.unlimited, exhausts, hbudget, hroom', if_false,
      decide_false, bind, Except.bind, pure, Except.pure, Bool.false_eq_true]
  have hinvoked : invocation? (sender "bob") db "s1" =
      some ⟨{ row with cumulativeCostEstimate := cost }, info.agentId, card⟩ := by
    unfold invocation?
    rw [h.session]
    change (if refusesTurn row.status then none else (Dict.get? (rowParticipants row) "bob").bind _) = _
    rw [h.live, if_neg (by simp), hinfo]
    change (db.getCard info.agentId).bind _ = _
    rw [hcard]
    have hspent : exhaustedReason (sender "bob").ext { row with cumulativeCostEstimate := cost }
        (stateOf (sender "bob").ext { row with cumulativeCostEstimate := cost }
          (db.eventsOf "s1")).currentTurn (sender "bob").now = .ok none := hreason
    simp only [Option.bind_some]
    rw [hspent]
  refine ⟨?_, ?_⟩
  · simp [Sample.retry, Activity.invokedAt, hinvoked]
  · have hstep : retry.step db = (db.updateSession "s1" addCost).writeAuditEvent "adapter_error"
        ("Adapter error code " ++ "RATE_LIMITED" ++ ": " ++ "later") (some "s1") (some "bob") := by
      change (advanceSessionTurn (sender "bob") db "s1" retried).db = _
      rw [advanceSessionTurn_of_some hinvoked]
      rfl
    rw [hstep]
    exact
      { session := by
          rw [session?_writeAuditEvent, session?_updateSession_self addCost_sessionId, h.session]
          rfl
        live := h.live
        agent := h.agent
        turns := h.turns
        unlimited := h.unlimited }

/-- The estimate of a session with a larger budget stays at `2 ^ 53`. -/
theorem Turning.times {row : SessionRow} {db : Db} {cost : Nat} {budget : Int}
    (h : Turning row db cost) (hbudget : row.costBudgetEstimate = .real (.finite budget))
    (hlarge : 2 ^ 53 < budget) (hcost : cost ≤ 2 ^ 53) (n : Nat) :
    adapterCalls db "s1" (List.replicate n retry) = n ∧
      Turning row (run Activity.step db (List.replicate n retry)) (min (cost + n) (2 ^ 53)) := by
  induction n generalizing db cost with
  | zero => exact ⟨rfl, by rwa [Nat.add_zero, min_eq_left hcost]⟩
  | succ n ih =>
      obtain ⟨hinvoked, hnext⟩ := h.once hbudget (by omega)
      obtain ⟨hcalls, hlast⟩ := ih hnext (by split <;> omega)
      rw [List.replicate_succ]
      constructor
      · change (if (retry.invokedAt db "s1").isSome then 1 else 0) +
          adapterCalls (retry.step db) "s1" (List.replicate n retry) = n + 1
        rw [hinvoked, hcalls, if_pos rfl, Nat.add_comm]
      · have hsame : min ((if cost < 2 ^ 53 then cost + 1 else cost) + n) (2 ^ 53) =
            min (cost + (n + 1)) (2 ^ 53) := by
          split <;> omega
        rw [hsame] at hlast
        exact hlast

end Sample

/-- A budget of `2 ^ 54` is never reached: after `2 ^ 53 + 1` calls the estimate has
grown by `2 ^ 53`. -/
theorem adapter_calls_outgrow_estimate :
    ∃ row row', (Sample.priced (2 ^ 54)).session? "s1" = some row ∧
      columnNumber row.costBudgetEstimate = some (2 ^ 54) ∧
      (run Activity.step (Sample.priced (2 ^ 54)) (List.replicate (2 ^ 53 + 1) Sample.retry)).session?
        "s1" = some row' ∧
      row'.cumulativeCostEstimate - row.cumulativeCostEstimate <
        adapterCalls (Sample.priced (2 ^ 54)) "s1" (List.replicate (2 ^ 53 + 1) Sample.retry) := by
  obtain ⟨row, hbudget, hzero, hturning⟩ := Sample.turning_eq_true
    (show Sample.turning (Sample.priced (2 ^ 54)) (2 ^ 54) = true by decide +kernel)
  generalize hn : 2 ^ 53 + 1 = n
  obtain ⟨hcalls, hlast⟩ := hturning.times hbudget (by norm_num) (Nat.zero_le _) n
  refine ⟨_, _, hturning.session, ?_, hlast.session, ?_⟩
  · change columnNumber row.costBudgetEstimate = _
    rw [hbudget]
    norm_num [columnNumber]
  · rw [hcalls]
    change min (0 + n) (2 ^ 53) - 0 < n
    omega

/-- With a budget of one, the second of two turns is not taken. -/
theorem adapter_called_once :
    adapterCalls (Sample.priced 1) "s1" [Sample.retry, Sample.retry] = 1 ∧
      ∃ row row', (Sample.priced 1).session? "s1" = some row ∧
        (run Activity.step (Sample.priced 1) [Sample.retry, Sample.retry]).session? "s1" = some row' ∧
        1 ≤ row'.cumulativeCostEstimate - row.cumulativeCostEstimate := by
  have hcalls : adapterCalls (Sample.priced 1) "s1" [Sample.retry, Sample.retry] = 1 := by
    decide +kernel
  obtain ⟨row, hbudget, hzero, hturning⟩ := Sample.turning_eq_true
    (show Sample.turning (Sample.priced 1) 1 = true by decide +kernel)
  have hnumber : columnNumber (SessionRow.costBudgetEstimate
      { row with cumulativeCostEstimate := 0 }) = some 1 := by
    change columnNumber row.costBudgetEstimate = _
    rw [hbudget]
    simp [columnNumber]
  obtain ⟨row', hrow', -, hgrowth, -⟩ := adapter_calls_bounded (Sample.priced 1) "s1" _ 1
    [Sample.retry, Sample.retry] hturning.session hnumber (by norm_num)
  rw [hcalls] at hgrowth
  exact ⟨hcalls, _, row', hturning.session, hrow', hgrowth⟩

end Kin.Node
