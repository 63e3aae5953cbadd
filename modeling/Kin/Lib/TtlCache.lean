import Mathlib
import Kin.Lib.Run

/-!
A value that calls compute on demand and keep for a time, on one event loop. A call looks at the
kept value, takes a lock, looks again, and computes a new value while it holds the lock. Whoever
finds the lock taken waits in a queue, and other calls run as long as one waits or computes.
-/

namespace Kin.Lib

variable {α ε τ : Type} [LinearOrder τ]

/-- How far a call has come. `start` and `now` are its last reading of the clock. -/
inductive CallStage (α ε τ : Type)
  | absent
  | queued
  | computing (start : τ)
  | returned (result : Except ε α) (now : τ)

/-- The kept value with its expiry, the lock with its queue, and the calls by number. `computed`
is the history: each value that was computed, with the reading that came before. -/
structure TtlCache (α ε τ : Type) where
  cached : Option α
  expiresAt : τ
  holder : Option Nat
  waiters : List Nat
  calls : Nat → CallStage α ε τ
  clock : τ
  computed : List (τ × α)

inductive CacheOp (α ε τ : Type)
  /-- A call begins; it reads the clock once before the lock and once after. -/
  | call (n : Nat) (now later : τ)
  /-- The first call of the queue goes on with the lock. -/
  | resume (now : τ)
  /-- The computation of a call ends. -/
  | finish (n : Nat) (outcome : Except ε α)
  /-- A call is cancelled where it waits or computes. -/
  | cancel (n : Nat) (exc : ε)

namespace TtlCache

def empty (zero : τ) : TtlCache α ε τ :=
  { cached := none, expiresAt := zero, holder := none, waiters := []
    calls := fun _ => .absent, clock := zero, computed := [] }

section

variable (expiry : τ → τ) (s : TtlCache α ε τ)

def fresh? (now : τ) : Option α :=
  if now < s.expiresAt then s.cached else none

def put (n : Nat) (stage : CallStage α ε τ) : TtlCache α ε τ :=
  { s with calls := Function.update s.calls n stage }

/-- The look with the lock free: the call returns the kept value, or takes the lock and goes on
to compute. -/
def secondLook (n : Nat) (now : τ) : TtlCache α ε τ :=
  match s.fresh? now with
  | some value => { s.put n (.returned (.ok value) now) with clock := now }
  | none => { s.put n (.computing now) with holder := some n, clock := now }

def firstLook (n : Nat) (now later : τ) : TtlCache α ε τ :=
  match s.fresh? now with
  | some value => { s.put n (.returned (.ok value) now) with clock := now }
  | none =>
      if s.holder = none ∧ s.waiters = [] then s.secondLook n later
      else { s.put n .queued with waiters := s.waiters ++ [n], clock := now }

def keep (start : τ) (value : α) : TtlCache α ε τ :=
  { s with
    cached := some value
    expiresAt := expiry start
    computed := s.computed ++ [(start, value)] }

def complete (n : Nat) (start : τ) (outcome : Except ε α) : TtlCache α ε τ :=
  let released := { s.put n (.returned outcome start) with holder := none }
  match outcome with
  | .ok value => released.keep expiry start value
  | .error _ => released

/-- One operation; one that does not fit the stage of its call does nothing. -/
def step : CacheOp α ε τ → TtlCache α ε τ
  | .call n now later =>
      match s.calls n with
      | .absent => s.firstLook n now later
      | _ => s
  | .resume now =>
      match s.holder, s.waiters with
      | none, n :: waiters => { s with waiters }.secondLook n now
      | _, _ => s
  | .finish n outcome =>
      match s.calls n with
      | .computing start => s.complete expiry n start outcome
      | _ => s
  | .cancel n exc =>
      match s.calls n with
      | .queued =>
          { s.put n (.returned (.error exc) s.clock) with waiters := s.waiters.erase n }
      | .computing start => s.complete expiry n start (.error exc)
      | _ => s

/-- The clock never goes back. -/
def InTime : CacheOp α ε τ → Prop
  | .call _ now later => s.clock ≤ now ∧ now ≤ later
  | .resume now => s.clock ≤ now
  | .finish _ _ => True
  | .cancel _ _ => True

end

/-! ### The invariant -/

/-- The value was current at the reading `now`: its time had not run out, or it was computed
then. -/
def Current (expiry : τ → τ) (s : TtlCache α ε τ) (value : α) (now : τ) : Prop :=
  ∃ start, (start, value) ∈ s.computed ∧ start ≤ now ∧ (now < expiry start ∨ start = now)

structure Sound (expiry : τ → τ) (s : TtlCache α ε τ) : Prop where
  holder : ∀ n, s.holder = some n ↔ ∃ start, s.calls n = .computing start
  waiters : ∀ n, n ∈ s.waiters ↔ s.calls n = .queued
  nodup : s.waiters.Nodup
  cached : s.cached = s.computed.getLast?.map Prod.snd
  expiresAt : ∀ c, s.computed.getLast? = some c → s.expiresAt = expiry c.1
  past : ∀ c ∈ s.computed, c.1 ≤ s.clock
  apart : s.computed.Pairwise fun c d => c.1 ≤ d.1 ∧ expiry c.1 ≤ d.1
  computing : ∀ n start, s.calls n = .computing start →
    start ≤ s.clock ∧ ∀ c ∈ s.computed, c.1 ≤ start ∧ expiry c.1 ≤ start
  returned : ∀ n value now, s.calls n = .returned (.ok value) now → Current expiry s value now

variable {expiry : τ → τ} {s : TtlCache α ε τ} {n : Nat} {now : τ}

theorem sound_empty (zero : τ) : Sound expiry (empty zero : TtlCache α ε τ) where
  holder n := by simp [empty]
  waiters n := by simp [empty]
  nodup := .nil
  cached := rfl
  expiresAt c hc := by simp [empty] at hc
  past c hc := by simp [empty] at hc
  apart := .nil
  computing n start h := by simp [empty] at h
  returned n value now h := by simp [empty] at h

/-! ### Looks at the kept value -/

theorem Sound.hit (h : Sound expiry s) {value : α} (hfresh : s.fresh? now = some value)
    (hnow : s.clock ≤ now) : Current expiry s value now := by
  unfold fresh? at hfresh
  split at hfresh
  · rename_i hlt
    rw [h.cached, Option.map_eq_some_iff] at hfresh
    obtain ⟨c, hlast, rfl⟩ := hfresh
    have hmem := List.mem_of_getLast? hlast
    rw [h.expiresAt c hlast] at hlt
    exact ⟨c.1, hmem, (h.past c hmem).trans hnow, .inl hlt⟩
  · cases hfresh

/-- A call that finds nothing is late for everything that was ever computed. -/
theorem Sound.miss (h : Sound expiry s) (hfresh : s.fresh? now = none) (hnow : s.clock ≤ now) :
    ∀ c ∈ s.computed, c.1 ≤ now ∧ expiry c.1 ≤ now := by
  intro c hc
  refine ⟨(h.past c hc).trans hnow, ?_⟩
  obtain hnil | ⟨earlier, last, hsplit⟩ := List.eq_nil_or_concat s.computed
  · rw [hnil] at hc
    cases hc
  rw [List.concat_eq_append] at hsplit
  have hlast : s.computed.getLast? = some last := by rw [hsplit, List.getLast?_concat]
  have hexpired : expiry last.1 ≤ now := by
    unfold fresh? at hfresh
    split at hfresh
    · rw [h.cached, hlast] at hfresh
      cases hfresh
    · rename_i hlt
      rw [h.expiresAt last hlast] at hlt
      exact not_lt.mp hlt
  have hlastPast : last.1 ≤ now :=
    (h.past last (List.mem_of_getLast? hlast)).trans hnow
  rw [hsplit] at hc
  rcases List.mem_append.mp hc with hearlier | hsame
  · have hapart := h.apart
    rw [hsplit, List.pairwise_append] at hapart
    exact (hapart.2.2 c hearlier last List.mem_cons_self).2.trans hlastPast
  · rw [List.mem_singleton.mp hsame]
    exact hexpired

/-! ### Parts of a step -/

theorem Sound.tick (h : Sound expiry s) (hnow : s.clock ≤ now) :
    Sound expiry { s with clock := now } where
  holder := h.holder
  waiters := h.waiters
  nodup := h.nodup
  cached := h.cached
  expiresAt := h.expiresAt
  past c hc := (h.past c hc).trans hnow
  apart := h.apart
  computing n start hstage :=
    ⟨(h.computing n start hstage).1.trans hnow, (h.computing n start hstage).2⟩
  returned := h.returned

/-- What a call may become with nothing computed by now that is not accounted for. -/
structure Fits (expiry : τ → τ) (s : TtlCache α ε τ) (stage : CallStage α ε τ) : Prop where
  computing : ∀ start, stage = .computing start →
    start ≤ s.clock ∧ ∀ c ∈ s.computed, c.1 ≤ start ∧ expiry c.1 ≤ start
  returned : ∀ value t, stage = .returned (.ok value) t → Current expiry s value t

theorem fits_absent : Fits expiry s .absent where
  computing start heq := by cases heq
  returned value t heq := by cases heq

theorem fits_queued : Fits expiry s .queued where
  computing start heq := by cases heq
  returned value t heq := by cases heq

/-- One call changes its stage, and with it the lock or the queue. -/
theorem Sound.move (h : Sound expiry s) {stage : CallStage α ε τ} (hfits : Fits expiry s stage)
    (holder : Option Nat) (waiters : List Nat)
    (hholder : ∀ m, holder = some m ↔
      if m = n then ∃ start, stage = .computing start else s.holder = some m)
    (hwaiters : ∀ m, m ∈ waiters ↔ if m = n then stage = .queued else m ∈ s.waiters)
    (hnodup : waiters.Nodup) : Sound expiry { s.put n stage with holder, waiters } where
  holder m := by
    rw [hholder m, put]
    dsimp only
    split
    · subst m
      rw [Function.update_self]
    · rename_i hm
      rw [Function.update_of_ne hm, h.holder m]
  waiters m := by
    rw [hwaiters m, put]
    dsimp only
    split
    · subst m
      rw [Function.update_self]
    · rename_i hm
      rw [Function.update_of_ne hm, h.waiters m]
  nodup := hnodup
  cached := h.cached
  expiresAt := h.expiresAt
  past := h.past
  apart := h.apart
  computing m start hstage := by
    simp only [put, Function.update_apply] at hstage
    split at hstage
    · exact hfits.computing start hstage
    · exact h.computing m start hstage
  returned m value t hstage := by
    simp only [put, Function.update_apply] at hstage
    split at hstage
    · exact hfits.returned value t hstage
    · exact h.returned m value t hstage

/-- A call that has not begun returns. -/
theorem Sound.answer (h : Sound expiry s) (hidle : s.calls n = .absent) (result : Except ε α)
    (t : τ) (hcurrent : ∀ value, result = .ok value → Current expiry s value t) :
    Sound expiry (s.put n (.returned result t)) := by
  refine h.move ⟨?_, ?_⟩ s.holder s.waiters (fun m => ?_) (fun m => ?_) h.nodup
  · intro start heq
    cases heq
  · intro value t' heq
    cases heq
    exact hcurrent value rfl
  · split
    · subst m
      simp [h.holder n, hidle]
    · rfl
  · split
    · subst m
      simp [h.waiters n, hidle]
    · rfl

/-- A call enters the queue. -/
theorem Sound.wait (h : Sound expiry s) (hidle : s.calls n = .absent) :
    Sound expiry { s.put n .queued with waiters := s.waiters ++ [n] } := by
  refine h.move fits_queued s.holder (s.waiters ++ [n]) (fun m => ?_) (fun m => ?_) ?_
  · split
    · subst m
      simp [h.holder n, hidle]
    · rfl
  · split
    · subst m
      simp
    · rename_i hm
      simp [hm]
  · have hnot : n ∉ s.waiters := by
      rw [h.waiters n, hidle]
      simp
    exact List.nodup_append.mpr ⟨h.nodup, List.pairwise_singleton _ n, by
      rintro m hm m' hm' rfl
      rw [List.mem_singleton.mp hm'] at hm
      exact hnot hm⟩

theorem Sound.leave (h : Sound expiry s) (hqueued : s.calls n = .queued) :
    Sound expiry { s.put n .absent with waiters := s.waiters.erase n } := by
  refine h.move fits_absent s.holder (s.waiters.erase n) (fun m => ?_) (fun m => ?_)
    (h.nodup.erase n)
  · split
    · subst m
      simp [h.holder n, hqueued]
    · rfl
  · rw [h.nodup.mem_erase_iff]
    split
    · subst m
      simp
    · rename_i hm
      simp [hm]

/-- A call takes the free lock. -/
theorem Sound.take (h : Sound expiry s) (hidle : s.calls n = .absent) (hfree : s.holder = none)
    (hnow : now ≤ s.clock) (hlate : ∀ c ∈ s.computed, c.1 ≤ now ∧ expiry c.1 ≤ now) :
    Sound expiry { s.put n (.computing now) with holder := some n } := by
  have hfits : Fits expiry s (.computing now) := by
    refine ⟨fun start heq => ?_, fun value t heq => ?_⟩
    · cases heq
      exact ⟨hnow, hlate⟩
    · cases heq
  refine h.move hfits (some n) s.waiters (fun m => ?_) (fun m => ?_) h.nodup
  · split
    · subst m
      simp
    · rename_i hm
      rw [hfree]
      simp [Ne.symm hm]
  · split
    · subst m
      simp [h.waiters n, hidle]
    · rfl

/-- The holder gives up the lock. -/
theorem Sound.release (h : Sound expiry s) {start : τ} (hcomputing : s.calls n = .computing start) :
    Sound expiry { s.put n .absent with holder := none } := by
  refine h.move fits_absent none s.waiters (fun m => ?_) (fun m => ?_) h.nodup
  · split
    · simp
    · rename_i hm
      have hheld : s.holder = some n := (h.holder n).mpr ⟨start, hcomputing⟩
      rw [hheld]
      simp [Ne.symm hm]
  · split
    · subst m
      simp [h.waiters n, hcomputing]
    · rfl

theorem Sound.keep (h : Sound expiry s) (hfree : s.holder = none) {start : τ} (value : α)
    (hstart : start ≤ s.clock) (hlate : ∀ c ∈ s.computed, c.1 ≤ start ∧ expiry c.1 ≤ start) :
    Sound expiry (s.keep expiry start value) where
  holder := h.holder
  waiters := h.waiters
  nodup := h.nodup
  cached := by simp [TtlCache.keep]
  expiresAt c hc := by
    simp only [TtlCache.keep, List.getLast?_concat, Option.some.injEq] at hc
    rw [← hc]
    rfl
  past c hc := by
    rcases List.mem_append.mp hc with hold | hnew
    · exact h.past c hold
    · rw [List.mem_singleton.mp hnew]
      exact hstart
  apart := by
    refine List.pairwise_append.mpr ⟨h.apart, List.pairwise_singleton _ _, ?_⟩
    intro c hc d hd
    rw [List.mem_singleton.mp hd]
    exact hlate c hc
  computing m start' hstage := by
    have hheld := (h.holder m).mpr ⟨start', hstage⟩
    rw [hfree] at hheld
    cases hheld
  returned m value' t hstage := by
    obtain ⟨start', hmem, hcurrent⟩ := h.returned m value' t hstage
    exact ⟨start', List.mem_append_left _ hmem, hcurrent⟩

/-! ### Steps and runs -/

theorem Sound.look (h : Sound expiry s) (hidle : s.calls n = .absent) {value : α}
    (hfresh : s.fresh? now = some value) (hnow : s.clock ≤ now) :
    Sound expiry { s.put n (.returned (.ok value) now) with clock := now } := by
  refine (h.answer hidle (.ok value) now fun value' heq => ?_).tick hnow
  cases heq
  exact h.hit hfresh hnow

theorem Sound.secondLook (h : Sound expiry s) (hidle : s.calls n = .absent)
    (hfree : s.holder = none) (hnow : s.clock ≤ now) : Sound expiry (s.secondLook n now) := by
  unfold TtlCache.secondLook
  split
  · rename_i hfresh
    exact h.look hidle hfresh hnow
  · rename_i hfresh
    exact (h.tick hnow).take hidle hfree le_rfl (h.miss hfresh hnow)

theorem Sound.firstLook (h : Sound expiry s) (hidle : s.calls n = .absent) {later : τ}
    (hnow : s.clock ≤ now) (hlater : now ≤ later) : Sound expiry (s.firstLook n now later) := by
  unfold TtlCache.firstLook
  split
  · rename_i hfresh
    exact h.look hidle hfresh hnow
  · split
    · rename_i hopen
      exact h.secondLook hidle hopen.1 (hnow.trans hlater)
    · exact (h.wait hidle).tick hnow

theorem Sound.complete (h : Sound expiry s) {start : τ} (hcomputing : s.calls n = .computing start)
    (outcome : Except ε α) : Sound expiry (s.complete expiry n start outcome) := by
  have hreleased := h.release hcomputing
  obtain ⟨hstart, hlate⟩ := h.computing n start hcomputing
  unfold TtlCache.complete
  cases outcome with
  | error exc =>
      have hanswered := hreleased.answer (n := n) (by simp [put]) (.error exc) start
        fun value heq => by cases heq
      rwa [put, put, Function.update_idem] at hanswered
  | ok value =>
      have hkept := hreleased.keep rfl value hstart hlate
      have hanswered := hkept.answer (n := n) (by simp [TtlCache.keep, put]) (.ok value) start
        fun value' heq => by
          cases heq
          exact ⟨start, List.mem_append_right _ (List.mem_singleton_self _), le_rfl, .inr rfl⟩
      rwa [put, TtlCache.keep, put, Function.update_idem] at hanswered

theorem Sound.step (h : Sound expiry s) {op : CacheOp α ε τ} (htime : s.InTime op) :
    Sound expiry (s.step expiry op) := by
  cases op with
  | call n now later =>
      rw [TtlCache.step]
      split
      · rename_i hidle
        exact h.firstLook hidle htime.1 htime.2
      · exact h
  | resume now =>
      rw [TtlCache.step]
      split
      · rename_i n waiters hfree hwaiters
        have hqueued : s.calls n = .queued := (h.waiters n).mp (by simp [hwaiters])
        have hleft := h.leave hqueued
        rw [hwaiters, List.erase_cons_head] at hleft
        have hlooked := hleft.secondLook (n := n) (by simp [put]) hfree htime
        unfold TtlCache.secondLook fresh? put at hlooked ⊢
        simpa only [Function.update_idem] using hlooked
      · exact h
  | finish n outcome =>
      rw [TtlCache.step]
      split
      · rename_i start hcomputing
        exact h.complete hcomputing outcome
      · exact h
  | cancel n exc =>
      rw [TtlCache.step]
      split
      · rename_i hqueued
        have hanswered := (h.leave hqueued).answer (n := n) (by simp [put]) (.error exc) s.clock
          fun value heq => by cases heq
        rwa [put, put, Function.update_idem] at hanswered
      · rename_i start hcomputing
        exact h.complete hcomputing (.error exc)
      · exact h

theorem secondLook_computed : (s.secondLook n now).computed = s.computed := by
  unfold TtlCache.secondLook
  split <;> rfl

/-- Only the end of a computation adds to the history. -/
theorem mem_computed_step {op : CacheOp α ε τ} {c : τ × α} (h : c ∈ (s.step expiry op).computed) :
    c ∈ s.computed ∨ ∃ n, op = .finish n (.ok c.2) := by
  cases op with
  | call n now later =>
      rw [TtlCache.step] at h
      split at h
      · unfold TtlCache.firstLook at h
        split at h
        · exact .inl h
        · split at h
          · rw [secondLook_computed] at h
            exact .inl h
          · exact .inl h
      · exact .inl h
  | resume now =>
      rw [TtlCache.step] at h
      split at h
      · rw [secondLook_computed] at h
        exact .inl h
      · exact .inl h
  | finish n outcome =>
      rw [TtlCache.step] at h
      split at h
      · cases outcome with
        | error exc => exact .inl h
        | ok value =>
            rcases List.mem_append.mp h with hold | hnew
            · exact .inl hold
            · rw [List.mem_singleton.mp hnew]
              exact .inr ⟨n, rfl⟩
      · exact .inl h
  | cancel n exc =>
      rw [TtlCache.step] at h
      split at h <;> exact .inl h

/-- The lock is free unless a call computes. -/
theorem Sound.holder_eq_none (h : Sound expiry s) :
    s.holder = none ↔ ∀ n start, s.calls n ≠ .computing start := by
  rw [Option.eq_none_iff_forall_ne_some]
  refine forall_congr' fun n => ?_
  rw [Ne, h.holder n, not_exists]

end TtlCache

end Kin.Lib
