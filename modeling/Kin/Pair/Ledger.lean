import Mathlib.Logic.Function.Basic
import Kin.Pair.Status

/-!
What two nodes count about a session besides its status: the agents that
registered, the turns taken and the last number of either side. Each side only
ever adds to its own numbers, so envelopes of the two sides commute here, and the
ledgers are equal once everything in flight is taken in.
-/

namespace Kin.Pair

open Kin.Schemas Kin.Session

/-- What a node reads of an envelope, besides its signature. `accepting` is the
agent an acceptance names. -/
structure Letter where
  author : Side
  kind : MessageKind
  agentId : String
  sequence : Nat
  accepting : Option String

structure Ledger where
  senderAgent : Option String
  receiverAgent : Option String
  turns : Nat
  maxTurns : Nat
  last : Side → Nat

/-- The agent registered for a side; without one, its owner's name. -/
def Ledger.agentOf (names : Side → String) (ledger : Ledger) : Side → String
  | .initiator => textOr ledger.senderAgent (names .initiator)
  | .receiver => textOr ledger.receiverAgent (names .receiver)

def acceptedAgent (agent : Option String) (letter : Letter) : Option String :=
  if letter.kind = .acceptance ∧ letter.accepting.any (· ≠ "") = true then letter.accepting
  else agent

def Ledger.record (ledger : Ledger) (letter : Letter) : Ledger where
  senderAgent := ledger.senderAgent
  receiverAgent := acceptedAgent ledger.receiverAgent letter
  turns := ledger.turns + if turnConsuming letter.kind then 1 else 0
  maxTurns := ledger.maxTurns
  last := Function.update ledger.last letter.author (ledger.last letter.author + 1)

/-- The checks of the reducer that do not look at the status. An acceptance may
come from any agent. -/
structure Ledger.Admits (names : Side → String) (ledger : Ledger) (letter : Letter) : Prop where
  sequence : letter.sequence = ledger.last letter.author + 1
  agent : letter.kind = .acceptance ∨ letter.agentId = ledger.agentOf names letter.author
  turn : turnConsuming letter.kind = true → ledger.turns < ledger.maxTurns
  accepting : letter.kind = .acceptance → letter.accepting.isSome = true

/-- Each envelope in flight passes the checks when its turn comes. -/
def Ledger.AdmitsAll (names : Side → String) : Ledger → List Letter → Prop
  | _, [] => True
  | ledger, letter :: letters =>
      ledger.Admits names letter ∧ (ledger.record letter).AdmitsAll names letters

def turnsIn (letters : List Letter) : Nat := letters.countP fun l => turnConsuming l.kind

/-! ### Catching up -/

section CatchUp

variable {names : Side → String} {ledger : Ledger} {letter : Letter} {letters : List Letter}
  {side : Side}

theorem admitsAll_concat (h : ledger.AdmitsAll names letters)
    (hlast : (letters.foldl Ledger.record ledger).Admits names letter) :
    ledger.AdmitsAll names (letters ++ [letter]) := by
  induction letters generalizing ledger with
  | nil => exact ⟨hlast, trivial⟩
  | cons l letters ih => exact ⟨h.1, ih h.2 hlast⟩

theorem turns_foldl : (letters.foldl Ledger.record ledger).turns = ledger.turns + turnsIn letters := by
  induction letters generalizing ledger with
  | nil => rfl
  | cons l letters ih =>
      have hfirst : (ledger.record l).turns =
          ledger.turns + if turnConsuming l.kind then 1 else 0 := rfl
      rw [List.foldl_cons, ih, hfirst, turnsIn, turnsIn, List.countP_cons]
      omega

theorem maxTurns_foldl : (letters.foldl Ledger.record ledger).maxTurns = ledger.maxTurns := by
  induction letters generalizing ledger with
  | nil => rfl
  | cons l letters ih => rw [List.foldl_cons, ih, Ledger.record]

theorem last_record_of_ne (h : letter.author ≠ side) :
    (ledger.record letter).last side = ledger.last side :=
  Function.update_of_ne (Ne.symm h) _ _

theorem last_foldl (h : ∀ l ∈ letters, l.author ≠ side) :
    (letters.foldl Ledger.record ledger).last side = ledger.last side := by
  induction letters generalizing ledger with
  | nil => rfl
  | cons l letters ih =>
      rw [List.foldl_cons, ih fun m hm => h m (List.mem_cons_of_mem _ hm),
        last_record_of_ne (h l List.mem_cons_self)]

/-- Only the receiver's acceptance registers an agent, and only its own. -/
theorem agentOf_record_of_ne (hne : letter.author ≠ side)
    (hacceptance : letter.kind = .acceptance → letter.author = .receiver) :
    (ledger.record letter).agentOf names side = ledger.agentOf names side := by
  cases side with
  | initiator => rfl
  | receiver =>
      have hkind : letter.kind ≠ .acceptance := fun h => hne (hacceptance h)
      simp [Ledger.agentOf, Ledger.record, acceptedAgent, hkind]

theorem agentOf_foldl (hne : ∀ l ∈ letters, l.author ≠ side)
    (hacceptance : ∀ l ∈ letters, l.kind = .acceptance → l.author = .receiver) :
    (letters.foldl Ledger.record ledger).agentOf names side = ledger.agentOf names side := by
  induction letters generalizing ledger with
  | nil => rfl
  | cons l letters ih =>
      rw [List.foldl_cons, ih (fun m hm => hne m (List.mem_cons_of_mem _ hm))
        fun m hm => hacceptance m (List.mem_cons_of_mem _ hm),
        agentOf_record_of_ne (hne l List.mem_cons_self) (hacceptance l List.mem_cons_self)]

/-- Envelopes of the two sides commute. -/
theorem record_comm {l m : Letter} (hne : l.author ≠ m.author)
    (hl : l.kind = .acceptance → l.author = .receiver)
    (hm : m.kind = .acceptance → m.author = .receiver) :
    (ledger.record l).record m = (ledger.record m).record l := by
  have hnot : l.kind ≠ .acceptance ∨ m.kind ≠ .acceptance := by
    by_contra h
    rw [not_or, not_not, not_not] at h
    exact hne ((hl h.1).trans (hm h.2).symm)
  have hagent : acceptedAgent (acceptedAgent ledger.receiverAgent l) m =
      acceptedAgent (acceptedAgent ledger.receiverAgent m) l := by
    rcases hnot with h | h <;> simp [acceptedAgent, h]
  simp only [Ledger.record, Ledger.mk.injEq, true_and]
  refine ⟨hagent, by omega, ?_⟩
  rw [Function.update_of_ne hne.symm, Function.update_of_ne hne, Function.update_comm hne]

theorem foldl_record_comm (hne : ∀ m ∈ letters, m.author ≠ letter.author)
    (hletter : letter.kind = .acceptance → letter.author = .receiver)
    (hacceptance : ∀ m ∈ letters, m.kind = .acceptance → m.author = .receiver) :
    letters.foldl Ledger.record (ledger.record letter) =
      (letters.foldl Ledger.record ledger).record letter := by
  induction letters generalizing ledger with
  | nil => rfl
  | cons m letters ih =>
      rw [List.foldl_cons, List.foldl_cons, record_comm (Ne.symm (hne m List.mem_cons_self)) hletter
        (hacceptance m List.mem_cons_self)]
      exact ih (fun l hl => hne l (List.mem_cons_of_mem _ hl))
        fun l hl => hacceptance l (List.mem_cons_of_mem _ hl)

/-- What is in flight to a node still passes after the node's own envelope, if
there are turns for all of it. -/
theorem admitsAll_record (h : ledger.AdmitsAll names letters)
    (hne : ∀ m ∈ letters, m.author ≠ letter.author)
    (hletter : letter.kind = .acceptance → letter.author = .receiver)
    (hacceptance : ∀ m ∈ letters, m.kind = .acceptance → m.author = .receiver)
    (hroom : turnConsuming letter.kind = true → ledger.turns + turnsIn letters < ledger.maxTurns) :
    (ledger.record letter).AdmitsAll names letters := by
  induction letters generalizing ledger with
  | nil => trivial
  | cons m letters ih =>
      obtain ⟨hm, hrest⟩ := h
      have hauthor := Ne.symm (hne m List.mem_cons_self)
      have hcount : turnsIn (m :: letters) =
          turnsIn letters + if turnConsuming m.kind then 1 else 0 := by
        rw [turnsIn, turnsIn, List.countP_cons]
      refine ⟨⟨?_, ?_, ?_, hm.accepting⟩, ?_⟩
      · rw [last_record_of_ne hauthor]
        exact hm.sequence
      · rw [agentOf_record_of_ne hauthor hletter]
        exact hm.agent
      · intro hturn
        have hbefore := hm.turn hturn
        simp only [Ledger.record]
        split
        · rename_i hl
          have := hroom hl
          rw [hcount, if_pos hturn] at this
          omega
        · omega
      · rw [record_comm hauthor hletter (hacceptance m List.mem_cons_self)]
        refine ih hrest (fun l hl => hne l (List.mem_cons_of_mem _ hl))
          (fun l hl => hacceptance l (List.mem_cons_of_mem _ hl)) fun hl => ?_
        have := hroom hl
        rw [hcount] at this
        simp only [Ledger.record]
        omega

end CatchUp

/-! ### Two ledgers -/

/-- The ledgers of a node and its peer, with what is in flight: everything in
flight passes, and the ledgers are the same after it. -/
structure InStep (names : Side → String) (me : Side) (mine theirs : Ledger)
    (toMe toThem : List Letter) : Prop where
  toMe_author : ∀ l ∈ toMe, l.author = me.other
  toThem_author : ∀ l ∈ toThem, l.author = me
  acceptance : ∀ l ∈ toMe ++ toThem, l.kind = .acceptance → l.author = .receiver
  admitsMine : mine.AdmitsAll names toMe
  admitsTheirs : theirs.AdmitsAll names toThem
  same : toMe.foldl Ledger.record mine = toThem.foldl Ledger.record theirs

namespace InStep

variable {names : Side → String} {me : Side} {mine theirs : Ledger} {toMe toThem : List Letter}
  {letter : Letter}

theorem symm (h : InStep names me mine theirs toMe toThem) :
    InStep names me.other theirs mine toThem toMe where
  toMe_author := by simpa using h.toThem_author
  toThem_author := h.toMe_author
  acceptance l hl := h.acceptance l (by rw [List.mem_append] at hl ⊢; exact hl.symm)
  admitsMine := h.admitsTheirs
  admitsTheirs := h.admitsMine
  same := h.same.symm

theorem deliver (h : InStep names me mine theirs (letter :: toMe) toThem) :
    mine.Admits names letter ∧ InStep names me (mine.record letter) theirs toMe toThem := by
  refine ⟨h.admitsMine.1, ?_⟩
  exact
    { toMe_author := fun l hl => h.toMe_author l (List.mem_cons_of_mem _ hl)
      toThem_author := h.toThem_author
      acceptance := fun l hl => h.acceptance l (List.mem_cons_of_mem _ hl)
      admitsMine := h.admitsMine.2
      admitsTheirs := h.admitsTheirs
      same := h.same }

/-- An envelope that passes here passes at the peer, if there are turns for it
and all that is in flight. -/
theorem send (h : InStep names me mine theirs toMe toThem) (hauthor : letter.author = me)
    (hacceptance : letter.kind = .acceptance → me = .receiver)
    (hadmits : mine.Admits names letter)
    (hroom : turnConsuming letter.kind = true → mine.turns + turnsIn toMe < mine.maxTurns) :
    InStep names me (mine.record letter) theirs toMe (toThem ++ [letter]) := by
  have hne : ∀ m ∈ toMe, m.author ≠ letter.author := by
    intro m hm
    rw [h.toMe_author m hm, hauthor]
    exact me.other_ne
  have hletter : letter.kind = .acceptance → letter.author = .receiver := by
    rw [hauthor]
    exact hacceptance
  have hmine : ∀ m ∈ toMe, m.kind = .acceptance → m.author = .receiver :=
    fun m hm => h.acceptance m (List.mem_append_left _ hm)
  refine ⟨h.toMe_author, ?_, ?_, ?_, ?_, ?_⟩
  · intro l hl
    rcases List.mem_append.mp hl with hl | hl
    · exact h.toThem_author l hl
    · rw [List.mem_singleton.mp hl]
      exact hauthor
  · intro l hl
    rw [← List.append_assoc, List.mem_append, List.mem_singleton] at hl
    rcases hl with hl | rfl
    · exact h.acceptance l hl
    · exact hletter
  · exact admitsAll_record h.admitsMine hne hletter hmine hroom
  · -- the peer, once it has caught up, has the ledger this node would have
    refine admitsAll_concat h.admitsTheirs ?_
    rw [← h.same]
    refine ⟨?_, ?_, ?_, hadmits.accepting⟩
    · rw [last_foldl hne]
      exact hadmits.sequence
    · rw [agentOf_foldl hne hmine]
      exact hadmits.agent
    · rw [turns_foldl, maxTurns_foldl]
      exact hroom
  · rw [foldl_record_comm hne hletter hmine, h.same, List.foldl_append]
    rfl

end InStep

end Kin.Pair
