import Kin.Lib.Bookings
import Kin.Lib.Run
import Kin.Py.FromIso
import Kin.Py.IsoOrder
import Kin.Py.Value
import Kin.Storage.Db

/-!
Reservations of `kin/collaboration_depth.py`. The times of a reservation are stored as
text and compared as text; the query misjudges a reservation when one of its
comparisons puts a whole second against a fraction of that second.
-/

namespace Kin.Depth

open Kin.Py Kin.Lib Kin.Storage

/-! ### Times -/

/-- How `reserve_agent` fails: with its own `ValueError`, or an exception from below. -/
inductive ReserveError
  | refused (message : String)
  | raised (exc : PyExc)
  deriving DecidableEq

/-- `value.replace("Z", "+00:00")`. -/
def replaceZ (value : String) : String :=
  String.ofList (value.toList.flatMap fun c => if c = 'Z' then "+00:00".toList else [c])

/-- The UTC timestamp at an instant, if `datetime` covers it. -/
def datetime? (t : Instant) : Option Datetime :=
  if h : minDay ≤ dayOf t ∧ dayOf t ≤ maxDay then some ⟨t, h.1, h.2⟩ else none

/-- `_utc` of a text. -/
def utc (value : String) : Except ReserveError Datetime :=
  match fromisoformat (replaceZ value) with
  | none => .error (.raised .valueError)
  | some parsed =>
      match datetime? parsed.utc with
      | none => .error (.raised .overflowError)
      | some t => .ok t

/-- `_iso` of a UTC timestamp. -/
def iso (t : Datetime) : String := isoNow t.instant

/-! ### The table -/

structure AgentReservation where
  reservationId : String
  agentId : String
  ownerUsername : String
  startsAt : String
  endsAt : String
  status : String := "active"
  deriving DecidableEq

/-- A row of `agent_reservations`. -/
structure ReservationRow extends AgentReservation where
  createdAt : String
  deriving DecidableEq

structure DepthDb where
  agents : List AgentRow
  reservations : List ReservationRow

/-- The arguments of `reserve_agent`, with the clock and `uuid.uuid4().hex`. -/
structure Request where
  agentId : String
  ownerUsername : String
  startsAt : String
  endsAt : String
  now : Datetime
  uuid : String

def Request.reservationId (req : Request) : String := "res_" ++ req.uuid

/-- `starts_at < ? AND ends_at > ?` for an active reservation of the agent. -/
def isOverlap (agentId : String) (start finish : Datetime) (row : ReservationRow) : Bool :=
  decide (row.agentId = agentId) && decide (row.status = "active") &&
    (decide (row.startsAt < iso finish) && decide (iso start < row.endsAt))

def reservationOf (req : Request) (start finish : Datetime) : AgentReservation where
  reservationId := req.reservationId
  agentId := req.agentId
  ownerUsername := req.ownerUsername
  startsAt := iso start
  endsAt := iso finish

def reserveAgent (db : DepthDb) (req : Request) :
    DepthDb × Except ReserveError AgentReservation :=
  match utc req.startsAt, utc req.endsAt with
  | .error e, _ => (db, .error e)
  | .ok _, .error e => (db, .error e)
  | .ok start, .ok finish =>
  if finish.instant ≤ start.instant then
    (db, .error (.refused "Reservation end must be after its start."))
  else if (Rows.lookup AgentRow.agentId db.agents req.agentId).isNone then
    (db, .error (.refused "The selected agent does not exist."))
  else if db.reservations.any (isOverlap req.agentId start finish) then
    (db, .error (.refused "The selected agent is already reserved in that time window."))
  else if db.reservations.any (fun row => row.reservationId == req.reservationId) then
    (db, .error (.raised .integrityError))
  else
    ({ db with
        reservations := db.reservations ++
          [{ reservationOf req start finish with createdAt := iso req.now }] },
      .ok (reservationOf req start finish))

def reserveStep (db : DepthDb) (req : Request) : DepthDb := (reserveAgent db req).1

/-! ### Windows of reservations -/

theorem Datetime.eq_of_instant {a b : Datetime} (h : a.instant = b.instant) : a = b := by
  cases a
  cases b
  cases h
  rfl

/-- Timestamps are ordered as their instants. -/
instance : LinearOrder Datetime := LinearOrder.lift' Datetime.instant fun _ _ => Datetime.eq_of_instant

theorem iso_injective {a b : Datetime} (h : iso a = iso b) : a = b :=
  Datetime.eq_of_instant (isoNow_injective h)

structure Asks (req : Request) (w : Window Datetime) : Prop where
  starts : utc req.startsAt = .ok w.starts
  ends : utc req.endsAt = .ok w.ends

/-- The columns of the row hold the window. -/
structure Written (row : ReservationRow) (w : Window Datetime) : Prop where
  starts : row.startsAt = iso w.starts
  ends : row.endsAt = iso w.ends

def Represents (rows : List ReservationRow) (bookings : List (String × Window Datetime)) : Prop :=
  List.Forall₂ (fun row booking => row.agentId = booking.1 ∧ Written row booking.2)
    (rows.filter fun row => decide (row.status = "active")) bookings

/-- The query takes the windows for overlapping when they are not, or misses that they
are: two of the times compared are a whole second and a fraction of it, and the other
comparison lets the pair through. -/
def Misjudges (w asked : Window Datetime) : Prop :=
  WholeAgainstFraction w.starts.instant asked.ends.instant ∧ asked.starts < w.ends ∨
    WholeAgainstFraction asked.starts.instant w.ends.instant ∧ w.starts < asked.ends

theorem ne_of_wholeAgainstFraction {a b : Instant} (h : WholeAgainstFraction a b) :
    @Ne Int a b := by
  rintro rfl
  have hmicro := h.2
  omega

/-- Where both comparisons come out the wrong way, the windows share their second. -/
theorem meets_of_wholeAgainstFraction {ws we qs qe : Int} (hw : ws < we) (hasked : qs < qe)
    (hstart : WholeAgainstFraction ws qe) (hend : WholeAgainstFraction qs we) :
    ws < qe ∧ qs < we := by
  unfold WholeAgainstFraction microsecond secondOf at hstart hend
  omega

theorem compared_instants {ws we qs qe : Int} (hw : ws < we) (hasked : qs < qe) :
    (((if WholeAgainstFraction ws qe then qe < ws else ws < qe) ∧
        (if WholeAgainstFraction qs we then we < qs else qs < we)) ↔ ws < qe ∧ qs < we) ↔
      ¬(WholeAgainstFraction ws qe ∧ qs < we ∨ WholeAgainstFraction qs we ∧ ws < qe) := by
  by_cases hstart : WholeAgainstFraction ws qe
  · have hstarts := ne_of_wholeAgainstFraction hstart
    by_cases hend : WholeAgainstFraction qs we
    · have hmeet := meets_of_wholeAgainstFraction hw hasked hstart hend
      simp only [hstart, hend, if_true, true_and]
      omega
    · simp only [hstart, hend, if_true, if_false, true_and, false_and, or_false]
      omega
  · by_cases hend : WholeAgainstFraction qs we
    · have hends := ne_of_wholeAgainstFraction hend
      simp only [hstart, hend, if_true, if_false, true_and, false_and, false_or]
      omega
    · simp only [hstart, hend, if_false, false_and, or_false, not_false_iff]

/-- The two comparisons of the query are right about a pair of windows exactly if they do
not misjudge it. -/
theorem compared_iff (w asked : Window Datetime) :
    ((iso w.starts < iso asked.ends ∧ iso asked.starts < iso w.ends) ↔ w.Meets asked) ↔
      ¬Misjudges w asked := by
  rw [Window.meets_iff, iso, iso, iso, iso, isoNow_lt_iff, isoNow_lt_iff, Misjudges]
  exact compared_instants w.ordered asked.ordered

/-- The query finds what it does not misjudge, and misjudges the rest. -/
theorem found_iff (w asked : Window Datetime) :
    (iso w.starts < iso asked.ends ∧ iso asked.starts < iso w.ends) ↔
      Xor (w.Meets asked) (Misjudges w asked) := by
  have hright := compared_iff w asked
  generalize (iso w.starts < iso asked.ends ∧ iso asked.starts < iso w.ends) = found at hright ⊢
  rw [xor_def]
  tauto

theorem Written.unique {row : ReservationRow} {w w' : Window Datetime} (h : Written row w)
    (h' : Written row w') : w = w' := by
  have hstarts := iso_injective (h.starts.symm.trans h'.starts)
  have hends := iso_injective (h.ends.symm.trans h'.ends)
  cases w
  cases w'
  cases hstarts
  cases hends
  rfl

section Table

variable {rows : List ReservationRow} {bookings bookings' : List (String × Window Datetime)}

theorem Represents.unique (h : Represents rows bookings) (h' : Represents rows bookings') :
    bookings = bookings' := by
  refine List.right_unique_forall₂' ?_ h h'
  rintro row ⟨agent, w⟩ ⟨agent', w'⟩ ⟨hagent, hw⟩ ⟨hagent', hw'⟩
  exact Prod.ext (hagent.symm.trans hagent') (hw.unique hw')

theorem Represents.booking_of_row (h : Represents rows bookings) {row : ReservationRow}
    (hrow : row ∈ rows) (hactive : row.status = "active") :
    ∃ booking ∈ bookings, row.agentId = booking.1 ∧ Written row booking.2 := by
  obtain ⟨hlength, hget⟩ := List.forall₂_iff_get.mp h
  have hmem : row ∈ rows.filter fun row => decide (row.status = "active") :=
    List.mem_filter.mpr ⟨hrow, decide_eq_true hactive⟩
  obtain ⟨⟨i, hi⟩, rfl⟩ := List.mem_iff_get.mp hmem
  exact ⟨_, List.get_mem bookings ⟨i, hlength ▸ hi⟩, hget i hi (hlength ▸ hi)⟩

theorem Represents.row_of_booking (h : Represents rows bookings)
    {booking : String × Window Datetime} (hbooking : booking ∈ bookings) :
    ∃ row ∈ rows, row.status = "active" ∧ row.agentId = booking.1 ∧ Written row booking.2 := by
  obtain ⟨hlength, hget⟩ := List.forall₂_iff_get.mp h
  obtain ⟨⟨i, hi⟩, rfl⟩ := List.mem_iff_get.mp hbooking
  have hmem := List.mem_filter.mp (List.get_mem _ ⟨i, hlength.symm ▸ hi⟩)
  exact ⟨_, hmem.1, of_decide_eq_true hmem.2, hget i (hlength.symm ▸ hi) hi⟩

theorem Represents.append (h : Represents rows bookings) {r : ReservationRow}
    {w : Window Datetime} (hactive : r.status = "active") (hw : Written r w) :
    Represents (rows ++ [r]) (bookings ++ [(r.agentId, w)]) := by
  unfold Represents
  rw [List.filter_append, List.filter_singleton, decide_eq_true hactive, cond_true]
  exact List.rel_append h (.cons ⟨rfl, hw⟩ .nil)

end Table

/-! ### One call -/

/-- The request is well formed: its times are read, its agent exists and `uuid4` gives it
an id of its own. -/
structure Valid (db : DepthDb) (req : Request) (asked : Window Datetime) : Prop where
  asks : Asks req asked
  agent : (Rows.lookup AgentRow.agentId db.agents req.agentId).isSome = true
  fresh : ∀ row ∈ db.reservations, row.reservationId ≠ req.reservationId

def Reserved (db : DepthDb) (agentId : String) (P : Window Datetime → Prop) : Prop :=
  ∃ row ∈ db.reservations, row.agentId = agentId ∧ row.status = "active" ∧
    ∃ w, Written row w ∧ P w

/-- The request is well formed and misjudged as a whole: it meets a reservation, and the
ones that are not misjudged stay clear of it as the misjudged ones do not; or it meets
none, and one is misjudged. -/
def Misread (db : DepthDb) (req : Request) : Prop :=
  ∃ asked, Valid db req asked ∧
    ¬(Reserved db req.agentId (fun w => Xor (w.Meets asked) (Misjudges w asked)) ↔
      Reserved db req.agentId fun w => w.Meets asked)

def ClashFree (db : DepthDb) : Prop :=
  ∃ bookings, Represents db.reservations bookings ∧ NoClash bookings

def GrantedWhenFree (db : DepthDb) (req : Request) : Prop :=
  ∀ asked, Valid db req asked → ¬Reserved db req.agentId (fun w => w.Meets asked) →
    (reserveAgent db req).2 = .ok (reservationOf req asked.starts asked.ends)

section Step

variable {db : DepthDb} {req : Request} {asked : Window Datetime}
  {bookings : List (String × Window Datetime)}

def bookedRow (req : Request) (asked : Window Datetime) : ReservationRow :=
  { reservationOf req asked.starts asked.ends with createdAt := iso req.now }

/-- A call books the window it asks for, or changes nothing. -/
theorem reserveAgent_cases (db : DepthDb) (req : Request) :
    (∃ asked, Valid db req asked ∧
      db.reservations.any (isOverlap req.agentId asked.starts asked.ends) = false ∧
      (reserveAgent db req).1.reservations = db.reservations ++ [bookedRow req asked]) ∨
    (reserveAgent db req).1 = db := by
  unfold reserveAgent
  split
  · exact .inr rfl
  · exact .inr rfl
  rename_i start finish hstart hfinish
  split
  · exact .inr rfl
  rename_i hordered
  split
  · exact .inr rfl
  rename_i hagent
  split
  · exact .inr rfl
  rename_i hnone
  split
  · exact .inr rfl
  rename_i hfresh
  exact .inl ⟨⟨start, finish, not_le.mp hordered⟩,
    ⟨⟨hstart, hfinish⟩, by simpa [← Option.isSome_iff_ne_none] using hagent,
      by simpa using hfresh⟩, by simpa using hnone, rfl⟩

/-- A well-formed request is granted exactly if the query finds no overlap. -/
theorem reserveAgent_of_valid (h : Valid db req asked) :
    reserveAgent db req =
      if db.reservations.any (isOverlap req.agentId asked.starts asked.ends) then
        (db, .error (.refused "The selected agent is already reserved in that time window."))
      else
        ({ db with reservations := db.reservations ++ [bookedRow req asked] },
          .ok (reservationOf req asked.starts asked.ends)) := by
  have hordered : ¬asked.ends.instant ≤ asked.starts.instant := not_le.mpr asked.ordered
  have hagent : (Rows.lookup AgentRow.agentId db.agents req.agentId).isNone = false := by
    rw [← Option.not_isSome, h.agent]
    rfl
  have hfresh : db.reservations.any (fun row => row.reservationId == req.reservationId) = false := by
    simpa using h.fresh
  unfold reserveAgent
  rw [h.asks.starts, h.asks.ends]
  simp only [hordered, hagent, hfresh, if_false, Bool.false_eq_true]
  rfl

/-- What the query finds. -/
theorem any_isOverlap_iff (hrows : Represents db.reservations bookings) :
    db.reservations.any (isOverlap req.agentId asked.starts asked.ends) = true ↔
      Reserved db req.agentId fun w => Xor (w.Meets asked) (Misjudges w asked) := by
  rw [List.any_eq_true]
  refine exists_congr fun row => and_congr_right fun hrow => ?_
  simp only [isOverlap, Bool.and_eq_true, decide_eq_true_eq, and_assoc]
  refine and_congr_right fun hagent => and_congr_right fun hactive => ?_
  obtain ⟨booking, -, -, hw⟩ := hrows.booking_of_row hrow hactive
  rw [hw.starts, hw.ends, found_iff]
  constructor
  · exact fun hfound => ⟨_, hw, hfound⟩
  · rintro ⟨w, hw', hfound⟩
    rw [hw.unique hw']
    exact hfound

theorem freeDuring_iff (hrows : Represents db.reservations bookings) (agentId : String) :
    FreeDuring bookings agentId asked ↔ ¬Reserved db agentId fun w => w.Meets asked := by
  constructor
  · rintro hfree ⟨row, hrow, hagent, hactive, w, hw, hmeets⟩
    obtain ⟨booking, hbooking, hsame, hw'⟩ := hrows.booking_of_row hrow hactive
    rw [hw.unique hw'] at hmeets
    exact hfree booking hbooking (hsame.symm.trans hagent) hmeets
  · intro hnone booking hbooking hagent hmeets
    obtain ⟨row, hrow, hactive, hsame, hw⟩ := hrows.row_of_booking hbooking
    exact hnone ⟨row, hrow, hsame.trans hagent, hactive, booking.2, hw, hmeets⟩

theorem clashFree_reserveStep (db : DepthDb) (req : Request) (h : ClashFree db)
    (hread : ¬Misread db req) : ClashFree (reserveStep db req) := by
  obtain ⟨bookings, hrows, hclash⟩ := h
  rcases reserveAgent_cases db req with ⟨asked, hvalid, hnone, heq⟩ | heq
  · have hiff := not_not.mp fun hwrong => hread ⟨asked, hvalid, hwrong⟩
    have hfree : ¬Reserved db req.agentId fun w => w.Meets asked := by
      rw [← hiff, ← any_isOverlap_iff hrows, hnone]
      exact Bool.false_ne_true
    refine ⟨bookings ++ [(req.agentId, asked)], ?_,
      hclash.book ((freeDuring_iff hrows req.agentId).mpr hfree)⟩
    rw [reserveStep, heq]
    exact hrows.append (r := bookedRow req asked) rfl ⟨rfl, rfl⟩
  · rw [reserveStep, heq]
    exact ⟨bookings, hrows, hclash⟩

theorem grantedWhenFree_of_read (h : ClashFree db) (hread : ¬Misread db req) :
    GrantedWhenFree db req := by
  obtain ⟨bookings, hrows, -⟩ := h
  intro asked hvalid hfree
  have hiff := not_not.mp fun hwrong => hread ⟨asked, hvalid, hwrong⟩
  rw [← hiff, ← any_isOverlap_iff hrows] at hfree
  rw [reserveAgent_of_valid hvalid, if_neg hfree]

/-- A misread request is granted against a reservation, or refused without one. -/
theorem misread_breaks (h : ClashFree db) (hgranted : GrantedWhenFree db req)
    (hmisread : Misread db req) : ¬ClashFree (reserveStep db req) := by
  obtain ⟨bookings, hrows, -⟩ := h
  obtain ⟨asked, hvalid, hwrong⟩ := hmisread
  rw [← any_isOverlap_iff hrows] at hwrong
  have hcall := reserveAgent_of_valid hvalid
  by_cases hfound : db.reservations.any (isOverlap req.agentId asked.starts asked.ends) = true
  · have hfree : ¬Reserved db req.agentId fun w => w.Meets asked :=
      fun hmeets => hwrong (iff_of_true hfound hmeets)
    have hok := hgranted asked hvalid hfree
    rw [hcall, if_pos hfound] at hok
    cases hok
  · rintro ⟨bookings', hrows', hclash⟩
    rw [reserveStep, hcall, if_neg hfound] at hrows'
    have hbooked : bookings' = bookings ++ [(req.agentId, asked)] :=
      hrows'.unique (hrows.append (r := bookedRow req asked) rfl ⟨rfl, rfl⟩)
    rw [hbooked, NoClash, List.pairwise_append] at hclash
    have hfree : FreeDuring bookings req.agentId asked := fun booking hbooking =>
      hclash.2.2 booking hbooking _ (List.mem_singleton_self _)
    exact hwrong (iff_of_false hfound ((freeDuring_iff hrows req.agentId).mp hfree))

end Step

/-! ### Runs -/

/-- No agent is double booked in a run, and every well-formed request for a window in which
its agent is free is granted, exactly if no request of the run is misread. -/
theorem no_double_booking_iff (agents : List AgentRow) (requests : List Request) :
    ((∀ taken, taken <+: requests → ClashFree (run reserveStep ⟨agents, []⟩ taken)) ∧
        ∀ taken req, taken ++ [req] <+: requests →
          GrantedWhenFree (run reserveStep ⟨agents, []⟩ taken) req) ↔
      Along reserveStep (fun db req => ¬Misread db req) ⟨agents, []⟩ requests := by
  constructor
  · rintro ⟨hclash, hgranted⟩
    refine along_iff_prefix.mpr fun taken req hprefix hmisread => ?_
    have hbefore := hclash taken ((List.prefix_append ..).trans hprefix)
    have hafter := hclash (taken ++ [req]) hprefix
    rw [run_append] at hafter
    exact misread_breaks hbefore (hgranted taken req hprefix) hmisread hafter
  · intro h
    have hempty : ClashFree ⟨agents, []⟩ := ⟨[], .nil, noClash_nil⟩
    have hclash : ∀ taken, taken <+: requests → ClashFree (run reserveStep ⟨agents, []⟩ taken) := by
      rintro taken ⟨rest, rfl⟩
      exact run_of_along clashFree_reserveStep hempty (along_append.mp h).1
    refine ⟨hclash, fun taken req hprefix => ?_⟩
    exact grantedWhenFree_of_read (hclash taken ((List.prefix_append ..).trans hprefix))
      ( along_iff_prefix.mp h taken req hprefix)

namespace Sample

def tenOClock : Datetime := ⟨1784714400000000, by decide, by decide⟩

def noon : Datetime := ⟨1784714400000000 + 2 * 3600000000, by decide, by decide⟩

def halfASecondPastNoon : Datetime := ⟨1784721600500000, by decide, by decide⟩

def oneOClock : Datetime := ⟨1784725200000000, by decide, by decide⟩

def morning : Request :=
  { agentId := "bot", ownerUsername := "bob", startsAt := "2026-07-22T10:00:00Z"
    endsAt := "2026-07-22T14:00:00.5+02:00", now := tenOClock, uuid := "1" }

def afternoon : Request :=
  { agentId := "bot", ownerUsername := "bob", startsAt := "2026-07-22T12:00:00Z"
    endsAt := "2026-07-22T13:00:00Z", now := tenOClock, uuid := "2" }

def agents : List AgentRow := [⟨"bot", true, "ready", none⟩]

end Sample

/-- The agent is reserved twice for the first half of a second after noon. -/
theorem noon_double_booked :
    ¬ClashFree (run reserveStep ⟨Sample.agents, []⟩ [Sample.morning, Sample.afternoon]) := by
  have hrun : (run reserveStep ⟨Sample.agents, []⟩ [Sample.morning, Sample.afternoon]).reservations =
      [bookedRow Sample.morning ⟨Sample.tenOClock, Sample.halfASecondPastNoon, by decide⟩,
        bookedRow Sample.afternoon ⟨Sample.noon, Sample.oneOClock, by decide⟩] := by
    decide +kernel
  rintro ⟨bookings, hrows, hclash⟩
  rw [hrun] at hrows
  have hbooked : bookings =
      [("bot", ⟨Sample.tenOClock, Sample.halfASecondPastNoon, by decide⟩),
        ("bot", ⟨Sample.noon, Sample.oneOClock, by decide⟩)] :=
    hrows.unique (.cons ⟨rfl, rfl, rfl⟩ (.cons ⟨rfl, rfl, rfl⟩ .nil))
  rw [hbooked] at hclash
  exact (List.pairwise_pair.mp hclash) rfl (by decide)

end Kin.Depth
