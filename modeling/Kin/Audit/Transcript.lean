import Kin.Audit.Export
import Kin.Lib.Fences
import Mathlib.Data.List.TakeWhile

/-!
The Markdown transcript as a reader sees it: its lines, and which of them are outside the
fenced code. Each line keeps its origin, so that the headings and the closing fences that
`export_session` writes can be told from lines that come with a column or a payload.
-/

namespace Kin.Audit

open Kin.Py Kin.Lib

/-! ### The lines of a transcript -/

/-- A line ends at a line feed or a carriage return. -/
def isBreak (c : Nat) : Bool := c == 0x0A || c == 0x0D

def linesOf (codes : Codes) : List Codes := codes.splitOnP isBreak

def textLines (s : PyStr) : List Codes := linesOf s.codePoints

inductive Origin
  /-- The heading of an event. -/
  | heading (event : ExportedEvent)
  /-- The fence after a payload. -/
  | fence
  | other

def Origin.isFence : Origin → Bool
  | .fence => true
  | _ => false

def Origin.isHeading : Origin → Bool
  | .heading _ => true
  | _ => false

/-- Only the first line of an entry of `lines` is the exporter's own. -/
def entryLines (entry : Origin × PyStr) : List (Line Origin) :=
  match textLines entry.2 with
  | [] => []
  | first :: more => ⟨entry.1, first⟩ :: more.map (Line.mk .other)

def headEntries (env : Exporter) (sessionId : String) (info : SessionMeta) : List PyStr :=
  (transcriptLines env sessionId info []).take 10

def eventOrigins (event : ExportedEvent) : List Origin :=
  [.heading event, .other, .other, .other, .other, .other, .other, .other, .other, .other, .fence,
    .other]

def eventBlock (env : Exporter) (event : ExportedEvent) : List (Line Origin) :=
  ((eventOrigins event).zip (eventLines env event)).flatMap entryLines

def markedLines (env : Exporter) (sessionId : String) (info : SessionMeta)
    (events : List ExportedEvent) : List (Line Origin) :=
  ((headEntries env sessionId info).flatMap fun entry => entryLines (.other, entry)) ++
    if events.isEmpty then entryLines (.other, .text "*(No events recorded)*")
    else events.flatMap (eventBlock env)

def headingMark : Codes := "### Event #".toList.map Char.toNat

def startsHeading (codes : Codes) : Bool := headingMark.isPrefixOf codes

/-- The headings outside the fences are those of the events, in order, and every fence that
is opened is closed by one of the exporter's own. -/
def Unforged (env : Exporter) (sessionId : String) (info : SessionMeta)
    (events : List ExportedEvent) : Prop :=
  Framed startsHeading Origin.isFence (events.map .heading) none
    (markedLines env sessionId info events)

/-! ### The texts that keep the structure -/

def ownFence : Fence := ⟨.backtick, 3, le_rfl⟩

def beforeFence (lines : List Codes) : List Codes :=
  lines.takeWhile fun codes => opening codes = none

def fromFence (lines : List Codes) : List Codes :=
  lines.dropWhile fun codes => opening codes = none

def columnLines (env : Exporter) (event : ExportedEvent) : List Codes :=
  (((eventLines env event).take 8).flatMap textLines).tail

def payloadLines (env : Exporter) (event : ExportedEvent) : List Codes :=
  textLines (payloadText env event.payload)

structure EventSafe (columns payload : List Codes) : Prop where
  noHeading : ∀ codes ∈ beforeFence columns, startsHeading codes = false
  /-- A fence that a column opens is one that the exporter's own will close. -/
  fits : ∀ codes ∈ (fromFence columns).head?, opening codes = some ownFence
  unclosed : ∀ codes ∈ (fromFence columns).tail ++ payload, closes ownFence codes = false

structure SafeTexts (env : Exporter) (sessionId : String) (info : SessionMeta)
    (events : List ExportedEvent) : Prop where
  head : ∀ codes ∈ (headEntries env sessionId info).flatMap textLines,
    opening codes = none ∧ startsHeading codes = false
  events : ∀ event ∈ events, EventSafe (columnLines env event) (payloadLines env event)

instance (columns payload : List Codes) : Decidable (EventSafe columns payload) :=
  decidable_of_iff
    ((∀ codes ∈ beforeFence columns, startsHeading codes = false) ∧
      (∀ codes ∈ (fromFence columns).head?, opening codes = some ownFence) ∧
      ∀ codes ∈ (fromFence columns).tail ++ payload, closes ownFence codes = false)
    ⟨fun h => ⟨h.1, h.2.1, h.2.2⟩, fun h => ⟨h.noHeading, h.fits, h.unclosed⟩⟩

instance (env : Exporter) (sessionId : String) (info : SessionMeta)
    (events : List ExportedEvent) : Decidable (SafeTexts env sessionId info events) :=
  decidable_of_iff
    ((∀ codes ∈ (headEntries env sessionId info).flatMap textLines,
        opening codes = none ∧ startsHeading codes = false) ∧
      ∀ event ∈ events, EventSafe (columnLines env event) (payloadLines env event))
    ⟨fun h => ⟨h.1, h.2⟩, fun h => ⟨h.head, h.events⟩⟩

/-! ### Splitting the text -/

theorem PyStr.codePoints_append (s t : PyStr) :
    (s ++ t).codePoints = s.codePoints ++ t.codePoints := by
  cases s with
  | lone _ => cases t <;> rfl
  | text s =>
      cases t with
      | lone _ => rfl
      | text t =>
          rw [PyStr.text_append_text]
          simp [PyStr.codePoints]

theorem textLines_ne_nil (s : PyStr) : textLines s ≠ [] := List.splitOnP_ne_nil _ _

theorem textLines_joinLines {entries : List PyStr} (h : entries ≠ []) :
    textLines (joinLines entries) = entries.flatMap textLines := by
  induction entries with
  | nil => exact absurd rfl h
  | cons entry entries ih =>
      cases entries with
      | nil => rw [joinLines, List.flatMap_singleton]
      | cons next entries =>
          have hcodes : (joinLines (entry :: next :: entries)).codePoints =
              entry.codePoints ++ 0x0A :: (joinLines (next :: entries)).codePoints := by
            rw [joinLines, PyStr.codePoints_append, PyStr.codePoints_append]
            · rfl
            · simp
          rw [textLines, hcodes, linesOf, List.splitOnP_append_cons _ _ rfl, List.flatMap_cons,
            ← ih (List.cons_ne_nil _ _)]
          rfl

theorem linesOf_append {front : Codes} (h : ∀ c ∈ front, isBreak c = false) (codes : Codes) :
    ∃ first more, linesOf (front ++ codes) = (front ++ first) :: more := by
  induction front with
  | nil =>
      obtain ⟨first, more, hlines⟩ := List.exists_cons_of_ne_nil
        (List.splitOnP_ne_nil isBreak codes)
      exact ⟨first, more, hlines⟩
  | cons c front ih =>
      rw [List.forall_mem_cons] at h
      obtain ⟨first, more, hlines⟩ := ih h.2
      refine ⟨first, more, ?_⟩
      rw [linesOf] at hlines ⊢
      rw [List.cons_append, List.splitOnP_cons_eq_if_modifyHead, h.1,
        if_neg Bool.false_ne_true, hlines]
      rfl

theorem map_codes_entryLines (entry : Origin × PyStr) :
    (entryLines entry).map Line.codes = textLines entry.2 := by
  obtain ⟨first, more, hlines⟩ := List.exists_cons_of_ne_nil (textLines_ne_nil entry.2)
  rw [entryLines, hlines]
  simp [Function.comp_def]

theorem map_codes_eventBlock (env : Exporter) (event : ExportedEvent) :
    (eventBlock env event).map Line.codes = (eventLines env event).flatMap textLines := by
  have hzip : ((eventOrigins event).zip (eventLines env event)).map Prod.snd =
      eventLines env event := rfl
  rw [eventBlock, List.map_flatMap]
  simp only [map_codes_entryLines]
  rw [← List.flatMap_map Prod.snd textLines, hzip]

theorem map_codes_markedLines (env : Exporter) (sessionId : String) (info : SessionMeta)
    (events : List ExportedEvent) :
    (markedLines env sessionId info events).map Line.codes =
      textLines (joinLines (transcriptLines env sessionId info events)) := by
  have hlines : transcriptLines env sessionId info events =
      headEntries env sessionId info ++
        if events.isEmpty then [.text "*(No events recorded)*"]
        else events.flatMap (eventLines env) := rfl
  rw [textLines_joinLines (by rw [transcriptLines]; exact List.cons_ne_nil _ _), hlines,
    List.flatMap_append, markedLines, List.map_append, List.map_flatMap]
  simp only [map_codes_entryLines]
  congr 1
  split
  · rw [map_codes_entryLines, List.flatMap_singleton]
  · rw [List.map_flatMap, List.flatMap_assoc]
    simp only [map_codes_eventBlock]

/-! ### A block -/

def otherLines (lines : List Codes) : List (Line Origin) := lines.map (Line.mk .other)

/-- An entry that is not the exporter's own to its first line. -/
theorem entryLines_other (entry : PyStr) :
    entryLines (.other, entry) = otherLines (textLines entry) := by
  obtain ⟨first, more, hlines⟩ := List.exists_cons_of_ne_nil (textLines_ne_nil entry)
  rw [entryLines, hlines]
  rfl

def fenceLine : Codes := "```".toList.map Char.toNat

def infoLine : Codes := "```json".toList.map Char.toNat

/-- The first line of an event is its heading, and starts like one. -/
theorem headingLines (event : ExportedEvent) :
    ∃ first more, textLines (.text ("### Event #" ++ toString event.eventOrder ++ " - " ++
      event.kind)) = (headingMark ++ first) :: more := by
  have hsplit : PyStr.text ("### Event #" ++ toString event.eventOrder ++ " - " ++ event.kind) =
      .text "### Event #" ++ .text (toString event.eventOrder ++ (" - " ++ event.kind)) := by
    rw [PyStr.text_append_text, String.append_assoc, String.append_assoc]
  rw [textLines, hsplit, PyStr.codePoints_append]
  exact linesOf_append (by decide) _

theorem entryLines_fence : entryLines (.fence, .text "```") = [⟨.fence, fenceLine⟩] := by
  have hlines : textLines (.text "```") = [fenceLine] := by rfl
  rw [entryLines, hlines]
  rfl

theorem eventBlock_eq (env : Exporter) (event : ExportedEvent) :
    ∃ first, eventBlock env event = ⟨.heading event, headingMark ++ first⟩ ::
      (otherLines (columnLines env event) ++ (⟨.other, infoLine⟩ ::
        (otherLines (payloadLines env event) ++ [⟨.fence, fenceLine⟩, ⟨.other, []⟩]))) := by
  obtain ⟨first, more, hheading⟩ := headingLines event
  refine ⟨first, ?_⟩
  have hinfo : textLines (.text "```json") = [infoLine] := by rfl
  have hempty : textLines (.text "") = [[]] := by rfl
  have hcolumns : otherLines (columnLines env event) =
      otherLines (more ++ ((eventLines env event).extract 1 8).flatMap textLines) := by
    rw [columnLines, eventLines, List.take_succ_cons, List.flatMap_cons, hheading]
    rfl
  rw [eventBlock, eventOrigins, hcolumns, payloadLines, eventLines]
  simp only [List.zip_cons_cons, List.zip_nil_right, List.flatMap_cons, List.flatMap_nil,
    entryLines_other, entryLines_fence, hinfo, hempty]
  rw [entryLines, hheading]
  simp [otherLines]

/-! ### The exporter's own lines -/

theorem startsHeading_mark (first : Codes) : startsHeading (headingMark ++ first) = true :=
  List.isPrefixOf_iff_prefix.mpr (List.prefix_append _ _)

theorem opening_heading (first : Codes) : opening (headingMark ++ first) = none :=
  opening_cons_of_ne (by decide) (by decide) (by decide)

theorem closes_heading (fence : Fence) (first : Codes) :
    closes fence (headingMark ++ first) = false :=
  closes_cons_of_ne fence (by decide) (by decide) (by decide)

theorem opening_infoLine : opening infoLine = some ownFence := by rfl

/-- The info string keeps the opening fence from closing anything. -/
theorem closes_infoLine (fence : Fence) : closes fence infoLine = false := by
  have hthree := fence.three_le
  cases hmark : fence.mark with
  | backtick =>
      have hinfo : (infoOf .backtick infoLine).all (fun c => c == 0x20 || c == 0x09) = false := by
        rfl
      rw [closes, hmark, hinfo, Bool.and_false]
  | tilde =>
      have hrun : markRun .tilde infoLine = [] := by rfl
      have hshort : ¬ fence.length ≤ 0 := by omega
      rw [closes, hmark, hrun, List.length_nil, decide_eq_false hshort, Bool.and_false,
        Bool.false_and]

/-- The closing fence closes only what its own opening fence opens, or one just like it. -/
theorem closes_fenceLine (fence : Fence) : closes fence fenceLine = true ↔ fence = ownFence := by
  constructor
  · intro h
    obtain ⟨mark, length, hthree⟩ := fence
    simp only [closes, Bool.and_eq_true, decide_eq_true_eq] at h
    cases mark with
    | backtick =>
        have hrun : (markRun .backtick fenceLine).length = 3 := by rfl
        have hlength : length = 3 := by
          have hle := h.1.2
          rw [hrun] at hle
          omega
        subst hlength
        rfl
    | tilde =>
        have hrun : (markRun .tilde fenceLine).length = 0 := by rfl
        have hle := h.1.2
        rw [hrun] at hle
        omega
  · rintro rfl
    rfl

theorem closes_nil (fence : Fence) : closes fence [] = false := by
  have hthree := fence.three_le
  have hshort : ¬ fence.length ≤ 0 := by omega
  have hrun : markRun fence.mark [] = [] := rfl
  rw [closes, hrun, List.length_nil, decide_eq_false hshort, Bool.and_false, Bool.false_and]

/-! ### Reading a transcript -/

def blocks (env : Exporter) (events : List ExportedEvent) : List (Line Origin) :=
  events.flatMap (eventBlock env)

/-- The transcript from here on has the headings of the events, and its fences closed. -/
def Reads (events : List ExportedEvent) (fence : Option Fence) (lines : List (Line Origin)) :
    Prop :=
  Framed startsHeading Origin.isFence (events.map .heading) fence lines

variable {env : Exporter} {event : ExportedEvent} {events : List ExportedEvent}

theorem isFence_otherLines (lines : List Codes) :
    ∀ line ∈ otherLines lines, line.origin.isFence = false := by
  intro line hline
  obtain ⟨codes, -, rfl⟩ := List.mem_map.mp hline
  rfl

theorem origin_otherLines (lines : List Codes) :
    ∀ line ∈ otherLines lines, line.origin ∉ events.map Origin.heading := by
  intro line hline hmem
  obtain ⟨codes, -, rfl⟩ := List.mem_map.mp hline
  obtain ⟨event, -, hevent⟩ := List.mem_map.mp hmem
  cases hevent

theorem filter_heading_otherLines (lines : List Codes) :
    (otherLines lines).filter (fun line => line.origin.isHeading) = [] := by
  rw [List.filter_eq_nil_iff]
  intro line hline
  obtain ⟨codes, -, rfl⟩ := List.mem_map.mp hline
  exact Bool.false_ne_true

/-- A block has one heading of the exporter's, its first line. -/
theorem filter_heading_eventBlock :
    ((eventBlock env event).filter fun line => line.origin.isHeading).length = 1 := by
  obtain ⟨first, hblock⟩ := eventBlock_eq env event
  rw [hblock, List.filter_cons_of_pos rfl, List.filter_append, filter_heading_otherLines,
    List.filter_cons_of_neg Bool.false_ne_true, List.filter_append, filter_heading_otherLines]
  rfl

theorem filter_heading_blocks (events : List ExportedEvent) :
    ((blocks env events).filter fun line => line.origin.isHeading).length = events.length := by
  induction events with
  | nil => rfl
  | cons event events ih =>
      rw [blocks, List.flatMap_cons, List.filter_append, List.length_append,
        filter_heading_eventBlock, ← blocks, ih, List.length_cons, Nat.add_comm]

/-- A fence that is still open where the events begin hides the next heading. -/
theorem not_reads_blocks (fence : Fence) (events : List ExportedEvent) :
    ¬ Reads events (some fence) (blocks env events) := by
  cases events with
  | nil => exact not_framed_some_nil
  | cons event events =>
      obtain ⟨first, hblock⟩ := eventBlock_eq env event
      have hcount : ((blocks env (event :: events)).filter fun line =>
          line.origin.isHeading).length = (event :: events).length :=
        filter_heading_blocks (event :: events)
      rw [Reads, blocks, List.flatMap_cons, hblock, List.cons_append,
        framed_within (closes_heading fence first)]
      refine not_framed_of_few Origin.isHeading ?_ ?_
      · intro origin horigin
        obtain ⟨event, -, rfl⟩ := List.mem_map.mp horigin
        rfl
      · rw [blocks, List.flatMap_cons, hblock, List.cons_append,
          List.filter_cons_of_pos (by rfl), List.length_cons] at hcount
        rw [List.length_map]
        omega

/-- After the closing fence, the rest must start outside of one. -/
theorem reads_end (fence : Fence) :
    Reads events (some fence)
        (⟨.fence, fenceLine⟩ :: ⟨.other, []⟩ :: blocks env events) ↔
      fence = ownFence ∧ Reads events none (blocks env events) := by
  unfold Reads
  by_cases hfence : fence = ownFence
  · rw [framed_closing ((closes_fenceLine fence).mpr hfence),
      framed_plain (by rfl) (by rfl)]
    simp [hfence, Origin.isFence]
  · have hopen : closes fence fenceLine = false :=
      Bool.eq_false_iff.mpr fun h => hfence ((closes_fenceLine fence).mp h)
    rw [framed_within hopen, framed_within (closes_nil fence)]
    exact ⟨fun h => absurd h (not_reads_blocks fence events), fun h => absurd h.1 hfence⟩

theorem reads_within (fence : Fence) (lines : List Codes) (rest : List (Line Origin)) :
    Reads events (some fence) (otherLines lines ++ rest) ↔
      (∀ codes ∈ lines, closes fence codes = false) ∧ Reads events (some fence) rest := by
  rw [Reads, framed_within_append (isFence_otherLines lines), Reads]
  simp [otherLines]

theorem reads_outside (lines : List Codes) (rest : List (Line Origin)) :
    Reads events none (otherLines lines ++ rest) ↔
      (∀ codes ∈ beforeFence lines, startsHeading codes = false) ∧
        Reads events none (otherLines (fromFence lines) ++ rest) := by
  rw [Reads, framed_outside_append (origin_otherLines lines), Reads]
  simp only [otherLines, beforeFence, fromFence, List.takeWhile_map, List.dropWhile_map,
    List.forall_mem_map, Function.comp_def]

theorem reads_payload (fence : Fence) (payload : List Codes) :
    Reads events (some fence) (otherLines payload ++
        (⟨.fence, fenceLine⟩ :: ⟨.other, []⟩ :: blocks env events)) ↔
      (∀ codes ∈ payload, closes fence codes = false) ∧ fence = ownFence ∧
        Reads events none (blocks env events) := by
  rw [reads_within, reads_end]

theorem reads_heading (first : Codes) (rest : List (Line Origin)) :
    Reads (event :: events) none (⟨.heading event, headingMark ++ first⟩ :: rest) ↔
      Reads events none rest := by
  have hopening : opening (Line.codes ⟨Origin.heading event, headingMark ++ first⟩) = none :=
    opening_heading first
  exact framed_title hopening (startsHeading_mark first)

theorem reads_opening {codes : Codes} {fence : Fence} (h : opening codes = some fence)
    (rest : List (Line Origin)) :
    Reads events none (⟨.other, codes⟩ :: rest) ↔ Reads events (some fence) rest :=
  framed_opening h

theorem opener_of_fromFence {lines after : List Codes} {opener : Codes}
    (h : fromFence lines = opener :: after) :
    opener ∈ lines ∧ ∃ fence, opening opener = some fence := by
  have hhead := List.head?_dropWhile_not (fun codes => decide (opening codes = none)) lines
  rw [← fromFence, h] at hhead
  refine ⟨?_, Option.ne_none_iff_exists'.mp (by simpa using hhead)⟩
  exact (List.dropWhile_sublist _).subset (show opener ∈ fromFence lines by simp [h])

/-- A block keeps the structure when what its event inserts does. -/
theorem reads_block :
    Reads (event :: events) none (blocks env (event :: events)) ↔
      EventSafe (columnLines env event) (payloadLines env event) ∧
        Reads events none (blocks env events) := by
  obtain ⟨first, hblock⟩ := eventBlock_eq env event
  have hheading : Reads (event :: events) none (blocks env (event :: events)) ↔
      (∀ codes ∈ beforeFence (columnLines env event), startsHeading codes = false) ∧
        Reads events none (otherLines (fromFence (columnLines env event)) ++
          (⟨.other, infoLine⟩ :: (otherLines (payloadLines env event) ++
            (⟨.fence, fenceLine⟩ :: ⟨.other, []⟩ :: blocks env events)))) := by
    rw [blocks, List.flatMap_cons, ← blocks, hblock, List.cons_append, reads_heading,
      List.append_assoc, List.cons_append, List.append_assoc, reads_outside]
    rfl
  rw [hheading]
  cases hfence : fromFence (columnLines env event) with
  | nil =>
      have hopen : Reads events none (⟨.other, infoLine⟩ ::
          (otherLines (payloadLines env event) ++
            (⟨.fence, fenceLine⟩ :: ⟨.other, []⟩ :: blocks env events))) ↔
          (∀ codes ∈ payloadLines env event, closes ownFence codes = false) ∧
            ownFence = ownFence ∧ Reads events none (blocks env events) := by
        rw [reads_opening opening_infoLine, reads_payload]
      rw [otherLines, List.map_nil, List.nil_append, hopen]
      constructor
      · rintro ⟨hbefore, hpayload, -, hrest⟩
        exact ⟨⟨hbefore, by simp [hfence], by simpa [hfence] using hpayload⟩, hrest⟩
      · rintro ⟨hsafe, hrest⟩
        exact ⟨hsafe.noHeading, by simpa [hfence] using hsafe.unclosed, rfl, hrest⟩
  | cons opener after =>
      obtain ⟨-, fence, hopener⟩ := opener_of_fromFence hfence
      have hopen : Reads events none (otherLines (opener :: after) ++ (⟨.other, infoLine⟩ ::
          (otherLines (payloadLines env event) ++
            (⟨.fence, fenceLine⟩ :: ⟨.other, []⟩ :: blocks env events)))) ↔
          (∀ codes ∈ after, closes fence codes = false) ∧
            (∀ codes ∈ payloadLines env event, closes fence codes = false) ∧
              fence = ownFence ∧ Reads events none (blocks env events) := by
        rw [otherLines, List.map_cons, List.cons_append, reads_opening hopener, ← otherLines,
          reads_within, Reads, framed_within (closes_infoLine fence), ← Reads, reads_payload]
      rw [hopen]
      constructor
      · rintro ⟨hbefore, hafter, hpayload, rfl, hrest⟩
        refine ⟨⟨hbefore, by simpa [hfence] using hopener, ?_⟩, hrest⟩
        rw [hfence, List.tail_cons, List.forall_mem_append]
        exact ⟨hafter, hpayload⟩
      · rintro ⟨hsafe, hrest⟩
        have hown : fence = ownFence := by
          have hfits := hsafe.fits opener (by rw [hfence]; rfl)
          exact Option.some.inj (hopener.symm.trans hfits)
        have hunclosed := hsafe.unclosed
        rw [hfence, List.tail_cons, List.forall_mem_append, ← hown] at hunclosed
        exact ⟨hsafe.noHeading, hunclosed.1, hunclosed.2, hown, hrest⟩

theorem reads_blocks (events : List ExportedEvent) :
    Reads events none (blocks env events) ↔
      ∀ event ∈ events, EventSafe (columnLines env event) (payloadLines env event) := by
  induction events with
  | nil => simp [Reads, blocks]
  | cons event events ih => rw [reads_block, ih, List.forall_mem_cons]

/-! ### The whole transcript -/

def bodyLines (env : Exporter) (events : List ExportedEvent) : List (Line Origin) :=
  if events.isEmpty then entryLines (.other, .text "*(No events recorded)*") else blocks env events

theorem reads_body (events : List ExportedEvent) :
    Reads events none (bodyLines env events) ↔ Reads events none (blocks env events) := by
  cases events with
  | cons event events => rfl
  | nil =>
      have hline : textLines (.text "*(No events recorded)*") =
          ["*(No events recorded)*".toList.map Char.toNat] := by
        rfl
      rw [bodyLines, List.isEmpty_nil, if_pos rfl, entryLines_other, hline, otherLines,
        List.map_singleton, Reads, framed_plain (by rfl) (by rfl)]
      rfl

/-- A fence that the head opens is not closed before the first heading. -/
theorem not_reads_body (fence : Fence) (events : List ExportedEvent) :
    ¬ Reads events (some fence) (bodyLines env events) := by
  cases events with
  | cons event events => exact not_reads_blocks fence (event :: events)
  | nil =>
      rw [bodyLines, List.isEmpty_nil, if_pos rfl, entryLines_other,
        ← List.append_nil (otherLines _), reads_within]
      exact fun h => not_framed_some_nil h.2

theorem reads_head (head : List Codes) (events : List ExportedEvent) :
    Reads events none (otherLines head ++ bodyLines env events) ↔
      (∀ codes ∈ head, opening codes = none ∧ startsHeading codes = false) ∧
        Reads events none (bodyLines env events) := by
  rw [reads_outside]
  cases hfence : fromFence head with
  | nil =>
      have hbefore : beforeFence head = head := by
        have happend := List.takeWhile_append_dropWhile (p := fun codes => opening codes = none)
          (l := head)
        rwa [← beforeFence, ← fromFence, hfence, List.append_nil] at happend
      have hopening : ∀ codes ∈ head, opening codes = none := by
        intro codes hcodes
        rw [← hbefore, beforeFence] at hcodes
        simpa using List.mem_takeWhile_imp hcodes
      rw [hbefore, otherLines, List.map_nil, List.nil_append]
      exact and_congr_left fun _ => forall₂_congr fun codes hcodes => by
        rw [hopening codes hcodes, eq_self, true_and]
  | cons opener after =>
      obtain ⟨hmem, fence, hopener⟩ := opener_of_fromFence hfence
      constructor
      · rintro ⟨-, hreads⟩
        rw [otherLines, List.map_cons, List.cons_append, reads_opening hopener, ← otherLines,
          reads_within] at hreads
        exact absurd hreads.2 (not_reads_body fence events)
      · rintro ⟨hhead, -⟩
        rw [(hhead opener hmem).1] at hopener
        cases hopener

theorem unforged_iff (env : Exporter) (sessionId : String) (info : SessionMeta)
    (events : List ExportedEvent) :
    Unforged env sessionId info events ↔ SafeTexts env sessionId info events := by
  have hmarked : markedLines env sessionId info events =
      otherLines ((headEntries env sessionId info).flatMap textLines) ++ bodyLines env events := by
    simp only [markedLines, entryLines_other, otherLines, List.map_flatMap]
    rfl
  rw [Unforged, hmarked, ← Reads, reads_head, reads_body, reads_blocks]
  exact ⟨fun h => ⟨h.1, h.2⟩, fun h => ⟨h.head, h.events⟩⟩

/-- The Markdown export of a session has the events' own headings outside of fences, in
order, and each of its fences closed by the exporter, exactly when the texts of the session
are safe. -/
theorem transcript_unforged_iff_safe (env : Exporter) (db : TranscriptDb) (sessionId : String)
    (includePrivateNotes : Bool) (text : PyStr)
    (h : exportSession env db sessionId .markdown includePrivateNotes = .ok text) :
    ∃ row info events, Rows.lookup SessionColumns.sessionId db.sessions sessionId = some row ∧
      sessionMeta env row = .ok info ∧
      exportedEvents env db sessionId includePrivateNotes = .ok events ∧
      (markedLines env sessionId info events).map Line.codes = textLines text ∧
      (Unforged env sessionId info events ↔ SafeTexts env sessionId info events) := by
  unfold exportSession at h
  split at h
  · cases h
  · rename_i row hrow
    split at h
    · cases h
    · rename_i info hinfo
      split at h
      · cases h
      · rename_i events hevents
        cases h
        exact ⟨row, info, events, hrow, hinfo, hevents,
          map_codes_markedLines env sessionId info events,
          unforged_iff env sessionId info events⟩

namespace Sample

def statedSession (objective : String) : SessionColumns :=
  { session with objective := some objective }

def statedDb (objective payload : String) : TranscriptDb where
  sessions := [statedSession objective]
  sessionEvents := [eventRow 0 "peer_visible" payload]
  uniqueOrder := by simp

def forgedObjective : String := "compare notes\n### Event #99 - decision"

def statedMeta (objective : String) : SessionMeta :=
  ⟨statedSession objective, some objective, .null, .null⟩

end Sample

/-- A transcript whose objective and payload are of one line each. -/
theorem plain_transcript_unforged :
    ∃ events, exportedEvents Sample.exporter (Sample.statedDb "compare notes" "hello") "s1" false =
        .ok events ∧ events.length = 1 ∧
      Unforged Sample.exporter "s1" (Sample.statedMeta "compare notes") events := by
  have hsafe : (exportedEvents Sample.exporter (Sample.statedDb "compare notes" "hello") "s1"
      false).map (fun events => (events.length,
        decide (SafeTexts Sample.exporter "s1" (Sample.statedMeta "compare notes") events))) =
          .ok (1, true) := by
    decide +kernel
  cases hevents : exportedEvents Sample.exporter (Sample.statedDb "compare notes" "hello") "s1"
      false with
  | error e =>
      rw [hevents] at hsafe
      cases hsafe
  | ok exported =>
      have htext : exportSession Sample.exporter (Sample.statedDb "compare notes" "hello") "s1"
          .markdown false = .ok (joinLines (transcriptLines Sample.exporter "s1"
            (Sample.statedMeta "compare notes") exported)) := by
        unfold exportSession
        rw [hevents]
        rfl
      obtain ⟨row, info, events, hrow, hinfo, hsame, -, hiff⟩ :=
        transcript_unforged_iff_safe Sample.exporter
          (Sample.statedDb "compare notes" "hello") "s1" false _ htext
      cases hrow
      cases hinfo
      rw [hevents] at hsame hsafe
      cases hsame
      obtain ⟨hone, hdecided⟩ := Prod.mk.inj (Except.ok.inj hsafe)
      exact ⟨exported, rfl, hone, hiff.mpr (of_decide_eq_true hdecided)⟩

def headingsOf (text : PyStr) : List (Line Unit) :=
  titles startsHeading none ((textLines text).map (Line.mk ()))

theorem headingsOf_joinLines (info : SessionMeta) (sessionId : String) :
    headingsOf (joinLines (transcriptLines env sessionId info events)) =
      titles startsHeading none
        (((transcriptLines env sessionId info events).flatMap textLines).map (Line.mk ())) := by
  rw [headingsOf, textLines_joinLines (by rw [transcriptLines]; exact List.cons_ne_nil _ _)]

/-- A transcript of one event with two headings outside of its fences, the first of them a
line of the objective. -/
theorem objective_forges_heading :
    ∃ events text,
      exportedEvents Sample.exporter (Sample.statedDb Sample.forgedObjective "hello") "s1" false =
        .ok events ∧
      exportSession Sample.exporter (Sample.statedDb Sample.forgedObjective "hello") "s1" .markdown
        false = .ok text ∧
      text = joinLines (transcriptLines Sample.exporter "s1"
        (Sample.statedMeta Sample.forgedObjective) events) ∧
      events.length = 1 ∧ (headingsOf text).length = 2 ∧
      ¬ Unforged Sample.exporter "s1" (Sample.statedMeta Sample.forgedObjective) events := by
  have hcounts : (exportedEvents Sample.exporter
      (Sample.statedDb Sample.forgedObjective "hello") "s1" false).map (fun events =>
        (events.length, (titles startsHeading none (((transcriptLines Sample.exporter "s1"
          (Sample.statedMeta Sample.forgedObjective) events).flatMap textLines).map
            (Line.mk ()))).length)) = .ok (1, 2) := by
    decide +kernel
  cases hevents : exportedEvents Sample.exporter
      (Sample.statedDb Sample.forgedObjective "hello") "s1" false with
  | error e =>
      rw [hevents] at hcounts
      cases hcounts
  | ok events =>
      rw [hevents] at hcounts
      obtain ⟨hone, htwo⟩ := Prod.mk.inj (Except.ok.inj hcounts)
      refine ⟨events, _, rfl, ?_, rfl, hone, ?_, ?_⟩
      · unfold exportSession
        rw [hevents]
        rfl
      · rw [headingsOf_joinLines]
        exact htwo
      · rw [unforged_iff]
        intro hsafe
        have hforged : headingMark ++ "99 - decision".toList.map Char.toNat ∈
            (headEntries Sample.exporter "s1"
              (Sample.statedMeta Sample.forgedObjective)).flatMap textLines := by
          decide +kernel
        have hhead := (hsafe.head _ hforged).2
        rw [startsHeading_mark] at hhead
        cases hhead

end Kin.Audit
