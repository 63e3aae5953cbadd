import Kin.Gateway.UpstreamUrl

/-!
The REST operations the gateway lets through. The decoded path is what is classified,
and the raw path is what is resolved against the base URL: the two agree as long as the
resolution does not find a dot segment, and the raw path neither stops at a `?` or `#`
nor hides a line feed the router leaves out.
-/

namespace Kin.Gateway

open Kin.Py Kin.Lib

variable {urlsplit : List Char → Except PyExc SplitResult}

/-- The verdict on a path: whether it is streamed, if it is let through. -/
def classOf (method : String) (path : List Char) : Option Bool :=
  if isStreamingRestOperation method path then some true
  else if isNonstreamingRestOperation method path then some false
  else none

def RestRequest.SameClass (request : RestRequest) (path : List Char) : Prop :=
  ∃ rest, unquote path = restRoute ++ '/' :: rest ∧
    classOf request.method rest = classOf request.method request.restPath

/-! ### Accepted paths -/

/-- What the classifiers let through: a fixed name, or a task and one segment. -/
inductive AcceptedPath : List Char → Prop
  | name {path : List Char} (h : '/' ∉ path) (hne : path ≠ []) : AcceptedPath path
  | task {taskId : List Char} (h : '/' ∉ taskId) (hne : taskId ≠ []) :
      AcceptedPath ("tasks/".toList ++ taskId)

theorem accepted_of_isTaskPath {suffix path : List Char} (h : isTaskPath suffix path = true) :
    AcceptedPath path := by
  simp only [isTaskPath, Bool.and_eq_true, decide_eq_true_eq] at h
  obtain ⟨⟨⟨hstart, -⟩, hlength⟩, hslash⟩ := h
  obtain ⟨taskId, rfl⟩ := List.isPrefixOf_iff_prefix.mp hstart
  have hdrop : ("tasks/".toList ++ taskId).drop 6 = taskId := rfl
  rw [hdrop] at hlength hslash
  refine .task ?_ ?_
  · simpa using hslash
  · rintro rfl
    cases hlength

theorem accepted_of_classOf {method : String} {path : List Char} (h : classOf method path ≠ none) :
    AcceptedPath path := by
  have hname : ∀ text : List Char, '/' ∉ text → text ≠ [] → (path == text) = true →
      AcceptedPath path := by
    intro text hslash hne heq
    rw [beq_iff_eq.mp heq]
    exact .name hslash hne
  unfold classOf at h
  split at h
  · rename_i hstreaming
    simp only [isStreamingRestOperation, Bool.or_eq_true, Bool.and_eq_true] at hstreaming
    rcases hstreaming with ⟨-, hpath⟩ | ⟨-, hpath⟩
    · exact hname _ (by decide) (by decide) hpath
    · exact accepted_of_isTaskPath hpath
  split at h
  · rename_i hnonstreaming
    simp only [isNonstreamingRestOperation, Bool.or_eq_true, Bool.and_eq_true] at hnonstreaming
    rcases hnonstreaming with ((⟨-, hpath⟩ | ⟨-, hpath⟩) | ⟨-, hpath⟩) | ⟨-, hpath⟩
    · exact hname _ (by decide) (by decide) hpath
    · exact hname _ (by decide) (by decide) hpath
    · exact accepted_of_isTaskPath hpath
    · exact accepted_of_isTaskPath hpath
  · exact absurd rfl h

/-- An accepted path does not end in a slash. -/
theorem AcceptedPath.getLast? {path : List Char} (h : AcceptedPath path) :
    ∃ c, path.getLast? = some c ∧ c ≠ '/' := by
  have hlast : ∀ text : List Char, '/' ∉ text → text ≠ [] → ∃ c, text.getLast? = some c ∧ c ≠ '/' := by
    intro text hslash hne
    refine ⟨text.getLast hne, List.getLast?_eq_getLast_of_ne_nil hne, ?_⟩
    intro heq
    exact hslash (heq ▸ List.getLast_mem hne)
  cases h with
  | name h hne => exact hlast path h hne
  | @task taskId h hne =>
      obtain ⟨c, hc, hslash⟩ := hlast taskId h hne
      exact ⟨c, by rw [List.getLast?_append, hc]; rfl, hslash⟩

/-- The segments in front of the last one are plain names. -/
theorem AcceptedPath.dropLast_splitOn {path : List Char} (h : AcceptedPath path) {tail : List Char}
    (htail : '/' ∉ tail) :
    ∀ s ∈ ((restRoute ++ '/' :: (path ++ tail)).splitOn '/').dropLast, Uri.isDot s = false := by
  have hroute : restRoute.splitOn '/' = [[], "a2a".toList, "rest".toList] := by decide
  have hsingle : ∀ text : List Char, '/' ∉ text → (text ++ tail).splitOn '/' = [text ++ tail] := by
    intro text htext
    apply List.splitOn_eq_singleton
    rw [List.mem_append]
    exact not_or.mpr ⟨htext, htail⟩
  rw [List.splitOn_append_cons_self, hroute]
  cases h with
  | name h hne =>
      rw [hsingle path h, List.dropLast_append_of_ne_nil (List.cons_ne_nil _ _)]
      change ∀ s ∈ [[], "a2a".toList, "rest".toList], Uri.isDot s = false
      decide
  | @task taskId h hne =>
      have hsplit : "tasks/".toList ++ taskId ++ tail = "tasks".toList ++ '/' :: (taskId ++ tail) := by
        simp
      rw [hsplit, List.splitOn_append_cons_self, hsingle taskId h,
        List.splitOn_eq_singleton (by decide)]
      change ∀ s ∈ [[], "a2a".toList, "rest".toList, "tasks".toList], Uri.isDot s = false
      decide

/-! ### The path that is sent -/

theorem plain_dot : Plain '.' := ⟨by decide, by decide, by decide⟩

/-- A dot segment stands for itself. -/
theorem unquote_isDot {s : List Char} (hs : Uri.isDot s = true) (text : List Char) :
    unquote (s ++ '/' :: text) = s ++ '/' :: unquote text := by
  have hdot : ∀ text : List Char, unquote ('.' :: text) = '.' :: unquote text :=
    fun text => unquote_append plain_dot [] text
  have hslash : unquote ('/' :: text) = '/' :: unquote text := unquote_append plain_slash [] text
  simp only [Uri.isDot, Bool.or_eq_true, beq_iff_eq] at hs
  rcases hs with rfl | rfl
  · change unquote ('.' :: '/' :: text) = _
    rw [hdot, hslash]
    rfl
  · change unquote ('.' :: '.' :: '/' :: text) = _
    rw [hdot, hdot, hslash]
    rfl

/-- A dot segment in front of another segment is one of the decoded path too. -/
theorem mem_dropLast_unquote {s : List Char} (front rest : List Char) (hs : Uri.isDot s = true) :
    s ∈ ((unquote (front ++ '/' :: (s ++ '/' :: rest))).splitOn '/').dropLast := by
  have hplain : '/' ∉ s := by
    simp only [Uri.isDot, Bool.or_eq_true, beq_iff_eq] at hs
    rcases hs with rfl | rfl <;> decide
  rw [unquote_append plain_slash, unquote_isDot hs, List.splitOn_append_cons_self,
    List.splitOn_append_cons_self, List.splitOn_eq_singleton hplain,
    List.dropLast_append_of_ne_nil (List.append_ne_nil_of_left_ne_nil (List.cons_ne_nil _ _) _),
    List.dropLast_append_of_ne_nil (List.splitOn_ne_nil _ _)]
  exact List.mem_append_right _ (List.mem_append_left _ (List.mem_singleton_self _))

/-- A path that is resolved to one with the verdict of the request had no dot segments. -/
theorem not_isDot_of_sameClass {request : RestRequest} {rest tail : List Char}
    (haccepted : classOf request.method request.restPath ≠ none)
    (hdecoded : ∃ ending, '/' ∉ ending ∧ unquote ('/' :: rest ++ tail) =
      restRoute ++ '/' :: (request.restPath ++ ending))
    (h : request.SameClass (Uri.removeDotSegments ('/' :: rest))) :
    ∀ s ∈ rest.splitOn '/', Uri.isDot s = false := by
  intro s hs
  by_contra hdot
  rw [Bool.not_eq_false] at hdot
  obtain ⟨before, after, hsegments⟩ := List.append_of_mem hs
  cases after with
  | nil =>
      -- a dot segment at the end leaves a slash there, which no accepted path has
      obtain ⟨sent, hsent, hclass⟩ := h
      have hlast : (Uri.removeDotSegments ('/' :: rest)).getLast? = some '/' := by
        rw [Uri.removeDotSegments_cons, hsegments]
        exact Uri.getLast?_dropDots [] before hdot
      obtain ⟨front, hfront⟩ := List.getLast?_eq_some_iff.mp hlast
      rw [hfront, unquote_append plain_slash] at hsent
      have hends := congrArg List.getLast? hsent
      obtain ⟨c, hc, hslash⟩ := (accepted_of_classOf (hclass ▸ haccepted)).getLast?
      rw [List.getLast?_append, List.getLast?_append] at hends
      cases sent with
      | nil => cases hc
      | cons c' sent =>
          rw [List.getLast?_cons_cons, hc] at hends
          exact hslash (Option.some.inj hends).symm
  | cons next after =>
      obtain ⟨ending, hending, hdecoded⟩ := hdecoded
      have hraw : '/' :: rest ++ tail =
          Uri.slashed before ++ '/' :: (s ++ '/' :: (next ++ Uri.slashed after ++ tail)) := by
        rw [← Uri.slashed_splitOn rest, hsegments]
        simp
      have hmem := mem_dropLast_unquote (Uri.slashed before) (next ++ Uri.slashed after ++ tail) hdot
      rw [← hraw, hdecoded] at hmem
      have hplain := (accepted_of_classOf haccepted).dropLast_splitOn hending s hmem
      rw [hdot] at hplain
      cases hplain

/-- What is sent for a forwarded REST request has the verdict of the request just when the
part of the raw path in front of a `?` or `#` has it and no dot segments. -/
theorem sent_path_sameClass_iff (gw : GatewayApp urlsplit) (request : RestRequest)
    (rawPath : List Char) (routed : request.Routed rawPath) (up : UpstreamRequest)
    (h : up ∈ (gw.proxyRest request).sent) :
    request.SameClass up.url.path ↔
      (∀ s ∈ (rawPath.takeWhile Uri.inPath).splitOn '/', Uri.isDot s = false) ∧
        request.SameClass (rawPath.takeWhile Uri.inPath) := by
  obtain ⟨rawPath', query, credential, htarget, hlet, -, rfl⟩ := GatewayApp.mem_sent_proxyRest h
  obtain rfl := routed.target htarget
  obtain ⟨rest, rfl, hrest⟩ := routed.slash
  have hslash : Uri.inPath '/' = true := by decide
  have hpath : (restUrl gw.settings.upstreamBaseUrl ('/' :: rest) query).path =
      Uri.removeDotSegments ('/' :: rest.takeWhile Uri.inPath) := by
    rw [← List.takeWhile_cons_of_pos hslash]
    exact (Uri.resolve_absolute _ hrest).2
  have haccepted : classOf request.method request.restPath ≠ none := by
    unfold classOf
    rcases hlet with hlet | hlet
    · rw [if_pos hlet]
      exact Option.some_ne_none _
    · rw [if_pos hlet]
      split
      · exact Option.some_ne_none _
      · exact Option.some_ne_none _
  have hdecoded : ∃ ending, '/' ∉ ending ∧
      unquote ('/' :: rest.takeWhile Uri.inPath ++ rest.dropWhile Uri.inPath) =
        restRoute ++ '/' :: (request.restPath ++ ending) := by
    rw [List.cons_append, List.takeWhile_append_dropWhile]
    rcases routed.rest with hroute | hroute
    · exact ⟨[], List.not_mem_nil, by rw [List.append_nil]; exact hroute⟩
    · exact ⟨['\n'], by decide, by rw [hroute]; simp⟩
  have hdots : (∀ s ∈ ('/' :: rest.takeWhile Uri.inPath).splitOn '/', Uri.isDot s = false) ↔
      ∀ s ∈ (rest.takeWhile Uri.inPath).splitOn '/', Uri.isDot s = false := by
    rw [List.splitOn_cons_eq_if_modifyHead, if_pos (beq_self_eq_true _), List.forall_mem_cons]
    exact and_iff_right rfl
  change request.SameClass (restUrl _ _ _).path ↔ _
  rw [hpath, List.takeWhile_cons_of_pos hslash, hdots]
  constructor
  · intro hsame
    have hfree := not_isDot_of_sameClass haccepted hdecoded hsame
    rw [Uri.removeDotSegments_eq_self.mpr hfree] at hsame
    exact ⟨hfree, hsame⟩
  · rintro ⟨hfree, hsame⟩
    rw [Uri.removeDotSegments_eq_self.mpr hfree]
    exact hsame

/-- `GET /a2a/rest/tasks/t1` keeps its verdict. -/
theorem task_path_sameClass :
    (getTasks "/a2a/rest/tasks/t1".toList "tasks/t1".toList).SameClass
      (restUrl rootSettings.upstreamBaseUrl "/a2a/rest/tasks/t1".toList []).path :=
  (sent_path_sameClass_iff (agentExample rootSettings)
    (getTasks "/a2a/rest/tasks/t1".toList "tasks/t1".toList) "/a2a/rest/tasks/t1".toList
    { raw := rfl
      ascii := List.all_iff_forall_prop.mp (by decide)
      absolute := rfl
      rest := .inl (by decide) }
    ((agentExample rootSettings).upstreamRequest [] "GET"
      (restUrl rootSettings.upstreamBaseUrl "/a2a/rest/tasks/t1".toList []) []
      [("a2a-version", "1.0")])
    (List.mem_singleton.mpr rfl)).mpr
      ⟨by decide, "tasks/t1".toList, by decide, rfl⟩

/-- `GET /a2a/rest/tasks/..` is let through as a task and asks for the route itself. -/
theorem parent_path_forwarded :
    (getTasks "/a2a/rest/tasks/..".toList "tasks/..".toList).Routed "/a2a/rest/tasks/..".toList ∧
      ∃ up ∈ ((agentExample rootSettings).proxyRest
          (getTasks "/a2a/rest/tasks/..".toList "tasks/..".toList)).sent,
        up.url.path = "/a2a/rest/".toList ∧
          ¬(getTasks "/a2a/rest/tasks/..".toList "tasks/..".toList).SameClass up.url.path := by
  refine ⟨{
      raw := rfl
      ascii := List.all_iff_forall_prop.mp (by decide)
      absolute := rfl
      rest := .inl (by decide) }, _, List.mem_singleton.mpr rfl, rfl, ?_⟩
  rintro ⟨rest, hrest, hclass⟩
  have hroute : unquote "/a2a/rest/".toList = restRoute ++ '/' :: [] := by decide
  obtain rfl : [] = rest := (List.cons.inj (List.append_cancel_left (hroute.symm.trans hrest))).2
  exact absurd hclass (by decide)

end Kin.Gateway
