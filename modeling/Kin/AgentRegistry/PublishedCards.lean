import Kin.Artifacts.Metadata
import Kin.Lib.Keyed
import Kin.Lib.Run

/-!
The local registry of `kin/agent_registry/registry.py`. The availability of an agent is
stored twice, in its column and inside the published card; `register_card` writes both,
`set_enabled` the column alone.
-/

namespace Kin.AgentRegistry

open Kin.Py Kin.Lib Kin.Schemas Kin.Artifacts

/-! ### Cards -/

inductive AgentAvailability
  | ready
  | busy
  | reserved
  | needsKey
  | needsWorkspace
  | waitingForApproval
  | offline
  | policyBlocked
  deriving DecidableEq, Repr

inductive AdapterConfig
  | embedded (provider model : String)
  | webhook (webhookUrl credentialRef : String)
  | localCommand (command workingDirectory : String)
  | sdk (entryPoint : String)

def AdapterConfig.type : AdapterConfig → String
  | .embedded .. => "embedded"
  | .webhook .. => "webhook"
  | .localCommand .. => "local_command"
  | .sdk .. => "sdk"

structure AgentCapabilities where
  tags : List String
  accepts : List String
  produces : List String
  deriving DecidableEq

/-- An `AgentCard`; `rest` is what only the stored JSON holds. -/
structure AgentCard where
  id : String
  name : String
  description : String
  adapter : AdapterConfig
  capabilities : AgentCapabilities
  rest : Fields := []

structure PublishedAgentCard where
  schemaVersion : String
  protocolVersion : String
  agentId : String
  name : String
  description : String
  capabilities : AgentCapabilities
  availability : AgentAvailability
  requiresOwnerAcceptance : Bool
  deriving DecidableEq

def publishCard (card : AgentCard) : PublishedAgentCard where
  schemaVersion := "1.1"
  protocolVersion := "1.1"
  agentId := card.id
  name := card.name
  description := card.description
  capabilities := card.capabilities
  availability := .ready
  requiresOwnerAcceptance := true

/-! ### What a call gets from outside -/

/-- How a call fails: with its own `ValueError`, or an exception from below. -/
inductive RegistryError
  | valueError (message : String)
  | raised
  deriving DecidableEq

/-- The keychain, the file system, the clock, `os.urandom`, AES-256-GCM for every key,
Base64, and the JSON of a card, as they answer during a call. -/
structure Surroundings where
  getPassword : String → String → Except RegistryError (Option String)
  isDir : String → Bool
  now : String
  nonce : Bytes
  crypto : Bytes → Crypto
  b64encode : Bytes → String
  b64decode : String → Option Bytes
  dumpJson : AgentCard → String
  validateJson : String → Option AgentCard

section Calls

variable (around : Surroundings)

/-- `encrypt_field` of a text. -/
def encryptField (key : Bytes) (plaintext : String) : String :=
  around.b64encode (encryptBytes (around.crypto key) around.nonce plaintext.toUTF8.data.toList)

/-- `decrypt_field` of a token; `none` when it raises. -/
def decryptField (key : Bytes) (token : String) : Option String := do
  let plain ← decryptBytes (around.crypto key) (← around.b64decode token)
  String.fromUTF8? ⟨plain.toArray⟩

def getAgentCredentialService (profile agentId purpose : String) : String :=
  "kin-" ++ profile ++ "-agent-" ++ agentId ++ "-" ++ purpose

/-- `compute_availability`, for an agent that is stored as ready. -/
def computeAvailability (card : AgentCard) (profile : String) (enabled : Bool) :
    Except RegistryError AgentAvailability :=
  if enabled = false then .ok .policyBlocked
  else
    match card.adapter with
    | .webhook _ _ => do
        let secret ← around.getPassword
          (getAgentCredentialService profile card.id "webhook_secret") "webhook_secret"
        .ok (if secret.isNone then .needsKey else .ready)
    | .localCommand _ workingDirectory =>
        .ok (if around.isDir workingDirectory then .ready else .needsWorkspace)
    | _ => .ok .ready

end Calls

/-! ### The table -/

/-- A row of `agents`. The published card stands for its JSON. -/
structure AgentRecord where
  agentId : String
  name : String
  adapterType : String
  localCardJson : Option String
  publishedCard : PublishedAgentCard
  enabled : Bool
  availability : AgentAvailability
  createdAt : String
  updatedAt : String
  cardVersion : Nat

abbrev AgentsTable := Keyed AgentRecord.agentId

/-- `target_enabled`: the flag that is given, else the stored one, else enabled. -/
def targetEnabled (db : AgentsTable) (card : AgentCard) (enabled : Option Bool) : Bool :=
  enabled.getD (((db.find? card.id).map (·.enabled)).getD true)

/-- The availability that `register_card` publishes. -/
def registeredAvailability (around : Surroundings) (card : AgentCard) (enabled : Bool)
    (profileName : Option String) : Except RegistryError AgentAvailability :=
  match profileName with
  | none => .ok (publishCard card).availability
  | some profile => computeAvailability around card profile enabled

def registerCard (around : Surroundings) (db : AgentsTable) (vaultKey : Bytes) (card : AgentCard)
    (enabled : Option Bool) (profileName : Option String) :
    AgentsTable × Except RegistryError Unit :=
  let row := db.find? card.id
  let target := targetEnabled db card enabled
  match registeredAvailability around card target profileName with
  | .error e => (db, .error e)
  | .ok availability =>
      (db.put
        { agentId := card.id
          name := card.name
          adapterType := card.adapter.type
          localCardJson := some (encryptField around vaultKey (around.dumpJson card))
          publishedCard := { publishCard card with availability }
          enabled := target
          availability
          createdAt := (row.map (·.createdAt)).getD around.now
          updatedAt := around.now
          cardVersion := (row.map (·.cardVersion)).getD 0 + 1 },
        .ok ())

/-- The card that `set_enabled` reads back, when it has a profile and a key to do so. -/
def storedCard (around : Surroundings) (row : AgentRecord) (vaultKey : Bytes) :
    Except RegistryError (Option AgentCard) :=
  match row.localCardJson with
  | none => .ok none
  | some token =>
      match decryptField around vaultKey token with
      | none => .error .raised
      | some plaintext =>
          if plaintext = "" then .ok none
          else
            match around.validateJson plaintext with
            | none => .error .raised
            | some card => .ok (some card)

/-- The availability of an agent that is enabled: ready, unless the surroundings of its
stored card say otherwise. -/
def enabledAvailability (around : Surroundings) (row : AgentRecord) (profileName : Option String)
    (vaultKey : Option Bytes) : Except RegistryError AgentAvailability :=
  match profileName, vaultKey with
  | some profile, some key => do
      match ← storedCard around row key with
      | some card => computeAvailability around card profile true
      | none => .ok .ready
  | _, _ => .ok .ready

def setEnabled (around : Surroundings) (db : AgentsTable) (agentId : String) (enabled : Bool)
    (profileName : Option String) (vaultKey : Option Bytes) :
    AgentsTable × Except RegistryError Unit :=
  match db.find? agentId with
  | none =>
      (db, .error (.valueError ("Agent '" ++ agentId ++ "' does not exist in registry.")))
  | some row =>
      let newAvail :=
        if enabled then enabledAvailability around row profileName vaultKey
        else .ok .policyBlocked
      match newAvail with
      | .error e => (db, .error e)
      | .ok availability =>
          (db.put { row with enabled, availability, updatedAt := around.now }, .ok ())

/-- `list_cards`, without the disabled agents. -/
def listCards (db : AgentsTable) : List AgentRecord :=
  (db.rows.filter (·.enabled)).mergeSort fun a b => decide (a.agentId ≤ b.agentId)

/-- The cards that `get_published_agent_cards` answers with. -/
def getPublishedAgentCards (db : AgentsTable) : List PublishedAgentCard :=
  (listCards db).map (·.publishedCard)

/-! ### The two copies -/

/-- Both copies of the availability agree, and a disabled agent is blocked. -/
structure Truthful (row : AgentRecord) : Prop where
  published : row.publishedCard.availability = row.availability
  blocked : row.enabled = false → row.availability = .policyBlocked

/-- Every row is truthful, and the cards that peers get show the current availability. -/
def TellsTruth (db : AgentsTable) : Prop :=
  (∀ row ∈ db.rows, Truthful row) ∧
    (getPublishedAgentCards db).map (·.availability) = (listCards db).map (·.availability)

theorem tellsTruth_of_rows {db : AgentsTable} (h : ∀ row ∈ db.rows, Truthful row) :
    TellsTruth db := by
  refine ⟨h, ?_⟩
  rw [getPublishedAgentCards, List.map_map]
  apply List.map_congr_left
  intro row hrow
  rw [listCards, List.mem_mergeSort] at hrow
  exact (h row (List.mem_filter.mp hrow).1).published

inductive RegistryCall
  | register (around : Surroundings) (vaultKey : Bytes) (card : AgentCard) (enabled : Option Bool)
      (profileName : Option String)
  | setEnabled (around : Surroundings) (agentId : String) (enabled : Bool)
      (profileName : Option String) (vaultKey : Option Bytes)

def registryStep (db : AgentsTable) : RegistryCall → AgentsTable
  | .register around vaultKey card enabled profileName =>
      (registerCard around db vaultKey card enabled profileName).1
  | .setEnabled around agentId enabled profileName vaultKey =>
      (setEnabled around db agentId enabled profileName vaultKey).1

/-- The published card of the row shows already what the flag makes of the agent. -/
def Shows (around : Surroundings) (flag : Bool) (profileName : Option String)
    (vaultKey : Option Bytes) (row : AgentRecord) : Prop :=
  (flag = false → row.publishedCard.availability = .policyBlocked) ∧
    (flag = true → ∀ availability,
      enabledAvailability around row profileName vaultKey = .ok availability →
        row.publishedCard.availability = availability)

/-- A registration knows the profile or leaves the agent enabled; and a flag is set only
where the published card shows already what the flag makes of the agent. -/
def KeepsCopies (db : AgentsTable) : RegistryCall → Prop
  | .register _ _ card enabled profileName =>
      profileName.isSome = true ∨ targetEnabled db card enabled = true
  | .setEnabled around agentId enabled profileName vaultKey =>
      ∀ row, db.find? agentId = some row → Shows around enabled profileName vaultKey row

section Step

variable {around : Surroundings} {db : AgentsTable} {vaultKey : Bytes} {card : AgentCard}
  {enabled : Option Bool} {profileName : Option String}

theorem registeredAvailability_disabled {availability : AgentAvailability}
    (hprofile : profileName.isSome = true)
    (h : registeredAvailability around card false profileName = .ok availability) :
    availability = .policyBlocked := by
  cases profileName with
  | none => cases hprofile
  | some profile =>
      cases h
      rfl

/-- What a registration writes: one row, with one availability in both places. -/
theorem registerCard_cases (around : Surroundings) (db : AgentsTable) (vaultKey : Bytes)
    (card : AgentCard) (enabled : Option Bool) (profileName : Option String) :
    ((registerCard around db vaultKey card enabled profileName).1 = db ∧
      profileName.isSome = true) ∨
    ∃ row, (registerCard around db vaultKey card enabled profileName).1 = db.put row ∧
      row.publishedCard.availability = row.availability ∧
      row.enabled = targetEnabled db card enabled ∧
      registeredAvailability around card (targetEnabled db card enabled) profileName =
        .ok row.availability := by
  unfold registerCard
  dsimp only
  split
  · left
    refine ⟨rfl, ?_⟩
    cases profileName with
    | none => rename_i herror; cases herror
    | some profile => rfl
  · rename_i availability havailable
    exact .inr ⟨_, rfl, rfl, rfl, havailable⟩

/-- A registration writes a truthful row exactly if it knows the profile or leaves the
agent enabled. -/
theorem truthful_register_iff (h : ∀ row ∈ db.rows, Truthful row) :
    (∀ row ∈ (registerCard around db vaultKey card enabled profileName).1.rows, Truthful row) ↔
      profileName.isSome = true ∨ targetEnabled db card enabled = true := by
  rcases registerCard_cases around db vaultKey card enabled profileName with
    ⟨heq, hprofile⟩ | ⟨row, heq, hpublished, henabled, havailable⟩
  · rw [heq]
    exact iff_of_true h (.inl hprofile)
  · rw [heq, Keyed.forall_put]
    constructor
    · rintro ⟨hrow, -⟩
      by_contra hneither
      rw [not_or, Bool.not_eq_true, Bool.not_eq_true] at hneither
      obtain ⟨hprofile, hdisabled⟩ := hneither
      have hblocked := hrow.blocked (henabled.trans hdisabled)
      rw [Option.isSome_eq_false_iff, Option.isNone_iff_eq_none] at hprofile
      rw [hprofile, registeredAvailability, hblocked] at havailable
      cases havailable
    · intro hkeeps
      refine ⟨⟨hpublished, fun hdisabled => ?_⟩, fun row' hrow' _ => h row' hrow'⟩
      rw [henabled] at hdisabled
      rcases hkeeps with hprofile | htarget
      · rw [hdisabled] at havailable
        exact registeredAvailability_disabled hprofile havailable
      · rw [htarget] at hdisabled
        cases hdisabled

/-- A flag leaves a truthful row exactly if the published card shows already what it
makes of the agent. -/
theorem truthful_setEnabled_iff {agentId : String} {flag : Bool} {key : Option Bytes}
    (h : ∀ row ∈ db.rows, Truthful row) :
    (∀ row ∈ (setEnabled around db agentId flag profileName key).1.rows, Truthful row) ↔
      KeepsCopies db (.setEnabled around agentId flag profileName key) := by
  cases hrow : db.find? agentId with
  | none =>
      rw [setEnabled, hrow]
      refine iff_of_true h fun row hsome => ?_
      rw [hrow] at hsome
      cases hsome
  | some row =>
      have hshows : KeepsCopies db (.setEnabled around agentId flag profileName key) ↔
          Shows around flag profileName key row := by
        refine ⟨fun hkeeps => hkeeps row hrow, fun hkeeps row' hrow' => ?_⟩
        rw [hrow] at hrow'
        cases hrow'
        exact hkeeps
      rw [hshows, setEnabled, hrow, Shows]
      cases flag with
      | false =>
          simp only [Bool.false_eq_true, if_false, forall_const, false_implies, and_true]
          rw [Keyed.forall_put]
          constructor
          · exact fun hrows => hrows.1.published
          · exact fun hpublished =>
              ⟨⟨hpublished, fun _ => rfl⟩, fun row' hrow' _ => h row' hrow'⟩
      | true =>
          simp only [if_true, Bool.true_eq_false, false_implies, forall_const, true_and]
          cases enabledAvailability around row profileName key with
          | error e =>
              refine iff_of_true h fun availability hok => ?_
              cases hok
          | ok availability =>
              simp only [Except.ok.injEq, forall_eq']
              rw [Keyed.forall_put]
              constructor
              · exact fun hrows => hrows.1.published
              · exact fun hpublished =>
                  ⟨⟨hpublished, fun hdisabled => by cases hdisabled⟩,
                    fun row' hrow' _ => h row' hrow'⟩

end Step

theorem tellsTruth_step_iff {db : AgentsTable} (h : TellsTruth db) (call : RegistryCall) :
    TellsTruth (registryStep db call) ↔ KeepsCopies db call := by
  have hrows : TellsTruth (registryStep db call) ↔
      ∀ row ∈ (registryStep db call).rows, Truthful row :=
    ⟨fun htruth => htruth.1, tellsTruth_of_rows⟩
  rw [hrows]
  cases call with
  | register around vaultKey card enabled profileName => exact truthful_register_iff h.1
  | setEnabled around agentId enabled profileName vaultKey => exact truthful_setEnabled_iff h.1

/-- The published cards tell the truth throughout a run exactly if every call of it keeps
the two copies of the availability together. -/
theorem published_cards_truthful_iff (calls : List RegistryCall) :
    (∀ taken, taken <+: calls → TellsTruth (run registryStep Keyed.empty taken)) ↔
      Along registryStep KeepsCopies Keyed.empty calls := by
  have hempty : TellsTruth Keyed.empty := tellsTruth_of_rows fun row hrow => by cases hrow
  constructor
  · intro htruth
    refine along_iff_prefix.mpr fun before call hprefix => ?_
    have hbefore := htruth before ((List.prefix_append ..).trans hprefix)
    have hafter := htruth (before ++ [call]) hprefix
    rw [run_append] at hafter
    exact (tellsTruth_step_iff hbefore call).mp hafter
  · rintro halong taken ⟨rest, rfl⟩
    exact run_of_along (I := TellsTruth) (C := KeepsCopies)
      (fun db call htruth hkeeps => (tellsTruth_step_iff htruth call).mpr hkeeps) hempty
      (along_append.mp halong).1

namespace Sample

/-- Surroundings in which nothing is missing and ciphertext is plaintext. -/
def around : Surroundings where
  getPassword _ _ := .ok (some "secret")
  isDir _ := true
  now := "2026-07-22T12:00:00+00:00"
  nonce := []
  crypto _ := { encrypt := fun _ data => data, decrypt := fun _ data => some data
                sha256Hex := fun _ => "" }
  b64encode _ := ""
  b64decode _ := none
  dumpJson card := card.id
  validateJson _ := none

def scout : AgentCard :=
  { id := "scout", name := "Scout", description := "Looks around", adapter := .sdk "scout:run"
    capabilities := ⟨[], [], []⟩ }

def enabledLater : List RegistryCall :=
  [.register around [] scout (some false) (some "home"),
   .setEnabled around "scout" true none none]

end Sample

/-- The card that peers get is blocked, and the agent is ready. -/
theorem enabled_agent_published_blocked :
    ¬TellsTruth (run registryStep Keyed.empty Sample.enabledLater) := by
  have hrun : (getPublishedAgentCards
        (run registryStep Keyed.empty Sample.enabledLater)).map (·.availability) = [.policyBlocked] ∧
      (listCards (run registryStep Keyed.empty Sample.enabledLater)).map (·.availability) =
        [.ready] := by
    decide +kernel
  intro htruth
  have hserved := htruth.2
  rw [hrun.1, hrun.2] at hserved
  cases hserved

end Kin.AgentRegistry
