import Cthuwu.Discovery.Journal

/-!
# Incremental discovery

A journal knows every agent that its range associates with the wallet (`DiscoveryJournal.Covers`), so
a discovery that starts from it reports all that a scan from the start would.
-/

namespace Cthuwu.Discovery

open TokenEye (Address)

variable {platform : Platform} {digests : Digests} {chain : Chain} {wallet : Address}
  {context : ClassificationContext} {request : DiscoveryRequest}
  {checkpoint : Option DiscoveryJournal} {block : ℕ} {result : DiscoveryResult}

/-! ## What each part adds -/

variable {found found' : List AgentId × ℕ} {id : AgentId} {owner : Address} {event : Event}
  {first : ℕ} {granted : List Address} {registrations : List WalletRegistration}
  {journal : DiscoveryJournal}

theorem addDiscoveryIds_ok {ids added ids' : List AgentId}
    (h : addDiscoveryIds ids added = .ok ids') : id ∈ ids' ↔ id ∈ ids ∨ id ∈ added := by
  unfold addDiscoveryIds at h
  induction added generalizing ids with
  | nil =>
    obtain rfl := Except.ok.inj h
    simp
  | cons first added ih =>
    rw [List.foldlM_cons] at h
    obtain ⟨next, hnext, h⟩ := except_bind_ok.mp h
    unfold addDiscoveryId at hnext
    simp only [except_bind_ok, exists_unit, except_pure_ok] at hnext
    obtain ⟨-, rfl⟩ := hnext
    rw [ih h, List.mem_cons]
    split_ifs with hfirst
    · constructor
      · rintro (h | h)
        · exact .inl h
        · exact .inr (.inr h)
      · rintro (h | rfl | h)
        · exact .inl h
        · exact .inl hfirst
        · exact .inr h
    · rw [List.mem_append, List.mem_singleton, or_assoc]

/-- The owners of the approvals among some events. -/
def Approves (owner : Address) (approved : Bool) : Event → Prop
  | .approvalForAll owner' _ approved' => owner' = owner ∧ approved' = approved
  | _ => False

theorem addOperatorOwners_ok {events : List Event} {owners owners' : Owners}
    (h : events.foldlM addOperatorOwner owners = .ok owners') :
    (owner ∈ owners'.all ↔ owner ∈ owners.all ∨
      ∃ event ∈ events, ∃ approved, Approves owner approved event) ∧
    (owner ∈ owners'.granted ↔ owner ∈ owners.granted ∨
      ∃ event ∈ events, Approves owner true event) := by
  induction events generalizing owners with
  | nil =>
    obtain rfl := Except.ok.inj h
    simp
  | cons event events ih =>
    rw [List.foldlM_cons] at h
    obtain ⟨next, hnext, h⟩ := except_bind_ok.mp h
    obtain ⟨hall, hgranted⟩ := ih h
    rw [hall, hgranted, List.exists_mem_cons_iff, List.exists_mem_cons_iff, ← or_assoc, ← or_assoc]
    have hnext' : (owner ∈ next.all ↔ owner ∈ owners.all ∨ ∃ approved, Approves owner approved event) ∧
        (owner ∈ next.granted ↔ owner ∈ owners.granted ∨ Approves owner true event) := by
      unfold addOperatorOwner at hnext
      cases event with
      | approvalForAll owner' operator approved =>
        simp only [except_bind_ok, exists_unit, except_pure_ok] at hnext
        obtain ⟨-, rfl⟩ := hnext
        dsimp only [Approves]
        constructor
        · split_ifs with hmember
          · constructor
            · exact .inl
            · rintro (h | ⟨_, rfl, -⟩)
              · exact h
              · exact hmember
          · rw [List.mem_append, List.mem_singleton]
            constructor
            · rintro (h | rfl)
              · exact .inl h
              · exact .inr ⟨approved, rfl, rfl⟩
            · rintro (h | ⟨_, rfl, -⟩)
              · exact .inl h
              · exact .inr rfl
        · split_ifs with happroved
          · rw [List.mem_append, List.mem_singleton]
            constructor
            · rintro (h | rfl)
              · exact .inl h
              · exact .inr ⟨rfl, happroved⟩
            · rintro (h | ⟨rfl, -⟩)
              · exact .inl h
              · exact .inr rfl
          · constructor
            · exact .inl
            · rintro (h | ⟨-, h⟩)
              · exact h
              · exact absurd h happroved
      | _ =>
        obtain rfl := Except.ok.inj hnext
        simp [Approves]
    rw [hnext'.1, hnext'.2]
    exact ⟨Iff.rfl, Iff.rfl⟩

def Chain.Logs (chain : Chain) (first last : ℕ) (log : Log) : Prop :=
  log ∈ chain.logs ∧ first ≤ log.block ∧ log.block ≤ last

/-- An owner has had an agent in a range. -/
def Chain.Owned (chain : Chain) (owner : Address) (first last : ℕ) (id : AgentId) : Prop :=
  ∃ log, chain.Logs first last log ∧ reaches owner log.event = true ∧ ownedId log.event = some id

theorem name_of_reaches (h : reaches owner event = true) :
    event.name ∈ [EventName.registered, .transfer] ∧
      ∀ keyTopic, event.topic keyTopic ∈ [addressTopic owner] := by
  cases event with
  | registered agentId registrant =>
    obtain rfl := of_decide_eq_true h
    exact ⟨.head _, fun _ => .head _⟩
  | transfer recipient tokenId =>
    obtain rfl := of_decide_eq_true h
    exact ⟨.tail _ (.head _), fun _ => .head _⟩
  | _ => cases h

theorem addOwner_ok (h : addOwner chain wallet block first granted found owner = .ok found') :
    id ∈ found'.1 ↔ id ∈ found.1 ∨ (chain.isApprovedForAll block owner wallet = true ∧
      chain.Owned owner (if owner ∈ granted then startBlock else first) block id) := by
  obtain ⟨ids, budget⟩ := found
  unfold addOwner at h
  dsimp only at h
  by_cases happroved : chain.isApprovedForAll block owner wallet = true
  · rw [if_neg (not_not_intro happroved)] at h
    obtain ⟨⟨logs, budget'⟩, hlogs, h⟩ := except_bind_ok.mp h
    obtain ⟨ids', hids, h⟩ := except_bind_ok.mp h
    obtain rfl := Except.ok.inj h
    rw [addDiscoveryIds_ok hids, List.mem_filterMap]
    refine or_congr_right ⟨fun ⟨log, hlog, hid⟩ => ?_, fun ⟨_, log, hlog, hreaches, hid⟩ => ?_⟩
    · obtain ⟨hmem, hfirst, hlast, -, -, haccept⟩ := (mem_getLogsChunked hlogs).mp hlog
      exact ⟨happroved, log, ⟨hmem, hfirst, hlast⟩, haccept, hid⟩
    · obtain ⟨hname, htopic⟩ := name_of_reaches hreaches
      exact ⟨log, (mem_getLogsChunked hlogs).mpr
        ⟨hlog.1, hlog.2.1, hlog.2.2, hname, htopic _, hreaches⟩, hid⟩
  · rw [if_pos happroved] at h
    obtain rfl := Except.ok.inj h
    simp only [happroved, Bool.false_eq_true, false_and, or_false]

theorem addOwners_ok {owners : List Address}
    (h : owners.foldlM (addOwner chain wallet block first granted) found = .ok found') :
    id ∈ found'.1 ↔ id ∈ found.1 ∨ ∃ owner ∈ owners,
      chain.isApprovedForAll block owner wallet = true ∧
        chain.Owned owner (if owner ∈ granted then startBlock else first) block id := by
  induction owners generalizing found with
  | nil =>
    obtain rfl := Except.ok.inj h
    simp
  | cons owner owners ih =>
    rw [List.foldlM_cons] at h
    obtain ⟨next, hnext, h⟩ := except_bind_ok.mp h
    rw [ih h, addOwner_ok hnext, List.exists_mem_cons_iff, or_assoc]

/-- What discovery reports of an agent. -/
def Reports (platform : Platform) (chain : Chain) (wallet : Address)
    (context : Option ClassificationContext) (block : ℕ) (id : AgentId) (candidate : Candidate) :
    Prop :=
  ∃ inspected, inspectAgentAtBlock platform wallet id block (chain.blockHash block)
      (chain.agent block wallet id) = .ok (some inspected) ∧
    candidate = (match context with
      | none => { agent := inspected, classification := none }
      | some context => classifyDiscoveredAgent platform inspected context) ∧
    candidate.kept = true

theorem addCandidates_ok {context : Option ClassificationContext} {ids : List AgentId}
    {candidates candidates' : List Candidate}
    (h : ids.foldlM (addCandidate platform chain wallet context block) candidates =
      .ok candidates') {candidate : Candidate} :
    candidate ∈ candidates' ↔ candidate ∈ candidates ∨
      ∃ id ∈ ids, Reports platform chain wallet context block id candidate := by
  induction ids generalizing candidates with
  | nil =>
    obtain rfl := Except.ok.inj h
    simp
  | cons id ids ih =>
    rw [List.foldlM_cons] at h
    obtain ⟨next, hnext, h⟩ := except_bind_ok.mp h
    rw [ih h, List.exists_mem_cons_iff, ← or_assoc]
    refine or_congr_left ?_
    unfold addCandidate at hnext
    obtain ⟨inspected, hinspected, hnext⟩ := except_bind_ok.mp hnext
    unfold Reports
    rw [hinspected]
    cases inspected with
    | none =>
      obtain rfl := Except.ok.inj hnext
      simp
    | some inspected =>
      simp only [except_bind_ok, exists_unit, except_pure_ok] at hnext
      obtain ⟨-, rfl⟩ := hnext
      simp only [Except.ok.injEq, Option.some.injEq, exists_eq_left']
      split_ifs with hkept
      · rw [List.mem_append, List.mem_singleton]
        refine or_congr_right ⟨fun h => ⟨h, h ▸ hkept⟩, And.left⟩
      · refine ⟨.inl, fun h => h.elim (fun h => h) fun hsame => ?_⟩
        obtain ⟨heq, hcandidate⟩ := hsame
        rw [heq] at hcandidate
        exact absurd hcandidate hkept

/-- A registration of the wallet in a range. -/
def Chain.Registered (chain : Chain) (wallet : Address) (first last : ℕ)
    (registration : WalletRegistration) : Prop :=
  ∃ log, chain.Logs first last log ∧ log.event = .registered registration.agentId wallet ∧
    log.transactionHash = some registration.transactionHash

theorem addRegistrations_ok {logs : List Log} {registrations' : List WalletRegistration}
    (h : logs.foldlM addRegistration registrations = .ok registrations')
    {registration : WalletRegistration} :
    registration ∈ registrations' ↔ registration ∈ registrations ∨
      ∃ log ∈ logs, (∃ owner, log.event = .registered registration.agentId owner) ∧
        log.transactionHash = some registration.transactionHash := by
  induction logs generalizing registrations with
  | nil =>
    obtain rfl := Except.ok.inj h
    simp
  | cons log logs ih =>
    rw [List.foldlM_cons] at h
    obtain ⟨next, hnext, h⟩ := except_bind_ok.mp h
    rw [ih h, List.exists_mem_cons_iff, ← or_assoc]
    refine or_congr_left ?_
    unfold addRegistration at hnext
    cases hevent : log.event with
    | registered agentId owner =>
      rw [hevent] at hnext
      obtain ⟨hash, hhash, hnext⟩ := except_bind_ok.mp hnext
      rw [okOr_ok] at hhash
      obtain rfl := Except.ok.inj hnext
      rw [hhash]
      have hsame : registration = { agentId := agentId, transactionHash := hash } ↔
          (∃ owner', Event.registered agentId owner = .registered registration.agentId owner') ∧
            some hash = some registration.transactionHash := by
        constructor
        · rintro rfl
          exact ⟨⟨owner, rfl⟩, rfl⟩
        · rintro ⟨⟨_, hagent⟩, hhash⟩
          obtain ⟨rfl, -⟩ := Event.registered.inj hagent
          obtain rfl := Option.some.inj hhash
          rfl
      rw [← hsame]
      split_ifs with hmember
      · exact ⟨.inl, fun h => h.elim (fun h => h) fun h => h ▸ hmember⟩
      · rw [List.mem_append, List.mem_singleton]
    | _ =>
      rw [hevent] at hnext
      obtain rfl := Except.ok.inj hnext
      simp

/-! ## What a discovery finds -/

def associatedId : Event → Option AgentId
  | .registered agentId _ => some agentId
  | .transfer _ tokenId => some tokenId
  | .approval _ tokenId => some tokenId
  | .approvalForAll _ _ _ => none
  | .metadataSet agentId _ _ => some agentId

/-- An agent is associated with the wallet in a range. -/
def Chain.Associated (chain : Chain) (wallet : Address) (first last : ℕ) (id : AgentId) : Prop :=
  ∃ log, chain.Logs first last log ∧ concerns wallet log.event = true ∧
    associatedId log.event = some id

/-- An owner approves the wallet for all of its agents, or stops to, in a range. -/
def Chain.ApprovesIn (chain : Chain) (wallet owner : Address) (approved : Bool) (first last : ℕ) :
    Prop :=
  ∃ log, chain.Logs first last log ∧ log.event = .approvalForAll owner wallet approved

/-- What a discovery finds, beyond what was known before. -/
structure Finds (platform : Platform) (chain : Chain) (request : DiscoveryRequest)
    (checkpoint : Option DiscoveryJournal) (block : ℕ) (result : DiscoveryResult) : Prop where
  ids : ∀ id, id ∈ result.internal.associatedAgentIds ↔ id ∈ (known request block checkpoint).ids ∨
    chain.Associated request.wallet (known request block checkpoint).firstBlock block id ∨
    ∃ owner ∈ result.internal.operatorOwners,
      chain.isApprovedForAll block owner request.wallet = true ∧
      ∃ first, chain.Owned owner first block id ∧
        (first = startBlock ∧ chain.ApprovesIn request.wallet owner true
            (known request block checkpoint).firstBlock block ∨
          first = (known request block checkpoint).firstBlock ∧
          ¬chain.ApprovesIn request.wallet owner true
            (known request block checkpoint).firstBlock block)
  owners : ∀ owner, owner ∈ result.internal.operatorOwners ↔
    owner ∈ (known request block checkpoint).owners ∨
    ∃ approved, chain.ApprovesIn request.wallet owner approved
      (known request block checkpoint).firstBlock block
  registrations : ∀ registration, registration ∈ result.internal.walletRegistrations ↔
    registration ∈ (known request block checkpoint).registrations ∨
    chain.Registered request.wallet (known request block checkpoint).firstBlock block registration
  candidates : ∀ candidate, candidate ∈ result.candidates ↔
    ∃ id ∈ result.internal.associatedAgentIds,
      Reports platform chain request.wallet request.context block id candidate
  matched : result.matchedRegistrationAgentIds = matchedRegistrations chain request.wallet
    request.registrationNonce result.internal.walletRegistrations
  matchedOnce : result.matchedRegistrationAgentIds.length ≤ 1
  observed : result.observedBlockNumber = block
  fromBlock : result.fromBlock = (known request block checkpoint).fromBlock
  compatible : ∀ journal, checkpoint = some journal → request.compatible block journal

theorem name_of_concerns (h : concerns wallet event = true) (keyTopic : String → BitVec 256) :
    event.name ∈ [EventName.registered, .transfer, .approval, .approvalForAll, .metadataSet] ∧
      event.topic keyTopic ∈ [addressTopic wallet, keyTopic "agentWallet"] := by
  cases event with
  | metadataSet agentId metadataKey metadataValue =>
    have hkey := of_decide_eq_true (Bool.and_eq_true_iff.mp h).1
    exact ⟨by simp [Event.name], hkey ▸ .tail _ (.head _)⟩
  | _ => exact ⟨by simp [Event.name], of_decide_eq_true h ▸ .head _⟩

theorem associatedId_eq_some : associatedId event = some id ↔
    ((registeredId event = some id ∨ transferredId event = some id) ∨ approvedId event = some id) ∨
      walletMetadataId event = some id := by
  cases event <;> simp [associatedId, registeredId, transferredId, approvedId, walletMetadataId]

theorem discoverAgents_ok
    (h : discoverAgents platform chain request checkpoint block = .ok result) :
    Finds platform chain request checkpoint block result := by
  unfold discoverAgents at h
  simp only [except_bind_ok, exists_unit, except_pure_ok, failIf_ok, Prod.exists] at h
  obtain ⟨-, hcheckpoint, combined, budget, hcombined, ids₁, hids₁, ids₂, hids₂, ids₃, hids₃, ids₄,
    hids₄, owners, howners, ids, budget', hids, candidates, hcandidates, registrations,
    hregistrations, -, honce, rfl⟩ := h
  have hlog : ∀ log, log ∈ combined ↔
      chain.Logs (known request block checkpoint).firstBlock block log ∧
        concerns request.wallet log.event = true := by
    intro log
    rw [mem_getLogsChunked hcombined]
    constructor
    · rintro ⟨hmem, hfirst, hlast, -, -, hconcerns⟩
      exact ⟨⟨hmem, hfirst, hlast⟩, hconcerns⟩
    · rintro ⟨⟨hmem, hfirst, hlast⟩, hconcerns⟩
      obtain ⟨hname, htopic⟩ := name_of_concerns hconcerns chain.keyTopic
      exact ⟨hmem, hfirst, hlast, hname, htopic, hconcerns⟩
  have hdirect : ∀ id, id ∈ ids₄ ↔ id ∈ (known request block checkpoint).ids ∨
      chain.Associated request.wallet (known request block checkpoint).firstBlock block id := by
    intro id
    rw [addDiscoveryIds_ok hids₄, addDiscoveryIds_ok hids₃, addDiscoveryIds_ok hids₂,
      addDiscoveryIds_ok hids₁]
    unfold Chain.Associated
    simp only [List.mem_filterMap, associatedId_eq_some, hlog, or_assoc, and_or_left, exists_or,
      and_assoc]
  have hgrants : ∀ owner approved, (∃ event ∈ combined.map (·.event), Approves owner approved event) ↔
      chain.ApprovesIn request.wallet owner approved
        (known request block checkpoint).firstBlock block := by
    intro owner approved
    constructor
    · rintro ⟨event, hevent, happroves⟩
      obtain ⟨log, hmem, rfl⟩ := List.mem_map.mp hevent
      obtain ⟨hrange, hconcerns⟩ := (hlog log).mp hmem
      refine ⟨log, hrange, ?_⟩
      cases hevent : log.event with
      | approvalForAll owner' operator approved' =>
        rw [hevent] at happroves hconcerns
        obtain ⟨rfl, rfl⟩ := happroves
        rw [of_decide_eq_true hconcerns]
      | _ =>
        rw [hevent] at happroves
        exact happroves.elim
    · rintro ⟨log, hrange, hevent⟩
      refine ⟨log.event, List.mem_map.mpr ⟨log, (hlog log).mpr ⟨hrange, ?_⟩, rfl⟩, ?_⟩
      · rw [hevent]
        exact decide_eq_true rfl
      · rw [hevent]
        exact ⟨rfl, rfl⟩
  have hregistered : ∀ registration : WalletRegistration,
      (∃ log ∈ combined, (∃ owner, log.event = .registered registration.agentId owner) ∧
        log.transactionHash = some registration.transactionHash) ↔
      chain.Registered request.wallet (known request block checkpoint).firstBlock block
        registration := by
    intro registration
    constructor
    · rintro ⟨log, hmem, ⟨owner, hevent⟩, hhash⟩
      obtain ⟨hrange, hconcerns⟩ := (hlog log).mp hmem
      rw [hevent] at hconcerns
      exact ⟨log, hrange, of_decide_eq_true hconcerns ▸ hevent, hhash⟩
    · rintro ⟨log, hrange, hevent, hhash⟩
      refine ⟨log, (hlog log).mpr ⟨hrange, ?_⟩, ⟨request.wallet, hevent⟩, hhash⟩
      rw [hevent]
      exact decide_eq_true rfl
  have hmatched : matchedRegistrations chain request.wallet request.registrationNonce
      (registrations.mergeSort WalletRegistration.le) = _ := rfl
  exact
    { ids := fun id => by
        rw [(List.mergeSort_perm _ _).mem_iff, addOwners_ok hids, hdirect, or_assoc]
        refine or_congr_right (or_congr_right (exists_congr fun owner => ?_))
        rw [(List.mergeSort_perm _ _).mem_iff]
        refine and_congr_right fun _ => and_congr_right fun _ => ?_
        have hgranted : owner ∈ owners.granted ↔ chain.ApprovesIn request.wallet owner true
            (known request block checkpoint).firstBlock block := by
          rw [(addOperatorOwners_ok howners).2, hgrants]
          exact or_iff_right List.not_mem_nil
        rw [← hgranted]
        split_ifs with howner
        · simp [howner]
        · simp [howner]
      owners := fun owner => by
        rw [(List.mergeSort_perm _ _).mem_iff, (addOperatorOwners_ok howners).1]
        simp only [← hgrants]
        tauto
      registrations := fun registration => by
        rw [(List.mergeSort_perm _ _).mem_iff, addRegistrations_ok hregistrations, hregistered]
      candidates := fun candidate => by
        rw [addCandidates_ok hcandidates]
        exact or_iff_right List.not_mem_nil
      matched := rfl
      matchedOnce := not_lt.mp honce
      observed := rfl
      fromBlock := rfl
      compatible := fun journal hjournal => by
        rw [hjournal] at hcheckpoint
        have hcheck : checkCheckpoint chain request block journal = .ok () := hcheckpoint
        unfold checkCheckpoint at hcheck
        simp only [except_bind_ok, exists_unit, failIf_ok, not_not] at hcheck
        exact hcheck.1 }

/-! ## What a journal covers -/

/-- Approvals for all start with an event, and after the registry does. -/
structure Chain.ApprovalsLogged (chain : Chain) : Prop where
  start : ∀ block < startBlock, ∀ owner operator,
    ¬chain.isApprovedForAll block owner operator = true
  logged : ∀ first last owner operator, first ≤ last →
    ¬chain.isApprovedForAll first owner operator = true →
    chain.isApprovedForAll last owner operator = true →
    chain.ApprovesIn operator owner true (first + 1) last

/-- All that the history associates with the wallet through a block is known. -/
structure Covers (chain : Chain) (wallet : Address) (through : ℕ) (ids : List AgentId)
    (owners : List Address) (registrations : List WalletRegistration) : Prop where
  associated : ∀ id, chain.Associated wallet startBlock through id → id ∈ ids
  owned : ∀ owner, chain.isApprovedForAll through owner wallet = true →
    ∀ id, chain.Owned owner startBlock through id → id ∈ ids
  owners : ∀ owner approved, chain.ApprovesIn wallet owner approved startBlock through →
    owner ∈ owners
  registrations : ∀ registration, registration ∈ registrations ↔
    chain.Registered wallet startBlock through registration

theorem Chain.Logs.split {last : ℕ} (through : ℕ) {log : Log} (h : chain.Logs first last log) :
    chain.Logs first through log ∨ chain.Logs (through + 1) last log := by
  obtain ⟨hmem, hfirst, hlast⟩ := h
  by_cases hthrough : log.block ≤ through
  · exact .inl ⟨hmem, hfirst, hthrough⟩
  · exact .inr ⟨hmem, Nat.not_le.mp hthrough, hlast⟩

theorem Chain.Logs.mono {first' last last' : ℕ} {log : Log} (h : chain.Logs first last log)
    (hfirst : first' ≤ first) (hlast : last ≤ last') : chain.Logs first' last' log :=
  ⟨h.1, hfirst.trans h.2.1, h.2.2.trans hlast⟩

/-- Nothing is associated with a wallet before the registry starts. -/
theorem covers_none (h : chain.ApprovalsLogged) : Covers chain wallet (startBlock - 1) [] [] [] := by
  have hnone : ∀ log, ¬chain.Logs startBlock (startBlock - 1) log := fun log hlog => by
    have hle := hlog.2.1.trans hlog.2.2
    unfold startBlock at hle
    omega
  exact
    { associated := fun _ ⟨log, hlog, _⟩ => (hnone log hlog).elim
      owned := fun owner happroved =>
        absurd happroved (h.start (startBlock - 1) (by decide) owner wallet)
      owners := fun _ _ ⟨log, hlog, _⟩ => (hnone log hlog).elim
      registrations := fun _ => iff_of_false List.not_mem_nil fun ⟨log, hlog, _⟩ =>
        hnone log hlog }

/-- A discovery covers what was known and its own range. -/
theorem Finds.covers {through : ℕ} (h : Finds platform chain request checkpoint block result)
    (hlogged : chain.ApprovalsLogged)
    (hknown : Covers chain request.wallet through (known request block checkpoint).ids
      (known request block checkpoint).owners (known request block checkpoint).registrations)
    (hfirst : (known request block checkpoint).firstBlock = through + 1)
    (hstart : startBlock ≤ through + 1) (hle : through ≤ block) :
    Covers chain request.wallet block result.internal.associatedAgentIds
      result.internal.operatorOwners result.internal.walletRegistrations := by
  have howners : ∀ owner approved, chain.ApprovesIn request.wallet owner approved startBlock block →
      owner ∈ result.internal.operatorOwners := fun owner approved ⟨log, hlog, hevent⟩ => by
    rw [h.owners]
    rcases hlog.split through with hlog | hlog
    · exact .inl (hknown.owners owner approved ⟨log, hlog, hevent⟩)
    · exact .inr ⟨approved, log, hfirst ▸ hlog, hevent⟩
  exact
    { associated := fun id ⟨log, hlog, hassociated⟩ => by
        rw [h.ids]
        rcases hlog.split through with hlog | hlog
        · exact .inl (hknown.associated id ⟨log, hlog, hassociated⟩)
        · exact .inr (.inl ⟨log, hfirst ▸ hlog, hassociated⟩)
      owned := fun owner happroved id hid => by
        by_cases hgranted : chain.ApprovesIn request.wallet owner true
          (known request block checkpoint).firstBlock block
        · refine (h.ids id).mpr (.inr (.inr ⟨owner, ?_, happroved, startBlock, hid, ?_⟩))
          · exact (h.owners owner).mpr (.inr ⟨true, hgranted⟩)
          · exact .inl ⟨rfl, hgranted⟩
        -- Without a new approval the owner was enumerated when the checkpoint was made.
        have hbefore : chain.isApprovedForAll through owner request.wallet = true := by
          by_contra hnot
          exact hgranted (hfirst ▸ hlogged.logged through block owner request.wallet hle hnot happroved)
        obtain ⟨log, hlog, hreaches, howned⟩ := hid
        rcases hlog.split through with hlog | hlog
        · exact (h.ids id).mpr (.inl (hknown.owned owner hbefore id ⟨log, hlog, hreaches, howned⟩))
        · have hgrant : chain.ApprovesIn request.wallet owner true startBlock through := by
            have hnot := hlogged.start (startBlock - 1) (by decide) owner request.wallet
            exact hlogged.logged (startBlock - 1) through owner request.wallet (by omega) hnot hbefore
          refine (h.ids id).mpr (.inr (.inr ⟨owner, ?_, happroved, _, ?_, .inr ⟨rfl, hgranted⟩⟩))
          · exact (h.owners owner).mpr (.inl (hknown.owners owner true hgrant))
          · exact ⟨log, hfirst ▸ hlog, hreaches, howned⟩
      owners := howners
      registrations := fun registration => by
        rw [h.registrations, hknown.registrations]
        constructor
        · rintro (⟨log, hlog, hevent⟩ | ⟨log, hlog, hevent⟩)
          · exact ⟨log, hlog.mono le_rfl hle, hevent⟩
          · exact ⟨log, (hfirst ▸ hlog).mono hstart le_rfl, hevent⟩
        · rintro ⟨log, hlog, hevent⟩
          rcases hlog.split through with hlog | hlog
          · exact .inl ⟨log, hlog, hevent⟩
          · exact .inr ⟨log, hfirst ▸ hlog, hevent⟩ }

theorem parseDiscoveryJournal_ok {checkpoint : DiscoveryJournal}
    (h : parseDiscoveryJournal digests journal = .ok checkpoint) : checkpoint = journal := by
  unfold parseDiscoveryJournal at h
  simp only [except_bind_ok, exists_unit, except_pure_ok] at h
  exact h.2.2.2.2.2.symm

def DiscoveryJournal.Covers (chain : Chain) (wallet : Address) (journal : DiscoveryJournal) : Prop :=
  Discovery.Covers chain wallet journal.throughBlock journal.associatedAgentIds
    journal.operatorOwners journal.walletRegistrations ∧
  startBlock ≤ journal.throughBlock + 1

/-- A scan from the start covers the history. -/
theorem covers_scan (hlogged : chain.ApprovalsLogged) (hscope : request.scope = .exhaustive)
    (h : discoverAgents platform chain request none block = .ok result) :
    Covers chain request.wallet block result.internal.associatedAgentIds
      result.internal.operatorOwners result.internal.walletRegistrations ∧ startBlock ≤ block := by
  have hstart : startBlock ≤ block := by
    unfold discoverAgents at h
    simp only [except_bind_ok, exists_unit, failIf_ok] at h
    exact not_lt.mp h.1
  have hfirst : (known request block none).firstBlock = startBlock - 1 + 1 := by
    unfold known DiscoveryRequest.firstBlock
    rw [hscope]
    rfl
  refine ⟨(discoverAgents_ok h).covers hlogged (covers_none hlogged) hfirst ?_ ?_, hstart⟩
  · decide
  · omega

/-- A discovery that starts from a journal covers the history, as the journal does. -/
theorem covers_checkpoint (hlogged : chain.ApprovalsLogged)
    (hjournal : journal.Covers chain request.wallet)
    (h : discoverAgents platform chain request (some journal) block = .ok result) :
    Covers chain request.wallet block result.internal.associatedAgentIds
      result.internal.operatorOwners result.internal.walletRegistrations ∧
    startBlock ≤ block + 1 := by
  have hfinds := discoverAgents_ok h
  obtain ⟨-, -, -, -, hle⟩ := hfinds.compatible journal rfl
  obtain ⟨hcovers, hstart⟩ := hjournal
  exact ⟨hfinds.covers hlogged hcovers rfl hstart hle, by omega⟩

theorem covers_journaled (hlogged : chain.ApprovalsLogged)
    (h : Journaled platform digests chain wallet context journal) :
    journal.Covers chain wallet := by
  induction h with
  | first hrequest hfound =>
    obtain ⟨rfl, -, hscope⟩ := hrequest
    have hobserved := (discoverAgents_ok hfound).observed
    obtain ⟨hcovers, hstart⟩ := covers_scan hlogged hscope hfound
    unfold DiscoveryJournal.Covers buildDiscoveryJournal
    rw [hobserved]
    exact ⟨hcovers, hstart.trans (Nat.le_succ _)⟩
  | next hjournal hsaved hread hrequest hfound ih =>
    obtain ⟨rfl, -, -⟩ := hrequest
    obtain rfl := parseDiscoveryJournal_ok hread
    have hobserved := (discoverAgents_ok hfound).observed
    obtain ⟨hcovers, hstart⟩ := covers_checkpoint hlogged ih hfound
    unfold DiscoveryJournal.Covers buildDiscoveryJournal
    rw [hobserved]
    exact ⟨hcovers, hstart⟩

/-! ## Nothing is missed -/

theorem eq_of_mem_iff_of_length {α : Type} {l l' : List α} (h : ∀ a, a ∈ l ↔ a ∈ l')
    (hl : l.length ≤ 1) (hl' : l'.length ≤ 1) : l = l' := by
  match l, l', hl, hl' with
  | [], [], _, _ => rfl
  | [], b :: _, _, _ => exact absurd ((h b).mpr (.head _)) List.not_mem_nil
  | a :: _, [], _, _ => exact absurd ((h a).mp (.head _)) List.not_mem_nil
  | [a], [b], _, _ => rw [List.mem_singleton.mp ((h a).mp (.head _))]

theorem mem_matchedRegistrations {nonce : Option ℕ} :
    id ∈ matchedRegistrations chain wallet nonce registrations ↔
      ∃ registration ∈ registrations, registration.agentId = id ∧
        ∃ n, nonce = some n ∧ chain.transaction registration.transactionHash = (wallet, n) := by
  unfold matchedRegistrations
  cases nonce with
  | none => simp
  | some n =>
    rw [List.mem_dedup, List.mem_map]
    simp only [List.mem_filter, decide_eq_true_eq, Option.some.injEq, exists_eq_left']
    constructor
    · rintro ⟨registration, ⟨hmem, htransaction⟩, hid⟩
      exact ⟨registration, hmem, hid, htransaction⟩
    · rintro ⟨registration, hmem, hid, htransaction⟩
      exact ⟨registration, ⟨hmem, htransaction⟩, hid⟩

/-- The parts of a range cover each of its blocks once, and no other block. -/
def ReadOnce (first last : ℕ) : Prop :=
  ∀ block, (parts (logBlockSpan - 1) first last).countP (·.Has block) =
    if first ≤ block ∧ block ≤ last then 1 else 0

theorem readOnce (first last : ℕ) : ReadOnce first last := fun block => by
  split_ifs with h
  · exact countP_parts h.1 h.2
  · rw [List.countP_eq_zero]
    intro range hrange hhas
    exact h (exists_parts_has.mp ⟨range, hrange, of_decide_eq_true hhas⟩)

/-- A discovery that starts from the journal of a chain of discoveries reports every candidate that
a scan from the start reports at its block, classified alike, and the same matched registration.
Each block of its range is read once. -/
theorem incremental_discovery (hlogged : chain.ApprovalsLogged)
    {journal checkpoint : DiscoveryJournal} {full : DiscoveryResult}
    (hjournal : Journaled platform digests chain wallet context journal)
    (hread : parseDiscoveryJournal digests journal = .ok checkpoint)
    (hrequest : request.wallet = wallet ∧ request.context = some context ∧
      request.scope = .exhaustive)
    (hfound : discoverAgents platform chain request (some checkpoint) block = .ok result)
    (hscan : discoverAgents platform chain request none block = .ok full) :
    full.candidates ⊆ result.candidates ∧
      result.matchedRegistrationAgentIds = full.matchedRegistrationAgentIds ∧
      ReadOnce (checkpoint.throughBlock + 1) block := by
  obtain ⟨rfl, hcontext, hscope⟩ := hrequest
  obtain rfl := parseDiscoveryJournal_ok hread
  obtain ⟨hcovers, -⟩ := covers_checkpoint hlogged (covers_journaled hlogged hjournal) hfound
  obtain ⟨hcovers', -⟩ := covers_scan hlogged hscope hscan
  have hfinds := discoverAgents_ok hfound
  have hfinds' := discoverAgents_ok hscan
  have hfirst : (known request block none).firstBlock = startBlock := by
    unfold known DiscoveryRequest.firstBlock
    rw [hscope]
  refine ⟨fun candidate hcandidate => ?_, ?_, readOnce _ _⟩
  · obtain ⟨id, hid, hreports⟩ := (hfinds'.candidates candidate).mp hcandidate
    refine (hfinds.candidates candidate).mpr ⟨id, ?_, hreports⟩
    rcases (hfinds'.ids id).mp hid with hknown | hassociated | ⟨owner, -, happroved, first, howned, h⟩
    · exact absurd hknown List.not_mem_nil
    · exact hcovers.associated id (hfirst ▸ hassociated)
    · have hstart : first = startBlock := h.elim And.left fun h => h.1.trans hfirst
      exact hcovers.owned owner happroved id (hstart ▸ howned)
  · refine eq_of_mem_iff_of_length (fun id => ?_) hfinds.matchedOnce hfinds'.matchedOnce
    rw [hfinds.matched, hfinds'.matched, mem_matchedRegistrations, mem_matchedRegistrations]
    simp only [hcovers.registrations, hcovers'.registrations]

/-! ## An approval that reveals an agent -/

def sampleContext : ClassificationContext :=
  { tentacleId := "deep-one"
    xmtpInboxId := "aaaaaaaaaaaaaaaaaaaaaaaaaaaaaaaaaaaaaaaaaaaaaaaaaaaaaaaaaaaaaaaa" }

def samplePlatform : Platform :=
  { hexToString := fun bytes => some (String.ofList (bytes.map fun byte => Char.ofNat byte.toNat))
    fromBase64 := fun _ => []
    parseJson := fun _ => none }

def sampleDigests : Digests :=
  { checkpoint := fun _ => ""
    candidateSet := fun _ => 0
    authorization := fun _ => ""
    journalBytes := fun _ => 1024 }

/-- An owner registers an agent, and later approves the wallet for all of its agents. -/
def sampleChain : Chain :=
  { logs :=
      [{ block := startBlock
         transactionHash := some 1
         event := .registered 5 2 },
       { block := startBlock + 10
         transactionHash := some 2
         event := .approvalForAll 2 1 true }]
    blockHash := fun block => BitVec.ofNat 256 block
    keyTopic := fun _ => 3
    isApprovedForAll := fun block owner operator =>
      owner = 2 ∧ operator = 1 ∧ startBlock + 10 ≤ block
    agent := fun block _ id =>
      if id = 5 then
        some
          { owner := 2
            agentURI := ""
            agentWallet := 0
            allegiance := []
            protocol := []
            tentacleId := utf8 sampleContext.tentacleId
            authorized := startBlock + 10 ≤ block }
      else none
    transaction := fun _ => (0, 0) }

def sampleRequest : DiscoveryRequest :=
  { wallet := 1
    registrationNonce := none
    scope := .exhaustive
    context := some sampleContext
    observation := .finalized }

theorem sampleChain_approvalsLogged : sampleChain.ApprovalsLogged where
  start block hblock owner operator happroved := by
    have := (of_decide_eq_true happroved).2.2
    omega
  logged first last owner operator hle hnot happroved := by
    obtain ⟨rfl, rfl, hlast⟩ := of_decide_eq_true happroved
    have hfirst : ¬startBlock + 10 ≤ first := fun hfirst =>
      hnot (decide_eq_true ⟨rfl, rfl, hfirst⟩)
    exact ⟨_, ⟨.tail _ (.head _), Nat.not_le.mp hfirst, hlast⟩, rfl⟩

def sampleDiscovery (checkpoint : Option DiscoveryJournal) (block : ℕ) :
    Except SignerError DiscoveryResult :=
  discoverAgents samplePlatform sampleChain sampleRequest checkpoint block

def sampleJournal (result : DiscoveryResult) : DiscoveryJournal :=
  buildDiscoveryJournal sampleDigests result 1 sampleContext

/-- The agent is found once its owner approves the wallet, although the journal starts later. -/
theorem incremental_discovery_sample : ∃ checkpoint result full,
    sampleDiscovery (some checkpoint) (startBlock + 12) = .ok result ∧
      sampleDiscovery none (startBlock + 12) = .ok full ∧ full.candidates.length = 1 ∧
      full.candidates ⊆ result.candidates := by
  have hruns : ((sampleDiscovery none (startBlock + 5)).toOption.bind fun first =>
      (parseDiscoveryJournal sampleDigests (sampleJournal first)).toOption.bind fun checkpoint =>
        (sampleDiscovery (some checkpoint) (startBlock + 12)).toOption).isSome = true := by
    decide +kernel
  have hfull : (sampleDiscovery none (startBlock + 12)).toOption.map (·.candidates.length) =
      some 1 := by
    decide +kernel
  obtain ⟨result, hruns⟩ := Option.isSome_iff_exists.mp hruns
  obtain ⟨first, hfirst, hruns⟩ := Option.bind_eq_some_iff.mp hruns
  obtain ⟨checkpoint, hread, hfound⟩ := Option.bind_eq_some_iff.mp hruns
  obtain ⟨full, hscan, hlength⟩ := Option.map_eq_some_iff.mp hfull
  rw [toOption_eq_some] at hfirst hread hfound hscan
  have hjournal : Journaled samplePlatform sampleDigests sampleChain 1 sampleContext
      (sampleJournal first) := .first ⟨rfl, rfl, rfl⟩ hfirst
  obtain ⟨hsubset, -⟩ := incremental_discovery sampleChain_approvalsLogged hjournal hread
    ⟨rfl, rfl, rfl⟩ hfound hscan
  exact ⟨checkpoint, result, full, hfound, hscan, hlength, hsubset⟩

end Cthuwu.Discovery
