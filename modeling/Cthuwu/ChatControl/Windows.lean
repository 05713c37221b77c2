import Cthuwu.ChatControl.Gate

/-!
# What the gate counts

The gate keeps the admissions that still count, of each sender and of all (`Counted`), and keeps a
query that it has admitted until the deadline is past. `admitQuery_cases` is all that a query does
to it. Its tables never grow beyond their bounds (`Bounded`).
-/

namespace Cthuwu.ChatControl

open TokenEye

structure Admission where
  senderInboxId : String
  requestId : String
  expiresAtNs : ℕ
  atMs : ℤ

def Admission.key (a : Admission) : String :=
  LivenessGate.key a.senderInboxId a.requestId

/-- When the admissions were. -/
def times (admissions : List Admission) : List ℤ :=
  admissions.map (·.atMs)

def bySender (senderInboxId : String) (admissions : List Admission) : List Admission :=
  admissions.filter (·.senderInboxId = senderInboxId)

theorem bySender_append {senderInboxId : String} {admissions : List Admission} {a : Admission} :
    bySender senderInboxId (admissions ++ [a]) =
      bySender senderInboxId admissions ++ if a.senderInboxId = senderInboxId then [a] else [] := by
  unfold bySender
  rw [List.filter_append, List.filter_cons]
  simp only [decide_eq_true_eq, List.filter_nil]

namespace LivenessGate

/-- The admissions of a sender that the gate keeps. -/
def countOf (gate : LivenessGate) (senderInboxId : String) : List ℤ :=
  (gate.senderAdmissions.get senderInboxId).getD []

structure Bounded (gate : LivenessGate) : Prop where
  senders : gate.senderAdmissions.len ≤ maxLivenessSenders
  perSender : ∀ sender admissions, gate.senderAdmissions.get sender = some admissions →
    admissions.length ≤ livenessPerSenderPerWindow
  all : gate.globalAdmissions.length ≤ livenessGlobalPerWindow
  replays : gate.replays.len ≤ maxLivenessReplays
  grants : gate.grants.len ≤ maxLivenessGrants

theorem bounded_new : new.Bounded :=
  { senders := Nat.zero_le _
    perSender := fun _ _ h => by
      unfold new at h
      rw [HashMap.get_empty] at h
      cases h
    all := Nat.zero_le _
    replays := Nat.zero_le _
    grants := Nat.zero_le _ }

variable {gate gate' : LivenessGate} {nowMs : ℤ} {senderInboxId : String}
  {senderAddress : Address} {query : LivenessQuery} {tentacleAgentId : String}
  {request : GrantRequest}

/-! ## Dropping what has run out -/

theorem get_prune_senderAdmissions {sender : String} {admissions : List ℤ} :
    (gate.prune nowMs).senderAdmissions.get sender = some admissions ↔
      (∃ old, gate.senderAdmissions.get sender = some old ∧
        admissions = old.dropWhile (· ≤ nowMs - livenessWindowMs)) ∧ admissions ≠ [] := by
  unfold prune
  dsimp only
  rw [HashMap.get_retain_eq_some, HashMap.get_mapWithKey, Option.map_eq_some_iff,
    decide_eq_true_eq]
  simp only [eq_comm]

theorem countOf_prune (sender : String) : (gate.prune nowMs).countOf sender =
    (gate.countOf sender).dropWhile (· ≤ nowMs - livenessWindowMs) := by
  unfold countOf
  cases hnew : (gate.prune nowMs).senderAdmissions.get sender with
  | some admissions =>
    obtain ⟨⟨old, hold, rfl⟩, -⟩ := (get_prune_senderAdmissions).mp hnew
    rw [hold]
    rfl
  | none =>
    cases hold : gate.senderAdmissions.get sender with
    | none => rfl
    | some old =>
      by_contra hne
      have hsome := (get_prune_senderAdmissions).mpr ⟨⟨old, hold, rfl⟩, Ne.symm hne⟩
      rw [hnew] at hsome
      cases hsome

theorem get_prune_replays {key : String} {expiresAtMs : ℤ} :
    (gate.prune nowMs).replays.get key = some expiresAtMs ↔
      gate.replays.get key = some expiresAtMs ∧ nowMs < expiresAtMs := by
  unfold prune
  dsimp only
  rw [HashMap.get_retain_eq_some, decide_eq_true_eq, not_le]

theorem get_prune_grants {key : String} {grant : LivenessGrant} :
    (gate.prune nowMs).grants.get key = some grant ↔
      gate.grants.get key = some grant ∧ nowMs < grant.expiresAtMs := by
  unfold prune
  dsimp only
  rw [HashMap.get_retain_eq_some, decide_eq_true_eq, not_le]

theorem Bounded.prune (h : gate.Bounded) : (gate.prune nowMs).Bounded :=
  { senders := (HashMap.len_retain_le.trans HashMap.len_mapWithKey.le).trans h.senders
    perSender := fun sender admissions hget => by
      obtain ⟨⟨old, hold, rfl⟩, -⟩ := (get_prune_senderAdmissions).mp hget
      exact (List.dropWhile_suffix _).length_le.trans (h.perSender sender old hold)
    all := (List.dropWhile_suffix _).length_le.trans h.all
    replays := HashMap.len_retain_le.trans h.replays
    grants := HashMap.len_retain_le.trans h.grants }

/-! ## Admitting a query -/

/-- A gate that counts what another one counts. -/
structure SameCounts (gate gate' : LivenessGate) : Prop where
  countOf : ∀ sender, gate'.countOf sender = gate.countOf sender
  all : gate'.globalAdmissions = gate.globalAdmissions
  replays : gate'.replays = gate.replays

/-- A gate that keeps what another one keeps. -/
structure Same (gate gate' : LivenessGate) : Prop extends SameCounts gate gate' where
  grants : gate'.grants = gate.grants

theorem same_refl : gate.Same gate :=
  ⟨⟨fun _ => rfl, rfl, rfl⟩, rfl⟩

theorem countSender_some {sender : List ℤ}
    (h : gate.countSender senderInboxId = some (sender, gate')) :
    sender = gate.countOf senderInboxId ∧ gate.Same gate' ∧ (gate.Bounded → gate'.Bounded) ∧
      gate'.senderAdmissions.get senderInboxId = some sender := by
  unfold countSender at h
  cases hget : gate.senderAdmissions.get senderInboxId with
  | some admissions =>
    rw [hget] at h
    obtain ⟨rfl, rfl⟩ := Prod.mk.inj (Option.some.inj h)
    refine ⟨?_, same_refl, id, hget⟩
    unfold countOf
    rw [hget]
    rfl
  | none =>
    rw [hget] at h
    dsimp only at h
    split_ifs at h with hfull
    obtain ⟨rfl, rfl⟩ := Prod.mk.inj (Option.some.inj h)
    have hcount : gate.countOf senderInboxId = [] := by
      unfold countOf
      rw [hget]
      rfl
    refine ⟨hcount.symm, ⟨⟨fun sender => ?_, rfl, rfl⟩, rfl⟩, fun hbounded => ?_,
      HashMap.get_insert⟩
    · by_cases hsender : sender = senderInboxId
      · rw [hsender, hcount]
        unfold countOf
        dsimp only
        rw [HashMap.get_insert]
        rfl
      · unfold countOf
        dsimp only
        rw [HashMap.get_insert_ne hsender]
    · exact
        { senders := by
            rw [HashMap.len_insert_fresh hget]
            exact Nat.lt_of_not_le hfull
          perSender := fun sender admissions hsome => by
            dsimp only at hsome
            rw [HashMap.get_insert_apply] at hsome
            split_ifs at hsome with hsender
            · obtain rfl := Option.some.inj hsome
              exact Nat.zero_le _
            · exact hbounded.perSender sender admissions hsome
          all := hbounded.all
          replays := hbounded.replays
          grants := hbounded.grants }

/-- What an admitted query has passed, and what it leaves. -/
structure Admits (nowMs : ℤ) (senderInboxId : String) (query : LivenessQuery)
    (gate gate' : LivenessGate) : Prop where
  live : nowMs * 1000000 < query.expiresAtNs
  deadline : query.expiresAtNs ≤ (nowMs + livenessWindowMs) * 1000000
  fresh : (gate.prune nowMs).replays.get (key senderInboxId query.requestId) = none
  sender : ((gate.prune nowMs).countOf senderInboxId).length < livenessPerSenderPerWindow
  room : (gate.prune nowMs).globalAdmissions.length < livenessGlobalPerWindow
  countOf : ∀ sender, gate'.countOf sender = (gate.prune nowMs).countOf sender ++
    if senderInboxId = sender then [nowMs] else []
  all : gate'.globalAdmissions = (gate.prune nowMs).globalAdmissions ++ [nowMs]
  replays : gate'.replays = (gate.prune nowMs).replays.insert
    (key senderInboxId query.requestId) (nowMs + livenessWindowMs)
  grants : gate'.grants = (gate.prune nowMs).grants
  bounded : gate.Bounded → gate'.Bounded

/-- A query that is turned away at most drops what has run out. -/
structure TurnsAway (nowMs : ℤ) (gate gate' : LivenessGate) : Prop where
  same : gate.Same gate' ∨ (gate.prune nowMs).Same gate'
  bounded : gate.Bounded → gate'.Bounded

theorem admitQuery_cases (nowMs : ℤ) (senderInboxId : String) (query : LivenessQuery)
    (gate : LivenessGate) : (gate.admitQuery nowMs senderInboxId query = (true,
      (gate.admitQuery nowMs senderInboxId query).2) ∧
      Admits nowMs senderInboxId query gate (gate.admitQuery nowMs senderInboxId query).2) ∨
    (gate.admitQuery nowMs senderInboxId query = (false,
      (gate.admitQuery nowMs senderInboxId query).2) ∧
      TurnsAway nowMs gate (gate.admitQuery nowMs senderInboxId query).2) := by
  unfold admitQuery
  dsimp only
  split_ifs with hclock hdeadline hreplay
  · exact .inr ⟨rfl, .inl same_refl, id⟩
  · exact .inr ⟨rfl, .inl same_refl, id⟩
  · exact .inr ⟨rfl, .inr same_refl, .prune⟩
  cases hcount : (gate.prune nowMs).countSender senderInboxId with
  | none => exact .inr ⟨rfl, .inr same_refl, .prune⟩
  | some counted =>
    obtain ⟨sender, gate'⟩ := counted
    obtain ⟨rfl, hsame, hbounded, hget⟩ := countSender_some hcount
    dsimp only
    split_ifs with hfull
    · exact .inr ⟨rfl, .inr hsame, fun h => hbounded h.prune⟩
    · refine .inl ⟨rfl, ?_⟩
      simp only [not_or, not_le] at hclock hdeadline hfull
      rw [hsame.all, hsame.replays] at hfull
      have hfresh : (gate.prune nowMs).replays.get (key senderInboxId query.requestId) = none := by
        unfold HashMap.contains at hreplay
        rwa [Bool.not_eq_true, Option.isSome_eq_false_iff, Option.isNone_iff_eq_none] at hreplay
      refine
        { live := hdeadline.1
          deadline := ?_
          fresh := hfresh
          sender := hfull.1
          room := hfull.2.1
          countOf := fun sender => ?_
          all := congrArg (· ++ [nowMs]) hsame.all
          replays := congrArg (HashMap.insert · _ _) hsame.replays
          grants := hsame.grants
          bounded := fun h => ?_ }
      · rw [Int.add_mul]
        exact Int.not_lt.mp hdeadline.2
      · by_cases hsender : senderInboxId = sender
        · subst hsender
          rw [if_pos rfl]
          unfold countOf
          dsimp only
          rw [HashMap.get_insert]
          rfl
        · rw [if_neg hsender, List.append_nil, ← hsame.countOf sender]
          unfold countOf
          dsimp only
          rw [HashMap.get_insert_ne (Ne.symm hsender)]
      · have h := hbounded h.prune
        exact
          { senders := by
              dsimp only
              rw [HashMap.len_insert_present hget]
              exact h.senders
            perSender := fun sender admissions hsome => by
              dsimp only at hsome
              rw [HashMap.get_insert_apply] at hsome
              split_ifs at hsome with hsender
              · obtain rfl := Option.some.inj hsome
                rw [List.length_append]
                exact hfull.1
              · exact h.perSender sender admissions hsome
            all := by
              dsimp only
              rw [List.length_append, hsame.all]
              exact hfull.2.1
            replays := by
              dsimp only
              rw [hsame.replays, HashMap.len_insert_fresh hfresh]
              exact hfull.2.2
            grants := h.grants }

/-! ## What is counted -/

/-- The admissions after the cutoff are counted, and a query is kept for a window's length. -/
structure Counted (admissions : List Admission) (cutoff nowMs : ℤ) (gate : LivenessGate) :
    Prop where
  countOf : ∀ sender, gate.countOf sender = (times (bySender sender admissions)).filter (cutoff < ·)
  all : gate.globalAdmissions = (times admissions).filter (cutoff < ·)
  kept : ∀ a ∈ admissions, match gate.replays.get a.key with
    | none => a.atMs + livenessWindowMs ≤ nowMs
    | some expiresAtMs => a.atMs + livenessWindowMs ≤ expiresAtMs

variable {admissions : List Admission} {cutoff : ℤ}

theorem Counted.same (h : gate.Counted admissions cutoff nowMs) (hsame : gate.SameCounts gate') :
    gate'.Counted admissions cutoff nowMs :=
  { countOf := fun sender => (hsame.countOf sender).trans (h.countOf sender)
    all := hsame.all.trans h.all
    kept := fun a ha => hsame.replays ▸ h.kept a ha }

theorem Counted.later (h : gate.Counted admissions cutoff nowMs) {laterMs : ℤ}
    (hlater : nowMs ≤ laterMs) : gate.Counted admissions cutoff laterMs :=
  { countOf := h.countOf
    all := h.all
    kept := fun a ha => by
      have hkept := h.kept a ha
      split at hkept
      · exact hkept.trans hlater
      · exact hkept }

theorem dropWhile_filter {l : List ℤ} {c c' : ℤ} (hsorted : l.Pairwise (· ≤ ·)) (hle : c ≤ c') :
    (l.filter (c < ·)).dropWhile (· ≤ c') = l.filter (c' < ·) := by
  rw [dropWhile_eq_filter (hsorted.filter _), List.filter_filter]
  refine List.filter_congr fun s _ => ?_
  rw [Bool.eq_iff_iff, Bool.and_eq_true, decide_eq_true_eq, decide_eq_true_eq]
  exact ⟨fun h => h.1, fun h => ⟨h, hle.trans_lt h⟩⟩

theorem times_bySender_sorted (hsorted : (times admissions).Pairwise (· ≤ ·)) (sender : String) :
    (times (bySender sender admissions)).Pairwise (· ≤ ·) :=
  hsorted.sublist (List.filter_sublist.map _)

theorem Counted.prune (h : gate.Counted admissions cutoff nowMs)
    (hsorted : (times admissions).Pairwise (· ≤ ·)) (hcutoff : cutoff ≤ nowMs - livenessWindowMs) :
    (gate.prune nowMs).Counted admissions (nowMs - livenessWindowMs) nowMs :=
  { countOf := fun sender => by
      rw [countOf_prune, h.countOf]
      exact dropWhile_filter (times_bySender_sorted hsorted sender) hcutoff
    all := by
      change gate.globalAdmissions.dropWhile _ = _
      rw [h.all]
      exact dropWhile_filter hsorted hcutoff
    kept := fun a ha => by
      have hkept := h.kept a ha
      cases hget : gate.replays.get a.key with
      | none =>
        rw [hget] at hkept
        cases hnew : (gate.prune nowMs).replays.get a.key with
        | none => exact hkept
        | some expiresAtMs =>
          rw [((get_prune_replays).mp hnew).1] at hget
          cases hget
      | some expiresAtMs =>
        rw [hget] at hkept
        cases hnew : (gate.prune nowMs).replays.get a.key with
        | none =>
          refine hkept.trans (not_lt.mp fun hlt => ?_)
          rw [(get_prune_replays).mpr ⟨hget, hlt⟩] at hnew
          cases hnew
        | some expiresAtMs' =>
          rw [((get_prune_replays).mp hnew).1] at hget
          exact Option.some.inj hget ▸ hkept }

/-- The gate that admits a query counts it. -/
theorem Counted.admit (h : (gate.prune nowMs).Counted admissions (nowMs - livenessWindowMs) nowMs)
    (hadmits : Admits nowMs senderInboxId query gate gate') :
    gate'.Counted (admissions ++
      [{ senderInboxId := senderInboxId
         requestId := query.requestId
         expiresAtNs := query.expiresAtNs
         atMs := nowMs }]) (nowMs - livenessWindowMs) nowMs := by
  have hnow : nowMs - livenessWindowMs < nowMs := by
    unfold livenessWindowMs
    omega
  have hlast : [nowMs].filter (nowMs - livenessWindowMs < ·) = [nowMs] :=
    List.filter_eq_self.mpr fun t ht => decide_eq_true (List.mem_singleton.mp ht ▸ hnow)
  refine
    { countOf := fun sender => ?_
      all := ?_
      kept := fun a ha => ?_ }
  · rw [hadmits.countOf, h.countOf, bySender_append]
    unfold times
    rw [List.map_append, List.filter_append]
    split_ifs with hsender
    · rw [List.map_singleton, hlast]
    · rfl
  · rw [hadmits.all, h.all]
    unfold times
    rw [List.map_append, List.filter_append, List.map_singleton, hlast]
  · rw [hadmits.replays, HashMap.get_insert_apply]
    rcases List.mem_append.mp ha with ha | ha
    · have hkept := h.kept a ha
      split_ifs with hkey
      · rw [hkey, hadmits.fresh] at hkept
        have : (0 : ℤ) ≤ livenessWindowMs := by decide
        dsimp only at hkept ⊢
        omega
      · exact hkept
    · obtain rfl := List.mem_singleton.mp ha
      unfold Admission.key
      rw [if_pos rfl]

/-- A counted list whose window has room takes one more. -/
theorem windowBounded_concat {l : List ℤ} {limit : ℕ}
    (h : WindowBounded livenessWindowMs limit l) (hle : ∀ t ∈ l, t ≤ nowMs)
    (hroom : (l.filter (nowMs - livenessWindowMs < ·)).length < limit) :
    WindowBounded livenessWindowMs limit (l ++ [nowMs]) := by
  refine h.append hle ?_
  rw [windowCount, List.countP_eq_length_filter]
  convert hroom using 2
  refine List.filter_congr fun s hs => ?_
  rw [Bool.eq_iff_iff, decide_eq_true_eq, decide_eq_true_eq]
  exact ⟨fun h => h.1, fun h => ⟨h, hle s hs⟩⟩

end LivenessGate

end Cthuwu.ChatControl
