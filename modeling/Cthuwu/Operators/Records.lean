import Cthuwu.Lib.Decimal
import Cthuwu.Lib.Maps
import Cthuwu.Operators.Store

/-!
# Records that may be stored

A normal inbox is its own normal form, and so are the trimmed label and the time that an
authorization writes. `validateRecords_ok` says which records a file may hold, and every change of
the store keeps them so (`Valid.authorize`, `Valid.revokeActive`, `Valid.modify_revoke`,
`Valid.retainOnly`).
-/

namespace Cthuwu.Operators

open Council

/-! ## Texts -/

variable {value normalized : String} {records records' : List OperatorRecord} {r : OperatorRecord}
  {f : OperatorRecord → OperatorRecord}

theorem normalizeInboxId_ok :
    normalizeInboxId value = .ok normalized ↔ trimLower value = normalized ∧ normalized ≠ "" ∧
      normalized.utf8ByteSize ≤ 128 ∧ normalized.toList.all isAsciiHexDigit = true := by
  unfold normalizeInboxId
  dsimp only
  rw [except_check_ok, failIf_ok, except_pure_ok, not_or, not_or, not_not, not_lt]
  constructor
  · rintro ⟨⟨hne, hsize, hhex⟩, rfl⟩
    exact ⟨rfl, hne, hsize, hhex⟩
  · rintro ⟨rfl, hne, hsize, hhex⟩
    exact ⟨⟨hne, hsize, hhex⟩, rfl⟩

theorem normalizeOperatorInboxId_ok : normalizeOperatorInboxId value = .ok normalized ↔
      normalizeInboxId value = .ok normalized ∧ normalized.utf8ByteSize = 64 := by
  unfold normalizeOperatorInboxId
  simp only [except_bind_ok, exists_unit, failIf_ok, not_ne_iff, except_pure_ok]
  constructor
  · rintro ⟨v, hv, hsize, rfl⟩
    exact ⟨hv, hsize⟩
  · rintro ⟨hv, hsize⟩
    exact ⟨normalized, hv, hsize, rfl⟩

theorem not_isWhiteSpace_of_isAsciiHexDigit {c : Char} (h : isAsciiHexDigit c = true) :
    isWhiteSpace c = false := by
  have hrange : 48 ≤ c.toNat ∧ c.toNat ≤ 102 := by
    unfold isAsciiHexDigit at h
    simp only [Char.isDigit, Bool.or_eq_true, Bool.and_eq_true, decide_eq_true_eq, ge_iff_le,
      UInt32.le_iff_toNat_le, Char.le_def, Char.reduceVal, UInt32.reduceToNat] at h
    unfold Char.toNat
    omega
  unfold isWhiteSpace
  simp only [Bool.or_eq_false_iff, decide_eq_false_iff_not, Bool.and_eq_false_iff]
  omega

/-- What was trimmed and lowered stays as it is, if it holds no white space. -/
theorem trimLower_self (h : trimLower value = normalized)
    (hspaces : ∀ c ∈ normalized.toList, isWhiteSpace c = false) :
    trimLower normalized = normalized := by
  have hlower : normalized.toList.map Char.toLower = normalized.toList := by
    rw [← h]
    unfold trimLower
    rw [String.toList_ofList, map_toLower_map_toLower]
  unfold trimLower
  rw [trimBy_eq_self hspaces, hlower, String.ofList_toList]

theorem normalizeInboxId_self (h : normalizeInboxId value = .ok normalized) :
    normalizeInboxId normalized = .ok normalized := by
  obtain ⟨htrim, hne, hle, hhex⟩ := (normalizeInboxId_ok).mp h
  exact (normalizeInboxId_ok).mpr ⟨trimLower_self htrim fun c hc =>
    not_isWhiteSpace_of_isAsciiHexDigit (List.all_eq_true.mp hhex c hc), hne, hle, hhex⟩

theorem normalizeOperatorInboxId_self (h : normalizeOperatorInboxId value = .ok normalized) :
    normalizeOperatorInboxId normalized = .ok normalized := by
  obtain ⟨hinbox, hsize⟩ := (normalizeOperatorInboxId_ok).mp h
  exact (normalizeOperatorInboxId_ok).mpr ⟨normalizeInboxId_self hinbox, hsize⟩

theorem validateLabel_self {label : String} (h : validateLabel value = .ok label) :
    validateLabel label = .ok label := by
  unfold validateLabel at h ⊢
  dsimp only at h ⊢
  rw [except_check_ok, except_pure_ok] at h
  obtain ⟨hchecks, rfl⟩ := h
  rw [String.toList_ofList, trimBy_trimBy]
  exact except_check_ok.mpr ⟨hchecks, rfl⟩

theorem parseSentAtNs_ok {n : ℕ} :
    parseSentAtNs value = .ok n ↔ (value ≠ "" ∧ value.utf8ByteSize ≤ 32 ∧
      value.toList.all Char.isDigit = true) ∧ n < 2 ^ 128 ∧
      Nat.ofDigitChars 10 value.toList 0 = n := by
  unfold parseSentAtNs
  dsimp only
  rw [except_check_ok, except_check_ok, failIf_ok, failIf_ok, except_pure_ok, not_or, not_or,
    not_not, not_lt, not_le]
  constructor
  · rintro ⟨hshape, hsmall, rfl⟩
    exact ⟨hshape, hsmall, rfl⟩
  · rintro ⟨hshape, hsmall, rfl⟩
    exact ⟨hshape, hsmall, rfl⟩

/-- A time that is short enough is read as it is written. -/
theorem parseSentAtNs_repr {n : ℕ} (h : n < 10 ^ 32) : parseSentAtNs n.repr = .ok n := by
  have hdigits : n.repr.toList = Nat.toDigits 10 n := Nat.toList_repr
  refine (parseSentAtNs_ok).mpr ⟨⟨?_, utf8ByteSize_repr_le (by omega) h, ?_⟩, ?_, ?_⟩
  · intro hempty
    have hnil := congrArg String.toList hempty
    rw [hdigits] at hnil
    exact absurd hnil Nat.toDigits_ne_nil
  · rw [hdigits, List.all_eq_true]
    exact fun c hc => Nat.isDigit_of_mem_toDigits (by omega) (by omega) hc
  · exact h.trans (by decide)
  · rw [hdigits, Nat.ofDigitChars_ten_toDigits]

theorem parseSentAtNs_lt {n : ℕ} (h : parseSentAtNs value = .ok n) : n < 10 ^ 32 := by
  obtain ⟨⟨-, hsize, hdigits⟩, -, rfl⟩ := (parseSentAtNs_ok).mp h
  have hall := List.all_eq_true.mp hdigits
  refine (ofDigitChars_lt hall).trans_le (Nat.pow_le_pow_right (by omega) ?_)
  refine le_trans ?_ hsize
  rw [utf8ByteSize_eq_sum, ← List.length_map Char.utf8Size]
  refine List.length_le_sum_of_one_le _ fun n hn => ?_
  obtain ⟨c, -, rfl⟩ := List.mem_map.mp hn
  exact Char.utf8Size_pos c

/-! ## Records -/

/-- A record that a file may hold. -/
structure ValidRecord (r : OperatorRecord) : Prop where
  canonical : normalizeOperatorInboxId r.inboxId = .ok r.inboxId
  label : ∃ label, validateLabel r.label = .ok label
  generation : r.generation ≠ 0
  notPending : r.status ≠ .pending
  noToken : r.activationTokenHash = none
  boundary : validateBoundary r = .ok ()

/-- Records that a file may hold. -/
structure Valid (records : List OperatorRecord) : Prop where
  length : records.length ≤ maxOperators
  each : ∀ r ∈ records, ValidRecord r
  nodup : (records.map (·.inboxId)).Nodup

theorem validateCommonRecord_ok {seen seen' : List String} :
    validateCommonRecord seen r = .ok seen' ↔ ((normalizeOperatorInboxId r.inboxId = .ok r.inboxId ∧
        (∃ label, validateLabel r.label = .ok label) ∧ r.generation ≠ 0) ∧ r.inboxId ∉ seen) ∧
        seen' = r.inboxId :: seen := by
  unfold validateCommonRecord
  simp only [except_bind_ok, exists_unit, failIf_ok, except_pure_ok, not_or, not_ne_iff]
  constructor
  · rintro ⟨normalized, hcanonical, ⟨rfl, hfresh⟩, label, hlabel, hgeneration, rfl⟩
    exact ⟨⟨⟨hcanonical, ⟨label, hlabel⟩, hgeneration⟩, hfresh⟩, rfl⟩
  · rintro ⟨⟨⟨hcanonical, ⟨label, hlabel⟩, hgeneration⟩, hfresh⟩, rfl⟩
    exact ⟨_, hcanonical, ⟨rfl, hfresh⟩, label, hlabel, hgeneration, rfl⟩

theorem validateCommonRecords_ok :
    validateCommonRecords records = .ok () ↔ records.length ≤ maxOperators ∧
      (∀ r ∈ records, normalizeOperatorInboxId r.inboxId = .ok r.inboxId ∧
        (∃ label, validateLabel r.label = .ok label) ∧ r.generation ≠ 0) ∧
      (records.map (·.inboxId)).Nodup := by
  unfold validateCommonRecords
  rw [except_check_ok, failIf_ok, not_lt, except_bind_ok]
  refine and_congr_right' ?_
  have hloop : ∀ seen, records.foldlM validateCommonRecord [] = .ok seen ↔
      (∀ r ∈ records, (normalizeOperatorInboxId r.inboxId = .ok r.inboxId ∧
        (∃ label, validateLabel r.label = .ok label) ∧ r.generation ≠ 0) ∧ r.inboxId ∉ []) ∧
      records.Pairwise (fun r r' => r.inboxId ≠ r'.inboxId) ∧
      seen = records.foldl (fun seen r => r.inboxId :: seen) [] := fun seen =>
    foldlM_apart (fun seen (r : OperatorRecord) => r.inboxId :: seen)
      (fun r => normalizeOperatorInboxId r.inboxId = .ok r.inboxId ∧
        (∃ label, validateLabel r.label = .ok label) ∧ r.generation ≠ 0)
      (fun seen r => r.inboxId ∉ seen) (fun r r' => r.inboxId ≠ r'.inboxId)
      (fun _ _ _ => validateCommonRecord_ok)
      (fun seen r r' => by rw [List.mem_cons, not_or, and_comm, ne_comm])
  simp only [hloop, except_pure_ok, and_true]
  rw [List.nodup_iff_pairwise_ne, List.pairwise_map]
  constructor
  · rintro ⟨-, hall, hpairwise, -⟩
    exact ⟨fun r hr => (hall r hr).1, hpairwise⟩
  · rintro ⟨hall, hpairwise⟩
    exact ⟨_, fun r hr => ⟨hall r hr, List.not_mem_nil⟩, hpairwise, rfl⟩

theorem validateRecord_ok : validateRecord r = .ok () ↔
    r.status ≠ .pending ∧ r.activationTokenHash = none ∧ validateBoundary r = .ok () := by
  unfold validateRecord
  rw [except_check_ok, except_check_ok, failIf_ok, failIf_ok]
  simp

/-- What `validateRecords` accepts, and returns as it is. -/
theorem validateRecords_ok :
    validateRecords records = .ok records' ↔ Valid records ∧ records' = records := by
  unfold validateRecords
  rw [except_check_ok, except_check_ok, except_pure_ok, validateCommonRecords_ok, forM_ok]
  constructor
  · rintro ⟨⟨hlength, hcommon, hnodup⟩, hrecords, rfl⟩
    refine ⟨⟨hlength, fun r hr => ?_, hnodup⟩, rfl⟩
    obtain ⟨hcanonical, hlabel, hgeneration⟩ := hcommon r hr
    obtain ⟨hpending, htoken, hboundary⟩ := (validateRecord_ok).mp (hrecords r hr)
    exact ⟨hcanonical, hlabel, hgeneration, hpending, htoken, hboundary⟩
  · rintro ⟨h, rfl⟩
    exact ⟨⟨h.length, fun r hr => ⟨(h.each r hr).canonical, (h.each r hr).label,
      (h.each r hr).generation⟩, h.nodup⟩, fun r hr => (validateRecord_ok).mpr
      ⟨(h.each r hr).notPending, (h.each r hr).noToken, (h.each r hr).boundary⟩, rfl⟩

theorem revoked_ne_pending : OperatorStatus.revoked ≠ .pending := nofun

theorem revoked_ne_active : OperatorStatus.revoked ≠ .active := nofun

theorem active_ne_pending : OperatorStatus.active ≠ .pending := nofun

/-- Two valid records of one inbox are the same record. -/
theorem Valid.unique (h : Valid records) {r' : OperatorRecord} (hr : r ∈ records)
    (hr' : r' ∈ records) (hinbox : r.inboxId = r'.inboxId) : r = r' :=
  List.inj_on_of_nodup_map h.nodup hr hr' hinbox

theorem Valid.perm (h : Valid records) (hperm : records.Perm records') : Valid records' :=
  { length := hperm.length_eq ▸ h.length
    each := fun r hr => h.each r (hperm.mem_iff.mpr hr)
    nodup := (hperm.map _).nodup_iff.mp h.nodup }

theorem valid_nil : Valid [] :=
  ⟨Nat.zero_le _, fun _ hr => absurd hr List.not_mem_nil, List.nodup_nil⟩

/-- Changes that keep the inboxes and the validity of single records keep them all. -/
theorem Valid.map (h : Valid records) (hinbox : ∀ r, (f r).inboxId = r.inboxId)
    (hf : ∀ r ∈ records, ValidRecord (f r)) : Valid (records.map f) :=
  { length := by rw [List.length_map]; exact h.length
    each := fun r hr => by
      obtain ⟨r, hmem, rfl⟩ := List.mem_map.mp hr
      exact hf r hmem
    nodup := by
      rw [List.map_map]
      have hsame : (fun r => r.inboxId) ∘ f = OperatorRecord.inboxId := funext hinbox
      rw [hsame]
      exact h.nodup }

theorem validateBoundary_revoked (h : validateBoundary r = .ok ()) {r' : OperatorRecord}
    (hstatus : r'.status ≠ .active) (hsame : r'.authorizedAfterSentAtNs = r.authorizedAfterSentAtNs)
    : validateBoundary r' = .ok () := by
  unfold validateBoundary at h ⊢
  rw [if_neg hstatus, hsame]
  split_ifs at h with hactive
  · simp only [except_bind_ok, okOr_ok] at h
    obtain ⟨-, -, boundary, hboundary, n, hn, -⟩ := h
    rw [hboundary]
    exact except_bind_ok.mpr ⟨n, hn, rfl⟩
  · exact h

theorem ValidRecord.revoke (h : ValidRecord r) (now : ℕ) : ValidRecord (r.revoke now) :=
  { canonical := h.canonical
    label := h.label
    generation := h.generation
    notPending := revoked_ne_pending
    noToken := rfl
    boundary := validateBoundary_revoked h.boundary revoked_ne_active rfl }

theorem Valid.revokeActive (h : Valid records) (now : ℕ) : Valid (revokeActive records now) := by
  refine h.map (fun r => ?_) fun r hr => ?_
  · split_ifs <;> rfl
  · have hr := h.each r hr
    split_ifs with hactive
    · exact
        { canonical := hr.canonical
          label := hr.label
          generation := hr.generation
          notPending := revoked_ne_pending
          noToken := hr.noToken
          boundary := validateBoundary_revoked hr.boundary revoked_ne_active rfl }
    · exact hr

theorem Valid.retainOnly (h : Valid records) (inboxId : String) (now : ℕ) :
    Valid (retainOnly records inboxId now) := by
  refine h.map (fun r => ?_) fun r hr => ?_
  · split_ifs <;> rfl
  · split_ifs with hactive
    · exact (h.each r hr).revoke now
    · exact h.each r hr

theorem Valid.modify (h : Valid records) {index : ℕ} (hr : records[index]? = some r)
    (hinbox : ∀ r, (f r).inboxId = r.inboxId) (hf : ValidRecord (f r)) :
    Valid (records.modify index f) :=
  { length := by rw [List.length_modify]; exact h.length
    each := fun r' hr' => by
      rcases mem_modify hr hr' with hr' | rfl
      · exact h.each r' hr'
      · exact hf
    nodup := by
      rw [map_modify hinbox]
      exact h.nodup }

/-- At most one inbox is active. -/
def SoleActive (records : List OperatorRecord) : Prop :=
  ∀ r ∈ records, ∀ r' ∈ records, r.status = .active → r'.status = .active → r.inboxId = r'.inboxId

theorem hasActiveConflict_eq_false (h : Valid records) :
    hasActiveConflict records = false ↔ SoleActive records := by
  unfold hasActiveConflict SoleActive
  rw [decide_eq_false_iff_not, not_lt]
  constructor
  · intro hlength r hr r' hr' hactive hactive'
    have hmem : r ∈ records.filter fun r => r.status = .active :=
      List.mem_filter.mpr ⟨hr, decide_eq_true hactive⟩
    have hmem' : r' ∈ records.filter fun r => r.status = .active :=
      List.mem_filter.mpr ⟨hr', decide_eq_true hactive'⟩
    match hfilter : records.filter fun r => r.status = .active with
    | [] =>
      rw [hfilter] at hmem
      exact absurd hmem List.not_mem_nil
    | [a] =>
      rw [hfilter, List.mem_singleton] at hmem hmem'
      rw [hmem, hmem']
    | a :: b :: rest =>
      rw [hfilter] at hlength
      exact absurd hlength (by simp)
  · intro hsole
    match hfilter : records.filter fun r => r.status = .active with
    | [] =>
      rw [hfilter]
      exact Nat.zero_le _
    | [a] =>
      rw [hfilter]
      exact le_rfl
    | a :: b :: rest =>
      have hnodup := (List.filter_sublist (p := fun r : OperatorRecord => r.status = .active)
        (l := records)).map OperatorRecord.inboxId |>.nodup h.nodup
      have hof : ∀ r ∈ a :: b :: rest, r ∈ records ∧ r.status = .active := fun r hr => by
        rw [← hfilter] at hr
        exact ⟨List.mem_of_mem_filter hr, of_decide_eq_true (List.mem_filter.mp hr).2⟩
      have ha := hof a (by simp)
      have hb := hof b (by simp)
      rw [hfilter, List.map_cons, List.map_cons, List.nodup_cons] at hnodup
      exact absurd (hsole a ha.1 b hb.1 ha.2 hb.2) fun heq => hnodup.1 (by rw [heq]; simp)

/-! ## Authorization -/

/-- What an authorization makes of the records. -/
structure Authorizes (records : List OperatorRecord) (boundary : ℕ)
    (records' : List OperatorRecord) (authorized : AuthorizedOperator) : Prop where
  valid : Valid records'
  time : parseSentAtNs boundary.repr = .ok boundary
  sole : ∀ r ∈ records', r.status = .active → r.inboxId = authorized.inboxId
  current : ∃ r ∈ records', r.inboxId = authorized.inboxId ∧ r.status = .active ∧
    r.generation = authorized.generation ∧ r.authorizedAfterSentAtNs = some boundary.repr
  keeps : ∀ r ∈ records, ∃ r' ∈ records', r'.inboxId = r.inboxId ∧ r.generation ≤ r'.generation
  later : ∀ r ∈ records, r.inboxId = authorized.inboxId → r.generation < authorized.generation

theorem validateBoundary_authorized {boundary now : ℕ} (hstatus : r.status = .active)
    (hnow : r.authorizedAtUnix = some now)
    (hboundary : r.authorizedAfterSentAtNs = some boundary.repr) (hsmall : boundary < 10 ^ 32) :
    validateBoundary r = .ok () := by
  unfold validateBoundary
  rw [if_pos hstatus, hnow, hboundary]
  exact except_bind_ok.mpr ⟨now, rfl, except_bind_ok.mpr ⟨boundary.repr, rfl,
    except_bind_ok.mpr ⟨boundary, parseSentAtNs_repr hsmall, rfl⟩⟩⟩

theorem sortRecords_perm (records : List OperatorRecord) : (sortRecords records).Perm records :=
  List.mergeSort_perm _ _

theorem authorize_ok {inboxId label sentAtNs : String} {now : ℕ} {authorized : AuthorizedOperator}
    (h : Valid records)
    (hok : authorize records inboxId label sentAtNs now = .ok (records', authorized)) :
    ∃ boundary, parseSentAtNs sentAtNs = .ok boundary ∧
      normalizeOperatorInboxId inboxId = .ok authorized.inboxId ∧
      Authorizes records boundary records' authorized := by
  unfold authorize at hok
  simp only [except_bind_ok, exists_unit, failIf_ok, not_exists, not_and, not_ne_iff] at hok
  obtain ⟨normal, hnormal, label', hlabel, boundary, hboundary, hsole, hok⟩ := hok
  have hsmall := parseSentAtNs_lt hboundary
  cases hposition : position (fun operator : OperatorRecord => operator.inboxId = normal)
      records with
  | some found =>
    obtain ⟨index, existing⟩ := found
    rw [hposition] at hok
    simp only [except_check_ok, except_pure_ok, failIf_ok] at hok
    obtain ⟨-, hok⟩ := hok
    obtain ⟨rfl, rfl⟩ := Prod.mk.inj hok
    obtain ⟨hget, hinbox⟩ := position_eq_some hposition
    have hinbox : existing.inboxId = normal := of_decide_eq_true hinbox
    have hmem : existing ∈ records := List.mem_of_getElem? hget
    have hperm := sortRecords_perm (records.modify index (·.authorize label' boundary now))
    have hrecord : ValidRecord (existing.authorize label' boundary now) :=
      { canonical := (h.each existing hmem).canonical
        label := ⟨label', validateLabel_self hlabel⟩
        generation := Nat.succ_ne_zero _
        notPending := active_ne_pending
        noToken := rfl
        boundary := validateBoundary_authorized rfl rfl rfl hsmall }
    refine ⟨boundary, hboundary, hnormal,
      { valid := (h.modify hget (fun _ => rfl) (f := (·.authorize label' boundary now))
          hrecord).perm hperm.symm
        time := parseSentAtNs_repr hsmall
        sole := fun r hr hactive => ?_
        current := ⟨_, hperm.mem_iff.mpr (changed_mem_modify hget), hinbox, rfl, rfl, rfl⟩
        keeps := fun r hr => ?_
        later := fun r hr hsame => ?_ }⟩
    · rcases mem_modify hget (hperm.mem_iff.mp hr) with hr | rfl
      · exact hsole r hr hactive
      · exact hinbox
    · rcases modify_of_mem hget hr with hr | ⟨rfl, hr⟩
      · exact ⟨r, hperm.mem_iff.mpr hr, rfl, le_rfl⟩
      · exact ⟨_, hperm.mem_iff.mpr hr, rfl, Nat.le_succ _⟩
    · rw [h.unique hr hmem (hsame.trans hinbox.symm)]
      exact Nat.lt_succ_self _
  | none =>
    rw [hposition] at hok
    simp only [except_check_ok, except_pure_ok, failIf_ok, not_le] at hok
    obtain ⟨hroom, hok⟩ := hok
    obtain ⟨rfl, rfl⟩ := Prod.mk.inj hok
    have hnew : ∀ r ∈ records, r.inboxId ≠ normal := fun r hr =>
      of_decide_eq_false (position_eq_none hposition r hr)
    have hperm := sortRecords_perm (records ++
      [{ inboxId := normal
         label := label'
         status := .active
         generation := 1
         activationTokenHash := none
         addedAtUnix := now
         authorizedAtUnix := some now
         authorizedAfterSentAtNs := some boundary.repr
         revokedAtUnix := none }])
    refine ⟨boundary, hboundary, hnormal,
      { valid := Valid.perm ⟨?_, fun r hr => ?_, ?_⟩ hperm.symm
        time := parseSentAtNs_repr hsmall
        sole := fun r hr hactive => ?_
        current := ⟨_, hperm.mem_iff.mpr (List.mem_append_right _ List.mem_cons_self), rfl,
          rfl, rfl, rfl⟩
        keeps := fun r hr => ⟨r, hperm.mem_iff.mpr (List.mem_append_left _ hr), rfl, le_rfl⟩
        later := fun r hr hsame => absurd hsame (hnew r hr) }⟩
    · rw [List.length_append, List.length_singleton]
      exact hroom
    · rcases List.mem_append.mp hr with hr | hr
      · exact h.each r hr
      · rw [List.mem_singleton.mp hr]
        exact
          { canonical := normalizeOperatorInboxId_self hnormal
            label := ⟨label', validateLabel_self hlabel⟩
            generation := Nat.one_ne_zero
            notPending := active_ne_pending
            noToken := rfl
            boundary := validateBoundary_authorized rfl rfl rfl hsmall }
    · rw [List.map_append, List.map_singleton, List.nodup_append]
      refine ⟨h.nodup, List.nodup_singleton _, ?_⟩
      rintro a ha b hb rfl
      obtain ⟨r, hr, rfl⟩ := List.mem_map.mp ha
      exact hnew r hr (List.mem_singleton.mp hb)
    · rcases List.mem_append.mp (hperm.mem_iff.mp hr) with hr | hr
      · exact hsole r hr hactive
      · rw [List.mem_singleton.mp hr]

end Cthuwu.Operators
