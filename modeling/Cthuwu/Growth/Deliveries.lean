import Cthuwu.Growth.Records

/-!
# Deliveries that can be saved

The text of a delivery is made of an amount, a few addresses and the link of the referrer, so that
it always fits in a record. What the gateway answers is checked before it is kept
(`validateResult_ok`).
-/

namespace Cthuwu.Growth

open Council TokenEye

/-! ## Sizes -/

theorem shortAddress_size (address : Address) : (shortAddress address).utf8ByteSize ≤ 45 := by
  have htake : (String.ofList ((addressDigits address).take 6)).utf8ByteSize ≤ 6 := by
    rw [utf8ByteSize_ofList fun c hc =>
      utf8Size_of_mem_addressDigits (List.mem_of_mem_take hc)]
    exact List.length_take_le 6 _
  have hdrop : (String.ofList ((addressDigits address).drop 34)).utf8ByteSize ≤ 6 := by
    rw [utf8ByteSize_ofList fun c hc =>
      utf8Size_of_mem_addressDigits (List.mem_of_mem_drop hc), List.length_drop,
      length_addressDigits]
  have hstart : addressStart.utf8ByteSize = 2 := by decide
  have hdots : "…".utf8ByteSize = 3 := by decide
  simp only [shortAddress, String.utf8ByteSize_append]
  omega

/-- The decimals of an amount take little more than its digits. -/
theorem formatUwuBaseUnits_size {value : String} (h : value.toList.all Char.isDigit = true) :
    (formatUwuBaseUnits value).utf8ByteSize ≤ value.toList.length + 20 := by
  have hone : ∀ c : Char, c.isDigit = true → c.utf8Size = 1 := by
    intro c hc
    simp only [Char.isDigit, Bool.and_eq_true, decide_eq_true_eq, ge_iff_le,
      UInt32.le_iff_toNat_le] at hc
    unfold Char.utf8Size
    rw [if_pos]
    rw [UInt32.le_iff_toNat_le]
    exact hc.2.trans (by decide)
  have hdigit : ∀ c ∈ value.toList, c.utf8Size = 1 := fun c hc =>
    hone c (List.all_eq_true.mp h c hc)
  have htrim : ∀ l : List Char, (trimEndZeros l).Sublist l := fun l =>
    (List.rdropWhile_prefix _ l).sublist
  unfold formatUwuBaseUnits
  dsimp only
  split_ifs with hlong
  · have hfront : ∀ c ∈ value.toList.take (value.toList.length - 18), c.utf8Size = 1 :=
      fun c hc => hdigit c (List.mem_of_mem_take hc)
    have hback := htrim (value.toList.drop (value.toList.length - 18))
    split
    · rw [utf8ByteSize_ofList hfront]
      exact (List.length_take_le' _ _).trans (by omega)
    · rename_i hne
      rw [utf8ByteSize_ofList, List.length_append, List.length_cons]
      · have hlength := hback.length_le
        rw [List.length_drop] at hlength
        have htake := List.length_take_le (value.toList.length - 18) value.toList
        omega
      · intro c hc
        rcases List.mem_append.mp hc with hc | hc
        · exact hfront c hc
        · rcases List.mem_cons.mp hc with rfl | hc
          · decide
          · exact hdigit c (List.mem_of_mem_drop (hback.subset hc))
  · have hback := htrim (List.replicate (18 - value.toList.length) '0' ++ value.toList)
    split
    · exact le_trans (by decide : ("0" : String).utf8ByteSize ≤ 20) (Nat.le_add_left _ _)
    · rename_i hne
      rw [utf8ByteSize_ofList, List.length_cons, List.length_cons]
      · have hlength := hback.length_le
        rw [List.length_append, List.length_replicate] at hlength
        omega
      · intro c hc
        rcases List.mem_cons.mp hc with rfl | hc
        · decide
        rcases List.mem_cons.mp hc with rfl | hc
        · decide
        · rcases List.mem_append.mp (hback.subset hc) with hc | hc
          · rw [(List.mem_replicate.mp hc).2]
            decide
          · exact hdigit c hc

theorem validateDecimal_digits {value label : String} {positive : Bool}
    (h : validateDecimal value label positive = .ok ()) :
    value.toList.all Char.isDigit = true ∧ value.toList.length ≤ 78 := by
  simp only [validateDecimal, except_check_ok, failIf_ok, not_not] at h
  refine ⟨h.1.2.2.1, le_trans ?_ h.1.2.1⟩
  rw [utf8ByteSize_eq_sum]
  have hpos : ∀ l : List Char, l.length ≤ (l.map Char.utf8Size).sum := by
    intro l
    induction l with
    | nil => exact le_rfl
    | cons c l ih =>
      rw [List.map_cons, List.sum_cons, List.length_cons]
      have := c.utf8Size_pos
      omega
  exact hpos _

section Deliveries

variable {policy : Policy}

theorem referralUrl_size (referrer : Address) :
    (policy.referralUrl referrer).utf8ByteSize ≤ maxOriginBytes + 100 := by
  have hlabels : "/#t=".utf8ByteSize = 4 ∧ "&r=".utf8ByteSize = 3 := by decide
  have horigin := policy.origin_short
  simp only [Policy.referralUrl, String.utf8ByteSize_append, addressText_size, hlabels]
  omega

theorem confirmedText_size {amount : String} {acolyte referrer : Address}
    (h : validateDecimal amount "persisted reward" true = .ok ()) :
    confirmedText policy amount acolyte referrer ≠ "" ∧
      (confirmedText policy amount acolyte referrer).utf8ByteSize ≤ maxDeliveryBytes := by
  obtain ⟨hdigits, hlength⟩ := validateDecimal_digits h
  have hformat := formatUwuBaseUnits_size hdigits
  have hamount := validateDecimal_size h
  have hacolyte := shortAddress_size acolyte
  have hurl := @referralUrl_size policy referrer
  have hparts : "ur one-time ".utf8ByteSize = 12 ∧
      " UWU referral bounty is confirmed because acolyte ".utf8ByteSize = 50 ∧
      (" completed canonical onboarding, fwiend! thank u for growing the network. share ur invite ":
        String).utf8ByteSize = 90 ∧
      "again when it feels natural: ".utf8ByteSize = 29 ∧
      "\n[[cthuwu:referral-reward:v1;status=confirmed;amount=".utf8ByteSize = 53 ∧
      "]]".utf8ByteSize = 2 := by
    decide
  obtain ⟨h₁, h₂, h₃, h₄, h₅, h₆⟩ := hparts
  have hsize : (confirmedText policy amount acolyte referrer).utf8ByteSize =
      12 + (formatUwuBaseUnits amount).utf8ByteSize + 50 + (shortAddress acolyte).utf8ByteSize +
        90 + 29 + (policy.referralUrl referrer).utf8ByteSize + 53 + amount.utf8ByteSize + 2 := by
    unfold confirmedText
    generalize formatUwuBaseUnits amount = formatted
    generalize shortAddress acolyte = short
    generalize policy.referralUrl referrer = url
    simp only [String.utf8ByteSize_append, h₁, h₂, h₃, h₄, h₅, h₆]
  refine ⟨fun heq => ?_, ?_⟩
  · rw [heq, String.utf8ByteSize_empty] at hsize
    exact absurd hsize (by simp)
  · rw [hsize]
    generalize (formatUwuBaseUnits amount).utf8ByteSize = size at hformat ⊢
    generalize (shortAddress acolyte).utf8ByteSize = size' at hacolyte ⊢
    generalize (policy.referralUrl referrer).utf8ByteSize = size'' at hurl ⊢
    simp only [maxDeliveryBytes, maxOriginBytes] at hurl ⊢
    omega

theorem fundingText_size {result : ReferralBountyResult} {acolyte referrer : Address}
    (huwu : result.uwuShortfallBaseUnits.utf8ByteSize ≤ 78)
    (heth : result.ethShortfallWei.utf8ByteSize ≤ 78) :
    fundingText policy result acolyte referrer ≠ "" ∧
      (fundingText policy result acolyte referrer).utf8ByteSize ≤ maxDeliveryBytes := by
  have hacolyte := shortAddress_size acolyte
  have hreferrer := shortAddress_size referrer
  have hparts : "REFERRAL BOUNTY FUNDING REQUIRED. FUND TENTACLE WALLET ".utf8ByteSize = 55 ∧
      " WITH EXACTLY ".utf8ByteSize = 14 ∧ " MORE UWU BASE UNITS AT CANONICAL ".utf8ByteSize = 34 ∧
      defaultUwuTokenContract.utf8ByteSize = 42 ∧ " AND AT LEAST ".utf8ByteSize = 14 ∧
      " MORE BASE ETH WEI. THE DURABLE BOUNTY FOR ACOLYTE ".utf8ByteSize = 51 ∧
      " -> REFERRER ".utf8ByteSize = 13 ∧
      " REMAINS PENDING AND WILL RESUME AUTOMATICALLY, UWU.".utf8ByteSize = 52 := by
    decide
  obtain ⟨h₁, h₂, h₃, h₄, h₅, h₆, h₇, h₈⟩ := hparts
  have hsize : (fundingText policy result acolyte referrer).utf8ByteSize =
      55 + 42 + 14 + result.uwuShortfallBaseUnits.utf8ByteSize + 34 + 42 + 14 +
        result.ethShortfallWei.utf8ByteSize + 51 + (shortAddress acolyte).utf8ByteSize + 13 +
        (shortAddress referrer).utf8ByteSize + 52 := by
    unfold fundingText
    have hminter := addressText_size policy.minter
    generalize addressText policy.minter = wallet at hminter ⊢
    generalize shortAddress acolyte = short
    generalize shortAddress referrer = short'
    simp only [String.utf8ByteSize_append, hminter, h₁, h₂, h₃, h₄, h₅, h₆, h₇, h₈]
  refine ⟨fun heq => ?_, ?_⟩
  · rw [heq, String.utf8ByteSize_empty] at hsize
    exact absurd hsize (by simp)
  · rw [hsize]
    generalize (shortAddress acolyte).utf8ByteSize = size at hacolyte ⊢
    generalize (shortAddress referrer).utf8ByteSize = size' at hreferrer ⊢
    simp only [maxDeliveryBytes]
    omega

end Deliveries

/-! ## Results -/

section Results

variable [Hashing] {policy : Policy} {r : ReferralRecord} {result : ReferralBountyResult}

theorem checks_of_validateResult (h : validateResult policy result r = .ok ()) :
    (∀ amount ∈ result.amounts, validateDecimal amount.1 amount.2 false = .ok ()) ∧
      validateDisposition result = .ok () := by
  simp only [validateResult, except_bind_ok, exists_unit] at h
  exact ⟨forM_ok.mp h.2.1, h.2.2.2.2.2⟩

/-- A notice about the funds of a result fits in a record. -/
theorem fundingNotice_fits {acolyte referrer : Address}
    (h : validateResult policy result r = .ok ()) :
    (fundingNotice policy result acolyte referrer).Fits .rewardPending := by
  have hamounts := (checks_of_validateResult h).1
  have huwu := hamounts (result.uwuShortfallBaseUnits, "UWU shortfall")
    (by simp [ReferralBountyResult.amounts])
  have heth := hamounts (result.ethShortfallWei, "ETH shortfall")
    (by simp [ReferralBountyResult.amounts])
  obtain ⟨hne, hsize⟩ := @fundingText_size policy result acolyte referrer
    (validateDecimal_size huwu) (validateDecimal_size heth)
  exact ⟨hne, hsize, validateCommitment_commitment _ _ _, rfl, rfl, rfl⟩

theorem confirmedDelivery_fits {amount : String} {acolyte referrer : Address}
    (h : validateDecimal amount "persisted reward" true = .ok ()) :
    (confirmedDelivery policy amount acolyte referrer).Fits .confirmed := by
  obtain ⟨hne, hsize⟩ := @confirmedText_size policy amount acolyte referrer h
  exact ⟨hne, hsize, rfl, rfl, rfl⟩

theorem submitted_of_validateResult (h : validateResult policy result r = .ok ())
    (hdisposition : result.disposition = .submitted) : ∃ hash nonce,
      result.transactionHash = some hash ∧ result.transactionNonce = some nonce ∧
      validateHash hash "submitted hash" = .ok () ∧
      validateDecimal nonce "submitted nonce" false = .ok () := by
  have hchecks := (checks_of_validateResult h).2
  unfold validateDisposition at hchecks
  rw [hdisposition] at hchecks
  simp only [except_bind_ok, okOr_ok, exists_unit] at hchecks
  obtain ⟨hash, hhash, hvalid, nonce, hnonce, hvalid', -⟩ := hchecks
  exact ⟨hash, nonce, hhash, hnonce, hvalid, hvalid'⟩

theorem confirmed_of_validateResult (h : validateResult policy result r = .ok ())
    (hdisposition : result.disposition = .confirmed) : ∃ hash nonce block blockHash,
      (result.transactionHash = some hash ∧ result.transactionNonce = some nonce ∧
        result.receiptBlockNumber = some block ∧ result.receiptBlockHash = some blockHash) ∧
      validateHash hash "confirmed hash" = .ok () ∧
      validateDecimal nonce "confirmed nonce" false = .ok () ∧
      validateDecimal block "confirmed block" false = .ok () ∧
      validateHash blockHash "confirmed block hash" = .ok () := by
  have hchecks := (checks_of_validateResult h).2
  unfold validateDisposition at hchecks
  rw [hdisposition] at hchecks
  simp only [except_bind_ok, okOr_ok, exists_unit] at hchecks
  obtain ⟨hash, hhash, hvalid, nonce, hnonce, hvalidNonce, block, hblock, hvalidBlock, blockHash,
    hblockHash, hvalidHash⟩ := hchecks
  exact ⟨hash, nonce, block, blockHash, ⟨hhash, hnonce, hblock, hblockHash⟩, hvalid, hvalidNonce,
    hvalidBlock, hvalidHash⟩

end Results

end Cthuwu.Growth
