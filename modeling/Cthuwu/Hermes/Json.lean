import Mathlib.Data.List.TakeDrop
import Cthuwu.Hermes.Knowledge

/-!
# The text of a record

The JSON of a record tells the record : `unescape` reads back one character of a string, and
from there `authoredKnowledge_toJson_inj` reads every field. Two records with one digest are
therefore one, as long as SHA-256 has no collision on their texts (`CollisionFree.eq`).
-/

namespace Cthuwu.Hermes

open Council

/-! ## Strings and numbers -/

/-- The first character of an escaped text, and what follows. -/
def unescape : List Char → Option (Char × List Char)
  | [] => none
  | c :: rest =>
    if c = '\x22' then none
    else if c ≠ '\x5c' then some (c, rest)
    else match rest with
      | 'b' :: rest => some ('\x08', rest)
      | 'f' :: rest => some ('\x0c', rest)
      | 'n' :: rest => some ('\n', rest)
      | 'r' :: rest => some ('\r', rest)
      | 't' :: rest => some ('\t', rest)
      | 'u' :: _ :: _ :: high :: low :: rest =>
        (decodeNibble high).bind fun high => (decodeNibble low).map fun low =>
          (Char.ofNat (high * 16 + low), rest)
      | c :: rest => some (c, rest)
      | [] => none

theorem unescape_jsonEscape (c : Char) (rest : List Char) :
    unescape (jsonEscape c ++ rest) = some (c, rest) := by
  unfold jsonEscape
  split_ifs with hquote hslash hbackspace hfeed hline hreturn htab hcontrol
  · rw [hquote]
    rfl
  · rw [hslash]
    rfl
  · rw [hbackspace]
    rfl
  · rw [hfeed]
    rfl
  · rw [hline]
    rfl
  · rw [hreturn]
    rfl
  · rw [htab]
    rfl
  · have hhigh := decodeNibble_hexDigit (c.toNat / 16) (by omega)
    have hlow := decodeNibble_hexDigit (c.toNat % 16) (by omega)
    have hsplit : c.toNat / 16 * 16 + c.toNat % 16 = c.toNat := by omega
    change (decodeNibble _).bind _ = _
    rw [hhigh, hlow]
    simp [hsplit]
  · change unescape (c :: rest) = _
    unfold unescape
    dsimp only
    rw [if_neg hquote, if_pos hslash]

variable {l l' r s : List Char}

/-- An escaped text ends at the first quote. -/
theorem escape_inj (h : l.flatMap jsonEscape ++ '\x22' :: r = l'.flatMap jsonEscape ++ '\x22' :: s) :
    l = l' ∧ r = s := by
  induction l generalizing l' with
  | nil =>
    cases l' with
    | nil => exact ⟨rfl, (List.cons.inj h).2⟩
    | cons c l' =>
      have hread := congrArg unescape h
      rw [List.flatMap_cons, List.append_assoc, unescape_jsonEscape] at hread
      exact absurd hread (Option.some_ne_none _).symm
  | cons c l ih =>
    have hread := congrArg unescape h
    rw [List.flatMap_cons, List.append_assoc, unescape_jsonEscape] at hread
    cases l' with
    | nil => exact absurd hread (Option.some_ne_none _)
    | cons c' l' =>
      rw [List.flatMap_cons, List.append_assoc, unescape_jsonEscape] at hread
      obtain ⟨rfl, hrest⟩ := Prod.mk.inj (Option.some.inj hread)
      obtain ⟨rfl, rfl⟩ := ih hrest
      exact ⟨rfl, rfl⟩

theorem jsonString_inj {a b : String}
    (h : (jsonString a).toList ++ r = (jsonString b).toList ++ s) : a = b ∧ r = s := by
  have hquote : "\"".toList = ['\x22'] := by decide
  simp only [jsonString, jsonText, String.toList_append, String.toList_ofList, hquote,
    List.append_assoc, List.cons_append, List.nil_append, List.cons.injEq, true_and] at h
  obtain ⟨hl, hr⟩ := escape_inj h
  exact ⟨String.ext hl, hr⟩

/-- The digits of a number, up to what is not a digit. -/
theorem takeWhile_jsonNumber {n : ℕ} {c : Char} (hc : c.isDigit = false) :
    ((jsonNumber n).toList ++ c :: r).takeWhile Char.isDigit = Nat.toDigits 10 n := by
  have hdigits : (jsonNumber n).toList = Nat.toDigits 10 n := Nat.toList_repr
  rw [hdigits, List.takeWhile_append_of_pos, List.takeWhile_cons_of_neg, List.append_nil]
  · rw [hc]
    exact Bool.false_ne_true
  · intro c hmem
    exact Nat.isDigit_of_mem_toDigits (by omega) (by omega) hmem

theorem jsonNumber_inj {m n : ℕ} {t : String} (ht : t = "," ∨ t = "\x7d")
    (h : (jsonNumber m).toList ++ (t.toList ++ r) = (jsonNumber n).toList ++ (t.toList ++ s)) :
    m = n ∧ r = s := by
  obtain ⟨c, hc, hdigit⟩ : ∃ c, t.toList = [c] ∧ c.isDigit = false := by
    rcases ht with rfl | rfl
    · exact ⟨',', by decide, by decide⟩
    · exact ⟨'\x7d', by decide, by decide⟩
  rw [hc, List.singleton_append, List.singleton_append] at h
  have hsame : Nat.toDigits 10 m = Nat.toDigits 10 n := by
    rw [← takeWhile_jsonNumber hdigit, h, takeWhile_jsonNumber hdigit]
  obtain rfl : m = n := by
    rw [← Nat.ofDigitChars_ten_toDigits (n := m), hsame, Nat.ofDigitChars_ten_toDigits]
  exact ⟨rfl, (List.cons.inj (List.append_cancel_left h)).2⟩

/-! ## Records -/

theorem interactionPatternKind_label_inj : Function.Injective InteractionPatternKind.label := by
  intro a b h
  cases a <;> cases b <;> first | rfl | exact absurd h (by decide)

theorem conversationStrategyKind_label_inj : Function.Injective ConversationStrategyKind.label := by
  intro a b h
  cases a <;> cases b <;> first | rfl | exact absurd h (by decide)

theorem toolOperationKind_code_inj : Function.Injective ToolOperationKind.code := by
  intro a b h
  cases a <;> cases b <;> first | rfl | exact absurd h (by decide)

/-- `jsonNumber_inj` before the next field, and at the end. -/
theorem jsonNumber_comma_inj {m n : ℕ}
    (h : (jsonNumber m).toList ++ (",".toList ++ r) = (jsonNumber n).toList ++ (",".toList ++ s)) :
    m = n ∧ r = s :=
  jsonNumber_inj (.inl rfl) h

theorem jsonNumber_brace_inj {m n : ℕ} (h : (jsonNumber m).toList ++ ("\x7d".toList ++ r) =
    (jsonNumber n).toList ++ ("\x7d".toList ++ s)) : m = n ∧ r = s :=
  jsonNumber_inj (.inr rfl) h

theorem knowledgePayload_toJson_inj {a b : KnowledgePayload}
    (h : a.toJson.toList ++ r = b.toJson.toList ++ s) : a = b ∧ r = s := by
  cases a <;> cases b <;>
    simp only [KnowledgePayload.toJson, jsonObject, List.map, String.intercalate_cons_cons,
      String.intercalate_singleton, String.toList_append, List.append_assoc,
      List.append_cancel_left_eq] at h
  case anonymizedInteractionPattern.anonymizedInteractionPattern a b =>
    obtain ⟨hpattern, h⟩ := jsonString_inj h
    simp only [List.append_cancel_left_eq] at h
    obtain ⟨hobservations, h⟩ := jsonNumber_comma_inj h
    simp only [List.append_cancel_left_eq] at h
    obtain ⟨hsuccesses, hrest⟩ := jsonNumber_brace_inj h
    cases a
    cases b
    cases interactionPatternKind_label_inj hpattern
    cases hobservations
    cases hsuccesses
    exact ⟨rfl, List.append_cancel_left hrest⟩
  case conversationStrategy.conversationStrategy a b =>
    obtain ⟨hstrategy, h⟩ := jsonString_inj h
    simp only [List.append_cancel_left_eq] at h
    obtain ⟨hattempts, h⟩ := jsonNumber_comma_inj h
    simp only [List.append_cancel_left_eq] at h
    obtain ⟨hsuccesses, hrest⟩ := jsonNumber_brace_inj h
    cases a
    cases b
    cases conversationStrategyKind_label_inj hstrategy
    cases hattempts
    cases hsuccesses
    exact ⟨rfl, List.append_cancel_left hrest⟩
  case toolUsagePattern.toolUsagePattern a b =>
    obtain ⟨htoolName, h⟩ := jsonString_inj h
    simp only [List.append_cancel_left_eq] at h
    obtain ⟨hoperation, h⟩ := jsonString_inj h
    simp only [List.append_cancel_left_eq] at h
    obtain ⟨hattempts, h⟩ := jsonNumber_comma_inj h
    simp only [List.append_cancel_left_eq] at h
    obtain ⟨hsuccesses, hrest⟩ := jsonNumber_brace_inj h
    cases a
    cases b
    cases htoolName
    cases toolOperationKind_code_inj hoperation
    cases hattempts
    cases hsuccesses
    exact ⟨rfl, List.append_cancel_left hrest⟩
  case operatorCreatedSkill.operatorCreatedSkill a b =>
    obtain ⟨hname, h⟩ := jsonString_inj h
    simp only [List.append_cancel_left_eq] at h
    obtain ⟨hversion, h⟩ := jsonNumber_comma_inj h
    simp only [List.append_cancel_left_eq] at h
    obtain ⟨hinstructions, h⟩ := jsonString_inj h
    have hrest := List.append_cancel_left (List.append_cancel_left h)
    cases a
    cases b
    cases hname
    cases hversion
    cases hinstructions
    exact ⟨rfl, hrest⟩
  all_goals exact absurd (jsonString_inj h).1 (by decide)

theorem knowledgeItem_toJson_inj {a b : KnowledgeItem}
    (h : a.toJson.toList ++ r = b.toJson.toList ++ s) : a = b ∧ r = s := by
  simp only [KnowledgeItem.toJson, jsonObject, List.map, String.intercalate_cons_cons,
    String.intercalate_singleton, String.toList_append, List.append_assoc,
    List.append_cancel_left_eq] at h
  obtain ⟨hid, h⟩ := jsonString_inj h
  simp only [List.append_cancel_left_eq] at h
  obtain ⟨hpayload, hrest⟩ := knowledgePayload_toJson_inj h
  cases a
  cases b
  cases hid
  cases hpayload
  exact ⟨rfl, List.append_cancel_left hrest⟩

theorem authoredKnowledge_toJson_inj : Function.Injective AuthoredKnowledge.toJson := by
  intro a b h
  replace h := congrArg String.toList h
  simp only [AuthoredKnowledge.toJson, jsonObject, List.map, String.intercalate_cons_cons,
    String.intercalate_singleton, String.toList_append, List.append_assoc,
    List.append_cancel_left_eq] at h
  obtain ⟨henvelopeVersion, h⟩ := jsonNumber_comma_inj h
  simp only [List.append_cancel_left_eq] at h
  obtain ⟨hitem, h⟩ := knowledgeItem_toJson_inj h
  simp only [List.append_cancel_left_eq] at h
  obtain ⟨hcreatedAtMs, h⟩ := jsonNumber_comma_inj h
  simp only [List.append_cancel_left_eq] at h
  obtain ⟨hauthorKeyId, h⟩ := jsonString_inj h
  simp only [List.append_cancel_left_eq] at h
  obtain ⟨hauthorSignature, -⟩ := jsonString_inj h
  cases a
  cases b
  cases henvelopeVersion
  cases hitem
  cases hcreatedAtMs
  cases hauthorKeyId
  cases hauthorSignature
  rfl

/-! ## Sizes -/

theorem utf8ByteSize_eq (value : String) : value.utf8ByteSize = utf8Length value.toList :=
  utf8ByteSize_eq_sum value

theorem isLowerHex_code {c : Char} (h : isLowerHex c = true) : 48 ≤ c.toNat ∧ c.toNat ≤ 102 := by
  unfold isLowerHex at h
  rw [Bool.or_eq_true] at h
  rcases h with h | h
  · simp only [Char.isDigit, Bool.and_eq_true, decide_eq_true_eq, ge_iff_le,
      UInt32.le_iff_toNat_le] at h
    exact ⟨h.1, h.2.trans (by decide)⟩
  · simp only [Bool.and_eq_true, decide_eq_true_eq, Char.le_def, UInt32.le_iff_toNat_le] at h
    exact ⟨le_trans (by decide) h.1, h.2⟩

theorem jsonEscape_hex {c : Char} (h : isLowerHex c = true) : jsonEscape c = [c] := by
  obtain ⟨hlow, hhigh⟩ := isLowerHex_code h
  unfold jsonEscape
  split_ifs
  all_goals first | rfl | (subst_vars; revert h; decide) | omega

theorem jsonString_hex {value : String} (h : isHexDigest value = true) :
    (jsonString value).utf8ByteSize = 66 := by
  unfold isHexDigest at h
  rw [Bool.and_eq_true, decide_eq_true_eq, List.all_eq_true] at h
  obtain ⟨hlength, hhex⟩ := h
  have hplain : value.toList.flatMap jsonEscape = value.toList := by
    rw [List.flatMap_congr fun c hc => jsonEscape_hex (hhex c hc)]
    exact List.flatMap_singleton' _
  have hsize : ∀ c ∈ value.toList, c.utf8Size = 1 := by
    intro c hc
    have hcode := isLowerHex_code (hhex c hc)
    rw [Char.utf8Size_eq_one_iff]
    change c.toNat ≤ 127
    omega
  have hbytes : value.utf8ByteSize = 64 := by
    rw [utf8ByteSize_eq, utf8Length, List.map_congr_left hsize, List.map_const', List.sum_replicate_nat,
      hlength]
  have hquote : "\"".utf8ByteSize = 1 := by decide
  unfold jsonString jsonText
  rw [hplain, String.ofList_toList, String.utf8ByteSize_append, String.utf8ByteSize_append, hbytes,
    hquote]

theorem jsonText_size (value : String) : (jsonText value).utf8ByteSize = value.utf8ByteSize + 2 := by
  have hquote : "\"".utf8ByteSize = 1 := by decide
  unfold jsonText
  rw [String.utf8ByteSize_append, String.utf8ByteSize_append, hquote]
  omega

/-- The bytes that separate and enclose the fields of an object. -/
theorem separator_size : ":".utf8ByteSize = 1 ∧ ",".utf8ByteSize = 1 ∧ "\x7b".utf8ByteSize = 1 ∧
    "\x7d".utf8ByteSize = 1 := by
  decide

theorem envelope_size (envelope : KnowledgeEnvelope) : envelope.toJson.utf8ByteSize =
    93 + (jsonNumber envelope.envelopeVersion).utf8ByteSize +
      envelope.authored.toJson.utf8ByteSize + (jsonStrings envelope.path).utf8ByteSize +
      (jsonString envelope.relayPeerId).utf8ByteSize +
      (jsonString envelope.relayKeyId).utf8ByteSize +
      (jsonString envelope.relaySignature).utf8ByteSize := by
  have hkeys : "envelope_version".utf8ByteSize = 16 ∧ "authored".utf8ByteSize = 8 ∧
      "path".utf8ByteSize = 4 ∧ "relay_peer_id".utf8ByteSize = 13 ∧
        "relay_key_id".utf8ByteSize = 12 ∧ "relay_signature".utf8ByteSize = 15 := by
    decide
  simp only [KnowledgeEnvelope.toJson, jsonObject, List.map, String.intercalate_cons_cons,
    String.intercalate_singleton, String.utf8ByteSize_append, jsonText_size, separator_size, hkeys]
  omega

theorem authoredKnowledge_size (authored : AuthoredKnowledge) : authored.toJson.utf8ByteSize =
    83 + (jsonNumber authored.envelopeVersion).utf8ByteSize + authored.item.toJson.utf8ByteSize +
      (jsonNumber authored.createdAtMs).utf8ByteSize +
      (jsonString authored.authorKeyId).utf8ByteSize +
      (jsonString authored.authorSignature).utf8ByteSize := by
  have hkeys : "envelope_version".utf8ByteSize = 16 ∧ "item".utf8ByteSize = 4 ∧
      "created_at_ms".utf8ByteSize = 13 ∧ "author_key_id".utf8ByteSize = 13 ∧
        "author_signature".utf8ByteSize = 16 := by
    decide
  simp only [AuthoredKnowledge.toJson, jsonObject, List.map, String.intercalate_cons_cons,
    String.intercalate_singleton, String.utf8ByteSize_append, jsonText_size, separator_size, hkeys]
  omega

theorem knowledgeItem_size (item : KnowledgeItem) : item.toJson.utf8ByteSize =
    18 + (jsonString item.id).utf8ByteSize + item.payload.toJson.utf8ByteSize := by
  have hkeys : "id".utf8ByteSize = 2 ∧ "payload".utf8ByteSize = 7 := by decide
  simp only [KnowledgeItem.toJson, jsonObject, List.map, String.intercalate_cons_cons,
    String.intercalate_singleton, String.utf8ByteSize_append, jsonText_size, separator_size, hkeys]
  omega

/-! ## Digests -/

variable [Hashing]

/-- SHA-256 has no collision on the texts of the records. -/
def CollisionFree (records : Set AuthoredKnowledge) : Prop :=
  ∀ a ∈ records, ∀ b ∈ records,
    Hashing.sha256 (utf8 a.toJson) = Hashing.sha256 (utf8 b.toJson) → utf8 a.toJson = utf8 b.toJson

theorem encodeHex_inj {bytes bytes' : List UInt8} (hlength : bytes.length = 32)
    (hlength' : bytes'.length = 32) (h : encodeHex bytes = encodeHex bytes') : bytes = bytes' := by
  have hread := decodeHex_encodeHex hlength
  rw [h, decodeHex_encodeHex hlength'] at hread
  exact (Except.ok.inj hread).symm

theorem utf8_inj : Function.Injective utf8 :=
  fun _ _ => toUTF8_data_toList_inj.mp

variable {records : Set AuthoredKnowledge}

/-- Without a collision a digest tells its record. -/
theorem CollisionFree.eq {a b : AuthoredKnowledge} (h : CollisionFree records) (ha : a ∈ records)
    (hb : b ∈ records) (hdigest : a.digest = b.digest) : a = b := by
  have hhash := encodeHex_inj (Hashing.sha256_length _) (Hashing.sha256_length _) hdigest
  exact authoredKnowledge_toJson_inj (utf8_inj (h a ha b hb hhash))

theorem CollisionFree.mono {records' : Set AuthoredKnowledge} (h : CollisionFree records)
    (hsubset : records' ⊆ records) : CollisionFree records' :=
  fun a ha b hb => h a (hsubset ha) b (hsubset hb)

end Cthuwu.Hermes
