import Cthuwu.Lib.Decimal
import Cthuwu.Lib.Utf8
import Cthuwu.Registry.Local

/-!
# Agent ids

An agent id is kept as its decimal text. The bound of a word is read off the length and the order
of two texts : all the same the accepted texts are those of the numbers below it
(`agent_id_canonical`), so ids are equal exactly when their numbers are.
-/

namespace Cthuwu.Registry

def u256MaxDecimal : String :=
  "115792089237316195423570985008687907853269984665640564039457584007913129639935"

/-- What is no canonical decimal text of a word. -/
def Malformed (value : String) : Prop :=
  value = "" ∨ u256MaxDecimal.utf8ByteSize < value.utf8ByteSize ∨
    ¬value.toList.all Char.isDigit = true ∨
    (1 < value.utf8ByteSize ∧ value.toList.head? = some '0') ∨
    (value.utf8ByteSize = u256MaxDecimal.utf8ByteSize ∧ u256MaxDecimal < value)

instance : DecidablePred Malformed := fun value => by
  unfold Malformed
  infer_instance

structure Erc8004AgentId where
  value : String
  canonical : ¬Malformed value

def Erc8004AgentId.new (value : String) : Except RegistryError Erc8004AgentId :=
  if h : Malformed value then
    .error (.invalid "ERC-8004 agent ID must be a canonical uint256 decimal string")
  else .ok ⟨value, h⟩

def Erc8004AgentId.number (id : Erc8004AgentId) : ℕ :=
  Nat.ofDigitChars 10 id.value.toList 0

theorem not_malformed_iff {value : String} : ¬Malformed value ↔ ∃ n < 2 ^ 256, value = n.repr := by
  have hbound : ∀ n : ℕ, ¬(u256MaxDecimal.utf8ByteSize < n.repr.utf8ByteSize ∨
      n.repr.utf8ByteSize = u256MaxDecimal.utf8ByteSize ∧ u256MaxDecimal < n.repr) ↔ n < 2 ^ 256 := by
    intro n
    rw [u256MaxDecimal, repr_lastWord, utf8ByteSize_repr, utf8ByteSize_repr, repr_exceeds_iff]
    omega
  constructor
  · intro h
    simp only [Malformed, not_or, not_not] at h
    obtain ⟨hne, hshort, hdigits, hhead, hsmall⟩ := h
    have hsize := utf8ByteSize_digits (List.all_eq_true.mp hdigits)
    have hcanonical : value = "0" ∨ value.toList.head? ≠ some '0' := by
      refine or_iff_not_imp_right.mpr fun hzero => ?_
      rw [not_not] at hzero
      have hlength : value.length ≤ 1 := by
        rw [← hsize]
        exact Nat.le_of_not_lt fun hlt => hhead ⟨hlt, hzero⟩
      obtain ⟨rest, hlist⟩ := List.head?_eq_some_iff.mp hzero
      rw [← String.length_toList, hlist, List.length_cons] at hlength
      have hrest : rest = [] := List.length_eq_zero_iff.mp (by omega)
      exact String.toList_inj.mp (hlist.trans (by rw [hrest]; rfl))
    obtain ⟨n, rfl⟩ := exists_repr_iff.mp ⟨hne, hdigits, hcanonical⟩
    exact ⟨n, (hbound n).mp (not_or.mpr ⟨hshort, hsmall⟩), rfl⟩
  · rintro ⟨n, hn, rfl⟩
    obtain ⟨hshort, hsmall⟩ := not_or.mp ((hbound n).mpr hn)
    obtain ⟨hne, hdigits, hcanonical⟩ := exists_repr_iff.mpr ⟨n, rfl⟩
    simp only [Malformed, not_or, not_not]
    refine ⟨hne, hshort, hdigits, fun ⟨hlong, hzero⟩ => ?_, hsmall⟩
    rcases hcanonical with hrepr | hhead
    · rw [hrepr] at hlong
      exact absurd hlong (by decide)
    · exact hhead hzero

/-- The accepted texts are those of the words, and equal ids are those of equal numbers. -/
theorem agent_id_canonical : (∀ value, (∃ id, Erc8004AgentId.new value = .ok id) ↔
      ∃ n < 2 ^ 256, value = n.repr) ∧
    (∀ value id, Erc8004AgentId.new value = .ok id → id.value = value ∧ value = id.number.repr) ∧
    ∀ a b : Erc8004AgentId, a.value = b.value ↔ a.number = b.number := by
  have hnumber : ∀ id : Erc8004AgentId, id.value = id.number.repr := by
    intro id
    obtain ⟨n, -, hn⟩ := (not_malformed_iff).mp id.canonical
    rw [Erc8004AgentId.number, hn, Nat.toList_repr, Nat.ofDigitChars_ten_toDigits]
  refine ⟨fun value => ?_, fun value id h => ?_, fun a b => ⟨fun h => ?_, fun h => ?_⟩⟩
  · rw [← not_malformed_iff]
    unfold Erc8004AgentId.new
    split_ifs with h <;> simp [h]
  · have hvalue : id.value = value := by
      unfold Erc8004AgentId.new at h
      split_ifs at h with hmalformed
      obtain rfl := Except.ok.inj h
      rfl
    exact ⟨hvalue, hvalue ▸ hnumber id⟩
  · rw [Erc8004AgentId.number, Erc8004AgentId.number, h]
  · rw [hnumber a, hnumber b, h]

end Cthuwu.Registry
