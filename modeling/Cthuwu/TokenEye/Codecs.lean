import Cthuwu.Lib.Decimal
import Cthuwu.Lib.Fallible
import Cthuwu.Lib.Utf8
import Cthuwu.TokenEye.Address
import Cthuwu.TokenEye.U256

/-!
# Texts and scales of words

A word is read from a quantity, two digits a byte from the last one, and from an ABI word, two
digits a byte from the first one. Both readers invert their writers (`fromQuantity_toQuantity`,
`fromAbiWord_toAbiWord`), and a quantity is accepted exactly when it has no leading zero and fits
(`fromQuantity_ok`). Scaling by powers of ten works byte by byte as well.
-/

namespace Cthuwu.TokenEye

open Nat (ofDigits)

inductive TokenEyeError
  | invalidQuantity (reason : String)
  | invalidResponse (reason : String)
  deriving DecidableEq

def nonHexadecimal : String := "value contains a non-hexadecimal digit"

/-- The bytes of some digits, both from the last one, with zeros behind them. -/
def decodeHexRightAligned : ℕ → List Char → Except String (List ℕ)
  | width, [] => .ok (List.replicate width 0)
  | 0, _ :: _ => .error "hexadecimal value exceeds destination width"
  | width + 1, [low] => do
    let low ← okOr (decodeHexNibble low) nonHexadecimal
    return low :: List.replicate width 0
  | width + 1, low :: high :: encoded => do
    let low ← okOr (decodeHexNibble low) nonHexadecimal
    let high ← okOr (decodeHexNibble high) nonHexadecimal
    let bytes ← decodeHexRightAligned width encoded
    return (high * 16 + low) :: bytes

/-- The bytes of pairs of digits. A character without a partner is no digit : it is one of a text
of 64 bytes. -/
def decodeHexExact : List Char → Except String (List ℕ)
  | [] => .ok []
  | [_] => .error nonHexadecimal
  | high :: low :: encoded => do
    let high ← okOr (decodeHexNibble high) nonHexadecimal
    let low ← okOr (decodeHexNibble low) nonHexadecimal
    let bytes ← decodeHexExact encoded
    return (high * 16 + low) :: bytes

namespace U256

/-- The word of as many bytes, the least first. -/
def ofBytes (bytes : List ℕ) : Except String U256 :=
  if h : bytes.length = 32 then .ok (ofLeast bytes h)
  else .error "hexadecimal value has the wrong length"

def fromQuantity (value : String) : Except TokenEyeError U256 :=
  match value.toList with
  | '0' :: 'x' :: encoded => Except.mapError .invalidQuantity do
    let length := (String.ofList encoded).utf8ByteSize
    failIf (encoded = []) "quantity must contain at least one hexadecimal digit"
    failIf (64 < length) "quantity exceeds 256 bits"
    failIf (1 < length ∧ encoded.head? = some '0') "quantity must not contain leading zero digits"
    let bytes ← decodeHexRightAligned 32 encoded.reverse
    ofBytes bytes
  | _ => .error (.invalidQuantity "quantity must start with lowercase 0x")

def fromAbiWord (value : String) : Except TokenEyeError U256 :=
  match value.toList with
  | '0' :: 'x' :: encoded => Except.mapError .invalidResponse do
    failIf ((String.ofList encoded).utf8ByteSize ≠ 64)
      "balance result must be one 32-byte ABI word"
    let bytes ← decodeHexExact encoded
    ofBytes bytes.reverse
  | _ => .error (.invalidResponse "balance result must start with lowercase 0x")

/-- `push_hex_byte`. -/
def hexByte (byte : UInt8) : List Char :=
  hexOf 2 byte.toNat

def quantityDigits (bytes : List UInt8) : List Char :=
  match bytes.dropWhile (· = 0) with
  | [] => ['0']
  | first :: rest =>
    (if first < 16 then [Nat.digitChar first.toNat] else hexByte first) ++ rest.flatMap hexByte

def toQuantity (a : U256) : String :=
  "0x" ++ String.ofList (quantityDigits a.bytes)

def toAbiWord (a : U256) : String :=
  "0x" ++ String.ofList (a.bytes.flatMap hexByte)

def fromU64 (value : ℕ) : U256 :=
  ofLeast ((List.range 8).map (fun i => value / 256 ^ i % 256) ++ List.replicate 24 0) (by simp)

def saturatingToU64 (a : U256) : ℕ :=
  if (a.bytes.take 24).any (· ≠ 0) then 2 ^ 64 - 1
  else ofDigits 256 ((a.bytes.drop 24).map UInt8.toNat).reverse

def wholeUnits (a : U256) (decimals : ℕ) : ℕ :=
  ((·.divSmall 10)^[decimals] a).saturatingToU64

def checkedMulSmall (a : U256) (multiplier : ℕ) : Option U256 :=
  a.mulAdd multiplier 0

def powerOfTen : ℕ → Option U256
  | 0 => some (fromU64 1)
  | exponent + 1 => (powerOfTen exponent).bind (·.checkedMulSmall 10)

end U256

/-! ## Digits and bytes -/

theorem decodeHexNibble_bounds {c : Char} {d : ℕ} (h : decodeHexNibble c = some d) :
    d < 16 ∧ c.utf8Size = 1 := by
  have hsize : c.toNat ≤ 127 → c.utf8Size = 1 := fun hc => by
    unfold Char.utf8Size
    rw [if_pos]
    rw [UInt32.le_iff_toNat_le]
    exact hc
  unfold decodeHexNibble at h
  have hnine : '9'.toNat = 57 := rfl
  split_ifs at h with hdigit hlower hupper
  · have hle : c.toNat ≤ 57 := UInt32.le_iff_toNat_le.mp (Char.le_def.mp hdigit.2)
    have hzero : '0'.toNat = 48 := rfl
    obtain rfl := Option.some.inj h
    exact ⟨by omega, hsize (by omega)⟩
  · have hle : c.toNat ≤ 102 := UInt32.le_iff_toNat_le.mp (Char.le_def.mp hlower.2)
    have ha : 'a'.toNat = 97 := rfl
    obtain rfl := Option.some.inj h
    exact ⟨by omega, hsize (by omega)⟩
  · have hle : c.toNat ≤ 70 := UInt32.le_iff_toNat_le.mp (Char.le_def.mp hupper.2)
    have ha : 'A'.toNat = 65 := rfl
    obtain rfl := Option.some.inj h
    exact ⟨by omega, hsize (by omega)⟩

theorem digitsValue_eq (digits : List ℕ) : digitsValue digits = ofDigits 16 digits.reverse := by
  have hgeneral : ∀ (l : List ℕ) (n : ℕ), l.foldl (fun n digit => 16 * n + digit) n =
      16 ^ l.length * n + ofDigits 16 l.reverse := by
    intro l
    induction l with
    | nil => simp
    | cons x l ih =>
      intro n
      rw [List.foldl_cons, ih, Nat.ofDigits_reverse_cons, List.length_cons, pow_succ]
      ring
  rw [digitsValue, hgeneral, Nat.mul_zero, Nat.zero_add]

/-- What is read are the bytes of the number of the digits. -/
theorem decodeHexRightAligned_ok {encoded : List Char} {width : ℕ} {bytes : List ℕ}
    (h : decodeHexRightAligned width encoded = .ok bytes) : bytes.length = width ∧
      (∀ x ∈ bytes, x < 256) ∧ ∃ digits, encoded.mapM decodeHexNibble = some digits ∧
        ofDigits 256 bytes = ofDigits 16 digits := by
  induction width, encoded using decodeHexRightAligned.induct generalizing bytes with
  | case1 width =>
    rw [decodeHexRightAligned, Except.ok.injEq] at h
    subst h
    refine ⟨List.length_replicate, fun x hx => ?_, [], rfl, by simp⟩
    rw [List.eq_of_mem_replicate hx]
    decide
  | case2 => cases h
  | case3 width low =>
    simp only [decodeHexRightAligned, except_bind_ok, okOr_ok, except_pure_ok] at h
    obtain ⟨d, hd, rfl⟩ := h
    have hlt := (decodeHexNibble_bounds hd).1
    refine ⟨by simp, List.forall_mem_cons.mpr ⟨by omega, fun x hx => ?_⟩, [d], by simp [hd], ?_⟩
    · rw [List.eq_of_mem_replicate hx]
      decide
    · rw [Nat.ofDigits_cons, Nat.ofDigits_replicate_zero, Nat.ofDigits_singleton]
      rfl
  | case4 width low high encoded ih =>
    simp only [decodeHexRightAligned, except_bind_ok, okOr_ok, except_pure_ok] at h
    obtain ⟨d, hd, e, he, rest, hrest, rfl⟩ := h
    obtain ⟨hlength, hlt, digits, hdigits, hvalue⟩ := ih hrest
    have hdlt := (decodeHexNibble_bounds hd).1
    have helt := (decodeHexNibble_bounds he).1
    refine ⟨by simp [hlength], List.forall_mem_cons.mpr ⟨by omega, hlt⟩, d :: e :: digits,
      by simp [hd, he, hdigits], ?_⟩
    rw [Nat.ofDigits_cons, Nat.ofDigits_cons, Nat.ofDigits_cons, hvalue]
    ring

theorem exists_decodeHexRightAligned {encoded : List Char} {width : ℕ} {digits : List ℕ}
    (hlength : encoded.length ≤ 2 * width) (h : encoded.mapM decodeHexNibble = some digits) :
    ∃ bytes, decodeHexRightAligned width encoded = .ok bytes := by
  induction width, encoded using decodeHexRightAligned.induct generalizing digits with
  | case1 width => exact ⟨_, by rw [decodeHexRightAligned]⟩
  | case2 => simp at hlength
  | case3 width low =>
    cases hlow : decodeHexNibble low with
    | none => simp [hlow] at h
    | some d => exact ⟨_, by simp [decodeHexRightAligned, hlow, okOr]; rfl⟩
  | case4 width low high encoded ih =>
    simp only [List.length_cons] at hlength
    cases hlow : decodeHexNibble low with
    | none => simp [hlow] at h
    | some d =>
      cases hhigh : decodeHexNibble high with
      | none => simp [hlow, hhigh] at h
      | some e =>
        cases hrest : encoded.mapM decodeHexNibble with
        | none => simp [hlow, hhigh, hrest] at h
        | some rest =>
          obtain ⟨bytes, hbytes⟩ := ih (by omega) hrest
          exact ⟨_, by simp [decodeHexRightAligned, hlow, hhigh, hbytes, okOr]; rfl⟩

theorem mapM_eq_some {f : Char → Option ℕ} {l : List Char} {digits : List ℕ} :
    l.mapM f = some digits ↔ List.Forall₂ (fun c d => f c = some d) l digits := by
  induction l generalizing digits with
  | nil => simp [eq_comm]
  | cons c l ih =>
    rw [List.mapM_cons]
    cases hc : f c with
    | none => simp [List.forall₂_cons_left_iff, hc]
    | some d =>
      cases hl : l.mapM f with
      | none =>
        refine iff_of_false (by simp) fun h => ?_
        obtain ⟨_, rest, -, hrest, -⟩ := List.forall₂_cons_left_iff.mp h
        rw [← ih, hl] at hrest
        cases hrest
      | some rest =>
        rw [List.forall₂_cons_left_iff]
        simp [hc, ← ih, hl, eq_comm]

theorem mapM_reverse {f : Char → Option ℕ} {l : List Char} {digits : List ℕ} :
    l.reverse.mapM f = some digits ↔ l.mapM f = some digits.reverse := by
  rw [mapM_eq_some, mapM_eq_some, ← List.forall₂_reverse_iff, List.reverse_reverse]

theorem decodeHexNibble_digitChar {d : ℕ} (h : d < 16) :
    decodeHexNibble (Nat.digitChar d) = some d := by
  have hall : ∀ d : Fin 16, decodeHexNibble (Nat.digitChar d) = some d := by decide
  exact hall ⟨d, h⟩

theorem utf8ByteSize_of_mapM {encoded : List Char} {digits : List ℕ}
    (h : encoded.mapM decodeHexNibble = some digits) :
    (String.ofList encoded).utf8ByteSize = encoded.length := by
  refine utf8ByteSize_ofList ?_
  have hall := (mapM_eq_some).mp h
  clear h
  induction hall with
  | nil => exact fun c hc => absurd hc List.not_mem_nil
  | cons hd _ ih => exact List.forall_mem_cons.mpr ⟨(decodeHexNibble_bounds hd).2, ih⟩

/-! ## Quantities -/

/-- A text `0x` and at most 64 digits, without a leading zero unless it is the only one. -/
def IsQuantity (value : String) (n : ℕ) : Prop :=
  ∃ encoded digits, value.toList = '0' :: 'x' :: encoded ∧ encoded ≠ [] ∧ encoded.length ≤ 64 ∧
    (encoded.length = 1 ∨ encoded.head? ≠ some '0') ∧
    encoded.mapM decodeHexNibble = some digits ∧ digitsValue digits = n

namespace U256

theorem ofBytes_ok {bytes : List ℕ} {a : U256} (hlt : ∀ x ∈ bytes, x < 256)
    (hlength : bytes.length = 32) : ofBytes bytes = .ok a ↔ ofDigits 256 bytes = a.toNat := by
  rw [ofBytes, dif_pos hlength, Except.ok.injEq]
  constructor
  · rintro rfl
    exact (toNat_ofLeast hlt).symm
  · intro h
    exact toNat_injective ((toNat_ofLeast hlt).trans h)

/-- A quantity is accepted exactly when it is canonical, and read as its number. -/
theorem fromQuantity_ok {value : String} {a : U256} :
    fromQuantity value = .ok a ↔ IsQuantity value a.toNat := by
  unfold fromQuantity IsQuantity
  split
  · next encoded hvalue =>
    simp only [except_mapError_ok, failIf_ok, except_bind_ok, exists_unit, hvalue]
    constructor
    · rintro ⟨hne, hlength, hlead, bytes, hbytes, ha⟩
      obtain ⟨hwidth, hlt, digits, hdigits, hnumber⟩ := decodeHexRightAligned_ok hbytes
      rw [mapM_reverse] at hdigits
      rw [utf8ByteSize_of_mapM hdigits] at hlength hlead
      refine ⟨encoded, digits.reverse, rfl, hne, by omega, ?_, hdigits, ?_⟩
      · have hpos := List.length_pos_iff.mpr hne
        by_contra hnot
        rw [not_or, not_not] at hnot
        exact hlead ⟨by omega, hnot.2⟩
      · rw [digitsValue_eq, List.reverse_reverse, ← hnumber]
        exact (ofBytes_ok hlt hwidth).mp ha
    · rintro ⟨_, digits, hsame, hne, hlength, hlead, hdigits, hnumber⟩
      obtain rfl : encoded = _ := (List.cons.inj (List.cons.inj hsame).2).2
      have hreverse : encoded.reverse.mapM decodeHexNibble = some digits.reverse := by
        rw [mapM_reverse, List.reverse_reverse, hdigits]
      have hfits : encoded.reverse.length ≤ 2 * 32 := by
        rw [List.length_reverse]
        exact hlength
      obtain ⟨bytes, hbytes⟩ := exists_decodeHexRightAligned hfits hreverse
      obtain ⟨hwidth, hlt, read, hread, hvalue⟩ := decodeHexRightAligned_ok hbytes
      obtain rfl : digits.reverse = read := Option.some.inj (hreverse.symm.trans hread)
      rw [utf8ByteSize_of_mapM hdigits]
      refine ⟨hne, by omega, fun h => ?_, bytes, hbytes, ?_⟩
      · exact hlead.elim (fun hone => by omega) fun hhead => hhead h.2
      · rw [ofBytes_ok hlt hwidth, hvalue, ← digitsValue_eq, hnumber]
  · next hno =>
    refine iff_of_false (by simp) ?_
    rintro ⟨encoded, _, hvalue, -⟩
    exact hno encoded hvalue

/-! ## Reading what is written -/

theorem hexByte_eq (byte : UInt8) :
    hexByte byte = [Nat.digitChar (byte.toNat / 16), Nat.digitChar (byte.toNat % 16)] := by
  have hlt := byte.toNat_lt
  rw [hexByte, hexOf, hexOf, hexOf, Nat.mod_eq_of_lt (a := byte.toNat / 16) (by omega)]
  rfl

theorem decodeHexExact_hexBytes (bytes : List UInt8) :
    decodeHexExact (bytes.flatMap hexByte) = .ok (bytes.map UInt8.toNat) := by
  induction bytes with
  | nil => rfl
  | cons byte bytes ih =>
    have hlt := byte.toNat_lt
    have hhigh := decodeHexNibble_digitChar (d := byte.toNat / 16) (by omega)
    have hlow := decodeHexNibble_digitChar (d := byte.toNat % 16) (by omega)
    rw [List.flatMap_cons, hexByte_eq, List.map_cons]
    simp only [List.cons_append, List.nil_append, decodeHexExact, except_bind_ok, except_pure_ok,
      okOr_ok, List.cons.injEq]
    exact ⟨_, hhigh, _, hlow, _, ih, Nat.div_add_mod' _ _, rfl⟩

/-- The digits of some bytes write the number of the bytes. -/
theorem mapM_hexBytes (bytes : List UInt8) : ∃ digits,
    (bytes.flatMap hexByte).mapM decodeHexNibble = some digits ∧
      digits.length = 2 * bytes.length ∧
      digitsValue digits = ofDigits 256 (bytes.reverse.map UInt8.toNat) := by
  induction bytes with
  | nil => exact ⟨[], rfl, rfl, rfl⟩
  | cons byte bytes ih =>
    obtain ⟨digits, hdigits, hlength, hvalue⟩ := ih
    have hlt := byte.toNat_lt
    have hhigh := decodeHexNibble_digitChar (d := byte.toNat / 16) (by omega)
    have hlow := decodeHexNibble_digitChar (d := byte.toNat % 16) (by omega)
    refine ⟨byte.toNat / 16 :: byte.toNat % 16 :: digits, ?_, by simp [hlength]; omega, ?_⟩
    · rw [List.flatMap_cons, hexByte_eq]
      simp [hhigh, hlow, hdigits]
    · have hbyte := Nat.div_add_mod byte.toNat 16
      rw [digitsValue_eq] at hvalue ⊢
      rw [Nat.ofDigits_reverse_cons, Nat.ofDigits_reverse_cons, hvalue, List.reverse_cons,
        List.map_append, Nat.ofDigits_append, List.length_map, List.length_reverse,
        List.length_cons, hlength, pow_succ, pow_mul, List.map_singleton, Nat.ofDigits_singleton]
      norm_num
      rw [add_assoc, mul_assoc, ← Nat.mul_add, Nat.mod_add_div]

theorem fromAbiWord_toAbiWord (a : U256) : fromAbiWord a.toAbiWord = .ok a := by
  have htext : a.toAbiWord.toList = '0' :: 'x' :: a.bytes.flatMap hexByte := by
    have hstart : "0x".toList = ['0', 'x'] := rfl
    rw [toAbiWord, String.toList_append]
    simp only [hstart, String.toList_ofList, List.cons_append, List.nil_append]
  obtain ⟨digits, hdigits, hlength, -⟩ := mapM_hexBytes a.bytes
  have hsize : (a.bytes.flatMap hexByte).length = 64 := by
    rw [((mapM_eq_some).mp hdigits).length_eq, hlength, a.size]
  unfold fromAbiWord
  split
  · next encoded hvalue =>
    obtain rfl : a.bytes.flatMap hexByte = encoded :=
      (List.cons.inj (List.cons.inj (htext.symm.trans hvalue)).2).2
    simp only [except_mapError_ok, failIf_ok, except_bind_ok, exists_unit]
    refine ⟨by rw [utf8ByteSize_of_mapM hdigits, hsize, not_not], _,
      decodeHexExact_hexBytes a.bytes, ?_⟩
    rw [ofBytes_ok]
    · rw [toNat, U256.digits, List.map_reverse]
    · intro x hx
      obtain ⟨byte, -, rfl⟩ := List.mem_map.mp (List.mem_reverse.mp hx)
      exact byte.toNat_lt
    · rw [List.length_reverse, List.length_map, a.size]
  · next hno => exact absurd htext (hno _)

/-- A quantity is written without the zeros in front. -/
theorem quantityDigits_eq {bytes : List UInt8} (hne : bytes ≠ []) :
    quantityDigits bytes = significant (bytes.flatMap hexByte) := by
  have hkept : ∀ {c : Char} {l : List Char}, c ≠ '0' → significant (c :: l) = c :: l := by
    intro c l hc
    rw [significant, List.dropWhile_cons_of_neg (by simpa using hc)]
  have hdigit : ∀ d : Fin 16, d ≠ 0 → Nat.digitChar d ≠ '0' := by decide
  induction bytes with
  | nil => exact absurd rfl hne
  | cons byte bytes ih =>
    have hlt := byte.toNat_lt
    rw [List.flatMap_cons, hexByte_eq]
    by_cases hzero : byte = 0
    · subst hzero
      change _ = significant ('0' :: '0' :: bytes.flatMap hexByte)
      rw [significant_zero_cons (List.cons_ne_nil _ _)]
      cases bytes with
      | nil => rfl
      | cons next bytes =>
        rw [significant_zero_cons (by rw [List.flatMap_cons, hexByte_eq]; exact nofun),
          ← ih (List.cons_ne_nil _ _), quantityDigits, List.dropWhile_cons_of_pos (by decide)]
        rfl
    · have hpos : 0 < byte.toNat :=
        Nat.pos_of_ne_zero fun h => hzero (UInt8.toNat_inj.mp h)
      rw [quantityDigits, List.dropWhile_cons_of_neg (by simpa using hzero)]
      simp only [List.cons_append, List.nil_append]
      split_ifs with hsmall
      · have hvalue : byte.toNat < 16 := UInt8.lt_iff_toNat_lt.mp hsmall
        rw [Nat.div_eq_of_lt hvalue, Nat.mod_eq_of_lt hvalue]
        change _ = significant ('0' :: _)
        rw [significant_zero_cons (List.cons_ne_nil _ _), hkept]
        · rfl
        · exact hdigit ⟨byte.toNat, hvalue⟩ fun h => hpos.ne' (congrArg Fin.val h)
      · have hvalue : ¬ byte.toNat < 16 := fun h => hsmall (UInt8.lt_iff_toNat_lt.mpr h)
        rw [hexByte_eq, hkept]
        · rfl
        · refine hdigit ⟨byte.toNat / 16, by omega⟩ fun h => ?_
          have hquotient : byte.toNat / 16 = 0 := congrArg Fin.val h
          omega

theorem mapM_significant {l : List Char} {digits : List ℕ} (hne : l ≠ [])
    (h : l.mapM decodeHexNibble = some digits) : significant l ≠ [] ∧
      (significant l).length ≤ l.length ∧
      ((significant l).length = 1 ∨ (significant l).head? ≠ some '0') ∧
      ∃ read, (significant l).mapM decodeHexNibble = some read ∧
        digitsValue read = digitsValue digits := by
  induction l generalizing digits with
  | nil => exact absurd rfl hne
  | cons c l ih =>
    by_cases hc : c = '0'
    · subst hc
      cases l with
      | nil => exact ⟨nofun, Nat.le_refl _, .inl rfl, digits, h, rfl⟩
      | cons d l =>
        obtain ⟨_, rest, hzero, hrest, rfl⟩ := List.forall₂_cons_left_iff.mp ((mapM_eq_some).mp h)
        obtain rfl := Option.some.inj hzero
        rw [significant_zero_cons (List.cons_ne_nil d l)]
        obtain ⟨hkept, hlength, hlead, hread⟩ :=
          ih (List.cons_ne_nil d l) ((mapM_eq_some).mpr hrest)
        exact ⟨hkept, Nat.le_succ_of_le hlength, hlead, hread⟩
    · have hkept : significant (c :: l) = c :: l := by
        rw [significant, List.dropWhile_cons_of_neg (by simpa using hc)]
      rw [hkept]
      exact ⟨hne, Nat.le_refl _, .inr fun hhead => hc (Option.some.inj hhead), digits, h, rfl⟩

theorem fromQuantity_toQuantity (a : U256) : fromQuantity a.toQuantity = .ok a := by
  have hbytes : a.bytes ≠ [] := fun h => absurd a.size (by rw [h]; decide)
  obtain ⟨digits, hdigits, hlength, hvalue⟩ := mapM_hexBytes a.bytes
  have hsize := ((mapM_eq_some).mp hdigits).length_eq
  rw [hlength, a.size] at hsize
  have hne : a.bytes.flatMap hexByte ≠ [] := fun h => by rw [h] at hsize; cases hsize
  obtain ⟨hkept, hshort, hlead, read, hread, hsame⟩ := mapM_significant hne hdigits
  refine (fromQuantity_ok).mpr ⟨significant (a.bytes.flatMap hexByte), read, ?_, hkept,
    hshort.trans_eq hsize, hlead, hread, hsame.trans hvalue⟩
  have hstart : "0x".toList = ['0', 'x'] := rfl
  rw [toQuantity, String.toList_append, quantityDigits_eq hbytes]
  simp only [hstart, String.toList_ofList, List.cons_append, List.nil_append]

/-! ## Scales -/

theorem toNat_iterate_divSmall (a : U256) (decimals : ℕ) :
    ((·.divSmall 10)^[decimals] a).toNat = a.toNat / 10 ^ decimals := by
  induction decimals with
  | zero => rw [pow_zero, Nat.div_one]; rfl
  | succ decimals ih =>
    rw [Function.iterate_succ_apply', toNat_divSmall (by decide), ih, Nat.div_div_eq_div_mul,
      pow_succ]

theorem saturatingToU64_eq (a : U256) : a.saturatingToU64 = min a.toNat (2 ^ 64 - 1) := by
  have hbytes : a.bytes.reverse.map UInt8.toNat = ((a.bytes.drop 24).map UInt8.toNat).reverse ++
      ((a.bytes.take 24).map UInt8.toNat).reverse := by
    rw [← List.reverse_append, ← List.map_append, List.take_append_drop, List.map_reverse]
  have hlow : ofDigits 256 ((a.bytes.drop 24).map UInt8.toNat).reverse < 2 ^ 64 := by
    have hlt := Nat.ofDigits_lt_base_pow_length (b := 256)
      (l := ((a.bytes.drop 24).map UInt8.toNat).reverse) (by decide) fun x hx => by
        obtain ⟨byte, -, rfl⟩ := List.mem_map.mp (List.mem_reverse.mp hx)
        exact byte.toNat_lt
    rw [List.length_reverse, List.length_map, List.length_drop, a.size] at hlt
    exact hlt.trans_eq (by norm_num)
  have hlength : ((a.bytes.drop 24).map UInt8.toNat).reverse.length = 8 := by simp [a.size]
  have hvalue : a.toNat = ofDigits 256 ((a.bytes.drop 24).map UInt8.toNat).reverse +
      2 ^ 64 * ofDigits 256 ((a.bytes.take 24).map UInt8.toNat).reverse := by
    rw [toNat, digits, hbytes, Nat.ofDigits_append, hlength]
    norm_num
  unfold saturatingToU64
  split_ifs with hlarge
  · obtain ⟨byte, hbyte, hne⟩ := List.any_eq_true.mp hlarge
    have hmem : byte.toNat ∈ ((a.bytes.take 24).map UInt8.toNat).reverse :=
      List.mem_reverse.mpr (List.mem_map_of_mem hbyte)
    have hsum := (List.single_le_sum (fun _ _ => Nat.zero_le _) _ hmem).trans
      (Nat.sum_le_ofDigits ((a.bytes.take 24).map UInt8.toNat).reverse (by decide : 1 ≤ 256))
    have hpos : byte.toNat ≠ 0 := fun h => of_decide_eq_true hne (UInt8.toNat_inj.mp h)
    omega
  · have hzero : ((a.bytes.take 24).map UInt8.toNat).reverse = List.replicate 24 0 := by
      refine List.eq_replicate_iff.mpr ⟨by simp [a.size], fun x hx => ?_⟩
      obtain ⟨byte, hbyte, rfl⟩ := List.mem_map.mp (List.mem_reverse.mp hx)
      by_contra hne
      refine hlarge (List.any_eq_true.mpr ⟨byte, hbyte, decide_eq_true fun h => hne ?_⟩)
      rw [h]
      rfl
    rw [hzero, Nat.ofDigits_replicate_zero] at hvalue
    omega

theorem wholeUnits_eq (a : U256) (decimals : ℕ) :
    a.wholeUnits decimals = min (a.toNat / 10 ^ decimals) (2 ^ 64 - 1) := by
  rw [wholeUnits, saturatingToU64_eq, toNat_iterate_divSmall]

theorem powerOfTen_spec (exponent : ℕ) :
    (∀ r, powerOfTen exponent = some r → r.toNat = 10 ^ exponent) ∧
      (powerOfTen exponent = none → 2 ^ 256 ≤ 10 ^ exponent) := by
  induction exponent with
  | zero =>
    refine ⟨fun r h => ?_, nofun⟩
    obtain rfl := Option.some.inj h
    decide
  | succ exponent ih =>
    rw [powerOfTen, pow_succ]
    cases hpower : powerOfTen exponent with
    | none => exact ⟨nofun, fun _ => (ih.2 hpower).trans (Nat.le_mul_of_pos_right _ (by decide))⟩
    | some power =>
      rw [← ih.1 power hpower]
      exact ⟨fun r h => (mulAdd_eq_some (m := 10) (c := 0)).mp h,
        fun h => (mulAdd_eq_none (m := 10) (c := 0)).mp h⟩

theorem powerOfTen_eq_some {exponent : ℕ} {r : U256} :
    powerOfTen exponent = some r ↔ r.toNat = 10 ^ exponent := by
  refine ⟨(powerOfTen_spec exponent).1 r, fun h => ?_⟩
  cases hpower : powerOfTen exponent with
  | none => exact absurd ((powerOfTen_spec exponent).2 hpower) (h ▸ Nat.not_le.mpr r.toNat_lt)
  | some power =>
    rw [Option.some.injEq]
    exact toNat_injective (((powerOfTen_spec exponent).1 power hpower).trans h.symm)

/-- Scaling and reading compute with numbers, and no value on the way leaves its machine type. -/
theorem word_codecs :
    (∀ (a r : U256) (m : ℕ), (a.checkedMulU64 m = some r ↔ r.toNat = a.toNat * m) ∧
      (a.checkedMulU64 m = none ↔ 2 ^ 256 ≤ a.toNat * m)) ∧
    (∀ (a : U256) (b : ℕ), a.toNat * b < 2 ^ 256 →
      ∃ r, a.checkedMulBasisPoints b = some r ∧ r.toNat = a.toNat * b / 10000) ∧
    (∀ (a : U256) (d : ℕ), a.wholeUnits d = min (a.toNat / 10 ^ d) (2 ^ 64 - 1)) ∧
    (∀ e : ℕ, (∀ r, powerOfTen e = some r ↔ r.toNat = 10 ^ e) ∧
      ((powerOfTen e).isSome ↔ 10 ^ e < 2 ^ 256)) ∧
    (∀ value (a : U256), fromQuantity value = .ok a ↔ IsQuantity value a.toNat) ∧
    (∀ a : U256, fromQuantity a.toQuantity = .ok a ∧ fromAbiWord a.toAbiWord = .ok a) ∧
    (∀ a b : U256, a < b ↔ a.toNat < b.toNat) ∧
    (∀ (a : U256) (m : ℕ), m < 2 ^ 64 → ∀ value ∈ mulValues 256 m 0 a.digits, value < 2 ^ 128) ∧
    (∀ a : U256, ∀ value ∈ mulValues 256 10 0 a.digits, value < 2 ^ 16) ∧
    ∀ (a : U256) (d : ℕ), 0 < d → d < 2 ^ 16 →
      ∀ value ∈ divValues 256 d 0 a.digits.reverse, value < 2 ^ 32 ∧ value / d < 2 ^ 8 := by
  have hbytes : ∀ a : U256, ∀ x ∈ a.digits.reverse, x < 256 := fun a x hx =>
    a.digits_lt x (List.mem_reverse.mp hx)
  refine ⟨fun a r m => ⟨checkedMulU64_eq_some, checkedMulU64_eq_none⟩, fun a b hfits => ?_,
    wholeUnits_eq, fun e => ⟨fun r => powerOfTen_eq_some, ?_⟩, fun value a => fromQuantity_ok,
    fun a => ⟨fromQuantity_toQuantity a, fromAbiWord_toAbiWord a⟩, fun a b => lt_iff,
    fun a m hm value hvalue => ?_, fun a value hvalue => ?_, fun a d hpos hd value hvalue => ?_⟩
  · obtain ⟨product, hproduct⟩ := exists_mulAdd (a := a) (m := b) (c := 0) hfits
    refine ⟨product.divSmall 10000, congrArg (Option.map _) hproduct, ?_⟩
    rw [toNat_divSmall (by decide), mulAdd_eq_some.mp hproduct, Nat.add_zero]
  · cases hpower : powerOfTen e with
    | none =>
      exact iff_of_false nofun (Nat.not_lt.mpr ((powerOfTen_spec e).2 hpower))
    | some power =>
      rw [← (powerOfTen_spec e).1 power hpower]
      exact iff_of_true rfl power.toNat_lt
  · have hle := mulValues_le a.digits_lt (Nat.zero_le m) value hvalue
    omega
  · exact (mulValues_le a.digits_lt (Nat.zero_le 10) value hvalue).trans_lt (by decide)
  · have hlt := divValues_lt (hbytes a) hpos value hvalue
    refine ⟨by omega, ?_⟩
    rw [Nat.div_lt_iff_lt_mul hpos]
    exact hlt

end U256

end Cthuwu.TokenEye
