import Mathlib.Data.Nat.Bitwise
import Mathlib.Data.BitVec

/-!
# Fixed-width words and checked arithmetic

Unsigned words are bit vectors. The checked operations return `none` exactly
where the mathematical result leaves the word, so a computation written with
them records every overflow the machine would report. Each operation has one
lemma that reads a returned word back as a natural number.
-/
namespace CrossChainEscrow.Library.Words

abbrev U16 := BitVec 16
abbrev U32 := BitVec 32
abbrev U64 := BitVec 64
abbrev U256 := BitVec 256

variable {w : Nat}

/-- The word of a natural number, when it fits. -/
def ofNat? (w n : Nat) : Option (BitVec w) :=
  if n < 2 ^ w then some (BitVec.ofNat w n) else none

def checkedAdd (a b : BitVec w) : Option (BitVec w) := ofNat? w (a.toNat + b.toNat)

def checkedSub (a b : BitVec w) : Option (BitVec w) :=
  if b.toNat ≤ a.toNat then ofNat? w (a.toNat - b.toNat) else none

def checkedMul (a b : BitVec w) : Option (BitVec w) := ofNat? w (a.toNat * b.toNat)

def checkedDiv (a b : BitVec w) : Option (BitVec w) :=
  if b.toNat = 0 then none else ofNat? w (a.toNat / b.toNat)

theorem ofNat?_eq_some {n : Nat} {c : BitVec w} : ofNat? w n = some c ↔ c.toNat = n := by
  unfold ofNat?
  split
  · next fits =>
    constructor
    · intro h
      rw [← Option.some.inj h, BitVec.toNat_ofNat, Nat.mod_eq_of_lt fits]
    · intro h
      rw [← h, BitVec.ofNat_toNat, BitVec.setWidth_eq]
  · next large =>
    constructor
    · intro h
      cases h
    · intro h
      have bound := c.isLt
      omega

theorem ofNat?_isSome {n : Nat} (fits : n < 2 ^ w) : ∃ c, ofNat? w n = some c :=
  ⟨BitVec.ofNat w n, by simp [ofNat?, fits]⟩

theorem checkedAdd_eq_some {a b c : BitVec w} :
    checkedAdd a b = some c ↔ c.toNat = a.toNat + b.toNat := ofNat?_eq_some

theorem checkedSub_eq_some {a b c : BitVec w} :
    checkedSub a b = some c ↔ c.toNat + b.toNat = a.toNat := by
  unfold checkedSub
  split
  · rw [ofNat?_eq_some]
    omega
  · constructor
    · intro h
      cases h
    · intro h
      omega

theorem checkedMul_eq_some {a b c : BitVec w} :
    checkedMul a b = some c ↔ c.toNat = a.toNat * b.toNat := ofNat?_eq_some

theorem checkedDiv_eq_some {a b c : BitVec w} :
    checkedDiv a b = some c ↔ 0 < b.toNat ∧ c.toNat = a.toNat / b.toNat := by
  unfold checkedDiv
  split
  · next zero => simp [zero]
  · next nonzero =>
    rw [ofNat?_eq_some]
    exact ⟨fun h => ⟨Nat.pos_of_ne_zero nonzero, h⟩, fun h => h.2⟩

/-- A quotient never leaves the word, so only the zero divisor is refused. -/
theorem checkedDiv_isSome {a b : BitVec w} (nonzero : 0 < b.toNat) :
    ∃ c, checkedDiv a b = some c := by
  obtain ⟨c, h⟩ := ofNat?_isSome (w := w)
    (Nat.lt_of_le_of_lt (Nat.div_le_self a.toNat b.toNat) a.isLt)
  exact ⟨c, by simpa [checkedDiv, Nat.ne_of_gt nonzero] using h⟩

end CrossChainEscrow.Library.Words
