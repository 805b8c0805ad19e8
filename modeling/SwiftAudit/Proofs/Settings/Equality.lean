import SwiftAudit.Proofs.Number.Order
import SwiftAudit.Proofs.Number.Range
import SwiftAudit.Proofs.Settings.Member

namespace SwiftAudit

-- A member of a set that counts as a number.
inductive Numeral where
  | int (n : Int)
  | float (d : Double)

-- Numbers are compared by value. An integer is not rounded to a double for it, and a NaN does
-- not equal itself.
def Numeral.equals : Numeral → Numeral → Bool
  | int m, int n => m = n
  | int n, float d => d.toInt? = some n
  | float d, int n => d.toInt? = some n
  | float d, float e => d.le e && e.le d

namespace Scalar

def numeral? : Scalar → Option Numeral
  | bool b => some (.int (if b then 1 else 0))
  | int n => some (.int n)
  | float d => some (.float d)
  | _ => none

-- Values of different kinds are equal only as numbers, and booleans are the numbers 0 and 1.
def equals : Scalar → Scalar → Bool
  | null, null => true
  | text s, text t => s = t
  | a, b =>
    match a.numeral?, b.numeral? with
    | some m, some n => m.equals n
    | _, _ => false

end Scalar

namespace Double

theorem toInt?_eq_some_iff (d : Double) (n : Int) :
    d.toInt? = some n ↔ d.toRat? = some (n : Rat) := by
  constructor
  · exact toRat?_of_toInt?
  · intro h
    unfold toInt?
    rw [h]
    simp

theorem key_finite (negative : Bool) (mantissa : Nat) (exponent : Int) :
    ∃ q, (finite negative mantissa exponent).toRat? = some q ∧
      (Scalar.float (finite negative mantissa exponent)).key = .number q :=
  ⟨_, rfl, rfl⟩

-- What is not above and not below a double has its key, and is no NaN.
theorem le_and_le_iff (d e : Double) :
    (d.le e ∧ e.le d) ↔
      (Scalar.float d).key = (Scalar.float e).key ∧ (Scalar.float d).key ≠ .nan := by
  cases d with
  | nan => simp [le, Scalar.key]
  | infinity negative =>
      cases e with
      | nan => cases negative <;> simp [le, Scalar.key]
      | infinity other => cases negative <;> cases other <;> simp [le, Scalar.key]
      | finite => cases negative <;> simp [le, Scalar.key]
  | finite negative mantissa exponent =>
      obtain ⟨p, hp, hkey⟩ := key_finite negative mantissa exponent
      rw [hkey]
      cases e with
      | nan => simp [le, Scalar.key]
      | infinity other => cases other <;> simp [le, Scalar.key]
      | finite other m x =>
          obtain ⟨q, hq, hother⟩ := key_finite other m x
          rw [hother, le_finite_iff hp hq, le_finite_iff hq hp, ← le_antisymm_iff]
          simp

end Double

namespace Numeral

def key : Numeral → MemberKey
  | int n => .number n
  | float d => (Scalar.float d).key

theorem toInt?_eq_some_iff_key (d : Double) (n : Int) :
    d.toInt? = some n ↔ (float d).key = .number n := by
  rw [Double.toInt?_eq_some_iff]
  cases d with
  | finite negative mantissa exponent =>
      obtain ⟨q, hq, hkey⟩ := Double.key_finite negative mantissa exponent
      rw [hq, key, hkey]
      simp
  | _ => simp [key, Scalar.key, Double.toRat?]

theorem equals_iff (m n : Numeral) : m.equals n ↔ m.key = n.key ∧ m.key ≠ .nan := by
  cases m with
  | int m =>
      cases n with
      | int n => simp [equals, key]
      | float d =>
          simp only [equals, decide_eq_true_eq, toInt?_eq_some_iff_key]
          constructor
          · intro h
            exact ⟨h.symm, nofun⟩
          · intro h
            exact h.1.symm
  | float d =>
      cases n with
      | int n =>
          simp only [equals, decide_eq_true_eq, toInt?_eq_some_iff_key]
          constructor
          · intro h
            refine ⟨h, ?_⟩
            rw [h]
            nofun
          · exact And.left
      | float e =>
          rw [equals, Bool.and_eq_true]
          exact Double.le_and_le_iff d e

end Numeral

namespace Scalar

theorem key_of_numeral? {a : Scalar} {m : Numeral} (h : a.numeral? = some m) :
    a.key = m.key := by
  cases a with
  | bool b => cases h; cases b <;> rfl
  | int n => cases h; rfl
  | float d => cases h; rfl
  | _ => cases h

theorem equals_of_numeral? {a b : Scalar} {m n : Numeral} (ha : a.numeral? = some m)
    (hb : b.numeral? = some n) : a.equals b = m.equals n := by
  cases a <;> cases b <;> simp_all [numeral?, equals]

theorem numeral?_eq_none_iff (a : Scalar) :
    a.numeral? = none ↔ a.key = .null ∨ ∃ s, a.key = .text s := by
  cases a with
  | float d => cases d <;> simp [numeral?, key]
  | _ => simp [numeral?, key]

theorem not_equals_of_numeral?_ne {a b : Scalar}
    (h : ¬(a.numeral? = none ↔ b.numeral? = none)) : ¬a.equals b ∧ a.key ≠ b.key := by
  constructor
  · cases a <;> cases b <;> simp_all [numeral?, equals]
  · intro hkey
    rw [numeral?_eq_none_iff, numeral?_eq_none_iff, hkey] at h
    exact h Iff.rfl

-- Values are equal if they have one key, so that equality is transitive. A NaN has a key too,
-- but equals nothing.
theorem equals_iff (a b : Scalar) : a.equals b ↔ a.key = b.key ∧ a.key ≠ .nan := by
  by_cases h : a.numeral? = none ↔ b.numeral? = none
  · cases hm : a.numeral? with
    | some m =>
        obtain ⟨n, hn⟩ : ∃ n, b.numeral? = some n := by
          rw [hm] at h
          exact Option.ne_none_iff_exists'.mp (by simpa using h)
        rw [equals_of_numeral? hm hn, key_of_numeral? hm, key_of_numeral? hn]
        exact Numeral.equals_iff m n
    | none =>
        have hn := h.mp hm
        cases a <;> cases hm <;> cases b <;> cases hn <;> simp [equals, numeral?, key]
  · obtain ⟨hfalse, hkey⟩ := not_equals_of_numeral?_ne h
    simp [hfalse, hkey]

end Scalar

end SwiftAudit
