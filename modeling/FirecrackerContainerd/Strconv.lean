import Mathlib.Tactic.IntervalCases
import Mathlib.Data.Nat.Digits

/-!
# Decimal numerals

`strconv.Itoa` and the MetaStore's snapshot IDs print a number in decimal, which is
`Nat.repr` (`toString` on `Nat`) in the model. The shim names its drives `strconv.Itoa(i + 2)`
and the snapshotter names its devices after the IDs, so distinct numbers must give distinct
strings: `repr_injective`, proved by reading the digits back (`readDigits_toDigits`). Every
character of such a numeral is a decimal digit (`isNumeral_toString`).
-/

namespace FirecrackerContainerd

/-- Read decimal digit characters, most significant first, onto `acc`. -/
def readDigits (acc : Nat) (cs : List Char) : Nat :=
  cs.foldl (fun a c => 10 * a + (c.toNat - 48)) acc

theorem digitChar_toNat_sub {k : Nat} (hk : k < 10) : (Nat.digitChar k).toNat - 48 = k := by
  interval_cases k <;> rfl

/-- Reading the digits `toDigitsCore` puts in front of `ds` gives the number back. -/
theorem readDigits_toDigitsCore :
    ∀ {fuel n : Nat} (ds : List Char), n < fuel →
      readDigits 0 (Nat.toDigitsCore 10 fuel n ds) = readDigits n ds
  | 0, _, _, h => absurd h (Nat.not_lt_zero _)
  | fuel + 1, n, ds, h => by
    have hd := digitChar_toNat_sub (Nat.mod_lt n (by decide : 10 > 0))
    simp only [Nat.toDigitsCore]
    split
    · simp only [readDigits, List.foldl_cons, hd]
      congr 1
      omega
    · rw [readDigits_toDigitsCore _ (by omega)]
      simp only [readDigits, List.foldl_cons, hd]
      congr 1
      omega

theorem readDigits_toDigits (n : Nat) : readDigits 0 (Nat.toDigits 10 n) = n :=
  readDigits_toDigitsCore [] (Nat.lt_succ_self n)

/-- Distinct numbers have distinct decimal numerals. -/
theorem repr_injective : Function.Injective Nat.repr := by
  intro a b h
  have hd : Nat.toDigits 10 a = Nat.toDigits 10 b := congrArg String.data h
  rw [← readDigits_toDigits a, ← readDigits_toDigits b, hd]

@[simp] theorem toString_inj {a b : Nat} : toString a = toString b ↔ a = b :=
  repr_injective.eq_iff

/-- Every character of `s` is a decimal digit, as in the numerals `strconv` prints. -/
def IsNumeral (s : String) : Prop := ∀ c ∈ s.data, c.isDigit = true

instance : DecidablePred IsNumeral := fun s => inferInstanceAs (Decidable (∀ c ∈ s.data, _))

theorem isDigit_digitChar {k : Nat} (hk : k < 10) : (Nat.digitChar k).isDigit = true := by
  interval_cases k <;> rfl

/-- `toDigitsCore` puts only digits in front of `ds`. -/
theorem isDigit_of_mem_toDigitsCore :
    ∀ {fuel n : Nat} {ds : List Char}, (∀ c ∈ ds, c.isDigit = true) →
      ∀ c ∈ Nat.toDigitsCore 10 fuel n ds, c.isDigit = true
  | 0, _, _, h => h
  | fuel + 1, n, ds, h => by
    have hd : ∀ c ∈ Nat.digitChar (n % 10) :: ds, c.isDigit = true :=
      List.forall_mem_cons.2 ⟨isDigit_digitChar (Nat.mod_lt n (by decide)), h⟩
    simp only [Nat.toDigitsCore]
    split
    exacts [hd, isDigit_of_mem_toDigitsCore hd]

theorem isNumeral_toString (n : Nat) : IsNumeral (toString n) :=
  isDigit_of_mem_toDigitsCore fun _ h => absurd h (List.not_mem_nil _)

end FirecrackerContainerd
