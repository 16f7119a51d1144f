import LayeredConfig.Proofs.Conversion.Kinds
import Mathlib.Algebra.Order.Field.Power
import Mathlib.Data.Nat.Cast.Field
import Mathlib.Data.Rat.Floor
import Mathlib.Tactic.FieldSimp
import Mathlib.Tactic.Linarith
import Mathlib.Tactic.NormNum

/-!
# Exactness — integers from numbers

What a number is worth is a rational number, unless it is infinite or no number at all. A number that is
worth an integer converts to this integer, and a float that is not is refused. The places of a decimal
are cut off instead (`int_equals_number`).
-/

namespace LayeredConfig

/-! ## 1. Worth -/

/-- A rational number with the sign of a numeral. -/
def signed (negative : Bool) (q : ℚ) : ℚ :=
  if negative then -q else q

/-- The integer next to a rational number, toward zero. -/
def cut (q : ℚ) : ℤ :=
  if q < 0 then ⌈q⌉ else ⌊q⌋

/-- What a float is worth exactly. -/
def Binary64.worth? : Binary64 → Option ℚ
  | .finite negative m e => some (signed negative (m * 2 ^ e))
  | .infinite _ | .nan _ => none

/-- What a decimal is worth exactly. -/
def Decimal.worth? : Decimal → Option ℚ
  | .finite negative c e => some (signed negative (c * 10 ^ e))
  | .infinite _ | .nan .. => none

/-- The numbers: Booleans, integers, floats, decimals and the members of enumerations that derive from the
integers. -/
inductive Value.IsNumeral : Value → Prop where
  | bool (b : Bool) : IsNumeral (.bool b)
  | int (n : Int) : IsNumeral (.int n)
  | float (x : Binary64) : IsNumeral (.float x)
  | decimal (d : Decimal) : IsNumeral (.decimal d)
  | member {c : EnumClass} (hint : Kind.int ∈ c.bases) (name : String) (n : Int) :
    IsNumeral (.member c name (.int n))

/-- What a number is worth exactly. -/
def Value.worth? (v : Value) : Option ℚ :=
  match v.plain with
  | .bool b => some (if b then 1 else 0)
  | .int n => some n
  | .float x => x.worth?
  | .decimal d => d.worth?
  | _ => none

theorem Value.worth?_member {c : EnumClass} (hint : Kind.int ∈ c.bases) (name : String) (n : Int) :
    (Value.member c name (.int n)).worth? = some (n : ℚ) := by
  have hdata : c.holdsData = true := List.any_eq_true.2 ⟨.int, hint, rfl⟩
  simp only [worth?, plain, hdata, if_true]

theorem signed_natCast (negative : Bool) (n : ℕ) :
    signed negative n = ((if negative then -(n : ℤ) else n : ℤ) : ℚ) := by
  cases negative <;> simp [signed]

@[simp] theorem cut_intCast (n : ℤ) : cut n = n := by
  unfold cut
  split_ifs <;> simp

theorem cut_neg (q : ℚ) : cut (-q) = -cut q := by
  -- The sign decides between floor and ceiling, and it changes on one side.
  obtain hq | rfl | hq := lt_trichotomy q 0
  · rw [cut, cut, if_neg (by linarith), if_pos hq, Int.floor_neg]
  · simp [cut]
  · rw [cut, cut, if_pos (by linarith), if_neg (by linarith), Int.ceil_neg]

/-- Cutting a fraction is division of natural numbers. -/
theorem cut_signed_div (negative : Bool) (num den : ℕ) :
    cut (signed negative (num / den)) = if negative then -((num / den : ℕ) : ℤ) else (num / den : ℕ) := by
  have hcut : cut ((num : ℚ) / den) = (num / den : ℕ) := by
    have hfloor := Rat.floor_intCast_div_natCast num den
    rw [cut, if_neg (not_lt.2 (by positivity))]
    push_cast at hfloor ⊢
    exact hfloor
  cases negative with
  | false => exact hcut
  | true => exact (cut_neg _).trans (congrArg _ hcut)

/-- A fraction with a sign is an integer exactly if the denominator divides. -/
theorem signed_div_eq_intCast_iff {negative : Bool} {num den : ℕ} (hden : 0 < den) {n : ℤ} :
    signed negative (num / den) = n ↔
      num % den = 0 ∧ (if negative then -((num / den : ℕ) : ℤ) else (num / den : ℕ)) = n := by
  constructor
  · intro h
    -- Cutting both sides gives the quotient as an integer; since nothing was cut off, the denominator
    -- divides.
    have hcut := congrArg cut h
    rw [cut_signed_div, cut_intCast] at hcut
    have hworth : signed negative ((num / den : ℕ) : ℚ) = signed negative ((num : ℚ) / den) := by
      rw [signed_natCast, hcut, h]
    have hquotient : ((num / den : ℕ) : ℚ) = num / den := by
      cases negative with
      | false => exact hworth
      | true => exact neg_injective hworth
    have hmul : num / den * den = num := by
      rw [eq_div_iff (by positivity)] at hquotient
      exact_mod_cast hquotient
    exact ⟨Nat.mod_eq_zero_of_dvd (Dvd.intro_left _ hmul), hcut⟩
  · rintro ⟨hmod, rfl⟩
    rw [← signed_natCast, Nat.cast_div (Nat.dvd_of_mod_eq_zero hmod) (by positivity)]

/-! ## 2. Integers from floats and decimals -/

namespace Binary64

theorem pow2_snd_pos (e : Int) : 0 < (pow2 e).2 := by
  unfold pow2
  split
  · exact Nat.one_pos
  · exact Nat.pow_pos Nat.two_pos

theorem pow2_eq (e : Int) : ((pow2 e).1 : ℚ) / (pow2 e).2 = 2 ^ e := by
  obtain ⟨k, rfl | rfl⟩ := e.eq_nat_or_neg
  · simp [pow2]
  · obtain rfl | hk := k.eq_zero_or_pos
    · simp [pow2]
    · simp [pow2, hk.ne']

theorem ratio_eq (m : Nat) (e : Int) : ratio m e = (m * (pow2 e).1, (pow2 e).2) := rfl

/-- A float gives an integer exactly if it is worth this integer. -/
theorem toInt?_eq_some_iff {x : Binary64} {n : Int} : x.toInt? = some n ↔ x.worth? = some (n : ℚ) := by
  cases x with
  | nan written => simp [toInt?, worth?]
  | infinite negative => simp [toInt?, worth?]
  | finite negative m e =>
    have hworth : ((m * (pow2 e).1 : ℕ) : ℚ) / (pow2 e).2 = m * 2 ^ e := by
      rw [← pow2_eq, Nat.cast_mul, mul_div_assoc]
    rw [worth?, Option.some_inj, ← hworth, signed_div_eq_intCast_iff (pow2_snd_pos e), toInt?, ratio_eq]
    dsimp only
    split_ifs with h <;> simp [h]

end Binary64

namespace Conversion

/-- A coefficient with fewer digits than there are places has nothing before the point. -/
theorem div_pow_of_short {c places : Nat} (h : (Numeral.natChars c).length < places) :
    c / Nat.pow 10 places = 0 :=
  Nat.div_eq_of_lt ((Nat.length_toDigits_le_iff (by decide) (Nat.zero_lt_of_lt h)).1 (Nat.le_of_lt h))

/-- The integer from a finite decimal is what the decimal is worth, without its places. -/
theorem truncated_finite (negative : Bool) (c : Nat) (e : Int) :
    truncated (.finite negative c e) = .ok (cut (signed negative (c * 10 ^ e))) := by
  -- A fraction with denominator one, or with as many tens as there are places.
  obtain ⟨num, den, hworth, htruncated⟩ : ∃ num den : ℕ, (c * 10 ^ e : ℚ) = num / den ∧
      truncated (.finite negative c e) =
        .ok (if negative then -((num / den : ℕ) : ℤ) else (num / den : ℕ)) := by
    by_cases he : 0 ≤ e
    · lift e to ℕ using he
      exact ⟨c * 10 ^ e, 1, by simp, by simp [truncated]⟩
    · obtain ⟨k, rfl⟩ : ∃ k : ℕ, e = -k := ⟨(-e).toNat, by omega⟩
      refine ⟨c, 10 ^ k, by simp [div_eq_mul_inv], ?_⟩
      have hplaces : (-(-(k : ℤ))).toNat = k := by omega
      have hquotient : (if (Numeral.natChars c).length < k then 0 else c / Nat.pow 10 k) = c / 10 ^ k := by
        split_ifs with hshort
        · exact (div_pow_of_short hshort).symm
        · rfl
      rw [truncated, if_neg he, hplaces]
      dsimp only
      rw [hquotient]
  rw [htruncated, hworth, cut_signed_div]

end Conversion

/-! ## 3. Conversions to integers -/

namespace Registry

/-- Numbers that are no integers are handed to the function for integers. -/
theorem convert_int_eq_handed {v : Value} (hnull : v.isNull = false)
    (hfits : v.fits (.kind .int) = .ok false) :
    standard.convert v (.kind .int) =
      ((Conversion.toInt v).map .int).mapError fun f => refusalOf v (.kind .int) (.fault f) := by
  have hbuiltin : Conversion.builtin? (.kind .int) = some fun v => (Conversion.toInt v).map .int := rfl
  rw [convert_eq_handed rfl (by decide) hnull hfits, handed_of_builtin hbuiltin]

theorem convert_int_bool (b : Bool) :
    standard.convert (.bool b) (.kind .int) = .ok (.int (if b then 1 else 0)) :=
  convert_int_eq_handed rfl rfl

theorem convert_int_float (x : Binary64) :
    standard.convert (.float x) (.kind .int) =
      match x.toInt? with
      | some n => .ok (.int n)
      | none => .error (.conversion (.float x) (.kind .int) (.rejected (.fractionalPart x.text))) := by
  have hrun : Conversion.toInt (.float x) =
      match x.toInt? with
      | some n => .ok n
      | none => .error (.fractionalPart x.text) := by
    simp only [Conversion.toInt, Value.plain]
    cases x.toInt? <;> rfl
  rw [convert_int_eq_handed rfl rfl, hrun]
  cases x.toInt? <;> rfl

theorem convert_int_decimal_finite (negative : Bool) (c : Nat) (e : Int) :
    standard.convert (.decimal (.finite negative c e)) (.kind .int) =
      .ok (.int (cut (signed negative (c * 10 ^ e)))) := by
  have hrun : Conversion.toInt (.decimal (.finite negative c e)) =
      .ok (cut (signed negative (c * 10 ^ e))) := Conversion.truncated_finite negative c e
  rw [convert_int_eq_handed rfl rfl, hrun]
  rfl

theorem convert_int_decimal_of_worth {d : Decimal} {q : ℚ} (h : d.worth? = some q) :
    standard.convert (.decimal d) (.kind .int) = .ok (.int (cut q)) := by
  cases d with
  | finite negative c e =>
    cases h
    exact convert_int_decimal_finite negative c e
  | infinite negative => cases h
  | nan negative signaling payload => cases h

theorem convert_int_decimal_of_no_worth {d : Decimal} (h : d.worth? = none) :
    ∃ refusal, standard.convert (.decimal d) (.kind .int) =
      .error (.conversion (.decimal d) (.kind .int) refusal) := by
  cases d with
  | finite negative c e => cases h
  | infinite negative => exact ⟨_, convert_int_eq_handed rfl rfl⟩
  | nan negative signaling payload => exact ⟨_, convert_int_eq_handed rfl rfl⟩

/-- A number that is worth an integer converts to an integer of the same worth. Any other number is
refused, infinities and NaNs included, unless it is a decimal with places: these are cut off. -/
theorem int_equals_number {v : Value} (hv : v.IsNumeral) :
    (∀ n : ℤ, v.worth? = some (n : ℚ) → ∃ w, standard.convert v (.kind .int) = .ok w ∧
      w.isA .int = true ∧ w.isBool = false ∧ w.worth? = some (n : ℚ)) ∧
    ((∀ n : ℤ, v.worth? ≠ some (n : ℚ)) → (∀ d q, v = .decimal d → d.worth? ≠ some q) →
      ∃ refusal, standard.convert v (.kind .int) = .error (.conversion v (.kind .int) refusal)) ∧
    ∀ d q, v = .decimal d → d.worth? = some q →
      standard.convert v (.kind .int) = .ok (.int (cut q)) := by
  refine ⟨fun n hworth => ?whole, fun hfraction hdecimal => ?refused, ?places⟩
  case whole =>
    cases hv with
    | bool b =>
      refine ⟨_, convert_int_bool b, rfl, rfl, ?_⟩
      rw [← hworth]
      cases b <;> simp [Value.worth?, Value.plain]
    | int n => exact ⟨_, convert_of_fits rfl, rfl, rfl, hworth⟩
    | float x =>
      have hint : x.toInt? = some _ := Binary64.toInt?_eq_some_iff.2 hworth
      rw [convert_int_float, hint]
      exact ⟨_, rfl, rfl, rfl, rfl⟩
    | decimal d =>
      refine ⟨_, convert_int_decimal_of_worth hworth, rfl, rfl, ?_⟩
      rw [cut_intCast]
      rfl
    | @member c hint name n =>
      have hmember : (Value.member c name (.int n)).isA .int = true := by
        simp [Value.isA, Value.kinds, EnumClass.ancestors, hint]
      exact ⟨_, convert_of_fits (congrArg Except.ok hmember), hmember, rfl, hworth⟩
  case refused =>
    cases hv with
    | bool b => exact absurd (by cases b <;> simp [Value.worth?, Value.plain]) (hfraction (if b then 1 else 0))
    | int n => exact absurd rfl (hfraction n)
    | float x =>
      have hint : x.toInt? = none :=
        Option.eq_none_iff_forall_ne_some.2 fun n hn => hfraction n (Binary64.toInt?_eq_some_iff.1 hn)
      rw [convert_int_float, hint]
      exact ⟨_, rfl⟩
    | decimal d =>
      exact convert_int_decimal_of_no_worth
        (Option.eq_none_iff_forall_ne_some.2 fun q => hdecimal d q rfl)
    | member hint name n => exact absurd (Value.worth?_member hint name n) (hfraction n)
  case places =>
    rintro d q rfl hworth
    exact convert_int_decimal_of_worth hworth

theorem int_equals_number_halves :
    (∃ w, standard.convert (.float (.finite false 4 (-1))) (.kind .int) = .ok w ∧
      w.isA .int = true ∧ w.isBool = false ∧ w.worth? = some ((2 : ℤ) : ℚ)) ∧
    ∃ refusal, standard.convert (.float (.infinite true)) (.kind .int) =
      .error (.conversion (.float (.infinite true)) (.kind .int) refusal) :=
  ⟨(int_equals_number (.float (.finite false 4 (-1)))).1 2
      (by norm_num [Value.worth?, Value.plain, Binary64.worth?, signed]),
    (int_equals_number (.float (.infinite true))).2.1 (fun _ => nofun) (fun _ _ => nofun)⟩

/-- The decimal one and a half converts to one. -/
theorem int_differs_from_decimal :
    ¬∀ w, standard.convert (.decimal (.finite false 15 (-1))) (.kind .int) = .ok w →
      w.worth? = (Value.decimal (.finite false 15 (-1))).worth? := by
  intro hworth
  have hone : standard.convert (.decimal (.finite false 15 (-1))) (.kind .int) = .ok (.int 1) := rfl
  have hequal := hworth _ hone
  norm_num [Value.worth?, Value.plain, Decimal.worth?, signed] at hequal

end Registry

end LayeredConfig
